import Battleship.Activity
import Battleship.Routine
import Battleship.ServerRuns

/-! The statuses of those who take part in active matches. They are written by
logins, challenges and match ends without a look at the active matches; each
step is one of the changes of `Activity`. -/

namespace Battleship

open Decimal (Text)

def MatchState.seats (game : MatchState) : UserId × UserId := (game.player1Id, game.player2Id)

namespace Server

def activity (server : Server) : Activity where
  status := fun userId => server.players[userId]?.map PlayerData.status
  seats := fun matchId => (server.getMatch matchId).map MatchState.seats

section Changes

variable (lib : Externals) (env : Env)

def acceptedChallenge (responderId : UserId) (response : ChallengeResponse) (server : Server) :
    Option PendingChallenge :=
  match (server.manager.takeChallenge responderId response.challengeId).2 with
  | .challenge challenge =>
      if response.accepted ∧
          (server.db.createMatch env.now challenge.challengerId challenge.targetId).2 > 0 then
        some challenge
      else none
  | _ => none

def completedRow (token : Text) (matchId : MatchId) (ships : Vector Ship numShips)
    (server : Server) : Option Match :=
  (server.db.getMatchById matchId).filter fun row =>
    let ready := insert (server.sessionUser env token) (server.games.readySet matchId)
    server.sessionUser env token ≠ 0 ∧ validateShipPlacement ships ∧ row.player1Id ∈ ready ∧
      row.player2Id ∈ ready

def winsMatch (token : Text) (matchId : MatchId) (target : Coordinate) (server : Server) : Bool :=
  (server.getMatch matchId).any fun game =>
    let userId := server.sessionUser env token
    userId ≠ 0 ∧ game.currentTurnPlayerId = userId ∧
      ((game.processMove env.now userId target).1.targetBoard userId).allShipsSunk

def requestActivity (client : ClientConnection) (token : Text) (request : Request)
    (server : Server) : ActivityChange :=
  match request with
  | .login username password => (server.loginUser lib env username password).elim .none .appear
  | .validateSession sessionToken => (server.validatedUser env sessionToken).elim .none .appear
  | .logout sessionToken =>
      if server.logoutUser env client sessionToken > 0 then
        .conclude [] (some (server.logoutUser env client sessionToken))
      else .none
  | .challengeResponse challengeId accepted =>
      if client.authenticated then
        (server.acceptedChallenge env client.userId ⟨challengeId, accepted⟩).elim .none
          fun challenge => .engage challenge.challengerId challenge.targetId
      else .none
  | .shipPlacement matchId ships =>
      (server.completedRow env token matchId ships).elim .none
        fun row => .activate matchId row.player1Id row.player2Id
  | .move matchId target =>
      if server.winsMatch env token matchId target then .conclude [matchId] none else .none
  | .resign matchId =>
      if server.sessionUser env token = 0 then .none else .conclude [matchId] none
  | .drawResponse matchId accepted =>
      if server.sessionUser env token ≠ 0 ∧ accepted then .conclude [matchId] none else .none
  | _ => .none

def removedActivity (fd : Fd) (server : Server) : ActivityChange :=
  match server.net.clients[fd]?.bind fun conn => server.net.connections[conn]? with
  | none => .none
  | some client =>
      if client.authenticated then
        .conclude (server.games.activeMatches.keysWhere fun game =>
          decide (game.player1Id = client.userId ∨ game.player2Id = client.userId))
          (some client.userId)
      else .none

def activityChange (server : Server) (event : Event) : ActivityChange :=
  match event.action with
  | .message conn token request =>
      match server.net.connections[conn]? with
      | none => .none
      | some client =>
          if client.serving ∧ client.socketFd.isSome then
            server.requestActivity lib event.env client token request
          else .none
  | .removeClient conn =>
      match server.net.connections[conn]? with
      | none => .none
      | some client =>
          if client.serving ∧ client.socketFd.isNone then server.removedActivity client.threadFd
          else .none
  | .checkTurnTimeouts =>
      .conclude (server.games.activeMatches.keysWhere fun game =>
        game.isTurnTimedOut event.env.now) none
  | .restart => .restart
  | .accept _ => .none
  | .receiveFailed _ => .none

end Changes

section Matches

variable (lib : Externals) (env : Env) {server : Server} {matchId : MatchId}

theorem activity_of_same {server later : Server} (players : later.players = server.players)
    (active : later.games.activeMatches = server.games.activeMatches) :
    later.activity = server.activity := by
  simp only [activity, getMatch, players, active]

theorem updatePlayerStatus_activity (userId : UserId) (status : PlayerStatus) (server : Server) :
    (server.updatePlayerStatus env userId status).activity =
      server.activity.setStatus userId status := by
  apply Activity.ext
  · have changed := Table.read_modify server.players (Option.map PlayerData.status) userId
      fun data => { data with status := status }
    refine changed.trans (congrArg (Function.update server.activity.status userId) ?_)
    simp only [activity, Option.map_map]
    rfl
  · rfl

theorem removeMatch_activity (server : Server) (matchId : MatchId) :
    (server.removeMatch matchId).activity = server.activity.clear matchId := by
  apply Activity.ext
  · rfl
  · exact Table.read_erase server.games.activeMatches (Option.map MatchState.seats) matchId

theorem finishMatch_activity {game : MatchState}
    (seats : server.activity.seats matchId = some game.seats) (winnerId : UserId)
    (reason : MatchEndReason) (reasonText : String) :
    (server.finishMatch lib env matchId game winnerId reason reasonText).activity =
      server.activity.change (.conclude [matchId] none) := by
  let announced := (server.sendMatchEnd lib env matchId game.player1Id game.player2Id winnerId reason
    reasonText game.moveHistory.length (secondsSince env.now game.startTime)).endMatch env matchId
    winnerId
  have same : announced.activity = server.activity := activity_of_same rfl rfl
  rw [Activity.conclude_single seats, ← same, ← updatePlayerStatus_activity env,
    ← updatePlayerStatus_activity env, ← removeMatch_activity]
  rfl

theorem seats_eq {game : MatchState} (found : server.getMatch matchId = some game) :
    server.activity.seats matchId = some game.seats := by
  simp [activity, found]

theorem timeOutMatch_activity (server : Server) (matchId : MatchId) :
    (server.timeOutMatch lib env matchId).activity =
      server.activity.change (.conclude [matchId] none) := by
  unfold timeOutMatch
  split
  next absent => exact (Activity.conclude_absent (by simp [activity, absent])).symm
  next found => exact finishMatch_activity lib env (seats_eq found) ..

theorem abandonMatch_activity {userId : UserId} (seated : ∀ seats,
    server.activity.seats matchId = some seats →
      (seats.1 = userId ∨ seats.2 = userId) ∧ seats.1 ≠ seats.2) :
    Activity.AgreesBut userId (server.abandonMatch lib env userId matchId).activity
      (server.activity.change (.conclude [matchId] none)) := by
  cases was : server.getMatch matchId with
  | none =>
      rw [abandonMatch_of_none lib env userId server was,
        Activity.conclude_absent (by simp [activity, was])]
      exact ⟨fun _ _ => rfl, rfl⟩
  | some game =>
      obtain ⟨seat, distinct⟩ := seated game.seats (seats_eq was)
      obtain ⟨duration, shape⟩ := abandonMatch_of_some lib env userId server was
      let announced := (server.endMatch env matchId (game.opponent userId)).sendMatchEnd lib env
        matchId game.player1Id game.player2Id (game.opponent userId) .disconnect
        "Opponent disconnected" game.turnNumber duration
      have same : announced.activity = server.activity := activity_of_same rfl rfl
      rw [shape, updatePlayerStatus_activity, removeMatch_activity, same,
        Activity.conclude_single (seats_eq was)]
      refine ⟨?_, rfl⟩
      intro other stays
      simp only [MatchState.seats] at seat distinct
      simp only [Activity.clear, Activity.setStatus, MatchState.opponent]
      rcases seat with rfl | rfl
      · simp [Function.update_apply, stays, Ne.symm distinct]
      · simp [Function.update_apply, stays, Ne.symm distinct]

theorem handlePlayerDisconnect_activity (good : server.WellFormed) (userId : UserId) :
    Activity.AgreesBut userId (server.handlePlayerDisconnect lib env userId).activity
      (server.activity.change (.conclude (server.games.activeMatches.keysWhere fun game =>
        decide (game.player1Id = userId ∨ game.player2Id = userId)) none)) := by
  have seated : ∀ matchId ∈ server.games.activeMatches.keysWhere (fun game =>
      decide (game.player1Id = userId ∨ game.player2Id = userId)), ∀ seats,
      server.activity.seats matchId = some seats →
        (seats.1 = userId ∨ seats.2 = userId) ∧ seats.1 ≠ seats.2 := by
    intro matchId member seats found
    obtain ⟨game, known, plays⟩ := Table.mem_keysWhere.mp member
    obtain rfl := Option.some.inj ((seats_eq known).symm.trans found)
    obtain ⟨row, stored, player1, player2⟩ := (good.games.active matchId game known).row
    refine ⟨by simpa [MatchState.seats] using plays, ?_⟩
    rw [MatchState.seats, player1, player2]
    exact (good.db.players matchId row stored).1
  unfold handlePlayerDisconnect
  generalize server.games.activeMatches.keysWhere (fun game =>
    decide (game.player1Id = userId ∨ game.player2Id = userId)) = left at seated ⊢
  induction left using List.reverseRecOn with
  | nil =>
      rw [Activity.conclude_nil]
      exact ⟨fun _ _ => rfl, rfl⟩
  | append_singleton before matchId ih =>
      have agrees := ih fun other member => seated other (List.mem_append_left _ member)
      rw [List.foldl_append, List.foldl_cons, List.foldl_nil, ← Activity.conclude_concat]
      refine (abandonMatch_activity lib env ?_).trans (agrees.concluded [matchId])
      intro seats found
      rw [agrees.seats] at found
      simp only [Activity.change] at found
      split_ifs at found
      exact seated matchId (by simp) seats found

theorem removePlayer_activity (userId : UserId) (server : Server) :
    (server.removePlayer env userId).activity =
      server.activity.change (.conclude [] (some userId)) := by
  apply Activity.ext
  · funext other
    have nobody : ¬server.activity.Freed [] other := by simp [Activity.Freed]
    rw [Activity.status_conclude, if_neg nobody]
    simp only [activity, removePlayer, broadcastIf, Table.lookup_erase]
    by_cases same : userId = other <;> simp [same]
  · simp [Activity.change, activity, getMatch, removePlayer, broadcastIf]

theorem removeClient_activity (good : server.WellFormed) (fd : Fd) :
    (server.removeClient lib env fd).activity =
      server.activity.change (server.removedActivity fd) := by
  unfold removeClient removedActivity
  split
  case h_1 missing => simp only [missing, Option.bind_none, Activity.change]
  case h_2 conn found =>
      simp only [found, Option.bind_some]
      cases known : server.net.connections[conn]? with
      | none => rfl
      | some client =>
          dsimp only
          split
          · let erased : Server := { server with
              net := { server.net with clients := server.net.clients.erase fd } }
            have fine : erased.WellFormed := ⟨good.db, good.games, good.challenges⟩
            have ended := handlePlayerDisconnect_activity lib env fine client.userId
            have removed := removePlayer_activity env client.userId
              (erased.handlePlayerDisconnect lib env client.userId)
            rw [ended.left, Activity.conclude_gone] at removed
            exact removed
          · rfl

theorem checkTurnTimeouts_activity (server : Server) :
    (server.checkTurnTimeouts lib env).activity =
      server.activity.change (.conclude (server.games.activeMatches.keysWhere fun game =>
        game.isTurnTimedOut env.now) none) := by
  unfold checkTurnTimeouts
  generalize (server.games.activeMatches.keysWhere fun game => game.isTurnTimedOut env.now) = late
  induction late using List.reverseRecOn with
  | nil => exact server.activity.conclude_nil.symm
  | append_singleton before matchId ih =>
      rw [List.foldl_append, List.foldl_cons, List.foldl_nil, timeOutMatch_activity, ih,
        Activity.conclude_concat]

end Matches

section Requests

variable (lib : Externals) (env : Env) {server : Server}

theorem Presents.activity {conn : ConnId} {userId : UserId} {later : Server}
    (presents : Presents env conn userId server later) (games : later.games = server.games) :
    later.activity = server.activity.change (.appear userId) := by
  obtain ⟨db, token, data, -, -, available, players, -⟩ := presents
  apply Activity.ext
  · simp only [Server.activity, players, Activity.change, ← available]
    exact Table.read_insert server.players (Option.map PlayerData.status) userId data
  · simp only [Server.activity, getMatch, games, Activity.change]

theorem handleLogin_activity (conn : ConnId) (username password : Text) (server : Server) :
    (server.handleLogin lib env conn username password).activity = server.activity.change
      ((server.loginUser lib env username password).elim .none .appear) := by
  have games := (handleLogin_aside lib env server conn username password).games
  cases login : server.loginUser lib env username password with
  | some userId => exact (handleLogin_presents lib env conn server login).activity env games
  | none =>
      refine activity_of_same ?_ (congrArg Games.activeMatches games)
      unfold loginUser at login
      unfold handleLogin
      split
      · rfl
      next userId user known =>
        simp only [known] at login
        split
        · rfl
        next verified =>
          have failed : ¬(server.db.createSession env.now userId (generateSessionToken env userId)
              24).2 > 0 := by
            intro created
            simp [created] at login
            simp [login] at verified
          dsimp only
          rw [if_neg failed]
          rfl

theorem handleValidateSession_activity (conn : ConnId) (token : Text) (server : Server) :
    (server.handleValidateSession env conn token).activity = server.activity.change
      ((server.validatedUser env token).elim .none .appear) := by
  have games := (handleValidateSession_aside env server conn token).games
  cases validated : server.validatedUser env token with
  | some userId =>
      exact (handleValidateSession_presents env conn server validated).activity env games
  | none =>
      refine activity_of_same ?_ (congrArg Games.activeMatches games)
      unfold validatedUser at validated
      unfold handleValidateSession
      dsimp only at validated ⊢
      split
      · rfl
      next present =>
        rw [if_neg present, Option.map_eq_none_iff] at validated
        simp only [validated]
        rfl

theorem handleLogout_activity (conn : ConnId) (client : ClientConnection) (token : Text)
    (server : Server) :
    (server.handleLogout env conn client token).activity =
      server.activity.change (server.requestActivity lib env client token (.logout token)) := by
  have chosen : server.logoutUser env client token =
      if (server.db.validateSession env.now token).2 = 0 then client.userId
      else (server.db.validateSession env.now token).2 := rfl
  unfold handleLogout requestActivity
  dsimp only
  rw [← chosen]
  split
  · exact removePlayer_activity env (server.logoutUser env client token) server
  · rfl

theorem announceMatch_activity (challenge : PendingChallenge) (matchId : MatchId) (server : Server) :
    (server.announceMatch env challenge matchId).activity =
      server.activity.change (.engage challenge.challengerId challenge.targetId) := by
  rw [Activity.change, ← updatePlayerStatus_activity env]
  exact updatePlayerStatus_activity env ..

theorem handleChallengeResponse_activity (client : ClientConnection) (token : Text)
    (challengeId : ChallengeId) (accepted : Bool) (server : Server) :
    (server.handleChallengeResponse env client ⟨challengeId, accepted⟩).activity =
      server.activity.change
        (server.requestActivity lib env client token (.challengeResponse challengeId accepted)) := by
  simp only [handleChallengeResponse, requestActivity]
  split
  case isFalse => rfl
  case isTrue =>
      unfold respondToChallenge acceptedChallenge
      dsimp only
      split
      case h_1 wrong => simp only [wrong, Option.elim_none]; rfl
      case h_2 unknown => simp only [unknown, Option.elim_none]; rfl
      case h_3 challenge taken =>
          simp only [taken]
          unfold acceptChallenge
          dsimp only
          by_cases agreed : accepted = true
          · by_cases created : (server.db.createMatch env.now challenge.challengerId
                challenge.targetId).2 > 0
            · rw [if_pos agreed, if_pos created, if_pos ⟨agreed, created⟩]
              exact announceMatch_activity env challenge _ _
            · rw [if_pos agreed, if_neg created, if_neg (mt And.right created)]
              rfl
          · rw [if_neg agreed, if_neg (mt And.left agreed)]
            rfl

theorem activateMatch_activity (matchId : MatchId) (player1Id player2Id : UserId) (server : Server) :
    (server.activateMatch env matchId player1Id player2Id).activity =
      server.activity.change (.activate matchId player1Id player2Id) := by
  apply Activity.ext
  · rw [activateMatch_eq]
    rfl
  · funext other
    simp only [activity, activateMatch_getMatch, Activity.change, Function.update_apply]
    by_cases same : other = matchId
    · simp [same]
      rfl
    · simp [same, Ne.symm same]

theorem completedRow_iff {token : Text} {matchId : MatchId} {ships : Vector Ship numShips}
    {row : Match} : server.completedRow env token matchId ships = some row ↔
      server.db.matchRows[matchId]? = some row ∧ server.sessionUser env token ≠ 0 ∧
        validateShipPlacement ships = true ∧
        row.player1Id ∈ insert (server.sessionUser env token) (server.games.readySet matchId) ∧
        row.player2Id ∈ insert (server.sessionUser env token) (server.games.readySet matchId) := by
  simp only [completedRow, Database.getMatchById, Option.filter_eq_some_iff, decide_eq_true_eq]

theorem handleShipPlacement_players (token : Text) (matchId : MatchId)
    (ships : Vector Ship numShips) (clientFd : Option Fd) (server : Server) :
    (server.handleShipPlacement env token matchId ships clientFd).players = server.players := by
  unfold handleShipPlacement
  dsimp only
  split
  · rfl
  split
  · rfl
  split
  · rfl
  simp only [placementReady]
  split
  · rfl
  split
  · rw [activateMatch_eq]
    rfl
  · rfl

theorem handleShipPlacement_activity (good : server.WellFormed) (token : Text) (matchId : MatchId)
    (ships : Vector Ship numShips) (clientFd : Option Fd) :
    (server.handleShipPlacement env token matchId ships clientFd).activity =
      server.activity.change ((server.completedRow env token matchId ships).elim .none
        fun row => .activate matchId row.player1Id row.player2Id) := by
  have rows : (server.placementSaved env token matchId ships clientFd).db.matchRows =
      server.db.matchRows :=
    (Database.saveShipPlacement_matchRows ..).trans (Database.validateSession_matchRows ..)
  have marked : ((server.placementSaved env token matchId ships clientFd).markReady matchId
      (server.sessionUser env token)).activity = server.activity := activity_of_same rfl rfl
  cases complete : server.completedRow env token matchId ships with
  | some row =>
      obtain ⟨found, valid, fleet, ready1, ready2⟩ := (completedRow_iff env).mp complete
      have stored : (server.placementSaved env token matchId ships clientFd).db.matchRows[matchId]? =
          some row := by rw [rows, found]
      rw [handleShipPlacement_accepted env good clientFd
          ⟨valid, fleet, Option.isSome_of_eq_some found⟩,
        placementReady_complete env _ matchId _ stored ready1 ready2, activateMatch_activity, marked]
      rfl
  | none =>
      by_cases accepted : server.AcceptsPlacement env token matchId ships
      · rw [handleShipPlacement_accepted env good clientFd accepted, placementReady_waiting]
        · exact marked
        · rw [placementSaved_completes]
          rintro ⟨row, found, ready1, ready2⟩
          rw [(completedRow_iff env).mpr ⟨found, accepted.1, accepted.2.1, ready1, ready2⟩] at complete
          cases complete
      · exact activity_of_same (handleShipPlacement_players env token matchId ships clientFd server)
          (congrArg Games.activeMatches (handleShipPlacement_refused env clientFd accepted).games)

theorem movePlayed_activity {matchId : MatchId} {game : MatchState}
    (found : server.getMatch matchId = some game) (userId : UserId) (target : Coordinate) :
    (server.movePlayed env matchId game userId target).activity = server.activity := by
  obtain ⟨player1, player2⟩ := game.receive_players ⟨env.now, userId, target⟩
  have seats : (game.processMove env.now userId target).1.seats = game.seats :=
    Prod.ext player1 player2
  apply Activity.ext
  · rfl
  · funext other
    simp only [activity, movePlayed_getMatch]
    by_cases same : matchId = other
    · rw [if_pos same, ← same, found, Option.map_some, Option.map_some, seats]
    · rw [if_neg same]

theorem handleMove_activity (token : Text) (matchId : MatchId) (target : Coordinate)
    (server : Server) : (server.handleMove lib env token matchId target).activity =
      server.activity.change
        (if server.winsMatch env token matchId target then .conclude [matchId] none else .none) := by
  have checked : (server.validateSession env token).1.activity = server.activity := rfl
  have user : (server.validateSession env token).2 = server.sessionUser env token := rfl
  unfold handleMove winsMatch
  dsimp only
  rw [user]
  split
  next absent => simp [absent, checked, Activity.change]
  next present =>
    have lookup : (server.validateSession env token).1.getMatch matchId =
      server.getMatch matchId := rfl
    rw [lookup]
    cases found : server.getMatch matchId with
    | none => simp [checked, Activity.change]
    | some game =>
        dsimp only
        split
        next turn => simp [turn, checked, Activity.change]
        next turn =>
          rw [ne_eq, not_not] at turn
          have lookup : (server.validateSession env token).1.getMatch matchId = some game := found
          have moved := movePlayed_activity env lookup
            (server.sessionUser env token) target
          rw [checked] at moved
          rw [playMove_eq]
          split
          next sunk =>
            obtain ⟨player1, player2⟩ := game.receive_players
              ⟨env.now, server.sessionUser env token, target⟩
            have seats : (game.processMove env.now (server.sessionUser env token) target).1.seats =
              game.seats := Prod.ext player1 player2
            rw [finishMatch_activity lib env, moved]
            · simp [turn, present, sunk]
            · rw [moved, seats]
              exact seats_eq found
          next afloat =>
            have told (server : Server) (currentPlayerId : UserId) (turnNumber : Int) :
                (server.sendTurnUpdate env matchId currentPlayerId turnNumber).activity =
                  server.activity := rfl
            rw [told, moved]
            simp [turn, present, afloat, Activity.change]

theorem handleResign_activity (token : Text) (matchId : MatchId) (server : Server) :
    (server.handleResign lib env token matchId).activity = server.activity.change
      (if server.sessionUser env token = 0 then .none else .conclude [matchId] none) := by
  have checked : (server.validateSession env token).1.activity = server.activity := rfl
  have user : (server.validateSession env token).2 = server.sessionUser env token := rfl
  unfold handleResign
  dsimp only
  rw [user]
  split
  next absent => exact checked
  next present =>
    split
    next missing => exact (Activity.conclude_absent (congrArg (Option.map _) missing)).symm
    next found => exact finishMatch_activity lib env (seats_eq found) ..

theorem handleDrawResponse_activity (token : Text) (matchId : MatchId) (accepted : Bool)
    (server : Server) : (server.handleDrawResponse lib env token matchId accepted).activity =
      server.activity.change (if server.sessionUser env token ≠ 0 ∧ accepted then
        .conclude [matchId] none else .none) := by
  have checked : (server.validateSession env token).1.activity = server.activity := rfl
  have user : (server.validateSession env token).2 = server.sessionUser env token := rfl
  unfold handleDrawResponse
  dsimp only
  rw [user]
  by_cases absent : server.sessionUser env token = 0
  · rw [if_pos absent, if_neg fun both => both.1 absent]
    exact checked
  rw [if_neg absent]
  cases accepted with
  | false =>
      rw [if_neg (by simp)]
      split <;> rfl
  | true =>
      rw [if_pos ⟨absent, rfl⟩]
      split
      next missing => exact (Activity.conclude_absent (congrArg (Option.map _) missing)).symm
      next found => exact finishMatch_activity lib env (seats_eq found) ..

theorem routeMessage_activity (good : server.WellFormed) (conn : ConnId) (client : ClientConnection)
    (token : Text) (request : Request) :
    (server.routeMessage lib env conn client token request).activity =
      server.activity.change (server.requestActivity lib env client token request) := by
  cases request with
  | login username password => exact handleLogin_activity lib env conn username password server
  | validateSession sessionToken => exact handleValidateSession_activity env conn sessionToken server
  | logout sessionToken => exact handleLogout_activity lib env conn client sessionToken server
  | challengeResponse challengeId accepted =>
      exact handleChallengeResponse_activity lib env client token challengeId accepted server
  | shipPlacement matchId ships => exact handleShipPlacement_activity env good token matchId ships _
  | move matchId target => exact handleMove_activity lib env token matchId target server
  | resign matchId => exact handleResign_activity lib env token matchId server
  | drawResponse matchId accepted =>
      exact handleDrawResponse_activity lib env token matchId accepted server
  | register username password displayName =>
      simp only [routeMessage, handleRegister]
      split
      · rfl
      split <;> rfl
  | challengeSend targetUserId timeLimit randomPlacement =>
      simp only [routeMessage, handleChallengeSend, sendChallenge]
      split
      · split <;> rfl
      · rfl
  | drawOffer matchId =>
      simp only [routeMessage, handleDrawOffer]
      split
      · rfl
      split <;> rfl
  | ping | playerListRequest | rematchRequest | rematchResponse | unread => rfl

end Requests

theorem init_activity : init.activity = Activity.init := by
  apply Activity.ext
  · funext userId
    simp [activity, init, Activity.init]
  · funext matchId
    simp [activity, getMatch, init, Activity.init]

variable (lib : Externals) {server : Server}

/-- A step changes who is online and who plays as `ActivityChange` says. -/
theorem step_activity (good : server.WellFormed) (event : Event) :
    (server.step lib event).activity =
      server.activity.change (server.activityChange lib event) := by
  obtain ⟨env, action⟩ := event
  cases action with
  | accept fd =>
      simp only [step, activityChange]
      split <;> rfl
  | message conn token request =>
      simp only [step, activityChange]
      cases server.net.connections[conn]? with
      | none => rfl
      | some client =>
          dsimp only
          split
          · exact routeMessage_activity lib env good conn client token request
          · rfl
  | receiveFailed conn => rfl
  | removeClient conn =>
      simp only [step, activityChange]
      cases server.net.connections[conn]? with
      | none => rfl
      | some client =>
          dsimp only
          split
          · exact removeClient_activity lib env good client.threadFd
          · rfl
  | checkTurnTimeouts => exact checkTurnTimeouts_activity lib env server
  | restart => exact init_activity

def ParticipantsInGame (server : Server) : Prop :=
  ∀ matchId game userId, server.getMatch matchId = some game →
    (userId = game.player1Id ∨ userId = game.player2Id) → server.isPlayerOnline userId = true →
    server.getPlayerStatus userId = .inGame

theorem participantsInGame_iff_busy : server.ParticipantsInGame ↔ server.activity.Busy := by
  constructor
  · rintro playing matchId userId status ⟨seats, found, seat⟩ shown
    obtain ⟨game, active, rfl⟩ := Option.map_eq_some_iff.mp found
    obtain ⟨data, known, rfl⟩ := Option.map_eq_some_iff.mp shown
    have inGame := playing matchId game userId active seat (Option.isSome_of_eq_some known)
    simpa [getPlayerStatus, known] using inGame
  · intro busy matchId game userId active seat online
    obtain ⟨data, known⟩ := Option.isSome_iff_exists.mp online
    have inGame := busy matchId userId data.status ⟨game.seats, seats_eq active, seat⟩
      (by simp [activity, known])
    simpa [getPlayerStatus, known] using inGame

def KeepsParticipants (server : Server) (event : Event) : Prop :=
  server.activity.KeepsBusy (server.activityChange lib event)

theorem step_participants_iff (good : server.WellFormed) (playing : server.ParticipantsInGame)
    (event : Event) : (server.step lib event).ParticipantsInGame ↔
      server.KeepsParticipants lib event := by
  rw [participantsInGame_iff_busy, step_activity lib good]
  exact Activity.busy_change (participantsInGame_iff_busy.mp playing) _

theorem participantsInGame_iff (events : List Event) :
    (∀ early, early <+: events → (after lib early).ParticipantsInGame) ↔
      Machine.Respects (step lib) (KeepsParticipants lib) init events := by
  refine Machine.always_iff_respects (step lib) WellFormed wellFormed_init ?_ ?_ ?_ events
  · exact step_wellFormed lib
  · intro matchId game userId active
    simp [getMatch, init] at active
  · exact fun server event good playing => step_participants_iff lib good playing event

end Server

namespace Script

open Server

def revalidated : List Event := duel ++ [sends 5 alice (.validateSession (token alice))]

theorem not_participantsInGame_revalidated : ¬(after lib revalidated).ParticipantsInGame ∧
    (after lib revalidated).validateChallenge carol alice = none := by
  refine ⟨?_, by decide +kernel⟩
  intro playing
  have seated : ((after lib revalidated).getMatch 1).map MatchState.seats = some (alice, bob) := by
    decide +kernel
  obtain ⟨game, active, seats⟩ := Option.map_eq_some_iff.mp seated
  have inGame := playing 1 game alice active (Or.inl (congrArg Prod.fst seats).symm)
    (by decide +kernel)
  have available : (after lib revalidated).getPlayerStatus alice = .available := by decide +kernel
  rw [available] at inGame
  cases inGame

end Script

end Battleship
