import Battleship.Participants
import Battleship.Readiness
import Battleship.StaleChallenges
import Battleship.Sweeps

/-! The rating of a user who is online is kept twice: in the table of users, and since the
login in the player manager. The end of a match writes the first copy only. -/

namespace Battleship

open Decimal (Text)
open Machine

structure Verdict where
  game : MatchState
  winnerId : UserId

def Externals.rate (lib : Externals) (ratings : UserId → Int) (verdict : Verdict) :
    UserId → Int :=
  let game := verdict.game
  let new := Server.newElos lib game.player1Id game.player2Id verdict.winnerId
    (ratings game.player1Id) (ratings game.player2Id)
  Function.update (Function.update ratings game.player1Id new.1) game.player2Id new.2

namespace Server

def shown (server : Server) (userId : UserId) : Option Int :=
  server.players[userId]?.map PlayerData.eloRating

section Verdicts

variable (env : Env)

def requestVerdicts (token : Text) (request : Request) (server : Server) : List Verdict :=
  let userId := server.sessionUser env token
  match request with
  | .move matchId target =>
      if server.winsMatch env token matchId target then
        (server.getMatch matchId).toList.map fun game => ⟨game, userId⟩
      else []
  | .resign matchId =>
      if userId = 0 then []
      else (server.getMatch matchId).toList.map fun game => ⟨game, game.opponent userId⟩
  | .drawResponse matchId accepted =>
      if userId ≠ 0 ∧ accepted then (server.getMatch matchId).toList.map fun game => ⟨game, 0⟩
      else []
  | _ => []

def sweptVerdicts (test : MatchState → Bool) (loser : MatchState → UserId) (server : Server) :
    List Verdict :=
  ((server.games.activeMatches.keysWhere test).filterMap server.getMatch).map fun game =>
    ⟨game, game.opponent (loser game)⟩

def removedVerdicts (fd : Fd) (server : Server) : List Verdict :=
  match server.net.clients[fd]?.bind fun conn => server.net.connections[conn]? with
  | none => []
  | some client =>
      if client.authenticated then
        server.sweptVerdicts (fun game =>
          decide (game.player1Id = client.userId ∨ game.player2Id = client.userId))
          fun _ => client.userId
      else []

def verdicts (server : Server) (event : Event) : List Verdict :=
  match event.action with
  | .message conn token request =>
      if server.isLive conn then server.requestVerdicts event.env token request else []
  | .removeClient conn =>
      match server.net.connections[conn]? with
      | none => []
      | some client =>
          if client.serving ∧ client.socketFd.isNone then server.removedVerdicts client.threadFd
          else []
  | .checkTurnTimeouts =>
      server.sweptVerdicts (fun game => game.isTurnTimedOut event.env.now)
        MatchState.currentTurnPlayerId
  | _ => []

end Verdicts

section Shown

variable (lib : Externals) (env : Env)

def shownAfter (server : Server) (change : PeopleChange) : UserId → Option Int :=
  match change with
  | .none => server.shown
  | .accept _ => server.shown
  | .appear _ userId => Function.update server.shown userId (some (server.db.rating userId))
  | .logout _ userId => Function.update server.shown userId none
  | .remove fd => fun userId =>
      if (server.people.clients fd).bind server.people.userOn = some userId then none
      else server.shown userId
  | .restart => fun _ => none

theorem Routine.shown {server later : Server} (routine : Routine env server later) :
    later.shown = server.shown := by
  induction routine with
  | refl => rfl
  | @tail middle _ _ act same =>
      rw [← same]
      cases act with
      | store db manager games journal => rfl
      | sends sends => rfl
      | status userId present =>
          funext other
          simp only [Server.shown, Table.lookup_modify]
          split
          · cases middle.players[other]? <;> rfl
          · rfl

theorem shown_insert (server : Server) (userId : UserId) (data : PlayerData) :
    ({ server with players := server.players.insert userId data } : Server).shown =
      Function.update server.shown userId (some data.eloRating) :=
  Table.read_insert server.players (Option.map PlayerData.eloRating) userId data

theorem shown_erase (server : Server) (userId : UserId) :
    ({ server with players := server.players.erase userId } : Server).shown =
      Function.update server.shown userId none :=
  Table.read_erase server.players (Option.map PlayerData.eloRating) userId

theorem Presents.shown {conn : ConnId} {userId : UserId} {server later : Server}
    (presents : Presents env conn userId server later) :
    later.shown = Function.update server.shown userId (some (server.db.rating userId)) := by
  obtain ⟨db, token, data, known, -, -, -, routine⟩ := presents
  obtain ⟨user, stored, rating⟩ := Option.map_eq_some_iff.mp known
  have rated : server.db.rating userId = data.eloRating := by
    rw [Database.rating, stored, ← rating]
    rfl
  rw [routine.shown, rated]
  exact shown_insert server userId data

theorem Answered.shown {conn : ConnId} {server later : Server} {change : PeopleChange}
    (answered : Answered env conn server change later) : later.shown = server.shownAfter change := by
  cases answered with
  | routine kept => exact kept.shown
  | refusal payload userId => rfl
  | appears presents => exact presents.shown
  | leaves kept => exact kept.shown.trans (shown_erase server _)

theorem dismiss_shown (userId : UserId) (server : Server) :
    (server.dismiss lib env userId).shown = Function.update server.shown userId none := by
  have ended := (handlePlayerDisconnect_work lib env (Work.refl server) userId).routine.shown
  have removed := (removePlayer_work env userId
    (server.handlePlayerDisconnect lib env userId)).routine.shown
  rw [shown_erase, ended] at removed
  exact removed

theorem Removal.shown {fd : Fd} {server later : Server} {user : Option UserId}
    (removal : Removal lib env fd server user later) :
    later.shown = fun userId => if user = some userId then none else server.shown userId := by
  cases removal with
  | nobody => rfl
  | @user net last userId =>
      refine (dismiss_shown lib env userId { server with net := net }).trans ?_
      funext other
      simp only [Option.some.injEq, Function.update_apply, eq_comm (a := other)]
      rfl

theorem step_shown (server : Server) (event : Event) :
    (server.step lib event).shown = server.shownAfter (server.peopleChange lib event) := by
  obtain ⟨env, action⟩ := event
  cases action with
  | accept fd =>
      simp only [step, peopleChange]
      split <;> rfl
  | message conn token request =>
      simp only [step, peopleChange]
      cases server.net.connections[conn]? with
      | none => rfl
      | some client =>
          dsimp only
          split
          · exact (routeMessage_answered lib env conn token request).shown
          · rfl
  | receiveFailed conn => rfl
  | removeClient conn =>
      simp only [step, peopleChange]
      cases server.net.connections[conn]? with
      | none => rfl
      | some client =>
          dsimp only
          split
          · exact (removeClient_removal lib env client.threadFd server).shown
          · rfl
  | checkTurnTimeouts => exact (checkTurnTimeouts_work lib env (.refl server)).routine.shown
  | restart =>
      funext userId
      simp [step, peopleChange, restarted, init, shown, shownAfter]

end Shown

section Ratings

variable (lib : Externals) (env : Env) {server : Server} {matchId : MatchId} {game : MatchState}
  {winnerId : UserId}

theorem rating_of_users {db later : Database} (users : later.users = db.users) :
    later.rating = db.rating := by
  funext userId
  rw [Database.rating, Database.rating, users]

theorem oldElo_eq (server : Server) (userId : UserId) :
    server.oldElo userId = server.db.rating userId := by
  unfold oldElo Database.getUserById Database.rating
  cases server.db.users[userId]? <;> rfl

theorem rate_congr {changed : MatchState} (ratings : UserId → Int)
    (player1 : changed.player1Id = game.player1Id) (player2 : changed.player2Id = game.player2Id) :
    lib.rate ratings ⟨changed, winnerId⟩ = lib.rate ratings ⟨game, winnerId⟩ := by
  simp only [Externals.rate, player1, player2]

theorem rated_rating (known1 : server.db.HasUser game.player1Id)
    (known2 : server.db.HasUser game.player2Id) :
    let new := server.ratings lib game.player1Id game.player2Id winnerId
    ((server.db.updateEloRating game.player1Id new.1).updateEloRating game.player2Id new.2).rating =
      lib.rate server.db.rating ⟨game, winnerId⟩ := by
  intro new
  rw [Database.updateEloRating_twice known1 known2]
  simp only [Externals.rate, new, ratings, oldElo_eq]

theorem finishMatch_rating (stored : Stored server.db matchId game) (reason : MatchEndReason)
    (reasonText : String) :
    (server.finishMatch lib env matchId game winnerId reason reasonText).db.rating =
      lib.rate server.db.rating ⟨game, winnerId⟩ :=
  (Database.endMatch_rating ..).trans (rated_rating lib stored.player1 stored.player2)

theorem timeOutMatch_rating (good : server.WellFormed)
    (was : server.getMatch matchId = some game) :
    (server.timeOutMatch lib env matchId).db.rating =
      lib.rate server.db.rating ⟨game, game.opponent game.currentTurnPlayerId⟩ := by
  simp only [timeOutMatch, was]
  exact finishMatch_rating lib env ((good.games.active matchId game was).stored good.db) ..

theorem abandonMatch_rating (good : server.WellFormed) (was : server.getMatch matchId = some game)
    (userId : UserId) : (server.abandonMatch lib env userId matchId).db.rating =
      lib.rate server.db.rating ⟨game, game.opponent userId⟩ := by
  let recorded := server.endMatch env matchId (game.opponent userId)
  have users : recorded.db.users = server.db.users := Database.endMatch_users ..
  have stored := (good.games.active matchId game was).stored good.db
  have known {player : UserId} (known : server.db.HasUser player) : recorded.db.HasUser player := by
    rwa [Database.HasUser, users]
  obtain ⟨duration, shape⟩ := abandonMatch_of_some lib env userId server was
  have rated := @rated_rating lib recorded game (game.opponent userId) (known stored.player1)
    (known stored.player2)
  rw [rating_of_users users] at rated
  rw [shape]
  exact rated

theorem foldl_rating {body : Server → MatchId → Server} {loser : MatchState → UserId}
    (good : ∀ server matchId, server.WellFormed → (body server matchId).WellFormed)
    (other : ∀ server matchId another, matchId ≠ another →
      Untouched another server (body server matchId))
    (idle : ∀ (server : Server) matchId, server.getMatch matchId = none →
      body server matchId = server)
    (rates : ∀ (server : Server) matchId game, server.WellFormed →
      server.getMatch matchId = some game → (body server matchId).db.rating =
        lib.rate server.db.rating ⟨game, game.opponent (loser game)⟩) :
    ∀ matchIds : List MatchId, matchIds.Nodup → ∀ server : Server, server.WellFormed →
      (matchIds.foldl body server).db.rating = ((matchIds.filterMap server.getMatch).map fun game =>
        (⟨game, game.opponent (loser game)⟩ : Verdict)).foldl lib.rate server.db.rating := by
  intro matchIds
  induction matchIds with
  | nil => exact fun _ _ _ => rfl
  | cons head rest ih =>
      intro distinct server fine
      obtain ⟨notInRest, restDistinct⟩ := List.nodup_cons.mp distinct
      have still : rest.filterMap (body server head).getMatch = rest.filterMap server.getMatch := by
        refine List.filterMap_congr fun matchId inRest => ?_
        exact (other server head matchId fun same => notInRest (same ▸ inRest)).game
      have later := ih restDistinct (body server head) (good server head fine)
      rw [still] at later
      rw [List.foldl_cons, later]
      cases was : server.getMatch head with
      | none => rw [idle server head was, List.filterMap_cons_none was]
      | some game =>
          rw [rates server head game fine was, List.filterMap_cons_some was]
          rfl

theorem checkTurnTimeouts_rating (good : server.WellFormed) :
    (server.checkTurnTimeouts lib env).db.rating = (server.sweptVerdicts (fun game =>
      game.isTurnTimedOut env.now) MatchState.currentTurnPlayerId).foldl lib.rate
        server.db.rating := by
  refine foldl_rating lib (timeOutMatch_wellFormed lib env)
    (fun server _ _ different => timeOutMatch_untouched lib env server different) ?_
    (fun _ _ _ fine was => timeOutMatch_rating lib env fine was) _ (Table.keysWhere_nodup ..) server
    good
  intro server matchId absent
  simp [timeOutMatch, absent]

theorem handlePlayerDisconnect_rating (good : server.WellFormed) (userId : UserId) :
    (server.handlePlayerDisconnect lib env userId).db.rating = (server.sweptVerdicts (fun game =>
      decide (game.player1Id = userId ∨ game.player2Id = userId)) fun _ => userId).foldl lib.rate
        server.db.rating :=
  foldl_rating lib (fun server matchId => abandonMatch_wellFormed lib env userId server matchId)
    (fun server _ _ different => abandonMatch_untouched lib env userId server different)
    (fun server _ absent => abandonMatch_of_none lib env userId server absent)
    (fun _ _ _ fine was => abandonMatch_rating lib env fine was userId) _
    (Table.keysWhere_nodup ..) server good

section Requests

variable (token : Text)

theorem validateSession_rating :
    (server.validateSession env token).1.db.rating = server.db.rating :=
  rating_of_users (Database.validateSession_users ..)

/-- The shot of the player whose turn it is rates the match if it sinks the last ship. -/
theorem playMove_rating (good : server.WellFormed) (found : server.getMatch matchId = some game)
    (userId : UserId) (target : Coordinate) :
    (server.playMove lib env matchId game userId target).db.rating =
      if ((game.processMove env.now userId target).1.targetBoard userId).allShipsSunk then
        lib.rate server.db.rating ⟨game, userId⟩
      else server.db.rating := by
  let played := (game.processMove env.now userId target).1
  let moved := server.movePlayed env matchId game userId target
  have saved : moved.db.rating = server.db.rating := rating_of_users (Database.saveMove_users ..)
  rw [playMove_eq]
  split
  next sunk =>
    obtain ⟨player1, player2⟩ : played.player1Id = game.player1Id ∧
        played.player2Id = game.player2Id := game.receive_players ⟨env.now, userId, target⟩
    have grown := ((movePlayed_db env matchId game userId target server).keeps good.db).2
    have stored : Stored moved.db matchId played := (((good.games.active matchId game
      found).stored good.db).grows grown).of_players player1 player2
    rw [finishMatch_rating lib env stored, rate_congr lib _ player1 player2, saved]
  next afloat => exact saved

theorem handleMove_rating (good : server.WellFormed) (target : Coordinate) :
    (server.handleMove lib env token matchId target).db.rating =
      (server.requestVerdicts env token (.move matchId target)).foldl lib.rate
        server.db.rating := by
  have checked : (server.validateSession env token).1.db.rating = server.db.rating :=
    validateSession_rating env token
  have user : (server.validateSession env token).2 = server.sessionUser env token := rfl
  have lookup : (server.validateSession env token).1.getMatch matchId =
    server.getMatch matchId := rfl
  unfold handleMove requestVerdicts winsMatch
  dsimp only
  rw [user, lookup]
  cases found : server.getMatch matchId with
  | none => split <;> simp [checked]
  | some game =>
      split
      next absent => simp [absent, checked]
      next present =>
        dsimp only
        split
        next turn => simp [turn, checked]
        next turn =>
          rw [ne_eq, not_not] at turn
          have fine := good.of_keepsMatches (keeps_validated env server token) rfl
          rw [playMove_rating lib env fine found, checked]
          split
          next sunk => simp [turn, present, sunk]
          next afloat => simp [turn, present, afloat]

theorem finishMatch_validated (good : server.WellFormed)
    (found : server.getMatch matchId = some game) (reason : MatchEndReason) (reasonText : String) :
    ((server.validateSession env token).1.finishMatch lib env matchId game winnerId reason
      reasonText).db.rating = lib.rate server.db.rating ⟨game, winnerId⟩ := by
  have fine := good.of_keepsMatches (keeps_validated env server token) rfl
  have stored := (fine.games.active matchId game found).stored fine.db
  rw [finishMatch_rating lib env stored, validateSession_rating]

theorem handleResign_rating (good : server.WellFormed) :
    (server.handleResign lib env token matchId).db.rating =
      (server.requestVerdicts env token (.resign matchId)).foldl lib.rate server.db.rating := by
  have checked : (server.validateSession env token).1.db.rating = server.db.rating :=
    validateSession_rating env token
  have user : (server.validateSession env token).2 = server.sessionUser env token := rfl
  unfold handleResign requestVerdicts
  dsimp only
  rw [user]
  split
  next absent => exact checked
  next present =>
    have lookup : (server.validateSession env token).1.getMatch matchId =
      server.getMatch matchId := rfl
    rw [lookup]
    cases found : server.getMatch matchId with
    | none => exact checked
    | some game => exact finishMatch_validated lib env token good found ..

theorem handleDrawResponse_rating (good : server.WellFormed) (accepted : Bool) :
    (server.handleDrawResponse lib env token matchId accepted).db.rating =
      (server.requestVerdicts env token (.drawResponse matchId accepted)).foldl lib.rate
        server.db.rating := by
  have checked : (server.validateSession env token).1.db.rating = server.db.rating :=
    validateSession_rating env token
  have user : (server.validateSession env token).2 = server.sessionUser env token := rfl
  have lookup : (server.validateSession env token).1.getMatch matchId =
    server.getMatch matchId := rfl
  unfold handleDrawResponse requestVerdicts
  dsimp only
  rw [user, lookup]
  split
  next absent => simp [absent, checked]
  next present =>
    cases found : server.getMatch matchId with
    | none => simp [checked]
    | some game =>
        cases accepted with
        | false =>
            rw [if_neg (by simp)]
            exact checked
        | true =>
            dsimp only
            rw [if_pos rfl, finishMatch_validated lib env token good found]
            simp [present]

theorem handleShipPlacement_rating (ships : Vector Ship numShips) (clientFd : Option Fd) :
    (server.handleShipPlacement env token matchId ships clientFd).db.rating =
      server.db.rating := by
  have checked : (server.validateSession env token).1.db.rating = server.db.rating :=
    validateSession_rating env token
  unfold handleShipPlacement
  dsimp only
  split
  · exact checked
  split
  · exact checked
  have saved : ((server.validateSession env token).1.db.saveShipPlacement matchId
      (server.validateSession env token).2 (encodeShips ships)).1.rating = server.db.rating :=
    (rating_of_users (Database.saveShipPlacement_users ..)).trans checked
  split
  · exact saved
  · rw [placementReady_db]
    exact saved

theorem routeMessage_rating (good : server.WellFormed) (conn : ConnId) (client : ClientConnection)
    (request : Request) : (server.routeMessage lib env conn client token request).db.rating =
      (server.requestVerdicts env token request).foldl lib.rate server.db.rating := by
  have aside {later : Server} (kept : server.Aside later) : later.db.rating = server.db.rating :=
    (kept.keepsMatches.db.retains good.db).ratings
  cases request with
  | login username password => exact aside (handleLogin_aside lib env server conn ..)
  | validateSession sessionToken =>
      exact aside (handleValidateSession_aside env server conn sessionToken)
  | logout sessionToken => exact aside (handleLogout_aside env server conn client ..)
  | register username password displayName => exact aside (handleRegister_aside lib env server conn ..)
  | challengeSend targetUserId timeLimit randomPlacement =>
      simp only [routeMessage, handleChallengeSend]
      split
      · exact ((keeps_sendChallenge env server ..).db.retains good.db).ratings
      · rfl
  | challengeResponse challengeId accepted =>
      simp only [routeMessage, handleChallengeResponse]
      split
      · exact ((keeps_respondToChallenge env good ..).db.retains good.db).ratings
      · rfl
  | shipPlacement matchId ships => exact handleShipPlacement_rating env token ships _
  | move matchId target => exact handleMove_rating lib env token good target
  | resign matchId => exact handleResign_rating lib env token good
  | drawResponse matchId accepted => exact handleDrawResponse_rating lib env token good accepted
  | drawOffer matchId => exact ((keeps_drawOffer env server token matchId).db.retains good.db).ratings
  | rematchRequest | rematchResponse => exact validateSession_rating env token
  | ping | playerListRequest | unread => rfl

end Requests

theorem removedVerdicts_eq (fd : Fd) : server.removedVerdicts fd =
    match (server.people.clients fd).bind server.people.userOn with
    | none => []
    | some userId => server.sweptVerdicts (fun game =>
        decide (game.player1Id = userId ∨ game.player2Id = userId)) fun _ => userId := by
  have user : (server.people.clients fd).bind server.people.userOn =
      (server.net.clients[fd]?.bind fun conn => server.net.connections[conn]?).bind
        ClientConnection.user := by
    rw [Option.bind_assoc]
    rfl
  unfold removedVerdicts
  rw [user]
  split
  next missing => rw [missing]; rfl
  next client known =>
    rw [known, Option.bind_some, ClientConnection.user]
    split <;> rfl

theorem removeClient_rating (good : server.WellFormed) (fd : Fd) :
    (server.removeClient lib env fd).db.rating =
      (server.removedVerdicts fd).foldl lib.rate server.db.rating := by
  have removal := removeClient_removal lib env fd server
  rw [removedVerdicts_eq]
  generalize server.removeClient lib env fd = later at removal ⊢
  generalize (server.people.clients fd).bind server.people.userOn = user at removal ⊢
  cases removal with
  | nobody => rfl
  | @user net last userId =>
      have fine : ({ server with net := net } : Server).WellFormed :=
        ⟨good.db, good.games, good.challenges⟩
      exact handlePlayerDisconnect_rating lib env fine userId

/-- A step changes the ratings on record by the matches that it ends. -/
theorem step_rating (good : server.WellFormed) (event : Event) :
    (server.step lib event).db.rating =
      (server.verdicts event).foldl lib.rate server.db.rating := by
  obtain ⟨env, action⟩ := event
  cases action with
  | accept fd =>
      simp only [step, verdicts]
      split <;> rfl
  | message conn token request =>
      simp only [step, verdicts]
      split
      next missing => simp [isLive, missing]
      next client known =>
        have live : server.isLive conn = (client.serving && client.socketFd.isSome) := by
          rw [isLive, known]
          rfl
        simp only [live, Bool.and_eq_true]
        split
        · exact routeMessage_rating lib env token good conn client request
        · rfl
  | receiveFailed conn => rfl
  | removeClient conn =>
      simp only [step, verdicts]
      cases server.net.connections[conn]? with
      | none => rfl
      | some client =>
          dsimp only
          split
          · exact removeClient_rating lib env good client.threadFd
          · rfl
  | checkTurnTimeouts => exact checkTurnTimeouts_rating lib env good
  | restart => rfl

end Ratings

def RatedAt (server : Server) (userId : UserId) (elo : Int) : Prop :=
  (server.db.users[userId]?).map User.eloRating = some elo

/-- The ratings that the player manager has of the users online are those on record, and so are
the ratings it gives for the lists, the challenges and match starts, and the status updates. -/
structure ShowsRatings (server : Server) : Prop where
  held : ∀ (userId : UserId) data, server.players[userId]? = some data →
    server.RatedAt userId data.eloRating
  listed : ∀ info ∈ server.getOnlinePlayers, server.RatedAt info.userId info.eloRating
  informed : ∀ userId, server.isPlayerOnline userId = true →
    server.RatedAt userId (server.getPlayerInfo userId).eloRating
  updated : ∀ userId status told displayName elo, server.isPlayerOnline userId = true →
    statusUpdate server.players userId status = .playerStatusUpdate userId told displayName elo →
      server.RatedAt userId elo

def Unrated (lib : Externals) (server : Server) (event : Event) : Prop :=
  ∀ userId, server.isPlayerOnline userId = true → ¬server.Leaves lib event userId →
    (server.verdicts event).foldl lib.rate server.db.rating userId = server.db.rating userId

section Shows

variable {server : Server}

theorem showsRatings_iff_held : server.ShowsRatings ↔ ∀ (userId : UserId) data,
    server.players[userId]? = some data → server.RatedAt userId data.eloRating := by
  refine ⟨ShowsRatings.held, fun held => ⟨held, ?_, ?_, ?_⟩⟩
  · intro info member
    obtain ⟨⟨userId, data⟩, listed, rfl⟩ := List.mem_map.mp member
    exact held userId data (Std.ExtTreeMap.mem_toList_iff_getElem?_eq_some.mp listed)
  · intro userId online
    obtain ⟨data, found⟩ := Option.isSome_iff_exists.mp online
    have info : server.getPlayerInfo userId = playerInfo userId data := by
      rw [getPlayerInfo, found]
    rw [info]
    exact held userId data found
  · intro userId status told displayName elo online update
    obtain ⟨data, found⟩ := Option.isSome_iff_exists.mp online
    simp only [statusUpdate, found, Payload.playerStatusUpdate.injEq] at update
    exact update.2.2.2 ▸ held userId data found

theorem showsRatings_iff (known : server.KnownUsers) : server.ShowsRatings ↔
    ∀ userId elo, server.shown userId = some elo → server.db.rating userId = elo := by
  rw [showsRatings_iff_held]
  constructor
  · intro held userId elo showing
    obtain ⟨data, found, rfl⟩ := Option.map_eq_some_iff.mp showing
    rw [Database.rating, held userId data found]
    rfl
  · intro rated userId data found
    have showing : server.shown userId = some data.eloRating := by
      rw [shown, found]
      rfl
    have online : server.isPlayerOnline userId = true := by
      rw [isPlayerOnline, found]
      rfl
    obtain ⟨user, row⟩ := Option.isSome_iff_exists.mp (known.online userId online)
    have rating := rated userId _ showing
    rw [Database.rating, row] at rating
    rw [RatedAt, row]
    exact congrArg some rating

theorem online_of_shown {userId : UserId} {elo : Int} (showing : server.shown userId = some elo) :
    server.isPlayerOnline userId = true := by
  obtain ⟨data, found, -⟩ := Option.map_eq_some_iff.mp showing
  rw [isPlayerOnline, found]
  rfl

/-- Nobody is shown with anything but what was shown before or is on record. -/
theorem shownAfter_some {change : PeopleChange} {userId : UserId} {elo : Int}
    (showing : server.shownAfter change userId = some elo) :
    server.shown userId = some elo ∨ server.db.rating userId = elo := by
  cases change with
  | none | accept fd => exact .inl showing
  | appear conn appeared =>
      rw [shownAfter, Function.update_apply] at showing
      split at showing
      next same => exact .inr (same ▸ Option.some.inj showing)
      · exact .inl showing
  | logout conn gone =>
      rw [shownAfter, Function.update_apply] at showing
      split at showing
      · cases showing
      · exact .inl showing
  | remove fd =>
      simp only [shownAfter] at showing
      split at showing
      · cases showing
      · exact .inl showing
  | restart => cases showing

variable (lib : Externals) (event : Event)

/-- A request that lets somebody appear or leave ends no match. -/
theorem verdicts_or_change (server : Server) : server.verdicts event = [] ∨
    server.peopleChange lib event = .none ∨ ∃ fd, server.peopleChange lib event = .remove fd := by
  unfold verdicts peopleChange
  cases event.action with
  | accept fd | receiveFailed conn | restart => exact .inl rfl
  | checkTurnTimeouts => exact .inr (.inl rfl)
  | removeClient conn =>
      right
      dsimp only
      split
      · exact .inl rfl
      · split
        · exact .inr ⟨_, rfl⟩
        · exact .inl rfl
  | message conn token request =>
      cases request with
      | login | validateSession | logout => exact .inl (ite_self _)
      | _ =>
          right
          left
          dsimp only
          split
          · rfl
          · exact ite_self _

theorem shownAfter_stays {userId : UserId} (calm : server.peopleChange lib event = .none ∨
    ∃ fd, server.peopleChange lib event = .remove fd) {elo : Int} :
    server.shownAfter (server.peopleChange lib event) userId = some elo ↔
      server.shown userId = some elo ∧ ¬server.Leaves lib event userId := by
  unfold Leaves
  rcases calm with none | ⟨fd, removes⟩
  · rw [none]
    exact (and_iff_left id).symm
  · rw [removes]
    simp only [shownAfter]
    split
    next gone => simp [gone]
    next stays => simp [stays]

theorem step_shows_iff (good : server.WellFormed) (known : server.KnownUsers)
    (shows : server.ShowsRatings) :
    (server.step lib event).ShowsRatings ↔ server.Unrated lib event := by
  have rated := (showsRatings_iff known).mp shows
  rw [showsRatings_iff (step_knownUsers lib good known event), step_shown,
    step_rating lib good]
  rcases verdicts_or_change lib event server with quiet | calm
  · rw [quiet, Unrated, quiet]
    refine iff_of_true ?_ fun _ _ _ => rfl
    intro userId elo showing
    rcases shownAfter_some showing with before | fresh
    · exact rated userId elo before
    · exact fresh
  · constructor
    · intro later userId online stays
      obtain ⟨data, found⟩ := Option.isSome_iff_exists.mp online
      have showing : server.shown userId = some data.eloRating := by
        rw [shown, found]
        rfl
      rw [later userId _ ((shownAfter_stays lib event calm).mpr ⟨showing, stays⟩)]
      exact (rated userId _ showing).symm
    · intro unrated userId elo showing
      obtain ⟨before, stays⟩ := (shownAfter_stays lib event calm).mp showing
      rw [unrated userId (online_of_shown before) stays]
      exact rated userId elo before

end Shows

/-- The ratings shown are those on record all along a run exactly when no step ends a match that
changes the rating of a user who stays online. -/
theorem showsRatings_iff_unrated (lib : Externals) (events : List Event) :
    (∀ early, early <+: events → (after lib early).ShowsRatings) ↔
      Machine.Respects (step lib) (Unrated lib) init events := by
  have opening : init.ShowsRatings := by
    rw [showsRatings_iff_held]
    simp [init]
  refine Machine.always_iff_respects (step lib)
    (fun server => server.WellFormed ∧ server.KnownUsers) ?_ ?_ opening ?_ events
  · exact ⟨wellFormed_init, after_knownUsers lib []⟩
  · exact fun server event sound => ⟨step_wellFormed lib server event sound.1,
      step_knownUsers lib sound.1 sound.2 event⟩
  · exact fun server event sound shows => step_shows_iff lib event sound.1 sound.2 shows

end Server

namespace Script

open Server

def aliceResigned : List Event := duel ++ [sends 5 alice (.resign 1)]

theorem not_showsRatings_aliceResigned : ¬∀ lib events, (after lib events).ShowsRatings := by
  intro all
  have shows := all lib aliceResigned
  have online : (after lib aliceResigned).isPlayerOnline alice = true := by decide +kernel
  have told : ((after lib aliceResigned).getPlayerInfo alice).eloRating = 1000 := by decide +kernel
  have stored : ((after lib aliceResigned).db.users[alice]?).map User.eloRating = some 985 := by
    decide +kernel
  have same := shows.informed alice online
  rw [RatedAt, stored, told] at same
  cases same

end Script

end Battleship
