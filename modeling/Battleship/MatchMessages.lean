import Battleship.Connections
import Battleship.MatchRecords
import Battleship.Origins
import Battleship.Presence

/-! Who is told of a match. What a player sends is passed on to the two players that the row of
the match names, on the connection that each of them signed in on last, and to nobody else. A
player who is still listed with a connection that was removed breaks this: the next connection
may have its memory. -/

namespace Battleship

open Decimal (Text)

def Payload.isPlacementAck : Payload → Bool
  | shipPlacementAck .. => true
  | _ => false

namespace Database

def seats (db : Database) (matchId : MatchId) : Option (UserId × UserId) :=
  db.matchRows[matchId]?.map fun row => (row.player1Id, row.player2Id)

theorem Grows.seats {db later : Database} (grows : db.Grows later) {matchId : MatchId}
    {players : UserId × UserId} (seated : db.seats matchId = some players) :
    later.seats matchId = some players := by
  obtain ⟨row, found, rfl⟩ := Option.map_eq_some_iff.mp seated
  obtain ⟨row', found', same1, same2⟩ := grows.matchRows matchId row found
  simp [Database.seats, found', same1, same2]

end Database

abbrev Seats : Type := MatchId → Option (UserId × UserId)

def Seats.Has (seats : Seats) (matchId : MatchId) (userId : UserId) : Prop :=
  ∃ players, seats matchId = some players ∧ (userId = players.1 ∨ userId = players.2)

def Directed (client : UserId → Option ConnId) (seats : Seats) (message : Sent) : Prop :=
  ∀ matchId, message.payload.matchId? = some matchId →
    ∃ userId, seats.Has matchId userId ∧ client userId = some message.conn

namespace Server

structure Directs (seats : Seats) (server later : Server) : Prop where
  clients : later.getClientConnection = server.getClientConnection
  net : server.net.Transmits (Directed server.getClientConnection seats) later.net

namespace Directs

variable {seats : Seats} {server later : Server}

theorem refl (seats : Seats) (server : Server) : Directs seats server server :=
  ⟨rfl, Network.Transmits.refl _⟩

theorem trans {first second third : Server} (early : Directs seats first second)
    (late : Directs seats second third) : Directs seats first third :=
  ⟨late.clients.trans early.clients, early.net.trans (early.clients ▸ late.net)⟩

theorem of_transmits {allowed : Sent → Prop} (players : later.players = server.players)
    (net : server.net.Transmits allowed later.net)
    (silent : ∀ message, allowed message → message.payload.matchId? = none) :
    Directs seats server later := by
  refine ⟨funext fun userId => by simp only [getClientConnection, players], net.mono ?_⟩
  intro message permitted matchId about
  rw [silent message permitted] at about
  cases about

variable (env : Env) {header : MessageHeader} {payload : Payload} (made : Directs seats server later)

include made

theorem aside {changed : Server} (players : changed.players = later.players)
    (net : changed.net = later.net) : Directs seats server changed := by
  refine made.trans ⟨funext fun userId => ?_, net ▸ Network.Transmits.refl _⟩
  simp only [getClientConnection, players]

theorem sendToPlayer (own : server.net.OwnDescriptors) {userId : UserId}
    (seated : ∀ matchId, payload.matchId? = some matchId → seats.Has matchId userId) :
    Directs seats server (later.sendToPlayer env header payload userId) := by
  refine made.trans ⟨rfl, sendToPlayer_recipient env userId fun conn found matchId about => ?_⟩
  obtain ⟨entry, client, routed⟩ := Option.bind_eq_some_iff.mp found
  obtain ⟨fd, socket, listed⟩ := Option.bind_eq_some_iff.mp routed
  obtain rfl := made.net.ownDescriptors own entry conn fd socket listed
  exact ⟨userId, seated matchId about, client⟩

theorem tellPlayer {userId : UserId}
    (seated : ∀ matchId, payload.matchId? = some matchId → seats.Has matchId userId) :
    Directs seats server (later.tellPlayer env header payload userId) := by
  refine made.trans ⟨rfl, ?_⟩
  simp only [Server.tellPlayer]
  split
  · exact Network.Transmits.refl _
  next conn client =>
    exact Network.sendMessage_transmits env later.net fun matchId about =>
      ⟨userId, seated matchId about, client⟩

/-- A message that is about no match can go to anybody. -/
theorem tellAnyone (silent : payload.matchId? = none) (userId : UserId) :
    Directs seats server (later.tellPlayer env header payload userId) :=
  made.tellPlayer env fun matchId about => by simp [silent] at about

theorem updatePlayerStatus (userId : UserId) (status : PlayerStatus) :
    Directs seats server (later.updatePlayerStatus env userId status) := by
  refine made.trans ⟨?_, ?_⟩
  · funext other
    simp only [getClientConnection, Server.updatePlayerStatus, broadcastIf, Table.lookup_modify]
    split
    · cases later.players[other]? <;> rfl
    · rfl
  · exact updatePlayerStatus_transmits env later
      (fun _ _ _ _ _ _ _ about => by simp [Payload.matchId?] at about) userId status

/-- Both players of a match are sent a message about it. -/
theorem sendToPlayers (own : server.net.OwnDescriptors) (header1 header2 : MessageHeader)
    {payload1 payload2 : Payload} {matchId : MatchId} {player1Id player2Id : UserId}
    (about1 : payload1.matchId? = some matchId) (about2 : payload2.matchId? = some matchId)
    (seat1 : seats.Has matchId player1Id) (seat2 : seats.Has matchId player2Id) :
    Directs seats server ((later.sendToPlayer env header1 payload1 player1Id).sendToPlayer env
      header2 payload2 player2Id) := by
  refine (made.sendToPlayer env own fun other about => ?_).sendToPlayer env own
    fun other about => ?_
  · obtain rfl := Option.some.inj (about1.symm.trans about)
    exact seat1
  · obtain rfl := Option.some.inj (about2.symm.trans about)
    exact seat2

end Directs

section Seated

variable {seats : Seats} {matchId : MatchId} {game : MatchState}
  (seated : seats matchId = some (game.player1Id, game.player2Id))

include seated

theorem seat1 : seats.Has matchId game.player1Id := ⟨_, seated, .inl rfl⟩

theorem seat2 : seats.Has matchId game.player2Id := ⟨_, seated, .inr rfl⟩

theorem opponent_seat (userId : UserId) : seats.Has matchId (game.opponent userId) := by
  unfold MatchState.opponent
  split
  · exact seat2 seated
  · exact seat1 seated

end Seated

namespace Directs

variable (lib : Externals) (env : Env) {seats : Seats} {server later : Server} {matchId : MatchId}
  {game : MatchState} (made : Directs seats server later) (own : server.net.OwnDescriptors)
  (seated : seats matchId = some (game.player1Id, game.player2Id))

include made own seated

theorem sendMatchEnd (winnerId : UserId) (reason : MatchEndReason) (reasonText : String)
    (totalMoves : Int) (duration : Nat) :
    Directs seats server (later.sendMatchEnd lib env matchId game.player1Id game.player2Id winnerId
      reason reasonText totalMoves duration) := by
  let new := later.ratings lib game.player1Id game.player2Id winnerId
  let rated := ((later.announceEnd matchId winnerId reason).updateEloRating matchId game.player1Id
    new.1).updateEloRating matchId game.player2Id new.2
  have booked : Directs seats server rated := made.aside rfl rfl
  exact booked.sendToPlayers env own _ _ (by rfl) (by rfl) (seat1 seated) (seat2 seated)

theorem finishMatch (winnerId : UserId) (reason : MatchEndReason) (reasonText : String) :
    Directs seats server
      (later.finishMatch lib env matchId game winnerId reason reasonText) := by
  let ended := later.sendMatchEnd lib env matchId game.player1Id game.player2Id winnerId reason
    reasonText game.moveHistory.length (secondsSince env.now game.startTime)
  have told : Directs seats server ended := made.sendMatchEnd lib env own seated ..
  have recorded : Directs seats server (ended.endMatch env matchId winnerId) := told.aside rfl rfl
  exact ((recorded.updatePlayerStatus env game.player1Id .available).updatePlayerStatus env
    game.player2Id .available).aside rfl rfl

theorem sendTurnUpdate (found : later.getMatch matchId = some game) (currentPlayerId : UserId)
    (turnNumber : Int) :
    Directs seats server (later.sendTurnUpdate env matchId currentPlayerId turnNumber) := by
  let payload : Payload := .turnUpdate matchId currentPlayerId turnNumber 20
  let header := stampedHeader env .turnUpdate payload
  have told : Directs seats server ((later.sendToPlayer env header payload
      game.player1Id).sendToPlayer env header payload game.player2Id) :=
    made.sendToPlayers env own _ _ rfl rfl (seat1 seated) (seat2 seated)
  refine ⟨made.clients, ?_⟩
  simp only [Server.sendTurnUpdate, found]
  exact told.net

/-- The mover is one of the players. -/
theorem playMove {userId : UserId} (mover : seats.Has matchId userId) (target : Coordinate) :
    Directs seats server (later.playMove lib env matchId game userId target) := by
  let played := (game.processMove env.now userId target).1
  let moved := later.movePlayed env matchId game userId target
  have stays : seats matchId = some (played.player1Id, played.player2Id) := by
    obtain ⟨player1, player2⟩ := game.receive_players ⟨env.now, userId, target⟩
    rw [seated]
    exact congrArg some (Prod.ext player1.symm player2.symm)
  have set : Directs seats server (later.setMatch matchId played) := made.aside rfl rfl
  have shown : Directs seats server moved :=
    (set.sendToPlayers env own _ _ (by rfl) (by rfl) mover (opponent_seat seated userId)).aside
      rfl rfl
  rw [playMove_eq]
  split
  · exact shown.finishMatch lib env own stays ..
  · have found : moved.getMatch matchId = some played :=
      (movePlayed_getMatch ..).trans (if_pos rfl)
    exact shown.sendTurnUpdate env own stays found ..

end Directs

def Played (seats : Seats) (server : Server) : Prop :=
  ∀ matchId game, server.getMatch matchId = some game →
    seats matchId = some (game.player1Id, game.player2Id) ∧
      (game.currentTurnPlayerId = game.player1Id ∨ game.currentTurnPlayerId = game.player2Id)

theorem WellFormed.played {server : Server} (good : server.WellFormed) {seats : Seats}
    (rows : ∀ matchId players, server.db.seats matchId = some players →
      seats matchId = some players) : Played seats server := by
  intro matchId game found
  have fine := good.games.active matchId game found
  obtain ⟨row, stored, player1, player2⟩ := fine.row
  refine ⟨rows matchId _ ?_, fine.turn⟩
  simp [Database.seats, stored, player1, player2]

section Requests

variable (lib : Externals) (env : Env) {seats : Seats} {server : Server} (token : Text)
  (matchId : MatchId) (own : server.net.OwnDescriptors) (played : Played seats server)

theorem validateSession_directs (seats : Seats) (server : Server) :
    Directs seats server (server.validateSession env token).1 := (Directs.refl _ _).aside rfl rfl

include own played

theorem handleMove_directs (target : Coordinate) :
    Directs seats server (server.handleMove lib env token matchId target) := by
  have checked := validateSession_directs env token seats server
  unfold handleMove
  dsimp only
  split
  · exact checked
  split
  · exact checked
  next game found =>
    split
    · exact checked
    next turn =>
      rw [ne_eq, not_not] at turn
      obtain ⟨seated, mover⟩ := played matchId game found
      exact checked.playMove lib env own seated ⟨_, seated, by rwa [← turn]⟩ target

theorem handleResign_directs :
    Directs seats server (server.handleResign lib env token matchId) := by
  have checked := validateSession_directs env token seats server
  unfold handleResign
  dsimp only
  split
  · exact checked
  split
  · exact checked
  next game found => exact checked.finishMatch lib env own (played matchId game found).1 ..

theorem handleDrawOffer_directs :
    Directs seats server (server.handleDrawOffer env token matchId) := by
  have checked := validateSession_directs env token seats server
  unfold handleDrawOffer
  dsimp only
  split
  · exact checked
  split
  · exact checked
  next game found =>
    refine checked.sendToPlayer env own fun other about => ?_
    obtain rfl : matchId = other := by simpa [Payload.matchId?] using about
    exact opponent_seat (played matchId game found).1 _

theorem handleDrawResponse_directs (accepted : Bool) :
    Directs seats server (server.handleDrawResponse lib env token matchId accepted) := by
  have checked := validateSession_directs env token seats server
  unfold handleDrawResponse
  dsimp only
  split
  · exact checked
  split
  · exact checked
  next game found =>
    have seated := (played matchId game found).1
    split
    · exact checked.finishMatch lib env own seated ..
    · refine checked.sendToPlayer env own fun other about => ?_
      obtain rfl : matchId = other := by simpa [Payload.matchId?] using about
      exact opponent_seat seated _

end Requests

section Sweeps

variable (lib : Externals) (env : Env) {seats : Seats} {server : Server}

theorem timeOutMatch_directs (own : server.net.OwnDescriptors) (played : Played seats server)
    (matchId : MatchId) : Directs seats server (server.timeOutMatch lib env matchId) := by
  unfold timeOutMatch
  split
  · exact .refl seats server
  next game found =>
    exact (Directs.refl seats server).finishMatch lib env own (played matchId game found).1 ..

theorem abandonMatch_directs (own : server.net.OwnDescriptors) (played : Played seats server)
    (userId : UserId) (matchId : MatchId) :
    Directs seats server (server.abandonMatch lib env userId matchId) := by
  cases was : server.getMatch matchId with
  | none =>
      rw [abandonMatch_of_none lib env userId server was]
      exact .refl seats server
  | some game =>
      obtain ⟨duration, shape⟩ := abandonMatch_of_some lib env userId server was
      let recorded := server.endMatch env matchId (game.opponent userId)
      have stored : Directs seats server recorded := (Directs.refl seats server).aside rfl rfl
      let ended := recorded.sendMatchEnd lib env matchId game.player1Id game.player2Id
        (game.opponent userId) .disconnect "Opponent disconnected" game.turnNumber duration
      have told : Directs seats server ended :=
        stored.sendMatchEnd lib env own (played matchId game was).1 ..
      have removed : Directs seats server (ended.removeMatch matchId) := told.aside rfl rfl
      rw [shape]
      exact removed.updatePlayerStatus env ..

/-- The matches that are left are those that were there. -/
theorem foldl_directs {body : Server → MatchId → Server}
    (kept : ∀ (server : Server) matchId other game,
      (body server matchId).getMatch other = some game → server.getMatch other = some game)
    (directs : ∀ (server : Server) matchId, server.net.OwnDescriptors → Played seats server →
      Directs seats server (body server matchId)) :
    ∀ (matchIds : List MatchId) (server : Server), server.net.OwnDescriptors →
      Played seats server → Directs seats server (matchIds.foldl body server) := by
  intro matchIds
  induction matchIds with
  | nil => exact fun server _ _ => .refl seats server
  | cons matchId rest ih =>
      intro server own played
      have first := directs server matchId own played
      have still : Played seats (body server matchId) := fun other game found =>
        played other game (kept server matchId other game found)
      exact first.trans (ih _ (first.net.ownDescriptors own) still)

theorem timeOutMatch_kept (server : Server) (matchId other : MatchId) (game : MatchState)
    (found : (server.timeOutMatch lib env matchId).getMatch other = some game) :
    server.getMatch other = some game := by
  by_cases same : matchId = other
  · subst same
    cases was : server.getMatch matchId with
    | none => simp [timeOutMatch, was] at found
    | some playing => simp [(timeOutMatch_concludes lib env server was).gone] at found
  · rwa [(timeOutMatch_untouched lib env server same).game] at found

theorem abandonMatch_kept (userId : UserId) (server : Server) (matchId other : MatchId)
    (game : MatchState)
    (found : (server.abandonMatch lib env userId matchId).getMatch other = some game) :
    server.getMatch other = some game := by
  by_cases same : matchId = other
  · subst same
    cases was : server.getMatch matchId with
    | none => simp [abandonMatch_of_none lib env userId server was, was] at found
    | some playing => simp [(abandonMatch_concludes lib env userId server was).gone] at found
  · rwa [(abandonMatch_untouched lib env userId server same).game] at found

theorem checkTurnTimeouts_directs (own : server.net.OwnDescriptors)
    (played : Played seats server) : Directs seats server (server.checkTurnTimeouts lib env) :=
  foldl_directs (timeOutMatch_kept lib env)
    (fun _ matchId own played => timeOutMatch_directs lib env own played matchId) _ server own played

theorem handlePlayerDisconnect_directs (own : server.net.OwnDescriptors)
    (played : Played seats server) (userId : UserId) :
    Directs seats server (server.handlePlayerDisconnect lib env userId) :=
  foldl_directs (abandonMatch_kept lib env userId)
    (fun _ matchId own played => abandonMatch_directs lib env own played userId matchId) _ server own
    played

end Sweeps

section Placement

variable (env : Env) {seats : Seats} {server : Server} {matchId : MatchId}

theorem activateMatch_directs {later : Server} (made : Directs seats server later)
    (own : server.net.OwnDescriptors) {player1Id player2Id : UserId}
    (seated : seats matchId = some (player1Id, player2Id)) :
    Directs seats server (later.activateMatch env matchId player1Id player2Id) := by
  let game := later.activated env matchId player1Id player2Id
  let started := (later.createMatch matchId player1Id player2Id).setMatch matchId game
  have seated : seats matchId = some (game.player1Id, game.player2Id) := seated
  have set : Directs seats server started := made.aside rfl rfl
  have ready : Directs seats server (started.sendMatchReady env matchId player1Id player2Id) :=
    set.sendToPlayers env own _ _ (by rfl) (by rfl) (seat1 seated) (seat2 seated)
  have active : (started.sendMatchReady env matchId player1Id player2Id).getMatch matchId =
      some game := (Table.lookup_insert ..).trans (if_pos rfl)
  rw [activateMatch_eq]
  exact ready.sendTurnUpdate env own seated active _ 1

theorem placementReady_directs {later : Server} (made : Directs seats server later)
    (own : server.net.OwnDescriptors) (rows : ∀ players, later.db.seats matchId = some players →
      seats matchId = some players) (userId : UserId) :
    Directs seats server (later.placementReady env matchId userId) := by
  have marked : Directs seats server (later.markReady matchId userId) := made.aside rfl rfl
  unfold placementReady
  dsimp only
  split
  · exact marked
  next row found =>
    split
    · refine activateMatch_directs env marked own (rows _ ?_)
      exact Option.map_eq_some_iff.mpr ⟨row, found, rfl⟩
    · exact marked

end Placement

section Challenges

variable (env : Env) {server : Server}

theorem announceMatch_directs {seats : Seats} {later : Server} (made : Directs seats server later)
    {challenge : PendingChallenge} {matchId : MatchId}
    (seated : seats matchId = some (challenge.challengerId, challenge.targetId)) :
    Directs seats server (later.announceMatch env challenge matchId) := by
  unfold announceMatch
  dsimp only
  refine (((made.tellPlayer env fun other about => ?_).tellPlayer env
    fun other about => ?_).updatePlayerStatus env ..).updatePlayerStatus env ..
  · obtain rfl : matchId = other := by simpa [Payload.matchId?] using about
    exact ⟨_, seated, .inl rfl⟩
  · obtain rfl : matchId = other := by simpa [Payload.matchId?] using about
    exact ⟨_, seated, .inr rfl⟩

theorem createMatch_seats (db : Database) (now : Nat) (player1Id player2Id : UserId)
    (created : (db.createMatch now player1Id player2Id).2 > 0) :
    (db.createMatch now player1Id player2Id).1.seats (db.createMatch now player1Id player2Id).2 =
      some (player1Id, player2Id) := by
  unfold Database.createMatch at created ⊢
  split at created
  · simp at created
  next known =>
    rw [if_neg known]
    simp [Database.seats]

theorem acceptChallenge_directs {later : Server} (challenge : PendingChallenge)
    (made : ∀ seats, Directs seats server later) :
    Directs (later.acceptChallenge env challenge).db.seats server
      (later.acceptChallenge env challenge) := by
  unfold acceptChallenge
  dsimp only
  split
  next created =>
    have stored (seats : Seats) : Directs seats server { later with
        db := (later.db.createMatch env.now challenge.challengerId challenge.targetId).1 } :=
      (made seats).aside rfl rfl
    refine announceMatch_directs env (stored _) ?_
    exact createMatch_seats _ _ _ _ created
  · have tried (seats : Seats) : Directs seats server { later with
        db := (later.db.createMatch env.now challenge.challengerId challenge.targetId).1 } :=
      (made seats).aside rfl rfl
    exact (tried _).tellAnyone env rfl _

theorem respondToChallenge_directs (responderId : UserId) (response : ChallengeResponse) :
    Directs (server.respondToChallenge env responderId response).db.seats server
      (server.respondToChallenge env responderId response) := by
  have taken (seats : Seats) : Directs seats server { server with
      manager := (server.manager.takeChallenge responderId response.challengeId).1 } :=
    (Directs.refl seats server).aside rfl rfl
  unfold respondToChallenge
  dsimp only
  split
  · exact .refl _ server
  · exact (Directs.refl _ server).tellAnyone env rfl _
  · split
    · exact acceptChallenge_directs env _ taken
    · exact (taken _).tellAnyone env rfl _

theorem sendChallenge_directs (seats : Seats) (challengerId : UserId)
    (request : ChallengeRequest) :
    Directs seats server (server.sendChallenge env challengerId request) := by
  have inserted : Directs seats server { server with
      manager := (server.manager.insertChallenge env.now challengerId request).1 } :=
    (Directs.refl seats server).aside rfl rfl
  unfold sendChallenge
  split
  · exact (Directs.refl _ server).tellAnyone env rfl _
  · exact inserted.tellAnyone env rfl _

end Challenges

/-- The acknowledgement of a placement goes back on the connection it came on; any other message
about a match is directed to its players. -/
def Addressed (event : Event) (client : UserId → Option ConnId) (seats : Seats) (message : Sent) :
    Prop :=
  (message.payload.isPlacementAck = true ∧
    ∃ token request, event.action = .message message.conn token request) ∨
  Directed client seats message

section Steps

variable (lib : Externals) {server : Server} {event : Event} {conn : ConnId}
  {client : ClientConnection} {token : Text}

theorem acknowledge_addressed {seats : Seats} {later : Server} {request : Request}
    (own : server.net.OwnDescriptors) (known : server.net.connections[conn]? = some client)
    (acted : event.action = .message conn token request) (same : later.net = server.net)
    (matchId : MatchId) (valid : Bool) (text : String) :
    server.net.Transmits (Addressed event server.getClientConnection seats)
      (later.acknowledge event.env matchId valid text client.socketFd).net := by
  have socket : server.net.socketFd conn = client.socketFd := by rw [Network.socketFd, known]; rfl
  rw [← same]
  refine sendToClient_transmits event.env later fun found listed => .inl ⟨rfl, token, request, ?_⟩
  obtain ⟨fd, here, client⟩ := Option.bind_eq_some_iff.mp listed
  rw [same] at client
  obtain rfl := own conn found fd (socket.trans here) client
  exact acted

theorem handleShipPlacement_addressed {seats : Seats} {request : Request}
    (own : server.net.OwnDescriptors) (known : server.net.connections[conn]? = some client)
    (acted : event.action = .message conn token request)
    (rows : ∀ matchId players, server.db.seats matchId = some players →
      seats matchId = some players) (matchId : MatchId) (ships : Vector Ship numShips) :
    server.net.Transmits (Addressed event server.getClientConnection seats)
      (server.handleShipPlacement event.env token matchId ships client.socketFd).net := by
  unfold handleShipPlacement
  dsimp only
  split
  · exact Network.Transmits.refl _
  split
  · exact acknowledge_addressed own known acted rfl ..
  split
  · exact acknowledge_addressed own known acted rfl ..
  · let saved := { (server.validateSession event.env token).1 with
      db := ((server.validateSession event.env token).1.db.saveShipPlacement matchId
        (server.validateSession event.env token).2 (encodeShips ships)).1 }
    let told := saved.acknowledge event.env matchId true "Ship placement accepted" client.socketFd
    have answered : server.net.Transmits (Addressed event server.getClientConnection seats)
        told.net := acknowledge_addressed own known acted rfl ..
    have stored : told.db.seats = server.db.seats := by
      funext other
      have same : told.db.matchRows = server.db.matchRows :=
        (Database.saveShipPlacement_matchRows ..).trans (Database.validateSession_matchRows ..)
      rw [Database.seats, Database.seats, same]
    have readied := placementReady_directs event.env (Directs.refl seats told)
      (answered.ownDescriptors own) (fun players seated => rows matchId players (stored ▸ seated))
      (server.validateSession event.env token).2
    exact answered.trans (readied.net.mono fun _ directed => .inr directed)

theorem clerical_directed {message : Sent} (clerical : Clerical message)
    (client : UserId → Option ConnId) (seats : Seats) : Directed client seats message := by
  obtain ⟨conn, header, payload⟩ := message
  intro matchId about
  cases payload <;> first | exact clerical.elim | simp [Payload.matchId?] at about

theorem routeMessage_addressed (good : server.WellFormed) (own : server.net.OwnDescriptors)
    {request : Request} (known : server.net.connections[conn]? = some client)
    (acted : event.action = .message conn token request) {later : Server}
    (stepped : server.routeMessage lib event.env conn client token request = later)
    (rows : ∀ matchId players, server.db.seats matchId = some players →
      later.db.seats matchId = some players) :
    server.net.Transmits (Addressed event server.getClientConnection later.db.seats) later.net := by
  have played := good.played rows
  have directed {changed : Server} (directs : Directs later.db.seats server changed) :
      server.net.Transmits (Addressed event server.getClientConnection later.db.seats)
        changed.net := directs.net.mono fun _ directed => .inr directed
  have clerical {changed : Server} (aside : server.Aside changed) :
      server.net.Transmits (Addressed event server.getClientConnection later.db.seats)
        changed.net := aside.net.mono fun _ clerical => .inr (clerical_directed clerical _ _)
  have silent {payload : Payload} (silent : payload.matchId? = none) (header : MessageHeader) :
      server.net.Transmits (Addressed event server.getClientConnection later.db.seats)
        (server.sendOn event.env header payload conn).net :=
    sendOn_transmits event.env server (.inr fun _ about => by simp [silent] at about)
  rw [← congrArg Server.net stepped]
  cases request with
  | ping | playerListRequest => exact silent rfl _
  | register username password displayName => exact clerical (handleRegister_aside ..)
  | login username password => exact clerical (handleLogin_aside ..)
  | logout sessionToken => exact clerical (handleLogout_aside ..)
  | validateSession sessionToken => exact clerical (handleValidateSession_aside ..)
  | challengeSend targetUserId timeLimit randomPlacement =>
      simp only [routeMessage, handleChallengeSend]
      split
      · exact directed (sendChallenge_directs event.env _ client.userId _)
      · exact Network.Transmits.refl _
  | challengeResponse challengeId accepted =>
      simp only [routeMessage, handleChallengeResponse] at stepped ⊢
      split at stepped
      next authenticated =>
        rw [if_pos authenticated]
        have told := @respondToChallenge_directs event.env server client.userId
          ⟨challengeId, accepted⟩
        rw [stepped] at told
        exact stepped ▸ directed told
      next anonymous =>
        rw [if_neg anonymous]
        exact Network.Transmits.refl _
  | shipPlacement matchId ships =>
      exact handleShipPlacement_addressed own known acted rows matchId ships
  | move matchId target =>
      exact directed (handleMove_directs lib event.env token matchId own played target)
  | resign matchId => exact directed (handleResign_directs lib event.env token matchId own played)
  | drawOffer matchId => exact directed (handleDrawOffer_directs event.env token matchId own played)
  | drawResponse matchId accepted =>
      exact directed (handleDrawResponse_directs lib event.env token matchId own played accepted)
  | rematchRequest | rematchResponse =>
      exact directed (validateSession_directs event.env token _ server)
  | unread => exact Network.Transmits.refl _

theorem Removal.addressed {env : Env} {fd : Fd} {later : Server} {user : Option UserId}
    (removal : Removal lib env fd server user later) (own : server.net.OwnDescriptors)
    {seats : Seats} (played : Played seats server) :
    server.net.Transmits (Directed server.getClientConnection seats) later.net := by
  cases removal with
  | nobody closes => exact closes.transmits
  | @user net last userId closes _ closed =>
      have unlisted : server.net.Transmits (Directed server.getClientConnection seats) net :=
        closes.transmits
      have ended := @handlePlayerDisconnect_directs lib env seats { server with net := net }
        (unlisted.ownDescriptors own) played userId
      refine ((unlisted.trans ended.net).trans ?_).trans closed.transmits
      exact removePlayer_transmits env _
        (fun _ _ _ _ _ _ _ about => by simp [Payload.matchId?] at about) userId

/-- What a step sends about a match is addressed to its players, as the player manager and the
rows have them. -/
theorem step_addressed (good : server.WellFormed) (own : server.net.OwnDescriptors) (event : Event) :
    ∃ added, (server.step lib event).net.sent = server.net.sent ++ added ∧
      ∀ message ∈ added, Addressed event server.getClientConnection
        (server.step lib event).db.seats message := by
  have rows : ∀ matchId players, server.db.seats matchId = some players →
      (server.step lib event).db.seats matchId = some players :=
    fun _ _ seated => (step_grows lib good event).seats seated
  have played := good.played rows
  have quiet {allowed : Sent → Prop} {net : Network} (kept : server.net.Transmits allowed net)
      (directed : ∀ message, allowed message → Directed server.getClientConnection
        (server.step lib event).db.seats message) :
      ∃ added, net.sent = server.net.sent ++ added ∧ ∀ message ∈ added,
        Addressed event server.getClientConnection (server.step lib event).db.seats message :=
    (kept.mono fun message permitted => .inr (directed message permitted)).sent
  cases step_call lib server event with
  | idle _ stepped => exact ⟨[], by rw [stepped]; simp, by simp⟩
  | accepted fd _ _ stepped => exact ⟨[], by rw [stepped]; simp [acceptConnection], by simp⟩
  | routed conn client token request acted known _ stepped =>
      exact (routeMessage_addressed lib good own known acted stepped.symm rows).sent
  | receiveFailed conn _ stepped =>
      rw [congrArg Server.net stepped]
      have closed : server.net.Transmits (fun _ => False) (server.net.disconnect conn) :=
        Network.disconnect_transmits _ conn
      exact quiet closed fun _ impossible => impossible.elim
  | removed conn client _ _ _ stepped =>
      rw [congrArg Server.net stepped]
      have removed := (removeClient_removal lib event.env client.threadFd server).addressed lib own
        played
      exact quiet (removed.trans (Network.modify_transmits _ conn (by simp))) fun _ directed =>
        directed
  | swept _ stepped =>
      rw [congrArg Server.net stepped]
      exact quiet (checkTurnTimeouts_directs lib event.env own played).net fun _ directed => directed
  | restarted _ stepped => exact ⟨[], by rw [stepped]; simp [restarted], by simp⟩

end Steps

section Runs

variable (lib : Externals)

def Appears (server : Server) (event : Event) (conn : ConnId) (userId : UserId) : Prop :=
  server.peopleChange lib event = .appear conn userId

theorem step_client {server : Server} {event : Event} {conn : ConnId} {userId : UserId}
    (client : (server.step lib event).getClientConnection userId = some conn) :
    server.Appears lib event conn userId ∨ server.getClientConnection userId = some conn ∧
      ∀ other, ¬server.Appears lib event other userId := by
  have entry : (server.people.change (server.peopleChange lib event)).entry userId = some conn := by
    rw [← step_people]
    exact client
  unfold Appears
  cases change : server.peopleChange lib event with
  | none =>
      rw [change] at entry
      exact .inr ⟨entry, by simp⟩
  | accept fd =>
      rw [change] at entry
      exact .inr ⟨entry, by simp⟩
  | appear there other =>
      simp only [change, People.change, Function.update_apply] at entry
      split at entry
      next same => exact .inl (by rw [same, Option.some.inj entry])
      next different => exact .inr ⟨entry, by simp [Ne.symm different]⟩
  | logout there other =>
      simp only [change, People.change, Function.update_apply] at entry
      split at entry
      · cases entry
      · exact .inr ⟨entry, by simp⟩
  | remove fd =>
      simp only [change, People.change] at entry
      split at entry
      · cases entry
      · exact .inr ⟨entry, by simp⟩
  | restart => simp [change, People.change, People.init] at entry

/-- The connection kept for a user is the one of the last time that the user signed in. -/
theorem client_origin (events : List Event) {conn : ConnId} {userId : UserId}
    (client : (after lib events).getClientConnection userId = some conn) :
    ∃ early signIn between, events = early ++ signIn :: between ∧
      (after lib early).Appears lib signIn conn userId ∧
      Machine.Respects (step lib) (fun server event => ∀ other,
        ¬server.Appears lib event other userId) (after lib (early ++ [signIn])) between := by
  have since := Machine.since_of_holds (step lib) (fun _ => True) (motive := fun server =>
    server.getClientConnection userId = some conn) trivial (fun _ _ _ => trivial)
    (by simp [init, getClientConnection]) (fun _ _ _ => step_client lib) client
  exact (Machine.since_iff (step lib)).mp since

/-- As long as no entry has the pointer of a connection that was removed, what the server sends
about a match goes to the connection on which one of the two players of its row signed in last;
only a placement is acknowledged on the connection it came on. -/
theorem match_messages_private {events : List Event}
    (pointers : (after lib events).PointersListed) (event : Event) :
    ∃ added, (after lib (events ++ [event])).net.sent = (after lib events).net.sent ++ added ∧
      ∀ message ∈ added, ∀ matchId, message.payload.matchId? = some matchId →
        (message.payload.isPlacementAck = true ∧
          ∃ token request, event.action = .message message.conn token request) ∨
        ∃ (row : Match) (userId : UserId),
          (after lib (events ++ [event])).db.matchRows[matchId]? = some row ∧
          (userId = row.player1Id ∨ userId = row.player2Id) ∧
          (after lib events).Lists message.conn ∧
          ∃ early signIn between, events = early ++ signIn :: between ∧
            (after lib early).Appears lib signIn message.conn userId ∧
            Machine.Respects (step lib) (fun server event => ∀ other,
              ¬server.Appears lib event other userId) (after lib (early ++ [signIn])) between := by
  have reachable := after_reachable lib events
  obtain ⟨added, split, addressed⟩ :=
    step_addressed lib reachable.wellFormed reachable.ownDescriptors event
  rw [after_concat]
  refine ⟨added, split, fun message member matchId about => ?_⟩
  refine (addressed message member).imp_right fun directed => ?_
  obtain ⟨userId, ⟨players, seated, seat⟩, client⟩ := directed matchId about
  obtain ⟨row, stored, rfl⟩ := Option.map_eq_some_iff.mp seated
  exact ⟨row, userId, stored, seat, pointers userId message.conn client,
    client_origin lib events client⟩

/-- The entries, looked through one by one. -/
theorem pointersListed_of_all {server : Server} (all : ∀ entry ∈ server.players.toList,
    ∃ listing ∈ server.net.clients.toList, listing.2 = entry.2.client) : server.PointersListed := by
  intro userId conn client
  obtain ⟨data, known, rfl⟩ := Option.map_eq_some_iff.mp client
  obtain ⟨⟨fd, listed⟩, member, rfl⟩ :=
    all (userId, data) (Std.ExtTreeMap.mem_toList_iff_getElem?_eq_some.mpr known)
  exact ⟨fd, Std.ExtTreeMap.mem_toList_iff_getElem?_eq_some.mp member⟩

end Runs

end Server

namespace Script

open Server

/-- What Alice and Bob are told about a shot of Alice. -/
theorem match_messages_private_duel :
    ∃ added, (after lib (duel ++ [sends 5 alice (.move 1 ⟨9, 9⟩)])).net.sent =
        (after lib duel).net.sent ++ added ∧
      ∀ message ∈ added, ∀ matchId, message.payload.matchId? = some matchId →
        (message.payload.isPlacementAck = true ∧ ∃ token request,
          (sends 5 alice (.move 1 ⟨9, 9⟩)).action = .message message.conn token request) ∨
        ∃ (row : Match) (userId : UserId),
          (after lib (duel ++ [sends 5 alice (.move 1 ⟨9, 9⟩)])).db.matchRows[matchId]? = some row ∧
          (userId = row.player1Id ∨ userId = row.player2Id) ∧
          (after lib duel).Lists message.conn ∧
          ∃ early signIn between, duel = early ++ signIn :: between ∧
            (after lib early).Appears lib signIn message.conn userId ∧
            Machine.Respects (step lib) (fun server event => ∀ other,
              ¬server.Appears lib event other userId) (after lib (early ++ [signIn])) between :=
  match_messages_private lib (pointersListed_of_all (by decide +kernel)) _

end Script

end Battleship
