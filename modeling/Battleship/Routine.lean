import Mathlib.Logic.Relation
import Battleship.Statements
import Battleship.ServerRuns

/-! What the handlers do routinely: they store things, send messages whose header
gives the length of the payload, and change the status of players. Only the
authentication handlers, the refusal of a challenge and the removal of a client
do more. The handlers that leave the accounts alone are walked through once, as
`Work`; what follows of a handler's work is an induction over its acts. -/

namespace Battleship

open Decimal (Text)

def Payload.signsIn? : Payload → Option UserId
  | .loginResponse true userId .. => some userId
  | .sessionValidateResponse true userId .. => some userId
  | _ => Option.none

def NotSignIn (message : Sent) : Prop := message.payload.signsIn? = none

namespace Network

inductive SendsOne (env : Env) (net : Network) : Network → Prop
  | sent (type : MessageType) (payload : Payload) (conn : ConnId) :
      SendsOne env net (net.sendMessage env (stampedHeader env type payload) payload conn)

def Sends (env : Env) : Network → Network → Prop := Relation.ReflTransGen (SendsOne env)

inductive TellsOne (env : Env) (net : Network) : Network → Prop
  | sent (type : MessageType) {payload : Payload} (other : payload.signsIn? = none)
      (conn : ConnId) :
      TellsOne env net (net.sendMessage env (stampedHeader env type payload) payload conn)

def Tells (env : Env) : Network → Network → Prop := Relation.ReflTransGen (TellsOne env)

namespace Tells

variable {env : Env} {net later : Network}

theorem refl (env : Env) (net : Network) : Tells env net net := Relation.ReflTransGen.refl

theorem sends (tells : Tells env net later) : Sends env net later := by
  refine Relation.ReflTransGen.mono ?_ net later tells
  rintro current next ⟨type, other, conn⟩
  exact .sent type _ conn

section Sending

variable (env net) {payload : Payload} (other : payload.signsIn? = none) (type : MessageType)

include other

theorem sendMessage (conn : ConnId) :
    Tells env net (net.sendMessage env (stampedHeader env type payload) payload conn) :=
  Relation.ReflTransGen.single (.sent type other conn)

theorem sendToClient (fd : Option Fd) :
    Tells env net (net.sendToClient env (stampedHeader env type payload) payload fd) := by
  unfold Network.sendToClient
  split
  · exact refl env net
  · exact sendMessage env net other type _

theorem broadcast : Tells env net (net.broadcast env (stampedHeader env type payload) payload) :=
  List.foldlRecOn (motive := fun later => Tells env net later) _ _ (refl env net)
    fun _ tells entry _ => tells.tail (.sent type other entry.2)

end Sending

end Tells

end Network

def Request.authenticates : Request → Bool
  | .register .. | .login .. | .logout .. | .validateSession .. => true
  | _ => false

def Request.duty : Request → Duty
  | .challengeSend .. | .challengeResponse .. => .pairing
  | .shipPlacement .. => .placing
  | .move .. => .moving
  | _ => .other

namespace Server

inductive RoutineAct (env : Env) (server : Server) : Server → Prop
  | store (db : Database) (manager : ChallengeManager) (games : Games)
      (journal : List MatchEffect) : RoutineAct env server { server with
        db := db
        manager := manager
        games := games
        journal := journal }
  | sends {net : Network} (sends : Network.Sends env server.net net) :
      RoutineAct env server { server with net := net }
  | status (userId : UserId) {status : PlayerStatus} (present : status ≠ .offline) :
      RoutineAct env server { server with
        players := server.players.modify userId fun data => { data with status := status } }

def Routine (env : Env) : Server → Server → Prop := Relation.ReflTransGen (RoutineAct env)

/-- A routine act that leaves the accounts alone. Only the pairing of players touches the
challenges and the rows of matches, only a placement starts a match, and only a move changes
one before it is removed. -/
inductive WorkAct (duty : Duty) (env : Env) (server : Server) : Server → Prop
  | statement {db : Database} (made : server.db.Statement duty env.now db) :
      WorkAct duty env server { server with db := db }
  | createMatch (pairs : duty = .pairing) (player1Id player2Id : UserId) :
      WorkAct duty env server
        { server with db := (server.db.createMatch env.now player1Id player2Id).1 }
  | manager (pairs : duty = .pairing) (manager : ChallengeManager) :
      WorkAct duty env server { server with manager := manager }
  | games (places : duty = .placing) (games : Games) :
      WorkAct duty env server { server with games := games }
  | setMatch (moves : duty = .moving) {matchId : MatchId}
      (active : server.getMatch matchId ≠ none) (game : MatchState) :
      WorkAct duty env server (server.setMatch matchId game)
  | removeMatch {matchId : MatchId} (active : server.getMatch matchId ≠ none) :
      WorkAct duty env server (server.removeMatch matchId)
  | journal (journal : List MatchEffect) :
      WorkAct duty env server { server with journal := journal }
  | tells {net : Network} (tells : Network.Tells env server.net net) :
      WorkAct duty env server { server with net := net }
  | status (userId : UserId) {status : PlayerStatus} (present : status ≠ .offline) :
      WorkAct duty env server { server with
        players := server.players.modify userId fun data => { data with status := status } }

def Work (duty : Duty) (env : Env) : Server → Server → Prop :=
  Relation.ReflTransGen (WorkAct duty env)

theorem statusUpdate_signsIn (players : Table UserId PlayerData) (userId : UserId)
    (status : PlayerStatus) : (statusUpdate players userId status).signsIn? = none := by
  unfold statusUpdate
  split <;> rfl

namespace Work

variable {duty : Duty} {env : Env} {server later : Server}

theorem refl (server : Server) : Work duty env server server := Relation.ReflTransGen.refl

variable (kept : Work duty env server later)

include kept

theorem routine : Routine env server later := by
  refine Relation.ReflTransGen.mono ?_ server later kept
  rintro current next act
  cases act with
  | statement made => exact .store _ current.manager current.games current.journal
  | createMatch pairs player1Id player2Id =>
      exact .store _ current.manager current.games current.journal
  | manager pairs manager => exact .store current.db manager current.games current.journal
  | games | setMatch | removeMatch => exact .store current.db current.manager _ current.journal
  | journal journal => exact .store current.db current.manager current.games journal
  | tells tells => exact .sends tells.sends
  | status userId present => exact .status userId present

theorem withDb {db : Database} (made : later.db.Statement duty env.now db) :
    Work duty env server { later with db := db } :=
  kept.tail (.statement made)

theorem withNet {net : Network} (tells : Network.Tells env later.net net) :
    Work duty env server { later with net := net } :=
  kept.tail (.tells tells)

section Sending

variable {payload : Payload} (other : payload.signsIn? = none) (type : MessageType)

include other

theorem sendOn (conn : ConnId) :
    Work duty env server (later.sendOn env (stampedHeader env type payload) payload conn) :=
  kept.withNet (.sendMessage env later.net other type conn)

theorem sendToClient (fd : Option Fd) :
    Work duty env server (later.sendToClient env (stampedHeader env type payload) payload fd) :=
  kept.withNet (.sendToClient env later.net other type fd)

theorem tellPlayer (userId : UserId) :
    Work duty env server
      (later.tellPlayer env (stampedHeader env type payload) payload userId) := by
  refine kept.withNet ?_
  split
  · exact .refl env later.net
  · exact .sendMessage env later.net other type _

theorem sendToPlayer (userId : UserId) :
    Work duty env server
      (later.sendToPlayer env (stampedHeader env type payload) payload userId) := by
  refine kept.withNet ?_
  split
  · exact .refl env later.net
  · exact .sendToClient env later.net other type _

end Sending

theorem broadcastPlayerStatusUpdate (userId : UserId) (status : PlayerStatus) :
    Work duty env server (later.broadcastPlayerStatusUpdate env userId status) :=
  kept.withNet (.broadcast env later.net (statusUpdate_signsIn later.players userId status) _)

theorem broadcastIf (online : Bool) (userId : UserId) (status : PlayerStatus) :
    Work duty env server (later.broadcastIf env online userId status) := by
  refine kept.withNet ?_
  split
  · exact .broadcast env later.net (statusUpdate_signsIn later.players userId status) _
  · exact .refl env later.net

theorem removeMatch {matchId : MatchId} (active : later.getMatch matchId ≠ none) :
    Work duty env server (later.removeMatch matchId) :=
  kept.tail (.removeMatch active)

theorem updatePlayerStatus (userId : UserId) (status : PlayerStatus)
    (present : status ≠ .offline) :
    Work duty env server (later.updatePlayerStatus env userId status) :=
  broadcastIf (kept.tail (.status userId present)) (later.isPlayerOnline userId) userId status

theorem updateEloRating (matchId : MatchId) (userId : UserId) (newElo : Int) :
    Work duty env server (later.updateEloRating matchId userId newElo) :=
  (kept.withDb (.updateEloRating userId newElo)).tail (.journal _)

theorem endMatch (matchId : MatchId) (winnerId : UserId) :
    Work duty env server (later.endMatch env matchId winnerId) :=
  (kept.withDb (.endMatch matchId winnerId)).tail (.journal _)

theorem validateSession (token : Text) :
    Work duty env server (later.validateSession env token).1 :=
  kept.withDb (.validateSession token)

end Work

theorem removePlayer_work (env : Env) (userId : UserId) (server : Server) :
    Work .other env { server with players := server.players.erase userId }
      (server.removePlayer env userId) :=
  (Work.refl { server with players := server.players.erase userId }).broadcastIf
    (server.isPlayerOnline userId) userId .offline

section Challenges

theorem Work.withManager {env : Env} {server later : Server}
    (kept : Work .pairing env server later) (manager : ChallengeManager) :
    Work .pairing env server { later with manager := manager } :=
  kept.tail (.manager rfl manager)

variable (env : Env) (challenge : PendingChallenge) {server later : Server}
  (kept : Work .pairing env server later)

include kept

theorem notifyChallenger_work (accepted : Bool) (error : String) :
    Work .pairing env server (later.notifyChallenger env challenge accepted error) :=
  kept.tellPlayer rfl ..

theorem announceMatch_work (matchId : MatchId) :
    Work .pairing env server (later.announceMatch env challenge matchId) :=
  (((kept.tellPlayer rfl ..).tellPlayer rfl ..).updatePlayerStatus _ _
    (by decide)).updatePlayerStatus _ _ (by decide)

theorem acceptChallenge_work : Work .pairing env server (later.acceptChallenge env challenge) := by
  have created := kept.tail (.createMatch rfl challenge.challengerId challenge.targetId)
  unfold acceptChallenge
  dsimp only
  split
  · exact announceMatch_work env challenge created _
  · exact notifyChallenger_work env challenge created ..

end Challenges

/-- What a handler comes to: work, or the refusal of a challenge, whose header has no length. -/
inductive HandlerWork (duty : Duty) (env : Env) (server : Server) : Server → Prop
  | work {later : Server} (kept : Work duty env server later) : HandlerWork duty env server later
  | refusal (pairs : duty = .pairing) {payload : Payload} (other : payload.signsIn? = none)
      (userId : UserId) : HandlerWork duty env server
        (server.tellPlayer env (bareHeader .challengeResponse) payload userId)

theorem HandlerWork.unpairing {duty : Duty} {env : Env} {server later : Server}
    (work : HandlerWork duty env server later) (other : duty ≠ .pairing) :
    Work duty env server later := by
  cases work with
  | work kept => exact kept
  | refusal pairs => exact absurd pairs other

theorem handleChallengeSend_work (env : Env) (server : Server) (client : ClientConnection)
    (request : ChallengeRequest) :
    HandlerWork .pairing env server (server.handleChallengeSend env client request) := by
  have same : Work .pairing env server server := .refl server
  rw [handleChallengeSend, sendChallenge]
  split
  · split
    · exact .refusal rfl rfl client.userId
    · exact .work ((same.withManager _).tellPlayer rfl ..)
  · exact .work same

theorem handleChallengeResponse_work (env : Env) (server : Server) (client : ClientConnection)
    (response : ChallengeResponse) :
    HandlerWork .pairing env server (server.handleChallengeResponse env client response) := by
  have same : Work .pairing env server server := .refl server
  have taken := same.withManager
    (server.manager.takeChallenge client.userId response.challengeId).1
  rw [handleChallengeResponse, respondToChallenge]
  split
  case isFalse => exact .work same
  dsimp only
  split
  · exact .work same
  · exact .refusal rfl rfl client.userId
  split
  · exact .work (acceptChallenge_work env _ taken)
  · exact .work (notifyChallenger_work env _ taken ..)

section Gameplay

variable (lib : Externals) (env : Env) (matchId : MatchId) {duty : Duty} {server later : Server}

section Endings

variable (kept : Work duty env server later)

include kept

theorem sendMatchReady_work (player1Id player2Id : UserId) :
    Work duty env server (later.sendMatchReady env matchId player1Id player2Id) :=
  (kept.sendToPlayer rfl ..).sendToPlayer rfl ..

theorem sendMoveResult_work (shooterId targetId : UserId) (target : Coordinate)
    (result : ShotResult) (shipSunk : ShipType) (shipsRemaining : Int) (gameOver : Bool)
    (winnerId : UserId) :
    Work duty env server (later.sendMoveResult env matchId shooterId targetId target result shipSunk
      shipsRemaining gameOver winnerId) :=
  (kept.sendToPlayer rfl ..).sendToPlayer rfl ..

theorem sendTurnUpdate_work (currentPlayerId : UserId) (turnNumber : Int) :
    Work duty env server (later.sendTurnUpdate env matchId currentPlayerId turnNumber) := by
  unfold sendTurnUpdate
  dsimp only
  split
  · exact kept
  · exact (kept.sendToPlayer rfl ..).sendToPlayer rfl ..

theorem sendMatchEnd_work (player1Id player2Id winnerId : UserId) (reason : MatchEndReason)
    (reasonText : String) (totalMoves : Int) (duration : Nat) :
    Work duty env server (later.sendMatchEnd lib env matchId player1Id player2Id winnerId reason
      reasonText totalMoves duration) := by
  let new := newElos lib player1Id player2Id winnerId (later.oldElo player1Id)
    (later.oldElo player2Id)
  have announced : Work duty env server (later.announceEnd matchId winnerId reason) :=
    kept.tail (.journal _)
  have rated := (announced.updateEloRating matchId player1Id new.1).updateEloRating matchId
    player2Id new.2
  exact (rated.sendToPlayer rfl ..).sendToPlayer rfl ..

theorem finishMatch_work (active : later.getMatch matchId ≠ none) (game : MatchState)
    (winnerId : UserId) (reason : MatchEndReason) (reasonText : String) :
    Work duty env server (later.finishMatch lib env matchId game winnerId reason reasonText) := by
  have announced := sendMatchEnd_work lib env matchId kept game.player1Id game.player2Id winnerId
    reason reasonText game.moveHistory.length (secondsSince env.now game.startTime)
  have recorded := announced.endMatch matchId winnerId
  exact ((recorded.updatePlayerStatus game.player1Id .available
    (by decide)).updatePlayerStatus game.player2Id .available (by decide)).removeMatch active

theorem timeOutMatch_work : Work duty env server (later.timeOutMatch lib env matchId) := by
  unfold timeOutMatch
  split
  · exact kept
  next found => exact finishMatch_work lib env matchId kept (by simp [found]) ..

theorem abandonMatch_work (userId : UserId) :
    Work duty env server (later.abandonMatch lib env userId matchId) := by
  unfold abandonMatch
  split
  · exact kept
  next game found =>
    have recorded := kept.endMatch matchId (game.opponent userId)
    have announced := sendMatchEnd_work lib env matchId recorded game.player1Id game.player2Id
      (game.opponent userId) .disconnect "Opponent disconnected" game.turnNumber
      (if game.startTime > 0 then secondsSince env.now game.startTime else 0)
    exact (announced.removeMatch (by exact found ▸ Option.some_ne_none game)).updatePlayerStatus
      _ _ (by decide)

end Endings

section Placements

variable (kept : Work .placing env server later)

include kept

theorem activateMatch_work (player1Id player2Id : UserId) :
    Work .placing env server (later.activateMatch env matchId player1Id player2Id) := by
  unfold activateMatch
  have created : Work .placing env server (later.createMatch matchId player1Id player2Id) :=
    kept.tail (.games rfl _)
  dsimp only
  split
  · exact created
  · exact sendTurnUpdate_work env matchId
      (sendMatchReady_work env matchId (created.tail (.games rfl _)) ..) ..

theorem placementReady_work (userId : UserId) :
    Work .placing env server (later.placementReady env matchId userId) := by
  unfold placementReady
  have marked : Work .placing env server (later.markReady matchId userId) := kept.tail (.games rfl _)
  dsimp only
  split
  · exact marked
  split
  · exact activateMatch_work env matchId marked ..
  · exact marked

theorem handleShipPlacement_work (token : Text) (ships : Vector Ship numShips)
    (clientFd : Option Fd) :
    Work .placing env server (later.handleShipPlacement env token matchId ships clientFd) := by
  unfold handleShipPlacement
  have checked := kept.validateSession token
  dsimp only
  split
  · exact checked
  split
  · exact checked.sendToClient rfl ..
  have saved := checked.withDb
    (.saveShipPlacement rfl matchId (later.validateSession env token).2 (encodeShips ships))
  split
  · exact saved.sendToClient rfl ..
  · exact placementReady_work env matchId (saved.sendToClient rfl ..) _

end Placements

section Moves

variable (kept : Work .moving env server later)

include kept

theorem playMove_work (active : later.getMatch matchId ≠ none) (game : MatchState)
    (userId : UserId) (target : Coordinate) :
    Work .moving env server (later.playMove lib env matchId game userId target) := by
  have played : Work .moving env server
      (later.setMatch matchId (game.processMove env.now userId target).1) :=
    kept.tail (.setMatch rfl active _)
  have stays : (later.setMatch matchId (game.processMove env.now userId target).1).getMatch
      matchId ≠ none := by simp [setMatch, getMatch]
  unfold playMove
  dsimp only
  split
  · exact finishMatch_work lib env matchId
      ((sendMoveResult_work env matchId played ..).withDb (.saveMove rfl ..)) stays ..
  · exact sendTurnUpdate_work env matchId
      ((sendMoveResult_work env matchId played ..).withDb (.saveMove rfl ..)) ..

theorem handleMove_work (token : Text) (target : Coordinate) :
    Work .moving env server (later.handleMove lib env token matchId target) := by
  unfold handleMove
  have checked := kept.validateSession token
  dsimp only
  split
  · exact checked
  split
  · exact checked
  next found =>
    split
    · exact checked
    · exact playMove_work lib env matchId checked (by simp [found]) ..

end Moves

section Requests

variable (kept : Work .other env server later)

include kept

theorem checkTurnTimeouts_work : Work .other env server (later.checkTurnTimeouts lib env) :=
  List.foldlRecOn (motive := fun current => Work .other env server current) _ _ kept
    fun _ kept matchId _ => timeOutMatch_work lib env matchId kept

theorem handlePlayerDisconnect_work (userId : UserId) :
    Work .other env server (later.handlePlayerDisconnect lib env userId) :=
  List.foldlRecOn (motive := fun current => Work .other env server current) _ _ kept
    fun _ kept matchId _ => abandonMatch_work lib env matchId kept userId

theorem handleResign_work (token : Text) :
    Work .other env server (later.handleResign lib env token matchId) := by
  unfold handleResign
  have checked := kept.validateSession token
  dsimp only
  split
  · exact checked
  split
  · exact checked
  next found => exact finishMatch_work lib env matchId checked (by simp [found]) ..

theorem handleDrawOffer_work (token : Text) :
    Work .other env server (later.handleDrawOffer env token matchId) := by
  unfold handleDrawOffer
  have checked := kept.validateSession token
  dsimp only
  split
  · exact checked
  split
  · exact checked
  · exact checked.sendToPlayer rfl ..

theorem handleDrawResponse_work (token : Text) (accepted : Bool) :
    Work .other env server (later.handleDrawResponse lib env token matchId accepted) := by
  unfold handleDrawResponse
  have checked := kept.validateSession token
  dsimp only
  split
  · exact checked
  split
  · exact checked
  next found =>
    split
    · exact finishMatch_work lib env matchId checked (by simp [found]) ..
    · exact checked.sendToPlayer rfl ..

end Requests

end Gameplay

namespace Routine

theorem refl (env : Env) (server : Server) : Routine env server server := Relation.ReflTransGen.refl

variable {env : Env} {server later : Server} (kept : Routine env server later)

include kept

theorem withDb (db : Database) : Routine env server { later with db := db } :=
  kept.tail (.store db later.manager later.games later.journal)

theorem sendOn (type : MessageType) (payload : Payload) (conn : ConnId) :
    Routine env server (later.sendOn env (stampedHeader env type payload) payload conn) :=
  kept.tail (.sends (Relation.ReflTransGen.single (.sent type payload conn)))

theorem work {last : Server} (work : Work .other env later last) : Routine env server last :=
  kept.trans work.routine

end Routine

section Auth

variable (lib : Externals) (env : Env)

def loginUser (username password : Text) (server : Server) : Option UserId :=
  match server.db.getUserByUsername username with
  | none => none
  | some (userId, user) =>
      if PasswordHash.verifyPassword lib password user.passwordHash ∧
          (server.db.createSession env.now userId (generateSessionToken env userId) 24).2 > 0 then
        some userId
      else none

def validatedUser (token : Text) (server : Server) : Option UserId :=
  let checked := server.db.validateSession env.now token
  if checked.2 = 0 then none else (checked.1.getUserById checked.2).map fun _ => checked.2

def logoutUser (client : ClientConnection) (token : Text) (server : Server) : UserId :=
  if (server.db.validateSession env.now token).2 = 0 then client.userId
  else (server.db.validateSession env.now token).2

def Presents (conn : ConnId) (userId : UserId) (server later : Server) : Prop :=
  ∃ (db : Database) (token : Text) (data : PlayerData),
    server.db.users[userId]?.map User.eloRating = some data.eloRating ∧
      data.client = conn ∧ data.status = .available ∧
      later.players = server.players.insert userId data ∧
      Routine env { server with
        db := db
        net := server.net.setAuthenticated conn userId token
        players := server.players.insert userId data } later

variable (conn : ConnId) (server : Server)

theorem handleRegister_routine (username password displayName : Text) :
    Routine env server (server.handleRegister lib env conn username password displayName) := by
  unfold handleRegister
  split
  · exact (Routine.refl env server).sendOn _ _ conn
  dsimp only
  split <;> exact ((Routine.refl env server).withDb _).sendOn _ _ conn

theorem handleLogin_refused {username password : Text}
    (refused : server.loginUser lib env username password = none) :
    Routine env server (server.handleLogin lib env conn username password) := by
  unfold loginUser at refused
  unfold handleLogin
  cases found : server.db.getUserByUsername username with
  | none => exact (Routine.refl env server).sendOn _ _ conn
  | some entry =>
      obtain ⟨userId, user⟩ := entry
      simp only [found] at refused ⊢
      split
      · exact (Routine.refl env server).sendOn _ _ conn
      next verified =>
        have failed : ¬(server.db.createSession env.now userId (generateSessionToken env userId)
            24).2 > 0 := by
          intro created
          simp [created] at refused
          simp [refused] at verified
        rw [if_neg failed]
        exact ((Routine.refl env server).withDb _).sendOn _ _ conn

theorem addPlayer_presents (db : Database) {userId : UserId} (token username displayName : Text)
    {eloRating : Int} (known : server.db.users[userId]?.map User.eloRating = some eloRating)
    (response : Payload) :
    Presents env conn userId server
      (({ server with
        db := db
        net := server.net.setAuthenticated conn userId token }.sendResponse env conn
          response).addPlayer env conn userId username displayName eloRating) := by
  refine ⟨db, token, ⟨username, displayName, eloRating, .available, conn⟩, known, rfl, rfl, rfl, ?_⟩
  have answered := (Routine.refl env { server with
    db := db
    net := server.net.setAuthenticated conn userId token
    players := server.players.insert userId ⟨username, displayName, eloRating, .available, conn⟩
    }).sendOn .authResponse response conn
  exact answered.work ((Work.refl _).broadcastPlayerStatusUpdate userId .available)

theorem handleLogin_presents {username password : Text} {userId : UserId}
    (authenticated : server.loginUser lib env username password = some userId) :
    Presents env conn userId server (server.handleLogin lib env conn username password) := by
  unfold loginUser at authenticated
  split at authenticated
  case h_1 => simp at authenticated
  case h_2 found user known =>
      split_ifs at authenticated with verified
      obtain rfl := Option.some.inj authenticated
      have stored : server.db.users[found]? = some user :=
        Std.ExtTreeMap.mem_toList_iff_getElem?_eq_some.mp (List.mem_of_find?_eq_some known)
      unfold handleLogin
      simp only [known, verified.1, verified.2, Bool.not_true, Bool.false_eq_true, if_false, if_true]
      exact addPlayer_presents env conn server _ _ _ _ (by rw [stored]; rfl) _

theorem handleValidateSession_refused {token : Text}
    (refused : server.validatedUser env token = none) :
    Routine env server (server.handleValidateSession env conn token) := by
  have checked := (Routine.refl env server).withDb (server.db.validateSession env.now token).1
  unfold validatedUser at refused
  unfold handleValidateSession
  dsimp only at refused ⊢
  split
  · exact checked.sendOn _ _ conn
  next present =>
    rw [if_neg present, Option.map_eq_none_iff] at refused
    simp only [refused]
    exact checked.sendOn _ _ conn

theorem handleValidateSession_presents {token : Text} {userId : UserId}
    (authenticated : server.validatedUser env token = some userId) :
    Presents env conn userId server (server.handleValidateSession env conn token) := by
  unfold validatedUser at authenticated
  dsimp only at authenticated
  split_ifs at authenticated with absent
  obtain ⟨user, known, rfl⟩ := Option.map_eq_some_iff.mp authenticated
  have stored : server.db.users[(server.db.validateSession env.now token).2]? = some user := by
    rw [← Database.validateSession_users env.now token]
    exact known
  unfold handleValidateSession
  simp only [absent, if_false, known]
  exact addPlayer_presents env conn server _ _ _ _ (by rw [stored]; rfl) _

theorem handleLogout_routine (client : ClientConnection) (token : Text) :
    Routine env
      (if server.logoutUser env client token > 0 then
        { server with players := server.players.erase (server.logoutUser env client token) }
      else server) (server.handleLogout env conn client token) := by
  have chosen : server.logoutUser env client token =
      if (server.db.validateSession env.now token).2 = 0 then client.userId
      else (server.db.validateSession env.now token).2 := rfl
  unfold handleLogout
  dsimp only
  rw [← chosen]
  generalize server.logoutUser env client token = userId
  split
  · have removed := (Routine.refl env { server with players := server.players.erase userId }).withDb
      ((server.db.validateSession env.now token).1.deleteSession token)
    exact (removed.work ((Work.refl _).broadcastIf (server.isPlayerOnline userId) userId
      .offline)).sendOn ..
  · exact ((Routine.refl env server).withDb _).sendOn ..

end Auth

section Requests

variable (lib : Externals) (env : Env) (conn : ConnId) (client : ClientConnection) (token : Text)
  {request : Request} (server : Server)

theorem routeMessage_work (plain : request.authenticates = false) :
    HandlerWork request.duty env server
      (server.routeMessage lib env conn client token request) := by
  cases request with
  | register | login | logout | validateSession => cases plain
  | challengeSend targetUserId timeLimit randomPlacement =>
      exact handleChallengeSend_work env server client ⟨targetUserId, timeLimit, randomPlacement⟩
  | challengeResponse challengeId accepted =>
      exact handleChallengeResponse_work env server client ⟨challengeId, accepted⟩
  | ping | playerListRequest => exact .work ((Work.refl server).sendOn rfl ..)
  | shipPlacement matchId ships =>
      exact .work (handleShipPlacement_work env matchId (.refl server) ..)
  | move matchId target => exact .work (handleMove_work lib env matchId (.refl server) ..)
  | resign matchId => exact .work (handleResign_work lib env matchId (.refl server) _)
  | drawOffer matchId => exact .work (handleDrawOffer_work env matchId (.refl server) _)
  | drawResponse matchId accepted =>
      exact .work (handleDrawResponse_work lib env matchId (.refl server) ..)
  | rematchRequest | rematchResponse => exact .work ((Work.refl server).validateSession token)
  | unread => exact .work (.refl server)

theorem routeMessage_aside (authenticating : request.authenticates = true) :
    server.Aside (server.routeMessage lib env conn client token request) := by
  cases request with
  | register => exact handleRegister_aside ..
  | login => exact handleLogin_aside ..
  | logout => exact handleLogout_aside ..
  | validateSession => exact handleValidateSession_aside ..
  | _ => cases authenticating

end Requests

end Server

end Battleship
