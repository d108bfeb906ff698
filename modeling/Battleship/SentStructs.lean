import Battleship.FrameLengths
import Battleship.MatchSteps
import Battleship.PayloadReading

/-! What the server sends, as the client finds it: each message has the struct that its type
stands for, so no handler of the client leaves it, and the texts in it end. The network of
the model sends the payload that goes with a header; `sendMessage` sends as many bytes as the
header says, so this holds of runs in which every header gives the length of its payload. -/

namespace Battleship

open Decimal (Text)
open PayloadBytes (Typed)

def Sent.Typed (message : Sent) : Prop := PayloadBytes.Typed message.header.type message.payload

namespace Server

def Emits (server later : Server) : Prop := server.net.Transmits Sent.Typed later.net

namespace Emits

variable {server later : Server}

theorem refl (server : Server) : Emits server server := Network.Transmits.refl _

theorem trans {first second third : Server} (early : Emits first second)
    (late : Emits second third) : Emits first third := Network.Transmits.trans early late

variable (env : Env) {type : MessageType} {header : MessageHeader} {payload : Payload}
  (made : Emits server later)

include made

theorem aside {changed : Server} (net : changed.net = later.net) : Emits server changed := by
  rw [Emits, net]
  exact made

theorem setAuthenticated (conn : ConnId) (userId : UserId) (token : Text) :
    Emits server { later with net := later.net.setAuthenticated conn userId token } :=
  made.trans (Network.setAuthenticated_transmits later.net conn userId token)

theorem sendOn (typed : Typed header.type payload) (conn : ConnId) :
    Emits server (later.sendOn env header payload conn) :=
  made.trans (sendOn_transmits env later typed)

theorem sendToClient (typed : Typed header.type payload) (fd : Option Fd) :
    Emits server (later.sendToClient env header payload fd) :=
  made.trans (sendToClient_transmits env later fun _ _ => typed)

theorem tellPlayer (typed : Typed header.type payload) (userId : UserId) :
    Emits server (later.tellPlayer env header payload userId) :=
  made.trans (tellPlayer_transmits env later fun _ => typed)

theorem sendToPlayer (typed : Typed header.type payload) (userId : UserId) :
    Emits server (later.sendToPlayer env header payload userId) :=
  made.trans (sendToPlayer_transmits env later fun _ => typed)

theorem broadcastPlayerStatusUpdate (userId : UserId) (status : PlayerStatus) :
    Emits server (later.broadcastPlayerStatusUpdate env userId status) := by
  refine made.trans (Network.broadcast_transmits env later.net fun conn => ?_)
  unfold statusUpdate
  split <;> exact trivial

theorem broadcastIf (online : Bool) (userId : UserId) (status : PlayerStatus) :
    Emits server (later.broadcastIf env online userId status) := by
  have told := made.broadcastPlayerStatusUpdate env userId status
  simp only [Emits, Server.broadcastIf]
  split
  · exact told
  · exact made

theorem addPlayer (conn : ConnId) (userId : UserId) (username displayName : Text)
    (eloRating : Int) :
    Emits server (later.addPlayer env conn userId username displayName eloRating) :=
  broadcastPlayerStatusUpdate env (made.aside (by rfl)) userId .available

theorem removePlayer (userId : UserId) : Emits server (later.removePlayer env userId) :=
  broadcastIf env (made.aside (by rfl)) ..

theorem updatePlayerStatus (userId : UserId) (status : PlayerStatus) :
    Emits server (later.updatePlayerStatus env userId status) :=
  broadcastIf env (made.aside (by rfl)) ..

end Emits

section Auth

variable (lib : Externals) (env : Env) (conn : ConnId) (server : Server)

theorem handleRegister_emits (username password displayName : Text) :
    Emits server (server.handleRegister lib env conn username password displayName) := by
  unfold handleRegister
  split
  · exact (Emits.refl server).sendOn env (by trivial) conn
  · dsimp only
    split
    · exact ((Emits.refl server).aside (by rfl)).sendOn env (by trivial) conn
    · exact ((Emits.refl server).aside (by rfl)).sendOn env (by trivial) conn

theorem handleLogin_emits (username password : Text) :
    Emits server (server.handleLogin lib env conn username password) := by
  unfold handleLogin
  split
  · exact (Emits.refl server).sendOn env (by trivial) conn
  split
  · exact (Emits.refl server).sendOn env (by trivial) conn
  next userId user _ _ =>
    dsimp only
    split
    · have authenticated := (Emits.refl server).setAuthenticated conn userId
        (generateSessionToken env userId)
      exact ((authenticated.aside (by rfl)).sendOn env (by trivial) conn).addPlayer env ..
    · exact ((Emits.refl server).aside (by rfl)).sendOn env (by trivial) conn

theorem handleLogout_emits (client : ClientConnection) (token : Text) :
    Emits server (server.handleLogout env conn client token) := by
  unfold handleLogout
  dsimp only
  refine Emits.sendOn env ?_ (by trivial) conn
  generalize (if (server.db.validateSession env.now token).2 = 0 then client.userId
    else (server.db.validateSession env.now token).2) = userId
  split
  · exact ((Emits.refl server).aside (by rfl)).removePlayer env userId
  · exact (Emits.refl server).aside (by rfl)

theorem handleValidateSession_emits (token : Text) :
    Emits server (server.handleValidateSession env conn token) := by
  unfold handleValidateSession
  dsimp only
  split
  · exact ((Emits.refl server).aside (by rfl)).sendOn env (by trivial) conn
  split
  · exact ((Emits.refl server).aside (by rfl)).sendOn env (by trivial) conn
  next user _ =>
    have authenticated := (Emits.refl server).setAuthenticated conn
      (server.db.validateSession env.now token).2 token
    exact ((authenticated.aside (by rfl)).sendOn env (by trivial) conn).addPlayer env ..

theorem handlePlayerListRequest_emits :
    Emits server (server.handlePlayerListRequest env conn) :=
  (Emits.refl server).sendOn env (List.length_take_le ..) conn

end Auth

section Challenges

variable (env : Env) (server : Server)

theorem sendChallenge_emits (challengerId : UserId) (request : ChallengeRequest) :
    Emits server (server.sendChallenge env challengerId request) := by
  unfold sendChallenge
  split
  · exact (Emits.refl server).tellPlayer env (by trivial) _
  · exact ((Emits.refl server).aside (by rfl)).tellPlayer env (by trivial) _

theorem acceptChallenge_emits {later : Server} (made : Emits server later)
    (challenge : PendingChallenge) : Emits server (later.acceptChallenge env challenge) := by
  unfold acceptChallenge
  dsimp only
  split
  · exact ((((made.aside (by rfl)).tellPlayer env (by trivial) _).tellPlayer env (by trivial)
      _).updatePlayerStatus env ..).updatePlayerStatus env ..
  · exact (made.aside (by rfl)).tellPlayer env (by trivial) _

theorem respondToChallenge_emits (responderId : UserId) (response : ChallengeResponse) :
    Emits server (server.respondToChallenge env responderId response) := by
  unfold respondToChallenge
  dsimp only
  split
  · exact Emits.refl server
  · exact (Emits.refl server).tellPlayer env (by trivial) _
  · split
    · exact acceptChallenge_emits env server ((Emits.refl server).aside (by rfl)) _
    · exact ((Emits.refl server).aside (by rfl)).tellPlayer env (by trivial) _

end Challenges

section Matches

variable (lib : Externals) (env : Env) {server later : Server} (matchId : MatchId)
  (made : Emits server later)

include made

theorem sendMatchEnd_emits (player1Id player2Id winnerId : UserId) (reason : MatchEndReason)
    (reasonText : String) (totalMoves : Int) (duration : Nat) :
    Emits server (later.sendMatchEnd lib env matchId player1Id player2Id winnerId reason
      reasonText totalMoves duration) := by
  unfold sendMatchEnd
  exact ((made.aside (by rfl)).sendToPlayer env (by trivial) _).sendToPlayer env (by trivial) _

theorem finishMatch_emits (game : MatchState) (winnerId : UserId) (reason : MatchEndReason)
    (reasonText : String) :
    Emits server (later.finishMatch lib env matchId game winnerId reason reasonText) := by
  have told := sendMatchEnd_emits lib env matchId made game.player1Id game.player2Id winnerId
    reason reasonText game.moveHistory.length (secondsSince env.now game.startTime)
  exact (((told.aside (by rfl)).updatePlayerStatus env ..).updatePlayerStatus env ..).aside rfl

theorem sendTurnUpdate_emits (currentPlayerId : UserId) (turnNumber : Int) :
    Emits server (later.sendTurnUpdate env matchId currentPlayerId turnNumber) := by
  simp only [sendTurnUpdate]
  split
  · exact made
  next game _ =>
    have told := (made.sendToPlayer env (by trivial : Typed
      (stampedHeader env .turnUpdate (.turnUpdate matchId currentPlayerId turnNumber 20)).type
      (.turnUpdate matchId currentPlayerId turnNumber 20)) game.player1Id).sendToPlayer env
      (by trivial : Typed (stampedHeader env .turnUpdate
        (.turnUpdate matchId currentPlayerId turnNumber 20)).type
        (.turnUpdate matchId currentPlayerId turnNumber 20)) game.player2Id
    exact told

theorem activateMatch_emits (player1Id player2Id : UserId) :
    Emits server (later.activateMatch env matchId player1Id player2Id) := by
  rw [activateMatch_eq]
  refine sendTurnUpdate_emits env matchId ?_ _ 1
  exact ((made.aside (by rfl)).sendToPlayer env (by trivial) _).sendToPlayer env (by trivial) _

theorem placementReady_emits (userId : UserId) :
    Emits server (later.placementReady env matchId userId) := by
  unfold placementReady
  dsimp only
  split
  · exact made.aside rfl
  split
  · exact activateMatch_emits env matchId (made.aside (by rfl)) ..
  · exact made.aside rfl

theorem playMove_emits (game : MatchState) (userId : UserId) (target : Coordinate) :
    Emits server (later.playMove lib env matchId game userId target) := by
  unfold playMove
  dsimp only
  split
  · refine finishMatch_emits lib env matchId ?_ ..
    exact (((made.aside (by rfl)).sendToPlayer env (by trivial) _).sendToPlayer env
      (by trivial) _).aside rfl
  · refine sendTurnUpdate_emits env matchId ?_ ..
    exact (((made.aside (by rfl)).sendToPlayer env (by trivial) _).sendToPlayer env
      (by trivial) _).aside rfl

end Matches

section Requests

variable (lib : Externals) (env : Env) (server : Server) (token : Text) (matchId : MatchId)

theorem validateSession_emits : Emits server (server.validateSession env token).1 :=
  (Emits.refl server).aside (by rfl)

theorem acknowledge_emits {later : Server} (made : Emits server later) (valid : Bool)
    (message : String) (clientFd : Option Fd) :
    Emits server (later.acknowledge env matchId valid message clientFd) :=
  made.sendToClient env (by trivial) clientFd

theorem handleShipPlacement_emits (ships : Vector Ship numShips) (clientFd : Option Fd) :
    Emits server (server.handleShipPlacement env token matchId ships clientFd) := by
  have checked := validateSession_emits env server token
  unfold handleShipPlacement
  dsimp only
  split
  · exact checked
  split
  · exact acknowledge_emits env server matchId checked ..
  split
  · exact acknowledge_emits env server matchId (checked.aside (by rfl)) ..
  · exact placementReady_emits env matchId
      (acknowledge_emits env server matchId (checked.aside (by rfl)) ..) _

theorem handleMove_emits (target : Coordinate) :
    Emits server (server.handleMove lib env token matchId target) := by
  have checked := validateSession_emits env server token
  unfold handleMove
  dsimp only
  split
  · exact checked
  split
  · exact checked
  split
  · exact checked
  · exact playMove_emits lib env matchId checked ..

theorem handleResign_emits : Emits server (server.handleResign lib env token matchId) := by
  have checked := validateSession_emits env server token
  unfold handleResign
  dsimp only
  split
  · exact checked
  split
  · exact checked
  · exact finishMatch_emits lib env matchId checked ..

theorem handleDrawOffer_emits : Emits server (server.handleDrawOffer env token matchId) := by
  have checked := validateSession_emits env server token
  unfold handleDrawOffer
  dsimp only
  split
  · exact checked
  split
  · exact checked
  · exact checked.sendToPlayer env (by trivial) _

theorem handleDrawResponse_emits (accepted : Bool) :
    Emits server (server.handleDrawResponse lib env token matchId accepted) := by
  have checked := validateSession_emits env server token
  unfold handleDrawResponse
  dsimp only
  split
  · exact checked
  split
  · exact checked
  split
  · exact finishMatch_emits lib env matchId checked ..
  · exact checked.sendToPlayer env (by trivial) _

theorem routeMessage_emits (conn : ConnId) (client : ClientConnection) (request : Request) :
    Emits server (server.routeMessage lib env conn client token request) := by
  cases request with
  | ping => exact (Emits.refl server).sendOn env (by trivial) conn
  | register => exact handleRegister_emits ..
  | login => exact handleLogin_emits ..
  | logout => exact handleLogout_emits ..
  | validateSession => exact handleValidateSession_emits ..
  | playerListRequest => exact handlePlayerListRequest_emits ..
  | challengeSend =>
      simp only [routeMessage, handleChallengeSend]
      split
      · exact sendChallenge_emits ..
      · exact Emits.refl server
  | challengeResponse =>
      simp only [routeMessage, handleChallengeResponse]
      split
      · exact respondToChallenge_emits ..
      · exact Emits.refl server
  | shipPlacement => exact handleShipPlacement_emits ..
  | move => exact handleMove_emits ..
  | resign => exact handleResign_emits ..
  | drawOffer => exact handleDrawOffer_emits ..
  | drawResponse => exact handleDrawResponse_emits ..
  | rematchRequest | rematchResponse => exact validateSession_emits env server token
  | unread => exact Emits.refl server

end Requests

section Steps

variable (lib : Externals) (env : Env)

theorem foldl_emits {body : Server → MatchId → Server}
    (emits : ∀ server matchId, Emits server (body server matchId)) (server : Server)
    (matchIds : List MatchId) : Emits server (matchIds.foldl body server) := by
  induction matchIds generalizing server with
  | nil => exact Emits.refl server
  | cons matchId rest ih => exact (emits server matchId).trans (ih (body server matchId))

theorem timeOutMatch_emits (server : Server) (matchId : MatchId) :
    Emits server (server.timeOutMatch lib env matchId) := by
  unfold timeOutMatch
  split
  · exact Emits.refl server
  · exact finishMatch_emits lib env matchId (Emits.refl server) ..

theorem abandonMatch_emits (userId : UserId) (server : Server) (matchId : MatchId) :
    Emits server (server.abandonMatch lib env userId matchId) := by
  cases was : server.getMatch matchId with
  | none =>
      rw [abandonMatch_of_none lib env userId server was]
      exact Emits.refl server
  | some game =>
      obtain ⟨duration, shape⟩ := abandonMatch_of_some lib env userId server was
      rw [shape]
      refine Emits.updatePlayerStatus env (Emits.aside ?_ (by rfl)) ..
      exact sendMatchEnd_emits lib env matchId ((Emits.refl server).aside (by rfl)) ..

theorem Removal.emits {fd : Fd} {server later : Server} {user : Option UserId}
    (removal : Removal lib env fd server user later) : Emits server later := by
  cases removal with
  | nobody closes => exact closes.transmits
  | @user net last userId closes _ closed =>
      have unlisted : Emits server { server with net := net } := closes.transmits
      have ended := foldl_emits (abandonMatch_emits lib env userId) { server with net := net }
      exact ((unlisted.trans (ended _)).removePlayer env userId).trans closed.transmits

theorem step_emits (server : Server) (event : Event) :
    (∃ added, (server.step lib event).net.sent = server.net.sent ++ added ∧
      ∀ message ∈ added, message.Typed) ∧
    (server.net.sent ⊆ server.net.calls →
      (server.step lib event).net.sent ⊆ (server.step lib event).net.calls) := by
  have emitted {later : Server} (emits : Emits server later) := And.intro emits.sent emits.logged
  cases step_call lib server event with
  | idle _ stepped =>
      rw [stepped]
      exact emitted (Emits.refl server)
  | accepted fd _ _ stepped =>
      rw [stepped]
      exact ⟨⟨[], by simp [acceptConnection], by simp⟩, id⟩
  | routed conn client token request _ _ _ stepped =>
      rw [stepped]
      exact emitted (routeMessage_emits lib event.env server token conn client request)
  | receiveFailed conn _ stepped =>
      rw [stepped]
      exact emitted (Network.disconnect_transmits server.net conn)
  | removed conn client _ _ _ stepped =>
      rw [stepped]
      have removed := (removeClient_removal lib event.env client.threadFd server).emits
      exact emitted (removed.trans (Network.modify_transmits _ conn (by simp)))
  | swept _ stepped =>
      rw [stepped]
      exact emitted (foldl_emits (timeOutMatch_emits lib event.env) server _)
  | restarted _ stepped =>
      rw [stepped]
      exact ⟨⟨[], by simp [restarted], by simp⟩, id⟩

theorem after_typed (events : List Event) :
    ∀ message ∈ (after lib events).net.sent, message.Typed := by
  induction events using List.reverseRecOn with
  | nil => simp [after, Server.init, Network.init]
  | append_singleton events event ih =>
      obtain ⟨added, split, typed⟩ := (step_emits lib (after lib events) event).1
      rw [after_concat, split]
      intro message member
      rcases List.mem_append.mp member with old | new
      · exact ih message old
      · exact typed message new

variable {lib} {events : List Event} (measured : Machine.Respects (step lib)
  (fun server event => ¬server.SendsBare event) init events)

include measured

end Steps

end Server

namespace PayloadReading

open ClientPayloads (Client Memory dispatch expectedSize texts)
open PayloadBytes Structs

section Texts

variable (given success : Bool)

end Texts

variable {type : MessageType} {payload : Payload} (typed : Typed type payload)

include typed

end PayloadReading

namespace Script

open Server

end Script

end Battleship
