import Battleship.Library.Framing
import Battleship.ServerRuns

/-! Messages of a running match that are turned away: too short, without a session, for a
match that is not active, or a shot out of turn. They leave the server as it was. -/

namespace Battleship

open Decimal (Text)

inductive PlayType
  | move | resign | drawOffer | drawResponse
deriving DecidableEq

namespace PlayType

def messageType : PlayType → MessageType
  | move => .move
  | resign => .resign
  | drawOffer => .drawOffer
  | drawResponse => .drawResponse

def structSize : PlayType → Nat
  | move => 6
  | resign => 4
  | drawOffer => 4
  | drawResponse => 5

end PlayType

def readMatchId (payload : List UInt8) : MatchId := LittleEndian.read (payload.take 4)

def PlayType.struct (type : PlayType) (payload : List UInt8) : Request :=
  let matchId := readMatchId payload
  match type with
  | move => .move matchId ⟨(payload.getD 4 0).toInt8, (payload.getD 5 0).toInt8⟩
  | resign => .resign matchId
  | drawOffer => .drawOffer matchId
  | drawResponse => .drawResponse matchId (payload.getD 4 0 ≠ 0)

def PlayType.request (type : PlayType) (payload : List UInt8) : Request :=
  if type.structSize ≤ payload.length then type.struct payload else .unread type.messageType

namespace Server

def Rejects (server : Server) (env : Env) (token : Text) (type : PlayType) (payload : List UInt8) :
    Prop :=
  payload.length < type.structSize ∨ server.sessionUser env token = 0 ∨
    server.getMatch (readMatchId payload) = none ∨
    type = .move ∧ ∀ game, server.getMatch (readMatchId payload) = some game →
      game.currentTurnPlayerId ≠ server.sessionUser env token

/-- Nothing has happened, but that the session of the token may be gone if it has expired. -/
def NoEffect (env : Env) (token : Text) (server later : Server) : Prop :=
  later = server ∨ ∃ session, server.db.getSessionByToken token = some session ∧
    session.isExpired env.now = true ∧ later = { server with db := { server.db with
      sessions := server.db.sessions.filter fun session => session.sessionToken ≠ token } }

section Rejected

variable (lib : Externals) (env : Env) (server : Server) (token : Text)

theorem validateSession_noEffect : NoEffect env token server (server.validateSession env token).1 := by
  unfold validateSession Database.validateSession
  cases found : server.db.getSessionByToken token with
  | none => exact Or.inl rfl
  | some session =>
      dsimp only
      split
      next expired => exact Or.inr ⟨session, found, expired, rfl⟩
      · exact Or.inl rfl

theorem handleMove_rejected {matchId : MatchId} (target : Coordinate)
    (rejected : server.sessionUser env token = 0 ∨ ∀ game, server.getMatch matchId = some game →
      game.currentTurnPlayerId ≠ server.sessionUser env token) :
    server.handleMove lib env token matchId target = (server.validateSession env token).1 := by
  unfold handleMove
  dsimp only
  split
  · rfl
  next valid =>
    split
    · rfl
    next game found =>
      rcases rejected with invalid | turn
      · exact absurd invalid valid
      · exact if_pos (turn game found)

theorem handleResign_rejected {matchId : MatchId}
    (rejected : server.sessionUser env token = 0 ∨ server.getMatch matchId = none) :
    server.handleResign lib env token matchId = (server.validateSession env token).1 := by
  unfold handleResign
  dsimp only
  split
  · rfl
  next valid =>
    have gone : (server.validateSession env token).1.getMatch matchId = none :=
      rejected.resolve_left valid
    rw [gone]

theorem handleDrawOffer_rejected {matchId : MatchId}
    (rejected : server.sessionUser env token = 0 ∨ server.getMatch matchId = none) :
    server.handleDrawOffer env token matchId = (server.validateSession env token).1 := by
  unfold handleDrawOffer
  dsimp only
  split
  · rfl
  next valid =>
    have gone : (server.validateSession env token).1.getMatch matchId = none :=
      rejected.resolve_left valid
    rw [gone]

theorem handleDrawResponse_rejected {matchId : MatchId} (accepted : Bool)
    (rejected : server.sessionUser env token = 0 ∨ server.getMatch matchId = none) :
    server.handleDrawResponse lib env token matchId accepted =
      (server.validateSession env token).1 := by
  unfold handleDrawResponse
  dsimp only
  split
  · rfl
  next valid =>
    have gone : (server.validateSession env token).1.getMatch matchId = none :=
      rejected.resolve_left valid
    rw [gone]

theorem routeMessage_rejected (conn : ConnId) (client : ClientConnection) {type : PlayType}
    {payload : List UInt8} (rejected : server.Rejects env token type payload) :
    NoEffect env token server
      (server.routeMessage lib env conn client token (type.request payload)) := by
  have checked := validateSession_noEffect env server token
  unfold PlayType.request
  split
  next long =>
    have rejected := rejected.resolve_left (by omega)
    cases type with
    | move =>
        rw [PlayType.struct, routeMessage, handleMove_rejected]
        · exact checked
        · refine rejected.imp_right ?_
          rintro (absent | ⟨-, turn⟩) game found
          · rw [absent] at found
            cases found
          · exact turn game found
    | resign =>
        rw [PlayType.struct, routeMessage, handleResign_rejected]
        · exact checked
        · simpa using rejected
    | drawOffer =>
        rw [PlayType.struct, routeMessage, handleDrawOffer_rejected]
        · exact checked
        · simpa using rejected
    | drawResponse =>
        rw [PlayType.struct, routeMessage, handleDrawResponse_rejected]
        · exact checked
        · simpa using rejected
  · exact Or.inl rfl

/-- A message that is turned away has no effect, on whatever connection it arrives. -/
theorem step_rejected (conn : ConnId) {type : PlayType} {payload : List UInt8}
    (rejected : server.Rejects env token type payload) :
    NoEffect env token server
      (server.step lib ⟨env, .message conn token (type.request payload)⟩) := by
  simp only [step]
  split
  · exact Or.inl rfl
  next client _ =>
    split
    · exact routeMessage_rejected lib env server token conn client rejected
    · exact Or.inl rfl

end Rejected

end Server

namespace Script

open Server

/-- Bob shoots at A1 of Alice's board in her turn. -/
theorem bobShoots_noEffect : NoEffect (env 5) (token bob) (after lib duel)
    ((after lib duel).step lib ⟨env 5, .message 1 (token bob) (PlayType.move.request
      [1, 0, 0, 0, 0, 0])⟩) := by
  refine step_rejected lib (env 5) (after lib duel) (token bob) 1 ?_
  have turn : ((after lib duel).getMatch 1).map MatchState.currentTurnPlayerId = some alice := by
    decide +kernel
  have user : (after lib duel).sessionUser (env 5) (token bob) = bob := by decide +kernel
  refine Or.inr (Or.inr (Or.inr ⟨rfl, ?_⟩))
  intro game found
  rw [show readMatchId [1, 0, 0, 0, 0, 0] = 1 from rfl] at found
  rw [found, Option.map_some, Option.some.injEq] at turn
  rw [turn, user]
  decide

end Script

end Battleship
