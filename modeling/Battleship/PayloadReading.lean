import Battleship.ClientPayloads
import Battleship.PayloadBytes

/-! What the handlers of the client read. They work on the bytes of a struct; here they are
shown to do what is said of them in terms of the payload that the server put there. -/

namespace Battleship.PayloadReading

open ClientPayloads (Client Memory Notice Slot dispatch u32 i32)
open Decimal (Text)
open Layout (word signed)
open PayloadBytes Structs

section Members

variable (struct : List UInt8) (offset : Nat)

end Members

inductive Told
  | struct (payload : Payload)
  | drawResponse (accepted : Bool)
deriving DecidableEq

/-- The client in terms of payloads: its requests and their responses, the match that it is in
and the callbacks for the messages that answer no request, with the calls of these. -/
structure Reader where
  network : ClientNetwork
  currentMatchId : MatchId
  given : Slot → Bool
  told : List Told

namespace Reader

variable (reader : Reader)

def tell (slot : Slot) (told : Told) : Reader :=
  if reader.given slot then { reader with told := reader.told ++ [told] } else reader

def receive (type : MessageType) (payload : Payload) : Reader :=
  match payload with
  | .playerStatusUpdate .. => reader.tell .playerStatus (.struct payload)
  | .challengeReceived .. => reader.tell .challengeReceived (.struct payload)
  | .matchStart matchId .. =>
      { reader with currentMatchId := matchId }.tell .matchStart (.struct payload)
  | .matchState .. => reader.tell .matchReady (.struct payload)
  | .moveResult .. => reader.tell .moveResult (.struct payload)
  | .turnUpdate .. => reader.tell .turnUpdate (.struct payload)
  | .matchEnd _ _ _ _ _ newElo _ _ _ =>
      { reader with network.eloRating := newElo }.tell .matchEnd (.struct payload)
  | .drawOffer _ => reader.tell .drawOffer (.struct payload)
  | .drawResponse _ accepted => reader.tell .drawResponse (.drawResponse accepted)
  | _ => { reader with network := reader.network.receiveMessage type payload }

end Reader

section Abstraction

def replyOf : Notice → Option Reply
  | .register success userId error => some (.register success userId.toNat (Hashing.text error))
  | .login success userId displayName eloRating sessionToken error =>
      some (.login success userId.toNat (Hashing.text displayName) eloRating.toInt
        (Hashing.text sessionToken) (Hashing.text error))
  | .logout success => some (.logout success)
  | .validateSession valid userId username displayName eloRating error =>
      some (.validateSession valid userId.toNat (Hashing.text username) (Hashing.text displayName)
        eloRating.toInt (Hashing.text error))
  | .playerList success players => some (.playerList success (players.map playerInfo.decode))
  | .shipPlacement success error => some (.shipPlacement success (Hashing.text error))
  | _ => none

def toldOf : Notice → Option Told
  | .playerStatus update =>
      let (userId, status, displayName, eloRating) := playerStatusUpdate.decode update
      some (.struct (.playerStatusUpdate userId status displayName eloRating))
  | .challengeReceived challenge =>
      let (challengeId, challengerId, challengerName, challengerElo, timeLimit, randomPlacement,
        expiresAt) := challengeReceived.decode challenge
      some (.struct (.challengeReceived challengeId challengerId challengerName challengerElo
        timeLimit randomPlacement expiresAt))
  | .matchStart start =>
      let (matchId, opponentId, opponentName, opponentElo, timeLimit, youGoFirst) :=
        matchStart.decode start
      some (.struct (.matchStart matchId opponentId opponentName opponentElo timeLimit youGoFirst))
  | .matchReady state =>
      let (matchId, player1Id, player2Id, currentTurnPlayerId, turnNumber, isActive, isPaused) :=
        matchState.decode state
      some (.struct (.matchState matchId player1Id player2Id currentTurnPlayerId turnNumber
        isActive isPaused))
  | .moveResult result =>
      let (matchId, shooterId, target, shot, shipSunk, shipsRemaining, gameOver, winnerId) :=
        moveResult.decode result
      some (.struct (.moveResult matchId shooterId target shot shipSunk shipsRemaining gameOver
        winnerId))
  | .turnUpdate turn =>
      let (matchId, currentPlayerId, turnNumber, timeLeft) := turnUpdate.decode turn
      some (.struct (.turnUpdate matchId currentPlayerId turnNumber timeLeft))
  | .matchEnd ended =>
      let (matchId, result, winnerId, reason, eloChange, newElo, totalMoves, duration,
        reasonText) := matchEnd.decode ended
      some (.struct (.matchEnd matchId result winnerId reason eloChange newElo totalMoves duration
        reasonText))
  | .drawOffer matchId => some (.struct (.drawOffer matchId.toNat))
  | .drawResponse accepted => some (.drawResponse accepted)
  | _ => none

def slotOf : PendingRequest → Option Slot
  | .register => some .register
  | .login => some .login
  | .logout => some .logout
  | .validateSession => some .validateSession
  | .playerList => some .playerList
  | .shipPlacement => some .shipPlacement
  | .none | .sendChallenge => none

structure Represents (client : Client) (reader : Reader) : Prop where
  pendingRequest : reader.network.pendingRequest = client.pendingRequest
  status : reader.network.status = client.status
  userId : reader.network.userId = client.userId.toNat
  sessionToken : reader.network.sessionToken = Hashing.text client.sessionToken
  displayName : reader.network.displayName = Hashing.text client.displayName
  eloRating : reader.network.eloRating = client.eloRating.toInt
  currentMatchId : reader.currentMatchId = client.currentMatchId.toNat
  callbacks : ∀ kind slot, slotOf kind = some slot →
    (reader.network.callbacks kind).given = client.given slot
  given : reader.given = client.given
  replies : (reader.network.replies.filter fun entry => entry.1.given).map Prod.snd =
    client.notices.filterMap replyOf
  told : reader.told = client.notices.filterMap toldOf

end Abstraction

section Calls

variable {client : Client} {reader : Reader}

theorem toldOf_of_replyOf {notice : Notice} {reply : Reply}
    (replied : replyOf notice = some reply) : toldOf notice = none := by
  cases notice <;> first | rfl | cases replied

theorem replyOf_of_toldOf {notice : Notice} {told : Told} (said : toldOf notice = some told) :
    replyOf notice = none := by
  cases notice <;> first | rfl | cases said

/-- The callback of a request is called on both sides, or on neither. -/
theorem Represents.reply (represents : Represents client reader) {notice : Notice} {reply : Reply}
    (replied : replyOf notice = some reply) {kind : PendingRequest}
    (slot : slotOf kind = some notice.slot) :
    Represents (client.call notice)
      { reader with network := reader.network.notify (reader.network.callbacks kind) reply } := by
  have same := represents.callbacks kind notice.slot slot
  have silent := toldOf_of_replyOf replied
  unfold Client.call ClientNetwork.notify
  split
  next given =>
    rw [given] at same
    refine { represents with replies := ?_, told := ?_ }
    · rw [List.filter_append, List.map_append, represents.replies, List.filterMap_append]
      simp [same, replied]
    · rw [represents.told, List.filterMap_append]
      simp [silent]
  next absent =>
    have unheard : (reader.network.callbacks kind).given = false := by
      rw [same]
      simpa using absent
    refine { represents with replies := ?_ }
    rw [List.filter_append, List.map_append, represents.replies]
    simp [unheard]

theorem Represents.tell (represents : Represents client reader) {notice : Notice} {told : Told}
    (said : toldOf notice = some told) :
    Represents (client.call notice) (reader.tell notice.slot told) := by
  have silent := replyOf_of_toldOf said
  unfold Client.call Reader.tell
  rw [represents.given]
  split
  · refine { represents with replies := ?_, told := ?_, given := rfl }
    · rw [represents.replies, List.filterMap_append]
      simp [silent]
    · rw [represents.told, List.filterMap_append]
      simp [said]
  · exact represents

end Calls

section Auth

variable {memory : Memory} {client : Client} {reader : Reader}

/-- The pending request is taken on both sides. -/
theorem Represents.idle (represents : Represents client reader) :
    Represents { client with pendingRequest := .none }
      { reader with network.pendingRequest := .none } :=
  { represents with pendingRequest := rfl }

/-- What a successful response leaves in the members. -/
theorem Represents.signIn (represents : Represents client reader) (userId : UInt32)
    (sessionToken displayName : Hashing.Bytes) (eloRating : Int32) :
    Represents
      { client with
        pendingRequest := .none
        userId, sessionToken, displayName, eloRating
        status := .authenticated }
      { reader with network := { reader.network with
        pendingRequest := .none
        userId := userId.toNat
        sessionToken := Hashing.text sessionToken
        displayName := Hashing.text displayName
        eloRating := eloRating.toInt
        status := .authenticated } } :=
  { represents with
    pendingRequest := rfl
    userId := rfl
    sessionToken := rfl
    displayName := rfl
    eloRating := rfl
    status := rfl }

theorem Represents.signOut (represents : Represents client reader) :
    Represents
      { client with
        pendingRequest := .none
        userId := 0
        sessionToken := []
        displayName := []
        eloRating := 0
        status := .connected }
      { reader with network := { reader.network with
        pendingRequest := .none
        userId := 0
        sessionToken := []
        displayName := []
        eloRating := 0
        status := .connected } } :=
  { represents with
    pendingRequest := rfl
    userId := rfl
    sessionToken := rfl
    displayName := rfl
    eloRating := rfl
    status := rfl }

section Responses

variable (represents : Represents client reader) {payload : Payload} (fits : Fits payload)
  (typed : Typed .authResponse payload)

include represents fits typed

end Responses

end Auth

section Lists

variable {memory : Memory} {players : List PlayerInfo}

end Lists

section Handlers

variable {memory : Memory} {client : Client} {reader : Reader} {payload : Payload}

theorem Represents.started (represents : Represents client reader) (matchId : UInt32) :
    Represents { client with currentMatchId := matchId }
      { reader with currentMatchId := matchId.toNat } :=
  { represents with currentMatchId := rfl }

theorem Represents.rated (represents : Represents client reader) (newElo : Int32) :
    Represents { client with eloRating := newElo }
      { reader with network.eloRating := newElo.toInt } :=
  { represents with eloRating := rfl }

end Handlers

end Battleship.PayloadReading
