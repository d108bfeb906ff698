import Battleship.ClientNetwork
import Battleship.Library.Fields
import Battleship.Library.Framing
import Battleship.PasswordHashing

/-! The handlers of the client on the bytes that arrive. Some compare the size of a payload to
that of the struct before they copy it, some copy the struct's size whatever the payload has;
the list of players goes by the count that is written in it. -/

namespace Battleship.ClientPayloads

open Hashing (Bytes)

inductive Slot
  | register | login | logout | validateSession | playerList | playerStatus | challengeReceived
  | matchStart | shipPlacement | matchReady | moveResult | turnUpdate | matchEnd
  | drawOffer | drawResponse
deriving DecidableEq

/-- A call of a callback. A struct that is passed on whole is given by its bytes. -/
inductive Notice
  | register (success : Bool) (userId : UInt32) (error : Bytes)
  | login (success : Bool) (userId : UInt32) (displayName : Bytes) (eloRating : Int32)
      (sessionToken error : Bytes)
  | logout (success : Bool)
  | validateSession (valid : Bool) (userId : UInt32) (username displayName : Bytes)
      (eloRating : Int32) (error : Bytes)
  | playerList (success : Bool) (players : List Bytes)
  | playerStatus (update : Bytes)
  | challengeReceived (challenge : Bytes)
  | matchStart (start : Bytes)
  | shipPlacement (success : Bool) (error : Bytes)
  | matchReady (state : Bytes)
  | moveResult (result : Bytes)
  | turnUpdate (turn : Bytes)
  | matchEnd (result : Bytes)
  | drawOffer (matchId : UInt32)
  | drawResponse (accepted : Bool)
deriving DecidableEq

namespace Notice

def slot : Notice → Slot
  | register .. => .register
  | login .. => .login
  | logout .. => .logout
  | validateSession .. => .validateSession
  | playerList .. => .playerList
  | playerStatus .. => .playerStatus
  | challengeReceived .. => .challengeReceived
  | matchStart .. => .matchStart
  | shipPlacement .. => .shipPlacement
  | matchReady .. => .matchReady
  | moveResult .. => .moveResult
  | turnUpdate .. => .turnUpdate
  | matchEnd .. => .matchEnd
  | drawOffer .. => .drawOffer
  | drawResponse .. => .drawResponse

def refusal : Notice → Bool
  | register success _ _ => !success
  | login success _ _ _ _ _ => !success
  | logout success => !success
  | validateSession valid _ _ _ _ _ => !valid
  | playerList success _ => !success
  | _ => false

end Notice

structure Client where
  pendingRequest : PendingRequest
  status : ConnectionStatus
  userId : UInt32
  sessionToken : Bytes
  displayName : Bytes
  eloRating : Int32
  currentMatchId : UInt32
  given : Slot → Bool
  /-- The calls of callbacks; the source has no such record. -/
  notices : List Notice

def Client.call (notice : Notice) (client : Client) : Client :=
  if client.given notice.slot then { client with notices := client.notices ++ [notice] } else client

/-- What happens to lie behind the payload, and behind the struct that it is copied to. -/
structure Memory where
  behindPayload : Nat → UInt8
  behindStruct : Bytes

inductive Access
  | payload (count : Nat)
  | player (index : Nat)
  | text (struct : Bytes) (offset : Nat)
deriving DecidableEq

structure Handled where
  client : Client
  accesses : List Access

section Structs

/-! The members of a struct, by their offsets. -/

def u32 (struct : Bytes) (offset : Nat) : UInt32 :=
  UInt32.ofNat (LittleEndian.read ((struct.drop offset).take 4))

def i32 (struct : Bytes) (offset : Nat) : Int32 := (u32 struct offset).toInt32

def flag (struct : Bytes) (offset : Nat) : Bool := struct.getD offset 0 ≠ 0

variable (memory : Memory)

/-- `memcpy(&x, payload.data(), sizeof(x))`. -/
def memcpy (size : Nat) (payload : Bytes) : Bytes :=
  (List.range size).map fun index => payload.getD index (memory.behindPayload index)

def deserialize (size : Nat) (payload : Bytes) : Option Bytes :=
  if payload.length ≠ size then none else some (memcpy memory size payload)

def text (struct : Bytes) (offset : Nat) : Bytes :=
  Fields.cString 0 ((struct ++ memory.behindStruct).drop offset)

def player (struct : Bytes) (index : Nat) : Bytes :=
  ((struct ++ memory.behindStruct).drop (4 + 108 * index)).take 108

end Structs

section Handlers

variable (memory : Memory) (payload : Bytes) (client : Client)

def invalidResponse : Bytes := "Invalid response from server".toList.map Char.toUInt8

def RegisterResponse.texts (given success : Bool) : List Nat := if given && !success then [5] else []

def LoginResponse.texts (given success : Bool) : List Nat :=
  (if success then [5, 69] else []) ++
    if given then [69, 5] ++ if success then [] else [137] else []

def SessionValidateResponse.texts (given valid : Bool) : List Nat :=
  (if valid then [5, 37] else []) ++
    if given then [5, 37] ++ if valid then [] else [105] else []

def handleAuthResponse : Handled :=
  let idle := { client with pendingRequest := .none }
  match client.pendingRequest with
  | .register =>
      match deserialize memory 133 payload with
      | none => ⟨idle.call (.register false 0 invalidResponse), []⟩
      | some resp =>
          let success := flag resp 0
          let error := if success then [] else text memory resp 5
          ⟨idle.call (.register success (u32 resp 1) error),
            .payload 133 :: (RegisterResponse.texts (client.given .register) success).map
              (.text resp)⟩
  | .login =>
      match deserialize memory 265 payload with
      | none => ⟨idle.call (.login false 0 [] 0 [] invalidResponse), []⟩
      | some resp =>
          let success := flag resp 0
          let signedIn := if success then
              { idle with
                userId := u32 resp 1
                sessionToken := text memory resp 5
                displayName := text memory resp 69
                eloRating := i32 resp 133
                status := .authenticated }
            else idle
          let error := if success then [] else text memory resp 137
          ⟨signedIn.call (.login success (u32 resp 1) (text memory resp 69) (i32 resp 133)
              (text memory resp 5) error),
            .payload 265 :: (LoginResponse.texts (client.given .login) success).map (.text resp)⟩
  | .logout =>
      match deserialize memory 1 payload with
      | none => ⟨idle.call (.logout false), []⟩
      | some resp =>
          let success := flag resp 0
          let signedOut := if success then
              { idle with
                userId := 0
                sessionToken := []
                displayName := []
                eloRating := 0
                status := .connected }
            else idle
          ⟨signedOut.call (.logout success), [.payload 1]⟩
  | .validateSession =>
      match deserialize memory 233 payload with
      | none => ⟨idle.call (.validateSession false 0 [] [] 0 invalidResponse), []⟩
      | some resp =>
          let valid := flag resp 0
          -- the name is kept in the place of the token
          let resumed := if valid then
              { idle with
                userId := u32 resp 1
                sessionToken := text memory resp 5
                displayName := text memory resp 37
                eloRating := i32 resp 101
                status := .authenticated }
            else idle
          let error := if valid then [] else text memory resp 105
          ⟨resumed.call (.validateSession valid (u32 resp 1) (text memory resp 5)
              (text memory resp 37) (i32 resp 101) error),
            .payload 233 :: (SessionValidateResponse.texts (client.given .validateSession)
              valid).map (.text resp)⟩
  | _ => ⟨idle, []⟩

def handlePlayerListResponse : Handled :=
  if client.pendingRequest ≠ .playerList then ⟨client, []⟩
  else
    let idle := { client with pendingRequest := .none }
    match deserialize memory 10804 payload with
    | none => ⟨idle.call (.playerList false []), []⟩
    | some resp =>
        let indices := List.range (u32 resp 0).toNat
        ⟨idle.call (.playerList true (indices.map (player memory resp))),
          .payload 10804 :: indices.map .player⟩

def checked (size : Nat) (texts : List Nat) (handle : Bytes → Client) : Handled :=
  match deserialize memory size payload with
  | none => ⟨client, []⟩
  | some struct => ⟨handle struct, .payload size :: texts.map (.text struct)⟩

def handlePlayerStatusUpdate : Handled :=
  checked memory payload client 76 [8] fun update => client.call (.playerStatus update)

def handleChallengeReceived : Handled :=
  checked memory payload client 89 [8] fun challenge => client.call (.challengeReceived challenge)

def handleMatchStart : Handled :=
  checked memory payload client 81 [8] fun start =>
    { client with currentMatchId := u32 start 0 }.call (.matchStart start)

def unchecked (size : Nat) (texts : List Nat) (handle : Bytes → Client) : Handled :=
  let struct := memcpy memory size payload
  ⟨handle struct, .payload size :: texts.map (.text struct)⟩

def handleShipPlacementAck : Handled :=
  unchecked memory payload 133 [5] fun ack =>
    if client.pendingRequest = .shipPlacement then
      { client with pendingRequest := .none }.call (.shipPlacement (flag ack 4) (text memory ack 5))
    else client

def handleMatchReady : Handled :=
  unchecked memory payload 22 [] fun state => client.call (.matchReady state)

def handleMoveResult : Handled :=
  unchecked memory payload 27 [] fun result => client.call (.moveResult result)

def handleTurnUpdate : Handled :=
  unchecked memory payload 16 [] fun turn => client.call (.turnUpdate turn)

def handleMatchEnd : Handled :=
  unchecked memory payload 164 [36] fun result =>
    { client with eloRating := i32 result 20 }.call (.matchEnd result)

def handleDrawOffer : Handled :=
  unchecked memory payload 4 [] fun offer => client.call (.drawOffer (u32 offer 0))

def handleDrawResponse : Handled :=
  unchecked memory payload 5 [] fun response => client.call (.drawResponse (flag response 4))

def dispatch (type : MessageType) : Handled :=
  match type with
  | .authResponse => handleAuthResponse memory payload client
  | .playerList => handlePlayerListResponse memory payload client
  | .playerStatusUpdate => handlePlayerStatusUpdate memory payload client
  | .challengeReceived => handleChallengeReceived memory payload client
  | .matchStart => handleMatchStart memory payload client
  | .shipPlacement => handleShipPlacementAck memory payload client
  | .matchReady => handleMatchReady memory payload client
  | .moveResult => handleMoveResult memory payload client
  | .turnUpdate => handleTurnUpdate memory payload client
  | .matchEnd => handleMatchEnd memory payload client
  | .drawOffer => handleDrawOffer memory payload client
  | .drawResponse => handleDrawResponse memory payload client
  | _ => ⟨client, []⟩

end Handlers

section Safety

def Access.InBounds (payload : Bytes) : Access → Prop
  | .payload count => count ≤ payload.length
  | .player index => index < 100
  | .text .. => True

def Access.Ends : Access → Prop
  | .text struct offset => 0 ∈ struct.drop offset
  | _ => True

def expectedSize (type : MessageType) (pending : PendingRequest) : Option Nat :=
  match type with
  | .authResponse =>
      match pending with
      | .register => some 133
      | .login => some 265
      | .logout => some 1
      | .validateSession => some 233
      | _ => none
  | .playerList => some 10804
  | .playerStatusUpdate => some 76
  | .challengeReceived => some 89
  | .matchStart => some 81
  | .shipPlacement => some 133
  | .matchReady => some 22
  | .moveResult => some 27
  | .turnUpdate => some 16
  | .matchEnd => some 164
  | .drawOffer => some 4
  | .drawResponse => some 5
  | _ => none

variable (type : MessageType) (payload : Bytes) (client : Client)

def Malformed : Prop :=
  (∃ size ∈ expectedSize type client.pendingRequest, payload.length ≠ size) ∨
    type = .playerList ∧ 100 < (u32 payload 0).toNat

structure Client.Rejects (client later : Client) : Prop where
  currentMatchId : later.currentMatchId = client.currentMatchId
  eloRating : later.eloRating = client.eloRating
  notices : ∃ added, later.notices = client.notices ++ added ∧
    ∀ notice ∈ added, notice.refusal = true

def Unchecked : MessageType → Prop
  | .shipPlacement | .matchReady | .moveResult | .turnUpdate | .matchEnd | .drawOffer
  | .drawResponse => True
  | _ => False

def Client.Takes (client : Client) (type : MessageType) (payload : Bytes) : Prop :=
  match type with
  | .shipPlacement => client.pendingRequest = .shipPlacement ∧ client.given .shipPlacement = true
  | .matchReady => client.given .matchReady = true
  | .moveResult => client.given .moveResult = true
  | .turnUpdate => client.given .turnUpdate = true
  | .matchEnd => client.given .matchEnd = true ∨ i32 payload 20 ≠ client.eloRating
  | .drawOffer => client.given .drawOffer = true
  | .drawResponse => client.given .drawResponse = true
  | _ => False

/-- An unchecked struct is not longer than the payload, and not shorter where it is taken; a
list that was asked for counts at most the players of the array. -/
structure Sound : Prop where
  size : Unchecked type → ∀ size ∈ expectedSize type client.pendingRequest,
    size ≤ payload.length ∧ (client.Takes type payload → payload.length = size)
  count : type = .playerList → client.pendingRequest = .playerList → payload.length = 10804 →
    (u32 payload 0).toNat ≤ 100

def texts : List Nat :=
  match type with
  | .authResponse =>
      match client.pendingRequest with
      | .register => RegisterResponse.texts (client.given .register) (flag payload 0)
      | .login => LoginResponse.texts (client.given .login) (flag payload 0)
      | .validateSession =>
          SessionValidateResponse.texts (client.given .validateSession) (flag payload 0)
      | _ => []
  | .playerStatusUpdate | .challengeReceived | .matchStart => [8]
  | .shipPlacement => [5]
  | .matchEnd => [36]
  | _ => []

end Safety

section Lemmas

variable {memory : Memory} {payload : Bytes} {client : Client}

theorem memcpy_of_le {size : Nat} (fits : size ≤ payload.length) :
    memcpy memory size payload = payload.take size := by
  apply List.ext_getElem
  · simp [memcpy, fits]
  · intro index below _
    have inside : index < payload.length := by
      simp only [memcpy, List.length_map, List.length_range] at below
      omega
    simp [memcpy, inside]

theorem deserialize_eq (size : Nat) : deserialize memory size payload =
    if payload.length = size then some payload else none := by
  rw [deserialize]
  by_cases same : payload.length = size
  · rw [if_neg (not_not.mpr same), if_pos same, memcpy_of_le (le_of_eq same.symm)]
    exact congrArg some (List.take_of_length_le (le_of_eq same))
  · rw [if_pos same, if_neg same]

theorem i32_take {size offset : Nat} (inside : offset + 4 ≤ size) :
    i32 (payload.take size) offset = i32 payload offset := by
  have same : ((payload.take size).drop offset).take 4 = (payload.drop offset).take 4 := by
    rw [List.drop_take, List.take_take, min_eq_left (by omega)]
  rw [i32, i32, u32, u32, same]

theorem Client.Rejects.refl (client : Client) : client.Rejects client :=
  ⟨rfl, rfl, [], by simp, by simp⟩

/-- A pending request is told to have failed. -/
theorem Client.Rejects.call {idle : Client} (notice : Notice) (refusal : notice.refusal = true)
    (currentMatchId : idle.currentMatchId = client.currentMatchId)
    (eloRating : idle.eloRating = client.eloRating) (notices : idle.notices = client.notices) :
    client.Rejects (idle.call notice) := by
  rw [Client.call]
  split
  · exact ⟨currentMatchId, eloRating, [notice], by rw [← notices], by simp [refusal]⟩
  · exact ⟨currentMatchId, eloRating, [], by simp [notices], by simp⟩

/-- A notice that is no refusal is not given where a message is rejected. -/
theorem rejects_call_iff {base : Client} (notice : Notice) (told : notice.refusal = false)
    (same : base.notices = client.notices) :
    client.Rejects (base.call notice) ↔ client.Rejects base ∧ base.given notice.slot = false := by
  rw [Client.call]
  split
  · rename_i given
    simp only [given, Bool.true_eq_false, and_false, iff_false]
    rintro ⟨_, _, added, split, refusals⟩
    simp only [same] at split
    rw [← List.append_cancel_left split] at refusals
    simp [told] at refusals
  · rename_i silent
    simp [silent]

def Handled.Safe (handled : Handled) (payload : Bytes) (client : Client) (malformed : Prop) : Prop :=
  (∀ access ∈ handled.accesses, access.InBounds payload) ∧
    (malformed → client.Rejects handled.client)

theorem inBounds_copy {size : Nat} {struct : Bytes} (texts : List Nat) :
    (∀ access ∈ Access.payload size :: texts.map (.text struct), access.InBounds payload) ↔
      size ≤ payload.length := by
  constructor
  · intro bounded
    exact bounded (.payload size) List.mem_cons_self
  · intro fits access member
    rcases List.mem_cons.mp member with rfl | member
    · exact fits
    · obtain ⟨offset, _, rfl⟩ := List.mem_map.mp member
      trivial

theorem checked_safe (size : Nat) (texts : List Nat) (handle : Bytes → Client) :
    (checked memory payload client size texts handle).Safe payload client
      (payload.length ≠ size) := by
  rw [checked]
  rw [deserialize_eq]
  by_cases same : payload.length = size
  · rw [if_pos same]
    exact ⟨(inBounds_copy texts).mpr (le_of_eq same.symm), fun different => absurd same different⟩
  · rw [if_neg same]
    exact ⟨by simp, fun _ => .refl client⟩

theorem unchecked_safe_iff {size : Nat} {texts : List Nat} {handle : Bytes → Client} {takes : Prop}
    (rejects : size ≤ payload.length → (client.Rejects (handle (payload.take size)) ↔ ¬takes)) :
    (unchecked memory payload size texts handle).Safe payload client (payload.length ≠ size) ↔
      size ≤ payload.length ∧ (takes → payload.length = size) := by
  rw [Handled.Safe, unchecked, inBounds_copy]
  refine and_congr_right fun fits => ?_
  rw [memcpy_of_le fits, rejects fits, not_imp_not]

theorem handleAuthResponse_safe :
    (handleAuthResponse memory payload client).Safe payload client
      (∃ size ∈ expectedSize .authResponse client.pendingRequest, payload.length ≠ size) := by
  rw [handleAuthResponse]
  simp only [deserialize_eq]
  cases client.pendingRequest with
  | register =>
      by_cases same : payload.length = 133
      · simp only [if_pos same]
        exact ⟨(inBounds_copy _).mpr (le_of_eq same.symm), by simp [expectedSize, same]⟩
      · simp only [if_neg same]
        exact ⟨by simp, fun _ => .call _ rfl rfl rfl rfl⟩
  | login =>
      by_cases same : payload.length = 265
      · simp only [if_pos same]
        exact ⟨(inBounds_copy _).mpr (le_of_eq same.symm), by simp [expectedSize, same]⟩
      · simp only [if_neg same]
        exact ⟨by simp, fun _ => .call _ rfl rfl rfl rfl⟩
  | logout =>
      by_cases same : payload.length = 1
      · simp only [if_pos same]
        have copied := (@inBounds_copy _ 1 [] []).mpr (le_of_eq same.symm)
        exact ⟨copied, by simp [expectedSize, same]⟩
      · simp only [if_neg same]
        exact ⟨by simp, fun _ => .call _ rfl rfl rfl rfl⟩
  | validateSession =>
      by_cases same : payload.length = 233
      · simp only [if_pos same]
        exact ⟨(inBounds_copy _).mpr (le_of_eq same.symm), by simp [expectedSize, same]⟩
      · simp only [if_neg same]
        exact ⟨by simp, fun _ => .call _ rfl rfl rfl rfl⟩
  | _ => exact ⟨by simp, fun _ => ⟨rfl, rfl, [], by simp, by simp⟩⟩

theorem handlePlayerListResponse_safe_iff :
    (handlePlayerListResponse memory payload client).Safe payload client
        (payload.length ≠ 10804 ∨ 100 < (u32 payload 0).toNat) ↔
      (client.pendingRequest = .playerList → payload.length = 10804 →
        (u32 payload 0).toNat ≤ 100) := by
  rw [handlePlayerListResponse]
  by_cases asked : client.pendingRequest = .playerList
  · rw [if_neg (not_not.mpr asked), deserialize_eq]
    by_cases same : payload.length = 10804
    · simp only [asked, same, ne_eq, not_true_eq_false, false_or, true_implies]
      constructor
      · rintro ⟨bounded, _⟩
        by_contra many
        have last := bounded (.player 100) (by simp; omega)
        exact absurd last (by simp [Access.InBounds])
      · intro few
        refine ⟨fun access member => ?_, fun many => absurd few (by omega)⟩
        rcases List.mem_cons.mp member with rfl | member
        · exact le_of_eq same.symm
        · obtain ⟨index, below, rfl⟩ := List.mem_map.mp member
          exact lt_of_lt_of_le (List.mem_range.mp below) few
    · simp only [same]
      exact iff_of_true ⟨by simp, fun _ => .call _ rfl rfl rfl rfl⟩ (by simp)
  · rw [if_pos asked]
    exact iff_of_true ⟨by simp, fun _ => .refl client⟩ (by simp [asked])

/-- A handler that only calls a callback keeps quiet where there is none. -/
theorem not_given_iff (notice : Notice) (told : notice.refusal = false) :
    client.Rejects (client.call notice) ↔ ¬client.given notice.slot = true := by
  rw [rejects_call_iff notice told rfl, Bool.not_eq_true]
  exact and_iff_right (.refl client)

theorem handleShipPlacementAck_safe_iff :
    (handleShipPlacementAck memory payload client).Safe payload client (payload.length ≠ 133) ↔
      133 ≤ payload.length ∧
        (client.Takes .shipPlacement payload → payload.length = 133) := by
  refine unchecked_safe_iff fun _ => ?_
  by_cases asked : client.pendingRequest = .shipPlacement
  · rw [if_pos asked]
    refine Iff.trans (rejects_call_iff _ rfl rfl) ?_
    simp only [Client.Takes, asked, true_and, Bool.not_eq_true]
    exact and_iff_right ⟨rfl, rfl, [], by simp, by simp⟩
  · rw [if_neg asked]
    exact iff_of_true (.refl client) fun takes => asked takes.1

theorem handleMatchEnd_safe_iff :
    (handleMatchEnd memory payload client).Safe payload client (payload.length ≠ 164) ↔
      164 ≤ payload.length ∧ (client.Takes .matchEnd payload → payload.length = 164) := by
  refine unchecked_safe_iff fun _ => ?_
  refine Iff.trans (rejects_call_iff _ rfl rfl) ?_
  rw [i32_take (by decide), Client.Takes, not_or, and_comm,
    Bool.not_eq_true]
  refine and_congr_right fun _ => ?_
  rw [not_not]
  exact ⟨fun rejects => rejects.eloRating, fun same => ⟨rfl, same, [], by simp, by simp⟩⟩

theorem malformed_iff {type : MessageType} {size : Nat} (other : type ≠ .playerList)
    (expected : expectedSize type client.pendingRequest = some size) :
    Malformed type payload client ↔ payload.length ≠ size := by
  simp [Malformed, expected, other]

/-- What is left to show of a type whose handler copies without a look at the size. -/
theorem safe_iff_of_unchecked {type : MessageType} {size : Nat} {handled : Handled}
    (unchecked : Unchecked type)
    (expected : expectedSize type client.pendingRequest = some size)
    (safe : handled.Safe payload client (payload.length ≠ size) ↔
      size ≤ payload.length ∧ (client.Takes type payload → payload.length = size)) :
    handled.Safe payload client (Malformed type payload client) ↔ Sound type payload client := by
  have other : type ≠ .playerList := by
    rintro rfl
    exact unchecked
  rw [malformed_iff other expected, safe]
  constructor
  · intro sound
    refine ⟨fun _ size' also => ?_, fun same => absurd same other⟩
    rw [Option.mem_def, expected, Option.some.injEq] at also
    exact also ▸ sound
  · intro sound
    exact sound.size unchecked size expected

/-- Which messages the client handles safely, whatever lies in its memory. -/
theorem dispatch_safe_iff (memory : Memory) (payload : Bytes) (client : Client)
    (type : MessageType) :
    (dispatch memory payload client type).Safe payload client (Malformed type payload client) ↔
      Sound type payload client := by
  have trivially {type : MessageType} (checks : ¬Unchecked type) (other : type ≠ .playerList) :
      Sound type payload client :=
    ⟨fun unchecked => absurd unchecked checks, fun same => absurd same other⟩
  have ignored {malformed : Prop} : (⟨client, []⟩ : Handled).Safe payload client malformed :=
    ⟨by simp, fun _ => .refl client⟩
  cases type with
  | authResponse =>
      refine iff_of_true ?_ (trivially id (by decide))
      have malformed : Malformed .authResponse payload client ↔
          ∃ size ∈ expectedSize .authResponse client.pendingRequest, payload.length ≠ size := by
        simp [Malformed]
      rw [malformed]
      exact handleAuthResponse_safe
  | playerList =>
      have malformed : Malformed .playerList payload client ↔
          payload.length ≠ 10804 ∨ 100 < (u32 payload 0).toNat := by
        simp [Malformed, expectedSize]
      rw [malformed, dispatch, handlePlayerListResponse_safe_iff]
      exact ⟨fun few => ⟨fun unchecked => unchecked.elim, fun _ => few⟩,
        fun sound => sound.count rfl⟩
  | playerStatusUpdate =>
      rw [malformed_iff (by decide) rfl]
      exact iff_of_true (checked_safe ..) (trivially id (by decide))
  | challengeReceived =>
      rw [malformed_iff (by decide) rfl]
      exact iff_of_true (checked_safe ..) (trivially id (by decide))
  | matchStart =>
      rw [malformed_iff (by decide) rfl]
      exact iff_of_true (checked_safe ..) (trivially id (by decide))
  | shipPlacement => exact safe_iff_of_unchecked trivial rfl handleShipPlacementAck_safe_iff
  | matchEnd => exact safe_iff_of_unchecked trivial rfl handleMatchEnd_safe_iff
  | matchReady | moveResult | turnUpdate | drawOffer | drawResponse =>
      exact safe_iff_of_unchecked trivial rfl
        (unchecked_safe_iff fun _ => not_given_iff _ rfl)
  | _ => exact iff_of_true ignored (trivially id (by decide))

theorem ends_copy {size : Nat} {struct : Bytes} (offsets : List Nat) :
    (∀ access ∈ Access.payload size :: offsets.map (.text struct), access.Ends) ↔
      ∀ offset ∈ offsets, 0 ∈ struct.drop offset := by
  simp [Access.Ends]

theorem checked_ends_iff {size : Nat} (offsets : List Nat) (handle : Bytes → Client)
    (fits : payload.length = size) :
    (∀ access ∈ (checked memory payload client size offsets handle).accesses, access.Ends) ↔
      ∀ offset ∈ offsets, 0 ∈ payload.drop offset := by
  rw [checked]
  rw [deserialize_eq, if_pos fits]
  exact ends_copy offsets

theorem unchecked_ends_iff {size : Nat} (offsets : List Nat) (handle : Bytes → Client)
    (fits : payload.length = size) :
    (∀ access ∈ (unchecked memory payload size offsets handle).accesses, access.Ends) ↔
      ∀ offset ∈ offsets, 0 ∈ payload.drop offset := by
  rw [unchecked]
  rw [memcpy_of_le (le_of_eq fits.symm), List.take_of_length_le (le_of_eq fits)]
  exact ends_copy offsets

/-- Of a message of the right size, the texts that run on are those without a NUL. -/
theorem dispatch_ends_iff (memory : Memory) (payload : Bytes) (client : Client)
    (type : MessageType) {size : Nat}
    (expected : expectedSize type client.pendingRequest = some size)
    (fits : payload.length = size) :
    (∀ access ∈ (dispatch memory payload client type).accesses, access.Ends) ↔
      ∀ offset ∈ texts type payload client, 0 ∈ payload.drop offset := by
  subst fits
  cases type with
  | authResponse =>
      cases pending : client.pendingRequest with
      | register | login | validateSession =>
          simp only [expectedSize, pending, Option.some.injEq] at expected
          simp only [dispatch, handleAuthResponse, pending, deserialize_eq, if_pos expected.symm,
            texts]
          exact ends_copy _
      | logout =>
          simp only [expectedSize, pending, Option.some.injEq] at expected
          simp only [dispatch, handleAuthResponse, pending, deserialize_eq, if_pos expected.symm,
            texts]
          simp [Access.Ends]
      | _ => simp [expectedSize, pending] at expected
  | playerList =>
      refine iff_of_true (fun access member => ?_) (by simp [texts])
      simp only [dispatch, handlePlayerListResponse] at member
      cases access with
      | text struct offset => grind
      | _ => trivial
  | playerStatusUpdate | challengeReceived | matchStart =>
      simp only [expectedSize, Option.some.injEq] at expected
      exact checked_ends_iff [8] _ expected.symm
  | shipPlacement | matchReady | moveResult | turnUpdate | matchEnd | drawOffer | drawResponse =>
      simp only [expectedSize, Option.some.injEq] at expected
      exact unchecked_ends_iff _ _ expected.symm
  | _ => cases expected

end Lemmas

/-- No handler leaves the payload or the players, and what is malformed is rejected, exactly for
the sound messages; and no text of a message of the right size runs on past the struct exactly
where each has a NUL. -/
theorem dispatch_meets (memory : Memory) (payload : Bytes) (client : Client) (type : MessageType) :
    ((∀ access ∈ (dispatch memory payload client type).accesses, access.InBounds payload) ∧
        (Malformed type payload client →
          client.Rejects (dispatch memory payload client type).client) ↔
      Sound type payload client) ∧
    ∀ size ∈ expectedSize type client.pendingRequest, payload.length = size →
      ((∀ access ∈ (dispatch memory payload client type).accesses, access.Ends) ↔
        ∀ offset ∈ texts type payload client, 0 ∈ payload.drop offset) :=
  ⟨dispatch_safe_iff memory payload client type,
    fun _ expected fits => dispatch_ends_iff memory payload client type expected fits⟩

def playing : Client where
  pendingRequest := .playerList
  status := .authenticated
  userId := 1
  sessionToken := []
  displayName := []
  eloRating := 1200
  currentMatchId := 7
  given := fun _ => true
  notices := []

/-- An empty `MATCH_END` is read for 164 bytes and sets the rating to what lies behind it. -/
theorem matchEnd_reads_behind_payload :
    Access.payload 164 ∈ (dispatch ⟨fun _ => 0, []⟩ [] playing .matchEnd).accesses ∧
    ¬(Access.payload 164).InBounds [] ∧ Malformed .matchEnd [] playing ∧
    (dispatch ⟨fun _ => 0, []⟩ [] playing .matchEnd).client.eloRating = 0 ∧
    playing.eloRating = 1200 :=
  ⟨List.mem_cons_self, by simp [Access.InBounds], Or.inl ⟨164, rfl, by decide⟩, by decide, rfl⟩

end Battleship.ClientPayloads
