import Battleship.ClientNetwork
import Battleship.Library.Layouts
import Battleship.PasswordHashing
import Battleship.RejectedMessages

/-! The packed structs of the requests. The client fills one in and copies it out as it
lies in memory; the handlers of the server copy it from a payload, by its exact size or from
the front, and go on with its members. -/

namespace Battleship

open Decimal (Text)

namespace MessageType

def code : MessageType → UInt8
  | authRegister => 1
  | authLogin => 2
  | authLogout => 3
  | authResponse => 4
  | validateSession => 5
  | playerListRequest => 10
  | playerList => 11
  | playerStatusUpdate => 12
  | challengeSend => 20
  | challengeReceived => 21
  | challengeResponse => 22
  | matchStart => 23
  | matchReady => 24
  | shipPlacement => 30
  | move => 31
  | moveResult => 32
  | turnUpdate => 33
  | matchState => 34
  | matchEnd => 35
  | pauseRequest => 40
  | pauseResponse => 41
  | drawOffer => 42
  | drawResponse => 43
  | resign => 44
  | rematchRequest => 45
  | rematchResponse => 46
  | replayRequest => 50
  | replayData => 51
  | statsRequest => 52
  | statsData => 53
  | eloUpdate => 54
  | chatMessage => 60
  | error => 99
  | notification => 100
  | ping => 101
  | pong => 102

def all : List MessageType :=
  [authRegister, authLogin, authLogout, authResponse, validateSession, playerListRequest,
    playerList, playerStatusUpdate, challengeSend, challengeReceived, challengeResponse, matchStart,
    matchReady, shipPlacement, move, moveResult, turnUpdate, matchState, matchEnd, pauseRequest,
    pauseResponse, drawOffer, drawResponse, resign, rematchRequest, rematchResponse, replayRequest,
    replayData, statsRequest, statsData, eloUpdate, chatMessage, error, notification, ping, pong]

/-- `static_cast<MessageType>`; nothing for a number without an enumerator. -/
def ofCode (code : UInt8) : Option MessageType := all.find? fun type => type.code = code

theorem ofCode_code (type : MessageType) : ofCode type.code = some type := by
  cases type <;> rfl

end MessageType

namespace Structs

def bytesOf (text : Text) : List UInt8 := text.map Char.toUInt8

theorem bytesOf_text (bytes : List UInt8) : bytesOf (Hashing.text bytes) = bytes := by
  rw [bytesOf, Hashing.text, List.map_map]
  refine (List.map_congr_left fun byte _ => ?_).trans (List.map_id bytes)
  have small : byte.toNat < 256 := byte.toNat_lt
  have valid : byte.toNat.isValidChar := Or.inl (by omega)
  apply UInt8.toNat_inj.mp
  rw [Function.comp_apply, Char.ofNat, dif_pos valid]
  change byte.toNat % 2 ^ 8 = byte.toNat
  omega

def chars (size : Nat) (positive : 0 < size) : Layout Text :=
  (Layout.array size positive).map Hashing.text bytesOf fun bytes fits => by
    rw [bytesOf_text]
    exact ⟨fits, rfl⟩

abbrev chars32 : Layout Text := chars 32 (by decide)

abbrev chars64 : Layout Text := chars 64 (by decide)

abbrev chars128 : Layout Text := chars 128 (by decide)

def Plain (text : Text) : Prop := ∀ char ∈ text, 0 < char.toNat ∧ char.toNat < 256

instance (text : Text) : Decidable (Plain text) := List.decidableBAll _ text

theorem toNat_toUInt8 {char : Char} (small : char.toNat < 256) :
    char.toUInt8.toNat = char.toNat := by
  change char.toNat % 2 ^ 8 = char.toNat
  omega

theorem Plain.text_bytesOf {text : Text} (plain : Plain text) :
    Hashing.text (bytesOf text) = text := by
  rw [bytesOf, Hashing.text, List.map_map]
  refine (List.map_congr_left fun char member => ?_).trans (List.map_id text)
  rw [Function.comp_apply, toNat_toUInt8 (plain char member).2, Char.ofNat_toNat]
  rfl

theorem Plain.take {text : Text} (plain : Plain text) (count : Nat) : Plain (text.take count) :=
  fun char member => plain char (List.mem_of_mem_take member)

theorem Plain.fits {text : Text} (plain : Plain text) {size : Nat} (positive : 0 < size)
    (short : text.length < size) : (chars size positive).Fits text := by
  refine ⟨⟨fun member => ?_, by rwa [bytesOf, List.length_map]⟩, plain.text_bytesOf⟩
  obtain ⟨char, inside, zero⟩ := List.mem_map.mp member
  obtain ⟨nonzero, small⟩ := plain char inside
  rw [← toNat_toUInt8 small, zero] at nonzero
  exact absurd nonzero (by decide)

/-- What `safeStrCopy` leaves in a field of the size. -/
theorem Plain.fits_safeStrCopy {text : Text} (plain : Plain text) {size : Nat}
    (positive : 0 < size) : (chars size positive).Fits (safeStrCopy size text) := by
  refine (plain.take (size - 1)).fits positive ?_
  rw [List.length_take]
  omega

def uint32 : Layout UInt32 :=
  (Layout.word 4).map UInt32.ofNat UInt32.toNat fun value fits => by
    have small : value < 2 ^ 32 := fits
    rw [UInt32.toNat_ofNat_of_lt' small]
    exact ⟨fits, rfl⟩

theorem uint32_fits (value : UInt32) : uint32.Fits value := ⟨value.toNat_lt, UInt32.ofNat_toNat⟩

def int8 : Layout Int8 := Layout.byte.map UInt8.toInt8 Int8.toUInt8 fun _ _ => ⟨trivial, rfl⟩

def coordinate : Layout Coordinate :=
  (int8.pair int8).map (fun value => ⟨value.1, value.2⟩) (fun target => (target.row, target.col))
    fun _ fits => ⟨fits, rfl⟩

theorem coordinate_fits (target : Coordinate) : coordinate.Fits target :=
  ⟨⟨⟨trivial, rfl⟩, trivial, rfl⟩, rfl⟩

def ship : Layout Ship :=
  (Layout.byte.pair (Layout.byte.pair (coordinate.pair (Layout.byte.pair
    (Layout.byte.pair Layout.flag))))).map
    (fun (type, orientation, position, length, hits, isSunk) =>
      ⟨type, orientation, position, length, hits, isSunk⟩)
    (fun ship =>
      (ship.type, ship.orientation, ship.position, ship.length, ship.hits, ship.isSunk))
    fun _ fits => ⟨fits, rfl⟩

theorem ship_fits (value : Ship) : ship.Fits value :=
  ⟨⟨trivial, trivial, coordinate_fits value.position, trivial, trivial, trivial⟩, rfl⟩

end Structs

namespace RequestBytes

open Layout (word flag)
open Structs

section Requests

/-- The last member is the email, which no handler reads. -/
def registerRequest : Layout (Text × Text × Text × Text) :=
  chars32.pair (chars64.pair (chars64.pair chars128))

def loginRequest : Layout (Text × Text) := chars32.pair chars64

/-- `LogoutRequest` and `SessionValidateRequest`. -/
def sessionRequest : Layout Text := chars64

def challengeRequest : Layout (UserId × Nat × Bool) := (word 4).pair ((word 4).pair flag)

def challengeResponse : Layout (ChallengeId × Bool) := uint32.pair flag

/-- The last member is `ready`, which the handler does not read. -/
def shipPlacementMessage : Layout (MatchId × Vector Ship numShips × Bool) :=
  (word 4).pair ((ship.vector numShips).pair flag)

def moveMessage : Layout (MatchId × Coordinate) := (word 4).pair coordinate

/-- `ResignMessage`, `DrawOfferMessage` and `RematchRequestMessage`. -/
def matchMessage : Layout MatchId := word 4

def drawResponseMessage : Layout (MatchId × Bool) := (word 4).pair flag

/-- The last member is `new_match_id`, which the handler does not read. -/
def rematchResponseMessage : Layout (MatchId × Bool × MatchId) := (word 4).pair (flag.pair (word 4))

example : [registerRequest.size, loginRequest.size, sessionRequest.size, challengeRequest.size,
    challengeResponse.size, shipPlacementMessage.size, moveMessage.size, matchMessage.size,
    drawResponseMessage.size, rematchResponseMessage.size] =
      [288, 96, 64, 9, 5, 40, 6, 4, 5, 9] := rfl

end Requests

section Reading

def readRequest (type : MessageType) (payload : List UInt8) : Request :=
  match type with
  | .ping => .ping
  | .authRegister => (registerRequest.deserialize payload).elim (.unread type)
      fun (username, password, displayName, _) => .register username password displayName
  | .authLogin => (loginRequest.deserialize payload).elim (.unread type)
      fun (username, password) => .login username password
  | .authLogout => (sessionRequest.deserialize payload).elim (.unread type) .logout
  | .validateSession => (sessionRequest.deserialize payload).elim (.unread type) .validateSession
  | .playerListRequest => .playerListRequest
  | .challengeSend => (challengeRequest.deserialize payload).elim (.unread type)
      fun (targetUserId, timeLimit, randomPlacement) =>
        .challengeSend targetUserId timeLimit randomPlacement
  | .challengeResponse => (challengeResponse.deserialize payload).elim (.unread type)
      fun (challengeId, accepted) => .challengeResponse challengeId accepted
  | .shipPlacement => (shipPlacementMessage.copy payload).elim (.unread type)
      fun (matchId, ships, _) => .shipPlacement matchId ships
  | .move => (moveMessage.copy payload).elim (.unread type)
      fun (matchId, target) => .move matchId target
  | .resign => (matchMessage.copy payload).elim (.unread type) .resign
  | .drawOffer => (matchMessage.copy payload).elim (.unread type) .drawOffer
  | .drawResponse => (drawResponseMessage.copy payload).elim (.unread type)
      fun (matchId, accepted) => .drawResponse matchId accepted
  | .rematchRequest => (matchMessage.copy payload).elim (.unread type) .rematchRequest
  | .rematchResponse => (rematchResponseMessage.copy payload).elim (.unread type)
      fun (previousMatchId, accepted, _) => .rematchResponse previousMatchId accepted
  | _ => .unread type

def typeOf : Request → MessageType
  | .ping => .ping
  | .register .. => .authRegister
  | .login .. => .authLogin
  | .logout _ => .authLogout
  | .validateSession _ => .validateSession
  | .playerListRequest => .playerListRequest
  | .challengeSend .. => .challengeSend
  | .challengeResponse .. => .challengeResponse
  | .shipPlacement .. => .shipPlacement
  | .move .. => .move
  | .resign _ => .resign
  | .drawOffer _ => .drawOffer
  | .drawResponse .. => .drawResponse
  | .rematchRequest _ => .rematchRequest
  | .rematchResponse .. => .rematchResponse
  | .unread type => type

/-- The struct with the members of the request, the others as a client leaves them. -/
def serialize : Request → List UInt8
  | .register username password displayName =>
      registerRequest.encode (username, password, displayName, [])
  | .login username password => loginRequest.encode (username, password)
  | .logout sessionToken => sessionRequest.encode sessionToken
  | .validateSession sessionToken => sessionRequest.encode sessionToken
  | .challengeSend targetUserId timeLimit randomPlacement =>
      challengeRequest.encode (targetUserId, timeLimit, randomPlacement)
  | .challengeResponse challengeId accepted => challengeResponse.encode (challengeId, accepted)
  | .shipPlacement matchId ships => shipPlacementMessage.encode (matchId, ships, true)
  | .move matchId target => moveMessage.encode (matchId, target)
  | .resign matchId => matchMessage.encode matchId
  | .drawOffer matchId => matchMessage.encode matchId
  | .drawResponse matchId accepted => drawResponseMessage.encode (matchId, accepted)
  | .rematchRequest previousMatchId => matchMessage.encode previousMatchId
  | .rematchResponse previousMatchId accepted =>
      rematchResponseMessage.encode (previousMatchId, accepted, 0)
  | .ping | .playerListRequest | .unread _ => []

def Fits : Request → Prop
  | .register username password displayName =>
      registerRequest.Fits (username, password, displayName, [])
  | .login username password => loginRequest.Fits (username, password)
  | .logout sessionToken => sessionRequest.Fits sessionToken
  | .validateSession sessionToken => sessionRequest.Fits sessionToken
  | .challengeSend targetUserId timeLimit randomPlacement =>
      challengeRequest.Fits (targetUserId, timeLimit, randomPlacement)
  | .challengeResponse challengeId accepted => challengeResponse.Fits (challengeId, accepted)
  | .shipPlacement matchId ships => shipPlacementMessage.Fits (matchId, ships, true)
  | .move matchId target => moveMessage.Fits (matchId, target)
  | .resign matchId => matchMessage.Fits matchId
  | .drawOffer matchId => matchMessage.Fits matchId
  | .drawResponse matchId accepted => drawResponseMessage.Fits (matchId, accepted)
  | .rematchRequest previousMatchId => matchMessage.Fits previousMatchId
  | .rematchResponse previousMatchId accepted =>
      rematchResponseMessage.Fits (previousMatchId, accepted, 0)
  | .ping | .playerListRequest => True
  | .unread _ => False

def Ends (type : MessageType) (payload : List UInt8) : Prop :=
  match type with
  | .authRegister => registerRequest.Proper payload
  | .authLogin => loginRequest.Proper payload
  | .authLogout | .validateSession => sessionRequest.Proper payload
  | _ => True

end Reading

section RoundTrip

/-- What a client serializes is the request that the server reads. -/
theorem readRequest_serialize {request : Request} (fits : Fits request) :
    readRequest (typeOf request) (serialize request) = request := by
  cases request with
  | ping | playerListRequest => rfl
  | unread type => exact fits.elim
  | register | login | logout | validateSession | challengeSend | challengeResponse =>
      simp only [readRequest, typeOf, serialize]
      rw [Layout.deserialize_encode _ fits]
      rfl
  | shipPlacement | move | resign | drawOffer | drawResponse | rematchRequest | rematchResponse =>
      simp only [readRequest, typeOf, serialize]
      rw [Layout.copy_encode _ fits]
      rfl

variable {Value : Type} (layout : Layout Value) (type : MessageType) (payload : List UInt8)

theorem typeOf_elim {read : Option Value} {request : Value → Request}
    (typed : ∀ value, typeOf (request value) = type) :
    typeOf (read.elim (.unread type) request) = type := by
  cases read with
  | none => rfl
  | some value => exact typed value

theorem typeOf_readRequest : typeOf (readRequest type payload) = type := by
  cases type
  all_goals first
    | rfl
    | exact typeOf_elim _ fun _ => rfl

theorem fits_elim {read : Option Value} {request : Value → Request}
    (fits : ∀ value, read = some value → Fits (request value)) :
    read.elim (.unread type) request = .unread type ∨ Fits (read.elim (.unread type) request) := by
  cases read with
  | none => exact Or.inl rfl
  | some value => exact Or.inr (fits value rfl)

/-- A request that is read from a payload whose texts end fits into its struct. -/
theorem readRequest_fits (ends : Ends type payload) :
    readRequest type payload = .unread type ∨ Fits (readRequest type payload) := by
  cases type with
  | ping | playerListRequest => exact Or.inr trivial
  | authRegister =>
      refine fits_elim _ fun value read => ?_
      obtain ⟨name, secret, shown, -⟩ := Layout.fits_of_deserialize _ ends read
      exact ⟨name, secret, shown, (by decide : Plain []).fits _ (by decide)⟩
  | authLogin | authLogout | validateSession =>
      exact fits_elim _ fun value read => Layout.fits_of_deserialize _ ends read
  | challengeSend =>
      exact fits_elim _ fun value read =>
        Layout.fits_of_deserialize challengeRequest ⟨trivial, trivial, trivial⟩ read
  | challengeResponse =>
      exact fits_elim _ fun value read =>
        Layout.fits_of_deserialize challengeResponse ⟨trivial, trivial⟩ read
  | shipPlacement =>
      refine fits_elim _ fun value read => ?_
      obtain ⟨narrow, ships, -⟩ := Layout.fits_of_copy shipPlacementMessage
        ⟨trivial, fun _ => ⟨trivial, trivial, ⟨trivial, trivial⟩, trivial, trivial, trivial⟩,
          trivial⟩ read
      exact ⟨narrow, ships, trivial⟩
  | move =>
      exact fits_elim _ fun value read =>
        Layout.fits_of_copy moveMessage ⟨trivial, trivial, trivial⟩ read
  | resign | drawOffer | rematchRequest =>
      exact fits_elim _ fun value read => Layout.fits_of_copy matchMessage trivial read
  | drawResponse =>
      exact fits_elim _ fun value read =>
        Layout.fits_of_copy drawResponseMessage ⟨trivial, trivial⟩ read
  | rematchResponse =>
      refine fits_elim _ fun value read => ?_
      obtain ⟨narrow, -⟩ := Layout.fits_of_copy rematchResponseMessage
        ⟨trivial, trivial, trivial⟩ read
      exact ⟨narrow, trivial, Nat.pow_pos (by decide)⟩
  | _ => exact Or.inl rfl

/-- What the server accepts is well formed: it is the request that some client can send. -/
theorem readRequest_sound (ends : Ends type payload)
    (accepted : readRequest type payload ≠ .unread type) :
    Fits (readRequest type payload) ∧
      readRequest type (serialize (readRequest type payload)) = readRequest type payload := by
  have fits := (readRequest_fits type payload ends).resolve_left accepted
  refine ⟨fits, ?_⟩
  have again := readRequest_serialize fits
  rwa [typeOf_readRequest] at again

theorem headD_drop (count : Nat) : (payload.drop count).headD 0 = payload.getD count 0 := by
  rw [List.headD_eq_head?_getD, List.head?_drop, List.getD_eq_getElem?_getD]

theorem request_eq {type : PlayType} {request : Value → Request}
    (size : type.structSize = layout.size)
    (same : type.struct payload = request (layout.decode payload)) :
    type.request payload = (layout.copy payload).elim (.unread type.messageType) request := by
  rw [PlayType.request, Layout.copy, size, same]
  split <;> rfl

/-- The types of a running match are read here as where messages are turned away. -/
theorem playType_request (type : PlayType) :
    type.request payload = readRequest type.messageType payload := by
  cases type with
  | move =>
      refine request_eq moveMessage payload rfl ?_
      change _ = Request.move (readMatchId payload) ⟨((payload.drop 4).headD 0).toInt8,
        (((payload.drop 4).drop 1).headD 0).toInt8⟩
      rw [List.drop_drop, headD_drop, headD_drop]
      rfl
  | resign => exact request_eq matchMessage payload rfl rfl
  | drawOffer => exact request_eq matchMessage payload rfl rfl
  | drawResponse =>
      refine request_eq drawResponseMessage payload rfl ?_
      change _ = Request.drawResponse (readMatchId payload) (decide ((payload.drop 4).headD 0 ≠ 0))
      rw [headD_drop]
      rfl

end RoundTrip

end RequestBytes

end Battleship
