import Battleship.ClientReceiving
import Battleship.PayloadReading

/-! From the structs that the server sends to the callbacks of the client: through the frames,
the rounds of the receiving thread and the handlers. -/

namespace Battleship.ResponseDelivery

open ClientPayloads (Client Memory dispatch)
open ClientReceiving (Errno Round Receiver Breaks InStep receiveLoop receiveRound start)
open PayloadBytes (Typed Fits serialize)
open PayloadReading (Reader Represents)
open Wire (Message)

structure Response where
  type : MessageType
  payload : Payload
  timestamp : UInt64
  sessionToken : Vector UInt8 64

namespace Response

variable (response : Response)

def message : Message :=
  ⟨⟨response.type.code, .ofNat response.payload.size, response.timestamp, response.sessionToken⟩,
    serialize response.payload⟩

end Response

def handle (memory : Memory) (message : Message) (client : Client) : Client :=
  match MessageType.ofCode message.header.type with
  | none => client
  | some type => (dispatch memory message.payload client type).client

/-- What the handlers make of the client, whatever lies in its memory from one message to the
next. -/
inductive Handles : Client → List Message → Client → Prop
  | none (client : Client) : Handles client [] client
  | more (memory : Memory) {client later : Client} {message : Message} {messages : List Message}
      (handles : Handles (handle memory message client) messages later) :
      Handles client (message :: messages) later

def waiting : Client where
  pendingRequest := .login
  status := .connected
  userId := 0
  sessionToken := []
  displayName := []
  eloRating := 0
  currentMatchId := 0
  given := fun _ => true
  notices := []

def responses : List Response :=
  [⟨.authResponse, .loginResponse true 1 "token".toList "Alice".toList 1200 [], 7,
      Vector.replicate 64 0⟩,
    ⟨.turnUpdate, .turnUpdate 3 1 1 20, 8, Vector.replicate 64 0⟩,
    ⟨.drawOffer, .drawOffer 3, 9, Vector.replicate 64 0⟩]

def rounds : List Round :=
  [⟨true, true, true, .timeout, .timeout, none⟩,
    ⟨true, true, true, .received 77, .received 265, some .other⟩,
    ⟨true, true, true, .received 80, .received 16, none⟩]

end Battleship.ResponseDelivery
