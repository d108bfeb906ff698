import Battleship.Library.Framing

/-! The bytes of a connection. The kernel takes a part of what a `send` call
offers and hands a part of what has arrived to a `recv` call; the loops of
`ClientConnection` go on until a message has passed. -/

namespace Battleship.Wire

abbrev Byte := UInt8

def maxMessageSize : Nat := 4096

structure MessageHeader where
  type : UInt8
  length : UInt32
  timestamp : UInt64
  sessionToken : Vector Byte 64
deriving DecidableEq

namespace MessageHeader

def size : Nat := 77

def bytes (header : MessageHeader) : List Byte :=
  header.type :: (LittleEndian.write 4 header.length.toNat ++
    (LittleEndian.write 8 header.timestamp.toNat ++ header.sessionToken.toList))

def ofBytes (buffer : List Byte) : MessageHeader where
  type := buffer.headD 0
  length := UInt32.ofNat (LittleEndian.read ((buffer.drop 1).take 4))
  timestamp := UInt64.ofNat (LittleEndian.read ((buffer.drop 5).take 8))
  sessionToken := Vector.ofFn fun index => (buffer.drop 13).getD index 0

@[simp] theorem length_bytes (header : MessageHeader) : header.bytes.length = size := by
  simp [bytes, size]

@[simp] theorem ofBytes_bytes (header : MessageHeader) : ofBytes header.bytes = header := by
  obtain ⟨type, length, timestamp, token⟩ := header
  have lengthRead : LittleEndian.read (LittleEndian.write 4 length.toNat) = length.toNat :=
    LittleEndian.read_write_of_lt length.toNat_lt
  have timestampRead :
      LittleEndian.read (LittleEndian.write 8 timestamp.toNat) = timestamp.toNat :=
    LittleEndian.read_write_of_lt timestamp.toNat_lt
  have tokenRead :
      (Vector.ofFn fun index : Fin 64 => token.toList.getD index 0) = token := by
    ext index inside
    simp
  have parts : ofBytes (bytes ⟨type, length, timestamp, token⟩) =
      ⟨type, UInt32.ofNat (LittleEndian.read (LittleEndian.write 4 length.toNat)),
        UInt64.ofNat (LittleEndian.read (LittleEndian.write 8 timestamp.toNat)),
        Vector.ofFn fun index : Fin 64 => token.toList.getD index 0⟩ := by
    simp [ofBytes, bytes, List.drop_append]
  rw [parts, lengthRead, timestampRead, tokenRead]
  simp

end MessageHeader

structure Message where
  header : MessageHeader
  payload : List Byte
deriving DecidableEq

structure Message.Framed (message : Message) : Prop where
  exact : message.header.length.toNat = message.payload.length
  short : message.payload.length ≤ maxMessageSize

def Message.bytes (message : Message) : List Byte := message.header.bytes ++ message.payload

def takeBytes (count : Nat) (stream : List Byte) : Option (List Byte × List Byte) :=
  if stream.length < count then none else some (stream.take count, stream.drop count)

def decode (stream : List Byte) : Option (Message × List Byte) :=
  match takeBytes MessageHeader.size stream with
  | none => none
  | some (buffer, stream) =>
      let header := MessageHeader.ofBytes buffer
      if maxMessageSize < header.length.toNat then none
      else
        match takeBytes header.length.toNat stream with
        | none => none
        | some (payload, stream) => some (⟨header, payload⟩, stream)

theorem takeBytes_append (bytes rest : List Byte) :
    takeBytes bytes.length (bytes ++ rest) = some (bytes, rest) := by
  simp [takeBytes]

theorem takeBytes_of_short {count : Nat} {stream : List Byte} (short : stream.length < count) :
    takeBytes count stream = none := by
  simp [takeBytes, short]

theorem decode_bytes {message : Message} (framed : message.Framed) (rest : List Byte) :
    decode (message.bytes ++ rest) = some (message, rest) := by
  have head : takeBytes MessageHeader.size (message.bytes ++ rest) =
      some (message.header.bytes, message.payload ++ rest) := by
    simpa [Message.bytes] using takeBytes_append message.header.bytes (message.payload ++ rest)
  have short : ¬ maxMessageSize < message.payload.length := Nat.not_lt.mpr framed.short
  simp [decode, head, framed.exact, short, takeBytes_append]

def frames : Framing.Code Message Byte where
  Valid := Message.Framed
  encode := Message.bytes
  decode := decode
  decode_encode framed rest := decode_bytes framed rest

def nextHeader (stream : List Byte) : MessageHeader :=
  MessageHeader.ofBytes (stream.take MessageHeader.size)

def EndsInside (stream : List Byte) : Prop :=
  stream.length < MessageHeader.size ∨
    stream.length < MessageHeader.size + (nextHeader stream).length.toNat

def Oversized (stream : List Byte) : Prop :=
  MessageHeader.size ≤ stream.length ∧ maxMessageSize < (nextHeader stream).length.toNat

theorem decode_broken {stream : List Byte} (broken : EndsInside stream ∨ Oversized stream) :
    decode stream = none := by
  by_cases headless : stream.length < MessageHeader.size
  · simp [decode, takeBytes_of_short headless]
  · have head : takeBytes MessageHeader.size stream =
        some (stream.take MessageHeader.size, stream.drop MessageHeader.size) := by
      simp [takeBytes, headless]
    by_cases large : maxMessageSize < (nextHeader stream).length.toNat
    · have refused : maxMessageSize <
          (MessageHeader.ofBytes (stream.take MessageHeader.size)).length.toNat := large
      simp [decode, head, refused]
    · have fewer : (stream.drop MessageHeader.size).length <
          (MessageHeader.ofBytes (stream.take MessageHeader.size)).length.toNat := by
        have short := broken.resolve_right fun oversized => large oversized.2
        have cut := short.resolve_left headless
        rw [List.length_drop]
        unfold nextHeader at cut
        omega
      simp [decode, head, takeBytes_of_short fewer]

/-- The outcome of one `send` call; `interrupted` is EINTR, `badDescriptor` EBADF. -/
inductive SendResult
  | sent (count : Nat)
  | interrupted
  | badDescriptor
  | failed
deriving DecidableEq

inductive RecvResult
  | received (count : Nat)
  | interrupted
  | failed
deriving DecidableEq

/-- A connection with the answers its next `send` and `recv` calls get. Once
they are used up, a call moves all it is asked to. `incoming` is what arrives
until the peer closes. -/
structure ClientConnection where
  socketFd : Int
  connected : Bool
  sends : List SendResult
  receives : List RecvResult
  outgoing : List Byte
  incoming : List Byte

namespace ClientConnection

def disconnect (client : ClientConnection) : ClientConnection :=
  if client.connected then
    { client with
      connected := false
      socketFd := if 0 ≤ client.socketFd then -1 else client.socketFd }
  else client

def sendLoop : List SendResult → List Byte → ClientConnection → Bool × ClientConnection
  | answers, [], client => (true, { client with sends := answers })
  | [], buffer, client => (true, { client with sends := [], outgoing := client.outgoing ++ buffer })
  | .interrupted :: answers, buffer, client => sendLoop answers buffer client
  | .badDescriptor :: answers, _, client => (false, { client with sends := answers })
  | .failed :: answers, _, client => (false, { client with sends := answers }.disconnect)
  | .sent count :: answers, buffer, client =>
      if count = 0 then (false, { client with sends := answers }.disconnect)
      else
        sendLoop answers (buffer.drop count)
          { client with outgoing := client.outgoing ++ buffer.take count }

def sendData (buffer : List Byte) (client : ClientConnection) : Bool × ClientConnection :=
  if !client.connected || client.socketFd < 0 then (false, client)
  else sendLoop client.sends buffer client

/-- The `size` bytes from the start of the payload; `beyond` is the memory behind it. -/
def payloadBytes (beyond : Nat → Byte) (payload : List Byte) (size : Nat) : List Byte :=
  (List.range size).map fun index => payload.getD index (beyond (index - payload.length))

def sendMessage (beyond : Nat → Byte) (message : Message) (client : ClientConnection) :
    Bool × ClientConnection :=
  if !client.connected then (false, client)
  else
    match client.sendData message.header.bytes with
    | (false, client) => (false, client)
    | (true, client) =>
        if 0 < message.header.length.toNat ∧ message.payload ≠ [] then
          client.sendData (payloadBytes beyond message.payload message.header.length.toNat)
        else (true, client)

def receiveLoop : List RecvResult → Nat → List Byte → ClientConnection →
    Option (List Byte) × ClientConnection
  | answers, 0, buffer, client => (some buffer, { client with receives := answers })
  | [], count + 1, buffer, client =>
      let chunk := client.incoming.take (count + 1)
      let client := { client with receives := [], incoming := client.incoming.drop (count + 1) }
      if chunk.length = count + 1 then (some (buffer ++ chunk), client)
      else (none, client.disconnect)
  | .interrupted :: answers, count + 1, buffer, client =>
      receiveLoop answers (count + 1) buffer client
  | .failed :: answers, _ + 1, _, client => (none, { client with receives := answers }.disconnect)
  | .received size :: answers, count + 1, buffer, client =>
      let chunk := client.incoming.take (min size (count + 1))
      if chunk = [] then (none, { client with receives := answers }.disconnect)
      else
        receiveLoop answers (count + 1 - chunk.length) (buffer ++ chunk)
          { client with incoming := client.incoming.drop chunk.length }

def receiveData (count : Nat) (client : ClientConnection) :
    Option (List Byte) × ClientConnection :=
  if !client.connected || client.socketFd < 0 then (none, client)
  else receiveLoop client.receives count [] client

def receiveMessage (client : ClientConnection) : Option Message × ClientConnection :=
  if !client.connected then (none, client)
  else
    match client.receiveData MessageHeader.size with
    | (none, client) => (none, client)
    | (some buffer, client) =>
        let header := MessageHeader.ofBytes buffer
        if maxMessageSize < header.length.toNat then (none, client.disconnect)
        else if 0 < header.length.toNat then
          match client.receiveData header.length.toNat with
          | (none, client) => (none, client)
          | (some payload, client) => (some ⟨header, payload⟩, client)
        else (some ⟨header, []⟩, client)

def sendMessages (beyond : Nat → Byte) : List Message → ClientConnection → Bool × ClientConnection
  | [], client => (true, client)
  | message :: messages, client =>
      match client.sendMessage beyond message with
      | (false, client) => (false, client)
      | (true, client) => sendMessages beyond messages client

def receiveMessages : Nat → ClientConnection → List Message × ClientConnection
  | 0, client => ([], client)
  | count + 1, client =>
      match client.receiveMessage with
      | (none, client) => ([], client)
      | (some message, client) =>
          let (messages, client) := receiveMessages count client
          (message :: messages, client)

@[simp] theorem disconnect_connected (client : ClientConnection) :
    client.disconnect.connected = false := by
  unfold disconnect
  split <;> simp_all

end ClientConnection

def SendResult.Passes : SendResult → Prop
  | sent count => 0 < count
  | interrupted => True
  | badDescriptor => False
  | failed => False

def RecvResult.Passes : RecvResult → Prop
  | received count => 0 < count
  | interrupted => True
  | failed => False

namespace ClientConnection

structure Sending (client : ClientConnection) : Prop where
  connected : client.connected = true
  descriptor : 0 ≤ client.socketFd
  passes : ∀ answer ∈ client.sends, answer.Passes

structure Receiving (client : ClientConnection) : Prop where
  connected : client.connected = true
  descriptor : 0 ≤ client.socketFd
  passes : ∀ answer ∈ client.receives, answer.Passes

section Sends

theorem sendLoop_passes (answers : List SendResult) (buffer : List Byte)
    (client : ClientConnection) (passes : ∀ answer ∈ answers, answer.Passes) :
    ∃ later : List SendResult, (∀ answer ∈ later, answer.Passes) ∧
      sendLoop answers buffer client =
        (true, { client with sends := later, outgoing := client.outgoing ++ buffer }) := by
  induction answers generalizing buffer client with
  | nil => cases buffer <;> exact ⟨[], by simp, by simp [sendLoop]⟩
  | cons answer answers ih =>
      have first := passes answer (by simp)
      have others : ∀ other ∈ answers, other.Passes := fun other member =>
        passes other (by simp [member])
      cases buffer with
      | nil => exact ⟨answer :: answers, passes, by simp [sendLoop]⟩
      | cons byte buffer =>
          cases answer with
          | interrupted => exact ih (byte :: buffer) client others
          | badDescriptor => exact first.elim
          | failed => exact first.elim
          | sent count =>
              obtain ⟨later, laterPasses, result⟩ := ih ((byte :: buffer).drop count)
                { client with outgoing := client.outgoing ++ (byte :: buffer).take count } others
              refine ⟨later, laterPasses, ?_⟩
              rw [sendLoop, if_neg (Nat.pos_iff_ne_zero.mp first), result, List.append_assoc,
                List.take_append_drop]
              simp

theorem sendData_passes {client : ClientConnection} (sending : client.Sending)
    (buffer : List Byte) :
    ∃ after, client.sendData buffer = (true, after) ∧ after.Sending ∧
      after.outgoing = client.outgoing ++ buffer := by
  obtain ⟨later, laterPasses, result⟩ := sendLoop_passes client.sends buffer client sending.passes
  refine ⟨{ client with sends := later, outgoing := client.outgoing ++ buffer }, ?_,
    ⟨sending.connected, sending.descriptor, laterPasses⟩, rfl⟩
  rw [← result]
  simp [sendData, sending.connected, sending.descriptor]

theorem payloadBytes_length (beyond : Nat → Byte) (payload : List Byte) :
    payloadBytes beyond payload payload.length = payload := by
  apply List.ext_getElem
  · simp [payloadBytes]
  · intro index inside _
    have inside : index < payload.length := by simpa [payloadBytes] using inside
    simp [payloadBytes, inside]

variable (beyond : Nat → Byte)

theorem sendMessage_passes {client : ClientConnection} (sending : client.Sending)
    {message : Message} (given : message.payload = [] → message.header.length = 0) :
    ∃ after, client.sendMessage beyond message = (true, after) ∧ after.Sending ∧
      after.outgoing = client.outgoing ++ (message.header.bytes ++
        payloadBytes beyond message.payload message.header.length.toNat) := by
  obtain ⟨headed, headSent, headSending, headOutgoing⟩ :=
    sendData_passes sending message.header.bytes
  by_cases bodiless : message.header.length.toNat = 0
  · refine ⟨headed, ?_, headSending, ?_⟩
    · simp [sendMessage, sending.connected, headSent, bodiless]
    · simp [headOutgoing, payloadBytes, bodiless]
  · have present : message.payload ≠ [] := fun empty => bodiless (by simp [given empty])
    obtain ⟨after, sent, afterSending, afterOutgoing⟩ := sendData_passes headSending
      (payloadBytes beyond message.payload message.header.length.toNat)
    refine ⟨after, ?_, afterSending, ?_⟩
    · simp [sendMessage, sending.connected, headSent, present, Nat.pos_iff_ne_zero.mpr bodiless,
        sent]
    · rw [afterOutgoing, headOutgoing, List.append_assoc]

theorem sendMessage_framed {client : ClientConnection} (sending : client.Sending)
    {message : Message} (framed : message.Framed) :
    ∃ after, client.sendMessage beyond message = (true, after) ∧ after.Sending ∧
      after.outgoing = client.outgoing ++ message.bytes := by
  have given : message.payload = [] → message.header.length = 0 := by
    intro empty
    have exact := framed.exact
    rw [empty, List.length_nil] at exact
    exact UInt32.toNat_inj.mp exact
  have written := sendMessage_passes beyond sending given
  rwa [framed.exact, payloadBytes_length] at written

theorem sendMessages_framed {client : ClientConnection} (sending : client.Sending)
    {messages : List Message} (framed : ∀ message ∈ messages, message.Framed) :
    ∃ after, client.sendMessages beyond messages = (true, after) ∧ after.Sending ∧
      after.outgoing = client.outgoing ++ messages.flatMap Message.bytes := by
  induction messages generalizing client with
  | nil => exact ⟨client, rfl, sending, by simp⟩
  | cons message messages ih =>
      obtain ⟨first, firstSent, firstSending, firstOutgoing⟩ :=
        sendMessage_framed beyond sending (framed message (by simp))
      obtain ⟨after, sent, afterSending, afterOutgoing⟩ :=
        ih firstSending fun other member => framed other (by simp [member])
      refine ⟨after, by rw [sendMessages, firstSent]; exact sent, afterSending, ?_⟩
      rw [afterOutgoing, firstOutgoing, List.append_assoc, List.flatMap_cons]

end Sends

section Receives

theorem receiveLoop_enough (answers : List RecvResult) {count : Nat} (buffer : List Byte)
    {client : ClientConnection} (passes : ∀ answer ∈ answers, answer.Passes)
    (enough : count ≤ client.incoming.length) :
    ∃ later : List RecvResult, (∀ answer ∈ later, answer.Passes) ∧
      receiveLoop answers count buffer client =
        (some (buffer ++ client.incoming.take count),
          { client with receives := later, incoming := client.incoming.drop count }) := by
  induction answers generalizing count buffer client with
  | nil =>
      cases count with
      | zero => exact ⟨[], by simp, by simp [receiveLoop]⟩
      | succ count => exact ⟨[], by simp, by simp [receiveLoop, Nat.min_eq_left enough]⟩
  | cons answer answers ih =>
      have first := passes answer (by simp)
      have others : ∀ other ∈ answers, other.Passes := fun other member =>
        passes other (by simp [member])
      cases count with
      | zero => exact ⟨answer :: answers, passes, by simp [receiveLoop]⟩
      | succ count =>
          cases answer with
          | interrupted => exact ih buffer others enough
          | failed => exact first.elim
          | received size =>
              have positive : 0 < size := first
              have taken : (client.incoming.take (min size (count + 1))).length =
                  min size (count + 1) := by
                rw [List.length_take]
                omega
              have some : client.incoming.take (min size (count + 1)) ≠ [] := by
                rw [← List.length_pos_iff, taken]
                omega
              obtain ⟨later, laterPasses, result⟩ :=
                @ih (count + 1 - min size (count + 1))
                  (buffer ++ client.incoming.take (min size (count + 1)))
                  { client with incoming := client.incoming.drop (min size (count + 1)) } others
                  (by rw [List.length_drop]; omega)
              refine ⟨later, laterPasses, ?_⟩
              have whole : min size (count + 1) + (count + 1 - min size (count + 1)) = count + 1 := by
                omega
              rw [receiveLoop]
              simp only [if_neg some, taken, result]
              rw [List.append_assoc, ← List.take_add, List.drop_drop, whole]

theorem receiveLoop_short (answers : List RecvResult) {count : Nat} (buffer : List Byte)
    {client : ClientConnection} (short : client.incoming.length < count) :
    (receiveLoop answers count buffer client).1 = none ∧
      (receiveLoop answers count buffer client).2.connected = false := by
  induction answers generalizing count buffer client with
  | nil =>
      obtain ⟨count, rfl⟩ := Nat.exists_eq_succ_of_ne_zero (Nat.ne_zero_of_lt short)
      have missing : min (count + 1) client.incoming.length ≠ count + 1 := by omega
      simp [receiveLoop, missing]
  | cons answer answers ih =>
      obtain ⟨count, rfl⟩ := Nat.exists_eq_succ_of_ne_zero (Nat.ne_zero_of_lt short)
      cases answer with
      | interrupted => exact ih buffer short
      | failed => exact ⟨rfl, disconnect_connected _⟩
      | received size =>
          rw [receiveLoop]
          by_cases ended : client.incoming.take (min size (count + 1)) = []
          · simp only [if_pos ended]
            exact ⟨trivial, disconnect_connected _⟩
          · simp only [if_neg ended]
            refine ih _ ?_
            simp only [List.length_drop, List.length_take]
            omega

theorem receiveData_receiving {client : ClientConnection} (receiving : client.Receiving)
    (count : Nat) : client.receiveData count = receiveLoop client.receives count [] client := by
  simp [receiveData, receiving.connected, receiving.descriptor]

theorem receiveData_of_takeBytes {client : ClientConnection} (receiving : client.Receiving)
    {count : Nat} {bytes rest : List Byte}
    (taken : takeBytes count client.incoming = some (bytes, rest)) :
    ∃ after, client.receiveData count = (some bytes, after) ∧ after.Receiving ∧
      after.incoming = rest := by
  unfold takeBytes at taken
  split at taken
  case isTrue => simp at taken
  case isFalse enough =>
      obtain ⟨rfl, rfl⟩ : client.incoming.take count = bytes ∧ client.incoming.drop count = rest := by
        simpa using taken
      obtain ⟨later, laterPasses, result⟩ := receiveLoop_enough client.receives [] receiving.passes
        (Nat.not_lt.mp enough)
      refine ⟨{ client with receives := later, incoming := client.incoming.drop count }, ?_,
        ⟨receiving.connected, receiving.descriptor, laterPasses⟩, rfl⟩
      rw [receiveData_receiving receiving, result, List.nil_append]

theorem receiveData_of_missing {client : ClientConnection} (receiving : client.Receiving)
    {count : Nat} (missing : takeBytes count client.incoming = none) :
    ∃ after, client.receiveData count = (none, after) ∧ after.connected = false := by
  have short : client.incoming.length < count := by simpa [takeBytes] using missing
  obtain ⟨failed, disconnected⟩ := receiveLoop_short client.receives [] short
  rw [receiveData_receiving receiving]
  exact ⟨_, Prod.ext failed rfl, disconnected⟩

theorem takeBytes_zero (stream : List Byte) : takeBytes 0 stream = some ([], stream) := by
  simp [takeBytes]

theorem receiveMessage_of_decode {client : ClientConnection} (receiving : client.Receiving)
    {message : Message} {rest : List Byte} (decoded : decode client.incoming = some (message, rest)) :
    ∃ after, client.receiveMessage = (some message, after) ∧ after.Receiving ∧
      after.incoming = rest := by
  unfold decode at decoded
  split at decoded
  case h_1 => simp at decoded
  case h_2 buffer stream head =>
      obtain ⟨headed, headReceived, headReceiving, headIncoming⟩ :=
        receiveData_of_takeBytes receiving head
      dsimp only at decoded
      split_ifs at decoded with large
      split at decoded
      case h_1 => simp at decoded
      case h_2 payload stream' body =>
          obtain ⟨rfl, rfl⟩ : ⟨.ofBytes buffer, payload⟩ = message ∧ stream' = rest := by
            simpa using decoded
          by_cases empty : (MessageHeader.ofBytes buffer).length.toNat = 0
          · rw [empty, takeBytes_zero] at body
            obtain ⟨rfl, rfl⟩ : [] = payload ∧ stream = stream' := by simpa using body
            refine ⟨headed, ?_, headReceiving, headIncoming⟩
            simp [receiveMessage, receiving.connected, headReceived, empty]
          · rw [← headIncoming] at body
            obtain ⟨after, received, afterReceiving, afterIncoming⟩ :=
              receiveData_of_takeBytes headReceiving body
            refine ⟨after, ?_, afterReceiving, afterIncoming⟩
            simp [receiveMessage, receiving.connected, headReceived, large,
              Nat.pos_iff_ne_zero.mpr empty, received]

theorem receiveMessage_of_broken {client : ClientConnection} (receiving : client.Receiving)
    (broken : decode client.incoming = none) :
    ∃ after, client.receiveMessage = (none, after) ∧ after.connected = false := by
  unfold decode at broken
  split at broken
  case h_1 head =>
      obtain ⟨after, failed, disconnected⟩ := receiveData_of_missing receiving head
      exact ⟨after, by simp [receiveMessage, receiving.connected, failed], disconnected⟩
  case h_2 buffer stream head =>
      obtain ⟨headed, headReceived, headReceiving, headIncoming⟩ :=
        receiveData_of_takeBytes receiving head
      dsimp only at broken
      split_ifs at broken with large
      · exact ⟨headed.disconnect, by simp [receiveMessage, receiving.connected, headReceived, large],
          disconnect_connected headed⟩
      · split at broken
        case h_2 => simp at broken
        case h_1 body =>
            have positive : 0 < (MessageHeader.ofBytes buffer).length.toNat := by
              apply Nat.pos_of_ne_zero
              intro empty
              rw [empty, takeBytes_zero] at body
              simp at body
            rw [← headIncoming] at body
            obtain ⟨after, failed, disconnected⟩ := receiveData_of_missing headReceiving body
            refine ⟨after, ?_, disconnected⟩
            simp [receiveMessage, receiving.connected, headReceived, large, positive, failed]

/-- However the stream is cut into chunks, what is received is what the code reads from it. -/
theorem receiveMessages_readUpTo {client : ClientConnection} (receiving : client.Receiving)
    (count : Nat) :
    (client.receiveMessages count).1 = (Framing.readUpTo frames count client.incoming).1 ∧
      (client.receiveMessages count).2.connected =
        (Framing.readUpTo frames count client.incoming).2.isSome := by
  induction count generalizing client with
  | zero => exact ⟨rfl, receiving.connected⟩
  | succ count ih =>
      rw [Framing.readUpTo]
      cases decoded : frames.decode client.incoming with
      | none =>
          obtain ⟨after, failed, disconnected⟩ := receiveMessage_of_broken receiving decoded
          simp [receiveMessages, failed, disconnected]
      | some found =>
          obtain ⟨message, rest⟩ := found
          obtain ⟨after, received, afterReceiving, afterIncoming⟩ :=
            receiveMessage_of_decode receiving decoded
          obtain ⟨later, open'⟩ := ih afterReceiving
          rw [afterIncoming] at later open'
          simp [receiveMessages, received, later, open']

end Receives

end ClientConnection

open Wire.ClientConnection

/-- What is sent comes out again, however the kernel splits it on both sides and
whatever follows it; a broken end costs the connection, not a message. -/
theorem frames_roundTrip {messages : List Message} (framed : ∀ message ∈ messages, message.Framed)
    (beyond : Nat → Byte) {sender : ClientConnection} (sending : sender.Sending) :
    ∃ (stream : List Byte) (after : ClientConnection),
      sender.sendMessages beyond messages = (true, after) ∧ after.connected = true ∧
      after.outgoing = sender.outgoing ++ stream ∧
      ∀ (receiver : ClientConnection) (rest : List Byte), receiver.Receiving →
        receiver.incoming = stream ++ rest →
        (∀ count ≤ messages.length,
          (receiver.receiveMessages count).1 = messages.take count ∧
            (receiver.receiveMessages count).2.connected = true) ∧
        (EndsInside rest ∨ Oversized rest → ∀ count > messages.length,
          (receiver.receiveMessages count).1 = messages ∧
            (receiver.receiveMessages count).2.connected = false) := by
  obtain ⟨after, sent, afterSending, written⟩ := sendMessages_framed beyond sending framed
  refine ⟨messages.flatMap Message.bytes, after, sent, afterSending.connected, written, ?_⟩
  intro receiver rest receiving arrived
  constructor
  · intro count few
    have read := Framing.readUpTo_sent frames framed rest few
    have received := receiveMessages_readUpTo receiving count
    rw [arrived] at received
    rw [show frames.encode = Message.bytes from rfl] at read
    rw [read] at received
    simpa using received
  · intro broken count many
    have read := Framing.readUpTo_broken frames framed (decode_broken broken) many
    have received := receiveMessages_readUpTo receiving count
    rw [arrived] at received
    rw [show frames.encode = Message.bytes from rfl] at read
    rw [read] at received
    simpa using received

def ping : Message := ⟨⟨101, 0, 0, Vector.replicate 64 0⟩, []⟩

def pong : Message := ⟨⟨102, 3, 0, Vector.replicate 64 0⟩, [1, 2, 3]⟩

theorem frames_roundTrip_pong :
    ∃ (stream : List Byte) (after : ClientConnection),
      sendMessages (fun _ => 0) [ping, pong]
        ⟨4, true, [.sent 5, .interrupted, .sent 80], [], [], []⟩ = (true, after) ∧
      after.outgoing = stream ∧
      (receiveMessages 3
        ⟨5, true, [], [.received 1, .interrupted, .received 70], [], stream ++ [35]⟩).1 =
          [ping, pong] := by
  have framed : ∀ message ∈ [ping, pong], message.Framed := by
    intro message member
    obtain rfl | rfl : message = ping ∨ message = pong := by simpa using member
    · exact ⟨by decide, by decide⟩
    · exact ⟨by decide, by decide⟩
  have sending : (⟨4, true, [.sent 5, .interrupted, .sent 80], [], [], []⟩
      : ClientConnection).Sending := ⟨rfl, by decide, by simp [SendResult.Passes]⟩
  obtain ⟨stream, after, sent, _, written, reads⟩ := frames_roundTrip framed (fun _ => 0) sending
  refine ⟨stream, after, sent, by simpa using written, ?_⟩
  exact ((reads _ [35] ⟨rfl, by simp, by simp [RecvResult.Passes]⟩ rfl).2
    (Or.inl (Or.inl (by decide))) 3 (by decide)).1

end Battleship.Wire
