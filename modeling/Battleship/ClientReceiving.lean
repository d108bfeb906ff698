import Battleship.ClientNetwork
import Battleship.Transfer

/-! The receiving thread of the client. Header and payload are asked for with one `recv` call
each; what a call leaves behind in `errno` decides whether the loop takes a failure for a
timeout and goes on. -/

namespace Battleship.ClientReceiving

open Wire (Byte Message MessageHeader)

/-- `EAGAIN` and `EWOULDBLOCK` are one number. -/
inductive Errno
  | again | other
deriving DecidableEq

/-- What a `recv` call with `MSG_WAITALL` comes to: at most as many bytes, fewer when the time
runs out on the way or the peer has closed, with `errno` as it was; no byte in time; or an error. -/
inductive RecvResult
  | received (count : Nat)
  | timeout
  | failed
deriving DecidableEq

/-- What one round of the loop meets: `running_` before and after the call of `receiveMessage`,
whether the socket is open, the two `recv` calls, and what the handler leaves in `errno`. -/
structure Round where
  running : Bool
  stillRunning : Bool
  opened : Bool
  header : RecvResult
  payload : RecvResult
  handlerErrno : Option Errno
deriving DecidableEq

/-- `stream` is what the server sends and the client has not taken yet. -/
structure Receiver where
  stream : List Byte
  errno : Errno
  status : ConnectionStatus
  dispatched : List Message
  stopped : Bool
deriving DecidableEq

def recv (count : Nat) (result : RecvResult) (client : Receiver) :
    Option (List Byte) × Receiver :=
  match result with
  | .received many =>
      let chunk := client.stream.take (min many count)
      (some chunk, { client with stream := client.stream.drop chunk.length })
  | .timeout => (none, { client with errno := .again })
  | .failed => (none, { client with errno := .other })

def receiveMessage (round : Round) (client : Receiver) : Option Message × Receiver :=
  if !round.opened then (none, client)
  else
    match recv MessageHeader.size round.header client with
    | (none, client) => (none, client)
    | (some buffer, client) =>
        if buffer.length ≠ MessageHeader.size then (none, client)
        else
          let header := MessageHeader.ofBytes buffer
          if 0 < header.length.toNat then
            match recv header.length.toNat round.payload client with
            | (none, client) => (none, client)
            | (some payload, client) =>
                if payload.length ≠ header.length.toNat then (none, client)
                else (some ⟨header, payload⟩, client)
          else (some ⟨header, []⟩, client)

def receiveRound (client : Receiver) (round : Round) : Receiver :=
  if client.stopped then client
  else if !round.running then { client with stopped := true }
  else
    match receiveMessage round client with
    | (some message, client) =>
        { client with
          dispatched := client.dispatched ++ [message]
          errno := round.handlerErrno.getD client.errno }
    | (none, client) =>
        if !round.stillRunning then { client with stopped := true }
        else if client.errno = .again then client
        else { client with status := .errorState, stopped := true }

def receiveLoop (rounds : List Round) (client : Receiver) : Receiver :=
  rounds.foldl receiveRound client

def start (messages : List Message) (errno : Errno) : Receiver where
  stream := messages.flatMap Message.bytes
  errno := errno
  status := .connected
  dispatched := []
  stopped := false

def Exact (message : Message) : Prop := message.payload.length = message.header.length.toNat

/-- What was dispatched are the first messages, and a loop that goes on stands before the next:
the bytes it takes for a header are those of one. -/
structure InStep (messages : List Message) (client : Receiver) : Prop where
  dispatched : client.dispatched <+: messages
  boundary : client.stopped = false → ∃ later, messages = client.dispatched ++ later ∧
    client.stream = later.flatMap Message.bytes

def taken (stream : List Byte) (count : Nat) : RecvResult → Nat
  | .received many => (stream.take (min many count)).length
  | _ => 0

def errnoAfter (errno : Errno) : RecvResult → Errno
  | .received _ => errno
  | .timeout => .again
  | .failed => .other

/-- The round takes a part of a frame and `errno` is that of a timeout, this one's or an earlier
one's: a header that is cut off, or a payload that is missing or cut off behind its header. -/
def Breaks (client : Receiver) (round : Round) : Prop :=
  client.stopped = false ∧ round.running = true ∧ round.opened = true ∧
    round.stillRunning = true ∧
    let head := taken client.stream MessageHeader.size round.header
    let length := (Wire.nextHeader client.stream).length.toNat
    (0 < head ∧ head < MessageHeader.size ∧ client.errno = .again) ∨
      (head = MessageHeader.size ∧
        taken (client.stream.drop MessageHeader.size) length round.payload < length ∧
        errnoAfter client.errno round.payload = .again)

instance (client : Receiver) (round : Round) : Decidable (Breaks client round) :=
  inferInstanceAs (Decidable (_ ∧ _ ∧ _ ∧ _ ∧ _))

theorem taken_le (stream : List Byte) (count : Nat) (result : RecvResult) :
    taken stream count result ≤ count := by
  cases result with
  | received many =>
      rw [taken, List.length_take]
      omega
  | _ => exact Nat.zero_le count

theorem taken_le_length (stream : List Byte) (count : Nat) (result : RecvResult) :
    taken stream count result ≤ stream.length := by
  cases result with
  | received many => exact List.length_take_le' ..
  | _ => exact Nat.zero_le stream.length

def Receiver.after (count : Nat) (errno : Errno) (client : Receiver) : Receiver :=
  { client with stream := client.stream.drop count, errno := errno }

theorem recv_client (count : Nat) (result : RecvResult) (client : Receiver) :
    (recv count result client).2 =
      client.after (taken client.stream count result) (errnoAfter client.errno result) := by
  cases result <;> rfl

/-- A call that gets all it asks for returns the front of the stream. -/
theorem recv_all {count : Nat} {result : RecvResult} {client : Receiver} (positive : 0 < count)
    (all : taken client.stream count result = count) :
    recv count result client =
      (some (client.stream.take count), client.after count client.errno) := by
  cases result with
  | received many =>
      rw [taken, List.length_take] at all
      have whole : min many count = count := by omega
      have long : (client.stream.take count).length = count := by
        rw [List.length_take]
        omega
      rw [recv, whole]
      simp only [long]
      rfl
  | timeout => exact absurd all (Nat.ne_of_lt positive)
  | failed => exact absurd all (Nat.ne_of_lt positive)

/-- A call that gets fewer bytes returns an error or too short a text. -/
theorem recv_short {count : Nat} {result : RecvResult} {client : Receiver}
    (short : taken client.stream count result < count) :
    ∀ buffer ∈ (recv count result client).1, buffer.length ≠ count := by
  cases result with
  | received many =>
      rintro buffer ⟨⟩
      exact Nat.ne_of_lt short
  | _ => simp [recv]

/-- A call that comes short leads to no message, whatever is done with a full buffer. -/
theorem recv_cut {count : Nat} {result : RecvResult} {client : Receiver}
    (full : List Byte → Receiver → Option Message × Receiver)
    (cut : taken client.stream count result < count) :
    (match recv count result client with
      | (none, client) => (none, client)
      | (some buffer, client) => if buffer.length ≠ count then (none, client) else full buffer client) =
      (none, client.after (taken client.stream count result) (errnoAfter client.errno result)) := by
  have later := recv_client count result client
  have short := recv_short cut
  cases answer : recv count result client with
  | mk buffer after =>
      rw [answer] at later short
      cases buffer with
      | none => exact congrArg (Prod.mk none) later
      | some buffer =>
          simp only [if_pos (short buffer rfl)]
          exact congrArg (Prod.mk none) later

section Rounds

variable {round : Round} {client : Receiver} (opened : round.opened = true)

include opened

theorem receiveMessage_header_cut
    (cut : taken client.stream MessageHeader.size round.header < MessageHeader.size) :
    receiveMessage round client =
      (none, client.after (taken client.stream MessageHeader.size round.header)
        (errnoAfter client.errno round.header)) := by
  rw [receiveMessage, opened]
  exact recv_cut _ cut

/-- The header is read, and the payload is asked for where there is one. -/
theorem receiveMessage_header
    (head : taken client.stream MessageHeader.size round.header = MessageHeader.size) :
    receiveMessage round client =
      let header := Wire.nextHeader client.stream
      let client := client.after MessageHeader.size client.errno
      if 0 < header.length.toNat then
        match recv header.length.toNat round.payload client with
        | (none, client) => (none, client)
        | (some payload, client) =>
            if payload.length ≠ header.length.toNat then (none, client)
            else (some ⟨header, payload⟩, client)
      else (some ⟨header, []⟩, client) := by
  have enough := taken_le_length client.stream MessageHeader.size round.header
  have long : (client.stream.take MessageHeader.size).length = MessageHeader.size := by
    rw [List.length_take]
    omega
  rw [receiveMessage, opened, recv_all (by decide) head]
  simp only [Bool.not_true, Bool.false_eq_true, if_false, long, ne_eq, not_true_eq_false]
  rfl

theorem receiveMessage_payload_cut
    (head : taken client.stream MessageHeader.size round.header = MessageHeader.size)
    (cut : taken (client.stream.drop MessageHeader.size)
      (Wire.nextHeader client.stream).length.toNat round.payload <
        (Wire.nextHeader client.stream).length.toNat) :
    receiveMessage round client =
      (none, client.after
        (MessageHeader.size + taken (client.stream.drop MessageHeader.size)
          (Wire.nextHeader client.stream).length.toNat round.payload)
        (errnoAfter client.errno round.payload)) := by
  rw [receiveMessage_header opened head]
  simp only [if_pos (Nat.zero_lt_of_lt cut)]
  refine (recv_cut _ cut).trans ?_
  simp [Receiver.after, List.drop_drop]

theorem receiveMessage_whole
    (head : taken client.stream MessageHeader.size round.header = MessageHeader.size)
    (body : taken (client.stream.drop MessageHeader.size)
      (Wire.nextHeader client.stream).length.toNat round.payload =
        (Wire.nextHeader client.stream).length.toNat) :
    receiveMessage round client =
      (some ⟨Wire.nextHeader client.stream, (client.stream.drop MessageHeader.size).take
          (Wire.nextHeader client.stream).length.toNat⟩,
        client.after (MessageHeader.size + (Wire.nextHeader client.stream).length.toNat)
          client.errno) := by
  rw [receiveMessage_header opened head]
  by_cases bare : (Wire.nextHeader client.stream).length.toNat = 0
  · simp [bare]
  · have positive := Nat.pos_of_ne_zero bare
    have enough := taken_le_length (client.stream.drop MessageHeader.size)
      (Wire.nextHeader client.stream).length.toNat round.payload
    have long : ((client.stream.drop MessageHeader.size).take
        (Wire.nextHeader client.stream).length.toNat).length =
          (Wire.nextHeader client.stream).length.toNat := by
      rw [List.length_take]
      omega
    simp only [if_pos positive]
    rw [recv_all positive body]
    simp [Receiver.after, long, List.drop_drop]

end Rounds

section Steps

variable {messages : List Message} {round : Round} {client : Receiver}

theorem InStep.stopped (dispatched : client.dispatched <+: messages)
    (stopped : client.stopped = true) : InStep messages client :=
  ⟨dispatched, fun going => absurd stopped (by simp [going])⟩

/-- Where nothing is dispatched, the loop ends, or it goes on from where the calls have left it. -/
theorem receiveRound_of_none {after : Receiver} (going : client.stopped = false)
    (running : round.running = true) (failed : receiveMessage round client = (none, after))
    (dispatched : after.dispatched <+: messages) :
    InStep messages (receiveRound client round) ↔
      (round.stillRunning = true → after.errno = .again → InStep messages after) := by
  simp only [receiveRound, going, running, failed]
  by_cases still : round.stillRunning = true
  · by_cases again : after.errno = .again
    · simp [still, again]
    · simp only [still, again]
      exact iff_of_true (.stopped dispatched rfl) (by simp)
  · simp only [still]
    exact iff_of_true (.stopped dispatched rfl) (by simp)

/-- A loop that has taken bytes without a message stands inside a frame. -/
theorem not_inStep_after {later : List Message} {count : Nat} {errno : Errno}
    (going : client.stopped = false) (split : messages = client.dispatched ++ later)
    (stream : client.stream = later.flatMap Message.bytes) (positive : 0 < count)
    (inside : count ≤ client.stream.length) :
    ¬InStep messages (client.after count errno) := by
  intro step
  obtain ⟨later', split', stream'⟩ := step.boundary going
  obtain rfl := List.append_cancel_left (split.symm.trans split')
  have lengths := congrArg List.length (stream'.trans stream.symm)
  rw [Receiver.after, List.length_drop] at lengths
  omega

theorem nextHeader_append {message : Message} (rest : List Byte) :
    Wire.nextHeader (message.bytes ++ rest) = message.header := by
  have front : (message.bytes ++ rest).take MessageHeader.size = message.header.bytes := by
    rw [Message.bytes, List.append_assoc, ← MessageHeader.length_bytes message.header,
      List.take_left]
  rw [Wire.nextHeader, front, MessageHeader.ofBytes_bytes]

theorem drop_header {message : Message} (rest : List Byte) :
    (message.bytes ++ rest).drop MessageHeader.size = message.payload ++ rest := by
  rw [Message.bytes, List.append_assoc, ← MessageHeader.length_bytes message.header, List.drop_left]

theorem InStep.errno (step : InStep messages client) (errno : Errno) :
    InStep messages (client.after 0 errno) := ⟨step.dispatched, step.boundary⟩

theorem errnoAfter_of_taken {stream : List Byte} {count : Nat} {result : RecvResult}
    (errno : Errno) (some : 0 < taken stream count result) : errnoAfter errno result = errno := by
  cases result with
  | received many => rfl
  | timeout => exact absurd some (lt_irrefl 0)
  | failed => exact absurd some (lt_irrefl 0)

/-- A loop that has taken bytes without a message is in step only if it ends. -/
theorem receiveRound_part_iff (step : InStep messages client) (going : client.stopped = false)
    (running : round.running = true) {count : Nat} {errno : Errno}
    (failed : receiveMessage round client = (none, client.after count errno))
    (positive : 0 < count) (inside : count ≤ client.stream.length) :
    InStep messages (receiveRound client round) ↔
      ¬(round.stillRunning = true ∧ errno = .again) := by
  obtain ⟨later, split, stream⟩ := step.boundary going
  rw [receiveRound_of_none going running failed step.dispatched]
  constructor
  · rintro kept ⟨still, again⟩
    exact not_inStep_after going split stream positive inside (kept still again)
  · intro ends still again
    exact absurd ⟨still, again⟩ ends

/-- A round that asks for nothing breaks nothing. -/
theorem receiveRound_idle (step : InStep messages client)
    (idle : ¬(client.stopped = false ∧ round.running = true ∧ round.opened = true)) :
    InStep messages (receiveRound client round) := by
  by_cases going : client.stopped = false
  · by_cases running : round.running = true
    · have closed : receiveMessage round client = (none, client) := by
        have shut : ¬round.opened = true := fun opened => idle ⟨going, running, opened⟩
        simp [receiveMessage, shut]
      exact (receiveRound_of_none going running closed step.dispatched).mpr fun _ _ => step
    · have ended : receiveRound client round = { client with stopped := true } := by
        simp [receiveRound, going, running]
      rw [ended]
      exact .stopped step.dispatched rfl
  · have same : receiveRound client round = client := by
      rw [receiveRound, if_pos (by simpa using going)]
    rw [same]
    exact step

theorem receiveRound_header_cut_iff (step : InStep messages client)
    (going : client.stopped = false) (running : round.running = true)
    (opened : round.opened = true)
    (cut : taken client.stream MessageHeader.size round.header < MessageHeader.size) :
    InStep messages (receiveRound client round) ↔ ¬Breaks client round := by
  have failed := receiveMessage_header_cut opened cut
  rcases Nat.eq_zero_or_pos (taken client.stream MessageHeader.size round.header) with none | some
  · rw [none] at failed
    refine iff_of_true ?_ fun breaks => ?_
    · exact (receiveRound_of_none going running failed step.dispatched).mpr fun _ _ =>
        step.errno _
    · rcases breaks.2.2.2.2 with inside | whole
      · omega
      · omega
  · rw [errnoAfter_of_taken client.errno some] at failed
    rw [receiveRound_part_iff step going running failed some (taken_le_length _ _ _), not_iff_not]
    constructor
    · rintro ⟨still, again⟩
      exact ⟨going, running, opened, still, Or.inl ⟨some, cut, again⟩⟩
    · rintro ⟨_, _, _, still, inside | whole⟩
      · exact ⟨still, inside.2.2⟩
      · omega

theorem receiveRound_payload_cut_iff (step : InStep messages client)
    (going : client.stopped = false) (running : round.running = true)
    (opened : round.opened = true)
    (head : taken client.stream MessageHeader.size round.header = MessageHeader.size)
    (cut : taken (client.stream.drop MessageHeader.size)
      (Wire.nextHeader client.stream).length.toNat round.payload <
        (Wire.nextHeader client.stream).length.toNat) :
    InStep messages (receiveRound client round) ↔ ¬Breaks client round := by
  have bounded := taken_le_length client.stream MessageHeader.size round.header
  have inside := taken_le_length (client.stream.drop MessageHeader.size)
    (Wire.nextHeader client.stream).length.toNat round.payload
  rw [List.length_drop] at inside
  have failed := receiveMessage_payload_cut opened head cut
  have positive : 0 < MessageHeader.size := by decide
  rw [receiveRound_part_iff step going running failed (by omega) (by omega), not_iff_not]
  constructor
  · rintro ⟨still, again⟩
    exact ⟨going, running, opened, still, Or.inr ⟨head, cut, again⟩⟩
  · rintro ⟨_, _, _, still, inside | whole⟩
    · exact absurd head (Nat.ne_of_lt inside.2.1)
    · exact ⟨still, whole.2.2⟩

/-- A whole frame is dispatched, and the loop stands before the next. -/
theorem receiveRound_whole (exact : ∀ message ∈ messages, Exact message)
    (step : InStep messages client) (going : client.stopped = false)
    (running : round.running = true) (opened : round.opened = true)
    (head : taken client.stream MessageHeader.size round.header = MessageHeader.size)
    (body : taken (client.stream.drop MessageHeader.size)
      (Wire.nextHeader client.stream).length.toNat round.payload =
        (Wire.nextHeader client.stream).length.toNat) :
    InStep messages (receiveRound client round) := by
  obtain ⟨later, split, stream⟩ := step.boundary going
  cases later with
  | nil =>
      have bounded := taken_le_length client.stream MessageHeader.size round.header
      have positive : 0 < MessageHeader.size := by decide
      rw [stream, List.flatMap_nil] at bounded head
      rw [List.length_nil] at bounded
      omega
  | cons message rest =>
      rw [List.flatMap_cons] at stream
      have sent : Exact message := exact message (by simp [split])
      have header : Wire.nextHeader client.stream = message.header := by
        rw [stream, nextHeader_append]
      have behind : client.stream.drop MessageHeader.size =
          message.payload ++ rest.flatMap Message.bytes := by
        rw [stream, drop_header]
      have payload : (client.stream.drop MessageHeader.size).take
          (Wire.nextHeader client.stream).length.toNat = message.payload := by
        rw [behind, header, ← sent, List.take_left]
      have gone : client.stream.drop
          (MessageHeader.size + (Wire.nextHeader client.stream).length.toNat) =
            rest.flatMap Message.bytes := by
        rw [← List.drop_drop, behind, header, ← sent, List.drop_left]
      have whole := receiveMessage_whole opened head body
      rw [payload, header] at whole
      simp only [receiveRound, going, running, whole]
      have next : messages = (client.dispatched ++ [message]) ++ rest := by
        rw [split, List.append_assoc, List.singleton_append]
      refine ⟨⟨rest, next.symm⟩, fun _ => ⟨rest, next, ?_⟩⟩
      rw [← header]
      exact gone

/-- What one round does to a loop that stands between two frames. -/
theorem receiveRound_inStep_iff (exact : ∀ message ∈ messages, Exact message)
    (step : InStep messages client) :
    InStep messages (receiveRound client round) ↔ ¬Breaks client round := by
  by_cases asks : client.stopped = false ∧ round.running = true ∧ round.opened = true
  swap
  · refine iff_of_true (receiveRound_idle step asks) fun breaks => ?_
    exact asks ⟨breaks.1, breaks.2.1, breaks.2.2.1⟩
  obtain ⟨going, running, opened⟩ := asks
  rcases (taken_le client.stream MessageHeader.size round.header).lt_or_eq with cut | head
  · exact receiveRound_header_cut_iff step going running opened cut
  rcases (taken_le (client.stream.drop MessageHeader.size)
      (Wire.nextHeader client.stream).length.toNat round.payload).lt_or_eq with cut | body
  · exact receiveRound_payload_cut_iff step going running opened head cut
  · refine iff_of_true (receiveRound_whole exact step going running opened head body) ?_
    rintro ⟨_, _, _, _, ⟨_, short, _⟩ | ⟨_, short, _⟩⟩
    · exact absurd head (Nat.ne_of_lt short)
    · exact absurd body (Nat.ne_of_lt short)

theorem start_inStep (messages : List Message) (errno : Errno) :
    InStep messages (start messages errno) :=
  ⟨List.nil_prefix, fun _ => ⟨messages, rfl, rfl⟩⟩

theorem receiveLoop_take_succ {rounds : List Round} {count : Nat} (more : count < rounds.length)
    (client : Receiver) : receiveLoop (rounds.take (count + 1)) client =
      receiveRound (receiveLoop (rounds.take count) client) rounds[count] := by
  rw [receiveLoop, receiveLoop, List.take_succ_eq_append_getElem more, List.foldl_append]
  rfl

/-- The loop stays in step with the frames exactly as long as no round breaks one. -/
theorem receiveLoop_inStep_iff (messages : List Message)
    (exact : ∀ message ∈ messages, Exact message) (rounds : List Round) (errno : Errno) :
    (∀ count ≤ rounds.length,
        InStep messages (receiveLoop (rounds.take count) (start messages errno))) ↔
      ∀ (count : Nat) (more : count < rounds.length),
        ¬Breaks (receiveLoop (rounds.take count) (start messages errno)) rounds[count] := by
  constructor
  · intro inStep count more
    have next := inStep (count + 1) more
    rw [receiveLoop_take_succ more] at next
    exact (receiveRound_inStep_iff exact (inStep count more.le)).mp next
  · intro unbroken count
    induction count with
    | zero =>
        intro _
        exact start_inStep messages errno
    | succ count ih =>
        intro more
        rw [receiveLoop_take_succ more]
        exact (receiveRound_inStep_iff exact (ih (by omega))).mpr (unbroken count more)

end Steps

def bareFrame (type : UInt8) : Message := ⟨⟨type, 0, 0, Vector.replicate 64 0⟩, []⟩

def runningRound (header payload : RecvResult) : Round := ⟨true, true, true, header, payload, none⟩

theorem receiveLoop_inStep_two :
    InStep [bareFrame 102, bareFrame 102] (receiveLoop
      [runningRound .timeout .timeout, runningRound (.received 77) .timeout]
      (start [bareFrame 102, bareFrame 102] .other)) := by
  refine (receiveLoop_inStep_iff [bareFrame 102, bareFrame 102] (by simp [Exact, bareFrame])
    [runningRound .timeout .timeout, runningRound (.received 77) .timeout] .other).mpr ?_ 2 le_rfl
  decide

/-- After a timeout one byte of a header comes, and the next header is read from the second. -/
theorem receiveLoop_misreads :
    (receiveLoop [runningRound .timeout .timeout, runningRound (.received 1) .timeout,
        runningRound (.received 77) .timeout]
      (start [bareFrame 102, bareFrame 102] .other)).dispatched =
        [⟨⟨0, 0, 0, (Vector.replicate 64 0).set 63 102⟩, []⟩] ∧
    ¬InStep [bareFrame 102, bareFrame 102]
      (receiveLoop [runningRound .timeout .timeout, runningRound (.received 1) .timeout,
        runningRound (.received 77) .timeout] (start [bareFrame 102, bareFrame 102] .other)) := by
  have misread : (receiveLoop [runningRound .timeout .timeout, runningRound (.received 1) .timeout,
        runningRound (.received 77) .timeout]
      (start [bareFrame 102, bareFrame 102] .other)).dispatched =
        [⟨⟨0, 0, 0, (Vector.replicate 64 0).set 63 102⟩, []⟩] := by decide
  refine ⟨misread, fun step => ?_⟩
  obtain ⟨rest, split⟩ := step.dispatched
  rw [misread] at split
  have first := (List.cons.inj split).1
  revert first
  decide

end Battleship.ClientReceiving
