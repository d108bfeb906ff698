import Mathlib.Logic.Function.Basic
import Battleship.Transfer
import Battleship.ServerCore
import Battleship.Library.Machine

/-! The threads of the server on one connection. A frame is written by several
`send` calls, and the calls of other threads may come between them. Message
handlers hold `handlers_mutex_`; the timeout checker and the cleanup of a
disconnected client do not. -/

namespace Battleship.Wire

structure Frame where
  header : MessageHeader
  body : List Byte
  exact : body.length = header.length.toNat
deriving DecidableEq

def Frame.bytes (frame : Frame) : List Byte := frame.header.bytes ++ frame.body

inductive Thread
  | client (conn : ConnId)
  | timeoutChecker
deriving DecidableEq

structure Sending where
  frame : Frame
  written : Nat

def Sending.pending (sending : Sending) : List Byte :=
  if sending.written < MessageHeader.size then sending.frame.header.bytes.drop sending.written
  else sending.frame.body.drop (sending.written - MessageHeader.size)

theorem Sending.pending_prefix (sending : Sending) :
    sending.pending <+: sending.frame.bytes.drop sending.written := by
  unfold pending Frame.bytes
  split
  case isTrue within =>
      rw [List.drop_append_of_le_length (by simpa using within.le)]
      exact List.prefix_append _ _
  case isFalse past =>
      have passed : sending.frame.header.bytes.drop sending.written = [] :=
        List.drop_eq_nil_of_le (by simpa using past)
      rw [List.drop_append, passed, List.nil_append, MessageHeader.length_bytes]

/-- The next chunk goes on where the frame has been written to. -/
theorem Sending.take_append_chunk (sending : Sending) (count : Nat) :
    sending.frame.bytes.take sending.written ++ sending.pending.take count =
      sending.frame.bytes.take (sending.written + (sending.pending.take count).length) := by
  have begins : sending.pending.take count <+: sending.frame.bytes.drop sending.written :=
    (List.take_prefix _ _).trans sending.pending_prefix
  rw [List.take_add, ← List.prefix_iff_eq_take.mp begins]

/-- The connection with the threads that use it; `calls` records the frames that
`sendMessage` was called for. -/
structure Senders where
  handlersMutex : Option ConnId
  cleaning : ConnId → Bool
  sending : Thread → Option Sending
  connected : Bool
  stream : List Byte
  calls : List Frame

inductive SendStep
  | routeMessage (conn : ConnId)
  | routed (conn : ConnId)
  | removeClient (conn : ConnId)
  | sendMessage (thread : Thread) (frame : Frame)
  | send (thread : Thread) (answer : SendResult)
  | disconnect

namespace Senders

def init : Senders := ⟨none, fun _ => false, fun _ => none, true, [], []⟩

def mayCall (senders : Senders) : Thread → Bool
  | .client conn => senders.handlersMutex == some conn || senders.cleaning conn
  | .timeoutChecker => true

def calling (senders : Senders) (thread : Thread) : Bool := (senders.sending thread).isSome

def put (senders : Senders) (thread : Thread) (sending : Option Sending) : Senders :=
  { senders with sending := Function.update senders.sending thread sending }

def transmit (senders : Senders) (thread : Thread) (sending : Sending) (count : Nat) : Senders :=
  let chunk := sending.pending.take count
  let written := sending.written + chunk.length
  { senders with stream := senders.stream ++ chunk }.put thread
    (if written = sending.frame.bytes.length then none else some { sending with written := written })

def step (senders : Senders) : SendStep → Senders
  | .routeMessage conn =>
      if senders.handlersMutex.isNone && !senders.cleaning conn then
        { senders with handlersMutex := some conn }
      else senders
  | .routed conn =>
      if senders.handlersMutex == some conn && !senders.calling (.client conn) then
        { senders with handlersMutex := none }
      else senders
  | .removeClient conn =>
      if senders.handlersMutex == some conn then senders
      else { senders with cleaning := Function.update senders.cleaning conn true }
  | .sendMessage thread frame =>
      if senders.mayCall thread && !senders.calling thread && senders.connected then
        { senders with calls := senders.calls ++ [frame] }.put thread (some ⟨frame, 0⟩)
      else senders
  | .send thread answer =>
      match senders.sending thread with
      | none => senders
      | some sending =>
          -- `disconnect` has set the descriptor to -1
          if !senders.connected then senders.put thread none
          else
            match answer with
            | .interrupted => senders
            -- the kernel does not answer so for an open descriptor
            | .badDescriptor => senders
            | .failed => { senders with connected := false }.put thread none
            | .sent 0 => { senders with connected := false }.put thread none
            | .sent (count + 1) => senders.transmit thread sending (count + 1)
  | .disconnect => { senders with connected := false }

abbrev ran (steps : List SendStep) : Senders := Machine.exec step init steps

def BetweenFrames (senders : Senders) : Prop :=
  ∀ thread sending, senders.sending thread = some sending → sending.written = 0

/-- The frames that have passed, each with its own payload behind its header,
and the beginning of one that has not passed or was cut off with the connection. -/
def WholeFrames (senders : Senders) : Prop :=
  ∃ (frames : List Frame) (part : List Byte), (∀ frame ∈ frames, frame ∈ senders.calls) ∧
    senders.stream = frames.flatMap Frame.bytes ++ part ∧
    (part = [] ∨ ∃ frame ∈ senders.calls, part <+: frame.bytes) ∧
    (senders.connected = true → senders.BetweenFrames → part = [])

def BeginsBetween (senders : Senders) : SendStep → Prop
  | .send thread (.sent (_ + 1)) => senders.connected = true →
      (∃ frame, senders.sending thread = some ⟨frame, 0⟩) → senders.BetweenFrames
  | _ => True

def PartOfCall (senders : Senders) (part : List Byte) : Prop :=
  part = [] ∨ ∃ frame ∈ senders.calls, part <+: frame.bytes

inductive Progress (senders : Senders) (passed : List Byte) : Prop
  | between (idle : senders.BetweenFrames) (stream : senders.stream = passed)
  | within (thread : Thread) (sending : Sending) (current : senders.sending thread = some sending)
      (stream : senders.stream = passed ++ sending.frame.bytes.take sending.written)
      (others : ∀ other, other ≠ thread → ∀ call, senders.sending other = some call →
        call.written = 0)
  | cut (part : List Byte) (closed : senders.connected = false)
      (stream : senders.stream = passed ++ part) (begun : senders.PartOfCall part)

structure Sound (senders : Senders) : Prop where
  called : ∀ thread sending, senders.sending thread = some sending →
    sending.frame ∈ senders.calls
  unfinished : ∀ thread sending, senders.sending thread = some sending →
    sending.written < sending.frame.bytes.length
  progress : ∃ frames : List Frame, (∀ frame ∈ frames, frame ∈ senders.calls) ∧
    senders.Progress (frames.flatMap Frame.bytes)

theorem Sound.partOfCall {senders : Senders} (sound : senders.Sound) {passed : List Byte}
    (progress : senders.Progress passed) :
    ∃ part, senders.stream = passed ++ part ∧ senders.PartOfCall part := by
  cases progress with
  | between idle stream => exact ⟨[], by simp [stream], Or.inl rfl⟩
  | within thread sending current stream others =>
      exact ⟨_, stream, Or.inr ⟨sending.frame, sound.called thread sending current,
        List.take_prefix _ _⟩⟩
  | cut part closed stream begun => exact ⟨part, stream, begun⟩

theorem Sound.wholeFrames {senders : Senders} (sound : senders.Sound) : senders.WholeFrames := by
  obtain ⟨frames, known, progress⟩ := sound.progress
  obtain ⟨part, stream, partOfCall⟩ := sound.partOfCall progress
  refine ⟨frames, part, known, stream, partOfCall, ?_⟩
  intro connected idle
  have passed : senders.stream = frames.flatMap Frame.bytes := by
    cases progress with
    | between _ stream => exact stream
    | within thread sending current stream others =>
        simpa [idle thread sending current] using stream
    | cut part closed stream begun => simp [connected] at closed
  simpa [passed] using stream.symm

theorem sound_init : init.Sound where
  called := by simp [init]
  unfinished := by simp [init]
  progress := ⟨[], by simp, .between (by simp [BetweenFrames, init]) rfl⟩

theorem Sound.closed {senders later : Senders} (sound : senders.Sound)
    (calls : later.calls = senders.calls) (stream : later.stream = senders.stream)
    (closed : later.connected = false)
    (fewer : ∀ thread sending, later.sending thread = some sending →
      senders.sending thread = some sending) : later.Sound := by
  obtain ⟨frames, known, progress⟩ := sound.progress
  obtain ⟨part, written, partOfCall⟩ := sound.partOfCall progress
  exact {
    called := fun thread sending current =>
      calls ▸ sound.called thread sending (fewer thread sending current)
    unfinished := fun thread sending current =>
      sound.unfinished thread sending (fewer thread sending current)
    progress := ⟨frames, calls ▸ known,
      .cut part closed (stream.trans written) (by simpa [PartOfCall, calls] using partOfCall)⟩ }

theorem Sound.congr {senders later : Senders} (sound : senders.Sound)
    (calls : later.calls = senders.calls) (stream : later.stream = senders.stream)
    (connected : later.connected = senders.connected)
    (sending : later.sending = senders.sending) : later.Sound := by
  obtain ⟨frames, known, progress⟩ := sound.progress
  refine ⟨by simpa [sending, calls] using sound.called, by simpa [sending] using sound.unfinished,
    frames, by simpa [calls] using known, ?_⟩
  cases progress with
  | between idle written =>
      exact .between (by simpa [BetweenFrames, sending] using idle) (stream.trans written)
  | within thread call current written others =>
      exact .within thread call (by rw [sending, current]) (stream.trans written)
        (by simpa [sending] using others)
  | cut part closed written begun =>
      exact .cut part (connected.trans closed) (stream.trans written)
        (by simpa [PartOfCall, calls] using begun)

theorem put_sending (senders : Senders) (thread other : Thread) (sending : Option Sending) :
    (senders.put thread sending).sending other =
      if other = thread then sending else senders.sending other := by
  simp [put, Function.update_apply]

theorem Sound.sendMessage {senders : Senders} (sound : senders.Sound) {thread : Thread}
    (idle : senders.sending thread = none) (frame : Frame) :
    ({ senders with calls := senders.calls ++ [frame] }.put thread (some ⟨frame, 0⟩)).Sound := by
  obtain ⟨frames, known, progress⟩ := sound.progress
  refine ⟨?_, ?_, frames, fun other member => ?_, ?_⟩
  · intro other sending current
    rw [put_sending] at current
    split_ifs at current with same
    · obtain rfl : (⟨frame, 0⟩ : Sending) = sending := by simpa using current
      simp [put]
    · exact List.mem_append_left [frame] (sound.called other sending current)
  · intro other sending current
    rw [put_sending] at current
    split_ifs at current with same
    · obtain rfl : (⟨frame, 0⟩ : Sending) = sending := by simpa using current
      simp [Frame.bytes, MessageHeader.size]
    · exact sound.unfinished other sending current
  · exact List.mem_append_left [frame] (known other member)
  · cases progress with
    | between calm stream =>
        refine .between ?_ stream
        intro other sending current
        rw [put_sending] at current
        split_ifs at current with same
        · obtain rfl : (⟨frame, 0⟩ : Sending) = sending := by simpa using current
          rfl
        · exact calm other sending current
    | within writer sending current stream others =>
        have different : writer ≠ thread := by
          rintro rfl
          simp [idle] at current
        refine .within writer sending (by rw [put_sending, if_neg different]; exact current) stream ?_
        intro other apart call found
        rw [put_sending] at found
        split_ifs at found with same
        · obtain rfl : (⟨frame, 0⟩ : Sending) = call := by simpa using found
          rfl
        · exact others other apart call found
    | cut part closed stream begun =>
        refine .cut part closed stream ?_
        rcases begun with empty | ⟨origin, member, begins⟩
        · exact Or.inl empty
        · exact Or.inr ⟨origin, List.mem_append_left [frame] member, begins⟩

/-- The frame of a thread that may go on is the one the stream ends in. -/
theorem Sound.front {senders : Senders} (sound : senders.Sound) {thread : Thread}
    {sending : Sending} (current : senders.sending thread = some sending)
    (connected : senders.connected = true)
    (begins : sending.written = 0 → senders.BetweenFrames) :
    ∃ frames : List Frame, (∀ frame ∈ frames, frame ∈ senders.calls) ∧
      senders.stream =
        frames.flatMap Frame.bytes ++ sending.frame.bytes.take sending.written ∧
      ∀ other, other ≠ thread → ∀ call, senders.sending other = some call → call.written = 0 := by
  obtain ⟨frames, known, progress⟩ := sound.progress
  refine ⟨frames, known, ?_⟩
  cases progress with
  | between idle stream =>
      have fresh : sending.written = 0 := idle thread sending current
      exact ⟨by simp [stream, fresh], fun other _ => idle other⟩
  | within writer call writing stream others =>
      by_cases same : writer = thread
      · obtain rfl : call = sending := by
          rw [same, current] at writing
          exact (Option.some.inj writing).symm
        exact ⟨stream, same ▸ others⟩
      · have fresh : sending.written = 0 := others thread (Ne.symm same) sending current
        have idle := begins fresh
        exact ⟨by simp [stream, fresh, idle writer call writing], fun other _ => idle other⟩
  | cut part closed stream begun => simp [connected] at closed

theorem Sound.transmit {senders : Senders} (sound : senders.Sound) {thread : Thread}
    {sending : Sending} (current : senders.sending thread = some sending)
    (connected : senders.connected = true)
    (begins : sending.written = 0 → senders.BetweenFrames) (count : Nat) :
    (senders.transmit thread sending count).Sound := by
  obtain ⟨frames, known, stream, others⟩ := sound.front current connected begins
  have member := sound.called thread sending current
  have extended : senders.stream ++ sending.pending.take count = frames.flatMap Frame.bytes ++
      sending.frame.bytes.take (sending.written + (sending.pending.take count).length) := by
    rw [stream, List.append_assoc, sending.take_append_chunk]
  have within : sending.written + (sending.pending.take count).length ≤
      sending.frame.bytes.length := by
    have fits := ((List.take_prefix count _).trans sending.pending_prefix).length_le
    have unfinished := sound.unfinished thread sending current
    rw [List.length_drop] at fits
    omega
  unfold Senders.transmit
  by_cases finished : sending.written + (sending.pending.take count).length =
      sending.frame.bytes.length
  · simp only [if_pos finished]
    refine ⟨?_, ?_, frames ++ [sending.frame], ?_, .between ?_ ?_⟩
    · intro other call found
      rw [put_sending] at found
      split_ifs at found
      exact sound.called other call found
    · intro other call found
      rw [put_sending] at found
      split_ifs at found
      exact sound.unfinished other call found
    · intro frame listed
      rcases List.mem_append.mp listed with earlier | last
      · exact known frame earlier
      · exact List.mem_singleton.mp last ▸ member
    · intro other call found
      rw [put_sending] at found
      split_ifs at found with same
      exact others other same call found
    · rw [finished, List.take_length] at extended
      simpa [put] using extended
  · simp only [if_neg finished]
    refine ⟨?_, ?_, frames, known, .within thread
      ⟨sending.frame, sending.written + (sending.pending.take count).length⟩ ?_ extended ?_⟩
    · intro other call found
      rw [put_sending] at found
      split_ifs at found with same
      · exact Option.some.inj found ▸ member
      · exact sound.called other call found
    · intro other call found
      rw [put_sending] at found
      split_ifs at found with same
      · rw [← Option.some.inj found]
        exact lt_of_le_of_ne within finished
      · exact sound.unfinished other call found
    · rw [put_sending, if_pos rfl]
    · intro other apart call found
      rw [put_sending, if_neg apart] at found
      exact others other apart call found

inductive Outcome (senders : Senders) (thread : Thread) : SendResult → Senders → Prop
  | idle {answer : SendResult} : Outcome senders thread answer senders
  | closed {answer : SendResult} (calling : senders.calling thread = true) :
      Outcome senders thread answer ({ senders with connected := false }.put thread none)
  | chunk {sending : Sending} {count : Nat} (current : senders.sending thread = some sending)
      (connected : senders.connected = true) :
      Outcome senders thread (.sent (count + 1)) (senders.transmit thread sending (count + 1))

theorem step_send (senders : Senders) (thread : Thread) (answer : SendResult) :
    Outcome senders thread answer (senders.step (.send thread answer)) := by
  cases current : senders.sending thread with
  | none => simpa [Senders.step, current] using Outcome.idle
  | some sending =>
      have calling : senders.calling thread = true := by simp [Senders.calling, current]
      cases connected : senders.connected with
      | false =>
          have same : senders = { senders with connected := false } := by rw [← connected]
          simp only [Senders.step, current, connected]
          nth_rewrite 2 [same]
          exact .closed calling
      | true =>
          cases answer with
          | interrupted => simpa [Senders.step, current, connected] using Outcome.idle
          | badDescriptor => simpa [Senders.step, current, connected] using Outcome.idle
          | failed =>
              simp only [Senders.step, current, connected]
              exact .closed calling
          | sent count =>
              simp only [Senders.step, current, connected]
              cases count with
              | zero => exact .closed calling
              | succ count => exact .chunk current connected

theorem step_sound {senders : Senders} (sound : senders.Sound) {step : SendStep}
    (begins : senders.BeginsBetween step) : (senders.step step).Sound := by
  cases step with
  | routeMessage conn =>
      simp only [Senders.step]
      split
      · exact sound.congr rfl rfl rfl rfl
      · exact sound
  | routed conn =>
      simp only [Senders.step]
      split
      · exact sound.congr rfl rfl rfl rfl
      · exact sound
  | removeClient conn =>
      simp only [Senders.step]
      split
      · exact sound
      · exact sound.congr rfl rfl rfl rfl
  | disconnect => exact sound.closed rfl rfl rfl fun _ _ current => current
  | sendMessage thread frame =>
      simp only [Senders.step]
      split
      case isTrue may =>
          simp only [Bool.and_eq_true, Bool.not_eq_true', calling, Option.isSome_eq_false_iff,
            Option.isNone_iff_eq_none] at may
          exact sound.sendMessage may.1.2 frame
      case isFalse => exact sound
  | send thread answer =>
      have outcome := step_send senders thread answer
      generalize senders.step (.send thread answer) = later at outcome
      cases outcome with
      | idle => exact sound
      | closed =>
          refine sound.closed rfl rfl rfl fun other call found => ?_
          rw [put_sending] at found
          split_ifs at found
          exact found
      | chunk current connected =>
          refine sound.transmit current connected (fun fresh => ?_) _
          exact begins connected ⟨_, by rw [current, ← fresh]⟩

/-- As long as no frame is begun inside another, the stream is whole frames. -/
theorem wholeFrames_of_beginsBetween (steps : List SendStep)
    (begins : Machine.Respects step BeginsBetween init steps) : (ran steps).WholeFrames :=
  (Machine.invariant_of_respects step (motive := Sound) sound_init
    (fun _ _ begins sound => step_sound sound begins) steps begins).wholeFrames

def inTurn (frame next : Frame) : List SendStep := [
  .routeMessage 0,
  .sendMessage (.client 0) frame, .send (.client 0) (.sent 40), .send (.client 0) (.sent 37),
  .send (.client 0) (.sent frame.body.length),
  .sendMessage .timeoutChecker next, .send .timeoutChecker .interrupted,
  .send .timeoutChecker (.sent 77)]

def ByHandlers (senders : Senders) : SendStep → Prop
  | .sendMessage thread _ => ∃ conn, thread = .client conn ∧ senders.handlersMutex = some conn
  | _ => True

def Locked (senders : Senders) : Prop :=
  ∀ thread, senders.calling thread = true →
    ∃ conn, thread = .client conn ∧ senders.handlersMutex = some conn

theorem put_calling (senders : Senders) (thread other : Thread) (sending : Option Sending) :
    (senders.put thread sending).calling other =
      if other = thread then sending.isSome else senders.calling other := by
  rw [calling, put_sending]
  split <;> rfl

theorem Locked.put {senders : Senders} (locked : senders.Locked) {thread : Thread}
    (holds : ∃ conn, thread = .client conn ∧ senders.handlersMutex = some conn)
    (sending : Option Sending) : (senders.put thread sending).Locked := by
  intro other calling
  rw [put_calling] at calling
  split_ifs at calling with same
  · exact same ▸ holds
  · exact locked other calling

theorem step_locked {senders : Senders} (locked : senders.Locked) {step : SendStep}
    (handlers : senders.ByHandlers step) : (senders.step step).Locked := by
  cases step with
  | routeMessage conn =>
      simp only [Senders.step]
      split
      case isTrue free =>
          simp only [Bool.and_eq_true, Option.isNone_iff_eq_none] at free
          intro thread calling
          obtain ⟨holder, _, held⟩ := locked thread calling
          simp [free.1] at held
      case isFalse => exact locked
  | routed conn =>
      simp only [Senders.step]
      split
      case isTrue done =>
          simp only [Bool.and_eq_true, beq_iff_eq, Bool.not_eq_true'] at done
          intro thread calling
          obtain ⟨holder, rfl, held⟩ := locked thread calling
          obtain rfl : conn = holder := by simpa [done.1] using held
          simp [Senders.calling] at calling done
          simp [done.2] at calling
      case isFalse => exact locked
  | removeClient conn =>
      simp only [Senders.step]
      split
      · exact locked
      · exact locked
  | disconnect => exact locked
  | sendMessage thread frame =>
      simp only [Senders.step]
      split
      · have called : Locked { senders with calls := senders.calls ++ [frame] } := locked
        exact called.put handlers _
      · exact locked
  | send thread answer =>
      have outcome := step_send senders thread answer
      generalize senders.step (.send thread answer) = later at outcome
      cases outcome with
      | idle => exact locked
      | closed calling =>
          have shut : Locked { senders with connected := false } := locked
          exact shut.put (locked thread calling) none
      | @chunk sending count current _ =>
          have written : Locked { senders with
              stream := senders.stream ++ sending.pending.take (count + 1) } := locked
          exact written.put (locked thread (by simp [calling, current])) _

theorem Locked.beginsBetween {senders : Senders} (locked : senders.Locked) (step : SendStep) :
    senders.BeginsBetween step := by
  unfold BeginsBetween
  split
  case h_1 thread count =>
      rintro connected ⟨frame, current⟩ other sending found
      obtain ⟨conn, rfl, held⟩ := locked thread (by simp [calling, current])
      obtain ⟨same, rfl, alsoHeld⟩ := locked other (by simp [calling, found])
      obtain rfl : conn = same := by simpa [held] using alsoHeld
      rw [current] at found
      exact Option.some.inj found ▸ rfl
  case h_2 => trivial

theorem wholeFrames_of_byHandlers (steps : List SendStep)
    (handlers : Machine.Respects step ByHandlers init steps) : (ran steps).WholeFrames := by
  apply wholeFrames_of_beginsBetween
  intro before next taken
  apply Locked.beginsBetween
  obtain ⟨after, rfl⟩ := taken
  exact Machine.invariant_of_respects step (motive := Locked) (by simp [Locked, calling, init])
    (fun _ _ handlers locked => step_locked locked handlers) before
    (Machine.Respects.of_append step handlers)

def turnUpdate : Frame :=
  ⟨⟨33, 16, 0, Vector.replicate 64 0⟩, List.replicate 16 0, List.length_replicate⟩

def matchEnd : Frame :=
  ⟨⟨35, 164, 0, Vector.replicate 64 0⟩, List.replicate 164 0, List.length_replicate⟩

/-- A match ends by timeout between the header of a `TURN_UPDATE` and its payload. -/
def crossed : List SendStep := [
  .routeMessage 0,
  .sendMessage (.client 0) turnUpdate, .send (.client 0) (.sent 77),
  .sendMessage .timeoutChecker matchEnd, .send .timeoutChecker (.sent 77),
  .send .timeoutChecker (.sent 164), .send (.client 0) (.sent 16)]

set_option maxRecDepth 4000 in
theorem not_wholeFrames_crossed : ¬∀ steps, (ran steps).WholeFrames := by
  intro all
  obtain ⟨frames, part, known, stream, _, between⟩ := all crossed
  have calls : (ran crossed).calls = [turnUpdate, matchEnd] := rfl
  have sent : (ran crossed).stream =
      turnUpdate.header.bytes ++ (matchEnd.bytes ++ turnUpdate.body) := by decide +kernel
  have idle : (ran crossed).BetweenFrames := by
    intro thread sending current
    have none : (ran crossed).sending thread = none := by
      cases thread with
      | client conn => cases conn <;> rfl
      | timeoutChecker => rfl
    simp [none] at current
  obtain rfl := between rfl idle
  rw [List.append_nil, sent] at stream
  cases frames with
  | nil => simp [MessageHeader.bytes] at stream
  | cons frame frames =>
      rw [List.flatMap_cons] at stream
      have first := congrArg (fun bytes => bytes[0]?) stream
      have next := congrArg (fun bytes => bytes[77]?) stream
      rcases (by simpa [calls] using known frame (by simp) : frame = turnUpdate ∨ frame = matchEnd)
        with rfl | rfl
      · -- the payload should follow, and the header of the other frame does
        have payload : (turnUpdate.bytes ++ frames.flatMap Frame.bytes)[77]? = some 0 := rfl
        have header : (turnUpdate.header.bytes ++ (matchEnd.bytes ++ turnUpdate.body))[77]? =
            some 35 := rfl
        rw [payload, header] at next
        exact absurd next (by decide)
      · have header : (matchEnd.bytes ++ frames.flatMap Frame.bytes)[0]? = some 35 := rfl
        have sentFirst : (turnUpdate.header.bytes ++ (matchEnd.bytes ++ turnUpdate.body))[0]? =
            some 33 := rfl
        rw [header, sentFirst] at first
        exact absurd first (by decide)

set_option maxRecDepth 4000 in
theorem inTurn_wholeFrames : (ran (inTurn turnUpdate matchEnd)).WholeFrames := by
  refine wholeFrames_of_beginsBetween _ ?_
  simp only [inTurn, Machine.respects_cons, Machine.respects_nil, and_true]
  -- the first and the last chunk begin a frame, and the others do not
  refine ⟨trivial, trivial, ?first, ?second, ?third, trivial, trivial, ?last⟩
  case first =>
      intro _ _ thread sending current
      rcases thread with (_ | conn) | _
      · obtain rfl : (⟨turnUpdate, 0⟩ : Sending) = sending := Option.some.inj current
        rfl
      · cases current
      · cases current
  case second =>
      rintro _ ⟨frame, current⟩
      have written : some 40 = some 0 := congrArg (Option.map Sending.written) current
      simp at written
  case third =>
      rintro _ ⟨frame, current⟩
      have written : some 77 = some 0 := congrArg (Option.map Sending.written) current
      simp at written
  case last =>
      intro _ _ thread sending current
      rcases thread with (_ | conn) | _
      · cases current
      · cases current
      · obtain rfl : (⟨matchEnd, 0⟩ : Sending) = sending := Option.some.inj current
        rfl

end Senders

end Battleship.Wire
