import Mathlib.Data.UInt
import Mathlib.Tactic.Common

/-! Words on a stream. A code gives each message a word that is read off the
front of a stream again; the messages sent one after the other are then read
back in order, however many are asked for. Numbers are written as a fixed count
of bytes, the least significant first. -/

namespace LittleEndian

def write : Nat → Nat → List UInt8
  | 0, _ => []
  | width + 1, value => UInt8.ofNat value :: write width (value / 256)

def read : List UInt8 → Nat
  | [] => 0
  | byte :: bytes => byte.toNat + 256 * read bytes

@[simp] theorem length_write (width value : Nat) : (write width value).length = width := by
  induction width generalizing value with
  | zero => rfl
  | succ width ih => simp [write, ih]

theorem read_write (width value : Nat) : read (write width value) = value % 256 ^ width := by
  induction width generalizing value with
  | zero => simp [write, read, Nat.mod_one]
  | succ width ih =>
      rw [write, read, ih, Nat.pow_succ', Nat.mod_mul]
      simp

theorem read_write_of_lt {width value : Nat} (fits : value < 256 ^ width) :
    read (write width value) = value := by
  rw [read_write, Nat.mod_eq_of_lt fits]

end LittleEndian

namespace Framing

/-- A code that is read without looking past the end of a word. -/
structure Code (Message Letter : Type*) where
  Valid : Message → Prop
  encode : Message → List Letter
  decode : List Letter → Option (Message × List Letter)
  decode_encode : ∀ {message : Message}, Valid message → ∀ rest : List Letter,
    decode (encode message ++ rest) = some (message, rest)

variable {Message Letter : Type*} (code : Code Message Letter)

def readUpTo : Nat → List Letter → List Message × Option (List Letter)
  | 0, stream => ([], some stream)
  | count + 1, stream =>
      match code.decode stream with
      | none => ([], none)
      | some (message, rest) =>
          let later := readUpTo count rest
          (message :: later.1, later.2)

theorem readUpTo_append (messages : List Message) (valid : ∀ message ∈ messages, code.Valid message)
    (extra : Nat) (rest : List Letter) :
    readUpTo code (messages.length + extra) (messages.flatMap code.encode ++ rest) =
      (messages ++ (readUpTo code extra rest).1, (readUpTo code extra rest).2) := by
  induction messages with
  | nil => simp
  | cons message messages ih =>
      have first := code.decode_encode (valid message (by simp))
        (messages.flatMap code.encode ++ rest)
      have later := ih fun other member => valid other (by simp [member])
      rw [List.length_cons, Nat.add_right_comm, readUpTo, List.flatMap_cons, List.append_assoc, first]
      simp only [later, List.cons_append]

theorem readUpTo_sent {messages : List Message} (valid : ∀ message ∈ messages, code.Valid message)
    (rest : List Letter) {count : Nat} (few : count ≤ messages.length) :
    readUpTo code count (messages.flatMap code.encode ++ rest) =
      (messages.take count, some ((messages.drop count).flatMap code.encode ++ rest)) := by
  have split := readUpTo_append code (messages.take count)
    (fun message member => valid message (List.mem_of_mem_take member)) 0
    ((messages.drop count).flatMap code.encode ++ rest)
  rw [← List.append_assoc, ← List.flatMap_append, List.take_append_drop, List.length_take,
    Nat.min_eq_left few, Nat.add_zero] at split
  simpa [readUpTo] using split

theorem readUpTo_broken {messages : List Message}
    (valid : ∀ message ∈ messages, code.Valid message) {rest : List Letter}
    (broken : code.decode rest = none) {count : Nat} (many : messages.length < count) :
    readUpTo code count (messages.flatMap code.encode ++ rest) = (messages, none) := by
  obtain ⟨extra, rfl⟩ := Nat.exists_eq_add_of_lt many
  rw [Nat.add_assoc, readUpTo_append code messages valid, readUpTo, broken]
  simp

end Framing
