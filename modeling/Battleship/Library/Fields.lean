import Mathlib.Data.List.TakeWhile

/-! Text in the fixed fields of a struct, as the string functions of C write and read
it: up to the first terminator, cut to the size of the field and padded. -/

namespace Fields

variable {Byte : Type*} [DecidableEq Byte] (nul : Byte)

def cString (bytes : List Byte) : List Byte := bytes.takeWhile (· ≠ nul)

/-- The bytes that `strncpy` writes: the text up to `count` bytes, padded with terminators. -/
def strncpy (text : List Byte) (count : Nat) : List Byte :=
  (cString nul text).take count ++ List.replicate (count - (cString nul text).length) nul

def field (size : Nat) (text : List Byte) : List Byte := strncpy nul text (size - 1) ++ [nul]

def fieldAt (offset size : Nat) (bytes : List Byte) : List Byte :=
  cString nul ((bytes.drop offset).take size)

theorem not_mem_cString (bytes : List Byte) : nul ∉ cString nul bytes := by
  intro member
  simpa using List.mem_takeWhile_imp member

theorem cString_eq_self {bytes : List Byte} (absent : nul ∉ bytes) : cString nul bytes = bytes := by
  refine List.takeWhile_eq_self_iff.mpr fun byte member => ?_
  rw [decide_eq_true_eq]
  rintro rfl
  exact absent member

theorem cString_append {text : List Byte} (rest : List Byte) (absent : nul ∉ text) :
    cString nul (text ++ nul :: rest) = text := by
  have clean : ∀ byte ∈ text, decide (byte ≠ nul) = true := by
    intro byte member
    rw [decide_eq_true_eq]
    rintro rfl
    exact absent member
  rw [cString, List.takeWhile_append_of_pos clean]
  simp

theorem field_length {size : Nat} (positive : 0 < size) (text : List Byte) :
    (field nul size text).length = size := by
  simp only [field, strncpy, List.length_append, List.length_take, List.length_replicate,
    List.length_singleton]
  omega

/-- A field holds the text up to its first terminator, cut to leave room for one. -/
theorem cString_field (size : Nat) (text : List Byte) :
    cString nul (field nul size text) = (cString nul text).take (size - 1) := by
  have absent : nul ∉ (cString nul text).take (size - 1) :=
    fun member => not_mem_cString nul text (List.mem_of_mem_take member)
  rw [field, strncpy, List.append_assoc]
  generalize size - 1 - (cString nul text).length = padding
  cases padding with
  | zero => exact cString_append nul [] absent
  | succ padding => exact cString_append nul (List.replicate padding nul ++ [nul]) absent

theorem fieldAt_append (before bytes rest : List Byte) :
    fieldAt nul before.length bytes.length (before ++ bytes ++ rest) = cString nul bytes := by
  rw [fieldAt, List.append_assoc, List.drop_left, List.take_left]

/-! A text by its address alone -/

/-- What is read from an address on, up to the first terminator wherever it is; nothing
when the memory ends before one. -/
def cStringAt (memory : List Byte) (address : Nat) : Option (List Byte) :=
  if nul ∈ memory.drop address then some (cString nul (memory.drop address)) else none

structure Field where
  offset : Nat
  size : Nat
deriving DecidableEq, Repr

namespace Field

def bytes (field : Field) (memory : List Byte) : List Byte :=
  (memory.drop field.offset).take field.size

def own (field : Field) (memory : List Byte) : List Byte := cString nul (field.bytes memory)

/-- The array is read as a C string, its terminator is the last byte that is looked at and
lies in the array, and the text is that of the array. -/
def Within (field : Field) (memory : List Byte) : Prop :=
  cStringAt nul memory field.offset = some (field.own nul memory) ∧
    (field.own nul memory).length < field.size

instance (field : Field) (memory : List Byte) : Decidable (field.Within nul memory) :=
  inferInstanceAs (Decidable (_ ∧ _))

omit [DecidableEq Byte] in
theorem bytes_append {field : Field} {struct : List Byte} (beyond : List Byte)
    (inside : field.offset + field.size ≤ struct.length) :
    field.bytes (struct ++ beyond) = field.bytes struct := by
  rw [bytes, bytes, List.drop_append_of_le_length (by omega), List.take_append_of_le_length]
  rw [List.length_drop]
  omega

theorem cString_length_lt {bytes : List Byte} (ends : nul ∈ bytes) :
    (cString nul bytes).length < bytes.length := by
  obtain ⟨text, rest, rfl, clean⟩ := List.eq_append_cons_of_mem ends
  rw [cString_append nul rest clean, List.length_append, List.length_cons]
  omega

theorem cString_take {bytes : List Byte} {size : Nat} (ends : nul ∈ bytes.take size) :
    cString nul bytes = cString nul (bytes.take size) := by
  obtain ⟨text, rest, split, clean⟩ := List.eq_append_cons_of_mem ends
  have whole : bytes = text ++ nul :: (rest ++ bytes.drop size) := by
    rw [← List.cons_append, ← List.append_assoc, ← split, List.take_append_drop]
  rw [split, cString_append nul rest clean, whole, cString_append nul _ clean]

/-- A read stays in its array exactly when the array has a terminator. -/
theorem within_iff {field : Field} {memory : List Byte}
    (inside : field.offset + field.size ≤ memory.length) :
    field.Within nul memory ↔ nul ∈ field.bytes memory := by
  have long : (field.bytes memory).length = field.size := by
    rw [bytes, List.length_take, List.length_drop]
    omega
  constructor
  · rintro ⟨_, short⟩
    by_contra absent
    rw [own, cString_eq_self nul absent, long] at short
    exact absurd short (lt_irrefl _)
  · intro ends
    have met : nul ∈ memory.drop field.offset := List.mem_of_mem_take ends
    refine ⟨?_, long ▸ cString_length_lt nul ends⟩
    rw [cStringAt, if_pos met, own, bytes, cString_take nul ends]

end Field

end Fields
