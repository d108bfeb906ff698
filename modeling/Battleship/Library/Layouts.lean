import Battleship.Library.Fields
import Battleship.Library.Framing
import Mathlib.Logic.Function.Basic

/-! Packed structs. A layout gives a value a fixed number of bytes and reads it off the
front of a memory again; the layout of a struct is put together from those of its members. -/

structure Layout (Value : Type*) where
  size : Nat
  Fits : Value → Prop
  encode : Value → List UInt8
  decode : List UInt8 → Value
  /-- The texts end inside their arrays, and the enumerations have such an enumerator. -/
  Proper : List UInt8 → Prop
  length_encode : ∀ value, (encode value).length = size
  decode_encode : ∀ {value}, Fits value → ∀ rest, decode (encode value ++ rest) = value
  proper_encode : ∀ value rest, Proper (encode value ++ rest)
  fits_decode : ∀ {bytes}, Proper bytes → Fits (decode bytes)

namespace Layout

variable {Value First Second Other : Type*}

theorem drop_encode (layout : Layout Value) (value : Value) (rest : List UInt8) :
    (layout.encode value ++ rest).drop layout.size = rest :=
  List.drop_left' (layout.length_encode value)

theorem decode_encode_self (layout : Layout Value) {value : Value} (fits : layout.Fits value) :
    layout.decode (layout.encode value) = value := by
  have read := layout.decode_encode fits []
  rwa [List.append_nil] at read

section Members

theorem read_lt (bytes : List UInt8) : LittleEndian.read bytes < 256 ^ bytes.length := by
  induction bytes with
  | nil => exact Nat.one_pos
  | cons byte bytes ih =>
      have small : byte.toNat < 256 := byte.toNat_lt
      rw [LittleEndian.read, List.length_cons, Nat.pow_succ]
      omega

theorem read_take_lt (width : Nat) (bytes : List UInt8) :
    LittleEndian.read (bytes.take width) < 256 ^ width :=
  lt_of_lt_of_le (read_lt _) (Nat.pow_le_pow_right (by decide) (List.length_take_le ..))

def word (width : Nat) : Layout Nat where
  size := width
  Fits value := value < 256 ^ width
  encode := LittleEndian.write width
  decode bytes := LittleEndian.read (bytes.take width)
  Proper _ := True
  length_encode := LittleEndian.length_write width
  decode_encode fits rest := by
    rw [List.take_left' (LittleEndian.length_write ..), LittleEndian.read_write_of_lt fits]
  proper_encode _ _ := trivial
  fits_decode _ := read_take_lt ..

def byte : Layout UInt8 where
  size := 1
  Fits _ := True
  encode value := [value]
  decode bytes := bytes.headD 0
  Proper _ := True
  length_encode _ := rfl
  decode_encode _ _ := rfl
  proper_encode _ _ := trivial
  fits_decode _ := trivial

def flag : Layout Bool where
  size := 1
  Fits _ := True
  encode value := [if value then 1 else 0]
  decode bytes := bytes.headD 0 ≠ 0
  Proper _ := True
  length_encode _ := rfl
  decode_encode {value} _ _ := by cases value <;> rfl
  proper_encode _ _ := trivial
  fits_decode _ := trivial

def enumeration (width : Nat) (code : Value → Nat) (ofCode : Nat → Option Value) (other : Value)
    (coded : ∀ value, code value < 256 ^ width ∧ ofCode (code value) = some value) :
    Layout Value where
  size := width
  Fits _ := True
  encode value := LittleEndian.write width (code value)
  decode bytes := (ofCode (LittleEndian.read (bytes.take width))).getD other
  Proper bytes := (ofCode (LittleEndian.read (bytes.take width))).isSome
  length_encode _ := LittleEndian.length_write ..
  decode_encode {value} _ rest := by
    rw [List.take_left' (LittleEndian.length_write ..),
      LittleEndian.read_write_of_lt (coded value).1, (coded value).2]
    rfl
  proper_encode value rest := by
    rw [List.take_left' (LittleEndian.length_write ..),
      LittleEndian.read_write_of_lt (coded value).1, (coded value).2]
    rfl
  fits_decode _ := trivial

def array (size : Nat) (positive : 0 < size) : Layout (List UInt8) where
  size := size
  Fits text := 0 ∉ text ∧ text.length < size
  encode := Fields.field 0 size
  decode bytes := Fields.cString 0 (bytes.take size)
  Proper bytes := 0 ∈ bytes.take size
  length_encode := Fields.field_length 0 positive
  decode_encode fits rest := by
    rw [List.take_left' (Fields.field_length 0 positive _), Fields.cString_field,
      Fields.cString_eq_self 0 fits.1, List.take_of_length_le (Nat.le_sub_one_of_lt fits.2)]
  proper_encode text rest := by
    rw [List.take_left' (Fields.field_length 0 positive _)]
    simp [Fields.field]
  fits_decode proper :=
    ⟨Fields.not_mem_cString 0 _,
      lt_of_lt_of_le (Fields.Field.cString_length_lt 0 proper) (List.length_take_le ..)⟩

end Members

section Structs

def pair (first : Layout First) (second : Layout Second) : Layout (First × Second) where
  size := first.size + second.size
  Fits value := first.Fits value.1 ∧ second.Fits value.2
  encode value := first.encode value.1 ++ second.encode value.2
  decode bytes := (first.decode bytes, second.decode (bytes.drop first.size))
  Proper bytes := first.Proper bytes ∧ second.Proper (bytes.drop first.size)
  length_encode value := by
    rw [List.length_append, first.length_encode, second.length_encode]
  decode_encode fits rest := by
    rw [List.append_assoc, first.decode_encode fits.1, first.drop_encode,
      second.decode_encode fits.2]
  proper_encode value rest := by
    rw [List.append_assoc, first.drop_encode]
    exact ⟨first.proper_encode value.1 _, second.proper_encode value.2 rest⟩
  fits_decode proper := ⟨first.fits_decode proper.1, second.fits_decode proper.2⟩

def map (layout : Layout Value) (into : Value → Other) (back : Other → Value)
    (stable : ∀ value, layout.Fits value →
      layout.Fits (back (into value)) ∧ into (back (into value)) = into value) : Layout Other where
  size := layout.size
  Fits other := layout.Fits (back other) ∧ into (back other) = other
  encode other := layout.encode (back other)
  decode bytes := into (layout.decode bytes)
  Proper := layout.Proper
  length_encode other := layout.length_encode (back other)
  decode_encode fits rest := by rw [layout.decode_encode fits.1, fits.2]
  proper_encode other rest := layout.proper_encode (back other) rest
  fits_decode proper := stable _ (layout.fits_decode proper)

theorem drop_flatMap_encode (layout : Layout Value) (values : List Value) (rest : List UInt8)
    (index : Nat) (inside : index ≤ values.length) :
    (values.flatMap layout.encode ++ rest).drop (layout.size * index) =
      (values.drop index).flatMap layout.encode ++ rest := by
  induction index generalizing values with
  | zero => rfl
  | succ index ih =>
      cases values with
      | nil => exact absurd inside (by simp)
      | cons value values =>
          rw [Nat.mul_succ, Nat.add_comm, ← List.drop_drop, List.flatMap_cons, List.append_assoc,
            layout.drop_encode, ih values (Nat.le_of_succ_le_succ inside), List.drop_succ_cons]

theorem drop_encode_vector (layout : Layout Value) {count : Nat} (values : Vector Value count)
    (index : Fin count) (rest : List UInt8) :
    ∃ behind, (values.toList.flatMap layout.encode ++ rest).drop (layout.size * index) =
      layout.encode values[index] ++ behind := by
  have inside : index.val < values.toList.length := by simp
  refine ⟨(values.toList.drop (index + 1)).flatMap layout.encode ++ rest, ?_⟩
  rw [drop_flatMap_encode layout _ rest index inside.le, List.drop_eq_getElem_cons inside,
    List.flatMap_cons, List.append_assoc]
  simp

def vector (layout : Layout Value) (count : Nat) : Layout (Vector Value count) where
  size := layout.size * count
  Fits values := ∀ index : Fin count, layout.Fits values[index]
  encode values := values.toList.flatMap layout.encode
  decode bytes := Vector.ofFn fun index => layout.decode (bytes.drop (layout.size * index))
  Proper bytes := ∀ index : Fin count, layout.Proper (bytes.drop (layout.size * index))
  length_encode values := by
    simp [List.length_flatMap, layout.length_encode, Nat.mul_comm]
  decode_encode {values} fits rest := by
    ext index inside
    obtain ⟨behind, here⟩ := drop_encode_vector layout values ⟨index, inside⟩ rest
    rw [Vector.getElem_ofFn, here]
    exact layout.decode_encode (fits ⟨index, inside⟩) behind
  proper_encode values rest index := by
    obtain ⟨behind, here⟩ := drop_encode_vector layout values index rest
    rw [here]
    exact layout.proper_encode values[index] behind
  fits_decode proper index := by
    have read := layout.fits_decode (proper index)
    simpa using read

end Structs

section Signed

theorem bmod_toNat_emod (width value : Nat) (small : value < 256 ^ width) :
    (Int.bmod value (256 ^ width) % (256 ^ width : Nat)).toNat = value := by
  rw [Int.bmod_emod, Int.emod_eq_of_lt (by omega) (by exact_mod_cast small), Int.toNat_natCast]

def signed (width : Nat) : Layout Int :=
  (word width).map (fun value => Int.bmod value (256 ^ width))
    (fun value => (value % (256 ^ width : Nat)).toNat) (by
      intro value small
      rw [bmod_toNat_emod width value small]
      exact ⟨small, rfl⟩)

end Signed

section Reading

variable (layout : Layout Value)

def deserialize (payload : List UInt8) : Option Value :=
  if payload.length ≠ layout.size then none else some (layout.decode payload)

def copy (payload : List UInt8) : Option Value :=
  if layout.size ≤ payload.length then some (layout.decode payload) else none

theorem deserialize_encode {value : Value} (fits : layout.Fits value) :
    layout.deserialize (layout.encode value) = some value := by
  rw [deserialize, layout.length_encode, if_neg (by simp), layout.decode_encode_self fits]

theorem copy_encode {value : Value} (fits : layout.Fits value) :
    layout.copy (layout.encode value) = some value := by
  rw [copy, layout.length_encode, if_pos le_rfl, layout.decode_encode_self fits]

theorem fits_of_deserialize {payload : List UInt8} {value : Value} (proper : layout.Proper payload)
    (read : layout.deserialize payload = some value) : layout.Fits value := by
  unfold deserialize at read
  split at read
  · cases read
  · cases read
    exact layout.fits_decode proper

theorem fits_of_copy {payload : List UInt8} {value : Value} (proper : layout.Proper payload)
    (read : layout.copy payload = some value) : layout.Fits value := by
  unfold copy at read
  split at read
  · cases read
    exact layout.fits_decode proper
  · cases read

end Reading

end Layout
