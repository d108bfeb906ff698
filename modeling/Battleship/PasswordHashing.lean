import Battleship.SessionTokens
import Mathlib.Tactic.IntervalCases

/-! `password_hash.cpp` on byte strings: the salt and the digest as they are written in
hexadecimal, the split of a stored string at its first `$`, and the comparison that goes over
all its bytes. The digest of OpenSSL is any function to 32 bytes. -/

namespace Battleship.Hashing

abbrev Bytes := List UInt8

def dollar : UInt8 := 36

/-- One number as `std::hex << std::setw(2) << std::setfill('0')` writes it. -/
def hexByte (byte : UInt8) : Bytes :=
  ((Nat.toDigits 16 byte.toNat).leftpad 2 '0').map Char.toUInt8

def hexString (bytes : List UInt8) : Bytes := bytes.flatMap hexByte

def generateSalt (saltBytes : Vector UInt8 16) : Bytes := hexString saltBytes.toList

section Digest

variable (SHA256 : Bytes → Vector UInt8 32)

def sha256 (data : Bytes) : Bytes := hexString (SHA256 data).toList

def hashPassword (saltBytes : Vector UInt8 16) (password : Bytes) : Bytes :=
  let salt := generateSalt saltBytes
  salt ++ [dollar] ++ sha256 SHA256 (salt ++ password)

def compare : Bytes → Bytes → UInt8 → UInt8
  | computed :: restComputed, expected :: restExpected, result =>
      compare restComputed restExpected (result ||| (computed ^^^ expected))
  | _, _, result => result

def verifyPassword (password storedHash : Bytes) : Bool :=
  match storedHash.findIdx? (· == dollar) with
  | none => false
  | some 0 => false
  | some dollarPos =>
      let salt := storedHash.take dollarPos
      let expectedHash := storedHash.drop (dollarPos + 1)
      let computedHash := sha256 SHA256 (salt ++ password)
      if computedHash.length ≠ expectedHash.length then false
      else compare computedHash expectedHash 0 == 0

end Digest

/-! The comparison -/

theorem or_eq_zero {first second : UInt8} :
    first ||| second = 0 ↔ first = 0 ∧ second = 0 := by
  simp only [← UInt8.toBitVec_inj, UInt8.toBitVec_or, UInt8.toBitVec_zero]
  exact BitVec.or_eq_zero_iff

theorem compare_eq_zero : ∀ {computed expected : Bytes} {result : UInt8},
    computed.length = expected.length →
      (compare computed expected result = 0 ↔ result = 0 ∧ computed = expected) := by
  intro computed
  induction computed with
  | nil =>
      intro expected result same
      have empty : expected = [] := List.length_eq_zero_iff.mp same.symm
      simp [compare, empty]
  | cons byte rest ih =>
      intro expected result same
      cases expected with
      | nil => cases same
      | cons other others =>
          rw [compare, ih (Nat.succ.inj same), or_eq_zero, UInt8.xor_eq_zero_iff, and_assoc,
            List.cons.injEq]

/-! Hexadecimal digits -/

def hexDigits : Bytes := hexChars.map Char.toUInt8

theorem hexByte_mk {high low : Nat} (first : high < 16) (second : low < 16) :
    hexByte (UInt8.ofNat (16 * high + low)) = [hexDigits.getD high 0, hexDigits.getD low 0] := by
  revert low
  interval_cases high <;> decide

/-- The two digits of a byte, and the halves they stand for. -/
theorem hexByte_eq (byte : UInt8) :
    hexByte byte = [hexDigits.getD (byte.toNat / 16) 0, hexDigits.getD (byte.toNat % 16) 0] := by
  have narrow : byte.toNat < 256 := byte.toNat_lt
  rw [← hexByte_mk (by omega) (by omega), Nat.div_add_mod, UInt8.ofNat_toNat]

theorem hexDigits_getD_mem {index : Nat} (small : index < 16) :
    hexDigits.getD index 0 ∈ hexDigits := by
  interval_cases index <;> decide

theorem mem_hexByte {byte digit : UInt8} (member : digit ∈ hexByte byte) : digit ∈ hexDigits := by
  have narrow : byte.toNat < 256 := byte.toNat_lt
  rw [hexByte_eq] at member
  rcases List.mem_cons.mp member with rfl | member
  · exact hexDigits_getD_mem (by omega)
  · rw [List.mem_singleton.mp member]
    exact hexDigits_getD_mem (by omega)

def LowerHex (length : Nat) (text : Bytes) : Prop :=
  text.length = length ∧ ∀ digit ∈ text, digit ∈ hexDigits

theorem hexString_length (bytes : List UInt8) : (hexString bytes).length = 2 * bytes.length := by
  induction bytes with
  | nil => rfl
  | cons byte rest ih =>
      rw [hexString, List.flatMap_cons, List.length_append, hexByte_eq, ← hexString, ih]
      simp only [List.length_cons, List.length_nil]
      omega

theorem hexString_lowerHex {length : Nat} (bytes : Vector UInt8 length) :
    LowerHex (2 * length) (hexString bytes.toList) := by
  refine ⟨by simp [hexString_length], fun digit member => ?_⟩
  obtain ⟨byte, _, written⟩ := List.mem_flatMap.mp member
  exact mem_hexByte written

theorem exists_hexByte {first second : UInt8} (high : first ∈ hexDigits)
    (low : second ∈ hexDigits) : ∃ byte, hexByte byte = [first, second] := by
  obtain ⟨i, below, rfl⟩ := List.getElem_of_mem high
  obtain ⟨j, small, rfl⟩ := List.getElem_of_mem low
  refine ⟨UInt8.ofNat (16 * i + j), ?_⟩
  rw [hexByte_mk below small]
  simp [List.getD_eq_getElem?_getD, below, small]

/-- Every text of twice as many lower-case digits is written for some bytes. -/
theorem exists_hexString : ∀ {length : Nat} {text : Bytes}, LowerHex (2 * length) text →
    ∃ bytes : List UInt8, bytes.length = length ∧ hexString bytes = text := by
  intro length
  induction length with
  | zero =>
      intro text hex
      exact ⟨[], rfl, (List.length_eq_zero_iff.mp hex.1).symm⟩
  | succ length ih =>
      rintro text ⟨long, digits⟩
      match text, long with
      | first :: second :: rest, long =>
          simp only [List.length_cons] at long
          obtain ⟨byte, written⟩ := exists_hexByte (digits first (by simp)) (digits second (by simp))
          obtain ⟨bytes, many, others⟩ := @ih rest
            ⟨by omega, fun digit member => digits digit (by simp [member])⟩
          refine ⟨byte :: bytes, by simp [many], ?_⟩
          rw [hexString, List.flatMap_cons, written, ← hexString, others]
          rfl

/-- A digest can give any function from byte strings to 64 lower-case digits. -/
theorem sha256_onto (sha : Bytes → Bytes) :
    (∃ SHA256, sha256 SHA256 = sha) ↔ ∀ data, LowerHex 64 (sha data) := by
  constructor
  · rintro ⟨SHA256, rfl⟩ data
    exact hexString_lowerHex (SHA256 data)
  · intro hex
    choose digest many written using fun data =>
      exists_hexString (show LowerHex (2 * 32) (sha data) from hex data)
    refine ⟨fun data => ⟨⟨digest data⟩, many data⟩, funext fun data => ?_⟩
    exact written data

/-! Stored strings -/

theorem dollar_not_mem_salt (saltBytes : Vector UInt8 16) : dollar ∉ generateSalt saltBytes :=
  fun member => absurd ((hexString_lowerHex saltBytes).2 dollar member) (by decide)

theorem generateSalt_ne_nil (saltBytes : Vector UInt8 16) : generateSalt saltBytes ≠ [] := by
  have long : (generateSalt saltBytes).length = 32 := (hexString_lowerHex saltBytes).1
  rintro empty
  rw [empty] at long
  cases long

section Verification

variable (SHA256 : Bytes → Vector UInt8 32)

theorem findIdx_dollar {salt : Bytes} (rest : Bytes) (clean : dollar ∉ salt) :
    (salt ++ dollar :: rest).findIdx? (· == dollar) = some salt.length := by
  induction salt with
  | nil => simp [List.findIdx?_cons]
  | cons byte others ih =>
      rw [List.mem_cons, not_or] at clean
      rw [List.cons_append, List.findIdx?_cons, ih clean.2]
      simp [Ne.symm clean.1]

/-- What is stored splits at its first `$`, or has none. -/
theorem split_dollar (stored : Bytes) :
    dollar ∉ stored ∨ ∃ salt rest, stored = salt ++ dollar :: rest ∧ dollar ∉ salt := by
  by_cases member : dollar ∈ stored
  · obtain ⟨salt, rest, shape, clean⟩ := List.eq_append_cons_of_mem member
    exact Or.inr ⟨salt, rest, shape, clean⟩
  · exact Or.inl member

theorem verifyPassword_no_dollar {stored : Bytes} (absent : dollar ∉ stored) (password : Bytes) :
    verifyPassword SHA256 password stored = false := by
  have missing : stored.findIdx? (· == dollar) = none := by
    rw [List.findIdx?_eq_none_iff]
    intro byte member
    exact beq_false_of_ne fun same => absent (same ▸ member)
  rw [verifyPassword, missing]

theorem verifyPassword_split {salt : Bytes} (expected password : Bytes) (clean : dollar ∉ salt) :
    verifyPassword SHA256 password (salt ++ dollar :: expected) = true ↔
      salt ≠ [] ∧ expected = sha256 SHA256 (salt ++ password) := by
  rw [verifyPassword, findIdx_dollar expected clean]
  cases salt with
  | nil => simp
  | cons byte others =>
      simp only [List.length_cons]
      have salted : (byte :: others ++ dollar :: expected).take (others.length + 1) =
          byte :: others := List.take_left' rfl
      have rest : (byte :: others ++ dollar :: expected).drop (others.length + 1 + 1) =
          expected := by simp
      rw [salted, rest]
      split
      · rename_i different
        simp only [Bool.false_eq_true, false_iff, not_and]
        rintro _ rfl
        exact different rfl
      · rename_i same
        rw [beq_iff_eq, compare_eq_zero (not_not.mp same)]
        simp [eq_comm]

theorem verifyPassword_hashPassword (saltBytes : Vector UInt8 16) (given password : Bytes) :
    verifyPassword SHA256 given (hashPassword SHA256 saltBytes password) = true ↔
      sha256 SHA256 (generateSalt saltBytes ++ given) =
        sha256 SHA256 (generateSalt saltBytes ++ password) := by
  rw [hashPassword, List.append_assoc, List.singleton_append,
    verifyPassword_split SHA256 _ given (dollar_not_mem_salt saltBytes)]
  exact ⟨fun both => both.2.symm, fun same => ⟨generateSalt_ne_nil saltBytes, same.symm⟩⟩

/-- A stored string lets in the passwords that its own salt and digest were made of, and no
other string lets in any. -/
theorem verifyPassword_accepts :
    (∀ password stored, verifyPassword SHA256 password stored = true ↔
      ∃ salt expected, stored = salt ++ [dollar] ++ expected ∧ salt ≠ [] ∧ dollar ∉ salt ∧
        expected = sha256 SHA256 (salt ++ password)) ∧
    (∀ saltBytes password,
      verifyPassword SHA256 password (hashPassword SHA256 saltBytes password) = true) ∧
    ∀ saltBytes given password,
      verifyPassword SHA256 given (hashPassword SHA256 saltBytes password) = true ↔
        sha256 SHA256 (generateSalt saltBytes ++ given) =
          sha256 SHA256 (generateSalt saltBytes ++ password) := by
  refine ⟨fun password stored => ⟨fun accepted => ?_, ?_⟩, ?_, verifyPassword_hashPassword SHA256⟩
  · rcases split_dollar stored with absent | ⟨salt, expected, rfl, clean⟩
    · rw [verifyPassword_no_dollar SHA256 absent] at accepted
      cases accepted
    · obtain ⟨nonempty, same⟩ := (verifyPassword_split SHA256 expected password clean).mp accepted
      exact ⟨salt, expected, by simp, nonempty, clean, same⟩
  · rintro ⟨salt, expected, rfl, nonempty, clean, same⟩
    rw [List.append_assoc, List.singleton_append]
    exact (verifyPassword_split SHA256 expected password clean).mpr ⟨nonempty, same⟩
  · intro saltBytes password
    exact (verifyPassword_hashPassword SHA256 saltBytes password password).mpr rfl

end Verification

/-! The texts of the server -/

def text (bytes : Bytes) : Decimal.Text := bytes.map fun byte => Char.ofNat byte.toNat

theorem char_injective : Function.Injective fun byte : UInt8 => Char.ofNat byte.toNat := by
  intro first second same
  have narrow (byte : UInt8) : (Char.ofNat byte.toNat).toNat = byte.toNat := by
    have small : byte.toNat < 256 := byte.toNat_lt
    have valid : byte.toNat.isValidChar := Or.inl (by omega)
    rw [Char.ofNat, dif_pos valid]
    rfl
  have numbers := congrArg Char.toNat same
  simp only [narrow] at numbers
  exact UInt8.toNat_inj.mp numbers

theorem text_injective : Function.Injective text := List.map_injective_iff.mpr char_injective

theorem text_append (first second : Bytes) : text (first ++ second) = text first ++ text second :=
  List.map_append

theorem text_lowerHex {length : Nat} {bytes : Bytes} (hex : LowerHex length bytes) :
    IsHex length (text bytes) := by
  refine ⟨by rw [text, List.length_map, hex.1], fun char member => ?_⟩
  obtain ⟨digit, inside, rfl⟩ := List.mem_map.mp member
  have all : ∀ digit ∈ hexDigits, Char.ofNat digit.toNat ∈ hexChars := by decide +kernel
  exact all digit (hex.2 digit inside)

theorem generateSalt_isHex (saltBytes : Vector UInt8 16) :
    IsHex 32 (text (generateSalt saltBytes)) := text_lowerHex (hexString_lowerHex saltBytes)

section Refinement

variable (lib : Externals) (SHA256 : Bytes → Vector UInt8 32)
  (agrees : ∀ data, lib.sha256 (text data) = text (sha256 SHA256 data))

include agrees

theorem text_hashPassword (saltBytes : Vector UInt8 16) (password : Bytes) :
    PasswordHash.hashPassword lib (text (generateSalt saltBytes)) (text password) =
      text (hashPassword SHA256 saltBytes password) := by
  rw [PasswordHash.hashPassword, ← text_append, agrees, hashPassword, text_append, text_append,
    List.append_assoc]
  rfl

/-- The check of the authentication handler is the one on bytes. -/
theorem text_verifyPassword (password stored : Bytes) :
    PasswordHash.verifyPassword lib (text password) (text stored) =
      verifyPassword SHA256 password stored := by
  have dollarOnly (bytes : Bytes) : '$' ∈ text bytes ↔ dollar ∈ bytes :=
    List.mem_map_of_injective char_injective (a := dollar) (l := bytes)
  rcases split_dollar stored with absent | ⟨salt, expected, rfl, clean⟩
  · rw [verifyPassword_no_dollar SHA256 absent]
    simp [PasswordHash.verifyPassword, dollarOnly, absent]
  · have plain : ∀ char ∈ text salt, decide (char ≠ '$') = true := by
      intro char member
      rw [decide_eq_true_eq]
      rintro rfl
      exact clean ((dollarOnly salt).mp member)
    have shape : text (salt ++ dollar :: expected) = text salt ++ '$' :: text expected :=
      text_append salt (dollar :: expected)
    rw [Bool.eq_iff_iff, verifyPassword_split SHA256 expected password clean, shape]
    rw [PasswordHash.verifyPassword, List.takeWhile_append_of_pos plain,
      List.dropWhile_append_of_pos plain]
    have empty : text salt = [] ↔ salt = [] := List.map_eq_nil_iff
    simp only [List.takeWhile_cons, List.dropWhile_cons, ne_eq, not_true_eq_false, decide_false,
      Bool.false_eq_true, if_false, List.append_nil, List.tail_cons, List.mem_append,
      List.mem_cons, true_or, or_true, false_or, empty]
    rw [← text_append, agrees]
    by_cases bare : salt = []
    · simp [bare]
    · rw [if_neg bare, decide_eq_true_eq, text_injective.eq_iff]
      exact ⟨fun same => ⟨bare, same.symm⟩, fun both => both.2.symm⟩

end Refinement

end Battleship.Hashing
