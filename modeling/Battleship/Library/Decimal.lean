import Mathlib.Data.List.TakeWhile
import Mathlib.Tactic.IntervalCases

/-! Decimal text, as the standard string library writes and reads it:
`toString` for integers, `stoi`, and `getline` with a separator. Text is a
list of characters. -/

namespace Decimal

abbrev Text := List Char

def write : Int → Text
  | .ofNat n => Nat.toDigits 10 n
  | .negSucc n => '-' :: Nat.toDigits 10 (n + 1)

def digitValue (digit : Char) : Nat := digit.toNat - '0'.toNat

def valueOf (digits : Text) : Nat :=
  digits.foldl (fun value digit => 10 * value + digitValue digit) 0

def isSpace (char : Char) : Bool :=
  char == ' ' || char == '\t' || char == '\n' || char == '\r' ||
    char == Char.ofNat 11 || char == Char.ofNat 12

/-- `std::stoi`: blanks, an optional sign, the longest run of digits. `none`
is the exception for a text without a number or a number outside `int`. -/
def stoi (text : Text) : Option Int :=
  let signed := text.dropWhile isSpace
  let negative := signed.head? == some '-'
  let body := if signed.head? == some '-' || signed.head? == some '+' then signed.tail else signed
  let digits := body.takeWhile Char.isDigit
  if digits = [] then none
  else
    let value : Int := if negative then -(valueOf digits : Int) else valueOf digits
    if -2 ^ 31 ≤ value ∧ value < 2 ^ 31 then some value else none

def getline (separator : Char) : Text → Option (Text × Text)
  | [] => none
  | text => some (text.takeWhile (· != separator), (text.dropWhile (· != separator)).tail)

theorem getline_append {separator : Char} {token : Text} (rest : Text)
    (absent : separator ∉ token) :
    getline separator (token ++ separator :: rest) = some (token, rest) := by
  have clean : ∀ char ∈ token, (char != separator) = true := by
    intro char member
    simpa using fun same : char = separator => absent (same ▸ member)
  have shape : token ++ separator :: rest ≠ [] := by simp
  unfold getline
  split
  · contradiction
  · rw [List.takeWhile_append_of_pos clean, List.dropWhile_append_of_pos clean]
    simp

theorem getline_last {separator : Char} {token : Text} (nonempty : token ≠ [])
    (absent : separator ∉ token) : getline separator token = some (token, []) := by
  have clean : ∀ char ∈ token, (char != separator) = true := by
    intro char member
    simpa using fun same : char = separator => absent (same ▸ member)
  unfold getline
  split
  · contradiction
  · have kept : token.takeWhile (· != separator) = token := List.takeWhile_eq_self_iff.mpr clean
    have dropped : token.dropWhile (· != separator) = [] := List.dropWhile_eq_nil_iff.mpr clean
    rw [kept, dropped, List.tail_nil]

/-- The texts read by a loop of `getline` calls on the same stream; each call
consumes a character, so the length of the text bounds the number of rounds. -/
def readTokens (separator : Char) : Nat → Text → List Text
  | 0, _ => []
  | fuel + 1, text =>
      match getline separator text with
      | none => []
      | some (token, rest) => token :: readTokens separator fuel rest

def tokens (separator : Char) (text : Text) : List Text :=
  readTokens separator text.length text

theorem getline_length {separator : Char} {text token rest : Text}
    (read : getline separator text = some (token, rest)) : rest.length < text.length := by
  unfold getline at read
  split at read
  · simp at read
  · rename_i nonempty
    simp only [Option.some.injEq, Prod.mk.injEq] at read
    have shorter := (List.dropWhile_suffix (l := text) (· != separator)).length_le
    have positive : text.length ≠ 0 := by simpa using nonempty
    rw [← read.2, List.length_tail]
    omega

theorem readTokens_of_le {separator : Char} : ∀ {fuel : Nat} {text : Text}, text.length ≤ fuel →
    readTokens separator fuel text = tokens separator text := by
  have same : ∀ (fuel more : Nat) (text : Text), text.length ≤ fuel → text.length ≤ more →
      readTokens separator fuel text = readTokens separator more text := by
    intro fuel
    induction fuel with
    | zero =>
        intro more text short _
        have empty : text = [] := by simpa using short
        subst empty
        cases more <;> rfl
    | succ fuel ih =>
        intro more text short also
        cases read : getline separator text with
        | none => cases more <;> simp [readTokens, read]
        | some pair =>
            obtain ⟨token, rest⟩ := pair
            have shorter := getline_length read
            obtain ⟨rounds, rfl⟩ : ∃ rounds, more = rounds + 1 := ⟨more - 1, by omega⟩
            simp only [readTokens, read]
            rw [ih rounds rest (by omega) (by omega)]
  intro fuel text bound
  exact same fuel text.length text bound le_rfl

theorem tokens_append {separator : Char} {token : Text} (rest : Text) (absent : separator ∉ token) :
    tokens separator (token ++ separator :: rest) = token :: tokens separator rest := by
  have rounds : (token ++ separator :: rest).length = (token.length + rest.length) + 1 := by
    simp only [List.length_append, List.length_cons]
    omega
  rw [tokens, rounds, readTokens, getline_append rest absent]
  simp only [List.cons.injEq, true_and]
  exact readTokens_of_le (by omega)

theorem tokens_flatMap (separator : Char) :
    ∀ parts : List Text, (∀ part ∈ parts, separator ∉ part) →
      tokens separator (parts.flatMap (· ++ [separator])) = parts := by
  intro parts
  induction parts with
  | nil => intro _; rfl
  | cons part rest ih =>
      intro absent
      rw [List.flatMap_cons, List.append_assoc, List.singleton_append,
        tokens_append _ (absent part (by simp)),
        ih fun other member => absent other (List.mem_cons_of_mem _ member)]

theorem digitValue_digitChar {n : Nat} (small : n < 10) :
    digitValue (Nat.digitChar n) = n := by
  interval_cases n <;> rfl

theorem valueOf_concat (digits : Text) (digit : Char) :
    valueOf (digits ++ [digit]) = 10 * valueOf digits + digitValue digit := by
  simp [valueOf]

theorem valueOf_toDigits (n : Nat) : valueOf (Nat.toDigits 10 n) = n := by
  induction n using Nat.strongRecOn with
  | ind n ih =>
      rw [Nat.toDigits_eq_if (by omega)]
      split
      · rename_i small
        simp [valueOf, digitValue_digitChar small]
      · rename_i large
        rw [valueOf_concat, ih (n / 10) (by omega), digitValue_digitChar (by omega)]
        omega

theorem toDigits_isDigit {n : Nat} {char : Char} (member : char ∈ Nat.toDigits 10 n) :
    char.isDigit = true :=
  Nat.isDigit_of_mem_toDigits (by omega) (by omega) member

theorem isSpace_of_isDigit {char : Char} (digit : char.isDigit = true) :
    isSpace char = false := by
  simp only [isSpace, Bool.or_eq_false_iff, beq_eq_false_iff_ne, ne_eq]
  refine ⟨⟨⟨⟨⟨?_, ?_⟩, ?_⟩, ?_⟩, ?_⟩, ?_⟩ <;> rintro rfl <;> exact absurd digit (by decide)

theorem stoi_write {value : Int} (lower : -2 ^ 31 ≤ value) (upper : value < 2 ^ 31) :
    stoi (write value) = some value := by
  have digitsOnly (n : Nat) : (Nat.toDigits 10 n).takeWhile Char.isDigit = Nat.toDigits 10 n :=
    List.takeWhile_eq_self_iff.mpr fun _ member => toDigits_isDigit member
  cases value with
  | ofNat n =>
      obtain ⟨first, rest, shape⟩ := List.exists_cons_of_ne_nil (Nat.toDigits_ne_nil (b := 10) (n := n))
      have digit : first.isDigit = true := toDigits_isDigit (n := n) (by simp [shape])
      have plain : (Nat.toDigits 10 n).dropWhile isSpace = Nat.toDigits 10 n := by
        simp [shape, isSpace_of_isDigit digit]
      have unsigned : first ≠ '-' ∧ first ≠ '+' := by
        constructor <;> rintro rfl <;> exact absurd digit (by decide)
      have head : (Nat.toDigits 10 n).head? = some first := by simp [shape]
      simp only [stoi, write, plain, head, Option.some.injEq, beq_iff_eq, unsigned.1, unsigned.2,
        Bool.or_eq_true, or_self, if_false, digitsOnly, Nat.toDigits_ne_nil, valueOf_toDigits]
      simp only [Int.ofNat_eq_natCast] at lower upper ⊢
      rw [if_pos ⟨lower, upper⟩]
  | negSucc n =>
      have plain : ('-' :: Nat.toDigits 10 (n + 1)).dropWhile isSpace =
          '-' :: Nat.toDigits 10 (n + 1) := by
        rw [List.dropWhile_cons_of_neg (by decide)]
      simp only [stoi, write, plain, List.head?_cons, beq_self_eq_true, Bool.true_or, if_true,
        List.tail_cons, digitsOnly, Nat.toDigits_ne_nil, if_false, valueOf_toDigits]
      have negated : -((n + 1 : Nat) : Int) = Int.negSucc n := by omega
      rw [negated, if_pos ⟨lower, upper⟩]

theorem write_ne_nil (value : Int) : write value ≠ [] := by
  cases value with
  | ofNat n => exact Nat.toDigits_ne_nil
  | negSucc n => simp [write]

theorem not_mem_write {value : Int} {char : Char} (notDigit : char.isDigit = false)
    (notMinus : char ≠ '-') : char ∉ write value := by
  cases value with
  | ofNat n =>
      intro member
      simp [toDigits_isDigit member] at notDigit
  | negSucc n =>
      intro member
      rcases List.mem_cons.mp member with same | digits
      · exact notMinus same
      · simp [toDigits_isDigit digits] at notDigit

/-! Which texts hold a number -/

def Numeric (text : Text) : Prop :=
  ∃ blanks sign digits rest, text = blanks ++ (sign ++ (digits ++ rest)) ∧
    (∀ char ∈ blanks, isSpace char = true) ∧ (sign = [] ∨ sign = ['+'] ∨ sign = ['-']) ∧
    digits ≠ [] ∧ (∀ char ∈ digits, char.isDigit = true) ∧
    (∀ char ∈ rest.head?, char.isDigit = false) ∧
    valueOf digits < 2 ^ 31 + if sign = ['-'] then 1 else 0

theorem takeWhile_append_head {p : Char → Bool} {front rest : Text}
    (all : ∀ char ∈ front, p char = true) (stop : ∀ char ∈ rest.head?, p char = false) :
    (front ++ rest).takeWhile p = front ∧ (front ++ rest).dropWhile p = rest := by
  rw [List.takeWhile_append_of_pos all, List.dropWhile_append_of_pos all]
  cases rest with
  | nil => simp
  | cons char others =>
      have stopped : p char = false := stop char rfl
      simp [stopped]

/-- What `stoi` makes of the text behind the blanks and the sign. -/
theorem stoi_shape {blanks sign digits rest : Text}
    (blank : ∀ char ∈ blanks, isSpace char = true)
    (signs : sign = [] ∨ sign = ['+'] ∨ sign = ['-']) (nonempty : digits ≠ [])
    (digit : ∀ char ∈ digits, char.isDigit = true)
    (stop : ∀ char ∈ rest.head?, char.isDigit = false) :
    (stoi (blanks ++ (sign ++ (digits ++ rest)))).isSome = true ↔
      valueOf digits < 2 ^ 31 + if sign = ['-'] then 1 else 0 := by
  obtain ⟨first, others, rfl⟩ := List.exists_cons_of_ne_nil nonempty
  have leading : first.isDigit = true := digit first (by simp)
  have plain : isSpace first = false := isSpace_of_isDigit leading
  have unsigned : first ≠ '-' ∧ first ≠ '+' := by
    constructor <;> rintro rfl <;> exact absurd leading (by decide)
  have read : (first :: (others ++ rest)).takeWhile Char.isDigit = first :: others :=
    (takeWhile_append_head (p := Char.isDigit) digit stop).1
  have dropped : (blanks ++ (sign ++ (first :: others ++ rest))).dropWhile isSpace =
      sign ++ (first :: others ++ rest) := by
    refine (takeWhile_append_head blank ?_).2
    rcases signs with rfl | rfl | rfl <;> simp [plain] <;> decide
  have positive : (0 : Int) ≤ (valueOf (first :: others) : Int) := Int.natCast_nonneg _
  rcases signs with rfl | rfl | rfl
  · simp only [stoi, dropped]
    simp [unsigned, read]
  · simp only [stoi, dropped]
    simp [read]
  · simp only [stoi, dropped]
    simp [read]
    omega

/-- Every text has such a shape, but for the digits that may be missing. -/
theorem exists_shape (text : Text) : ∃ blanks sign digits rest,
    text = blanks ++ (sign ++ (digits ++ rest)) ∧ (∀ char ∈ blanks, isSpace char = true) ∧
    (sign = [] ∨ sign = ['+'] ∨ sign = ['-']) ∧ (∀ char ∈ digits, char.isDigit = true) ∧
    (∀ char ∈ rest.head?, char.isDigit = false) ∧ (digits = [] → stoi text = none) := by
  have span (p : Char → Bool) (line : Text) : line = line.takeWhile p ++ line.dropWhile p ∧
      (∀ char ∈ line.takeWhile p, p char = true) ∧
      ∀ char ∈ (line.dropWhile p).head?, p char = false := by
    refine ⟨List.takeWhile_append_dropWhile.symm, fun char => List.mem_takeWhile_imp, ?_⟩
    intro char first
    have nonempty : line.dropWhile p ≠ [] := by
      intro empty
      rw [empty] at first
      cases first
    have stopped := List.head_dropWhile_not p nonempty
    rw [List.head?_eq_some_head nonempty, Option.mem_some_iff] at first
    exact first ▸ stopped
  obtain ⟨split, blank, _⟩ := span isSpace text
  have body (sign behind : Text) (signed : text.dropWhile isSpace = sign ++ behind)
      (signs : sign = [] ∨ sign = ['+'] ∨ sign = ['-'])
      (missing : behind.takeWhile Char.isDigit = [] → stoi text = none) :
      ∃ blanks sign digits rest, text = blanks ++ (sign ++ (digits ++ rest)) ∧
        (∀ char ∈ blanks, isSpace char = true) ∧ (sign = [] ∨ sign = ['+'] ∨ sign = ['-']) ∧
        (∀ char ∈ digits, char.isDigit = true) ∧ (∀ char ∈ rest.head?, char.isDigit = false) ∧
        (digits = [] → stoi text = none) := by
    obtain ⟨numbers, digit, stop⟩ := span Char.isDigit behind
    exact ⟨_, sign, _, _, by rw [← numbers, ← signed, ← split], blank, signs, digit, stop, missing⟩
  cases shape : text.dropWhile isSpace with
  | nil => exact body [] [] shape (by simp) (by simp [stoi, shape])
  | cons first others =>
      by_cases minus : first = '-'
      · subst minus
        exact body ['-'] others shape (by simp) fun missing => by simp [stoi, shape, missing]
      · by_cases plus : first = '+'
        · subst plus
          exact body ['+'] others shape (by simp) fun missing => by simp [stoi, shape, missing]
        · exact body [] (first :: others) shape (by simp) fun missing => by
            simp [stoi, shape, minus, plus, missing]

theorem stoi_isSome_iff (text : Text) : (stoi text).isSome = true ↔ Numeric text := by
  constructor
  · intro parsed
    obtain ⟨blanks, sign, digits, rest, rfl, blank, signs, digit, stop, missing⟩ := exists_shape text
    have nonempty : digits ≠ [] := by
      intro empty
      rw [missing empty] at parsed
      cases parsed
    exact ⟨blanks, sign, digits, rest, rfl, blank, signs, nonempty, digit, stop,
      (stoi_shape blank signs nonempty digit stop).mp parsed⟩
  · rintro ⟨blanks, sign, digits, rest, rfl, blank, signs, nonempty, digit, stop, small⟩
    exact (stoi_shape blank signs nonempty digit stop).mpr small

example : stoi (write (-7) ++ [' ', '4']) = some (-7) := by decide

end Decimal
