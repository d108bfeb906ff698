import Battleship.Library.Decimal

/-! The session file of the client, `session_storage.cpp`: five values, one on each line. The
user id is written unsigned and read back by `stoi`, whose exceptions nothing catches. -/

namespace Battleship.SessionStorage

open Decimal (Text Numeric)

structure Session where
  userId : UInt32
  sessionToken : Text
  username : Text
  displayName : Text
  eloRating : Int32
  deriving DecidableEq, Repr

/-- `session.txt`: what opening it to read gives, and whether it can be opened to write. -/
structure Disk where
  file : Option Text
  writable : Bool
  deriving DecidableEq

/-- What a call of `loadSession` comes to. On `false` the values stay unused. -/
inductive Outcome where
  | returned (session : Option Session)
  | thrown
  deriving DecidableEq

def endl : Char := '\n'

def fileOf (session : Session) : Text :=
  (Decimal.write session.userId.toNat ++ [endl]) ++ (session.sessionToken ++ [endl]) ++
    (session.username ++ [endl]) ++ (session.displayName ++ [endl]) ++
    (Decimal.write session.eloRating.toInt ++ [endl])

def saveSession (session : Session) (disk : Disk) : Bool × Disk :=
  if disk.writable then (true, { disk with file := some (fileOf session) }) else (false, disk)

/-- The reads of one line after another. The assignment of `stoi` to `uint32_t` wraps. -/
def readSession (text : Text) : Outcome :=
  match Decimal.getline endl text with
  | none => .returned none
  | some (line, text) =>
      match Decimal.stoi line with
      | none => .thrown
      | some userId =>
          match Decimal.getline endl text with
          | none => .returned none
          | some (sessionToken, text) =>
              match Decimal.getline endl text with
              | none => .returned none
              | some (username, text) =>
                  match Decimal.getline endl text with
                  | none => .returned none
                  | some (displayName, text) =>
                      match Decimal.getline endl text with
                      | none => .returned none
                      | some (line, _) =>
                          match Decimal.stoi line with
                          | none => .thrown
                          | some eloRating =>
                              .returned (some ⟨UInt32.ofInt userId, sessionToken, username,
                                displayName, Int32.ofInt eloRating⟩)

def loadSession (disk : Disk) : Outcome :=
  match disk.file with
  | none => .returned none
  | some text => readSession text

/-! Reading any file -/

def lines (text : Text) : List Text := Decimal.tokens endl text

theorem lines_eq (text : Text) : lines text =
    match Decimal.getline endl text with
    | none => []
    | some (line, rest) => line :: lines rest := by
  cases text with
  | nil => rfl
  | cons first others =>
      rw [lines, Decimal.tokens, List.length_cons, Decimal.readTokens]
      cases read : Decimal.getline endl (first :: others) with
      | none => rfl
      | some pair =>
          obtain ⟨line, rest⟩ := pair
          have shorter := Decimal.getline_length read
          rw [List.length_cons] at shorter
          simp only [List.cons.injEq, true_and]
          exact Decimal.readTokens_of_le (by omega)

def parse : List Text → Outcome
  | [] => .returned none
  | line :: rest =>
      match Decimal.stoi line with
      | none => .thrown
      | some userId =>
          match rest with
          | sessionToken :: username :: displayName :: line :: _ =>
              match Decimal.stoi line with
              | none => .thrown
              | some eloRating => .returned (some ⟨UInt32.ofInt userId, sessionToken, username,
                  displayName, Int32.ofInt eloRating⟩)
          | _ => .returned none

theorem lines_nil {text : Text} (read : Decimal.getline endl text = none) : lines text = [] := by
  rw [lines_eq, read]

theorem lines_cons {text line rest : Text}
    (read : Decimal.getline endl text = some (line, rest)) : lines text = line :: lines rest := by
  rw [lines_eq, read]

theorem readSession_eq (text : Text) : readSession text = parse (lines text) := by
  fun_cases readSession text
  all_goals grind [parse, → lines_nil, → lines_cons]

def Sound (text : Text) : Prop :=
  (∀ line ∈ (lines text)[0]?, Numeric line) ∧ ∀ line ∈ (lines text)[4]?, Numeric line

def Parsed (text : Text) (session : Session) : Prop :=
  ∃ first fifth userId eloRating rest,
    lines text = first :: session.sessionToken :: session.username :: session.displayName ::
      fifth :: rest ∧
    Decimal.stoi first = some userId ∧ session.userId = UInt32.ofInt userId ∧
    Decimal.stoi fifth = some eloRating ∧ session.eloRating = Int32.ofInt eloRating

theorem numeric_iff {line : Text} : Numeric line ↔ ∃ value, Decimal.stoi line = some value := by
  rw [← Decimal.stoi_isSome_iff, Option.isSome_iff_exists]

theorem readSession_parsed {text : Text} {session : Session} :
    readSession text = .returned (some session) ↔ Parsed text session := by
  rw [readSession_eq, Parsed]
  constructor
  · fun_cases parse (lines text)
    case case4 first userId read sessionToken username displayName fifth rest eloRating also =>
      rintro ⟨⟩
      exact ⟨first, fifth, userId, eloRating, rest, rfl, read, rfl, also, rfl⟩
    all_goals simp
  · rintro ⟨first, fifth, userId, eloRating, rest, shape, read, rfl', also, rating⟩
    simp [shape, parse, read, also, ← rfl', ← rating]

theorem readSession_returns_iff (text : Text) : readSession text ≠ .thrown ↔ Sound text := by
  rw [readSession_eq, Sound]
  fun_cases parse (lines text)
  case case1 => simp
  case case2 first rest refused => simp [numeric_iff, refused]
  case case3 first userId read sessionToken username displayName fifth rest refused =>
    simp [numeric_iff, refused]
  case case4 first userId read sessionToken username displayName fifth rest eloRating also =>
    simp [numeric_iff, read, also]
  case case5 first rest userId read short =>
    have missing : (first :: rest)[4]? = none := by
      rw [List.getElem?_eq_none_iff]
      match rest with
      | [] | [_] | [_, _] | [_, _, _] => simp
      | _ :: _ :: _ :: _ :: _ => exact absurd rfl (short _ _ _ _ _)
    simp [numeric_iff, read, missing]

/-! Writing and reading back -/

theorem fileOf_eq (session : Session) : fileOf session =
    [Decimal.write session.userId.toNat, session.sessionToken, session.username,
      session.displayName, Decimal.write session.eloRating.toInt].flatMap (· ++ [endl]) := by
  simp [fileOf]

def Session.OneLine (session : Session) : Prop :=
  endl ∉ session.sessionToken ∧ endl ∉ session.username ∧ endl ∉ session.displayName

theorem lines_fileOf {session : Session} (oneLine : session.OneLine) :
    lines (fileOf session) = [Decimal.write session.userId.toNat, session.sessionToken,
      session.username, session.displayName, Decimal.write session.eloRating.toInt] := by
  rw [fileOf_eq, lines]
  apply Decimal.tokens_flatMap
  have number (value : Int) : endl ∉ Decimal.write value :=
    Decimal.not_mem_write (by decide) (by decide)
  simp [number, oneLine.1, oneLine.2.1, oneLine.2.2]

theorem ofInt_toNat (userId : UInt32) : UInt32.ofInt userId.toNat = userId := by
  have narrow : userId.toNat < 2 ^ 32 := userId.toNat_lt
  have same : ((userId.toNat : Int) % 2 ^ 32).toNat = userId.toNat := by omega
  rw [UInt32.ofInt, same, UInt32.ofNat_toNat]

theorem stoi_write_userId (userId : Nat) :
    Decimal.stoi (Decimal.write userId) = if userId < 2 ^ 31 then some (userId : Int) else none := by
  split
  · exact Decimal.stoi_write (by omega) (by omega)
  · rename_i large
    have parsed := @Decimal.stoi_shape [] [] (Nat.toDigits 10 userId) [] (by simp) (by simp)
      Nat.toDigits_ne_nil
      (fun char member => Decimal.toDigits_isDigit member) (by simp)
    rw [List.nil_append, List.nil_append, List.append_nil, Decimal.valueOf_toDigits] at parsed
    rw [← Option.not_isSome_iff_eq_none]
    exact fun found => large (by simpa using parsed.mp found)

theorem loadSession_saved_iff {disk : Disk} {session : Session} (writable : disk.writable = true)
    (oneLine : session.OneLine) :
    loadSession (saveSession session disk).2 = .returned (some session) ↔
      session.userId.toNat < 2 ^ 31 := by
  rw [saveSession, if_pos writable]
  change readSession (fileOf session) = _ ↔ _
  rw [readSession_eq, lines_fileOf oneLine, parse, stoi_write_userId]
  have rating : Decimal.stoi (Decimal.write session.eloRating.toInt) =
      some session.eloRating.toInt :=
    Decimal.stoi_write session.eloRating.le_toInt session.eloRating.toInt_lt
  split
  · simp_all
  · rename_i userId read
    split at read
    · rename_i small
      obtain rfl := Option.some.inj read
      simpa [rating, ofInt_toNat] using small
    · cases read

theorem loadSession_returns_iff (disk : Disk) :
    (loadSession disk = .returned none ∨ ∃ text session, disk.file = some text ∧
        Parsed text session ∧ loadSession disk = .returned (some session)) ↔
      ∀ text ∈ disk.file, Sound text := by
  obtain ⟨file, writable⟩ := disk
  cases file with
  | none => simp [loadSession]
  | some text =>
      have returns := readSession_returns_iff text
      simp only [Option.mem_def, Option.some.injEq, forall_eq', loadSession]
      rw [← returns]
      cases outcome : readSession text with
      | thrown => simp
      | returned session =>
          cases session with
          | none => simp
          | some session => simp [readSession_parsed.mp outcome]

/-- Of the sessions that can be saved, those of the user ids of an `int` are read back; of all
files, those that are read without an exception are the ones whose numbers are numbers. -/
theorem loadSession_meets (disk : Disk) :
    (∀ session : Session, disk.writable = true → session.OneLine →
      (loadSession (saveSession session disk).2 = .returned (some session) ↔
        session.userId.toNat < 2 ^ 31)) ∧
    ((loadSession disk = .returned none ∨ ∃ text session, disk.file = some text ∧
        Parsed text session ∧ loadSession disk = .returned (some session)) ↔
      ∀ text ∈ disk.file, Sound text) :=
  ⟨fun _ writable oneLine => loadSession_saved_iff writable oneLine, loadSession_returns_iff disk⟩

theorem loadSession_restores_session :
    loadSession (saveSession ⟨2147483647, "token_7".toList, "alice".toList, "Al".toList, -1⟩
        ⟨none, true⟩).2 =
      .returned (some ⟨2147483647, "token_7".toList, "alice".toList, "Al".toList, -1⟩) :=
  ((loadSession_meets ⟨none, true⟩).1 _ rfl
    (by simp only [Session.OneLine]; decide)).mpr (by decide)

/-- The first user id past the `int`s is saved, and loading it throws; so does an empty line. -/
theorem loadSession_throws :
    (∃ session : Session, session.OneLine ∧ session.userId = 2147483648 ∧
      loadSession (saveSession session ⟨none, true⟩).2 = .thrown) ∧
    loadSession ⟨some [endl], true⟩ = .thrown := by
  refine ⟨⟨⟨2147483648, "token_7".toList, "alice".toList, "Al".toList, 1000⟩, ?_, rfl, ?_⟩, ?_⟩
  · simp only [Session.OneLine]
    decide
  · rfl
  · rfl

end Battleship.SessionStorage
