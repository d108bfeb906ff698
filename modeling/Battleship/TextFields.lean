import Battleship.Library.Fields
import Battleship.RequestBytes

/-! The text fields of requests as the server reads them. `session_token`, `username`,
`password` and `display_name` are arrays in structs that were copied from the wire; each is
handed on by its address, and the string that comes of it ends at the first NUL behind that
address. The memory behind a struct may hold anything. -/

namespace Battleship.TextFields

open Fields (Field)
open Hashing (Bytes)

def sessionToken : Field := ⟨13, 64⟩

namespace RegisterRequest

def username : Field := ⟨0, 32⟩
def password : Field := ⟨32, 64⟩
def displayName : Field := ⟨96, 64⟩

end RegisterRequest

namespace LoginRequest

def username : Field := ⟨0, 32⟩
def password : Field := ⟨32, 64⟩

end LoginRequest

def SessionRequest.sessionToken : Field := ⟨0, 64⟩

inductive Use
  | log | usernameExists | hashPassword | createUser | getUserByUsername | verifyPassword
  | validateSession | deleteSession | setAuthenticated
deriving DecidableEq

structure Access where
  field : Field
  use : Use
deriving DecidableEq

inductive Handler
  | handleRegister | handleLogin | handleLogout | handleValidateSession
  | handleShipPlacement | handleMove | handleResign | handleDrawOffer | handleDrawResponse
  | handleRematchRequest | handleRematchResponse
deriving DecidableEq

namespace Handler

def ofType : UInt8 → Option Handler
  | 1 => some handleRegister
  | 2 => some handleLogin
  | 3 => some handleLogout
  | 5 => some handleValidateSession
  | 30 => some handleShipPlacement
  | 31 => some handleMove
  | 42 => some handleDrawOffer
  | 43 => some handleDrawResponse
  | 44 => some handleResign
  | 45 => some handleRematchRequest
  | 46 => some handleRematchResponse
  | _ => none

def requestSize : Handler → Nat
  | handleRegister => RequestBytes.registerRequest.size
  | handleLogin => RequestBytes.loginRequest.size
  | handleLogout | handleValidateSession => RequestBytes.sessionRequest.size
  | handleShipPlacement => RequestBytes.shipPlacementMessage.size
  | handleMove => RequestBytes.moveMessage.size
  | handleResign | handleDrawOffer | handleRematchRequest => RequestBytes.matchMessage.size
  | handleDrawResponse => RequestBytes.drawResponseMessage.size
  | handleRematchResponse => RequestBytes.rematchResponseMessage.size

/-- `deserialize` wants the exact size, the gameplay handler at least as much. -/
def takes (handler : Handler) (payload : Bytes) : Prop :=
  match handler with
  | handleRegister | handleLogin | handleLogout | handleValidateSession =>
      payload.length = handler.requestSize
  | _ => handler.requestSize ≤ payload.length

instance (handler : Handler) (payload : Bytes) : Decidable (handler.takes payload) :=
  match handler with
  | handleRegister | handleLogin | handleLogout | handleValidateSession =>
      inferInstanceAs (Decidable (payload.length = _))
  | handleShipPlacement | handleMove | handleResign | handleDrawOffer | handleDrawResponse
  | handleRematchRequest | handleRematchResponse =>
      inferInstanceAs (Decidable (_ ≤ payload.length))

end Handler

/-- `std::string(field)`: nothing where the read runs off the memory. -/
def Access.string (field : Field) (memory : Bytes) : Option Decimal.Text :=
  (Fields.cStringAt 0 memory field.offset).map Hashing.text

section Handlers

variable (db : Option Database) (now : Nat) (memory : Bytes)

def handleRegister : List Access :=
  [⟨RegisterRequest.username, .log⟩, ⟨RegisterRequest.displayName, .log⟩] ++
    match db with
    | none => []
    | some db => ⟨RegisterRequest.username, .usernameExists⟩ ::
        match Access.string RegisterRequest.username memory with
        | none => []
        | some username =>
            if db.usernameExists username then []
            else [⟨RegisterRequest.password, .hashPassword⟩,
              ⟨RegisterRequest.username, .createUser⟩, ⟨RegisterRequest.displayName, .createUser⟩]

def handleLogin : List Access :=
  ⟨LoginRequest.username, .log⟩ ::
    match db with
    | none => []
    | some db => ⟨LoginRequest.username, .getUserByUsername⟩ ::
        match Access.string LoginRequest.username memory with
        | none => []
        | some username =>
            match db.getUserByUsername username with
            | none => []
            | some _ => [⟨LoginRequest.password, .verifyPassword⟩]

def handleLogout : List Access :=
  ⟨SessionRequest.sessionToken, .log⟩ ::
    match db with
    | none => []
    | some _ => [⟨SessionRequest.sessionToken, .validateSession⟩,
        ⟨SessionRequest.sessionToken, .deleteSession⟩]

def handleValidateSession : List Access :=
  ⟨SessionRequest.sessionToken, .log⟩ ::
    match db with
    | none => []
    | some db => ⟨SessionRequest.sessionToken, .validateSession⟩ ::
        match Access.string SessionRequest.sessionToken memory with
        | none => []
        | some token =>
            match db.getUserById (db.validateSession now token).2 with
            | none => []
            | some _ => [⟨SessionRequest.sessionToken, .setAuthenticated⟩]

/-- Each function of the gameplay handler begins with `std::string token(header.session_token)`. -/
def validateToken : List Access := [⟨sessionToken, .validateSession⟩]

end Handlers

def Ends (field : Field) (struct : Bytes) : Prop := 0 ∈ field.bytes struct

def textOf (field : Field) (struct : Bytes) : Decimal.Text := Hashing.text (field.own 0 struct)

section Struct

variable {field : Field} {struct beyond : Bytes}

theorem within_iff (field : Field) (beyond : Bytes)
    (inside : field.offset + field.size ≤ struct.length) :
    field.Within 0 (struct ++ beyond) ↔ Ends field struct := by
  rw [Field.within_iff 0 (by rw [List.length_append]; omega), Field.bytes_append beyond inside]
  rfl

theorem string_eq (inside : field.offset + field.size ≤ struct.length) (ends : Ends field struct) :
    Access.string field (struct ++ beyond) = some (textOf field struct) := by
  have within := (within_iff field beyond inside).mpr ends
  rw [Access.string, within.1, Option.map_some, Field.own, Field.bytes_append beyond inside]
  rfl

theorem handleRegister_within (db : Option Database) (size : struct.length = 288) :
    (∀ access ∈ handleRegister db (struct ++ beyond), access.field.Within 0 (struct ++ beyond)) ↔
      Ends RegisterRequest.username struct ∧ Ends RegisterRequest.displayName struct ∧
        ∀ opened ∈ db, opened.usernameExists (textOf RegisterRequest.username struct) = false →
          Ends RegisterRequest.password struct := by
  have name := within_iff RegisterRequest.username beyond
    (size ▸ by decide : _ ≤ struct.length)
  have shown := within_iff RegisterRequest.displayName beyond
    (size ▸ by decide : _ ≤ struct.length)
  have secret := within_iff RegisterRequest.password beyond
    (size ▸ by decide : _ ≤ struct.length)
  constructor
  · intro bounded
    have ends : Ends RegisterRequest.username struct :=
      name.mp (bounded ⟨RegisterRequest.username, .log⟩ (by simp [handleRegister]))
    refine ⟨ends, shown.mp (bounded ⟨RegisterRequest.displayName, .log⟩
      (by simp [handleRegister])), ?_⟩
    rintro opened ⟨⟩ fresh
    refine secret.mp (bounded ⟨RegisterRequest.password, .hashPassword⟩ ?_)
    simp [handleRegister, string_eq (size ▸ by decide : _ ≤ struct.length) ends, fresh]
  · rintro ⟨ends, also, password⟩ access member
    have fields : access.field = RegisterRequest.username ∨
        access.field = RegisterRequest.displayName ∨
        access.field = RegisterRequest.password ∧ Ends RegisterRequest.password struct := by
      unfold handleRegister at member
      rw [string_eq (size ▸ by decide : _ ≤ struct.length) ends] at member
      cases db with
      | none => grind
      | some opened => grind
    rcases fields with same | same | ⟨same, held⟩
    · exact same ▸ name.mpr ends
    · exact same ▸ shown.mpr also
    · exact same ▸ secret.mpr held

theorem handleLogin_within (db : Option Database) (size : struct.length = 96) :
    (∀ access ∈ handleLogin db (struct ++ beyond), access.field.Within 0 (struct ++ beyond)) ↔
      Ends LoginRequest.username struct ∧
        ∀ opened ∈ db, opened.getUserByUsername (textOf LoginRequest.username struct) ≠ none →
          Ends LoginRequest.password struct := by
  have name := within_iff LoginRequest.username beyond
    (size ▸ by decide : _ ≤ struct.length)
  have secret := within_iff LoginRequest.password beyond
    (size ▸ by decide : _ ≤ struct.length)
  constructor
  · intro bounded
    have ends : Ends LoginRequest.username struct :=
      name.mp (bounded ⟨LoginRequest.username, .log⟩ (by simp [handleLogin]))
    refine ⟨ends, ?_⟩
    rintro opened ⟨⟩ known
    obtain ⟨user, found⟩ := Option.ne_none_iff_exists'.mp known
    refine secret.mp (bounded ⟨LoginRequest.password, .verifyPassword⟩ ?_)
    simp [handleLogin, string_eq (size ▸ by decide : _ ≤ struct.length) ends, found]
  · rintro ⟨ends, password⟩ access member
    have fields : access.field = LoginRequest.username ∨
        access.field = LoginRequest.password ∧ Ends LoginRequest.password struct := by
      unfold handleLogin at member
      rw [string_eq (size ▸ by decide : _ ≤ struct.length) ends] at member
      cases db with
      | none => grind
      | some opened => grind
    rcases fields with same | ⟨same, held⟩
    · exact same ▸ name.mpr ends
    · exact same ▸ secret.mpr held

/-- Where one array is all that is handed on, the condition is on that array. -/
theorem forall_within_iff {accesses : List Access}
    (inside : field.offset + field.size ≤ struct.length) (some : accesses ≠ [])
    (only : ∀ access ∈ accesses, access.field = field) :
    (∀ access ∈ accesses, access.field.Within 0 (struct ++ beyond)) ↔ Ends field struct := by
  rw [← within_iff field beyond inside]
  constructor
  · intro bounded
    obtain ⟨access, member⟩ := List.exists_mem_of_ne_nil _ some
    exact only access member ▸ bounded access member
  · intro within access member
    exact (only access member).symm ▸ within

theorem handleLogout_fields (db : Option Database) :
    ∀ access ∈ handleLogout db, access.field = SessionRequest.sessionToken := by
  intro access member
  unfold handleLogout at member
  grind

theorem handleValidateSession_fields (db : Option Database) (now : Nat) (memory : Bytes) :
    ∀ access ∈ handleValidateSession db now memory,
      access.field = SessionRequest.sessionToken := by
  intro access member
  unfold handleValidateSession at member
  grind

end Struct

/-- A message as a handler has it: the header and the copy of the request, each with the
memory behind it, and the database where it is open. -/
structure Incoming where
  header : Vector UInt8 77
  payload : Bytes
  behindHeader : Bytes
  behindRequest : Bytes
  now : Nat
  db : Option Database

namespace Incoming

variable (incoming : Incoming)

def handler : Option Handler :=
  (Handler.ofType (incoming.header[0])).filter fun handler => handler.takes incoming.payload

def memory : Handler → Bytes
  | .handleRegister | .handleLogin | .handleLogout | .handleValidateSession =>
      incoming.payload ++ incoming.behindRequest
  | _ => incoming.header.toList ++ incoming.behindHeader

def accesses (handler : Handler) : List Access :=
  match handler with
  | .handleRegister => handleRegister incoming.db (incoming.memory handler)
  | .handleLogin => handleLogin incoming.db (incoming.memory handler)
  | .handleLogout => handleLogout incoming.db
  | .handleValidateSession =>
      handleValidateSession incoming.db incoming.now (incoming.memory handler)
  | _ => validateToken

def Bounded : Prop :=
  ∀ handler ∈ incoming.handler, ∀ access ∈ incoming.accesses handler,
    access.field.Within 0 (incoming.memory handler)

/-- The arrays that the function for the message hands on have a NUL each. The password is
not looked at where the name decides the request. -/
def Terminated : Prop :=
  ∀ handler ∈ incoming.handler,
    match handler with
    | .handleRegister => Ends RegisterRequest.username incoming.payload ∧
        Ends RegisterRequest.displayName incoming.payload ∧
        ∀ db ∈ incoming.db,
          db.usernameExists (textOf RegisterRequest.username incoming.payload) = false →
            Ends RegisterRequest.password incoming.payload
    | .handleLogin => Ends LoginRequest.username incoming.payload ∧
        ∀ db ∈ incoming.db,
          db.getUserByUsername (textOf LoginRequest.username incoming.payload) ≠ none →
            Ends LoginRequest.password incoming.payload
    | .handleLogout | .handleValidateSession =>
        Ends SessionRequest.sessionToken incoming.payload
    | _ => Ends sessionToken incoming.header.toList

/-- A text of a request is read within its array exactly when the array has a NUL, and so it
is for the texts that are looked at. -/
theorem bounded_iff : incoming.Bounded ↔ incoming.Terminated := by
  refine forall₂_congr fun handler here => ?_
  have takes : handler.takes incoming.payload := by
    simpa using (Option.mem_filter_iff.mp here).2
  have header : sessionToken.offset + sessionToken.size ≤ incoming.header.toList.length := by
    rw [Vector.length_toList]
    decide
  have token : (∀ access ∈ validateToken,
      access.field.Within 0 (incoming.header.toList ++ incoming.behindHeader)) ↔
        Ends sessionToken incoming.header.toList :=
    forall_within_iff header (by simp [validateToken]) (by simp [validateToken])
  cases handler with
  | handleRegister => exact handleRegister_within incoming.db takes
  | handleLogin => exact handleLogin_within incoming.db takes
  | handleLogout =>
      exact forall_within_iff (takes.symm ▸ by decide) (List.cons_ne_nil _ _)
        (handleLogout_fields incoming.db)
  | handleValidateSession =>
      exact forall_within_iff (takes.symm ▸ by decide) (List.cons_ne_nil _ _)
        (handleValidateSession_fields incoming.db incoming.now _)
  | _ => exact token

def unterminatedLogin : Incoming where
  header := (Vector.replicate 77 0).set 0 2
  payload := List.replicate 32 97 ++ [98, 111, 98] ++ List.replicate 61 0
  behindHeader := []
  behindRequest := []
  now := 0
  db := some Database.initializeSchema

/-- The name that is looked up has the first letters of the password. -/
theorem unterminatedLogin_reads_on :
    unterminatedLogin.handler = some .handleLogin ∧
    Access.string LoginRequest.username (unterminatedLogin.memory .handleLogin) =
      some (List.replicate 32 'a' ++ "bob".toList) ∧
    ¬unterminatedLogin.Bounded := by
  refine ⟨by decide, by decide, fun bounded => ?_⟩
  have read : (⟨LoginRequest.username, .log⟩ : Access) ∈
      unterminatedLogin.accesses .handleLogin := List.mem_cons_self
  exact absurd (bounded .handleLogin (by decide) _ read) (by decide)

end Incoming

end Battleship.TextFields
