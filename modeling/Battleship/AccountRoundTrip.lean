import Battleship.AfterLogout
import Battleship.ClientNetwork
import Battleship.FrameLengths
import Battleship.Library.Fields
import Battleship.SessionTokens

/-! An account from its registration to a later login. Name and password go through
fields that cut them, the password is salted, hashed and stored; what comes out at the
login is the same again, and the token that the login returns stands for the user. -/

namespace Battleship

open Decimal (Text)

def nul : Char := Char.ofNat 0

section Requests

def registerRequest (username password displayName : Text) : Text :=
  Fields.field nul 32 username ++ Fields.field nul 64 password ++
    Fields.field nul 64 displayName ++ List.replicate 128 nul

def loginRequest (username password : Text) : Text :=
  Fields.field nul 32 username ++ Fields.field nul 64 password

def readRegister (payload : Text) : Request :=
  if payload.length = 288 then
    .register (Fields.fieldAt nul 0 32 payload) (Fields.fieldAt nul 32 64 payload)
      (Fields.fieldAt nul 96 64 payload)
  else .unread .authRegister

def readLogin (payload : Text) : Request :=
  if payload.length = 96 then
    .login (Fields.fieldAt nul 0 32 payload) (Fields.fieldAt nul 32 64 payload)
  else .unread .authLogin

def held (size : Nat) (text : Text) : Text := safeStrCopy size (Fields.cString nul text)

theorem fieldAt_field {offset size : Nat} (positive : 0 < size) (before text rest : Text)
    (here : before.length = offset) :
    Fields.fieldAt nul offset size (before ++ (Fields.field nul size text ++ rest)) =
      held size text := by
  have read := Fields.fieldAt_append nul before (Fields.field nul size text) rest
  rwa [here, Fields.field_length nul positive, Fields.cString_field, List.append_assoc] at read

theorem field32_length (text : Text) : (Fields.field nul 32 text).length = 32 :=
  Fields.field_length nul (by decide) text

theorem field64_length (text : Text) : (Fields.field nul 64 text).length = 64 :=
  Fields.field_length nul (by decide) text

theorem readRegister_registerRequest (username password displayName : Text) :
    readRegister (registerRequest username password displayName) =
      .register (held 32 username) (held 64 password) (held 64 displayName) := by
  let name := Fields.field nul 32 username
  let secret := Fields.field nul 64 password
  let shown := Fields.field nul 64 displayName
  let email := List.replicate 128 nul
  have layout : registerRequest username password displayName =
      name ++ (secret ++ (shown ++ email)) := by
    simp only [registerRequest, List.append_assoc, name, secret, shown, email]
  have size : (name ++ (secret ++ (shown ++ email))).length = 288 := by
    simp [name, secret, shown, email, field32_length, field64_length]
  have first : Fields.fieldAt nul 0 32 (name ++ (secret ++ (shown ++ email))) = held 32 username :=
    fieldAt_field (by decide) [] username _ rfl
  have second : Fields.fieldAt nul 32 64 (name ++ (secret ++ (shown ++ email))) =
      held 64 password := fieldAt_field (by decide) name password _ (field32_length username)
  have third : Fields.fieldAt nul 96 64 (name ++ (secret ++ (shown ++ email))) =
      held 64 displayName := by
    rw [← List.append_assoc]
    exact fieldAt_field (by decide) (name ++ secret) displayName _
      (by simp [name, secret, field32_length, field64_length])
  rw [readRegister, layout, if_pos size, first, second, third]

theorem readLogin_loginRequest (username password : Text) :
    readLogin (loginRequest username password) = .login (held 32 username) (held 64 password) := by
  have size : (loginRequest username password).length = 96 := by
    simp [loginRequest, field32_length, field64_length]
  have first : Fields.fieldAt nul 0 32 (loginRequest username password) = held 32 username :=
    fieldAt_field (by decide) [] username _ rfl
  have second : Fields.fieldAt nul 32 64 (loginRequest username password) = held 64 password := by
    rw [loginRequest, ← List.append_nil (Fields.field nul 64 password)]
    exact fieldAt_field (by decide) _ password [] (field32_length username)
  rw [readLogin, if_pos size, first, second]

/-- The requests are those of the client for the texts up to their first NUL. -/
theorem registerUser_request (callback : Callback) {client : ClientNetwork}
    (connected : client.isConnected = true) (username password displayName : Text) :
    (client.registerUser true callback (Fields.cString nul username) (Fields.cString nul password)
      (Fields.cString nul displayName)).2 =
        some (readRegister (registerRequest username password displayName)) := by
  rw [readRegister_registerRequest]
  simp [ClientNetwork.registerUser, ClientNetwork.request, connected, held]

theorem loginUser_request (callback : Callback) {client : ClientNetwork}
    (connected : client.isConnected = true) (username password : Text) :
    (client.loginUser true callback (Fields.cString nul username)
      (Fields.cString nul password)).2 = some (readLogin (loginRequest username password)) := by
  rw [readLogin_loginRequest]
  simp [ClientNetwork.loginUser, ClientNetwork.request, connected, held]

end Requests

namespace Database

structure NamesUnique (db : Database) : Prop where
  unique : ∀ first second name hash hash', db.credentials first = some (name, hash) →
    db.credentials second = some (name, hash') → first = second

variable {db : Database}

theorem credentials_of_member {userId : UserId} {user : User}
    (member : (userId, user) ∈ db.users.toList) :
    db.credentials userId = some (user.username, user.passwordHash) := by
  rw [Std.ExtTreeMap.mem_toList_iff_getElem?_eq_some] at member
  simp [credentials, member]

theorem NamesUnique.getUserByUsername (names : db.NamesUnique) {userId : UserId} {name hash : Text}
    (known : db.credentials userId = some (name, hash)) :
    ∃ user, db.getUserByUsername name = some (userId, user) ∧ user.passwordHash = hash := by
  obtain ⟨user, row, entry⟩ := Option.map_eq_some_iff.mp known
  obtain ⟨rfl, rfl⟩ := Prod.mk.inj entry
  cases found : db.getUserByUsername user.username with
  | none =>
      have listed := Std.ExtTreeMap.mem_toList_iff_getElem?_eq_some.mpr row
      have absent := List.find?_eq_none.mp (show db.users.toList.find? _ = none from found) _ listed
      simp at absent
  | some other =>
      obtain ⟨otherId, otherUser⟩ := other
      have hit := List.find?_some (show db.users.toList.find? _ = _ from found)
      have shown := credentials_of_member
        (List.mem_of_find?_eq_some (show db.users.toList.find? _ = _ from found))
      rw [of_decide_eq_true hit] at shown
      obtain rfl := names.unique _ _ _ _ _ shown known
      rw [shown, Option.some.injEq, Prod.mk.injEq] at known
      exact ⟨otherUser, rfl, known.2⟩

theorem credentials_of_new_name {username : Text} (fresh : db.usernameExists username = false)
    {userId : UserId} {hash : Text} : db.credentials userId ≠ some (username, hash) := by
  intro known
  obtain ⟨user, row, entry⟩ := Option.map_eq_some_iff.mp known
  obtain ⟨rfl, rfl⟩ := Prod.mk.inj entry
  have listed := Std.ExtTreeMap.mem_toList_iff_getElem?_eq_some.mpr row
  have absent := List.any_eq_false.mp fresh _ listed
  simp at absent

theorem createUser_credentials (now : Nat) {username : Text}
    (fresh : db.usernameExists username = false) (passwordHash displayName : Text) :
    (db.createUser now username passwordHash displayName).1.credentials =
      Function.update db.credentials db.nextUserId (some (username, passwordHash)) := by
  simp only [createUser, fresh, Bool.false_eq_true, if_false]
  exact Table.read_insert db.users (Option.map fun user => (user.username, user.passwordHash)) ..

end Database

namespace Server

variable {server later : Server} {event : Event}

/-- Credentials are only ever added, for a new user with a new name. -/
theorem SignStep.credentials (signs : SignStep lib event server later) :
    later.db.credentials = server.db.credentials ∨
      ∃ name hash, server.db.usernameExists name = false ∧
        later.db.credentials =
          Function.update server.db.credentials server.db.nextUserId (some (name, hash)) := by
  cases signs with
  | ordinary ordinary => exact Or.inl ordinary.db.credentials
  | registered username passwordHash displayName _ _ db =>
      cases exists_ : server.db.usernameExists username with
      | true =>
          left
          rw [db, Database.createUser, if_pos exists_]
      | false =>
          exact Or.inr ⟨username, passwordHash, exists_,
            db ▸ Database.createUser_credentials event.env.now exists_ passwordHash displayName⟩
  | loggedIn conn userId _ _ db =>
      refine Or.inl (db.credentials.trans ?_)
      rw [Database.createSession_eq]
      split <;> rfl
  | validated conn token session _ _ db => exact Or.inl db.credentials
  | loggedOut conn header token _ _ _ db =>
      have checked := Database.validateSession_leaves event.env.now server.db token
      exact Or.inl (db.credentials.trans checked.credentials)
  | connected _ _ db => exact Or.inl (db ▸ rfl)

theorem SignStep.namesUnique (signs : SignStep lib event server later) (names : server.db.NamesUnique) :
    later.db.NamesUnique := by
  rcases signs.credentials with same | ⟨name, hash, fresh, added⟩
  · exact ⟨same ▸ names.unique⟩
  · refine ⟨fun first second shown hash1 hash2 known1 known2 => ?_⟩
    have other (userId : UserId) (hash : Text) : server.db.credentials userId ≠ some (name, hash) :=
      Database.credentials_of_new_name fresh
    rw [added, Function.update_apply] at known1 known2
    split at known1
    next here =>
      obtain ⟨rfl, -⟩ := Prod.mk.inj (Option.some.inj known1)
      split at known2
      next there => rw [here, there]
      · exact absurd known2 (other second hash2)
    · split at known2
      · obtain ⟨rfl, -⟩ := Prod.mk.inj (Option.some.inj known2)
        exact absurd known1 (other first hash1)
      · exact names.unique first second shown hash1 hash2 known1 known2

theorem SignStep.keepsCredentials (signs : SignStep lib event server later)
    (good : server.db.WellFormed) {userId : UserId} {entry : Text × Text}
    (known : server.db.credentials userId = some entry) :
    later.db.credentials userId = some entry := by
  rcases signs.credentials with same | ⟨name, hash, _, added⟩
  · rw [same, known]
  · obtain ⟨user, row, _⟩ := Option.map_eq_some_iff.mp known
    have old : userId < server.db.nextUserId := (good.users userId (by simp [Database.HasUser, row])).2
    rw [added, Function.update_of_ne (Nat.ne_of_lt old), known]

/-- A session that has not expired is only lost to a logout with its token. -/
theorem SignStep.live (signs : SignStep lib event server later) {token : Text} {session : Session}
    (found : server.db.getSessionByToken token = some session)
    (unexpired : session.isExpired event.env.now = false)
    (stays : ∀ conn header, event.action ≠ .message conn header (.logout token)) :
    later.db.getSessionByToken token = some session := by
  cases signs with
  | ordinary ordinary => exact ordinary.db.live token session found unexpired
  | registered username passwordHash displayName _ _ db =>
      rw [db, Database.createUser]
      split <;> exact found
  | loggedIn conn userId _ _ db =>
      refine db.live token session ?_ unexpired
      rw [Database.createSession_eq]
      split
      · rw [Database.getSessionByToken] at found ⊢
        rw [List.find?_append, found, Option.some_or]
      · exact found
  | validated conn other row _ _ db => exact db.live token session found unexpired
  | loggedOut conn header other acted _ _ db =>
      have different : other ≠ token := by
        rintro rfl
        exact stays conn header acted
      refine db.live token session ?_ unexpired
      rw [Database.deleteSession_other _ different]
      exact (Database.validateSession_leaves event.env.now server.db other).live token session found
        unexpired
  | connected _ _ db => exact db ▸ found

theorem Reachable.namesUnique {lib : Externals} (reachable : server.Reachable lib) :
    server.db.NamesUnique := by
  refine (Reachable.induction lib
    (motive := fun server => server.db.SessionsKept ∧ server.db.NamesUnique) ⟨?_, ⟨?_⟩⟩ ?_
    reachable).2
  · exact (show init.Reachable lib from ⟨[], rfl⟩).sessionsKept
  · intro first second name hash hash' known
    simp [init, Database.initializeSchema, Database.credentials] at known
  · exact fun server event both =>
      ⟨(step_signs lib both.1 event).sessionsKept both.1,
        (step_signs lib both.1 event).namesUnique both.2⟩

def AnswersOn (conn : ConnId) (payload : Payload) (server later : Server) : Prop :=
  ∃ header rest, later.net.calls = server.net.calls ++ ⟨conn, header, payload⟩ :: rest

theorem AnswersOn.unique {conn conn' : ConnId} {payload payload' : Payload}
    (first : AnswersOn conn payload server later) (second : AnswersOn conn' payload' server later) :
    payload = payload' := by
  obtain ⟨header, rest, calls⟩ := first
  obtain ⟨header', rest', calls'⟩ := second
  rw [calls] at calls'
  have same := List.append_cancel_left calls'
  simp only [List.cons.injEq, Sent.mk.injEq] at same
  exact same.1.2.2

section Responses

variable (lib : Externals) (env : Env) (conn : ConnId)

theorem sendResponse_answers {middle : Server} (calls : middle.net.calls = server.net.calls)
    (payload : Payload) : AnswersOn conn payload server (middle.sendResponse env conn payload) := by
  refine ⟨stampedHeader env .authResponse payload, [], ?_⟩
  rw [← calls]
  exact Network.sendMessage_calls env _ payload conn middle.net

theorem addPlayer_answers {payload : Payload} (answers : AnswersOn conn payload server later)
    (userId : UserId) (username displayName : Text) (eloRating : Int) :
    AnswersOn conn payload server
      (later.addPlayer env conn userId username displayName eloRating) := by
  obtain ⟨header, rest, calls⟩ := answers
  obtain ⟨added, split, _⟩ := (Network.Tells.broadcast env later.net
    (statusUpdate_signsIn (later.players.insert userId ⟨username, displayName, eloRating, .available,
      conn⟩) userId .available) .playerStatusUpdate).sends.callsFramed
  refine ⟨header, rest ++ added, ?_⟩
  rw [calls, List.append_assoc, List.cons_append] at split
  exact split

theorem handleRegister_registered {username password displayName : Text} {userId : UserId}
    (answers : AnswersOn conn (.registerResponse true userId []) server
      (server.handleRegister lib env conn username password displayName)) :
    (server.handleRegister lib env conn username password displayName).db.credentials userId =
      some (username, PasswordHash.hashPassword lib env.salt password) := by
  unfold handleRegister at answers ⊢
  cases taken : server.db.usernameExists username with
  | true =>
      simp only [taken, if_true] at answers
      cases answers.unique (sendResponse_answers env conn rfl _)
  | false =>
      simp only [taken, Bool.false_eq_true, if_false] at answers ⊢
      split at answers
      next positive =>
        rw [if_pos positive]
        obtain rfl := (Payload.registerResponse.inj
          (answers.unique (sendResponse_answers env conn rfl _))).2.1
        change (server.db.createUser env.now username _ displayName).1.credentials _ = _
        rw [Database.createUser_credentials env.now taken]
        simp [Database.createUser, taken]
      · cases answers.unique (sendResponse_answers env conn rfl _)

variable {username password : Text} {userId : UserId} {user : User}
  (found : server.db.getUserByUsername username = some (userId, user))

include found

theorem handleLogin_refuses
    (wrong : PasswordHash.verifyPassword lib password user.passwordHash = false) :
    AnswersOn conn (loginRefused "Invalid password") server
      (server.handleLogin lib env conn username password) := by
  simp only [handleLogin, found, wrong, Bool.not_false, if_true]
  exact sendResponse_answers env conn rfl _

variable (right : PasswordHash.verifyPassword lib password user.passwordHash = true)

include right

theorem handleLogin_fails
    (refused : ¬server.db.Creates env.now userId (generateSessionToken env userId) 24) :
    AnswersOn conn (.loginResponse false userId (safeStrCopy 64 (generateSessionToken env userId))
        (safeStrCopy 64 user.displayName) user.eloRating
        (safeStrCopy 128 "Failed to create session".toList)) server
      (server.handleLogin lib env conn username password) := by
  simp only [Database.Creates, ne_eq, not_not] at refused
  simp only [handleLogin, found, right, Bool.not_true, Bool.false_eq_true, if_false, refused,
    gt_iff_lt, lt_irrefl]
  exact sendResponse_answers env conn rfl _

theorem handleLogin_admits
    (created : server.db.Creates env.now userId (generateSessionToken env userId) 24) :
    AnswersOn conn (.loginResponse true userId (safeStrCopy 64 (generateSessionToken env userId))
        (safeStrCopy 64 user.displayName) user.eloRating []) server
      (server.handleLogin lib env conn username password) ∧
    ∃ session, (server.handleLogin lib env conn username password).db.getSessionByToken
        (generateSessionToken env userId) = some session ∧ session.userId = userId ∧
      session.expiresAt = env.now + 24 * 3600 := by
  have positive := Nat.pos_of_ne_zero created
  simp only [handleLogin, found, right, Bool.not_true, Bool.false_eq_true, if_false, gt_iff_lt,
    positive, if_true]
  refine ⟨addPlayer_answers env conn (sendResponse_answers env conn rfl _) .., ?_⟩
  have free : server.db.window (generateSessionToken env userId) = none ∧
      server.db.HasUser userId := by
    by_contra taken
    rw [Database.Creates, Database.createSession_eq, if_neg taken] at created
    exact created rfl
  refine ⟨⟨server.db.nextSessionId, userId, generateSessionToken env userId, env.now,
    env.now + 24 * 3600⟩, ?_, rfl, rfl⟩
  change (server.db.createSession env.now userId _ 24).1.getSessionByToken _ = _
  rw [Database.createSession_eq, if_pos free]
  have absent : server.db.getSessionByToken (generateSessionToken env userId) = none := by
    simpa [Database.window] using free.1
  rw [Database.getSessionByToken] at absent ⊢
  rw [List.find?_append, absent, Option.none_or]
  simp

end Responses

section Sessions

def Undisturbed (token : Text) (expiresAt : Nat) (events : List Event) : Prop :=
  ∀ event ∈ events, event.env.now ≤ expiresAt ∧
    ∀ conn header, event.action ≠ .message conn header (.logout token)

theorem Reachable.live {lib : Externals} {token : Text} {session : Session} {expiresAt : Nat}
    (expires : session.expiresAt = expiresAt) {events : List Event} :
    ∀ {server : Server}, server.Reachable lib → Undisturbed token expiresAt events →
      server.db.getSessionByToken token = some session →
      (Machine.exec (Server.step lib) server events).db.getSessionByToken token = some session := by
  induction events with
  | nil => exact fun _ _ found => found
  | cons event events ih =>
      intro server reachable undisturbed found
      obtain ⟨early, stays⟩ := undisturbed event List.mem_cons_self
      have unexpired : session.isExpired event.env.now = false := by
        simpa [Session.isExpired, expires] using early
      have signs := step_signs lib reachable.sessionsKept event
      exact ih (reachable.step lib event)
        (fun later member => undisturbed later (List.mem_cons_of_mem event member))
        (signs.live found unexpired stays)

end Sessions

end Server

section Passwords

variable (lib : Externals) {salt : Text} (salted : IsHex 32 salt)

include salted

theorem not_mem_salt {char : Char} (other : char ∉ hexChars) : char ∉ salt :=
  fun member => other (salted.2 char member)

theorem verifyPassword_hashPassword (given password : Text) :
    PasswordHash.verifyPassword lib given (PasswordHash.hashPassword lib salt password) = true ↔
      lib.sha256 (salt ++ given) = lib.sha256 (salt ++ password) := by
  have clean : ∀ char ∈ salt, decide (char ≠ '$') = true := by
    intro char member
    rw [decide_eq_true_eq]
    rintro rfl
    exact not_mem_salt salted (by decide) member
  have nonempty : salt ≠ [] := by
    rintro rfl
    cases salted.1
  unfold PasswordHash.verifyPassword PasswordHash.hashPassword
  dsimp only
  rw [List.takeWhile_append_of_pos clean, List.dropWhile_append_of_pos clean]
  simp [nonempty]

/-- What is stored of a password is read back whole. -/
theorem cString_hashPassword (hex : ∀ text, IsHex 64 (lib.sha256 text)) (password : Text) :
    Fields.cString nul (PasswordHash.hashPassword lib salt password) =
      PasswordHash.hashPassword lib salt password := by
  refine Fields.cString_eq_self nul fun member => ?_
  rcases List.mem_append.mp member with inSalt | rest
  · exact not_mem_salt salted (by decide) inSalt
  rcases List.mem_cons.mp rest with same | inHash
  · exact absurd same (by decide)
  · exact absurd ((hex _).2 nul inHash) (by decide)

end Passwords

theorem cString_generateSessionToken {env : Env} (genuine : env.Genuine) (userId : UserId) :
    Fields.cString nul (generateSessionToken env userId) = generateSessionToken env userId := by
  refine Fields.cString_eq_self nul fun member => ?_
  rcases List.mem_append.mp member with front | rest
  · rcases List.mem_append.mp front with label | digits
    · exact absurd label (by decide)
    · exact Decimal.not_mem_write (by decide) (by decide) digits
  rcases List.mem_cons.mp rest with same | suffix
  · exact absurd same (by decide)
  · exact absurd (genuine.tokenSuffix.2 nul suffix) (by decide)

namespace Server

variable (lib : Externals)

/-- What a login under the name of the user comes to: the password in its field decides,
and the token that is returned stands for the user until the session ends. -/
structure Readmits (server : Server) (signIn : Event) (conn : ConnId) (userId : UserId)
    (name salt password given : Text) : Prop where
  refused : lib.sha256 (salt ++ given) ≠ lib.sha256 (salt ++ password) →
    AnswersOn conn (loginRefused "Invalid password") server (server.step lib signIn)
  passes : given = password → ∃ user, server.db.getUserByUsername name = some (userId, user) ∧
    Fields.cString nul user.passwordHash = user.passwordHash ∧
      PasswordHash.verifyPassword lib given user.passwordHash = true
  failed : given = password →
    ¬server.db.Creates signIn.env.now userId (generateSessionToken signIn.env userId) 24 →
      ∃ token displayName eloRating, AnswersOn conn (.loginResponse false userId token displayName
        eloRating (safeStrCopy 128 "Failed to create session".toList)) server
        (server.step lib signIn)
  admitted : given = password →
    server.db.Creates signIn.env.now userId (generateSessionToken signIn.env userId) 24 →
      ∃ token, Fields.cString nul (Fields.field nul 64 token) = token ∧
        (∃ displayName eloRating, AnswersOn conn
          (.loginResponse true userId token displayName eloRating []) server
          (server.step lib signIn)) ∧
        ∀ further, Undisturbed token (signIn.env.now + 24 * 3600) further →
          ∀ now ≤ signIn.env.now + 24 * 3600,
            ((Machine.exec (step lib) (server.step lib signIn) further).db.validateSession now
              token).2 = userId

theorem Receives.step_eq {server : Server} {event : Event} {conn : ConnId} {request : Request}
    (receives : server.Receives event conn request) :
    ∃ token client, server.net.connections[conn]? = some client ∧
      server.step lib event = server.routeMessage lib event.env conn client token request := by
  obtain ⟨token, client, acted, known, serving, connected⟩ := receives
  refine ⟨token, client, known, ?_⟩
  simp only [step, acted, known, serving, connected, and_self, if_true]

variable {lib}

theorem readmits_of_credentials {server : Server} {signIn : Event} {conn : ConnId}
    {userId : UserId} {name salt password given : Text} (reachable : server.Reachable lib)
    (hex : ∀ text, IsHex 64 (lib.sha256 text)) (salted : IsHex 32 salt)
    (genuine : server.Genuine signIn)
    (known : server.db.credentials userId =
      some (name, PasswordHash.hashPassword lib salt password))
    (received : server.Receives signIn conn (.login name given)) :
    server.Readmits lib signIn conn userId name salt password given := by
  obtain ⟨user, found, stored⟩ := reachable.namesUnique.getUserByUsername known
  obtain ⟨token, client, _, handled⟩ := received.step_eq lib
  have checked : PasswordHash.verifyPassword lib given user.passwordHash = true ↔
      lib.sha256 (salt ++ given) = lib.sha256 (salt ++ password) :=
    stored ▸ verifyPassword_hashPassword lib salted given password
  have right (same : given = password) :
      PasswordHash.verifyPassword lib given user.passwordHash = true :=
    checked.mpr (by rw [same])
  have listed : server.db.HasUser userId := by
    obtain ⟨row, here, _⟩ := Option.map_eq_some_iff.mp known
    simp [Database.HasUser, here]
  have narrow : userId < 2 ^ 32 :=
    lt_of_lt_of_le (reachable.wellFormed.db.users userId listed).2 genuine.users
  have issued := generateSessionToken_issued genuine.env narrow
  constructor
  · intro different
    rw [handled]
    refine handleLogin_refuses lib signIn.env conn found ?_
    exact Bool.eq_false_iff.mpr fun passed => different (checked.mp passed)
  · intro same
    exact ⟨user, found, stored ▸ cString_hashPassword lib salted hex password, right same⟩
  · intro same refused
    rw [handled]
    exact ⟨_, _, _, handleLogin_fails lib signIn.env conn found (right same) refused⟩
  · intro same created
    obtain ⟨answers, session, opened, owner, expires⟩ :=
      handleLogin_admits lib signIn.env conn found (right same) created
    rw [issued.safeStrCopy] at answers
    refine ⟨generateSessionToken signIn.env userId, ?_, ?_, ?_⟩
    · rw [Fields.cString_field, cString_generateSessionToken genuine.env]
      exact issued.safeStrCopy
    · rw [handled]
      exact ⟨_, _, answers⟩
    · intro further undisturbed now early
      have ends : session.expiresAt = ((signIn.env.now + 24 * 3600 : Nat) : Int) := by
        rw [expires]
        rfl
      have live := Reachable.live ends (reachable.step lib signIn) undisturbed (handled ▸ opened)
      have unexpired : session.isExpired now = false := by
        rw [Session.isExpired, ends, decide_eq_false_iff_not]
        exact not_lt.mpr (Int.ofNat_le.mpr early)
      simp only [Database.validateSession, live, unexpired, Bool.false_eq_true, if_false, owner]

theorem after_keepsCredentials {before : List Event} {userId : UserId} {entry : Text × Text}
    (known : (after lib before).db.credentials userId = some entry) (later : List Event) :
    (after lib (before ++ later)).db.credentials userId = some entry := by
  induction later using List.reverseRecOn with
  | nil => simpa using known
  | append_singleton later event ih =>
      have reachable := after_reachable lib (before ++ later)
      rw [← List.append_assoc, after_concat]
      exact (step_signs lib reachable.sessionsKept event).keepsCredentials reachable.wellFormed.db ih

/-- Whoever has registered can log in again with what the fields hold of the name and
the password, and with nothing that hashes differently. -/
theorem account_round_trip {before between : List Event} {signUp signIn : Event}
    {conn conn' : ConnId} {userId : UserId}
    {username password displayName username' password' : Text}
    (hex : ∀ text, IsHex 64 (lib.sha256 text)) (salted : IsHex 32 signUp.env.salt)
    (genuine : (after lib (before ++ signUp :: between)).Genuine signIn)
    (requested : (after lib before).Receives signUp conn
      (readRegister (registerRequest username password displayName)))
    (registered : AnswersOn conn (.registerResponse true userId []) (after lib before)
      (after lib (before ++ [signUp])))
    (received : (after lib (before ++ signUp :: between)).Receives signIn conn'
      (readLogin (loginRequest username' password')))
    (sameName : held 32 username' = held 32 username) :
    (after lib (before ++ signUp :: between)).Readmits lib signIn conn' userId
      (held 32 username') signUp.env.salt (held 64 password) (held 64 password') := by
  rw [readRegister_registerRequest] at requested
  rw [readLogin_loginRequest] at received
  obtain ⟨token, client, _, handled⟩ := requested.step_eq lib
  have signed : (after lib (before ++ [signUp])).db.credentials userId = some (held 32 username,
      PasswordHash.hashPassword lib signUp.env.salt (held 64 password)) := by
    rw [after_concat, handled] at registered ⊢
    exact handleRegister_registered lib signUp.env conn registered
  have known : (after lib (before ++ signUp :: between)).db.credentials userId =
      some (held 32 username,
        PasswordHash.hashPassword lib signUp.env.salt (held 64 password)) := by
    rw [List.append_cons]
    exact after_keepsCredentials signed between
  refine readmits_of_credentials (after_reachable lib _) hex salted genuine ?_ received
  rw [known, sameName]

end Server

namespace Script

open Server

def hexSha256 (text : Text) : Text :=
  if text = salt ++ "alice-pw".toList then sha256 text else List.replicate 64 '0'

theorem hexSha256_isHex (text : Text) : IsHex 64 (hexSha256 text) := by
  unfold hexSha256
  split
  next known =>
    rw [known]
    decide +kernel
  · decide

def hexLib : Externals := ⟨hexSha256, computeElo⟩

def aliceUp : Event := ⟨env 0, .message 0 []
  (readRegister (registerRequest "alice".toList "alice-pw".toList "Alice".toList))⟩

def aliceIn : Event := ⟨env 9, .message 0 []
  (readLogin (loginRequest ("alice".toList ++ nul :: "!".toList) "alice-pw".toList))⟩

def aliceConnected : ClientConnection where
  socketFd := some 5
  authenticated := false
  userId := 0
  sessionToken := []
  threadFd := 5
  serving := true

theorem account_round_trip_alice :
    (after hexLib [⟨env 0, .accept 5⟩, aliceUp]).Readmits hexLib aliceIn 0 alice
      (held 32 ("alice".toList ++ nul :: "!".toList)) salt (held 64 "alice-pw".toList)
      (held 64 "alice-pw".toList) := by
  have connected : (after hexLib [⟨env 0, .accept 5⟩]).net.connections[0]? = some aliceConnected := by
    decide +kernel
  have still : (after hexLib [⟨env 0, .accept 5⟩, aliceUp]).net.connections[0]? =
      some aliceConnected := by decide +kernel
  have confirmed : (after hexLib [⟨env 0, .accept 5⟩, aliceUp]).net.calls =
      (after hexLib [⟨env 0, .accept 5⟩]).net.calls ++
        [⟨0, stampedHeader (env 0) .authResponse (.registerResponse true alice []),
          .registerResponse true alice []⟩] := by decide +kernel
  have genuine : (after hexLib [⟨env 0, .accept 5⟩, aliceUp]).Genuine aliceIn := by decide +kernel
  have requested : (after hexLib [⟨env 0, .accept 5⟩]).Receives aliceUp 0
      (readRegister (registerRequest "alice".toList "alice-pw".toList "Alice".toList)) :=
    ⟨[], aliceConnected, rfl, connected, rfl, rfl⟩
  have received : (after hexLib [⟨env 0, .accept 5⟩, aliceUp]).Receives aliceIn 0
      (readLogin (loginRequest ("alice".toList ++ nul :: "!".toList) "alice-pw".toList)) :=
    ⟨[], aliceConnected, rfl, still, rfl, rfl⟩
  have registered : AnswersOn 0 (.registerResponse true alice []) (after hexLib [⟨env 0, .accept 5⟩])
      (after hexLib [⟨env 0, .accept 5⟩, aliceUp]) := ⟨_, [], confirmed⟩
  exact @account_round_trip hexLib [⟨env 0, .accept 5⟩] [] aliceUp aliceIn 0 0 alice _ _ _ _ _
    hexSha256_isHex (by decide +kernel) genuine requested registered received (by decide +kernel)

end Script

end Battleship
