import Battleship.ServerInvariant
import Battleship.SignIns

/-! The tokens of sessions. A token says whose it is and fits its field, so a session
belongs to the user that its token was made for. -/

namespace Battleship

open Decimal (Text)

def hexChars : Text := "0123456789abcdef".toList

def IsHex (length : Nat) (text : Text) : Prop := text.length = length ∧ ∀ char ∈ text, char ∈ hexChars

instance (length : Nat) (text : Text) : Decidable (IsHex length text) :=
  decidable_of_iff (text.length = length ∧ text.all (fun char => hexChars.contains char) = true)
    (by simp [IsHex])

/-- What `generateSalt` and `generateSessionToken` make of their random numbers. -/
structure Env.Genuine (env : Env) : Prop where
  salt : IsHex 32 env.salt
  tokenSuffix : IsHex 32 env.tokenSuffix

instance (env : Env) : Decidable env.Genuine :=
  decidable_of_iff (IsHex 32 env.salt ∧ IsHex 32 env.tokenSuffix)
    ⟨fun both => ⟨both.1, both.2⟩, fun genuine => ⟨genuine.1, genuine.2⟩⟩

structure IssuedTo (userId : UserId) (token : Text) : Prop where
  shape : ∃ suffix, token = "token_".toList ++ Decimal.write userId ++ '_' :: suffix
  long : 32 ≤ token.length
  fits : token.length < 64

theorem generateSessionToken_issued {env : Env} (genuine : env.Genuine) {userId : UserId}
    (narrow : userId < 2 ^ 32) : IssuedTo userId (generateSessionToken env userId) := by
  have digits : (Decimal.write userId).length ≤ 10 :=
    (Nat.length_toDigits_le_iff (by decide) (by decide)).mpr (narrow.trans (by decide))
  have length : (generateSessionToken env userId).length =
      6 + (Decimal.write userId).length + (1 + 32) := by
    unfold generateSessionToken
    rw [List.length_append, List.length_append, List.length_cons, genuine.tokenSuffix.1]
    rw [show "token_".toList.length = 6 from rfl, Nat.add_assoc, Nat.add_comm 32]
  exact ⟨⟨env.tokenSuffix, rfl⟩, by omega, by omega⟩

theorem IssuedTo.safeStrCopy {userId : UserId} {token : Text} (issued : IssuedTo userId token) :
    safeStrCopy 64 token = token := List.take_of_length_le (Nat.le_pred_of_lt issued.fits)

theorem IssuedTo.user {first second : UserId} {token : Text} (early : IssuedTo first token)
    (late : IssuedTo second token) : first = second := by
  obtain ⟨suffix, rfl⟩ := early.shape
  obtain ⟨suffix', same⟩ := late.shape
  have separator (userId : UserId) : '_' ∉ Decimal.write userId :=
    Decimal.not_mem_write (by decide) (by decide)
  rw [List.append_assoc, List.append_assoc] at same
  replace same := List.append_cancel_left same
  have read := Decimal.getline_append suffix (separator first)
  rw [same, Decimal.getline_append suffix' (separator second)] at read
  have digits : Nat.toDigits 10 second = Nat.toDigits 10 first :=
    congrArg Prod.fst (Option.some.inj read)
  rw [← Decimal.valueOf_toDigits first, ← digits, Decimal.valueOf_toDigits]

namespace Database

theorem Leaves.sessionsKept {now : Nat} {db later : Database} (leaves : db.Leaves now later)
    (kept : db.SessionsKept) : later.SessionsKept :=
  ⟨kept.tokens.sublist leaves.sessions, leaves.nextSession ▸ kept.nextSession⟩

end Database

namespace Server

variable {lib : Externals} {server later : Server} {event : Event}

theorem SignStep.sessionsKept (signs : SignStep lib event server later)
    (kept : server.db.SessionsKept) : later.db.SessionsKept := by
  cases signs with
  | ordinary ordinary => exact ordinary.db.sessionsKept kept
  | registered username passwordHash displayName _ _ db =>
      rw [db, Database.createUser]
      split
      · exact kept
      · exact ⟨kept.tokens, kept.nextSession⟩
  | loggedIn conn userId _ _ db => exact db.sessionsKept (kept.createSession ..)
  | validated conn token session _ _ db => exact db.sessionsKept kept
  | loggedOut conn header token _ _ _ db =>
      exact db.sessionsKept ((kept.validateSession ..).filter _)
  | connected _ _ db => exact db ▸ kept

theorem sessionsKept_init : init.db.SessionsKept := ⟨List.Pairwise.nil, Nat.one_pos⟩

variable (lib) in
theorem step_sessionsKept (server : Server) (event : Event) (kept : server.db.SessionsKept) :
    (server.step lib event).db.SessionsKept :=
  (step_signs lib kept event).sessionsKept kept

theorem Reachable.sessionsKept (reachable : server.Reachable lib) : server.db.SessionsKept :=
  Reachable.induction lib (motive := fun server => server.db.SessionsKept) sessionsKept_init
    (step_sessionsKept lib) reachable

structure Genuine (server : Server) (event : Event) : Prop where
  env : event.env.Genuine
  users : server.db.nextUserId ≤ 2 ^ 32

instance (server : Server) (event : Event) : Decidable (server.Genuine event) :=
  decidable_of_iff (event.env.Genuine ∧ server.db.nextUserId ≤ 2 ^ 32)
    ⟨fun both => ⟨both.1, both.2⟩, fun genuine => ⟨genuine.1, genuine.2⟩⟩

structure Issues (server : Server) : Prop where
  sessions : ∀ session ∈ server.db.sessions, IssuedTo session.userId session.sessionToken
  accounts : ∀ conn userId token, server.net.account conn = some (userId, token) →
    IssuedTo userId token

theorem SignStep.issues (signs : SignStep lib event server later) (good : server.WellFormed)
    (genuine : server.Genuine event) (issues : server.Issues) : later.Issues := by
  have issued {userId : UserId} {token : Text} (login : server.LogsIn lib event userId token) :
      IssuedTo userId token := by
    have narrow : userId < 2 ^ 32 :=
      lt_of_lt_of_le (good.db.users userId login.hasUser).2 genuine.users
    obtain ⟨_, _, _, _, -, -, -, rfl⟩ := login
    exact generateSessionToken_issued genuine.env narrow
  constructor
  · intro session member
    rcases signs.sourced.sessions session member with old | ⟨login, -⟩
    · exact issues.sessions session old
    · exact issued login
  · intro conn userId token known
    rcases signs.sourced.accounts conn userId token known with
      (⟨other, account⟩ | ⟨session, row, rfl, rfl⟩) | login
    · exact issues.accounts other userId token account
    · exact issues.sessions session row
    · exact issued login

def Backs (server : Server) (message : Sent) : Prop :=
  NotSignIn message ∨ ∃ userId token, server.net.account message.conn = some (userId, token) ∧
    Attests userId token message.payload

theorem SignStep.attests (signs : SignStep lib event server later) :
    ∃ added, later.net.sent = server.net.sent ++ added ∧
      ∀ message ∈ added, later.Backs message := by
  have told {conn : ConnId} {userId : UserId} {token : Text}
      (signs : SignsIn conn userId token server later) :
      server.net.Transmits later.Backs later.net := by
    refine signs.sent.mono fun message allowed => allowed.imp_right ?_
    rintro ⟨rfl, attests⟩
    exact ⟨userId, token, by rw [signs.account, Function.update_self], attests⟩
  have quiet (sent : server.net.Transmits NotSignIn later.net) :
      server.net.Transmits later.Backs later.net := sent.mono fun _ silent => Or.inl silent
  cases signs with
  | ordinary ordinary => exact (quiet ordinary.sent).sent
  | registered username passwordHash displayName sent _ _ => exact (quiet sent).sent
  | loggedIn conn userId _ signs _ => exact (told signs).sent
  | validated conn token session _ signs _ => exact (told signs).sent
  | loggedOut conn header token _ sent _ _ => exact (quiet sent).sent
  | connected sent _ _ => exact ⟨[], by simp [sent], by simp⟩

end Server

end Battleship
