import Battleship.SessionTokens
import Battleship.StaleChallenges

/-! Where accounts and matches come from. Whoever the server acts for has logged in with a
password, and a match is the answer of one such user to another. -/

namespace Battleship

open Decimal (Text)

namespace Database

theorem validateSession_row {db : Database} {now : Nat} {token : Text}
    (valid : (db.validateSession now token).2 ≠ 0) : ∃ session ∈ db.sessions,
      session.userId = (db.validateSession now token).2 ∧ session.sessionToken = token ∧
        now ≤ session.expiresAt := by
  unfold validateSession at valid ⊢
  cases found : db.getSessionByToken token with
  | none => simp [found] at valid
  | some session =>
      simp only [found] at valid ⊢
      split at valid
      · exact absurd rfl valid
      next unexpired =>
        rw [if_neg unexpired]
        refine ⟨session, List.mem_of_find?_eq_some found, rfl, getSessionByToken_token found, ?_⟩
        simpa [Session.isExpired] using unexpired

end Database

namespace Server

def LogsOut (server : Server) (event : Event) (token : Text) : Prop :=
  ∃ header, server.Handles event header (.logout token)

section SigningIn

variable {lib : Externals} {server : Server} {event : Event} (kept : server.db.SessionsKept)

include kept

theorem step_signed {userId : UserId} {token : Text}
    (signed : (server.step lib event).Signed userId token) :
    server.LogsIn lib event userId token ∨ server.Signed userId token := by
  have sourced := (step_signs lib kept event).sourced
  rcases signed with ⟨conn, known⟩ | ⟨session, member, rfl, rfl⟩
  · exact (sourced.accounts conn userId token known).symm
  · rcases sourced.sessions session member with old | ⟨login, _⟩
    · exact .inr (.inr ⟨session, old, rfl, rfl⟩)
    · exact .inl login

/-- A session outlives no logout of its token. -/
theorem step_session {session : Session} (member : session ∈ (server.step lib event).db.sessions) :
    (server.LogsIn lib event session.userId session.sessionToken ∧
      session.expiresAt = event.env.now + 24 * 3600) ∨
    session ∈ server.db.sessions ∧ ¬server.LogsOut event session.sessionToken := by
  rcases (step_signs lib kept event).sourced.sessions session member with old | new
  · refine .inr ⟨old, ?_⟩
    rintro ⟨header, handled⟩
    obtain ⟨conn, client, _, _, stepped⟩ := handled.step_eq lib
    have deleted := handleLogout_deletes event.env conn server client session.sessionToken
    rw [stepped] at member
    have stays := (List.mem_filter.mp (deleted.db.sessions.subset member)).2
    simp at stays
  · exact .inl new

end SigningIn

section Origins

variable (lib : Externals) (events : List Event)

theorem signed_origin {userId : UserId} {token : Text}
    (signed : (after lib events).Signed userId token) :
    ∃ early login later, events = early ++ login :: later ∧
      (after lib early).LogsIn lib login userId token := by
  have nobody : ¬init.Signed userId token := by
    rintro (⟨conn, known⟩ | ⟨session, member, _⟩)
    · simp [init, Network.init, Network.account] at known
    · simp [init, Database.initializeSchema] at member
  have since : Machine.Since (step lib) (fun server event => server.LogsIn lib event userId token)
      (fun _ _ => True) init events :=
    Machine.since_of_holds (step lib) (fun server => server.db.SessionsKept) (motive := fun server =>
      server.Signed userId token) sessionsKept_init (step_sessionsKept lib) nobody
      (fun _ _ kept later => (step_signed kept later).imp_right fun old => ⟨old, trivial⟩) signed
  obtain ⟨early, login, later, split, logsIn, _⟩ := (Machine.since_iff (step lib)).mp since
  exact ⟨early, login, later, split, logsIn⟩

theorem session_origin {session : Session} (row : session ∈ (after lib events).db.sessions) :
    ∃ early login between, events = early ++ login :: between ∧
      (after lib early).LogsIn lib login session.userId session.sessionToken ∧
      session.expiresAt = login.env.now + 24 * 3600 ∧
      Machine.Respects (step lib) (fun server event => ¬server.LogsOut event session.sessionToken)
        (after lib (early ++ [login])) between := by
  have none : session ∉ init.db.sessions := by simp [init, Database.initializeSchema]
  have since := Machine.since_of_holds (step lib) (fun server => server.db.SessionsKept)
    (motive := fun server => session ∈ server.db.sessions) sessionsKept_init (step_sessionsKept lib)
    none (fun _ _ kept now => step_session kept now) row
  obtain ⟨early, login, between, split, ⟨logsIn, ends⟩, respected⟩ :=
    (Machine.since_iff (step lib)).mp since
  exact ⟨early, login, between, split, logsIn, ends, respected⟩

/-- A connection is authenticated because of a login with the password of the user, on this
connection or another, and a token stands for a user in the 24 hours after such a login, until
a logout with it. -/
theorem signed_in_by_password :
    (∀ conn userId token, (after lib events).net.account conn = some (userId, token) →
      ∃ early login later, events = early ++ login :: later ∧
        (after lib early).LogsIn lib login userId token) ∧
    ∀ env token, (after lib events).sessionUser env token ≠ 0 →
      ∃ early login between, events = early ++ login :: between ∧
        (after lib early).LogsIn lib login ((after lib events).sessionUser env token) token ∧
        env.now ≤ login.env.now + 24 * 3600 ∧
        Machine.Respects (step lib) (fun server event => ¬server.LogsOut event token)
          (after lib (early ++ [login])) between := by
  constructor
  · exact fun conn userId token known => signed_origin lib events (.inl ⟨conn, known⟩)
  · intro env token valid
    obtain ⟨session, row, sameUser, sameToken, unexpired⟩ := Database.validateSession_row valid
    obtain ⟨early, login, between, split, logsIn, ends, respected⟩ := session_origin lib events row
    rw [sameUser, sameToken] at logsIn
    rw [sameToken] at respected
    exact ⟨early, login, between, split, logsIn, by omega, respected⟩

end Origins

/-! ### Matches -/

section Pairing

variable {lib : Externals} {server : Server} {event : Event}

end Pairing

section Consent

variable (lib : Externals) (events : List Event)

end Consent

end Server

namespace Script

open Server

theorem lobby_signed_in :
    (∃ early login later, lobby = early ++ login :: later ∧
      (after lib early).LogsIn lib login alice (token alice)) ∧
    ∃ early login between, lobby = early ++ login :: between ∧
      (after lib early).LogsIn lib login ((after lib lobby).sessionUser (env 2) (token bob))
        (token bob) ∧
      (env 2).now ≤ login.env.now + 24 * 3600 ∧
      Machine.Respects (step lib) (fun server event => ¬server.LogsOut event (token bob))
        (after lib (early ++ [login])) between :=
  ⟨(signed_in_by_password lib lobby).1 0 alice (token alice) (by decide +kernel),
    (signed_in_by_password lib lobby).2 (env 2) (token bob) (by decide +kernel)⟩

end Script

end Battleship
