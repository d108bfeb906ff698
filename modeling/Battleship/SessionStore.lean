import Battleship.DatabaseFacts
import Battleship.Library.Machine

/-! The session store of `database.cpp`. Expired rows go when a call comes across
them, so what is in the table depends on which calls were made; what a token
stands for is the window that its last creation opened, as long as nothing
closed it. -/

namespace Battleship

open Decimal (Text)

inductive SessionCall
  | createSession (userId : UserId) (token : Text) (durationHours : Int)
  | validateSession (token : Text)
  | deleteSession (token : Text)
  | deleteUserSessions (userId : UserId)
  | cleanupExpiredSessions

structure TimedCall where
  now : Nat
  call : SessionCall

def ClockOrdered (calls : List TimedCall) : Prop :=
  calls.Pairwise fun early late => early.now ≤ late.now

theorem ClockOrdered.le_last {calls : List TimedCall} {last : TimedCall}
    (ordered : ClockOrdered (calls ++ [last])) : ∀ timed ∈ calls, timed.now ≤ last.now :=
  fun timed member => (List.pairwise_append.mp ordered).2.2 timed member last (by simp)

theorem find?_filter_of_unique {Row : Type} {test kept : Row → Bool} : ∀ {rows : List Row},
    rows.Pairwise (fun first second => test first = true → test second = true → False) →
    (rows.filter kept).find? test = (rows.find? test).filter kept := by
  intro rows
  induction rows with
  | nil => exact fun _ => rfl
  | cons row rows ih =>
      intro unique
      obtain ⟨alone, others⟩ := List.pairwise_cons.mp unique
      cases found : test row with
      | false => cases stays : kept row <;> simp [found, stays, ih others]
      | true =>
          have absent : rows.find? test = none := by
            rw [List.find?_eq_none]
            exact fun other member hit => alone other member found hit
          cases stays : kept row with
          | false => simp [found, stays, ih others, absent, Option.filter]
          | true => simp [found, stays, Option.filter]

namespace Database

def window (db : Database) (token : Text) : Option (UserId × Int) :=
  (db.getSessionByToken token).map fun session => (session.userId, session.expiresAt)

structure SessionsKept (db : Database) : Prop where
  tokens : db.sessions.Pairwise fun first second => first.sessionToken ≠ second.sessionToken
  nextSession : 0 < db.nextSessionId

section Windows

variable {db : Database}

theorem getSessionByToken_filter (kept : db.SessionsKept) (stays : Session → Bool) (token : Text) :
    { db with sessions := db.sessions.filter stays }.getSessionByToken token =
      (db.getSessionByToken token).filter stays := by
  apply find?_filter_of_unique
  refine kept.tokens.imp fun differ first second => differ ?_
  rw [of_decide_eq_true first, of_decide_eq_true second]

theorem getSessionByToken_token {token : Text} {session : Session}
    (found : db.getSessionByToken token = some session) : session.sessionToken = token := by
  have hit := List.find?_some (show db.sessions.find? _ = _ from found)
  simpa using hit

theorem window_none_iff (token : Text) :
    db.window token = none ↔ ∀ session ∈ db.sessions, session.sessionToken ≠ token := by
  simp [window, getSessionByToken]

theorem SessionsKept.filter (kept : db.SessionsKept) (stays : Session → Bool) :
    { db with sessions := db.sessions.filter stays }.SessionsKept :=
  ⟨kept.tokens.filter stays, kept.nextSession⟩

theorem window_filter (kept : db.SessionsKept) (stays : Session → Bool)
    (test : UserId × Int → Bool)
    (reads : ∀ session, stays session = test (session.userId, session.expiresAt)) (token : Text) :
    { db with sessions := db.sessions.filter stays }.window token =
      (db.window token).filter test := by
  rw [window, getSessionByToken_filter kept, window]
  cases db.getSessionByToken token with
  | none => rfl
  | some session =>
      simp only [Option.filter, Option.map_some, ← reads]
      split <;> rfl

theorem deleteSession_window (kept : db.SessionsKept) (token other : Text) :
    (db.deleteSession token).window other = if token = other then none else db.window other := by
  rw [window, deleteSession, getSessionByToken_filter kept, window]
  cases found : db.getSessionByToken other with
  | none => simp
  | some session =>
      obtain rfl := getSessionByToken_token found
      by_cases same : token = session.sessionToken
      · simp [same, Option.filter]
      · simp [same, Ne.symm same, Option.filter]

theorem deleteUserSessions_window (kept : db.SessionsKept) (userId : UserId) (token : Text) :
    (db.deleteUserSessions userId).window token =
      (db.window token).filter fun window => decide (window.1 ≠ userId) :=
  window_filter kept _ (fun window => decide (window.1 ≠ userId)) (fun _ => rfl) token

theorem cleanupExpiredSessions_window (kept : db.SessionsKept) (now : Nat) (token : Text) :
    (db.cleanupExpiredSessions now).1.window token =
      (db.window token).filter fun window => !decide (window.2 < (now : Int)) :=
  window_filter kept _ (fun window => !decide (window.2 < (now : Int))) (fun _ => rfl) token

theorem validateSession_window (kept : db.SessionsKept) (now : Nat) (token other : Text) :
    (db.validateSession now token).1.window other =
      if token = other then (db.window other).filter fun window => !decide (window.2 < (now : Int))
      else db.window other := by
  unfold validateSession
  cases found : db.getSessionByToken token with
  | none =>
      dsimp only
      split
      next same =>
        subst same
        simp [window, found]
      · rfl
  | some session =>
      dsimp only
      by_cases expired : session.isExpired now = true
      · have late : session.expiresAt < (now : Int) := by simpa [Session.isExpired] using expired
        rw [if_pos expired, deleteSession_window kept]
        split
        next same =>
          subst same
          simp [window, found, Option.filter, late]
        · rfl
      · have early : ¬session.expiresAt < (now : Int) := by simpa [Session.isExpired] using expired
        rw [if_neg expired]
        split
        next same =>
          subst same
          simp [window, found, Option.filter, early]
        · rfl

theorem validateSession_user (now : Nat) (token : Text) :
    (db.validateSession now token).2 =
      match db.window token with
      | none => 0
      | some (userId, expiresAt) => if expiresAt < (now : Int) then 0 else userId := by
  unfold validateSession window
  cases db.getSessionByToken token with
  | none => rfl
  | some session =>
      simp only [Session.isExpired, Option.map_some, gt_iff_lt, decide_eq_true_eq]
      split <;> rfl

def Creates (db : Database) (now : Nat) (userId : UserId) (token : Text) (hours : Int) : Prop :=
  (db.createSession now userId token hours).2 ≠ 0

instance (now : Nat) (userId : UserId) (token : Text) (hours : Int) :
    Decidable (db.Creates now userId token hours) := inferInstanceAs (Decidable (_ ≠ _))

theorem createSession_eq (now : Nat) (userId : UserId) (token : Text) (hours : Int) :
    db.createSession now userId token hours =
      if db.window token = none ∧ db.HasUser userId then
        ({ db with
            sessions := db.sessions ++
              [⟨db.nextSessionId, userId, token, now, now + sessionSeconds hours⟩]
            nextSessionId := db.nextSessionId + 1 }, db.nextSessionId)
      else (db, 0) := by
  have taken : (db.sessions.any fun session => session.sessionToken = token) = true ↔
      ¬db.window token = none := by
    simp [window_none_iff]
  unfold createSession
  by_cases free : db.window token = none ∧ db.HasUser userId
  · rw [if_neg, if_pos free]
    rw [Bool.or_eq_true, taken]
    simpa [HasUser, Option.isSome_iff_ne_none] using free
  · rw [if_pos, if_neg free]
    rw [Bool.or_eq_true, taken]
    simp only [HasUser, Option.isSome_iff_ne_none] at free
    simp only [Option.isNone_iff_eq_none]
    tauto

theorem creates_iff (kept : db.SessionsKept) (now : Nat) (userId : UserId) (token : Text)
    (hours : Int) : db.Creates now userId token hours ↔ db.window token = none ∧ db.HasUser userId := by
  rw [Creates, createSession_eq]
  split
  next free => exact iff_of_true (Nat.ne_of_gt kept.nextSession) free
  next refused => exact iff_of_false (by simp) refused

theorem createSession_window (kept : db.SessionsKept) (now : Nat) (userId : UserId)
    (token other : Text) (hours : Int) :
    (db.createSession now userId token hours).1.window other =
      if db.Creates now userId token hours ∧ token = other then
        some (userId, now + sessionSeconds hours)
      else db.window other := by
  simp only [creates_iff kept]
  rw [createSession_eq]
  by_cases free : db.window token = none ∧ db.HasUser userId
  · rw [if_pos free]
    by_cases same : token = other
    · subst same
      have none : db.sessions.find? (fun session => session.sessionToken = token) = none := by
        simpa [window, getSessionByToken] using free.1
      simp [window, getSessionByToken, free, none]
    · simp [window, getSessionByToken, same]
  · rw [if_neg free, if_neg fun both => free both.1]

end Windows

section Calls

variable {db : Database}

theorem SessionsKept.createSession (kept : db.SessionsKept) (now : Nat) (userId : UserId)
    (token : Text) (hours : Int) : (db.createSession now userId token hours).1.SessionsKept := by
  rw [createSession_eq]
  split
  next free =>
    refine ⟨?_, Nat.succ_pos _⟩
    rw [List.pairwise_append]
    refine ⟨kept.tokens, by simp, ?_⟩
    intro session member added last
    obtain rfl := List.mem_singleton.mp last
    exact (window_none_iff token).mp free.1 session member
  · exact kept

theorem SessionsKept.validateSession (kept : db.SessionsKept) (now : Nat) (token : Text) :
    (db.validateSession now token).1.SessionsKept := by
  unfold Database.validateSession
  split
  · exact kept
  split
  · exact kept.filter _
  · exact kept

end Calls

end Database

namespace SessionStore

def step (db : Database) (timed : TimedCall) : Database :=
  match timed.call with
  | .createSession userId token hours => (db.createSession timed.now userId token hours).1
  | .validateSession token => (db.validateSession timed.now token).1
  | .deleteSession token => db.deleteSession token
  | .deleteUserSessions userId => db.deleteUserSessions userId
  | .cleanupExpiredSessions => (db.cleanupExpiredSessions timed.now).1

abbrev run (db : Database) (calls : List TimedCall) : Database := Machine.exec step db calls

def Grants (token : Text) (userId : UserId) (time : Nat) (db : Database) (timed : TimedCall) : Prop :=
  ∃ hours, timed.call = .createSession userId token hours ∧
    db.Creates timed.now userId token hours ∧
      (time : Int) ≤ timed.now + Database.sessionSeconds hours

def Supersedes (token : Text) (userId : UserId) (db : Database) (timed : TimedCall) : Prop :=
  match timed.call with
  | .createSession owner named hours => named = token ∧ db.Creates timed.now owner named hours
  | .deleteSession named => named = token
  | .deleteUserSessions owner => owner = userId
  | .validateSession _ | .cleanupExpiredSessions => False

/-- The last session that was created for the token is one of the user that lasts
until `time`, and neither it nor all of the user's sessions were deleted since. -/
def Stands (db : Database) (calls : List TimedCall) (token : Text) (userId : UserId) (time : Nat) :
    Prop :=
  Machine.Since step (Grants token userId time)
    (fun db timed => ¬Supersedes token userId db timed) db calls

def Passive (timed : TimedCall) : Prop :=
  match timed.call with
  | .validateSession _ | .cleanupExpiredSessions => True
  | .createSession .. | .deleteSession _ | .deleteUserSessions _ => False

/-- The second sequence is the first with passive calls inserted. -/
inductive Padded : List TimedCall → List TimedCall → Prop
  | nil : Padded [] []
  | both {calls longer : List TimedCall} (timed : TimedCall) (padded : Padded calls longer) :
      Padded (calls ++ [timed]) (longer ++ [timed])
  | inserted {calls longer : List TimedCall} (timed : TimedCall) (passive : Passive timed)
      (padded : Padded calls longer) : Padded calls (longer ++ [timed])

def MeetsExpired (token : Text) (db : Database) (timed : TimedCall) : Prop :=
  (∃ userId hours, timed.call = .createSession userId token hours) ∧
    ∃ userId expiresAt, db.window token = some (userId, expiresAt) ∧ expiresAt < (timed.now : Int)

section Steps

variable {db : Database}

theorem step_sessionsKept (db : Database) (timed : TimedCall) (kept : db.SessionsKept) :
    (step db timed).SessionsKept := by
  obtain ⟨now, call⟩ := timed
  cases call with
  | createSession userId token hours => exact kept.createSession now userId token hours
  | validateSession token => exact kept.validateSession now token
  | deleteSession token => exact kept.filter _
  | deleteUserSessions userId => exact kept.filter _
  | cleanupExpiredSessions => exact kept.filter _

theorem step_users (db : Database) (timed : TimedCall) : (step db timed).users = db.users := by
  obtain ⟨now, call⟩ := timed
  cases call with
  | createSession userId token hours =>
      simp only [step, Database.createSession_eq]
      split <;> rfl
  | validateSession token => exact Database.validateSession_users ..
  | deleteSession token => rfl
  | deleteUserSessions userId => rfl
  | cleanupExpiredSessions => rfl

end Steps

/-! ### Inserted calls -/

structure Lags (now : Nat) (first second : Option (UserId × Int)) : Prop where
  older : ∀ window, second = some window → first = some window
  live : ∀ window, first = some window → (now : Int) ≤ window.2 → second = some window

theorem Lags.refl (now : Nat) (window : Option (UserId × Int)) : Lags now window window :=
  ⟨fun _ found => found, fun _ found _ => found⟩

section Windows

variable {now : Nat} {first second : Option (UserId × Int)}

theorem Lags.filter (lags : Lags now first second) (test : UserId × Int → Bool) :
    Lags now (first.filter test) (second.filter test) := by
  constructor
  · intro window found
    obtain ⟨same, passes⟩ := Option.filter_eq_some_iff.mp found
    exact Option.filter_eq_some_iff.mpr ⟨lags.older window same, passes⟩
  · intro window found late
    obtain ⟨same, passes⟩ := Option.filter_eq_some_iff.mp found
    exact Option.filter_eq_some_iff.mpr ⟨lags.live window same late, passes⟩

theorem Lags.tidied (lags : Lags now first second) :
    Lags now first (second.filter fun window => !decide (window.2 < (now : Int))) := by
  constructor
  · exact fun window found => lags.older window (Option.filter_eq_some_iff.mp found).1
  · intro window found late
    refine Option.filter_eq_some_iff.mpr ⟨lags.live window found late, ?_⟩
    simpa using late

theorem Lags.mono {later : Nat} (lags : Lags now first second) (passed : now ≤ later) :
    Lags later first second :=
  ⟨lags.older, fun window found late => lags.live window found (by omega)⟩

theorem Lags.eq_of_unexpired (lags : Lags now first second)
    (unexpired : ∀ window, first = some window → (now : Int) ≤ window.2) : second = first := by
  cases found : first with
  | none =>
      cases found' : second with
      | none => rfl
      | some window => simp [lags.older window found'] at found
  | some window => exact lags.live window found (unexpired window found)

end Windows

structure Follows (token : Text) (now : Nat) (db later : Database) : Prop where
  users : later.users = db.users
  window : Lags now (db.window token) (later.window token)

section Following

variable {token : Text} {db later : Database} {timed : TimedCall}

theorem Follows.both (follows : Follows token timed.now db later) (kept : db.SessionsKept)
    (keptLater : later.SessionsKept) (fresh : ¬MeetsExpired token db timed) :
    Follows token timed.now (step db timed) (step later timed) := by
  refine ⟨by rw [step_users, step_users, follows.users], ?_⟩
  have lags := follows.window
  obtain ⟨now, call⟩ := timed
  cases call with
  | createSession owner named hours =>
      simp only [step, Database.createSession_window kept, Database.createSession_window keptLater]
      by_cases same : named = token
      · subst same
        have unexpired : ∀ window, db.window named = some window → (now : Int) ≤ window.2 := by
          intro window found
          by_contra expired
          exact fresh ⟨⟨owner, hours, rfl⟩, window.1, window.2, found, by simpa using expired⟩
        have equal := lags.eq_of_unexpired unexpired
        have creates : later.Creates now owner named hours ↔ db.Creates now owner named hours := by
          rw [Database.creates_iff kept, Database.creates_iff keptLater, equal, Database.HasUser,
            Database.HasUser, follows.users]
        simp only [creates, equal]
        exact Lags.refl ..
      · rw [if_neg fun both => same both.2, if_neg fun both => same both.2]
        exact lags
  | validateSession named =>
      simp only [step, Database.validateSession_window kept,
        Database.validateSession_window keptLater]
      split
      · exact lags.filter _
      · exact lags
  | deleteSession named =>
      simp only [step, Database.deleteSession_window kept, Database.deleteSession_window keptLater]
      split
      · exact Lags.refl ..
      · exact lags
  | deleteUserSessions owner =>
      simp only [step, Database.deleteUserSessions_window kept,
        Database.deleteUserSessions_window keptLater]
      exact lags.filter _
  | cleanupExpiredSessions =>
      simp only [step, Database.cleanupExpiredSessions_window kept,
        Database.cleanupExpiredSessions_window keptLater]
      exact lags.filter _

theorem Follows.inserted (follows : Follows token timed.now db later)
    (keptLater : later.SessionsKept) (passive : Passive timed) :
    Follows token timed.now db (step later timed) := by
  refine ⟨by rw [step_users, follows.users], ?_⟩
  have lags := follows.window
  obtain ⟨now, call⟩ := timed
  cases call with
  | createSession owner named hours => exact absurd passive id
  | deleteSession named => exact absurd passive id
  | deleteUserSessions owner => exact absurd passive id
  | validateSession named =>
      simp only [step, Database.validateSession_window keptLater]
      split
      · exact lags.tidied
      · exact lags
  | cleanupExpiredSessions =>
      simp only [step, Database.cleanupExpiredSessions_window keptLater]
      exact lags.tidied

theorem Follows.answer {time : Nat} (follows : Follows token time db later) :
    (later.validateSession time token).2 = (db.validateSession time token).2 := by
  obtain ⟨older, live⟩ := follows.window
  rw [Database.validateSession_user, Database.validateSession_user]
  cases found : db.window token with
  | none =>
      cases found' : later.window token with
      | none => rfl
      | some window => simp [older window found'] at found
  | some window =>
      by_cases late : (time : Int) ≤ window.2
      · rw [live window found late]
      · have expired : window.2 < (time : Int) := by omega
        cases found' : later.window token with
        | none => simp [expired]
        | some window' =>
            obtain rfl := Option.some.inj ((older window' found').symm.trans found)
            rfl

end Following

structure NoSessions (db : Database) : Prop where
  sessions : db.sessions = []
  nextSession : 0 < db.nextSessionId

theorem NoSessions.sessionsKept {db : Database} (fresh : NoSessions db) : db.SessionsKept :=
  ⟨by simp [fresh.sessions], fresh.nextSession⟩

theorem run_sessionsKept {db : Database} (fresh : NoSessions db) (calls : List TimedCall) :
    (run db calls).SessionsKept :=
  Machine.invariant step fresh.sessionsKept step_sessionsKept calls

def SameAnswer (db : Database) (calls longer : List TimedCall) (token : Text) (time : Nat) : Prop :=
  ((run db longer).validateSession time token).2 = ((run db calls).validateSession time token).2

def NeverMeetsExpired (db : Database) (calls : List TimedCall) (token : Text) : Prop :=
  Machine.Respects step (fun db timed => ¬MeetsExpired token db timed) db calls

theorem Padded.follows {db : Database} (fresh : NoSessions db) {calls longer : List TimedCall}
    (padded : Padded calls longer) {token : Text} :
    ClockOrdered longer → NeverMeetsExpired db calls token →
    ∀ time, (∀ timed ∈ longer, timed.now ≤ time) →
      Follows token time (run db calls) (run db longer) := by
  induction padded with
  | nil => exact fun _ _ time _ => ⟨rfl, Lags.refl time _⟩
  | @both calls longer timed padded ih =>
      intro ordered never time bound
      have early := ih (List.pairwise_append.mp ordered).1
        (Machine.Respects.of_append step never) timed.now ordered.le_last
      have fresh' := never calls timed (Machine.stepOf_last calls timed)
      have both := early.both (run_sessionsKept fresh calls) (run_sessionsKept fresh longer) fresh'
      have passed : timed.now ≤ time := bound timed (by simp)
      simp only [run, Machine.exec_append]
      exact ⟨both.users, both.window.mono passed⟩
  | @inserted calls longer timed passive padded ih =>
      intro ordered never time bound
      have early := ih (List.pairwise_append.mp ordered).1 never timed.now ordered.le_last
      have tidied := early.inserted (run_sessionsKept fresh longer) passive
      have passed : timed.now ≤ time := bound timed (by simp)
      simp only [run, Machine.exec_append]
      exact ⟨tidied.users, tidied.window.mono passed⟩

/-- What the session calls promise to one another, for a database that starts
without sessions and a clock that does not go back. -/
structure Contract (db : Database) : Prop where
  valid : ∀ (calls : List TimedCall) (time : Nat) (token : Text) (userId : UserId),
    ClockOrdered (calls ++ [⟨time, .validateSession token⟩]) → userId ≠ 0 →
      (((run db calls).validateSession time token).2 = userId ↔
        Stands db calls token userId time)
  inserted : ∀ (calls longer : List TimedCall) (token : Text) (time : Nat),
    Padded calls longer → ClockOrdered (longer ++ [⟨time, .validateSession token⟩]) →
      NeverMeetsExpired db calls token → SameAnswer db calls longer token time
  taken : ∀ (calls : List TimedCall) (now : Nat) (userId : UserId) (token : Text) (hours : Int)
    (window : UserId × Int), (run db calls).window token = some window →
      (run db calls).createSession now userId token hours = (run db calls, 0)

end SessionStore

end Battleship
