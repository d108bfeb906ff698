import Battleship.PendingChallenges

/-! Pending challenges that are out of date: their time is up, or one of their
users is gone. The server keeps them, and their target can still accept them. -/

namespace Battleship

open Decimal (Text)

namespace Server

variable (lib : Externals)

section Expiry

variable {server : Server}

theorem Answers.pending {event : Event} {response : ChallengeResponse}
    {challenge : PendingChallenge} (answers : server.Answers event response challenge) :
    server.manager.challenges[response.challengeId]? = some challenge := by
  obtain ⟨_, _, _, _, _, _, _, _, pending, _⟩ := answers
  exact pending

theorem Answers.challengeId_eq {event : Event} {response : ChallengeResponse}
    {challenge : PendingChallenge} (answers : server.Answers event response challenge) {token : Text}
    {challengeId : ChallengeId} {accepted : Bool}
    (handled : server.Handles event token (.challengeResponse challengeId accepted)) :
    response.challengeId = challengeId := by
  obtain ⟨_, _, _, acted, _⟩ := answers
  obtain ⟨_, _, acted', _⟩ := handled
  simp only [acted, Action.message.injEq, Request.challengeResponse.injEq] at acted'
  exact acted'.2.2.1

theorem Answers.handles {event : Event} {response : ChallengeResponse}
    {challenge : PendingChallenge} (answers : server.Answers event response challenge) :
    ∃ token, server.Handles event token
      (.challengeResponse response.challengeId response.accepted) := by
  obtain ⟨conn, token, client, acted, known, serving, connected, _⟩ := answers
  exact ⟨token, conn, client, acted, known, serving, connected⟩

theorem Answers.pairs (good : server.WellFormed) (users : server.KnownUsers) {event : Event}
    {response : ChallengeResponse} {challenge : PendingChallenge}
    (answers : server.Answers event response challenge) (accepting : response.accepted = true) :
    Pairs server event.env challenge (server.step lib event) := by
  obtain ⟨conn, token, client, acted, known, serving, connected, authenticated, pending, target⟩ :=
    answers
  obtain ⟨challengerKnown, targetKnown⟩ := users.pending _ challenge pending
  have stepped : server.step lib event =
      server.respondToChallenge event.env client.userId response := by
    simp only [step, acted, known, serving, connected, and_self, if_true, routeMessage,
      handleChallengeResponse, authenticated]
  have accepts : server.Accepts ⟨event.env, .respondToChallenge client.userId response⟩ challenge :=
    ⟨response, by rw [target], accepting, pending, challengerKnown, targetKnown⟩
  rw [stepped]
  exact respondToChallenge_pairs good rfl accepts

theorem Pairs.newMatch (good : server.WellFormed) {env : Env} {challenge : PendingChallenge}
    {later : Server} (pairs : Pairs server env challenge later) :
    NewMatch server later server.db.nextMatchId (pairedRow env challenge) := by
  constructor
  · rw [Database.hasMatch, Option.isSome_eq_false_iff, Option.isNone_iff_eq_none]
    by_contra known
    obtain ⟨row, found⟩ := Option.ne_none_iff_exists'.mp known
    exact absurd (good.db.matchIds _ row found).2 (lt_irrefl _)
  · rw [pairs.rows, Table.lookup_insert, if_pos rfl]

theorem NewMatch.challenge (good : server.WellFormed) {event : Event} {matchId : MatchId}
    {row : Match} (new : NewMatch server (server.step lib event) matchId row) :
    ∃ response challenge, server.Answers event response challenge ∧ response.accepted = true ∧
      row = pairedRow event.env challenge := by
  obtain ⟨absent, found⟩ := new
  have differ : (server.step lib event).db.hasMatch ≠ server.db.hasMatch := by
    intro same
    have present : (server.step lib event).db.hasMatch matchId = true := by
      simp [Database.hasMatch, found]
    rw [same, absent] at present
    simp at present
  cases step_challenges lib good event with
  | unpaired unpaired => exact absurd unpaired.rows differ
  | restarted _ _ rows => exact absurd rows differ
  | sent _ _ _ _ rows _ => exact absurd rows differ
  | declined _ rows _ => exact absurd rows differ
  | accepted response challenge answers accepting _ pairs _ =>
      refine ⟨response, challenge, answers, accepting, ?_⟩
      rw [pairs.rows, Table.lookup_insert] at found
      split at found
      · exact (Option.some.inj found).symm
      · simp [Database.hasMatch, found] at absent

def Late (server : Server) (now : Nat) (challengeId : ChallengeId) : Prop :=
  ∀ challenge : PendingChallenge, server.manager.challenges[challengeId]? = some challenge →
    challenge.expiresAt ≤ now

def RefusesLate (server : Server) (event : Event) : Prop :=
  ∀ token challengeId, server.Handles event token (.challengeResponse challengeId true) →
    server.Late event.env.now challengeId →
    ∀ matchId row, ¬NewMatch server (server.step lib event) matchId row

def AcceptsExpired (server : Server) (event : Event) : Prop :=
  ∃ response challenge, server.Answers event response challenge ∧ response.accepted = true ∧
    challenge.expiresAt ≤ event.env.now

theorem step_refusesLate_iff (good : server.WellFormed) (users : server.KnownUsers)
    (event : Event) : server.RefusesLate lib event ↔ ¬server.AcceptsExpired event := by
  constructor
  · rintro refuses ⟨response, challenge, answers, accepting, expired⟩
    obtain ⟨token, handled⟩ := answers.handles
    have late : server.Late event.env.now response.challengeId := by
      intro pending found
      rwa [Option.some.inj (found.symm.trans answers.pending)]
    have created := (answers.pairs lib good users accepting).newMatch good
    rw [accepting] at handled
    exact refuses token _ handled late _ _ created
  · intro timely token challengeId handled late matchId row new
    obtain ⟨response, challenge, answers, accepting, _⟩ := new.challenge lib good
    have same := answers.challengeId_eq handled
    exact timely ⟨response, challenge, answers, accepting, late challenge (same ▸ answers.pending)⟩

end Expiry

/-- Late responses create no match in a run exactly when no target accepts a
challenge that the server still keeps after its time. -/
theorem refusesLate_iff (events : List Event) :
    Machine.Respects (step lib) (RefusesLate lib) init events ↔
      Machine.Respects (step lib) (fun server event => ¬server.AcceptsExpired event) init events := by
  have decided (before : List Event) (event : Event) :=
    step_refusesLate_iff lib (after_wellFormed lib before) (after_knownUsers lib before) event
  constructor
  · exact fun refuses before event taken => (decided before event).mp (refuses before event taken)
  · exact fun timely before event taken => (decided before event).mpr (timely before event taken)

section Forgotten

open Script

def acceptedLate : List Event := lobby ++ [
  sends 2 alice (.challengeSend bob 60 false), sends 62 bob (.challengeResponse 1 true)]

theorem not_refusesLate_acceptedLate : ¬∀ (lib : Externals) (events : List Event),
    Machine.Respects (step lib) (RefusesLate lib) init events := by
  intro all
  let sent := lobby ++ [sends 2 alice (.challengeSend bob 60 false)]
  have taken : Machine.StepOf acceptedLate sent (sends 62 bob (.challengeResponse 1 true)) :=
    ⟨[], rfl⟩
  have handled := handles_of_isLive (show (after lib sent).isLive 1 = true by decide +kernel)
    (env 62) (token bob) (.challengeResponse 1 true)
  have late : (after lib sent).Late (env 62).now 1 := by
    have entry : (after lib sent).manager.challenges[(1 : ChallengeId)]? =
        some (PendingChallenge.mk 1 alice bob 60 false (start + 2) (start + 62)) := by
      decide +kernel
    intro challenge found
    obtain rfl := Option.some.inj (entry.symm.trans found)
    decide
  have absent : (after lib sent).db.hasMatch 1 = false := by decide +kernel
  have created : (after lib acceptedLate).db.matchRows[1]? =
      some (Match.mk alice bob 0 .waiting (start + 62) 0) := by decide +kernel
  exact all lib acceptedLate _ _ taken _ _ handled late _ _ ⟨absent, created⟩

end Forgotten

/-! ### Absent users -/

def Challenged (server : Server) (userId : UserId) : Prop :=
  ∃ (challengeId : ChallengeId) (challenge : PendingChallenge),
    server.manager.challenges[challengeId]? = some challenge ∧
      (challenge.challengerId = userId ∨ challenge.targetId = userId)

def PendingOnline (server : Server) : Prop :=
  ∀ userId, server.Challenged userId → server.isPlayerOnline userId = true

def Leaves (server : Server) (event : Event) (userId : UserId) : Prop :=
  match server.peopleChange lib event with
  | .logout _ removed => removed = userId
  | .remove fd => (server.people.clients fd).bind server.people.userOn = some userId
  | _ => False

def LeavesUnchallenged (server : Server) (event : Event) : Prop :=
  ∀ userId, server.Leaves lib event userId → ¬server.Challenged userId

section Absence

variable {server : Server}

theorem step_challenged (good : server.WellFormed) {event : Event} {userId : UserId}
    (challenged : (server.step lib event).Challenged userId) : server.Challenged userId ∨
      server.peopleChange lib event = .none ∧ server.isPlayerOnline userId = true := by
  obtain ⟨challengeId, challenge, found, named⟩ := challenged
  cases step_challenges lib good event with
  | unpaired unpaired => exact .inl ⟨challengeId, challenge, unpaired.manager ▸ found, named⟩
  | restarted _ empty _ => simp [empty] at found
  | sent challengerId request passed manager _ people =>
      rw [manager, ChallengeManager.insertChallenge_lookup] at found
      split at found
      · obtain rfl := Option.some.inj found
        obtain ⟨challenger, target⟩ := validateChallenge_online passed
        right
        refine ⟨people, ?_⟩
        rcases named with rfl | rfl
        · exact challenger
        · exact target
      · exact .inl ⟨challengeId, challenge, found, named⟩
  | declined narrows _ _ =>
      exact .inl ⟨challengeId, challenge, narrows challengeId challenge found, named⟩
  | accepted _ _ _ _ narrows _ _ =>
      exact .inl ⟨challengeId, challenge, narrows challengeId challenge found, named⟩

theorem Leaves.offline {event : Event} {userId : UserId} (leaves : server.Leaves lib event userId) :
    (server.step lib event).isPlayerOnline userId = false := by
  unfold Leaves at leaves
  rw [isPlayerOnline_eq, step_people]
  cases change : server.peopleChange lib event with
  | logout conn removed =>
      simp only [change] at leaves
      simp [People.change, leaves]
  | remove fd =>
      simp only [change] at leaves
      simp [People.change, leaves]
  | none | accept | appear | restart => simp [change] at leaves

theorem Leaves.challenged (good : server.WellFormed) {event : Event} {userId : UserId}
    (leaves : server.Leaves lib event userId) (challenged : server.Challenged userId) :
    (server.step lib event).Challenged userId := by
  have moved : server.peopleChange lib event ≠ .none := by
    intro none
    simp [Leaves, none] at leaves
  obtain ⟨challengeId, challenge, found, named⟩ := challenged
  cases step_challenges lib good event with
  | unpaired unpaired => exact ⟨challengeId, challenge, unpaired.manager ▸ found, named⟩
  | restarted restart _ _ => simp [Leaves, peopleChange, restart] at leaves
  | sent _ _ _ _ _ people => exact absurd people moved
  | declined _ _ people => exact absurd people moved
  | accepted _ _ _ _ _ _ people => exact absurd people moved

theorem step_stays_online {event : Event} {userId : UserId} (running : event.action ≠ .restart)
    (online : server.isPlayerOnline userId = true) (stays : ¬server.Leaves lib event userId) :
    (server.step lib event).isPlayerOnline userId = true := by
  rw [isPlayerOnline_eq] at online ⊢
  rw [step_people]
  unfold Leaves at stays
  cases change : server.peopleChange lib event with
  | none | accept fd => exact online
  | appear conn appeared =>
      simp only [People.change, Function.update_apply]
      split
      · rfl
      · exact online
  | logout conn removed =>
      simp only [change] at stays
      simpa [People.change, Function.update_apply, Ne.symm stays] using online
  | remove fd =>
      simp only [change] at stays
      simpa [People.change, stays] using online
  | restart => exact absurd (restarts_of_peopleChange lib change) running

/-- As long as the users of pending challenges are online, they stay so in a step
exactly when it removes none of them. -/
theorem step_pendingOnline_iff (good : server.WellFormed) (online : server.PendingOnline)
    (event : Event) :
    (server.step lib event).PendingOnline ↔ server.LeavesUnchallenged lib event := by
  constructor
  · intro later userId leaves challenged
    have gone := leaves.offline lib
    rw [later userId (leaves.challenged lib good challenged)] at gone
    simp at gone
  · intro apart userId challenged
    rcases step_challenged lib good challenged with before | ⟨unmoved, present⟩
    · by_cases running : event.action = .restart
      · obtain ⟨challengeId, challenge, found, _⟩ := challenged
        simp [step, running, restarted, init] at found
      · exact step_stays_online lib running (online userId before)
          fun leaves => apart userId leaves before
    · rwa [isPlayerOnline_eq, step_people, unmoved, People.change, ← isPlayerOnline_eq]

end Absence

structure PresentThroughout (events : List Event) : Prop where
  pending : ∀ early, early <+: events → (after lib early).PendingOnline
  created : Machine.Respects (step lib) (fun server event => ∀ matchId row,
    NewMatch server (server.step lib event) matchId row →
      server.isPlayerOnline row.player1Id = true ∧ server.isPlayerOnline row.player2Id = true)
    init events

theorem pendingOnline_init : init.PendingOnline := by
  rintro userId ⟨challengeId, challenge, found, _⟩
  simp [init] at found

theorem presentThroughout_iff (events : List Event) : PresentThroughout lib events ↔
    Machine.Respects (step lib) (LeavesUnchallenged lib) init events := by
  have always := Machine.always_iff_respects (step lib) WellFormed wellFormed_init
    (step_wellFormed lib) pendingOnline_init
    (fun server event good online => step_pendingOnline_iff lib good online event) events
  constructor
  · exact fun present => always.mp present.pending
  · intro apart
    refine ⟨always.mpr apart, ?_⟩
    rintro before event ⟨rest, rfl⟩ matchId row new
    have online := always.mpr apart before (List.prefix_append before _)
    obtain ⟨response, challenge, answers, _, rfl⟩ :=
      new.challenge lib (after_wellFormed lib before)
    exact ⟨online _ ⟨_, challenge, answers.pending, .inl rfl⟩,
      online _ ⟨_, challenge, answers.pending, .inr rfl⟩⟩

section LeftBehind

open Script

def challengedAndLeft : List Event := lobby ++ [
  sends 2 alice (.challengeSend bob 60 false), sends 3 alice (.logout (token alice)),
  sends 4 bob (.challengeResponse 1 true)]

theorem not_presentThroughout_challengedAndLeft : ¬∀ (lib : Externals) (events : List Event),
    PresentThroughout lib events := by
  intro all
  have taken : Machine.StepOf challengedAndLeft (lobby ++ [
      sends 2 alice (.challengeSend bob 60 false), sends 3 alice (.logout (token alice))])
      (sends 4 bob (.challengeResponse 1 true)) := ⟨[], rfl⟩
  have absent : (after lib (lobby ++ [sends 2 alice (.challengeSend bob 60 false),
      sends 3 alice (.logout (token alice))])).db.hasMatch 1 = false := by decide +kernel
  have created : (after lib challengedAndLeft).db.matchRows[1]? =
      some (Match.mk alice bob 0 .waiting (start + 4) 0) := by decide +kernel
  have offline : (after lib (lobby ++ [sends 2 alice (.challengeSend bob 60 false),
      sends 3 alice (.logout (token alice))])).isPlayerOnline alice = false := by decide +kernel
  have online := ((all lib challengedAndLeft).created _ _ taken _ _ ⟨absent, created⟩).1
  exact absurd (offline.symm.trans online) (by simp)

end LeftBehind

end Server

end Battleship
