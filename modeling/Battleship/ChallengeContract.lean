import Battleship.ChallengeThreads

/-! What the challenge manager guarantees under every interleaving of sections:
as long as the counter of ids has not wrapped, ids are used once, and each
challenge is resolved once. -/

namespace Battleship

namespace Threads

structure Consistent (threads : Threads) : Prop where
  ids : threads.issued.map (fun challenge => challenge.challengeId.toNat) =
    List.range' 1 threads.issued.length
  next : threads.manager.nextChallengeId.toNat = (1 + threads.issued.length) % 2 ^ 32
  pending : ∀ (challengeId : ChallengeId) (challenge : PendingChallenge),
    threads.manager.challenges[challengeId]? = some challenge →
    challenge ∈ threads.issued ∧ challenge.challengeId = challengeId
  fields : ∀ challenge ∈ threads.issued, challenge.challengerId ≠ challenge.targetId ∧
    challenge.expiresAt = challenge.createdAt + challengeTimeoutSeconds
  validated : ∀ now challengerId request,
    Task.insertChallenge now challengerId request ∈ threads.tasks →
    challengerId ≠ request.targetUserId
  resolved : ∀ challenge ∈ threads.accepted, challenge ∈ threads.issued ∧
    threads.manager.challenges[challenge.challengeId]? = none
  once : (threads.accepted.map PendingChallenge.challengeId).Nodup

theorem init_consistent : init.Consistent := by
  constructor <;> simp [init, accepted]

section Steps

variable {threads : Threads}

theorem Consistent.id_bounds (consistent : threads.Consistent) {challenge : PendingChallenge}
    (issued : challenge ∈ threads.issued) : 1 ≤ challenge.challengeId.toNat ∧
      challenge.challengeId.toNat < 1 + threads.issued.length := by
  have listed : challenge.challengeId.toNat ∈ List.range' 1 threads.issued.length := by
    rw [← consistent.ids]
    exact List.mem_map_of_mem issued
  rwa [List.mem_range'_1] at listed

theorem Consistent.ids_nodup (consistent : threads.Consistent) :
    (threads.issued.map PendingChallenge.challengeId).Nodup := by
  have numbers : (threads.issued.map fun challenge => challenge.challengeId.toNat).Nodup := by
    rw [consistent.ids]
    exact List.nodup_range'
  apply List.Nodup.of_map UInt32.toNat
  rwa [List.map_map]

theorem Consistent.narrows (consistent : threads.Consistent) {manager : ChallengeManager}
    (narrows : threads.manager.Narrows manager)
    (next : manager.nextChallengeId = threads.manager.nextChallengeId) :
    { threads with manager := manager }.Consistent where
  ids := consistent.ids
  next := next ▸ consistent.next
  pending := fun challengeId challenge found =>
    consistent.pending challengeId challenge (narrows challengeId challenge found)
  fields := consistent.fields
  validated := consistent.validated
  resolved := by
    intro challenge member
    obtain ⟨issued, gone⟩ := consistent.resolved challenge member
    refine ⟨issued, ?_⟩
    rw [Option.eq_none_iff_forall_ne_some]
    intro other found
    have still := narrows _ other found
    rw [gone] at still
    cases still
  once := consistent.once

theorem tasks_perm {index : Nat} {task : Task} (taken : threads.tasks[index]? = some task) :
    threads.tasks.Perm (task :: threads.tasks.eraseIdx index) := by
  obtain ⟨bound, rfl⟩ := List.getElem?_eq_some_iff.mp taken
  exact (List.getElem_cons_eraseIdx_perm bound).symm

theorem carryOut_accepted {index : Nat} {task : Task}
    (taken : threads.tasks[index]? = some task) :
    ({ threads with tasks := threads.tasks.eraseIdx index }.carryOut task).accepted.Perm
      threads.accepted := by
  have listed := (tasks_perm taken).filterMap Task.accepted?
  cases task with
  | insertChallenge now challengerId request => exact listed.symm.append_left threads.matched
  | createMatch challenge =>
      simp only [carryOut, accepted, List.append_assoc]
      exact listed.symm.append_left threads.matched

theorem Consistent.fresh (consistent : threads.Consistent)
    (few : threads.issued.length + 1 < 2 ^ 32) {challenge : PendingChallenge}
    (issued : challenge ∈ threads.issued) :
    threads.manager.nextChallengeId ≠ challenge.challengeId := by
  intro same
  have bounds := consistent.id_bounds issued
  have next := consistent.next
  rw [same] at next
  omega

theorem Consistent.insert (consistent : threads.Consistent) {index : Nat} {now : Nat}
    {challengerId : UserId} {request : ChallengeRequest}
    (taken : threads.tasks[index]? = some (.insertChallenge now challengerId request))
    (few : threads.issued.length + 1 < 2 ^ 32) :
    ({ threads with tasks := threads.tasks.eraseIdx index }.carryOut
      (.insertChallenge now challengerId request)).Consistent := by
  let inserted := threads.manager.insertChallenge now challengerId request
  have number : inserted.2.challengeId.toNat = 1 + threads.issued.length := by
    have next : inserted.2.challengeId.toNat = _ := consistent.next
    omega
  have perm := carryOut_accepted taken
  refine ⟨?_, ?_, ?_, ?_, ?_, ?_, ?_⟩
  · simp only [carryOut, List.map_append, List.map_cons, List.map_nil, consistent.ids,
      List.length_append, List.length_singleton, List.range'_concat]
    rw [number]
    simp
  · simp only [carryOut, List.length_append, List.length_singleton]
    show (threads.manager.nextChallengeId + 1).toNat = _
    rw [UInt32.toNat_add, consistent.next, UInt32.toNat_one]
    omega
  · intro challengeId challenge found
    simp only [carryOut, threads.manager.insertChallenge_lookup] at found ⊢
    split at found
    next same =>
      obtain rfl := Option.some.inj found
      exact ⟨by simp, same⟩
    · obtain ⟨issued, same⟩ := consistent.pending challengeId challenge found
      exact ⟨List.mem_append_left _ issued, same⟩
  · intro challenge member
    rcases List.mem_append.mp member with old | new
    · exact consistent.fields challenge old
    · obtain rfl := List.mem_singleton.mp new
      exact ⟨consistent.validated now challengerId request (List.mem_of_getElem? taken), rfl⟩
  · intro now' challengerId' request' member
    exact consistent.validated now' challengerId' request' (List.mem_of_mem_eraseIdx member)
  · intro challenge member
    obtain ⟨issued, gone⟩ := consistent.resolved challenge (perm.mem_iff.mp member)
    refine ⟨List.mem_append_left _ issued, ?_⟩
    have other := threads.manager.insertChallenge_lookup now challengerId request
      challenge.challengeId
    exact (other.trans (if_neg (consistent.fresh few issued))).trans gone
  · exact (perm.map PendingChallenge.challengeId).nodup_iff.mpr consistent.once

theorem Consistent.createMatch (consistent : threads.Consistent) {index : Nat}
    {challenge : PendingChallenge} (taken : threads.tasks[index]? = some (.createMatch challenge)) :
    ({ threads with tasks := threads.tasks.eraseIdx index }.carryOut
      (.createMatch challenge)).Consistent where
  ids := consistent.ids
  next := consistent.next
  pending := consistent.pending
  fields := consistent.fields
  validated := fun now challengerId request member =>
    consistent.validated now challengerId request (List.mem_of_mem_eraseIdx member)
  resolved := fun other member =>
    consistent.resolved other ((carryOut_accepted taken).mem_iff.mp member)
  once := ((carryOut_accepted taken).map PendingChallenge.challengeId).nodup_iff.mpr consistent.once

theorem Consistent.validate (consistent : threads.Consistent) {now : Nat} {challengerId : UserId}
    {request : ChallengeRequest} (distinct : challengerId ≠ request.targetUserId) :
    { threads with
      tasks := threads.tasks ++ [Task.insertChallenge now challengerId request] }.Consistent := by
  have same : ({ threads with
      tasks := threads.tasks ++ [Task.insertChallenge now challengerId request] } : Threads).accepted =
      threads.accepted := by
    simp [accepted, Task.accepted?]
  refine ⟨consistent.ids, consistent.next, consistent.pending, consistent.fields, ?_, ?_, ?_⟩
  · intro now' challengerId' request' member
    rcases List.mem_append.mp member with old | new
    · exact consistent.validated now' challengerId' request' old
    · simp only [List.mem_singleton, Task.insertChallenge.injEq] at new
      obtain ⟨rfl, rfl, rfl⟩ := new
      exact distinct
  · rw [same]
    exact consistent.resolved
  · rw [same]
    exact consistent.once

theorem Consistent.accept (consistent : threads.Consistent) {challengeId : ChallengeId}
    {challenge : PendingChallenge}
    (pending : threads.manager.challenges[challengeId]? = some challenge) :
    { threads with
      manager := threads.manager.cancelChallenge challengeId
      tasks := threads.tasks ++ [Task.createMatch challenge] }.Consistent := by
  obtain ⟨issued, rfl⟩ := consistent.pending challengeId challenge pending
  have removed := consistent.narrows
    (threads.manager.cancelChallenge_narrows challenge.challengeId) rfl
  have added : ({ threads with
      manager := threads.manager.cancelChallenge challenge.challengeId
      tasks := threads.tasks ++ [Task.createMatch challenge] } : Threads).accepted =
      threads.accepted ++ [challenge] := by
    simp [accepted, Task.accepted?]
  refine ⟨consistent.ids, consistent.next, removed.pending, consistent.fields, ?_, ?_, ?_⟩
  · intro now challengerId request member
    rcases List.mem_append.mp member with old | new
    · exact consistent.validated now challengerId request old
    · simp at new
  · rw [added]
    intro other member
    rcases List.mem_append.mp member with old | new
    · exact removed.resolved other old
    · obtain rfl := List.mem_singleton.mp new
      exact ⟨issued, (threads.manager.cancelChallenge_lookup ..).trans (if_pos rfl)⟩
  · have new : challenge.challengeId ∉ threads.accepted.map PendingChallenge.challengeId := by
      intro listed
      obtain ⟨other, member, same⟩ := List.mem_map.mp listed
      have gone := (consistent.resolved other member).2
      rw [same, pending] at gone
      cases gone
    rw [added, List.map_append, List.map_singleton, ← List.concat_eq_append]
    exact consistent.once.concat new

theorem step_respond {challengeId : ChallengeId} {challenge : PendingChallenge}
    (pending : threads.manager.challenges[challengeId]? = some challenge) (accepted : Bool) :
    threads.step (.respondToChallenge challenge.targetId ⟨challengeId, accepted⟩) =
      { threads with
        manager := threads.manager.cancelChallenge challengeId
        tasks := if accepted then threads.tasks ++ [.createMatch challenge] else threads.tasks } := by
  simp only [step, ChallengeManager.takeChallenge_of_pending pending]
  cases accepted <;> rfl

theorem step_refused {responderId : UserId} {response : ChallengeResponse}
    (refused : ∀ challenge, threads.manager.challenges[response.challengeId]? = some challenge →
      challenge.targetId ≠ responderId) :
    threads.step (.respondToChallenge responderId response) = threads := by
  have kept (challenge : PendingChallenge) :
      (threads.manager.takeChallenge responderId response.challengeId).2 ≠ .challenge challenge := by
    intro taken
    obtain ⟨pending, target⟩ := ChallengeManager.takeChallenge_taken taken
    exact refused challenge pending target
  simp only [step, ChallengeManager.takeChallenge_kept kept]
  split
  · rfl
  · rfl
  next challenge taken => exact absurd taken (kept challenge)

/-- A step narrows the pending challenges down, or it inserts one. -/
theorem step_manager (threads : Threads) (next : Section) :
    threads.manager.Narrows (threads.step next).manager ∧
        (threads.step next).issued = threads.issued ∨
      ∃ now challengerId request,
        (threads.step next).manager =
          (threads.manager.insertChallenge now challengerId request).1 ∧
        (threads.step next).issued = threads.issued ++
          [(threads.manager.insertChallenge now challengerId request).2] := by
  have still : threads.manager.Narrows threads.manager := fun _ _ found => found
  cases next with
  | validateChallenge isPlayerOnline getPlayerStatus now challengerId request =>
      simp only [step]
      split <;> exact Or.inl ⟨still, rfl⟩
  | resume index =>
      simp only [step]
      split
      · exact Or.inl ⟨still, rfl⟩
      next task _ =>
        cases task with
        | insertChallenge now challengerId request =>
            exact Or.inr ⟨now, challengerId, request, rfl, rfl⟩
        | createMatch challenge => exact Or.inl ⟨still, rfl⟩
  | respondToChallenge responderId response =>
      have narrows := threads.manager.takeChallenge_narrows responderId response.challengeId
      simp only [step]
      split
      · exact Or.inl ⟨narrows, rfl⟩
      · exact Or.inl ⟨narrows, rfl⟩
      · split <;> exact Or.inl ⟨narrows, rfl⟩
  | cancelChallenge challengeId =>
      exact Or.inl ⟨threads.manager.cancelChallenge_narrows challengeId, rfl⟩
  | checkExpiredChallenges now =>
      exact Or.inl ⟨threads.manager.expireChallenges_narrows now, rfl⟩
  | removePlayerChallenges userId =>
      exact Or.inl ⟨threads.manager.removePlayerChallenges_narrows userId, rfl⟩

theorem step_issued (threads : Threads) (next : Section) :
    threads.issued <+: (threads.step next).issued := by
  rcases step_manager threads next with ⟨_, same⟩ | ⟨now, challengerId, request, _, added⟩
  · rw [same]
  · exact ⟨_, added.symm⟩

theorem step_consistent (consistent : threads.Consistent) (next : Section)
    (few : (threads.step next).issued.length < 2 ^ 32) :
    (threads.step next).Consistent := by
  cases next with
  | validateChallenge isPlayerOnline getPlayerStatus now challengerId request =>
      simp only [step]
      split
      · exact consistent
      next passed => exact consistent.validate (validateChallenge_distinct passed)
  | resume index =>
      simp only [step] at few ⊢
      split
      · exact consistent
      next task taken =>
        cases task with
        | insertChallenge now challengerId request =>
            apply consistent.insert taken
            simpa [taken, carryOut] using few
        | createMatch challenge => exact consistent.createMatch taken
  | respondToChallenge responderId response =>
      by_cases taken : ∃ challenge,
          threads.manager.challenges[response.challengeId]? = some challenge ∧
          challenge.targetId = responderId
      · obtain ⟨challenge, pending, rfl⟩ := taken
        rw [step_respond pending]
        split
        · exact consistent.accept pending
        · exact consistent.narrows (threads.manager.cancelChallenge_narrows _) rfl
      · rwa [step_refused fun challenge pending target => taken ⟨challenge, pending, target⟩]
  | cancelChallenge challengeId =>
      exact consistent.narrows (threads.manager.cancelChallenge_narrows challengeId) rfl
  | checkExpiredChallenges now =>
      exact consistent.narrows (threads.manager.expireChallenges_narrows now) rfl
  | removePlayerChallenges userId =>
      exact consistent.narrows (threads.manager.removePlayerChallenges_narrows userId) rfl

theorem Consistent.stays_resolved (consistent : threads.Consistent) {challenge : PendingChallenge}
    (issued : challenge ∈ threads.issued)
    (gone : threads.manager.challenges[challenge.challengeId]? = none) (next : Section)
    (few : (threads.step next).issued.length < 2 ^ 32) :
    (threads.step next).manager.challenges[challenge.challengeId]? = none := by
  rcases step_manager threads next with ⟨narrows, _⟩ | ⟨now, challengerId, request, manager, added⟩
  · rw [Option.eq_none_iff_forall_ne_some]
    intro other found
    have still := narrows _ other found
    rw [gone] at still
    cases still
  · rw [added, List.length_append, List.length_singleton] at few
    rw [manager, ChallengeManager.insertChallenge_lookup, if_neg (consistent.fresh few issued), gone]

theorem Consistent.step_accepted (consistent : threads.Consistent) (next : Section)
    {challenge : PendingChallenge} (member : challenge ∈ (threads.step next).accepted) :
    challenge ∈ threads.accepted ∨
      next = .respondToChallenge challenge.targetId ⟨challenge.challengeId, true⟩ ∧
      threads.manager.challenges[challenge.challengeId]? = some challenge := by
  cases next with
  | validateChallenge isPlayerOnline getPlayerStatus now challengerId request =>
      left
      simp only [step] at member
      split at member
      · exact member
      · simpa [accepted, Task.accepted?] using member
  | resume index =>
      left
      simp only [step] at member
      split at member
      · exact member
      next task taken => exact (carryOut_accepted taken).mem_iff.mp member
  | respondToChallenge responderId response =>
      by_cases taken : ∃ challenge,
          threads.manager.challenges[response.challengeId]? = some challenge ∧
          challenge.targetId = responderId
      · obtain ⟨pending, found, rfl⟩ := taken
        obtain ⟨challengeId, agreed⟩ := response
        obtain ⟨_, rfl⟩ := consistent.pending challengeId pending found
        rw [step_respond found] at member
        cases agreed with
        | false => exact Or.inl member
        | true =>
            simp only [if_true, accepted, List.filterMap_append, ← List.append_assoc] at member
            rcases List.mem_append.mp member with old | new
            · exact Or.inl old
            · obtain rfl : challenge = pending := by simpa [Task.accepted?] using new
              exact Or.inr ⟨rfl, found⟩
      · rw [step_refused fun challenge pending target => taken ⟨challenge, pending, target⟩] at member
        exact Or.inl member
  | cancelChallenge challengeId => exact Or.inl member
  | checkExpiredChallenges now => exact Or.inl member
  | removePlayerChallenges userId => exact Or.inl member

end Steps

section Runs

theorem exec_issued (threads : Threads) (sections : List Section) :
    threads.issued <+: (Machine.exec step threads sections).issued :=
  Machine.invariant step (motive := fun later => threads.issued <+: later.issued)
    (List.prefix_refl _) (fun later next grown => grown.trans (step_issued later next)) sections

theorem ran_consistent (sections : List Section)
    (few : (ran sections).issued.length < 2 ^ 32) : (ran sections).Consistent := by
  refine Machine.invariant step (motive := fun threads =>
    threads.issued.length < 2 ^ 32 → threads.Consistent) (fun _ => init_consistent) ?_ sections few
  intro threads next held bound
  exact step_consistent (held ((step_issued threads next).length_le.trans_lt bound)) next bound

theorem ran_stays_resolved (before between : List Section)
    (few : (ran (before ++ between)).issued.length < 2 ^ 32) {challenge : PendingChallenge}
    (issued : challenge ∈ (ran before).issued)
    (gone : (ran before).manager.challenges[challenge.challengeId]? = none) :
    (ran (before ++ between)).manager.challenges[challenge.challengeId]? = none := by
  induction between using List.reverseRecOn with
  | nil => simpa using gone
  | append_singleton between next ih =>
      rw [← List.append_assoc] at few ⊢
      have stepped : ran (before ++ between ++ [next]) = (ran (before ++ between)).step next := by
        simp [ran]
      rw [stepped] at few ⊢
      have earlier := (step_issued (ran (before ++ between)) next).length_le.trans_lt few
      have known : challenge ∈ (ran (before ++ between)).issued := by
        rw [ran, Machine.exec_append]
        exact (exec_issued (ran before) between).subset issued
      exact (ran_consistent _ earlier).stays_resolved known (ih earlier) next few

theorem ran_accepted : ∀ sections : List Section, (ran sections).issued.length < 2 ^ 32 →
    ∀ challenge ∈ (ran sections).accepted, ∃ before next, Machine.StepOf sections before next ∧
      next = .respondToChallenge challenge.targetId ⟨challenge.challengeId, true⟩ ∧
      (ran before).manager.challenges[challenge.challengeId]? = some challenge := by
  intro sections
  induction sections using List.reverseRecOn with
  | nil => simp [ran, init, accepted]
  | append_singleton before next ih =>
      intro few challenge member
      have stepped : ran (before ++ [next]) = (ran before).step next := by simp [ran]
      rw [stepped] at few member
      have earlier := (step_issued (ran before) next).length_le.trans_lt few
      rcases (ran_consistent before earlier).step_accepted next member with old | ⟨response, pending⟩
      · obtain ⟨first, response, taken, rest⟩ := ih earlier challenge old
        exact ⟨first, response, Machine.stepOf_append_left [next] taken, rest⟩
      · exact ⟨before, next, Machine.stepOf_last before next, response, pending⟩

structure Contract (sections : List Section) : Prop where
  entries : ∀ (challengeId : ChallengeId) (challenge : PendingChallenge),
    (ran sections).manager.challenges[challengeId]? = some challenge →
    challenge.challengeId = challengeId ∧ 1 ≤ challengeId.toNat ∧
    challengeId.toNat < 1 + (ran sections).issued.length ∧
    ((ran sections).issued.length + 1 < 2 ^ 32 →
      challengeId < (ran sections).manager.nextChallengeId) ∧
    challenge.challengerId ≠ challenge.targetId ∧ challenge.expiresAt = challenge.createdAt + 60
  neverReused : ((ran sections).issued.map PendingChallenge.challengeId).Nodup
  matchedOnce : ((ran sections).matched.map PendingChallenge.challengeId).Nodup
  matchedByTarget : ∀ challenge ∈ (ran sections).matched, ∃ before next,
    Machine.StepOf sections before next ∧
    next = .respondToChallenge challenge.targetId ⟨challenge.challengeId, true⟩ ∧
    (ran before).manager.challenges[challenge.challengeId]? = some challenge
  refused : ∀ responderId response,
    (∀ challenge, (ran sections).manager.challenges[response.challengeId]? = some challenge →
      challenge.targetId ≠ responderId) →
    (ran sections).step (.respondToChallenge responderId response) = ran sections
  resolved : ∀ before between, sections = before ++ between → ∀ challenge ∈ (ran before).issued,
    (ran before).manager.challenges[challenge.challengeId]? = none → ∀ responderId accepted,
    (ran sections).step (.respondToChallenge responderId ⟨challenge.challengeId, accepted⟩) =
      ran sections
  answered : ∀ (challengeId : ChallengeId) (challenge : PendingChallenge) (accepted : Bool),
    (ran sections).manager.challenges[challengeId]? = some challenge → ∀ other : ChallengeId,
    ((ran sections).step (.respondToChallenge challenge.targetId
      ⟨challengeId, accepted⟩)).manager.challenges[other]? =
      if challengeId = other then none else (ran sections).manager.challenges[other]?
  cancelled : ∀ challengeId other : ChallengeId,
    ((ran sections).step (.cancelChallenge challengeId)).manager.challenges[other]? =
      if challengeId = other then none else (ran sections).manager.challenges[other]?
  swept : ∀ (now : Nat) (challengeId : ChallengeId) (challenge : PendingChallenge),
    ((ran sections).step (.checkExpiredChallenges now)).manager.challenges[challengeId]? =
      some challenge ↔
    (ran sections).manager.challenges[challengeId]? = some challenge ∧ ¬challenge.expiresAt ≤ now
  removed : ∀ (userId : UserId) (challengeId : ChallengeId) (challenge : PendingChallenge),
    ((ran sections).step (.removePlayerChallenges userId)).manager.challenges[challengeId]? =
      some challenge ↔
    (ran sections).manager.challenges[challengeId]? = some challenge ∧
      ¬(challenge.challengerId = userId ∨ challenge.targetId = userId)

theorem Consistent.entry {threads : Threads} (consistent : threads.Consistent)
    {challengeId : ChallengeId} {challenge : PendingChallenge}
    (pending : threads.manager.challenges[challengeId]? = some challenge) :
    challenge.challengeId = challengeId ∧ 1 ≤ challengeId.toNat ∧
      challengeId.toNat < 1 + threads.issued.length ∧
      (threads.issued.length + 1 < 2 ^ 32 → challengeId < threads.manager.nextChallengeId) ∧
      challenge.challengerId ≠ challenge.targetId ∧
      challenge.expiresAt = challenge.createdAt + 60 := by
  obtain ⟨issued, rfl⟩ := consistent.pending challengeId challenge pending
  obtain ⟨lower, upper⟩ := consistent.id_bounds issued
  obtain ⟨distinct, expires⟩ := consistent.fields challenge issued
  refine ⟨rfl, lower, upper, ?_, distinct, expires⟩
  intro few
  have next := consistent.next
  rw [UInt32.lt_iff_toNat_lt]
  omega

/-- The contract holds under every interleaving in which fewer than `2 ^ 32`
challenges are sent. -/
theorem contract (sections : List Section) (few : (ran sections).issued.length < 2 ^ 32) :
    Contract sections := by
  have consistent := ran_consistent sections few
  constructor
  · exact fun challengeId challenge pending => consistent.entry pending
  · exact consistent.ids_nodup
  · have once := consistent.once
    rw [accepted, List.map_append] at once
    exact once.of_append_left
  · intro challenge member
    exact ran_accepted sections few challenge (List.mem_append_left _ member)
  · exact fun responderId response refused => step_refused refused
  · rintro before between rfl challenge issued gone responderId accepted
    have still := ran_stays_resolved before between few issued gone
    refine step_refused fun pending found => ?_
    rw [still] at found
    cases found
  · intro challengeId challenge accepted pending other
    rw [step_respond pending]
    exact ChallengeManager.cancelChallenge_lookup ..
  · exact fun challengeId other => ChallengeManager.cancelChallenge_lookup ..
  · intro now challengeId challenge
    rw [not_le]
    exact ChallengeManager.expireChallenges_lookup_iff ..
  · exact fun userId challengeId challenge => ChallengeManager.removePlayerChallenges_lookup_iff ..

end Runs

end Threads

namespace Script

open Threads

def acceptedInTime : List Section := [
  .validateChallenge (fun _ => true) (fun _ => .available) start alice ⟨bob, 60, false⟩, .resume 0,
  .checkExpiredChallenges (start + 59), .respondToChallenge bob ⟨1, true⟩, .resume 0]

theorem acceptedInTime_contract : Contract acceptedInTime :=
  contract acceptedInTime (by decide +kernel)

def manySends : Nat → List Section
  | 0 => []
  | sends + 1 => manySends sends ++ [
      .validateChallenge (fun _ => true) (fun _ => .available) start alice ⟨bob, 60, false⟩,
      .resume 0]

theorem sends_once (threads : Threads) (idle : threads.tasks = []) :
    Machine.exec step threads [.validateChallenge (fun _ => true) (fun _ => .available) start alice
      ⟨bob, 60, false⟩, .resume 0] =
      threads.carryOut (.insertChallenge start alice ⟨bob, 60, false⟩) := by
  obtain ⟨manager, tasks, issued, matched⟩ := threads
  subst idle
  rfl

theorem manySends_state (sends : Nat) :
    (ran (manySends sends)).tasks = [] ∧ (ran (manySends sends)).issued.length = sends ∧
    (ran (manySends sends)).manager.nextChallengeId.toNat = (1 + sends) % 2 ^ 32 ∧
    (0 < sends → ((ran (manySends sends)).manager.challenges[
      (ran (manySends sends)).manager.nextChallengeId - 1]?).isSome = true) := by
  induction sends with
  | zero => exact ⟨rfl, rfl, rfl, by simp⟩
  | succ sends ih =>
      obtain ⟨tasks, issued, next, _⟩ := ih
      have shape : ran (manySends (sends + 1)) = (ran (manySends sends)).carryOut
          (.insertChallenge start alice ⟨bob, 60, false⟩) := by
        rw [manySends, ran, Machine.exec_append, sends_once _ tasks]
      rw [shape]
      refine ⟨tasks, ?_, ?_, fun _ => ?_⟩
      · simp only [carryOut, List.length_append, List.length_singleton, issued]
      · show ((ran (manySends sends)).manager.nextChallengeId + 1).toNat = _
        rw [UInt32.toNat_add, next, UInt32.toNat_one]
        omega
      · have last : (ran (manySends sends)).manager.nextChallengeId + 1 - 1 =
            (ran (manySends sends)).manager.nextChallengeId := UInt32.add_sub_cancel ..
        have found := ChallengeManager.insertChallenge_lookup (ran (manySends sends)).manager start
          alice ⟨bob, 60, false⟩ (ran (manySends sends)).manager.nextChallengeId
        rw [if_pos rfl] at found
        show ((ChallengeManager.insertChallenge _ start alice ⟨bob, 60, false⟩).1.challenges[
          (ran (manySends sends)).manager.nextChallengeId + 1 - 1]?).isSome = true
        rw [last, found]
        rfl

/-- The counter of ids starts with `1` and reaches `0` one challenge before the
number of challenges does. -/
theorem manySends_wraps : ¬∀ sections : List Section, (ran sections).issued.length < 2 ^ 32 →
    ∀ (challengeId : ChallengeId) (challenge : PendingChallenge),
      (ran sections).manager.challenges[challengeId]? = some challenge →
      challengeId < (ran sections).manager.nextChallengeId := by
  intro below
  obtain ⟨_, issued, next, pending⟩ := manySends_state (2 ^ 32 - 1)
  obtain ⟨challenge, found⟩ := Option.isSome_iff_exists.mp (pending (by omega))
  have less := below (manySends (2 ^ 32 - 1)) (by omega) _ challenge found
  rw [UInt32.lt_iff_toNat_lt] at less
  omega

end Script

end Battleship
