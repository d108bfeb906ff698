import Battleship.ChallengeHandling

/-! What each section of the challenge manager does to the pending challenges. -/

namespace Battleship

theorem validateChallenge_distinct {isPlayerOnline : UserId → Bool}
    {getPlayerStatus : UserId → PlayerStatus} {challengerId targetId : UserId}
    (passed : validateChallenge isPlayerOnline getPlayerStatus challengerId targetId = none) :
    challengerId ≠ targetId := by
  rintro rfl
  unfold validateChallenge at passed
  simp only [if_true] at passed
  repeat' split at passed
  all_goals simp at passed

namespace ChallengeManager

def Narrows (manager later : ChallengeManager) : Prop :=
  ∀ (challengeId : ChallengeId) (challenge : PendingChallenge),
    later.challenges[challengeId]? = some challenge →
    manager.challenges[challengeId]? = some challenge

variable (manager : ChallengeManager)

theorem insertChallenge_lookup (now : Nat) (challengerId : UserId) (request : ChallengeRequest)
    (challengeId : ChallengeId) :
    (manager.insertChallenge now challengerId request).1.challenges[challengeId]? =
      if manager.nextChallengeId = challengeId then
        some (manager.insertChallenge now challengerId request).2
      else manager.challenges[challengeId]? :=
  Table.lookup_insert ..

section Taking

variable {manager} {responderId : UserId} {challengeId : ChallengeId} {challenge : PendingChallenge}

theorem takeChallenge_taken
    (taken : (manager.takeChallenge responderId challengeId).2 = .challenge challenge) :
    manager.challenges[challengeId]? = some challenge ∧ challenge.targetId = responderId := by
  unfold takeChallenge at taken
  split at taken
  · simp at taken
  next pending found =>
    split at taken
    · simp at taken
    next target =>
      simp only [Taken.challenge.injEq] at taken
      subst taken
      exact ⟨found, not_not.mp target⟩

theorem takeChallenge_of_pending (pending : manager.challenges[challengeId]? = some challenge) :
    manager.takeChallenge challenge.targetId challengeId =
      ({ manager with challenges := manager.challenges.erase challengeId }, .challenge challenge) := by
  simp only [takeChallenge, pending, ne_eq, not_true_eq_false, if_false]

theorem takeChallenge_kept
    (kept : ∀ challenge, (manager.takeChallenge responderId challengeId).2 ≠ .challenge challenge) :
    (manager.takeChallenge responderId challengeId).1 = manager := by
  unfold takeChallenge at kept ⊢
  split
  · rfl
  next challenge pending =>
    rw [pending] at kept
    split
    · rfl
    next target => exact absurd (by simp only [target, if_false]) (kept challenge)

end Taking

theorem takeChallenge_narrows (responderId : UserId) (challengeId : ChallengeId) :
    manager.Narrows (manager.takeChallenge responderId challengeId).1 := by
  intro other challenge found
  unfold takeChallenge at found
  split at found
  · exact found
  split at found
  · exact found
  · simp only [Table.lookup_erase] at found
    split at found
    · simp at found
    · exact found

theorem cancelChallenge_lookup (challengeId other : ChallengeId) :
    (manager.cancelChallenge challengeId).challenges[other]? =
      if challengeId = other then none else manager.challenges[other]? :=
  Table.lookup_erase ..

theorem cancelChallenge_narrows (challengeId : ChallengeId) :
    manager.Narrows (manager.cancelChallenge challengeId) := by
  intro other challenge found
  rw [cancelChallenge_lookup] at found
  split at found
  · simp at found
  · exact found

theorem expireChallenges_lookup_iff (now : Nat) (challengeId : ChallengeId)
    (challenge : PendingChallenge) :
    (manager.expireChallenges now).1.challenges[challengeId]? = some challenge ↔
      manager.challenges[challengeId]? = some challenge ∧ now < challenge.expiresAt := by
  simp only [expireChallenges, Table.lookup_filter]
  cases manager.challenges[challengeId]? with
  | none => simp
  | some pending =>
      simp only [Option.filter_eq_some_iff, Option.some.injEq, Bool.not_eq_true',
        decide_eq_false_iff_not, not_le]

theorem expireChallenges_narrows (now : Nat) : manager.Narrows (manager.expireChallenges now).1 :=
  fun _ _ found => ((manager.expireChallenges_lookup_iff ..).mp found).1

theorem removePlayerChallenges_lookup_iff (userId : UserId) (challengeId : ChallengeId)
    (challenge : PendingChallenge) :
    (manager.removePlayerChallenges userId).challenges[challengeId]? = some challenge ↔
      manager.challenges[challengeId]? = some challenge ∧
        ¬(challenge.challengerId = userId ∨ challenge.targetId = userId) := by
  simp only [removePlayerChallenges, Table.lookup_eraseAll, Table.mem_keysWhere, decide_eq_true_eq]
  split
  next listed =>
    obtain ⟨pending, found, involved⟩ := listed
    refine iff_of_false (by simp) ?_
    rintro ⟨same, apart⟩
    obtain rfl := Option.some.inj (found.symm.trans same)
    exact apart involved
  next unlisted =>
    constructor
    · exact fun found => ⟨found, fun involved => unlisted ⟨challenge, found, involved⟩⟩
    · exact And.left

theorem removePlayerChallenges_narrows (userId : UserId) :
    manager.Narrows (manager.removePlayerChallenges userId) :=
  fun _ _ found => ((manager.removePlayerChallenges_lookup_iff ..).mp found).1

end ChallengeManager

end Battleship
