import Battleship.ServerCore
import Mathlib.Logic.Function.Basic

/-! Who is online with which status, and who sits in which active match. The
changes that keep everybody who plays in game are told apart from those that do
not. -/

namespace Battleship

@[ext] structure Activity where
  status : UserId → Option PlayerStatus
  seats : MatchId → Option (UserId × UserId)

inductive ActivityChange
  | none
  | appear (userId : UserId)
  | engage (challengerId targetId : UserId)
  | activate (matchId : MatchId) (player1Id player2Id : UserId)
  | conclude (ended : List MatchId) (gone : Option UserId)
  | restart

namespace Activity

def init : Activity := ⟨fun _ => none, fun _ => none⟩

def Seated (activity : Activity) (matchId : MatchId) (userId : UserId) : Prop :=
  ∃ seats, activity.seats matchId = some seats ∧ (userId = seats.1 ∨ userId = seats.2)

def Freed (activity : Activity) (ended : List MatchId) (userId : UserId) : Prop :=
  ∃ matchId ∈ ended, activity.Seated matchId userId

def setStatus (userId : UserId) (status : PlayerStatus) (activity : Activity) : Activity :=
  { activity with
    status := Function.update activity.status userId
      ((activity.status userId).map fun _ => status) }

def clear (matchId : MatchId) (activity : Activity) : Activity :=
  { activity with seats := Function.update activity.seats matchId none }

open Classical in
noncomputable def change (activity : Activity) : ActivityChange → Activity
  | .none => activity
  | .appear userId => { activity with
      status := Function.update activity.status userId (some .available) }
  | .engage challengerId targetId =>
      activity |>.setStatus challengerId .inGame |>.setStatus targetId .inGame
  | .activate matchId player1Id player2Id => { activity with
      seats := Function.update activity.seats matchId (some (player1Id, player2Id)) }
  | .conclude ended gone => {
      status := fun userId =>
        if gone = some userId then none
        else if activity.Freed ended userId then (activity.status userId).map fun _ => .available
        else activity.status userId
      seats := fun matchId => if matchId ∈ ended then none else activity.seats matchId }
  | .restart => init

def Busy (activity : Activity) : Prop :=
  ∀ matchId userId status, activity.Seated matchId userId → activity.status userId = some status →
    status = .inGame

def KeepsBusy (activity : Activity) : ActivityChange → Prop
  | .appear userId => ∀ matchId, ¬activity.Seated matchId userId
  | .activate _ player1Id player2Id => ∀ userId, userId = player1Id ∨ userId = player2Id →
      ∀ status, activity.status userId = some status → status = .inGame
  | .conclude ended gone => ∀ matchId userId, activity.Seated matchId userId → matchId ∉ ended →
      activity.Freed ended userId → gone ≠ some userId → activity.status userId = none
  | .none | .engage _ _ | .restart => True

theorem busy_init : init.Busy := by
  rintro matchId userId status ⟨seats, seated, _⟩
  simp [init] at seated

section Changes

variable {activity : Activity}

open Classical in
theorem status_conclude (ended : List MatchId) (gone : Option UserId) (userId : UserId) :
    (activity.change (.conclude ended gone)).status userId =
      if gone = some userId then none
      else if activity.Freed ended userId then (activity.status userId).map fun _ => .available
      else activity.status userId := rfl

theorem seated_conclude {ended : List MatchId} {gone : Option UserId} {matchId : MatchId}
    {userId : UserId} : (activity.change (.conclude ended gone)).Seated matchId userId ↔
      matchId ∉ ended ∧ activity.Seated matchId userId := by
  simp only [Seated, change]
  by_cases concluded : matchId ∈ ended
  · simp [concluded]
  · simp [concluded]

theorem seated_activate {matchId other : MatchId} {player1Id player2Id userId : UserId} :
    (activity.change (.activate matchId player1Id player2Id)).Seated other userId ↔
      if other = matchId then userId = player1Id ∨ userId = player2Id
      else activity.Seated other userId := by
  simp only [Seated, change, Function.update_apply]
  split
  · simp
  · rfl

variable (busy : activity.Busy)

include busy

theorem busy_appear (userId : UserId) : (activity.change (.appear userId)).Busy ↔
    activity.KeepsBusy (.appear userId) := by
  constructor
  · intro later matchId seated
    have wrong := later matchId userId .available seated (by simp [change])
    simp at wrong
  · intro free matchId shown status seated found
    have other : shown ≠ userId := by
      rintro rfl
      exact free matchId seated
    simp only [change, Function.update_of_ne other] at found
    exact busy matchId shown status seated found

theorem busy_setStatus (userId : UserId) : (activity.setStatus userId .inGame).Busy := by
  intro matchId shown status seated found
  simp only [setStatus, Function.update_apply] at found
  split at found
  · obtain ⟨_, _, engaged⟩ := Option.map_eq_some_iff.mp found
    exact engaged.symm
  · exact busy matchId shown status seated found

theorem busy_engage (challengerId targetId : UserId) :
    (activity.change (.engage challengerId targetId)).Busy :=
  busy_setStatus (busy_setStatus busy challengerId) targetId

theorem busy_activate (matchId : MatchId) (player1Id player2Id : UserId) :
    (activity.change (.activate matchId player1Id player2Id)).Busy ↔
      activity.KeepsBusy (.activate matchId player1Id player2Id) := by
  constructor
  · intro later userId seat status found
    exact later matchId userId status (by rwa [seated_activate, if_pos rfl]) found
  · intro engaged other userId status seated found
    rw [seated_activate] at seated
    split at seated
    · exact engaged userId seated status found
    · exact busy other userId status seated found

theorem busy_conclude (ended : List MatchId) (gone : Option UserId) :
    (activity.change (.conclude ended gone)).Busy ↔ activity.KeepsBusy (.conclude ended gone) := by
  constructor
  · intro later matchId userId seated running freed stays
    rw [Option.eq_none_iff_forall_ne_some]
    intro status found
    have wrong := later matchId userId .available (seated_conclude.mpr ⟨running, seated⟩)
      (by simp [change, stays, freed, found])
    simp at wrong
  · intro kept matchId userId status seated found
    obtain ⟨running, seated⟩ := seated_conclude.mp seated
    simp only [change] at found
    split_ifs at found with leaves freed
    · rw [kept matchId userId seated running freed leaves] at found
      simp at found
    · exact busy matchId userId status seated found

theorem busy_change (change : ActivityChange) :
    (activity.change change).Busy ↔ activity.KeepsBusy change := by
  cases change with
  | none => exact iff_of_true busy trivial
  | appear userId => exact busy_appear busy userId
  | engage challengerId targetId => exact iff_of_true (busy_engage busy challengerId targetId) trivial
  | activate matchId player1Id player2Id => exact busy_activate busy matchId player1Id player2Id
  | conclude ended gone => exact busy_conclude busy ended gone
  | restart => exact iff_of_true busy_init trivial

end Changes

structure AgreesBut (gone : UserId) (first second : Activity) : Prop where
  status : ∀ userId, userId ≠ gone → first.status userId = second.status userId
  seats : first.seats = second.seats

theorem freed_single (activity : Activity) (matchId : MatchId) (userId : UserId) :
    activity.Freed [matchId] userId ↔ activity.Seated matchId userId := by
  simp [Freed]

theorem conclude_absent {activity : Activity} {matchId : MatchId}
    (absent : activity.seats matchId = none) :
    activity.change (.conclude [matchId] none) = activity := by
  apply Activity.ext
  · funext userId
    rw [status_conclude, if_neg (by simp), if_neg]
    simp [freed_single, Seated, absent]
  · funext other
    by_cases same : other = matchId
    · simp [change, same, absent]
    · simp [change, same]

theorem conclude_single {activity : Activity} {matchId : MatchId} {player1Id player2Id : UserId}
    (seats : activity.seats matchId = some (player1Id, player2Id)) :
    activity.change (.conclude [matchId] none) =
      ((activity.setStatus player1Id .available).setStatus player2Id .available).clear matchId := by
  apply Activity.ext
  · funext userId
    have freed : activity.Freed [matchId] userId ↔ userId = player1Id ∨ userId = player2Id := by
      simp [freed_single, Seated, seats]
    rw [status_conclude, if_neg (by simp)]
    simp only [clear, setStatus, Function.update_apply]
    by_cases first : userId = player1Id
    · rw [if_pos (freed.mpr (Or.inl first))]
      subst first
      by_cases second : userId = player2Id
      · subst second
        cases activity.status userId <;> simp
      · simp [second]
    · by_cases second : userId = player2Id
      · rw [if_pos (freed.mpr (Or.inr second))]
        simp [← second, first]
      · rw [if_neg (mt freed.mp (not_or.mpr ⟨first, second⟩))]
        simp [first, second]
  · funext other
    by_cases same : other = matchId
    · simp [change, clear, same]
    · simp [change, clear, same, setStatus]

theorem conclude_nil (activity : Activity) : activity.change (.conclude [] none) = activity := by
  simp [change, Freed]

/-- Matches concluded one after the other are concluded together. -/
theorem conclude_concat (activity : Activity) (ended : List MatchId) (matchId : MatchId) :
    (activity.change (.conclude ended none)).change (.conclude [matchId] none) =
      activity.change (.conclude (ended ++ [matchId]) none) := by
  have freed (userId : UserId) : activity.Freed (ended ++ [matchId]) userId ↔
      activity.Freed ended userId ∨
        (activity.change (.conclude ended none)).Freed [matchId] userId := by
    simp only [Freed, seated_conclude, List.mem_append, List.mem_singleton, exists_eq_left]
    constructor
    · rintro ⟨other, member | rfl, seated⟩
      · exact Or.inl ⟨other, member, seated⟩
      · by_cases before : other ∈ ended
        · exact Or.inl ⟨other, before, seated⟩
        · exact Or.inr ⟨before, seated⟩
    · rintro (⟨other, member, seated⟩ | ⟨_, seated⟩)
      · exact ⟨other, Or.inl member, seated⟩
      · exact ⟨matchId, Or.inr rfl, seated⟩
  apply Activity.ext
  · funext userId
    have either := freed userId
    simp only [status_conclude, reduceCtorEq, if_false]
    by_cases early : activity.Freed ended userId
    · rw [if_pos early, if_pos (either.mpr (Or.inl early))]
      cases activity.status userId <;> simp
    · rw [if_neg early]
      by_cases late : (activity.change (.conclude ended none)).Freed [matchId] userId
      · rw [if_pos late, if_pos (either.mpr (Or.inr late))]
      · rw [if_neg late, if_neg fun freed => (either.mp freed).elim early late]
  · funext other
    simp only [change, List.mem_append, List.mem_singleton]
    by_cases before : other ∈ ended
    · simp [before]
    · simp [before]

theorem conclude_gone (activity : Activity) (ended : List MatchId) (gone : UserId) :
    (activity.change (.conclude ended none)).change (.conclude [] (some gone)) =
      activity.change (.conclude ended (some gone)) := by
  apply Activity.ext
  · funext userId
    have nobody : ¬(activity.change (.conclude ended none)).Freed [] userId := by simp [Freed]
    simp only [status_conclude, if_neg nobody, reduceCtorEq, if_false]
  · simp [change]

theorem AgreesBut.trans {gone : UserId} {first second third : Activity}
    (early : AgreesBut gone first second) (late : AgreesBut gone second third) :
    AgreesBut gone first third :=
  ⟨fun userId other => (early.status userId other).trans (late.status userId other),
    early.seats.trans late.seats⟩

theorem AgreesBut.concluded {gone : UserId} {first second : Activity}
    (agrees : AgreesBut gone first second) (ended : List MatchId) :
    AgreesBut gone (first.change (.conclude ended none)) (second.change (.conclude ended none)) := by
  have freed (userId : UserId) : first.Freed ended userId ↔ second.Freed ended userId := by
    simp only [Freed, Seated, agrees.seats]
  constructor
  · intro userId other
    rw [status_conclude, status_conclude, agrees.status userId other]
    by_cases released : first.Freed ended userId
    · rw [if_pos released, if_pos ((freed userId).mp released)]
    · rw [if_neg released, if_neg (mt (freed userId).mpr released)]
  · simp only [change, agrees.seats]

theorem AgreesBut.left {gone : UserId} {first second : Activity}
    (agrees : AgreesBut gone first second) :
    first.change (.conclude [] (some gone)) = second.change (.conclude [] (some gone)) := by
  apply Activity.ext
  · funext userId
    by_cases same : gone = userId
    · simp [change, same]
    · simp [change, same, Freed, agrees.status userId (Ne.symm same)]
  · simp [change, agrees.seats]

end Activity

end Battleship
