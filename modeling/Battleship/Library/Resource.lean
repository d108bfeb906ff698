import Mathlib.Logic.Function.Basic

/-! A resource that several threads can take while it is listed. Who has it is to
use it once and to remove it after that, but nothing keeps two threads from having
it. As long as nobody takes what another has, it is used once. -/

@[ext] structure Resource (Thread Record : Type*) where
  listed : Bool
  toUse : Thread → Bool
  toRemove : Thread → Bool
  record : Record

namespace Resource

variable {Thread Record : Type*} [DecidableEq Thread]

/-- What the step of a thread does to the resource; `takes` tells the steps that may take it. -/
inductive Change (uses : Record → Record → Prop) (takes : Prop) (thread : Thread)
    (resource : Resource Thread Record) : Resource Thread Record → Prop
  | kept : Change uses takes thread resource resource
  | took (taking : takes) (listed : resource.listed = true) (idle : resource.toRemove thread = false) :
      Change uses takes thread resource { resource with
        toUse := Function.update resource.toUse thread true
        toRemove := Function.update resource.toRemove thread true }
  | used {record : Record} (due : resource.toUse thread = true)
      (written : uses resource.record record) : Change uses takes thread resource { resource with
        toUse := Function.update resource.toUse thread false
        record := record }
  | removed (due : resource.toRemove thread = true) (used : resource.toUse thread = false) :
      Change uses takes thread resource { resource with
        listed := false
        toRemove := Function.update resource.toRemove thread false }

/-- At most one thread has the resource, and it was used at most once since `first`. -/
structure UsedOnce (uses : Record → Record → Prop) (first : Record)
    (resource : Resource Thread Record) : Prop where
  single : ∀ thread other, resource.toRemove thread = true → resource.toRemove other = true →
    thread = other
  removes : ∀ thread, resource.toUse thread = true → resource.toRemove thread = true
  unused : ∀ thread, resource.toUse thread = true → resource.record = first
  fresh : resource.listed = true → (∀ thread, resource.toRemove thread = false) →
    resource.record = first
  once : resource.record = first ∨ uses first resource.record

variable {uses : Record → Record → Prop} {takes : Prop} {first : Record} {thread : Thread}
  {resource later : Resource Thread Record}

omit [DecidableEq Thread] in
theorem usedOnce_of_idle (idle : ∀ thread, resource.toRemove thread = false)
    (unused : ∀ thread, resource.toUse thread = false) :
    UsedOnce uses resource.record resource := by
  refine ⟨?_, ?_, ?_, fun _ _ => rfl, Or.inl rfl⟩
  · intro thread other has
    simp [idle] at has
  · intro thread due
    simp [unused] at due
  · intro thread due
    simp [unused] at due

section Updates

variable {test : Thread → Bool} {other : Thread}

theorem eq_of_update_true (alone : ∀ other, other ≠ thread → test other = false)
    (has : Function.update test thread true other = true) : other = thread := by
  by_contra different
  rw [Function.update_of_ne different, alone other different] at has
  cases has

theorem of_update_false (has : Function.update test thread false other = true) :
    other ≠ thread ∧ test other = true := by
  by_cases same : other = thread
  · rw [same, Function.update_self] at has
    cases has
  · rw [Function.update_of_ne same] at has
    exact ⟨same, has⟩

end Updates

/-- A thread that does not take what another has keeps the resource from being used twice. -/
theorem UsedOnce.change (sound : UsedOnce uses first resource)
    (change : Change uses takes thread resource later)
    (alone : takes → ∀ other, other ≠ thread → resource.toRemove other = false) :
    UsedOnce uses first later := by
  cases change with
  | kept => exact sound
  | took taking listed idle =>
      have others := alone taking
      have nobody : ∀ other, resource.toRemove other = false := by
        intro other
        by_cases same : other = thread
        · rw [same, idle]
        · exact others other same
      have unused := sound.fresh listed nobody
      refine ⟨?_, ?_, fun _ _ => unused, fun _ _ => unused, Or.inl unused⟩
      · intro one other has otherHas
        rw [eq_of_update_true others has, eq_of_update_true others otherHas]
      · intro other due
        by_cases same : other = thread
        · simp [same]
        · have before := (Function.update_of_ne same ..).symm.trans due
          exact (Function.update_of_ne same ..).trans (sound.removes other before)
  | used due written =>
      have removes := sound.removes thread due
      have nobody : ∀ other, other ≠ thread → resource.toUse other = false := by
        intro other different
        by_contra busy
        rw [Bool.not_eq_false] at busy
        exact different (sound.single other thread (sound.removes other busy) removes)
      refine ⟨sound.single, ?_, ?_, ?_, ?_⟩
      · intro other later
        exact sound.removes other (of_update_false later).2
      · intro other later
        obtain ⟨different, busy⟩ := of_update_false later
        rw [nobody other different] at busy
        cases busy
      · intro _ gone
        rw [gone thread] at removes
        cases removes
      · rw [sound.unused thread due] at written
        exact Or.inr written
  | removed due used =>
      refine ⟨?_, ?_, sound.unused, ?_, sound.once⟩
      · intro one other has otherHas
        exact sound.single one other (of_update_false has).2 (of_update_false otherHas).2
      · intro other busy
        have removes := sound.removes other busy
        have different : other ≠ thread := by
          intro same
          rw [same, used] at busy
          cases busy
        exact (Function.update_of_ne different ..).trans removes
      · intro listed
        cases listed

end Resource
