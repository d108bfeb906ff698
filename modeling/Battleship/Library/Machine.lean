import Mathlib.Data.List.Induction

/-! Runs of a deterministic machine: `step` takes a state and an event to the
next state, and a run is a finite list of events. The nondeterminism of a
system (who acts next, what the clock reads) is carried by its events. -/

namespace Machine

variable {State Event : Type*} (step : State → Event → State)

def exec (start : State) (events : List Event) : State :=
  events.foldl step start

@[simp] theorem exec_nil (start : State) : exec step start [] = start := rfl

@[simp] theorem exec_cons (start : State) (event : Event) (events : List Event) :
    exec step start (event :: events) = exec step (step start event) events := rfl

@[simp] theorem exec_append (start : State) (first second : List Event) :
    exec step start (first ++ second) = exec step (exec step start first) second := by
  simp [exec]

def outputs {Output : Type*} (output : State → Event → Option Output) : State → List Event →
    List Output
  | _, [] => []
  | state, event :: events =>
      (output state event).toList ++ outputs output (step state event) events

theorem outputs_concat {Output : Type*} (output : State → Event → Option Output) (start : State)
    (before : List Event) (event : Event) :
    outputs step output start (before ++ [event]) = outputs step output start before ++
      (output (exec step start before) event).toList := by
  induction before generalizing start with
  | nil => simp [outputs]
  | cons first rest ih => simp [outputs, ih]

/-- What is read of the state is the same without the events that do not concern it. -/
theorem exec_filter {Reading : Type*} (read : State → Reading) {test : Event → Bool}
    (silent : ∀ state event, test event = false → read (step state event) = read state)
    (determined : ∀ first second event, read first = read second →
      read (step first event) = read (step second event))
    (start : State) (events : List Event) :
    read (exec step start events) = read (exec step start (events.filter test)) := by
  induction events using List.reverseRecOn with
  | nil => rfl
  | append_singleton before event ih =>
      rw [List.filter_append, exec_append, exec_append, exec_cons, exec_nil]
      cases concerned : test event with
      | false =>
          rw [List.filter_cons_of_neg (by simp [concerned]), silent _ _ concerned]
          exact ih
      | true =>
          rw [List.filter_cons_of_pos concerned]
          exact determined _ _ event ih

def StepOf (events before : List Event) (event : Event) : Prop :=
  ∃ after, events = before ++ event :: after

theorem stepOf_append_left {events before : List Event} {event : Event} (later : List Event)
    (taken : StepOf events before event) : StepOf (events ++ later) before event := by
  obtain ⟨after, rfl⟩ := taken
  exact ⟨after ++ later, by simp⟩

theorem stepOf_last (before : List Event) (event : Event) :
    StepOf (before ++ [event]) before event := ⟨[], by simp⟩

theorem stepOf_concat {events before : List Event} {last event : Event}
    (taken : StepOf (events ++ [last]) before event) :
    (before = events ∧ event = last) ∨ StepOf events before event := by
  obtain ⟨after, split⟩ := taken
  rcases List.eq_nil_or_concat after with rfl | ⟨rest, final, rfl⟩
  · left
    have parts := List.append_inj' split rfl
    simp only [List.cons.injEq, and_true] at parts
    exact ⟨parts.1.symm, parts.2.symm⟩
  · right
    refine ⟨rest, ?_⟩
    have shape : events ++ [last] = (before ++ event :: rest) ++ [final] := by
      simpa [List.concat_eq_append] using split
    exact (List.append_inj' shape rfl).1

def Respects (allowed : State → Event → Prop) (start : State) (events : List Event) : Prop :=
  ∀ before event, StepOf events before event → allowed (exec step start before) event

@[simp] theorem respects_nil (allowed : State → Event → Prop) (start : State) :
    Respects step allowed start [] := by
  rintro before event ⟨after, split⟩
  simp at split

theorem respects_cons {allowed : State → Event → Prop} {start : State} {event : Event}
    {events : List Event} : Respects step allowed start (event :: events) ↔
      allowed start event ∧ Respects step allowed (step start event) events := by
  constructor
  · intro respected
    refine ⟨respected [] event ⟨events, rfl⟩, ?_⟩
    rintro before later ⟨after, rfl⟩
    exact respected (event :: before) later ⟨after, rfl⟩
  · rintro ⟨first, others⟩ before later ⟨after, split⟩
    cases before with
    | nil =>
        obtain ⟨rfl, rfl⟩ : event = later ∧ events = after := by simpa using split
        exact first
    | cons head before =>
        obtain ⟨rfl, rfl⟩ : event = head ∧ events = before ++ later :: after := by simpa using split
        exact others before later ⟨after, rfl⟩

instance decidableRespects (allowed : State → Event → Prop)
    [∀ state event, Decidable (allowed state event)] :
    ∀ (start : State) (events : List Event), Decidable (Respects step allowed start events)
  | start, [] => isTrue (respects_nil step allowed start)
  | start, event :: events =>
      have := decidableRespects allowed (step start event) events
      decidable_of_iff _ (respects_cons step).symm

theorem Respects.of_append {allowed : State → Event → Prop} {start : State}
    {events later : List Event} (respected : Respects step allowed start (events ++ later)) :
    Respects step allowed start events := by
  intro before event taken
  exact respected before event (stepOf_append_left later taken)

/-- Of two records of a run, one misses what the steps that are not allowed add to the other. -/
theorem outputs_sublist_iff {Output : Type*} {kept whole : State → Event → Option Output}
    {allowed : State → Event → Prop} {sound : State → Prop}
    (preserved : ∀ state event, sound state → sound (step state event))
    (keeps : ∀ state event, sound state → allowed state event →
      kept state event = whole state event)
    (misses : ∀ state event, sound state → ¬allowed state event →
      kept state event = none ∧ whole state event ≠ none) (start : State) (initial : sound start)
    (events : List Event) :
    (outputs step kept start events).Sublist (outputs step whole start events) ∧
      (outputs step kept start events = outputs step whole start events ↔
        Respects step allowed start events) := by
  induction events generalizing start with
  | nil => exact ⟨List.Sublist.refl [], by simp [outputs]⟩
  | cons event events ih =>
      obtain ⟨sublist, same⟩ := ih (step start event) (preserved start event initial)
      rw [respects_cons, outputs, outputs]
      by_cases permitted : allowed start event
      · rw [keeps start event initial permitted, List.append_cancel_left_eq, same]
        exact ⟨(List.Sublist.refl _).append sublist, by simp [permitted]⟩
      · obtain ⟨none, some⟩ := misses start event initial permitted
        obtain ⟨output, found⟩ := Option.ne_none_iff_exists'.mp some
        rw [none, found, Option.toList_none, Option.toList_some, List.nil_append,
          List.singleton_append]
        refine ⟨sublist.cons output, iff_of_false (fun equal => ?_) fun both => permitted both.1⟩
        have shorter := sublist.length_le
        rw [equal, List.length_cons] at shorter
        omega

/-- Induction on a run from its end: what holds of no events and is carried
across each allowed step holds of the whole run. -/
theorem run_induction {allowed : State → Event → Prop} {start : State}
    {motive : List Event → Prop} (initial : motive [])
    (carried : ∀ before event, allowed (exec step start before) event →
      motive before → motive (before ++ [event])) :
    ∀ events, Respects step allowed start events → motive events := by
  intro events
  induction events using List.reverseRecOn with
  | nil => exact fun _ => initial
  | append_singleton before event ih =>
      intro respected
      exact carried before event (respected before event (stepOf_last before event))
        (ih respected.of_append)

theorem invariant_of_respects {allowed : State → Event → Prop} {motive : State → Prop}
    {start : State} (initial : motive start)
    (preserved : ∀ state event, allowed state event → motive state → motive (step state event)) :
    ∀ events, Respects step allowed start events → motive (exec step start events) := by
  apply run_induction step (motive := fun events => motive (exec step start events)) initial
  intro before event permitted current
  simpa using preserved _ event permitted current

theorem respects_true (start : State) (events : List Event) :
    Respects step (fun _ _ => True) start events :=
  fun _ _ _ => trivial

theorem invariant {motive : State → Prop} {start : State} (initial : motive start)
    (preserved : ∀ state event, motive state → motive (step state event)) (events : List Event) :
    motive (exec step start events) :=
  invariant_of_respects step initial (fun state event _ => preserved state event) events
    (respects_true step start events)

/-- Where each step decides whether a property lasts, it lasts through a run exactly
when every step is allowed. -/
theorem always_iff_respects {allowed : State → Event → Prop} (sound : State → Prop)
    {motive : State → Prop} {start : State} (initial : sound start)
    (preserved : ∀ state event, sound state → sound (step state event)) (holds : motive start)
    (decided : ∀ state event, sound state → motive state →
      (motive (step state event) ↔ allowed state event)) (events : List Event) :
    (∀ early, early <+: events → motive (exec step start early)) ↔
      Respects step allowed start events := by
  constructor
  · rintro always before event ⟨after, rfl⟩
    have current := invariant step initial preserved before
    refine (decided _ event current (always before (List.prefix_append _ _))).mp ?_
    simpa using always (before ++ [event]) ⟨after, by simp⟩
  · rintro respected early ⟨later, rfl⟩
    refine (invariant_of_respects step (motive := fun state => sound state ∧ motive state)
      ⟨initial, holds⟩ ?_ early respected.of_append).2
    rintro state event permitted ⟨current, held⟩
    exact ⟨preserved state event current, (decided state event current held).mpr permitted⟩

/-- Some step of the run was a `mark`, and every step after it is a `keep`: the
temporal operator "since", as a monitor that reads the run event by event. -/
inductive Since (mark keep : State → Event → Prop) (start : State) : List Event → Prop
  | marked {before : List Event} {event : Event} (now : mark (exec step start before) event) :
      Since mark keep start (before ++ [event])
  | kept {before : List Event} {event : Event} (early : Since mark keep start before)
      (held : keep (exec step start before) event) : Since mark keep start (before ++ [event])

theorem not_since_nil {mark keep : State → Event → Prop} {start : State} :
    ¬Since step mark keep start [] := by
  intro since
  generalize empty : ([] : List Event) = events at since
  cases since with
  | marked now => simp at empty
  | kept early held => simp at empty

theorem since_concat {mark keep : State → Event → Prop} {start : State} {before : List Event}
    {event : Event} : Since step mark keep start (before ++ [event]) ↔
      mark (exec step start before) event ∨
        Since step mark keep start before ∧ keep (exec step start before) event := by
  constructor
  · intro since
    generalize shape : before ++ [event] = events at since
    cases since with
    | marked now =>
        obtain ⟨rfl, same⟩ := List.append_inj' shape rfl
        obtain rfl := List.singleton_inj.mp same
        exact Or.inl now
    | kept early held =>
        obtain ⟨rfl, same⟩ := List.append_inj' shape rfl
        obtain rfl := List.singleton_inj.mp same
        exact Or.inr ⟨early, held⟩
  · rintro (now | ⟨early, held⟩)
    · exact .marked now
    · exact .kept early held

/-- The monitor computes a property that is false at the start, that a `mark`
makes true and that lasts as long as each step is a `keep`. -/
theorem since_iff_holds {mark keep : State → Event → Prop} {sound motive : State → Prop}
    {start : State} (initial : sound start)
    (preserved : ∀ state event, sound state → sound (step state event)) (never : ¬motive start)
    {events : List Event} (decided : ∀ state, ∀ event ∈ events, sound state →
      (motive (step state event) ↔ mark state event ∨ motive state ∧ keep state event)) :
    Since step mark keep start events ↔ motive (exec step start events) := by
  induction events using List.reverseRecOn with
  | nil => exact iff_of_false (not_since_nil step) never
  | append_singleton before event ih =>
      have current := invariant step initial preserved before
      have earlier := ih fun state event member => decided state event (List.mem_append_left _ member)
      rw [since_concat, earlier, exec_append, exec_cons, exec_nil,
        decided _ event (by simp) current]

/-- What is false at the start and holds at the end was made true by a `mark`, if it lasts
through a `keep` only. -/
theorem since_of_holds {mark keep : State → Event → Prop} (sound : State → Prop)
    {motive : State → Prop} {start : State} (initial : sound start)
    (preserved : ∀ state event, sound state → sound (step state event)) (never : ¬motive start)
    (carried : ∀ state event, sound state → motive (step state event) →
      mark state event ∨ motive state ∧ keep state event) {events : List Event}
    (holds : motive (exec step start events)) : Since step mark keep start events := by
  induction events using List.reverseRecOn with
  | nil => exact absurd holds never
  | append_singleton before event ih =>
      have current := invariant step initial preserved before
      rw [exec_append, exec_cons, exec_nil] at holds
      rw [since_concat]
      exact (carried _ event current holds).imp_right fun earlier => ⟨ih earlier.1, earlier.2⟩

theorem since_iff {mark keep : State → Event → Prop} {start : State} {events : List Event} :
    Since step mark keep start events ↔ ∃ early marked between,
      events = early ++ marked :: between ∧ mark (exec step start early) marked ∧
        Respects step keep (exec step start (early ++ [marked])) between := by
  constructor
  · intro since
    induction since with
    | @marked before event now => exact ⟨before, event, [], rfl, now, by simp [Respects, StepOf]⟩
    | @kept before event _ held ih =>
        obtain ⟨early, marked, between, rfl, now, respected⟩ := ih
        refine ⟨early, marked, between ++ [event], by simp, now, ?_⟩
        intro first later taken
        rcases stepOf_concat taken with ⟨rfl, rfl⟩ | earlier
        · simpa using held
        · exact respected first later earlier
  · rintro ⟨early, marked, between, rfl, now, respected⟩
    induction between using List.reverseRecOn with
    | nil => exact .marked now
    | append_singleton between event ih =>
        have since := ih respected.of_append
        have held := respected between event (stepOf_last between event)
        have shape : early ++ marked :: (between ++ [event]) =
            (early ++ marked :: between) ++ [event] := by simp
        rw [shape]
        exact .kept since (by simpa using held)

end Machine
