import Mathlib.Data.Fintype.EquivFin
import Mathlib.Data.Fintype.Lattice
import Mathlib.Data.List.Nodup
import Mathlib.Logic.Relation
import Mathlib.Tactic.Tauto

/-! Locks that are held for the length of a block. Any number of threads run such code, more
may start at any time, a handler may come in on top of a thread, and an effect may wait for
threads to end. A discipline gives each lock a rank, each role of a thread a level, and says
what may be done under a lock; code that passes its check never comes to a deadlock, however
the threads are interleaved, and does nothing under a lock that the lock does not allow. -/

namespace Locks

inductive Code (Lock Effect : Type*)
  | skip
  | effect (effect : Effect)
  | locked (lock : Lock) (body : Code Lock Effect)
  | seq (first second : Code Lock Effect)
  | choice (first second : Code Lock Effect)
  | loop (body : Code Lock Effect)

inductive Frame (Lock Effect : Type*)
  | run (code : Code Lock Effect)
  | release (lock : Lock)

abbrev Thread (Lock Effect : Type*) := List (Frame Lock Effect)

structure Worker (Role Lock Effect : Type*) where
  role : Role
  thread : Thread Lock Effect

abbrev Pool (Role Lock Effect : Type*) := List (Worker Role Lock Effect)

variable {Role Lock Effect : Type*}

namespace Code

def block : List (Code Lock Effect) → Code Lock Effect
  | [] => skip
  | first :: rest => seq first (block rest)

/-- A guard of the whole call: what follows is left out when the call returns early. -/
def optional (code : Code Lock Effect) : Code Lock Effect := choice skip code

def branch : List (Code Lock Effect) → Code Lock Effect
  | [] => skip
  | first :: rest => choice first (branch rest)

end Code

def Frame.lock? : Frame Lock Effect → Option Lock
  | run _ => none
  | release lock => some lock

def Thread.held (thread : Thread Lock Effect) : List Lock := thread.filterMap Frame.lock?

@[simp] theorem held_nil : Thread.held ([] : Thread Lock Effect) = [] := rfl

@[simp] theorem held_run (code : Code Lock Effect) (rest : Thread Lock Effect) :
    Thread.held (.run code :: rest) = rest.held := rfl

@[simp] theorem held_release (lock : Lock) (rest : Thread Lock Effect) :
    Thread.held (.release lock :: rest) = lock :: rest.held := rfl

def Pool.held (pool : Pool Role Lock Effect) : List Lock :=
  pool.flatMap fun worker => worker.thread.held

def Pool.Ended (pool : Pool Role Lock Effect) (role : Role) : Prop :=
  ∀ worker ∈ pool, worker.role = role → worker.thread = []

/-- A thread goes on, where the locks that `free` tells can be taken and the effects that
`ready` tells do not wait. -/
inductive ThreadStep (free : Lock → Prop) (ready : Effect → Prop) :
    Thread Lock Effect → Thread Lock Effect → Prop
  | skip (rest : Thread Lock Effect) : ThreadStep free ready (.run .skip :: rest) rest
  | effect {effect : Effect} (now : ready effect) (rest : Thread Lock Effect) :
      ThreadStep free ready (.run (.effect effect) :: rest) rest
  | acquire {lock : Lock} (available : free lock) (body : Code Lock Effect)
      (rest : Thread Lock Effect) :
      ThreadStep free ready (.run (.locked lock body) :: rest) (.run body :: .release lock :: rest)
  | release (lock : Lock) (rest : Thread Lock Effect) :
      ThreadStep free ready (.release lock :: rest) rest
  | seq (first second : Code Lock Effect) (rest : Thread Lock Effect) :
      ThreadStep free ready (.run (.seq first second) :: rest) (.run first :: .run second :: rest)
  | left (first second : Code Lock Effect) (rest : Thread Lock Effect) :
      ThreadStep free ready (.run (.choice first second) :: rest) (.run first :: rest)
  | right (first second : Code Lock Effect) (rest : Thread Lock Effect) :
      ThreadStep free ready (.run (.choice first second) :: rest) (.run second :: rest)
  | again (body : Code Lock Effect) (rest : Thread Lock Effect) :
      ThreadStep free ready (.run (.loop body) :: rest) (.run body :: .run (.loop body) :: rest)
  | leave (body : Code Lock Effect) (rest : Thread Lock Effect) :
      ThreadStep free ready (.run (.loop body) :: rest) rest

theorem ThreadStep.mono {free larger : Lock → Prop} {ready wider : Effect → Prop}
    {thread later : Thread Lock Effect} (step : ThreadStep free ready thread later)
    (locks : ∀ lock, free lock → larger lock) (effects : ∀ effect, ready effect → wider effect) :
    ThreadStep larger wider thread later := by
  cases step with
  | acquire available body rest => exact .acquire (locks _ available) body rest
  | effect now => exact .effect (effects _ now) later
  | skip | release | seq | left | right | again | leave => constructor

/-- What threads are started with, what may come in on top of a thread, and the role whose
threads an effect waits for. -/
structure Program (Role Lock Effect : Type*) where
  entry : Role → Code Lock Effect → Prop
  interrupts : Worker Role Lock Effect → Code Lock Effect → Prop
  awaits : Effect → Option Role

def Pool.Ready (pool : Pool Role Lock Effect) (awaits : Effect → Option Role) (effect : Effect) :
    Prop :=
  ∀ role ∈ awaits effect, pool.Ended role

inductive PoolMove (awaits : Effect → Option Role) :
    Pool Role Lock Effect → Pool Role Lock Effect → Prop
  | at (before : Pool Role Lock Effect) {worker : Worker Role Lock Effect}
      {later : Thread Lock Effect} (after : Pool Role Lock Effect)
      (step : ThreadStep (fun lock => lock ∉ Pool.held (before ++ worker :: after))
        (Pool.Ready (before ++ worker :: after) awaits) worker.thread later) :
      PoolMove awaits (before ++ worker :: after) (before ++ ⟨worker.role, later⟩ :: after)

inductive Step (program : Program Role Lock Effect) :
    Pool Role Lock Effect → Pool Role Lock Effect → Prop
  | start {role : Role} {code : Code Lock Effect} (enters : program.entry role code)
      (pool : Pool Role Lock Effect) : Step program pool (pool ++ [⟨role, [.run code]⟩])
  | interrupt (before : Pool Role Lock Effect) {worker : Worker Role Lock Effect}
      {code : Code Lock Effect} (after : Pool Role Lock Effect)
      (comes : program.interrupts worker code) :
      Step program (before ++ worker :: after)
        (before ++ ⟨worker.role, .run code :: worker.thread⟩ :: after)
  | move {pool later : Pool Role Lock Effect} (move : PoolMove program.awaits pool later) :
      Step program pool later

def Reachable (program : Program Role Lock Effect) (pool : Pool Role Lock Effect) : Prop :=
  Relation.ReflTransGen (Step program) [] pool

section Exclusion

variable {before after : Pool Role Lock Effect} {thread later : Thread Lock Effect}

theorem pool_held_append (first second : Pool Role Lock Effect) :
    Pool.held (first ++ second) = Pool.held first ++ Pool.held second :=
  List.flatMap_append

theorem pool_held_cons (worker : Worker Role Lock Effect) (rest : Pool Role Lock Effect) :
    Pool.held (worker :: rest) = worker.thread.held ++ Pool.held rest :=
  List.flatMap_cons

theorem mem_pool_held {pool : Pool Role Lock Effect} {lock : Lock} :
    lock ∈ Pool.held pool ↔ ∃ worker ∈ pool, lock ∈ worker.thread.held :=
  List.mem_flatMap

/-- A step takes a free lock, releases the last one that was taken, or leaves the locks alone. -/
theorem ThreadStep.held {free : Lock → Prop} {ready : Effect → Prop}
    (step : ThreadStep free ready thread later) :
    later.held = thread.held ∨ (∃ lock, free lock ∧ later.held = lock :: thread.held) ∨
      ∃ lock, thread.held = lock :: later.held := by
  cases step with
  | acquire available body rest => exact Or.inr (Or.inl ⟨_, available, rfl⟩)
  | release lock rest => exact Or.inr (Or.inr ⟨lock, rfl⟩)
  | skip | effect | seq | left | right | again | leave => exact Or.inl rfl

/-- No lock is held twice. -/
theorem PoolMove.nodup {awaits : Effect → Option Role} {pool later : Pool Role Lock Effect}
    (move : PoolMove awaits pool later) (exclusive : (Pool.held pool).Nodup) :
    (Pool.held later).Nodup := by
  obtain @⟨before, worker, next, after, step⟩ := move
  simp only [pool_held_append, pool_held_cons] at exclusive ⊢
  rcases step.held with same | ⟨lock, free, taken⟩ | ⟨lock, released⟩
  · rwa [same]
  · rw [pool_held_append, pool_held_cons] at free
    rw [taken, List.cons_append, List.perm_middle.nodup_iff]
    exact List.nodup_cons.mpr ⟨free, exclusive⟩
  · rw [released, List.cons_append, List.perm_middle.nodup_iff] at exclusive
    exact (List.nodup_cons.mp exclusive).2

theorem Reachable.nodup {program : Program Role Lock Effect} {pool : Pool Role Lock Effect}
    (reachable : Reachable program pool) : (Pool.held pool).Nodup := by
  induction reachable with
  | refl => exact List.nodup_nil
  | tail _ step ih =>
      cases step with
      | start enters pool =>
          rw [pool_held_append]
          simpa [Pool.held] using ih
      | interrupt before after comes =>
          rw [pool_held_append, pool_held_cons] at ih ⊢
          exact ih
      | move move => exact move.nodup ih

end Exclusion

/-- An order to take the locks in, what may be done while a lock is held, and who may wait
for whom: a thread waits only for threads of a lower level, and under no lock. -/
structure Discipline (Role Lock Effect : Type*) where
  rank : Lock → Nat
  allows : Lock → Effect → Bool
  level : Role → Nat

namespace Discipline

variable (discipline : Discipline Role Lock Effect) (awaits : Effect → Option Role) (role : Role)

def check (held : List Lock) : Code Lock Effect → Bool
  | .skip => true
  | .effect effect => held.all (discipline.allows · effect) &&
      (awaits effect).all fun other =>
        held.isEmpty && discipline.level other < discipline.level role
  | .locked lock body =>
      held.all (discipline.rank · < discipline.rank lock) && check (lock :: held) body
  | .seq first second => check held first && check held second
  | .choice first second => check held first && check held second
  | .loop body => check held body

def Keeps : Thread Lock Effect → Prop
  | [] => True
  | .run code :: rest => discipline.check awaits role (Thread.held rest) code = true ∧ Keeps rest
  | .release lock :: rest =>
      (∀ other ∈ Thread.held rest, discipline.rank other < discipline.rank lock) ∧ Keeps rest

/-- All that is started passes the check, and so does what comes in on top of a thread, which
then holds no lock. -/
structure Governs (program : Program Role Lock Effect) : Prop where
  entry : ∀ role code, program.entry role code →
    discipline.check program.awaits role [] code = true
  interrupts : ∀ worker code, program.interrupts worker code →
    worker.thread.held = [] ∧ discipline.check program.awaits worker.role [] code = true

variable {discipline awaits role} {thread later : Thread Lock Effect}

theorem Keeps.step {free : Lock → Prop} {ready : Effect → Prop}
    (keeps : discipline.Keeps awaits role thread) (step : ThreadStep free ready thread later) :
    discipline.Keeps awaits role later := by
  cases step with
  | skip rest => exact keeps.2
  | effect now rest => exact keeps.2
  | @acquire lock available body rest =>
      obtain ⟨checked, kept⟩ := keeps
      rw [check, Bool.and_eq_true, List.all_eq_true] at checked
      exact ⟨checked.2, fun other member => of_decide_eq_true (checked.1 other member), kept⟩
  | release lock rest => exact keeps.2
  | seq first second rest =>
      obtain ⟨checked, kept⟩ := keeps
      rw [check, Bool.and_eq_true] at checked
      exact ⟨checked.1, checked.2, kept⟩
  | left first second rest =>
      obtain ⟨checked, kept⟩ := keeps
      rw [check, Bool.and_eq_true] at checked
      exact ⟨checked.1, kept⟩
  | right first second rest =>
      obtain ⟨checked, kept⟩ := keeps
      rw [check, Bool.and_eq_true] at checked
      exact ⟨checked.2, kept⟩
  | again body rest => exact ⟨keeps.1, keeps⟩
  | leave body rest => exact keeps.2

def Holds (discipline : Discipline Role Lock Effect) (awaits : Effect → Option Role)
    (pool : Pool Role Lock Effect) : Prop :=
  ∀ worker ∈ pool, discipline.Keeps awaits worker.role worker.thread

theorem Holds.replace {before after : Pool Role Lock Effect} {worker : Worker Role Lock Effect}
    (holds : discipline.Holds awaits (before ++ worker :: after))
    (kept : discipline.Keeps awaits worker.role later) :
    discipline.Holds awaits (before ++ ⟨worker.role, later⟩ :: after) := by
  intro other member
  rw [List.mem_append, List.mem_cons] at member
  rcases member with old | rfl | old
  · exact holds other (by simp [old])
  · exact kept
  · exact holds other (by simp [old])

/-- Every thread of a reachable pool keeps to a discipline that governs the program. -/
theorem Governs.holds {program : Program Role Lock Effect} (governs : discipline.Governs program)
    {pool : Pool Role Lock Effect} (reachable : Reachable program pool) :
    discipline.Holds program.awaits pool := by
  induction reachable with
  | refl => exact fun _ member => absurd member List.not_mem_nil
  | tail _ step ih =>
      cases step with
      | start enters pool =>
          intro worker member
          rcases List.mem_append.mp member with old | new
          · exact ih worker old
          · obtain rfl := List.mem_singleton.mp new
            exact ⟨governs.entry _ _ enters, trivial⟩
      | @interrupt before worker code after comes =>
          obtain ⟨unlocked, checked⟩ := governs.interrupts worker code comes
          exact ih.replace ⟨unlocked ▸ checked, ih worker (by simp)⟩
      | move move =>
          obtain @⟨before, worker, next, after, step⟩ := move
          exact ih.replace ((ih worker (by simp)).step step)

end Discipline

section Progress

def Thread.Awaits (thread : Thread Lock Effect) (lock : Lock) : Prop :=
  ∃ body rest, thread = .run (.locked lock body) :: rest

def Thread.Does (thread : Thread Lock Effect) (effect : Effect) : Prop :=
  ∃ rest, thread = .run (.effect effect) :: rest

/-- A thread that is not done goes on, or waits for a lock that is not free, or for others. -/
theorem step_or_awaits (free : Lock → Prop) (ready : Effect → Prop) {thread : Thread Lock Effect}
    (busy : thread ≠ []) :
    (∃ later, ThreadStep free ready thread later) ∨ (∃ lock, thread.Awaits lock ∧ ¬free lock) ∨
      ∃ effect, thread.Does effect ∧ ¬ready effect := by
  cases thread with
  | nil => exact absurd rfl busy
  | cons frame rest =>
      cases frame with
      | release lock => exact Or.inl ⟨_, .release lock rest⟩
      | run code =>
          cases code with
          | skip => exact Or.inl ⟨_, .skip rest⟩
          | effect effect =>
              by_cases now : ready effect
              · exact Or.inl ⟨_, .effect now rest⟩
              · exact Or.inr (Or.inr ⟨effect, ⟨rest, rfl⟩, now⟩)
          | seq first second => exact Or.inl ⟨_, .seq first second rest⟩
          | choice first second => exact Or.inl ⟨_, .left first second rest⟩
          | loop body => exact Or.inl ⟨_, .leave body rest⟩
          | locked lock body =>
              by_cases available : free lock
              · exact Or.inl ⟨_, .acquire available body rest⟩
              · exact Or.inr (Or.inl ⟨lock, ⟨body, rest, rfl⟩, available⟩)

variable {discipline : Discipline Role Lock Effect} {awaits : Effect → Option Role} {role : Role}
  {thread : Thread Lock Effect} (keeps : discipline.Keeps awaits role thread)

include keeps

/-- Who waits for a lock holds only locks of a lower rank. -/
theorem rank_lt_of_awaits {lock other : Lock} (waiting : thread.Awaits lock)
    (holds : other ∈ thread.held) : discipline.rank other < discipline.rank lock := by
  obtain ⟨body, rest, rfl⟩ := waiting
  have checked := keeps.1
  rw [Discipline.check, Bool.and_eq_true, List.all_eq_true] at checked
  exact of_decide_eq_true (checked.1 other holds)

/-- Who waits for threads to end holds no lock, and they are of a lower level. -/
theorem level_lt_of_does {effect : Effect} (does : thread.Does effect) {other : Role}
    (awaited : other ∈ awaits effect) :
    thread.held = [] ∧ discipline.level other < discipline.level role := by
  obtain ⟨rest, rfl⟩ := does
  have checked := keeps.1
  rw [Discipline.check, awaited, Option.all_some, Bool.and_eq_true, Bool.and_eq_true,
    List.isEmpty_iff, decide_eq_true_eq] at checked
  exact checked.2

end Progress

section Deadlock

variable {discipline : Discipline Role Lock Effect} {awaits : Effect → Option Role}
  {pool : Pool Role Lock Effect}

/-- Why a thread that is not done does not go on. -/
theorem waits_of_stuck (stuck : ¬∃ later, PoolMove awaits pool later)
    {worker : Worker Role Lock Effect} (member : worker ∈ pool) (busy : worker.thread ≠ []) :
    (∃ lock, worker.thread.Awaits lock ∧ lock ∈ Pool.held pool) ∨
      ∃ effect other, worker.thread.Does effect ∧ other ∈ awaits effect ∧
        ∃ late ∈ pool, late.role = other ∧ late.thread ≠ [] := by
  obtain ⟨before, after, rfl⟩ := List.append_of_mem member
  rcases step_or_awaits (fun lock => lock ∉ Pool.held (before ++ worker :: after))
    (Pool.Ready (before ++ worker :: after) awaits) busy with
    ⟨later, step⟩ | ⟨lock, waiting, taken⟩ | ⟨effect, does, unready⟩
  · exact absurd ⟨_, .at before after step⟩ stuck
  · exact Or.inl ⟨lock, waiting, not_not.mp taken⟩
  · simp only [Pool.Ready, Pool.Ended, not_forall] at unready
    obtain ⟨other, awaited, late, present, named, running⟩ := unready
    exact Or.inr ⟨effect, other, does, awaited, late, present, named, running⟩

/-- A pool that keeps to a discipline goes on until all threads are done. -/
theorem exists_move [Finite Lock] (holds : discipline.Holds awaits pool)
    (busy : ∃ worker ∈ pool, worker.thread ≠ []) : ∃ later, PoolMove awaits pool later := by
  by_contra stuck
  -- of all locks that are waited for, look at one of the highest rank
  let Awaited (lock : Lock) : Prop :=
    lock ∈ Pool.held pool ∧ ∃ worker ∈ pool, worker.thread.Awaits lock
  have unlocked (lock : Lock) : ¬Awaited lock := by
    intro awaited
    have : Nonempty {lock // Awaited lock} := ⟨⟨lock, awaited⟩⟩
    obtain ⟨⟨top, held, _⟩, highest⟩ :=
      Finite.exists_max fun lock : {lock // Awaited lock} => discipline.rank lock
    obtain ⟨holder, present, holding⟩ := mem_pool_held.mp held
    have running : holder.thread ≠ [] := by
      intro ended
      rw [ended] at holding
      cases holding
    rcases waits_of_stuck stuck present running with
      ⟨next, waiting, taken⟩ | ⟨effect, other, does, awaited, -⟩
    · have above := rank_lt_of_awaits (holds holder present) waiting holding
      have below := highest ⟨next, taken, holder, present, waiting⟩
      exact absurd above (Nat.not_lt.mpr below)
    · rw [(level_lt_of_does (holds holder present) does awaited).1] at holding
      cases holding
  -- so every thread waits for one of a lower level
  obtain ⟨worker, member, running⟩ := busy
  induction level : discipline.level worker.role using Nat.strong_induction_on
    generalizing worker with
  | _ _ ih =>
      rcases waits_of_stuck stuck member running with
        ⟨lock, waiting, taken⟩ | ⟨effect, other, does, awaited, late, present, rfl, unended⟩
      · exact unlocked lock ⟨taken, worker, member, waiting⟩
      · have lower := (level_lt_of_does (holds worker member) does awaited).2
        exact ih _ (level ▸ lower) late present unended rfl

end Deadlock

end Locks
