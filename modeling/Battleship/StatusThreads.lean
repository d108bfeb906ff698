import Battleship.ServerCore
import Battleship.Library.Machine

/-! The player manager under threads that interleave between its locked sections. An
operation changes the entry of a user under the lock, looks the user up again under it,
and then broadcasts what it has put together, with the status it was called with. -/

namespace Battleship

open Decimal (Text)
open Machine

def Payload.announced? : Payload → Option (UserId × PlayerStatus)
  | playerStatusUpdate userId status _ _ => some (userId, status)
  | _ => .none

inductive StatusTask
  | lookUp (userId : UserId) (status : PlayerStatus)
  | broadcast (userId : UserId) (payload : Payload)

def StatusTask.userId : StatusTask → UserId
  | lookUp userId _ => userId
  | broadcast userId _ => userId

def StatusTask.isBroadcast : StatusTask → Bool
  | lookUp .. => false
  | broadcast .. => true

/-- The players, the threads within an operation, a record of the users whose entry has
been changed, and the messages that were broadcast. -/
structure StatusThreads where
  players : Table UserId PlayerData
  tasks : List StatusTask
  touched : List UserId
  broadcasts : List Payload

inductive PlayerOperation
  | addPlayer (conn : ConnId) (userId : UserId) (username displayName : Text) (eloRating : Int)
  | removePlayer (userId : UserId)
  | updatePlayerStatus (userId : UserId) (status : PlayerStatus)

def statusIn (players : Table UserId PlayerData) (userId : UserId) : PlayerStatus :=
  match players[userId]? with
  | none => .offline
  | some data => data.status

namespace PlayerOperation

def userId : PlayerOperation → UserId
  | addPlayer _ userId _ _ _ | removePlayer userId | updatePlayerStatus userId _ => userId

def change (players : Table UserId PlayerData) :
    PlayerOperation → Option (Table UserId PlayerData × PlayerStatus)
  | addPlayer conn userId username displayName eloRating =>
      some (players.insert userId ⟨username, displayName, eloRating, .available, conn⟩, .available)
  | removePlayer userId =>
      if (players[userId]?).isSome then some (players.erase userId, .offline) else none
  | updatePlayerStatus userId status =>
      if (players[userId]?).isSome then
        some (players.modify userId fun data => { data with status := status }, status)
      else none

variable {players later : Table UserId PlayerData} {status : PlayerStatus}
  {operation : PlayerOperation}

/-- An operation enters its user as available, removes it or changes its status. -/
theorem change_cases (changed : operation.change players = some (later, status)) :
    (∃ data : PlayerData, data.status = .available ∧ status = .available ∧
      later = players.insert operation.userId data) ∨
    (status = .offline ∧ later = players.erase operation.userId) ∨
    (operation = .updatePlayerStatus operation.userId status ∧
      (players[operation.userId]?).isSome = true ∧
      later = players.modify operation.userId fun data => { data with status := status }) := by
  cases operation with
  | addPlayer conn userId username displayName eloRating =>
      obtain ⟨rfl, rfl⟩ := Prod.mk.inj (Option.some.inj changed)
      exact Or.inl ⟨⟨username, displayName, eloRating, .available, conn⟩, rfl, rfl, rfl⟩
  | removePlayer userId =>
      simp only [change, Option.ite_none_right_eq_some, Option.some.injEq, Prod.mk.injEq] at changed
      obtain ⟨_, rfl, rfl⟩ := changed
      exact Or.inr (Or.inl ⟨rfl, rfl⟩)
  | updatePlayerStatus userId asked =>
      simp only [change, Option.ite_none_right_eq_some, Option.some.injEq, Prod.mk.injEq] at changed
      obtain ⟨online, rfl, rfl⟩ := changed
      exact Or.inr (Or.inr ⟨rfl, online, rfl⟩)

theorem change_others (changed : operation.change players = some (later, status)) {other : UserId}
    (different : other ≠ operation.userId) : later[other]? = players[other]? := by
  rcases change_cases changed with ⟨data, _, _, rfl⟩ | ⟨_, rfl⟩ | ⟨_, _, rfl⟩
  · exact Table.lookup_insert_ne _ _ different.symm
  · exact Table.lookup_erase_ne _ different.symm
  · rw [Table.lookup_modify]
    exact if_neg different.symm

theorem change_status (changed : operation.change players = some (later, status)) :
    statusIn later operation.userId = status := by
  rcases change_cases changed with ⟨data, available, rfl, rfl⟩ | ⟨rfl, rfl⟩ | ⟨_, online, rfl⟩
  · simp [statusIn, available]
  · simp [statusIn]
  · obtain ⟨data, known⟩ := Option.isSome_iff_exists.mp online
    simp [statusIn, known]

end PlayerOperation

theorem statusUpdate_announced (players : Table UserId PlayerData) (userId : UserId)
    (status : PlayerStatus) : (Server.statusUpdate players userId status).announced? =
      some (userId, if (players[userId]?).isSome then status else .offline) := by
  unfold Server.statusUpdate
  cases players[userId]? <;> rfl

theorem statusUpdate_current {players : Table UserId PlayerData} {userId : UserId}
    {status : PlayerStatus} (current : statusIn players userId = status) :
    (Server.statusUpdate players userId status).announced? =
      some (userId, statusIn players userId) := by
  rw [statusUpdate_announced]
  unfold statusIn at current ⊢
  cases known : players[userId]? <;> simp_all

inductive StatusSection
  | begin (operation : PlayerOperation)
  | resume (index : Nat)

namespace StatusThreads

def init : StatusThreads := ⟨∅, [], [], []⟩

def change (userId : UserId) (status : PlayerStatus) (players : Table UserId PlayerData)
    (threads : StatusThreads) : StatusThreads :=
  { threads with
    players := players
    tasks := threads.tasks ++ [.lookUp userId status]
    touched := threads.touched ++ [userId] }

def step (threads : StatusThreads) : StatusSection → StatusThreads
  | .begin operation =>
      match operation.change threads.players with
      | none => threads
      | some (players, status) => threads.change operation.userId status players
  | .resume index =>
      match threads.tasks[index]? with
      | none => threads
      | some (.lookUp userId status) =>
          { threads with
            tasks := threads.tasks.set index
              (.broadcast userId (Server.statusUpdate threads.players userId status)) }
      | some (.broadcast _ payload) =>
          { threads with
            tasks := threads.tasks.eraseIdx index
            broadcasts := threads.broadcasts ++ [payload] }

def statusOf (threads : StatusThreads) (userId : UserId) : PlayerStatus :=
  statusIn threads.players userId

def lastStatus (threads : StatusThreads) (userId : UserId) : Option PlayerStatus :=
  ((threads.broadcasts.filterMap Payload.announced?).filter fun news => news.1 = userId).getLast?.map
    Prod.snd

def Busy (tasks : List StatusTask) (userId : UserId) : Prop :=
  userId ∈ tasks.map StatusTask.userId

/-- Of a user whose entry was changed, and whom no operation is still about, the last
message has the status. -/
def Settled (threads : StatusThreads) : Prop :=
  ∀ userId ∈ threads.touched, ¬Busy threads.tasks userId →
    threads.lastStatus userId = some (threads.statusOf userId)

instance (tasks : List StatusTask) (userId : UserId) : Decidable (Busy tasks userId) :=
  inferInstanceAs (Decidable (_ ∈ _))

/-- The operation that changed a user last makes its broadcast last: before it, all others about
the user have made theirs. The tasks stand in the order in which their operations made the
change. -/
def InTurn (threads : StatusThreads) : StatusSection → Prop
  | .begin _ => True
  | .resume index =>
      ∀ task ∈ threads.tasks[index]?, task.isBroadcast = true →
        Busy (threads.tasks.drop (index + 1)) task.userId ∨
          ¬Busy (threads.tasks.take index) task.userId

instance (threads : StatusThreads) : ∀ action, Decidable (threads.InTurn action)
  | .begin _ => isTrue trivial
  | .resume index => inferInstanceAs (Decidable (∀ task ∈ threads.tasks[index]?, _))

structure Sound (threads : StatusThreads) : Prop where
  touched : ∀ userId, Busy threads.tasks userId → userId ∈ threads.touched
  about : ∀ userId payload, .broadcast userId payload ∈ threads.tasks →
    ∃ status, payload.announced? = some (userId, status)

theorem sound_init : init.Sound := ⟨by simp [init, Busy], by simp [init]⟩

theorem settled_init : init.Settled := by simp [Settled, init]

section Tasks

variable {tasks : List StatusTask} {index : Nat} {task : StatusTask}

theorem busy_append (tasks : List StatusTask) (task : StatusTask) (userId : UserId) :
    Busy (tasks ++ [task]) userId ↔ Busy tasks userId ∨ userId = task.userId := by
  simp [Busy]

theorem map_userId_set (found : tasks[index]? = some task) (later : StatusTask)
    (same : later.userId = task.userId) :
    (tasks.set index later).map StatusTask.userId = tasks.map StatusTask.userId := by
  obtain ⟨bound, rfl⟩ := List.getElem?_eq_some_iff.mp found
  have inside : index < (tasks.map StatusTask.userId).length := by simpa using bound
  have entry : (tasks.map StatusTask.userId)[index] = tasks[index].userId := List.getElem_map ..
  rw [List.map_set, same, ← entry, List.set_getElem_self]

theorem busy_set (found : tasks[index]? = some task) (later : StatusTask)
    (same : later.userId = task.userId) (userId : UserId) :
    Busy (tasks.set index later) userId ↔ Busy tasks userId := by
  rw [Busy, map_userId_set found later same, Busy]

theorem busy_eraseIdx (found : tasks[index]? = some task) (userId : UserId) :
    Busy tasks userId ↔ userId = task.userId ∨ Busy (tasks.eraseIdx index) userId := by
  obtain ⟨bound, rfl⟩ := List.getElem?_eq_some_iff.mp found
  have perm := (List.getElem_cons_eraseIdx_perm bound).map StatusTask.userId
  rw [Busy, ← perm.mem_iff, List.map_cons, List.mem_cons, Busy]

end Tasks

theorem lastStatus_append (threads : StatusThreads) {payload : Payload} {userId : UserId}
    {status : PlayerStatus} (about : payload.announced? = some (userId, status))
    (tasks : List StatusTask) (other : UserId) :
    { threads with tasks := tasks, broadcasts := threads.broadcasts ++ [payload] }.lastStatus other =
      if userId = other then some status else threads.lastStatus other := by
  simp only [lastStatus, List.filterMap_append, List.filter_append, List.filterMap_cons, about,
    List.filterMap_nil]
  by_cases same : userId = other
  · simp [same]
  · simp [same]

theorem change_settled {threads : StatusThreads} (settled : threads.Settled) {userId : UserId}
    {status : PlayerStatus} {players : Table UserId PlayerData}
    (others : ∀ {other}, other ≠ userId → players[other]? = threads.players[other]?) :
    (threads.change userId status players).Settled := by
  intro other touched idle
  simp only [change, busy_append, not_or, StatusTask.userId] at touched idle
  have before : other ∈ threads.touched := by simpa [idle.2] using touched
  rw [show (threads.change userId status players).lastStatus other = threads.lastStatus other from rfl,
    settled other before idle.1]
  simp only [statusOf, statusIn, change, others idle.2]

theorem change_sound {threads : StatusThreads} (sound : threads.Sound) (userId : UserId)
    (status : PlayerStatus) (players : Table UserId PlayerData) :
    (threads.change userId status players).Sound where
  touched := by
    intro other busy
    simp only [change, busy_append, StatusTask.userId] at busy
    rcases busy with before | rfl
    · exact List.mem_append_left _ (sound.touched other before)
    · simp [change]
  about := by
    intro other payload member
    refine sound.about other payload ?_
    simpa [change] using member

theorem step_sound (threads : StatusThreads) (action : StatusSection) (sound : threads.Sound) :
    (threads.step action).Sound := by
  cases action with
  | begin operation =>
      simp only [step]
      split
      · exact sound
      · exact change_sound sound ..
  | resume index =>
      simp only [step]
      split
      · exact sound
      next userId status found =>
        refine ⟨fun other busy => sound.touched other ?_, fun other payload member => ?_⟩
        · exact (busy_set found (.broadcast userId _) rfl other).mp busy
        · rcases List.mem_or_eq_of_mem_set member with before | same
          · exact sound.about other payload before
          · obtain ⟨rfl, rfl⟩ := StatusTask.broadcast.inj same
            exact ⟨_, statusUpdate_announced ..⟩
      next userId payload found =>
        refine ⟨fun other busy => sound.touched other ?_, fun other later member => ?_⟩
        · exact (busy_eraseIdx found other).mpr (Or.inr busy)
        · exact sound.about other later (List.mem_of_mem_eraseIdx member)

def Current (threads : StatusThreads) : StatusTask → Prop
  | .lookUp userId status => threads.statusOf userId = status
  | .broadcast userId payload => payload.announced? = some (userId, threads.statusOf userId)

def Latest (current : StatusTask → Prop) : List StatusTask → Prop
  | [] => True
  | task :: rest => (Busy rest task.userId ∨ current task) ∧ Latest current rest

section Latest

variable {current later : StatusTask → Prop} {tasks : List StatusTask} {index : Nat}
  {task : StatusTask}

theorem Latest.append (latest : Latest current tasks) (newest : later task)
    (others : ∀ other, other.userId ≠ task.userId → current other → later other) :
    Latest later (tasks ++ [task]) := by
  induction tasks with
  | nil => exact ⟨Or.inr newest, trivial⟩
  | cons head rest ih =>
      refine ⟨?_, ih latest.2⟩
      change Busy (rest ++ [task]) head.userId ∨ later head
      rw [busy_append]
      by_cases same : head.userId = task.userId
      · exact Or.inl (Or.inr same)
      · exact latest.1.imp Or.inl (others head same)

theorem Latest.set (latest : Latest current tasks) (found : tasks[index]? = some task)
    {next : StatusTask} (same : next.userId = task.userId) (kept : current task → current next) :
    Latest current (tasks.set index next) := by
  induction tasks generalizing index with
  | nil => exact trivial
  | cons head rest ih =>
      cases index with
      | zero =>
          obtain rfl : head = task := by simpa using found
          exact ⟨same ▸ latest.1.imp_right kept, latest.2⟩
      | succ index =>
          have entry : rest[index]? = some task := by simpa using found
          refine ⟨latest.1.imp_left fun busy => ?_, ih latest.2 entry⟩
          exact (busy_set entry next same head.userId).mpr busy

theorem Latest.at (latest : Latest current tasks) (found : tasks[index]? = some task) :
    Busy (tasks.drop (index + 1)) task.userId ∨ current task := by
  induction tasks generalizing index with
  | nil => simp at found
  | cons head rest ih =>
      cases index with
      | zero =>
          obtain rfl : head = task := by simpa using found
          exact latest.1
      | succ index => exact ih latest.2 (by simpa using found)

theorem busy_of_drop {userId : UserId} (busy : Busy (tasks.drop (index + 1)) userId) :
    Busy (tasks.eraseIdx index) userId := by
  rw [List.eraseIdx_eq_take_drop_succ]
  unfold Busy
  rw [List.map_append]
  exact List.mem_append_right _ busy

/-- A task can go that others follow, or that is the only one left of its user. -/
theorem Latest.eraseIdx (latest : Latest current tasks) (found : tasks[index]? = some task)
    (last : Busy (tasks.drop (index + 1)) task.userId ∨ ¬Busy (tasks.take index) task.userId) :
    Latest current (tasks.eraseIdx index) := by
  induction tasks generalizing index with
  | nil => exact trivial
  | cons head rest ih =>
      cases index with
      | zero => exact latest.2
      | succ index =>
          have entry : rest[index]? = some task := by simpa using found
          rw [List.drop_succ_cons, List.take_succ_cons] at last
          refine ⟨latest.1.imp_left fun busy => ?_, ih latest.2 entry (last.imp_right fun none busy =>
            none (List.mem_cons_of_mem _ busy))⟩
          rcases (busy_eraseIdx entry head.userId).mp busy with same | stays
          · rcases last with followed | alone
            · exact same ▸ busy_of_drop followed
            · exact absurd (by simp [Busy, same]) alone
          · exact stays

end Latest

structure Orderly (threads : StatusThreads) : Prop where
  sound : threads.Sound
  settled : threads.Settled
  latest : Latest threads.Current threads.tasks

theorem orderly_init : init.Orderly := ⟨sound_init, settled_init, trivial⟩

theorem Orderly.begin {threads : StatusThreads} (orderly : threads.Orderly)
    (operation : PlayerOperation) : (threads.step (.begin operation)).Orderly := by
  simp only [step]
  split
  · exact orderly
  next players status changed =>
    have others {other : UserId} (different : other ≠ operation.userId) :=
      PlayerOperation.change_others changed different
    refine ⟨change_sound orderly.sound .., change_settled orderly.settled others, ?_⟩
    refine orderly.latest.append (PlayerOperation.change_status changed) fun task different => ?_
    have same : (threads.change operation.userId status players).statusOf task.userId =
        threads.statusOf task.userId := by
      simp only [statusOf, statusIn, change, others different]
    cases task with
    | lookUp userId asked => exact fun current => same.trans current
    | broadcast userId payload =>
        exact fun current => current.trans (congrArg (fun status => some (userId, status)) same.symm)

theorem Orderly.resume {threads : StatusThreads} (orderly : threads.Orderly) {index : Nat}
    (inTurn : threads.InTurn (.resume index)) : (threads.step (.resume index)).Orderly := by
  have sound := step_sound threads (.resume index) orderly.sound
  simp only [step] at sound ⊢
  split at sound
  · exact orderly
  next userId status found =>
    refine ⟨sound, fun other touched idle => ?_, ?_⟩
    · exact orderly.settled other touched fun busy =>
        idle ((busy_set found (.broadcast userId _) rfl other).mpr busy)
    · exact orderly.latest.set found rfl statusUpdate_current
  next userId payload found =>
    have last := inTurn _ found rfl
    refine ⟨sound, fun other touched idle => ?_, orderly.latest.eraseIdx found last⟩
    obtain ⟨status, about⟩ := orderly.sound.about userId payload (List.mem_of_getElem? found)
    rw [lastStatus_append threads about]
    split
    next same =>
      subst same
      have current : payload.announced? = some (userId, threads.statusOf userId) :=
        (orderly.latest.at found).resolve_left fun later => idle (busy_of_drop later)
      exact congrArg (Option.map Prod.snd) (about.symm.trans current)
    next different =>
      refine orderly.settled other touched fun busy => idle ?_
      exact ((busy_eraseIdx found other).mp busy).resolve_left (Ne.symm different)

theorem Orderly.step {threads : StatusThreads} (orderly : threads.Orderly)
    {action : StatusSection} (inTurn : threads.InTurn action) : (threads.step action).Orderly := by
  cases action with
  | begin operation => exact orderly.begin operation
  | resume index => exact orderly.resume inTurn

/-- In every run in which the operation that changed a user last broadcasts last, the last message
about a user whom no operation is still about has the user's status. -/
theorem settled_of_inTurn {sections : List StatusSection}
    (inTurn : Respects step InTurn init sections) :
    ∀ early, early <+: sections → (exec step init early).Settled := by
  rintro early ⟨later, rfl⟩
  exact (invariant_of_respects step orderly_init (fun _ _ permitted orderly =>
    orderly.step permitted) early inTurn.of_append).settled

def overlapping : List StatusSection := [
  .begin (.addPlayer 0 1 [] [] 1000), .resume 0, .resume 0,
  .begin (.updatePlayerStatus 1 .inGame), .begin (.updatePlayerStatus 1 .available),
  .resume 1, .resume 0, .resume 0, .resume 0]

theorem settled_overlapping : (exec step init overlapping).Settled :=
  settled_of_inTurn (by decide +kernel) overlapping (List.prefix_refl _)

section Serial

def Alone (threads : StatusThreads) : StatusSection → Prop
  | .begin operation => ¬Busy threads.tasks operation.userId
  | .resume _ => True

theorem step_apart {threads : StatusThreads} {action : StatusSection}
    (alone : threads.Alone action) (apart : (threads.tasks.map StatusTask.userId).Nodup) :
    ((threads.step action).tasks.map StatusTask.userId).Nodup := by
  cases action with
  | begin operation =>
      simp only [step]
      split
      · exact apart
      · have longer := apart.concat alone
        rw [List.concat_eq_append] at longer
        rw [change, List.map_append]
        exact longer
  | resume index =>
      simp only [step]
      split
      · exact apart
      next userId status found =>
        dsimp only
        rwa [map_userId_set found (.broadcast userId _) rfl]
      · exact apart.sublist ((List.eraseIdx_sublist _ index).map _)

/-- Operations on a user that do not overlap are in turn. -/
theorem inTurn_of_alone {sections : List StatusSection}
    (alone : Respects step Alone init sections) : Respects step InTurn init sections := by
  rintro before action ⟨after, rfl⟩
  have apart := invariant_of_respects step
    (motive := fun threads => (threads.tasks.map StatusTask.userId).Nodup) (by simp [init])
    (fun _ _ => step_apart) before alone.of_append
  cases action with
  | begin => trivial
  | resume index =>
      refine fun task found _ => Or.inr fun busy => ?_
      have user : ((exec step init before).tasks.map StatusTask.userId)[index]? =
          some task.userId := by
        rw [List.getElem?_map, found, Option.map_some]
      rw [Busy, List.map_take] at busy
      refine List.disjoint_take_drop apart le_rfl busy (List.mem_iff_getElem?.mpr ⟨0, ?_⟩)
      rw [List.getElem?_drop, Nat.add_zero, user]

end Serial

section Server

variable (env : Env)

def operate (server : Server) : PlayerOperation → Server
  | .addPlayer conn userId username displayName eloRating =>
      server.addPlayer env conn userId username displayName eloRating
  | .removePlayer userId => server.removePlayer env userId
  | .updatePlayerStatus userId status => server.updatePlayerStatus env userId status

/-- The operations of the server are these sections with nothing in between. -/
theorem operate_eq (server : Server) (operation : PlayerOperation) :
    let threads := exec step ⟨server.players, [], [], []⟩ [.begin operation, .resume 0, .resume 0]
    threads.tasks = [] ∧ (operate env server operation).players = threads.players ∧
      (operate env server operation).net = threads.broadcasts.foldl (fun net payload =>
        net.broadcast env (stampedHeader env .playerStatusUpdate payload) payload) server.net := by
  cases operation with
  | addPlayer => exact ⟨rfl, rfl, rfl⟩
  | removePlayer userId =>
      cases online : server.players[userId]? with
      | none =>
          simp [step, operate, PlayerOperation.change, Server.removePlayer, Server.broadcastIf,
            Server.isPlayerOnline, online, Table.erase_absent]
      | some data =>
          simp [step, operate, PlayerOperation.change, PlayerOperation.userId, Server.removePlayer,
            Server.broadcastIf, Server.isPlayerOnline, online, change,
            Server.broadcastPlayerStatusUpdate]
  | updatePlayerStatus userId status =>
      cases online : server.players[userId]? with
      | none =>
          simp [step, operate, PlayerOperation.change, Server.updatePlayerStatus,
            Server.broadcastIf, Server.isPlayerOnline, online, Table.modify_absent]
      | some data =>
          simp [step, operate, PlayerOperation.change, PlayerOperation.userId,
            Server.updatePlayerStatus, Server.broadcastIf, Server.isPlayerOnline, online, change,
            Server.broadcastPlayerStatusUpdate]

end Server

def overtaken : List StatusSection := [
  .begin (.addPlayer 0 1 [] [] 1000), .resume 0, .resume 0,
  .begin (.updatePlayerStatus 1 .inGame), .begin (.updatePlayerStatus 1 .available),
  .resume 1, .resume 1, .resume 0, .resume 0]

theorem not_settled_overtaken : (exec step init overtaken).tasks = [] ∧
    ¬(exec step init overtaken).Settled := by
  have finished : (exec step init overtaken).tasks = [] := by rfl
  refine ⟨finished, fun settled => ?_⟩
  have told := settled 1 (by decide) (by rw [finished]; simp [Busy])
  exact absurd told (by decide +kernel)

end StatusThreads

end Battleship
