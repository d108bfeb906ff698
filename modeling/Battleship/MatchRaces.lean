import Battleship.MatchThreads
import Battleship.Library.Resource

/-! Two threads in one match. It is announced over once as long as no path that
concludes it gets it while another is about to remove it. -/

namespace Battleship

open Decimal (Text)

namespace MatchState

def shotBoard (game : MatchState) (userId : UserId) (target : Coordinate) : Board :=
  if game.isActive ∧ ¬game.isPaused ∧ userId = game.currentTurnPlayerId then
    ((game.targetBoard userId).processShot target).1
  else game.targetBoard userId

theorem processMove_targetBoard (game : MatchState) (now : Nat) (userId : UserId)
    (target : Coordinate) :
    (game.processMove now userId target).1.targetBoard userId = game.shotBoard userId target := by
  by_cases running : (!game.isActive || game.isPaused) = true
  · rw [processMove, if_pos running, shotBoard, if_neg]
    rintro ⟨active, unpaused, -⟩
    simp [active, unpaused] at running
  · rw [processMove, if_neg running]
    simp only [Bool.or_eq_true, Bool.not_eq_true', not_or, Bool.not_eq_false] at running
    by_cases turn : userId = game.currentTurnPlayerId
    · rw [if_neg (not_not.mpr turn), playMove_targetBoard, shotBoard,
        if_pos ⟨running.1, running.2, turn⟩]
    · rw [if_pos turn, shotBoard, if_neg fun all => turn all.2.2]

end MatchState

def EndPath.concludes (game : MatchState) : EndPath → Bool
  | .move userId target =>
      game.currentTurnPlayerId = userId ∧ (game.shotBoard userId target).allShipsSunk
  | _ => true

theorem EndPath.concludes_of_not_move {path : EndPath} (other : path.isMove = false)
    (game : MatchState) : path.concludes game = true := by
  cases path with
  | move => cases other
  | resign | drawAgreed | timeout | disconnect => rfl

def Orderly : List EndStep → Prop
  | [] => True
  | step :: steps => Orderly steps ∧
      (step.announces = true → steps.any EndStep.announces = false ∧
        steps.any EndStep.removes = true) ∧
      (step.removes = true → steps.any EndStep.announces = false ∧
        steps.any EndStep.removes = false)

theorem EndStep.removes_of_announces {step : EndStep} (announces : step.announces = true) :
    step.removes = false := by
  cases step with
  | sendMatchEnd => rfl
  | endMatch | updatePlayerStatus | removeMatch => cases announces

theorem endSteps_orderly (now : Nat) (game : MatchState) (path : EndPath) :
    Orderly (path.endSteps now game) := by
  cases path <;>
    simp [EndPath.endSteps, finishSteps, Orderly, EndStep.announces, EndStep.removes]

def Ends (test : EndStep → Bool) : Prop := test = EndStep.announces ∨ test = EndStep.removes

theorem endSteps_any {test : EndStep → Bool} (ends : Ends test) (now : Nat) (game : MatchState)
    (path : EndPath) : (path.endSteps now game).any test = true := by
  rcases ends with rfl | rfl <;> cases path <;>
    simp [EndPath.endSteps, finishSteps, EndStep.announces, EndStep.removes]

def MatchThread.jobs (thread : MatchThread) : List (EndPath × MatchId) :=
  match thread.stage with
  | .free => thread.left
  | .holding path matchId => (path, matchId) :: thread.left
  | .ending path matchId _ => (path, matchId) :: thread.left

def MatchEffect.isOutcome : MatchEffect → Bool
  | .recorded _ _ => false
  | _ => true

def Server.outcomes (server : Server) (matchId : MatchId) : List MatchEffect :=
  (server.effectsOf matchId).filter MatchEffect.isOutcome

theorem Server.outcomes_of_journal {server later : Server} {added : List MatchEffect}
    (journal : later.journal = server.journal ++ added) (matchId : MatchId) :
    later.outcomes matchId = server.outcomes matchId ++
      (added.filter fun effect => effect.matchId = matchId).filter MatchEffect.isOutcome := by
  simp only [outcomes, effectsOf, journal, List.filter_append]

namespace MatchThreads

variable (lib : Externals) (env : Env)

section Jobs

variable {state later : MatchThreads} {thread : MatchThreadId}

theorem advance_threads (advance : Advance lib env thread state later) {other : MatchThreadId}
    (different : other ≠ thread) : later.threads other = state.threads other := by
  cases advance with
  | rest => rfl
  | missing | got | refused | moved | won | read | done | performed =>
      exact enter_threads_ne different ..

theorem advance_jobs (advance : Advance lib env thread state later) (other : MatchThreadId) :
    ∀ job ∈ (later.threads other).jobs, job ∈ (state.threads other).jobs := by
  intro job member
  by_cases same : other = thread
  · subst same
    cases advance with
    | rest => exact member
    | missing here | refused here | moved here | done here =>
        rw [enter_threads_self] at member
        rw [here]
        exact List.mem_cons_of_mem _ member
    | got here | read here | won here | performed here =>
        rw [enter_threads_self] at member
        rw [here]
        exact member
  · rwa [advance_threads lib env advance same] at member

end Jobs

structure Sound (state : MatchThreads) : Prop where
  moves : ∀ thread, thread ≠ .handler → ∀ job ∈ (state.threads thread).jobs, job.1.isMove = false
  orderly : ∀ thread path matchId steps,
    (state.threads thread).stage = .ending path matchId steps → Orderly steps

theorem start_sound (server : Server) : (start server).Sound :=
  ⟨by simp [start, idle, MatchThread.jobs], by simp [start, idle]⟩

theorem advance_sound {state later : MatchThreads} {thread : MatchThreadId} (sound : state.Sound)
    (advance : Advance lib env thread state later) : later.Sound := by
  refine ⟨fun other outside job member =>
    sound.moves other outside job (advance_jobs lib env advance other job member), ?_⟩
  intro other path matchId steps ending
  by_cases same : other = thread
  · subst same
    cases advance with
    | rest => exact sound.orderly other path matchId steps ending
    | missing | got | refused | moved | done => simp at ending
    | won | read =>
        simp only [enter_threads_self, MatchStage.ending.injEq] at ending
        obtain ⟨-, -, rfl⟩ := ending
        exact endSteps_orderly ..
    | performed here =>
        simp only [enter_threads_self, MatchStage.ending.injEq] at ending
        obtain ⟨-, -, rfl⟩ := ending
        exact (sound.orderly other _ _ _ (congrArg MatchThread.stage here)).1
  · rw [advance_threads lib env advance same] at ending
    exact sound.orderly other path matchId steps ending

theorem step_sound (state : MatchThreads) (event : MatchEvent) (sound : state.Sound) :
    (state.step lib event).Sound := by
  have stepped := step_stepped lib state event
  generalize state.step lib event = later at stepped ⊢
  cases stepped with
  | checked => exact ⟨sound.moves, sound.orderly⟩
  | began _ _ _ given =>
      constructor
      · refine enter_forall (motive := fun thread tasks => thread ≠ .handler →
          ∀ job ∈ tasks.jobs, job.1.isMove = false) sound.moves ?_
        intro outside job member
        have begins := given job member
        obtain ⟨path, matchId⟩ := job
        cases path with
        | move => exact absurd begins outside
        | resign | drawAgreed | timeout | disconnect => rfl
      · refine enter_forall (motive := fun _ tasks => ∀ path matchId steps,
          tasks.stage = .ending path matchId steps → Orderly steps) sound.orderly ?_
        intro path matchId steps ending
        cases ending
  | advanced _ advance => exact advance_sound lib event.env sound advance

/-! A thread has a match from where it gets it to where it removes it, if it goes
on to conclude it. -/

section Engaged

def engaged (test : EndStep → Bool) (state : MatchThreads) (matchId : MatchId)
    (thread : MatchThreadId) : Bool :=
  match (state.threads thread).stage with
  | .free => false
  | .holding path held => held = matchId && (state.objects matchId).any path.concludes
  | .ending _ held steps => held = matchId && steps.any test

variable {lib env} {state later : MatchThreads} {thread other : MatchThreadId}

/-- Only moves change the object, and no other thread makes any. -/
theorem others_engaged (sound : state.Sound) (advance : Advance lib env thread state later)
    (different : other ≠ thread) (test : EndStep → Bool) (matchId : MatchId) :
    later.engaged test matchId other = state.engaged test matchId other := by
  have unmoved {userId : UserId} {target : Coordinate} {held : MatchId}
      {left : List (EndPath × MatchId)} {game : MatchState}
      (here : state.threads thread = ⟨.holding (.move userId target) held, left⟩)
      (object : state.objects held = some game) :
      (state.played env held game userId target).engaged test matchId other =
        state.engaged test matchId other := by
    have moves : thread = .handler := by
      by_contra outside
      have none := sound.moves thread outside (.move userId target, held) (by
        simp [MatchThread.jobs, here])
      cases none
    rw [moves] at different
    simp only [engaged, played]
    cases stage : (state.threads other).stage with
    | free | ending => rfl
    | holding path taken =>
        have kept : path.isMove = false :=
          sound.moves other different (path, taken) (by simp [MatchThread.jobs, stage])
        by_cases same : held = matchId
        · subst same
          simp [object, EndPath.concludes_of_not_move kept]
        · simp only [Function.update_of_ne (Ne.symm same)]
  cases advance with
  | rest => rfl
  | missing | got | refused | read | done | performed =>
      simp only [engaged, enter_threads_ne different]
      rfl
  | moved here object =>
      rw [← unmoved here object]
      simp only [engaged, enter_threads_ne different]
      rfl
  | won here object =>
      rw [← unmoved here object]
      simp only [engaged, enter_threads_ne different]
      rfl

theorem engaged_update (sound : state.Sound) (advance : Advance lib env thread state later)
    {test : EndStep → Bool} {matchId : MatchId} {busy : Bool}
    (self : later.engaged test matchId thread = busy) :
    later.engaged test matchId = Function.update (state.engaged test matchId) thread busy := by
  funext other
  by_cases same : other = thread
  · rw [same, self, Function.update_self]
  · rw [Function.update_of_ne same, others_engaged sound advance same]

end Engaged

def getting (state : MatchThreads) (thread : MatchThreadId) : Option MatchId :=
  match state.threads thread with
  | ⟨.free, (path, matchId) :: _⟩ =>
      if (state.server.getMatch matchId).any path.concludes then some matchId else none
  | _ => none

def Announced (matchId : MatchId) (early late : List MatchEffect) : Prop :=
  ∃ winnerId reason player1Id newElo1 player2Id newElo2, late = early ++ [
    .concluded matchId winnerId reason, .eloUpdated matchId player1Id newElo1,
    .eloUpdated matchId player2Id newElo2]

def resource (state : MatchThreads) (matchId : MatchId) :
    Resource MatchThreadId (List MatchEffect) where
  listed := (state.server.getMatch matchId).isSome
  toUse := state.engaged EndStep.announces matchId
  toRemove := state.engaged EndStep.removes matchId
  record := state.server.outcomes matchId

def Changes (thread : MatchThreadId) (matchId : MatchId) (state later : MatchThreads) : Prop :=
  Resource.Change (Announced matchId) (state.getting thread = some matchId) thread
    (state.resource matchId) (later.resource matchId)

section Change

variable {lib env} {state later : MatchThreads} {thread : MatchThreadId}

theorem kept_change (sound : state.Sound) (advance : Advance lib env thread state later)
    {matchId : MatchId}
    (listed : (later.server.getMatch matchId).isSome = (state.server.getMatch matchId).isSome)
    (self : ∀ test, Ends test → later.engaged test matchId thread = state.engaged test matchId thread)
    (outcomes : later.server.outcomes matchId = state.server.outcomes matchId) :
    state.Changes thread matchId later := by
  have toUse := engaged_update sound advance (self _ (Or.inl rfl))
  have toRemove := engaged_update sound advance (self _ (Or.inr rfl))
  rw [Function.update_eq_self] at toUse toRemove
  have kept : later.resource matchId = state.resource matchId :=
    Resource.ext listed toUse toRemove outcomes
  rw [Changes, kept]
  exact .kept

variable {path : EndPath} {held : MatchId} {left : List (EndPath × MatchId)} {game : MatchState}

theorem engaged_free (here : state.threads thread = ⟨.free, left⟩) (test : EndStep → Bool)
    (matchId : MatchId) : state.engaged test matchId thread = false := by
  simp only [engaged, here]

theorem engaged_holding (here : state.threads thread = ⟨.holding path held, left⟩)
    (object : state.objects held = some game) (test : EndStep → Bool) (matchId : MatchId) :
    state.engaged test matchId thread = (held = matchId && path.concludes game) := by
  simp only [engaged, here]
  by_cases same : held = matchId
  · subst same
    rw [object, Option.any_some]
  · simp [same]

theorem engaged_ending {steps : List EndStep}
    (here : state.threads thread = ⟨.ending path held steps, left⟩) (test : EndStep → Bool)
    (matchId : MatchId) : state.engaged test matchId thread = (held = matchId && steps.any test) := by
  simp only [engaged, here]

theorem played_outcomes (matchId : MatchId) (userId : UserId) (target : Coordinate) :
    (state.played env held game userId target).server.outcomes matchId =
      state.server.outcomes matchId := by
  simp only [Server.outcomes, Server.effectsOf, played, movePlayed_journal]

theorem played_listed (matchId : MatchId) (userId : UserId) (target : Coordinate) :
    ((state.played env held game userId target).server.getMatch matchId).isSome =
      (state.server.getMatch matchId).isSome := by
  simp only [played, movePlayed_getMatch]
  split
  next both => rw [← both.1, both.2, Option.isSome_some]
  next => rfl

theorem got_change (sound : state.Sound) (shared : state.Shared)
    (here : state.threads thread = ⟨.free, (path, held) :: left⟩)
    (found : state.server.getMatch held = some game)
    (advance : Advance lib env thread state (state.enter thread (.holding path held) left))
    (matchId : MatchId) :
    state.Changes thread matchId (state.enter thread (.holding path held) left) := by
  have free := engaged_free here
  have holds := engaged_holding (enter_threads_self thread (.holding path held) left state)
    (shared held game found)
  cases takes : decide (held = matchId) && path.concludes game with
  | true =>
      have taken (test : EndStep → Bool) := (holds test matchId).trans takes
      simp only [Bool.and_eq_true, decide_eq_true_eq] at takes
      obtain ⟨rfl, concludes⟩ := takes
      have listed : (state.resource held).listed = true := by simp [resource, found]
      have took : (state.enter thread (.holding path held) left).resource held =
          { state.resource held with
            toUse := Function.update (state.resource held).toUse thread true
            toRemove := Function.update (state.resource held).toRemove thread true } :=
        Resource.ext rfl (engaged_update sound advance (taken _))
          (engaged_update sound advance (taken _)) rfl
      have gets : state.getting thread = some held := by
        simp [getting, here, found, concludes]
      rw [Changes, took]
      exact .took gets listed (free _ _)
  | false =>
      refine kept_change sound advance rfl (fun test _ => ?_) rfl
      rw [holds test matchId, takes, free test matchId]

theorem perform_endMatch_journal (server : Server) (winnerId : UserId) :
    (perform lib env held game (.endMatch winnerId) server).journal =
      server.journal ++ [.recorded held winnerId] := rfl

theorem perform_other (server : Server) (step : EndStep) {matchId : MatchId}
    (other : held ≠ matchId) :
    (perform lib env held game step server).outcomes matchId = server.outcomes matchId := by
  cases step with
  | sendMatchEnd =>
      rw [perform, Server.outcomes_of_journal (Server.sendMatchEnd_journal ..)]
      simp [MatchEffect.matchId, other]
  | endMatch =>
      rw [Server.outcomes_of_journal (perform_endMatch_journal ..)]
      simp [MatchEffect.matchId, other]
  | updatePlayerStatus | removeMatch => rfl

theorem perform_quiet (server : Server) {step : EndStep} (quiet : step.announces = false)
    (matchId : MatchId) :
    (perform lib env held game step server).outcomes matchId = server.outcomes matchId := by
  cases step with
  | sendMatchEnd => cases quiet
  | endMatch =>
      rw [Server.outcomes_of_journal (perform_endMatch_journal ..)]
      simp [List.filter_cons, MatchEffect.isOutcome]
  | updatePlayerStatus | removeMatch => rfl

theorem perform_announced (server : Server) {step : EndStep} (announces : step.announces = true) :
    Announced held (server.outcomes held)
      ((perform lib env held game step server).outcomes held) := by
  cases step with
  | sendMatchEnd winnerId reason =>
      rw [perform, Server.outcomes_of_journal (Server.sendMatchEnd_journal ..)]
      refine ⟨winnerId, reason, game.player1Id,
        (server.ratings lib game.player1Id game.player2Id winnerId).1, game.player2Id,
        (server.ratings lib game.player1Id game.player2Id winnerId).2, ?_⟩
      simp [List.filter_cons, MatchEffect.matchId, MatchEffect.isOutcome]
  | endMatch | updatePlayerStatus | removeMatch => cases announces

section Performed

variable {step : EndStep} {steps : List EndStep} (sound : state.Sound)
  (here : state.threads thread = ⟨.ending path held (step :: steps), left⟩)
  (advance : Advance lib env thread state
    ((state.performed lib env path held game step).enter thread (.ending path held steps) left))

include sound here advance

theorem announces_change (announces : step.announces = true) :
    state.Changes thread held ((state.performed lib env path held game step).enter thread
      (.ending path held steps) left) := by
  have before (test : EndStep → Bool) := engaged_ending here test held
  have after (test : EndStep → Bool) :=
    engaged_ending (enter_threads_self thread (.ending path held steps) left
      (state.performed lib env path held game step)) test held
  simp only [decide_true, Bool.true_and, List.any_cons] at before after
  have orderly := sound.orderly thread path held _ (congrArg MatchThread.stage here)
  obtain ⟨used, kept⟩ := orderly.2.1 announces
  have due : (state.resource held).toUse thread = true := by
    simp only [resource, before, announces, Bool.true_or]
  have removes : state.engaged EndStep.removes held thread = true := by
    rw [before, kept, Bool.or_true]
  have still := engaged_update sound advance ((after EndStep.removes).trans kept)
  rw [← removes, Function.update_eq_self] at still
  have later : ((state.performed lib env path held game step).enter thread
      (.ending path held steps) left).resource held = { state.resource held with
        toUse := Function.update (state.resource held).toUse thread false
        record := (perform lib env held game step state.server).outcomes held } := by
    refine Resource.ext ?_ (engaged_update sound advance ((after _).trans used)) still rfl
    simp only [resource, performed, enter_server, perform_getMatch,
      EndStep.removes_of_announces announces, Bool.false_eq_true, and_false, if_false]
  rw [Changes, later]
  exact .used due (perform_announced state.server announces)

theorem removes_change (announces : step.announces = false) (removes : step.removes = true) :
    state.Changes thread held ((state.performed lib env path held game step).enter thread
      (.ending path held steps) left) := by
  have before (test : EndStep → Bool) := engaged_ending here test held
  have after (test : EndStep → Bool) :=
    engaged_ending (enter_threads_self thread (.ending path held steps) left
      (state.performed lib env path held game step)) test held
  simp only [decide_true, Bool.true_and, List.any_cons] at before after
  have orderly := sound.orderly thread path held _ (congrArg MatchThread.stage here)
  obtain ⟨used, gone⟩ := orderly.2.2 removes
  have due : (state.resource held).toRemove thread = true := by
    simp only [resource, before, removes, Bool.true_or]
  have unused : state.engaged EndStep.announces held thread = false := by
    rw [before, used, announces, Bool.or_false]
  have still := engaged_update sound advance ((after EndStep.announces).trans used)
  rw [← unused, Function.update_eq_self] at still
  have later : ((state.performed lib env path held game step).enter thread
      (.ending path held steps) left).resource held = { state.resource held with
        listed := false
        toRemove := Function.update (state.resource held).toRemove thread false } := by
    refine Resource.ext ?_ still (engaged_update sound advance ((after _).trans gone))
      (perform_quiet state.server announces held)
    simp only [resource, performed, enter_server, perform_getMatch, removes, and_self, if_true,
      Option.isSome_none]
  rw [Changes, later]
  exact .removed due unused

theorem performed_change (matchId : MatchId) :
    state.Changes thread matchId ((state.performed lib env path held game step).enter thread
      (.ending path held steps) left) := by
  have before (test : EndStep → Bool) := engaged_ending here test matchId
  have after (test : EndStep → Bool) :=
    engaged_ending (enter_threads_self thread (.ending path held steps) left
      (state.performed lib env path held game step)) test matchId
  by_cases same : held = matchId
  · subst same
    cases announces : step.announces with
    | true => exact announces_change sound here advance announces
    | false =>
        cases removes : step.removes with
        | true => exact removes_change sound here advance announces removes
        | false =>
            refine kept_change sound advance ?_ ?_ (perform_quiet state.server announces held)
            · simp only [performed, enter_server, perform_getMatch, removes, Bool.false_eq_true,
                and_false, if_false]
            · rintro test (rfl | rfl)
              · rw [after, before, List.any_cons, announces, Bool.false_or]
              · rw [after, before, List.any_cons, removes, Bool.false_or]
  · refine kept_change sound advance ?_ ?_ (perform_other state.server step same)
    · simp [performed, perform_getMatch, same]
    · intro test _
      simp [before, after, same]

end Performed

theorem advance_change (sound : state.Sound) (shared : state.Shared)
    (advance : Advance lib env thread state later) (matchId : MatchId) :
    state.Changes thread matchId later := by
  cases id advance with
  | rest => exact .kept
  | missing here =>
      refine kept_change sound advance rfl (fun test _ => ?_) rfl
      rw [engaged_free here, engaged_free (enter_threads_self ..)]
  | got here found => exact got_change sound shared here found advance matchId
  | refused here object turn =>
      refine kept_change sound advance rfl (fun test _ => ?_) rfl
      rw [engaged_holding here object, engaged_free (enter_threads_self ..)]
      simp [EndPath.concludes, turn]
  | @moved userId target _ _ game here object turn afloat =>
      refine kept_change sound advance (played_listed matchId userId target) (fun test _ => ?_)
        (played_outcomes matchId userId target)
      rw [engaged_holding here object, engaged_free (enter_threads_self ..)]
      rw [MatchState.processMove_targetBoard] at afloat
      simp [EndPath.concludes, afloat]
  | @won userId target _ _ game here object turn sunk =>
      refine kept_change sound advance (played_listed matchId userId target) (fun test ends => ?_)
        (played_outcomes matchId userId target)
      rw [engaged_holding here object, engaged_ending (enter_threads_self ..), endSteps_any ends]
      rw [MatchState.processMove_targetBoard] at sunk
      simp [EndPath.concludes, sunk, turn]
  | read here object concludes =>
      refine kept_change sound advance rfl (fun test ends => ?_) rfl
      rw [engaged_holding here object, engaged_ending (enter_threads_self ..), endSteps_any ends,
        EndPath.concludes_of_not_move concludes]
  | done here =>
      refine kept_change sound advance rfl (fun test _ => ?_) rfl
      rw [engaged_ending here, engaged_free (enter_threads_self ..)]
      simp
  | performed here => exact performed_change sound here advance matchId

end Change

section Runs

theorem begin_engaged {state : MatchThreads} {thread : MatchThreadId}
    (free : state.isIdle thread = true) (left : List (EndPath × MatchId)) (test : EndStep → Bool)
    (matchId : MatchId) :
    (state.enter thread .free left).engaged test matchId = state.engaged test matchId := by
  funext other
  by_cases self : other = thread
  · rw [self, engaged_free (enter_threads_self ..), engaged_free (threads_of_isIdle free)]
  · simp only [engaged, enter_threads_ne self, enter_objects]

theorem outcomes_of_same {server later : Server} (journal : later.journal = server.journal)
    (matchId : MatchId) : later.outcomes matchId = server.outcomes matchId := by
  simp only [Server.outcomes, Server.effectsOf, journal]

/-- No thread gets the match, to conclude it, that another thread concludes and has
still to remove. -/
def TakesAlone (matchId : MatchId) (state : MatchThreads) (event : MatchEvent) : Prop :=
  match event.act with
  | .go thread => state.getting thread = some matchId →
      ∀ other, other ≠ thread → state.engaged EndStep.removes matchId other = false
  | _ => True

def EndedOnce (matchId : MatchId) (server later : Server) : Prop :=
  later.outcomes matchId = server.outcomes matchId ∨
    Announced matchId (server.outcomes matchId) (later.outcomes matchId)

theorem step_usedOnce {state : MatchThreads} {event : MatchEvent} {matchId : MatchId}
    {first : List MatchEffect} (alone : state.TakesAlone matchId event) (sound : state.Sound)
    (shared : state.Shared)
    (once : Resource.UsedOnce (Announced matchId) first (state.resource matchId)) :
    Resource.UsedOnce (Announced matchId) first ((state.step lib event).resource matchId) := by
  have stepped := step_stepped lib state event
  generalize state.step lib event = later at stepped ⊢
  cases stepped with
  | checked games journal =>
      have same : resource { state with server := _ } matchId = state.resource matchId :=
        Resource.ext (congrArg Option.isSome (getMatch_of_games games matchId)) rfl rfl
          (outcomes_of_same journal matchId)
      exact same.symm ▸ once
  | @began server left games journal free =>
      have same : (MatchThreads.enter event.act.thread .free left
          { state with server := server }).resource matchId = state.resource matchId :=
        Resource.ext (congrArg Option.isSome (getMatch_of_games games matchId))
          (begin_engaged free ..) (begin_engaged free ..) (outcomes_of_same journal matchId)
      exact same.symm ▸ once
  | @advanced thread later act advance =>
      rw [TakesAlone, act] at alone
      exact once.change (advance_change sound shared advance matchId) alone

/-- As long as each path that concludes a match gets it alone, the match ends once,
however the threads interleave. -/
theorem endedOnce_of_takesAlone (server : Server) (matchId : MatchId) (steps : List MatchEvent)
    (alone : Machine.Respects (step lib) (TakesAlone matchId) (start server) steps) :
    EndedOnce matchId server (Machine.exec (step lib) (start server) steps).server := by
  have initial : Resource.UsedOnce (Announced matchId) ((start server).resource matchId).record
      ((start server).resource matchId) := Resource.usedOnce_of_idle (fun _ => rfl) (fun _ => rfl)
  refine (Machine.invariant_of_respects (step lib) (motive := fun state => state.Sound ∧
    state.Shared ∧ Resource.UsedOnce (Announced matchId) (server.outcomes matchId)
      (state.resource matchId)) ⟨start_sound server, start_shared server, initial⟩ ?_ steps
        alone).2.2.once
  rintro state event taking ⟨sound, shared, once⟩
  exact ⟨step_sound lib state event sound, step_shared lib shared event,
    step_usedOnce lib taking sound shared once⟩

section Schedules

variable {lib}

theorem step_threads_ne {other : MatchThreadId} (state : MatchThreads) {event : MatchEvent}
    (different : other ≠ event.act.thread) :
    (state.step lib event).threads other = state.threads other := by
  have stepped := step_stepped lib state event
  generalize state.step lib event = later at stepped ⊢
  cases stepped with
  | checked => rfl
  | began => exact enter_threads_ne different ..
  | advanced act advance =>
      rw [act] at different
      exact advance_threads lib event.env advance different

theorem exec_idle {threads : List MatchThreadId} (server : Server) {steps : List MatchEvent}
    (among : ∀ event ∈ steps, event.act.thread ∈ threads) {other : MatchThreadId}
    (outside : other ∉ threads) :
    (Machine.exec (step lib) (start server) steps).threads other = idle := by
  induction steps using List.reverseRecOn with
  | nil => rfl
  | append_singleton before event ih =>
      rw [Machine.exec_append, Machine.exec_cons, Machine.exec_nil, step_threads_ne]
      · exact ih fun event member => among event (List.mem_append_left _ member)
      · intro same
        exact outside (same ▸ among event (by simp))

def takesAlone (threads : List MatchThreadId) (matchId : MatchId) (state : MatchThreads)
    (event : MatchEvent) : Bool :=
  match event.act with
  | .go thread => state.getting thread ≠ some matchId ||
      threads.all fun other => other = thread || !state.engaged EndStep.removes matchId other
  | _ => true

theorem respects_takesAlone (threads : List MatchThreadId) {server : Server} {matchId : MatchId}
    {steps : List MatchEvent} (among : ∀ event ∈ steps, event.act.thread ∈ threads)
    (checked : Machine.Respects (step lib)
      (fun state event => takesAlone threads matchId state event = true) (start server) steps) :
    Machine.Respects (step lib) (TakesAlone matchId) (start server) steps := by
  intro before event taken
  have alone := checked before event taken
  obtain ⟨env, act⟩ := event
  cases act with
  | go thread =>
      intro gets other different
      by_cases inside : other ∈ threads
      · simp only [takesAlone, gets, ne_eq, not_true_eq_false, decide_false, Bool.false_or,
          List.all_eq_true, Bool.or_eq_true, decide_eq_true_eq, Bool.not_eq_true'] at alone
        exact (alone other inside).resolve_left different
      · obtain ⟨after, rfl⟩ := taken
        exact engaged_free (exec_idle server (fun event member => among event
          (List.mem_append_left _ member)) inside) ..
  | handleMove | handleResign | handleDrawResponse | checkTurnTimeouts | handlePlayerDisconnect =>
      trivial

end Schedules

end Runs

end MatchThreads

namespace Script

def inDuel (steps : List MatchEvent) : MatchThreads :=
  Machine.exec (MatchThreads.step lib) (MatchThreads.start (Server.after lib duel)) steps

def resignAndLeave : List MatchEvent := [
  ⟨env 5, .handleResign (token alice) 1⟩, ⟨env 5, .go .handler⟩,
  ⟨env 5, .handlePlayerDisconnect 1 bob⟩] ++
  List.replicate 7 ⟨env 5, .go .handler⟩ ++ [⟨env 5, .go (.client 1)⟩]

theorem resignAndLeave_endedOnce :
    MatchThreads.EndedOnce 1 (Server.after lib duel) (inDuel resignAndLeave).server := by
  refine MatchThreads.endedOnce_of_takesAlone lib _ 1 _
    (MatchThreads.respects_takesAlone [.handler, .client 1] ?_ ?_)
  · decide
  · decide +kernel

def bothLeave : List MatchEvent := [
  ⟨env 5, .handlePlayerDisconnect 0 alice⟩, ⟨env 5, .handlePlayerDisconnect 1 bob⟩,
  ⟨env 5, .go (.client 0)⟩, ⟨env 5, .go (.client 1)⟩] ++
  List.replicate 3 ⟨env 5, .go (.client 0)⟩ ++ List.replicate 3 ⟨env 5, .go (.client 1)⟩

theorem not_endedOnce_bothLeave : ¬∀ (lib : Externals) (events : List Event) (matchId : MatchId)
    (steps : List MatchEvent), MatchThreads.EndedOnce matchId (Server.after lib events)
      (Machine.exec (MatchThreads.step lib) (MatchThreads.start (Server.after lib events))
        steps).server := by
  intro all
  have before : ((Server.after lib duel).outcomes 1).length = 0 := by decide +kernel
  have twice : ((inDuel bothLeave).server.outcomes 1).length = 6 := by decide +kernel
  unfold inDuel at twice
  rcases all lib duel 1 bothLeave with same | ⟨_, _, _, _, _, _, announced⟩
  · rw [same, before] at twice
    cases twice
  · rw [announced, List.length_append, before] at twice
    cases twice

end Script

end Battleship
