import Battleship.MatchRaces

/-! The scan for timeouts and the reading of the matches it found, with moves in
between. The loser is the player whom the scan found as long as the turn is that
player's again, or still, when the match is read. -/

namespace Battleship

open Decimal (Text)

namespace MatchState

def Seated (game : MatchState) : Prop :=
  game.player1Id ≠ game.player2Id ∧
    (game.currentTurnPlayerId = game.player1Id ∨ game.currentTurnPlayerId = game.player2Id)

structure Follows (game later : MatchState) : Prop where
  player1 : later.player1Id = game.player1Id
  player2 : later.player2Id = game.player2Id
  even : (later.turnNumber - game.turnNumber) % 2 = 0 →
    later.currentTurnPlayerId = game.currentTurnPlayerId
  odd : (later.turnNumber - game.turnNumber) % 2 ≠ 0 →
    later.currentTurnPlayerId = game.opponent game.currentTurnPlayerId

theorem Follows.opponent {game later : MatchState} (follows : game.Follows later)
    (userId : UserId) : later.opponent userId = game.opponent userId := by
  simp only [MatchState.opponent, follows.player1, follows.player2]

theorem follows_refl (game : MatchState) : game.Follows game :=
  ⟨rfl, rfl, fun _ => rfl, fun odd => absurd (by omega) odd⟩

theorem opponent_opponent {game : MatchState} {userId : UserId}
    (distinct : game.player1Id ≠ game.player2Id)
    (seat : userId = game.player1Id ∨ userId = game.player2Id) :
    game.opponent (game.opponent userId) = userId := by
  rcases seat with rfl | rfl
  · simp [opponent, distinct.symm]
  · simp [opponent, distinct.symm]

theorem processMove_turn (game : MatchState) (now : Nat) (userId : UserId) (target : Coordinate) :
    let moved := (game.processMove now userId target).1
    moved.player1Id = game.player1Id ∧ moved.player2Id = game.player2Id ∧
      (moved.turnNumber = game.turnNumber ∧
          moved.currentTurnPlayerId = game.currentTurnPlayerId ∨
        moved.turnNumber = game.turnNumber + 1 ∧
          moved.currentTurnPlayerId = game.opponent game.currentTurnPlayerId) := by
  unfold processMove
  split
  · exact ⟨rfl, rfl, Or.inl ⟨rfl, rfl⟩⟩
  split
  · exact ⟨rfl, rfl, Or.inl ⟨rfl, rfl⟩⟩
  rw [playMove_eq]
  split
  · simp [endMatch]
  split
  · simp [switchTurn, opponent]
  · simp

section Moves

variable {game later : MatchState} (now : Nat) (userId : UserId) (target : Coordinate)

theorem Seated.processMove (seated : game.Seated) :
    (game.processMove now userId target).1.Seated := by
  obtain ⟨player1, player2, turn⟩ := game.processMove_turn now userId target
  unfold Seated
  rw [player1, player2]
  refine ⟨seated.1, ?_⟩
  rcases turn with ⟨-, same⟩ | ⟨-, switched⟩
  · rw [same]
    exact seated.2
  · rw [switched]
    exact game.opponent_seat _

theorem Follows.processMove (seated : game.Seated) (follows : game.Follows later) :
    game.Follows (later.processMove now userId target).1 := by
  obtain ⟨player1, player2, turn⟩ := later.processMove_turn now userId target
  have returned := opponent_opponent seated.1 seated.2
  refine ⟨player1.trans follows.player1, player2.trans follows.player2, ?_, ?_⟩
  · intro parity
    rcases turn with ⟨number, same⟩ | ⟨number, switched⟩
    · rw [number] at parity
      exact same.trans (follows.even parity)
    · rw [number] at parity
      rw [switched, follows.opponent, follows.odd (by omega), returned]
  · intro parity
    rcases turn with ⟨number, same⟩ | ⟨number, switched⟩
    · rw [number] at parity
      exact same.trans (follows.odd parity)
    · rw [number] at parity
      rw [switched, follows.opponent, follows.even (by omega)]

end Moves

theorem outlasted_of_isTurnTimedOut {game : MatchState} {now : Nat}
    (timedOut : game.isTurnTimedOut now = true) :
    game.turnTimeLimit ≤ secondsSince now game.turnStartTime := by
  unfold isTurnTimedOut at timedOut
  split at timedOut
  · cases timedOut
  · exact of_decide_eq_true timedOut

end MatchState

def TimedOut.Fair (entry : TimedOut) : Prop :=
  entry.loserId = entry.found.currentTurnPlayerId ∧
    entry.found.turnTimeLimit ≤ secondsSince entry.foundAt entry.found.turnStartTime

namespace MatchThreads

def EndsFairly (state : MatchThreads) : Prop := ∀ entry ∈ state.timedOut, entry.Fair

def Scanned (objects : MatchId → Option MatchState) : EndPath × MatchId → Prop
  | (.timeout found foundAt, matchId) => found.Seated ∧ found.isTurnTimedOut foundAt = true ∧
      ∃ game, objects matchId = some game ∧ found.Follows game
  | _ => True

def Awarded : MatchStage → Prop
  | .ending (.timeout found _) _ steps => ∀ winnerId reason reasonText duration,
      .sendMatchEnd winnerId reason reasonText duration ∈ steps →
        winnerId = found.opponent found.currentTurnPlayerId
  | _ => True

def evenTurns (state : MatchThreads) (event : MatchEvent) : Bool :=
  match event.act with
  | .go thread =>
      match (state.threads thread).stage with
      | .holding (.timeout found _) matchId =>
          (state.objects matchId).all fun game => (game.turnNumber - found.turnNumber) % 2 = 0
      | _ => true
  | _ => true

structure Timely (state : MatchThreads) : Prop where
  shared : state.Shared
  seated : ∀ matchId game, state.objects matchId = some game → game.Seated
  scanned : ∀ thread, ∀ job ∈ (state.threads thread).jobs, Scanned state.objects job
  awarded : ∀ thread, Awarded (state.threads thread).stage
  fair : state.EndsFairly

section Advance

variable {lib : Externals} {env : Env} {state later : MatchThreads} {thread : MatchThreadId}

theorem advance_objects (advance : Advance lib env thread state later) (matchId : MatchId) :
    later.objects matchId = state.objects matchId ∨ ∃ game userId target,
      state.objects matchId = some game ∧
        later.objects matchId = some (game.processMove env.now userId target).1 := by
  have moved {held : MatchId} {game : MatchState} (object : state.objects held = some game)
      (userId : UserId) (target : Coordinate) :
      (state.played env held game userId target).objects matchId = state.objects matchId ∨
        ∃ before player cell, state.objects matchId = some before ∧
          (state.played env held game userId target).objects matchId =
            some (before.processMove env.now player cell).1 := by
    simp only [played, Function.update_apply]
    split
    next same => exact Or.inr ⟨game, userId, target, same ▸ object, rfl⟩
    next => exact Or.inl rfl
  cases advance with
  | rest | missing | got | refused | read | done | performed => exact Or.inl rfl
  | @moved userId target _ _ _ here object => exact moved object userId target
  | @won userId target _ _ _ here object => exact moved object userId target

theorem Scanned.advance {job : EndPath × MatchId} (scanned : Scanned state.objects job)
    (advance : Advance lib env thread state later) : Scanned later.objects job := by
  obtain ⟨path, matchId⟩ := job
  cases path with
  | timeout found foundAt =>
      obtain ⟨seated, late, game, known, follows⟩ := scanned
      refine ⟨seated, late, ?_⟩
      rcases advance_objects advance matchId with same | ⟨current, userId, target, object, moved⟩
      · exact ⟨game, same.trans known, follows⟩
      · obtain rfl := Option.some.inj (object.symm.trans known)
        exact ⟨_, moved, follows.processMove env.now userId target seated⟩
  | move | resign | drawAgreed | disconnect => trivial

variable (timely : state.Timely)

include timely

theorem advance_seated (advance : Advance lib env thread state later) (matchId : MatchId)
    (game : MatchState) (object : later.objects matchId = some game) : game.Seated := by
  rcases advance_objects advance matchId with same | ⟨before, userId, target, known, moved⟩
  · exact timely.seated matchId game (same.symm.trans object)
  · obtain rfl := Option.some.inj (moved.symm.trans object)
    exact (timely.seated matchId before known).processMove env.now userId target

theorem read_awarded {path : EndPath} {matchId : MatchId} {left : List (EndPath × MatchId)}
    {game : MatchState} (here : state.threads thread = ⟨.holding path matchId, left⟩)
    (object : state.objects matchId = some game)
    (even : state.evenTurns ⟨env, .go thread⟩ = true) :
    Awarded (.ending path matchId (path.endSteps env.now game)) := by
  cases path with
  | timeout found foundAt =>
      intro winnerId reason reasonText duration member
      obtain ⟨seated, late, current, known, follows⟩ :=
        timely.scanned thread (.timeout found foundAt, matchId) (by simp [MatchThread.jobs, here])
      obtain rfl := Option.some.inj (object.symm.trans known)
      have parity : (game.turnNumber - found.turnNumber) % 2 = 0 := by
        simpa [evenTurns, here, object] using even
      have winner : winnerId = game.opponent game.currentTurnPlayerId := by
        simp only [EndPath.endSteps, finishSteps, List.mem_cons, EndStep.sendMatchEnd.injEq,
          List.not_mem_nil, reduceCtorEq, or_false] at member
        exact member.1
      rw [winner, follows.opponent, follows.even parity]
  | move | resign | drawAgreed | disconnect => trivial

theorem advance_awarded (advance : Advance lib env thread state later)
    (even : state.evenTurns ⟨env, .go thread⟩ = true) (other : MatchThreadId) :
    Awarded (later.threads other).stage := by
  by_cases same : other = thread
  · subst same
    cases advance with
    | rest => exact timely.awarded other
    | missing | got | refused | moved | won | done =>
        rw [enter_threads_self]
        trivial
    | read here object =>
        rw [enter_threads_self]
        exact read_awarded timely here object even
    | @performed path matchId step steps left game here object =>
        rw [enter_threads_self]
        have awarded := timely.awarded other
        rw [here] at awarded
        cases path with
        | timeout found foundAt =>
            intro winnerId reason reasonText duration member
            exact awarded winnerId reason reasonText duration (List.mem_cons_of_mem _ member)
        | move | resign | drawAgreed | disconnect => trivial
  · rw [advance_threads lib env advance same]
    exact timely.awarded other

theorem declared_fair {path : EndPath} {matchId : MatchId} {step : EndStep} {steps : List EndStep}
    {left : List (EndPath × MatchId)} {game : MatchState}
    (here : state.threads thread = ⟨.ending path matchId (step :: steps), left⟩)
    (object : state.objects matchId = some game) :
    ∀ entry ∈ declared matchId path game step, entry.Fair := by
  intro entry new
  cases path with
  | timeout found foundAt =>
      cases step with
      | sendMatchEnd winnerId reason reasonText duration =>
          obtain rfl : entry = _ := List.mem_singleton.mp new
          have awarded := timely.awarded thread
          rw [here] at awarded
          have winner := awarded winnerId reason reasonText duration List.mem_cons_self
          obtain ⟨seated, late, current, known, follows⟩ :=
            timely.scanned thread (.timeout found foundAt, matchId) (by simp [MatchThread.jobs, here])
          obtain rfl := Option.some.inj (object.symm.trans known)
          refine ⟨?_, MatchState.outlasted_of_isTurnTimedOut late⟩
          dsimp only
          rw [winner, follows.opponent, MatchState.opponent_opponent seated.1 seated.2]
      | endMatch | updatePlayerStatus | removeMatch => cases new
  | move | resign | drawAgreed | disconnect => cases new

theorem advance_timely (advance : Advance lib env thread state later)
    (even : state.evenTurns ⟨env, .go thread⟩ = true) : later.Timely where
  shared := advance_shared lib env timely.shared advance
  seated := advance_seated timely advance
  scanned := fun other job member =>
    (timely.scanned other job (advance_jobs lib env advance other job member)).advance advance
  awarded := advance_awarded timely advance even
  fair := by
    intro entry member
    cases advance with
    | rest | missing | got | refused | moved | won | read | done => exact timely.fair entry member
    | performed here object =>
        rcases List.mem_append.mp member with old | new
        · exact timely.fair entry old
        · exact declared_fair timely here object entry new

end Advance

section Runs

variable (lib : Externals)

theorem given_scanned {state : MatchThreads} (timely : state.Timely) {thread : MatchThreadId}
    {job : EndPath × MatchId} (given : state.Given thread job) : Scanned state.objects job := by
  obtain ⟨path, matchId⟩ := job
  cases path with
  | timeout found foundAt =>
      have object := timely.shared matchId found given.1
      exact ⟨timely.seated matchId found object, given.2, found, object, found.follows_refl⟩
  | move | resign | drawAgreed | disconnect => trivial

theorem step_timely {state : MatchThreads} (timely : state.Timely) {event : MatchEvent}
    (even : state.evenTurns event = true) : (state.step lib event).Timely := by
  have shared := step_shared lib timely.shared event
  have stepped := step_stepped lib state event
  generalize state.step lib event = later at shared stepped ⊢
  cases stepped with
  | checked => exact ⟨shared, timely.seated, timely.scanned, timely.awarded, timely.fair⟩
  | began _ _ _ given =>
      refine ⟨shared, timely.seated, ?_, ?_, timely.fair⟩
      · exact enter_forall (motive := fun _ tasks => ∀ job ∈ tasks.jobs, Scanned state.objects job)
          timely.scanned fun job member => given_scanned timely (given job member)
      · exact enter_forall (motive := fun _ tasks => Awarded tasks.stage) timely.awarded trivial
  | @advanced thread later act advance =>
      refine advance_timely timely advance ?_
      rwa [evenTurns, act] at even

theorem start_timely (events : List Event) : (start (Server.after lib events)).Timely := by
  have good := Server.after_wellFormed lib events
  refine ⟨start_shared _, ?_, ?_, fun _ => trivial, ?_⟩
  · intro matchId game found
    have fine := good.games.active matchId game found
    obtain ⟨row, listed, player1, player2⟩ := fine.row
    refine ⟨?_, fine.turn⟩
    rw [player1, player2]
    exact (good.db.players matchId row listed).1
  · simp [start, idle, MatchThread.jobs]
  · simp [EndsFairly, start]

/-- However moves come between the scan and the ends that follow, the loser is the
player whom the scan found, as long as the turns ended meanwhile are even in number. -/
theorem endsFairly_of_evenTurns (events : List Event) (steps : List MatchEvent)
    (even : Machine.Respects (step lib) (fun state event => state.evenTurns event = true)
      (start (Server.after lib events)) steps) :
    (Machine.exec (step lib) (start (Server.after lib events)) steps).EndsFairly :=
  (Machine.invariant_of_respects (step lib) (motive := Timely) (start_timely lib events)
    (fun _ _ even timely => step_timely lib timely even) steps even).fair

end Runs

end MatchThreads

namespace Script

def sweptDuring (target : Coordinate) : List MatchEvent := [
  ⟨env 64, .checkTurnTimeouts⟩, ⟨env 64, .go .timeoutChecker⟩,
  ⟨env 64, .handleMove (token alice) 1 target⟩, ⟨env 64, .go .handler⟩, ⟨env 64, .go .handler⟩,
  ⟨env 64, .go .timeoutChecker⟩, ⟨env 64, .go .timeoutChecker⟩]

theorem sweptDuring_hit_endsFairly : (inDuel (sweptDuring ⟨0, 0⟩)).EndsFairly :=
  MatchThreads.endsFairly_of_evenTurns lib duel (sweptDuring ⟨0, 0⟩) (by decide +kernel)

example : (inDuel (sweptDuring ⟨0, 0⟩)).timedOut.map TimedOut.loserId = [alice] := by
  decide +kernel

/-- Alice misses, and Bob loses in the first second of his turn. -/
theorem not_endsFairly_sweptDuring_miss : ¬∀ (lib : Externals) (events : List Event)
    (steps : List MatchEvent), (Machine.exec (MatchThreads.step lib)
      (MatchThreads.start (Server.after lib events)) steps).EndsFairly := by
  intro all
  have fair := all lib duel (sweptDuring ⟨9, 9⟩)
  have told : (inDuel (sweptDuring ⟨9, 9⟩)).timedOut.map (fun entry =>
      (entry.loserId, entry.found.currentTurnPlayerId)) = [(bob, alice)] := by decide +kernel
  unfold inDuel at told
  obtain ⟨entry, member, unlike⟩ := List.mem_map.mp (told ▸ List.mem_singleton_self _)
  have same := (fair entry member).1
  rw [Prod.mk.injEq] at unlike
  rw [unlike.1, unlike.2] at same
  cases same

end Script

end Battleship
