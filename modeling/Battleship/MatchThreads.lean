import Battleship.ServerRuns
import Mathlib.Logic.Function.Basic

/-! The threads that conclude matches, split at `getMatch`, `sendMatchEnd`,
`endMatch` and `removeMatch`. The message threads take turns under
`handlers_mutex_` and are one thread here; the timeout checker and the threads of
leaving clients run beside it. No match is started anew meanwhile. -/

namespace Battleship

open Decimal (Text)

/-- Why a thread has a match. What the scan for timeouts found, and when, is kept
along; the source keeps the id only. -/
inductive EndPath
  | move (userId : UserId) (target : Coordinate)
  | resign (userId : UserId)
  | drawAgreed
  | timeout (found : MatchState) (foundAt : Nat)
  | disconnect (userId : UserId)

def EndPath.isMove : EndPath → Bool
  | .move _ _ => true
  | _ => false

inductive EndStep
  | sendMatchEnd (winnerId : UserId) (reason : MatchEndReason) (reasonText : String)
      (duration : Nat)
  | endMatch (winnerId : UserId)
  | updatePlayerStatus (userId : UserId)
  | removeMatch

def EndStep.announces : EndStep → Bool
  | .sendMatchEnd .. => true
  | _ => false

def EndStep.removes : EndStep → Bool
  | .removeMatch => true
  | _ => false

def finishSteps (now : Nat) (game : MatchState) (winnerId : UserId) (reason : MatchEndReason)
    (reasonText : String) : List EndStep := [
  .sendMatchEnd winnerId reason reasonText (secondsSince now game.startTime),
  .endMatch winnerId,
  .updatePlayerStatus game.player1Id,
  .updatePlayerStatus game.player2Id,
  .removeMatch]

def EndPath.endSteps (now : Nat) (game : MatchState) : EndPath → List EndStep
  | .move userId _ => finishSteps now game userId .normal "All ships destroyed"
  | .resign userId => finishSteps now game (game.opponent userId) .resign "Opponent resigned"
  | .drawAgreed => finishSteps now game 0 .drawAgreed "Draw agreed by both players"
  | .timeout _ _ =>
      finishSteps now game (game.opponent game.currentTurnPlayerId) .timeout
        "Turn time limit exceeded"
  | .disconnect userId => [
      .endMatch (game.opponent userId),
      .sendMatchEnd (game.opponent userId) .disconnect "Opponent disconnected"
        (if game.startTime > 0 then secondsSince now game.startTime else 0),
      .removeMatch,
      .updatePlayerStatus (game.opponent userId)]

inductive MatchStage
  | free
  | holding (path : EndPath) (matchId : MatchId)
  | ending (path : EndPath) (matchId : MatchId) (steps : List EndStep)

/-- `left` are the matches to get next. -/
structure MatchThread where
  stage : MatchStage
  left : List (EndPath × MatchId)

inductive MatchThreadId
  | handler
  | timeoutChecker
  | client (number : Nat)
deriving DecidableEq

structure TimedOut where
  matchId : MatchId
  loserId : UserId
  found : MatchState
  foundAt : Nat

/-- The server, the match objects, which threads may hold after their removal, and
the threads. -/
structure MatchThreads where
  server : Server
  objects : MatchId → Option MatchState
  threads : MatchThreadId → MatchThread
  timedOut : List TimedOut

inductive MatchAct
  | handleMove (token : Text) (matchId : MatchId) (target : Coordinate)
  | handleResign (token : Text) (matchId : MatchId)
  | handleDrawResponse (token : Text) (matchId : MatchId)
  | checkTurnTimeouts
  | handlePlayerDisconnect (number : Nat) (userId : UserId)
  | go (thread : MatchThreadId)

def MatchAct.thread : MatchAct → MatchThreadId
  | .handleMove .. | .handleResign .. | .handleDrawResponse .. => .handler
  | .checkTurnTimeouts => .timeoutChecker
  | .handlePlayerDisconnect number _ => .client number
  | .go thread => thread

structure MatchEvent where
  env : Env
  act : MatchAct

namespace MatchThreads

def idle : MatchThread := ⟨.free, []⟩

def start (server : Server) : MatchThreads := ⟨server, server.getMatch, fun _ => idle, []⟩

def enter (thread : MatchThreadId) (stage : MatchStage) (left : List (EndPath × MatchId))
    (state : MatchThreads) : MatchThreads :=
  { state with threads := Function.update state.threads thread ⟨stage, left⟩ }

def isIdle (state : MatchThreads) (thread : MatchThreadId) : Bool :=
  match state.threads thread with
  | ⟨.free, []⟩ => true
  | _ => false

variable (lib : Externals) (env : Env)

section Steps

variable (matchId : MatchId)

def request (token : Text) (path : UserId → EndPath) (state : MatchThreads) : MatchThreads :=
  if state.isIdle .handler then
    let checked := state.server.validateSession env token
    let state := { state with server := checked.1 }
    if checked.2 = 0 then state else state.enter .handler .free [(path checked.2, matchId)]
  else state

/-- The move as `handleMove` makes it on the object, which may be out of the table. -/
def movePlayed (game : MatchState) (userId : UserId) (target : Coordinate) (server : Server) :
    Server :=
  let moved := server.movePlayed env matchId game userId target
  if (server.getMatch matchId).isSome then moved else { moved with games := server.games }

def proceed (thread : MatchThreadId) (path : EndPath) (game : MatchState) (state : MatchThreads) :
    MatchThreads :=
  let left := (state.threads thread).left
  match path with
  | .move userId target =>
      if game.currentTurnPlayerId ≠ userId then state.enter thread .free left
      else
        let played := (game.processMove env.now userId target).1
        let moved := { state with
          server := movePlayed env matchId game userId target state.server
          objects := Function.update state.objects matchId (some played) }
        if (played.targetBoard userId).allShipsSunk then
          moved.enter thread (.ending path matchId (path.endSteps env.now played)) left
        else
          { moved with
            server := moved.server.sendTurnUpdate env matchId played.currentTurnPlayerId
              played.turnNumber }.enter thread .free left
  | path => state.enter thread (.ending path matchId (path.endSteps env.now game)) left

def perform (game : MatchState) (step : EndStep) (server : Server) : Server :=
  match step with
  | .sendMatchEnd winnerId reason reasonText duration =>
      server.sendMatchEnd lib env matchId game.player1Id game.player2Id winnerId reason reasonText
        (if reason = .disconnect then game.turnNumber else game.moveHistory.length) duration
  | .endMatch winnerId => server.endMatch env matchId winnerId
  | .updatePlayerStatus userId => server.updatePlayerStatus env userId .available
  | .removeMatch => server.removeMatch matchId

def declared (path : EndPath) (game : MatchState) (step : EndStep) : List TimedOut :=
  match path, step with
  | .timeout found foundAt, .sendMatchEnd winnerId .. =>
      [⟨matchId, game.opponent winnerId, found, foundAt⟩]
  | _, _ => []

end Steps

def go (thread : MatchThreadId) (state : MatchThreads) : MatchThreads :=
  match state.threads thread with
  | ⟨.free, []⟩ => state
  | ⟨.free, (path, matchId) :: left⟩ =>
      match state.server.getMatch matchId with
      | none => state.enter thread .free left
      | some _ => state.enter thread (.holding path matchId) left
  | ⟨.holding path matchId, _⟩ =>
      match state.objects matchId with
      | none => state
      | some game => state.proceed env matchId thread path game
  | ⟨.ending _ _ [], left⟩ => state.enter thread .free left
  | ⟨.ending path matchId (step :: steps), left⟩ =>
      match state.objects matchId with
      | none => state
      | some game =>
          { state with
            server := perform lib env matchId game step state.server
            timedOut := state.timedOut ++ declared matchId path game step }.enter thread
              (.ending path matchId steps) left

/-- Scans run under `matches_mutex_`. A thread that is on its way does not begin anew. -/
def step (state : MatchThreads) (event : MatchEvent) : MatchThreads :=
  let env := event.env
  let active := state.server.games.activeMatches
  match event.act with
  | .handleMove token matchId target =>
      state.request env matchId token fun userId => .move userId target
  | .handleResign token matchId => state.request env matchId token .resign
  | .handleDrawResponse token matchId => state.request env matchId token fun _ => .drawAgreed
  | .checkTurnTimeouts =>
      if state.isIdle .timeoutChecker then
        state.enter .timeoutChecker .free
          ((active.toList.filter fun entry => entry.2.isTurnTimedOut env.now).map fun entry =>
            (.timeout entry.2 env.now, entry.1))
      else state
  | .handlePlayerDisconnect number userId =>
      if state.isIdle (.client number) then
        state.enter (.client number) .free
          ((active.keysWhere fun game =>
            decide (game.player1Id = userId ∨ game.player2Id = userId)).map fun matchId =>
              (.disconnect userId, matchId))
      else state
  | .go thread => state.go lib env thread

@[simp] theorem enter_server (thread : MatchThreadId) (stage : MatchStage)
    (left : List (EndPath × MatchId)) (state : MatchThreads) :
    (state.enter thread stage left).server = state.server := rfl

@[simp] theorem enter_objects (thread : MatchThreadId) (stage : MatchStage)
    (left : List (EndPath × MatchId)) (state : MatchThreads) :
    (state.enter thread stage left).objects = state.objects := rfl

@[simp] theorem enter_timedOut (thread : MatchThreadId) (stage : MatchStage)
    (left : List (EndPath × MatchId)) (state : MatchThreads) :
    (state.enter thread stage left).timedOut = state.timedOut := rfl

@[simp] theorem enter_threads_self (thread : MatchThreadId) (stage : MatchStage)
    (left : List (EndPath × MatchId)) (state : MatchThreads) :
    (state.enter thread stage left).threads thread = ⟨stage, left⟩ := Function.update_self ..

theorem enter_threads_ne {thread other : MatchThreadId} (different : other ≠ thread)
    (stage : MatchStage) (left : List (EndPath × MatchId)) (state : MatchThreads) :
    (state.enter thread stage left).threads other = state.threads other :=
  Function.update_of_ne different ..

theorem threads_of_isIdle {thread : MatchThreadId} {state : MatchThreads}
    (free : state.isIdle thread = true) : state.threads thread = idle := by
  unfold isIdle at free
  split at free
  next nothing => exact nothing
  · cases free

def played (matchId : MatchId) (game : MatchState) (userId : UserId) (target : Coordinate)
    (state : MatchThreads) : MatchThreads :=
  { state with
    server := movePlayed env matchId game userId target state.server
    objects := Function.update state.objects matchId
      (some (game.processMove env.now userId target).1) }

def announcedTurn (matchId : MatchId) (game : MatchState) (state : MatchThreads) : MatchThreads :=
  { state with
    server := state.server.sendTurnUpdate env matchId game.currentTurnPlayerId game.turnNumber }

def performed (path : EndPath) (matchId : MatchId) (game : MatchState) (step : EndStep)
    (state : MatchThreads) : MatchThreads :=
  { state with
    server := perform lib env matchId game step state.server
    timedOut := state.timedOut ++ declared matchId path game step }

inductive Advance (thread : MatchThreadId) (state : MatchThreads) : MatchThreads → Prop
  | rest : Advance thread state state
  | missing {path : EndPath} {matchId : MatchId} {left : List (EndPath × MatchId)}
      (here : state.threads thread = ⟨.free, (path, matchId) :: left⟩)
      (absent : state.server.getMatch matchId = none) :
      Advance thread state (state.enter thread .free left)
  | got {path : EndPath} {matchId : MatchId} {left : List (EndPath × MatchId)} {game : MatchState}
      (here : state.threads thread = ⟨.free, (path, matchId) :: left⟩)
      (found : state.server.getMatch matchId = some game) :
      Advance thread state (state.enter thread (.holding path matchId) left)
  | refused {userId : UserId} {target : Coordinate} {matchId : MatchId}
      {left : List (EndPath × MatchId)} {game : MatchState}
      (here : state.threads thread = ⟨.holding (.move userId target) matchId, left⟩)
      (object : state.objects matchId = some game) (turn : game.currentTurnPlayerId ≠ userId) :
      Advance thread state (state.enter thread .free left)
  | moved {userId : UserId} {target : Coordinate} {matchId : MatchId}
      {left : List (EndPath × MatchId)} {game : MatchState}
      (here : state.threads thread = ⟨.holding (.move userId target) matchId, left⟩)
      (object : state.objects matchId = some game) (turn : game.currentTurnPlayerId = userId)
      (afloat : ((game.processMove env.now userId target).1.targetBoard userId).allShipsSunk = false) :
      Advance thread state (((state.played env matchId game userId target).announcedTurn env matchId
        (game.processMove env.now userId target).1).enter thread .free left)
  | won {userId : UserId} {target : Coordinate} {matchId : MatchId}
      {left : List (EndPath × MatchId)} {game : MatchState}
      (here : state.threads thread = ⟨.holding (.move userId target) matchId, left⟩)
      (object : state.objects matchId = some game) (turn : game.currentTurnPlayerId = userId)
      (sunk : ((game.processMove env.now userId target).1.targetBoard userId).allShipsSunk = true) :
      Advance thread state ((state.played env matchId game userId target).enter thread
        (.ending (.move userId target) matchId ((EndPath.move userId target).endSteps env.now
          (game.processMove env.now userId target).1)) left)
  | read {path : EndPath} {matchId : MatchId} {left : List (EndPath × MatchId)} {game : MatchState}
      (here : state.threads thread = ⟨.holding path matchId, left⟩)
      (object : state.objects matchId = some game) (concludes : path.isMove = false) :
      Advance thread state
        (state.enter thread (.ending path matchId (path.endSteps env.now game)) left)
  | done {path : EndPath} {matchId : MatchId} {left : List (EndPath × MatchId)}
      (here : state.threads thread = ⟨.ending path matchId [], left⟩) :
      Advance thread state (state.enter thread .free left)
  | performed {path : EndPath} {matchId : MatchId} {step : EndStep} {steps : List EndStep}
      {left : List (EndPath × MatchId)} {game : MatchState}
      (here : state.threads thread = ⟨.ending path matchId (step :: steps), left⟩)
      (object : state.objects matchId = some game) :
      Advance thread state
        ((state.performed lib env path matchId game step).enter thread (.ending path matchId steps) left)

theorem proceed_advance {thread : MatchThreadId} {path : EndPath} {matchId : MatchId}
    {left : List (EndPath × MatchId)} {game : MatchState} {state : MatchThreads}
    (here : state.threads thread = ⟨.holding path matchId, left⟩)
    (object : state.objects matchId = some game) :
    Advance lib env thread state (state.proceed env matchId thread path game) := by
  have kept : (state.threads thread).left = left := by rw [here]
  cases path with
  | move userId target =>
      simp only [proceed, kept]
      split
      next turn => exact .refused here object turn
      next turn =>
        rw [ne_eq, not_not] at turn
        split
        next sunk => exact .won here object turn sunk
        next afloat => exact .moved here object turn (Bool.eq_false_of_not_eq_true afloat)
  | resign | drawAgreed | timeout | disconnect =>
      simp only [proceed, kept]
      exact .read here object rfl

theorem go_advance (thread : MatchThreadId) (state : MatchThreads) :
    Advance lib env thread state (state.go lib env thread) := by
  unfold go
  split
  next here => exact .rest
  next here =>
    split
    next absent => exact .missing here absent
    next found => exact .got here found
  next here =>
    split
    next absent => exact .rest
    next object => exact proceed_advance lib env here object
  next here => exact .done here
  next here =>
    split
    next absent => exact .rest
    next object => exact .performed here object

theorem getMatch_of_games {server later : Server} (games : later.games = server.games)
    (matchId : MatchId) : later.getMatch matchId = server.getMatch matchId :=
  congrArg (fun games => games.activeMatches[matchId]?) games

/-- What a thread may begin with: only message handlers make moves, and what is
found timed out is in the table. -/
def Given (state : MatchThreads) (thread : MatchThreadId) : EndPath × MatchId → Prop
  | (.move _ _, _) => thread = .handler
  | (.timeout found foundAt, matchId) =>
      state.server.getMatch matchId = some found ∧ found.isTurnTimedOut foundAt = true
  | _ => True

inductive Stepped (state : MatchThreads) (event : MatchEvent) : MatchThreads → Prop
  | checked {server : Server} (games : server.games = state.server.games)
      (journal : server.journal = state.server.journal) :
      Stepped state event { state with server := server }
  | began {server : Server} {left : List (EndPath × MatchId)}
      (games : server.games = state.server.games)
      (journal : server.journal = state.server.journal)
      (free : state.isIdle event.act.thread = true)
      (given : ∀ job ∈ left, state.Given event.act.thread job) :
      Stepped state event
        (MatchThreads.enter event.act.thread .free left { state with server := server })
  | advanced {thread : MatchThreadId} {later : MatchThreads} (act : event.act = .go thread)
      (advance : Advance lib event.env thread state later) : Stepped state event later

theorem request_stepped {state : MatchThreads} {event : MatchEvent} (matchId : MatchId)
    (token : Text) (begin : UserId → EndPath) (handled : event.act.thread = .handler)
    (given : ∀ userId, state.Given .handler (begin userId, matchId)) :
    Stepped lib state event (state.request event.env matchId token begin) := by
  unfold request
  split
  next free =>
    dsimp only
    split
    · exact .checked rfl rfl
    · rw [← handled]
      refine .began rfl rfl (handled.symm ▸ free) fun job member => ?_
      obtain rfl := List.mem_singleton.mp member
      rw [handled]
      exact given _
  next => exact .checked rfl rfl

theorem step_stepped (state : MatchThreads) (event : MatchEvent) :
    Stepped lib state event (state.step lib event) := by
  obtain ⟨env, act⟩ := event
  cases act with
  | handleMove token matchId target =>
      exact request_stepped lib matchId token (fun userId => .move userId target) rfl fun _ => rfl
  | handleResign token matchId =>
      exact request_stepped lib matchId token .resign rfl fun _ => trivial
  | handleDrawResponse token matchId =>
      exact request_stepped lib matchId token (fun _ => .drawAgreed) rfl fun _ => trivial
  | checkTurnTimeouts =>
      simp only [step]
      split
      next free =>
        refine .began rfl rfl free fun job member => ?_
        obtain ⟨⟨matchId, found⟩, listed, rfl⟩ := List.mem_map.mp member
        obtain ⟨active, late⟩ := List.mem_filter.mp listed
        exact ⟨Std.ExtTreeMap.mem_toList_iff_getElem?_eq_some.mp active, late⟩
      next => exact .checked rfl rfl
  | handlePlayerDisconnect number userId =>
      simp only [step]
      split
      next free =>
        refine .began rfl rfl free fun job member => ?_
        obtain ⟨_, _, rfl⟩ := List.mem_map.mp member
        trivial
      next => exact .checked rfl rfl
  | go thread => exact .advanced rfl (go_advance lib env thread state)

/-- What holds of every thread still does if it holds of the one that enters a stage. -/
theorem enter_forall {motive : MatchThreadId → MatchThread → Prop} {state : MatchThreads}
    (holds : ∀ other, motive other (state.threads other)) {thread : MatchThreadId}
    {stage : MatchStage} {left : List (EndPath × MatchId)} (entered : motive thread ⟨stage, left⟩)
    (other : MatchThreadId) : motive other ((state.enter thread stage left).threads other) := by
  by_cases same : other = thread
  · subst same
    rw [enter_threads_self]
    exact entered
  · rw [enter_threads_ne same]
    exact holds other

section Effects

variable (matchId : MatchId) (server : Server)

theorem movePlayed_getMatch (game : MatchState) (userId : UserId) (target : Coordinate)
    (other : MatchId) :
    (movePlayed env matchId game userId target server).getMatch other =
      if matchId = other ∧ (server.getMatch matchId).isSome then
        some (game.processMove env.now userId target).1
      else server.getMatch other := by
  unfold movePlayed
  dsimp only
  cases listed : (server.getMatch matchId).isSome with
  | true =>
      rw [if_pos rfl, Server.movePlayed_getMatch]
      simp
  | false => simp [Server.getMatch]

theorem movePlayed_journal (game : MatchState) (userId : UserId) (target : Coordinate) :
    (movePlayed env matchId game userId target server).journal = server.journal := by
  unfold movePlayed
  dsimp only
  split <;> rfl

theorem perform_getMatch (game : MatchState) (step : EndStep) (other : MatchId) :
    (perform lib env matchId game step server).getMatch other =
      if matchId = other ∧ step.removes = true then none else server.getMatch other := by
  cases step with
  | sendMatchEnd | endMatch | updatePlayerStatus =>
      rw [if_neg (by simp [EndStep.removes])]
      rfl
  | removeMatch =>
      simp only [perform, Server.getMatch, Server.removeMatch, Table.lookup_erase, EndStep.removes,
        and_true]

end Effects

def Shared (state : MatchThreads) : Prop :=
  ∀ matchId game, state.server.getMatch matchId = some game → state.objects matchId = some game

theorem start_shared (server : Server) : (start server).Shared := fun _ _ found => found

section Shared

variable {state : MatchThreads} (shared : state.Shared)

include shared

theorem played_shared (matchId : MatchId) (game : MatchState) (userId : UserId)
    (target : Coordinate) : (state.played env matchId game userId target).Shared := by
  intro other current found
  simp only [played, movePlayed_getMatch, Function.update_apply] at found ⊢
  by_cases same : matchId = other
  · subst same
    rw [if_pos rfl]
    cases listed : state.server.getMatch matchId with
    | none => simp [listed] at found
    | some old => simpa [listed] using found
  · rw [if_neg (fun both => same both.1)] at found
    rw [if_neg (Ne.symm same)]
    exact shared other current found

theorem performed_shared (path : EndPath) (matchId : MatchId) (game : MatchState) (step : EndStep) :
    (state.performed lib env path matchId game step).Shared := by
  intro other current found
  simp only [performed, perform_getMatch] at found ⊢
  split at found
  · cases found
  · exact shared other current found

theorem advance_shared {thread : MatchThreadId} {later : MatchThreads}
    (advance : Advance lib env thread state later) : later.Shared := by
  cases advance with
  | rest => exact shared
  | missing | got | refused | read | done => exact shared
  | @moved userId target matchId _ game => exact played_shared env shared matchId game userId target
  | @won userId target matchId _ game => exact played_shared env shared matchId game userId target
  | @performed path matchId step _ _ game =>
      exact performed_shared lib env shared path matchId game step

theorem step_shared (event : MatchEvent) : (state.step lib event).Shared := by
  have stepped := step_stepped lib state event
  generalize state.step lib event = later at stepped ⊢
  cases stepped with
  | checked games | began games =>
      intro matchId game found
      exact shared matchId game ((getMatch_of_games games matchId).symm.trans found)
  | advanced _ advance => exact advance_shared lib event.env shared advance

end Shared

section Undisturbed

def atomically (server : Server) (job : EndPath × MatchId) : Server :=
  match server.getMatch job.2 with
  | none => server
  | some game =>
      match job.1 with
      | .move userId target =>
          if game.currentTurnPlayerId ≠ userId then server
          else server.playMove lib env job.2 game userId target
      | .resign userId =>
          server.finishMatch lib env job.2 game (game.opponent userId) .resign "Opponent resigned"
      | .drawAgreed =>
          server.finishMatch lib env job.2 game 0 .drawAgreed "Draw agreed by both players"
      | .timeout _ _ => server.timeOutMatch lib env job.2
      | .disconnect userId => server.abandonMatch lib env userId job.2

def Reaches (thread : MatchThreadId) (left : List (EndPath × MatchId)) (server : Server)
    (state : MatchThreads) : Prop :=
  ∃ count, let later := Machine.exec (step lib) state (List.replicate count ⟨env, .go thread⟩)
    later.server = server ∧ later.threads thread = ⟨.free, left⟩ ∧ later.Shared

variable {thread : MatchThreadId} {left rest : List (EndPath × MatchId)} {state : MatchThreads}
  {path : EndPath} {matchId : MatchId} {game : MatchState}

theorem reaches_self (here : state.threads thread = ⟨.free, left⟩) (shared : state.Shared) :
    state.Reaches lib env thread left state.server := ⟨0, rfl, here, shared⟩

theorem reaches_of_go {server : Server}
    (reaches : (state.go lib env thread).Reaches lib env thread left server) :
    state.Reaches lib env thread left server := by
  obtain ⟨count, done⟩ := reaches
  exact ⟨count + 1, done⟩

theorem ending_reaches (steps : List EndStep)
    (here : state.threads thread = ⟨.ending path matchId steps, left⟩)
    (object : state.objects matchId = some game) (shared : state.Shared) :
    state.Reaches lib env thread left
      (steps.foldl (fun server step => perform lib env matchId game step server) state.server) := by
  induction steps generalizing state with
  | nil =>
      apply reaches_of_go
      simp only [go, here]
      exact reaches_self lib env (enter_threads_self ..) shared
  | cons step steps ih =>
      apply reaches_of_go
      simp only [go, here, object]
      have after : ((state.performed lib env path matchId game step).enter thread
          (.ending path matchId steps) left).Shared :=
        performed_shared lib env shared path matchId game step
      exact ih (enter_threads_self ..) object after

theorem perform_finishSteps (winnerId : UserId) {reason : MatchEndReason}
    (other : reason ≠ .disconnect) (reasonText : String) (server : Server) :
    (finishSteps env.now game winnerId reason reasonText).foldl
        (fun server step => perform lib env matchId game step server) server =
      server.finishMatch lib env matchId game winnerId reason reasonText := by
  simp only [finishSteps, List.foldl_cons, List.foldl_nil, perform, if_neg other]
  rfl

theorem perform_disconnect {userId : UserId} {server : Server}
    (found : server.getMatch matchId = some game) :
    ((EndPath.disconnect userId).endSteps env.now game).foldl
        (fun server step => perform lib env matchId game step server) server =
      server.abandonMatch lib env userId matchId := by
  simp only [EndPath.endSteps, List.foldl_cons, List.foldl_nil, perform, Server.abandonMatch, found,
    if_true]

theorem read_reaches (here : state.threads thread = ⟨.holding path matchId, left⟩)
    (object : state.objects matchId = some game) (shared : state.Shared)
    (concludes : path.isMove = false) :
    (state.proceed env matchId thread path game).Reaches lib env thread left
      ((path.endSteps env.now game).foldl
        (fun server step => perform lib env matchId game step server) state.server) := by
  have read : state.proceed env matchId thread path game =
      state.enter thread (.ending path matchId (path.endSteps env.now game)) left := by
    cases path with
    | move => cases concludes
    | resign | drawAgreed | timeout | disconnect => simp only [proceed, here]
  rw [read]
  exact ending_reaches lib env _ (enter_threads_self ..) object shared

theorem move_reaches {userId : UserId} {target : Coordinate}
    (here : state.threads thread = ⟨.holding (.move userId target) matchId, left⟩)
    (found : state.server.getMatch matchId = some game) (shared : state.Shared) :
    (state.proceed env matchId thread (.move userId target) game).Reaches lib env thread left
      (if game.currentTurnPlayerId ≠ userId then state.server
      else state.server.playMove lib env matchId game userId target) := by
  have moved : movePlayed env matchId game userId target state.server =
      state.server.movePlayed env matchId game userId target := by
    simp [movePlayed, found]
  have after : (state.played env matchId game userId target).Shared :=
    played_shared env shared matchId game userId target
  simp only [proceed, here]
  split
  · exact reaches_self lib env (enter_threads_self ..) shared
  · rw [Server.playMove_eq]
    split
    · rw [← perform_finishSteps lib env _ (by simp), ← moved]
      have won : ((state.played env matchId game userId target).enter thread
          (.ending (.move userId target) matchId ((EndPath.move userId target).endSteps env.now
            (game.processMove env.now userId target).1)) left).Shared := after
      exact ending_reaches lib env _ (enter_threads_self ..) (Function.update_self ..) won
    · rw [← moved]
      exact reaches_self lib env (enter_threads_self ..) after

theorem job_reaches (here : state.threads thread = ⟨.free, (path, matchId) :: left⟩)
    (shared : state.Shared) :
    state.Reaches lib env thread left (atomically lib env state.server (path, matchId)) := by
  apply reaches_of_go
  simp only [go, here, atomically]
  cases found : state.server.getMatch matchId with
  | none => exact reaches_self lib env (enter_threads_self ..) shared
  | some game =>
      have object := shared matchId game found
      apply reaches_of_go
      simp only [go, enter_threads_self, enter_objects, object]
      have concluded (concludes : path.isMove = false) :=
        read_reaches lib env (enter_threads_self thread (.holding path matchId) left state) object
          shared concludes
      cases path with
      | move userId target => exact move_reaches lib env (enter_threads_self ..) found shared
      | resign userId =>
          have done := concluded rfl
          rwa [EndPath.endSteps, perform_finishSteps lib env _ (by simp)] at done
      | drawAgreed =>
          have done := concluded rfl
          rwa [EndPath.endSteps, perform_finishSteps lib env _ (by simp)] at done
      | timeout scanned scannedAt =>
          have done := concluded rfl
          rw [EndPath.endSteps, perform_finishSteps lib env _ (by simp)] at done
          simpa only [Server.timeOutMatch, found, enter_server] using done
      | disconnect userId =>
          have done := concluded rfl
          rwa [enter_server, perform_disconnect lib env found] at done

theorem left_reaches (here : state.threads thread = ⟨.free, left⟩) (shared : state.Shared) :
    state.Reaches lib env thread [] (left.foldl (atomically lib env) state.server) := by
  induction left generalizing state with
  | nil => exact reaches_self lib env here shared
  | cons job left ih =>
      obtain ⟨count, server, here, shared⟩ := job_reaches lib env here shared
      obtain ⟨more, done⟩ := ih here shared
      rw [server] at done
      refine ⟨count + more, ?_⟩
      rw [List.replicate_add, Machine.exec_append]
      exact done

theorem request_reaches (matchId : MatchId) (token : Text) (begin : UserId → EndPath)
    (free : state.isIdle .handler = true) (shared : state.Shared) :
    let checked := state.server.validateSession env token
    (state.request env matchId token begin).Reaches lib env .handler []
      (if checked.2 = 0 then checked.1
      else atomically lib env checked.1 (begin checked.2, matchId)) := by
  have here := threads_of_isIdle free
  simp only [request, free, if_true]
  split
  · have checked : Shared { state with server := (state.server.validateSession env token).1 } :=
      shared
    exact reaches_self lib env here checked
  · have begun : (({ state with server := (state.server.validateSession env token).1 }
        : MatchThreads).enter .handler .free
          [(begin (state.server.validateSession env token).2, matchId)]).Shared := shared
    exact left_reaches lib env (enter_threads_self ..) begun

/-- Without other threads in between, each thread does what its handler does. -/
theorem handleMove_undisturbed (token : Text) (matchId : MatchId) (target : Coordinate)
    (free : state.isIdle .handler = true) (shared : state.Shared) :
    (state.step lib ⟨env, .handleMove token matchId target⟩).Reaches lib env .handler []
      (state.server.handleMove lib env token matchId target) :=
  request_reaches lib env matchId token (fun userId => .move userId target) free shared

theorem handleResign_undisturbed (token : Text) (matchId : MatchId)
    (free : state.isIdle .handler = true) (shared : state.Shared) :
    (state.step lib ⟨env, .handleResign token matchId⟩).Reaches lib env .handler []
      (state.server.handleResign lib env token matchId) :=
  request_reaches lib env matchId token .resign free shared

theorem handleDrawResponse_undisturbed (token : Text) (matchId : MatchId)
    (free : state.isIdle .handler = true) (shared : state.Shared) :
    (state.step lib ⟨env, .handleDrawResponse token matchId⟩).Reaches lib env .handler []
      (state.server.handleDrawResponse lib env token matchId true) :=
  request_reaches lib env matchId token (fun _ => .drawAgreed) free shared

theorem atomically_timeout (found : MatchState) (foundAt : Nat) (server : Server)
    (matchId : MatchId) :
    atomically lib env server (.timeout found foundAt, matchId) =
      server.timeOutMatch lib env matchId := by
  unfold atomically
  split
  next absent => simp only [Server.timeOutMatch, absent]
  · rfl

theorem atomically_disconnect (userId : UserId) (server : Server) (matchId : MatchId) :
    atomically lib env server (.disconnect userId, matchId) =
      server.abandonMatch lib env userId matchId := by
  unfold atomically
  split
  next absent => exact (Server.abandonMatch_of_none lib env userId server absent).symm
  · rfl

theorem checkTurnTimeouts_undisturbed (free : state.isIdle .timeoutChecker = true)
    (shared : state.Shared) :
    (state.step lib ⟨env, .checkTurnTimeouts⟩).Reaches lib env .timeoutChecker []
      (state.server.checkTurnTimeouts lib env) := by
  simp only [step, free, if_true]
  have done := left_reaches lib env (enter_threads_self .timeoutChecker .free
    ((state.server.games.activeMatches.toList.filter fun entry =>
      entry.2.isTurnTimedOut env.now).map fun entry => (.timeout entry.2 env.now, entry.1)) state)
    shared
  rw [List.foldl_map] at done
  simp only [atomically_timeout, enter_server] at done
  rw [Server.checkTurnTimeouts, Table.keysWhere, List.foldl_map]
  exact done

theorem handlePlayerDisconnect_undisturbed (number : Nat) (userId : UserId)
    (free : state.isIdle (.client number) = true) (shared : state.Shared) :
    (state.step lib ⟨env, .handlePlayerDisconnect number userId⟩).Reaches lib env
      (.client number) [] (state.server.handlePlayerDisconnect lib env userId) := by
  simp only [step, free, if_true]
  have done := left_reaches lib env (enter_threads_self (.client number) .free
    ((state.server.games.activeMatches.keysWhere fun game =>
      decide (game.player1Id = userId ∨ game.player2Id = userId)).map fun matchId =>
        (.disconnect userId, matchId)) state) shared
  rw [List.foldl_map] at done
  simp only [atomically_disconnect, enter_server] at done
  exact done

end Undisturbed

end MatchThreads

end Battleship
