import Battleship.BoardShots
import Battleship.Library.Machine
import Battleship.MatchCore

/-! A whole match: any finite sequence of `processMove` calls, legal or not, on
a match that has just been started with two complete fleets. -/

namespace Battleship

open Machine

def Board.FleetSunk (board : Board) : Prop :=
  ∀ i : Fin numShips, (Board.shipAt board.ships i).isSunk = true

theorem Board.AfterShots.fleetSunk_iff {board : Board} {fleet : Fleet} {shots : Finset Cell}
    (after : board.AfterShots fleet shots) : board.FleetSunk ↔ board.allShipsSunk = true := by
  rw [allShipsSunk, decide_eq_true_iff, after.remaining, Int.natCast_eq_zero, Finset.card_eq_zero,
    Finset.eq_empty_iff_forall_notMem]
  unfold FleetSunk
  apply forall_congr'
  intro i
  rw [after.ships i, Fleet.shipAfter, decide_eq_true_iff, Targets.Family.mem_afloat, not_not]

def Board.Tracked (board : Board) : Prop :=
  ∃ (fleet : Fleet) (shots : Finset Cell), board.AfterShots fleet shots

theorem Board.Tracked.processShot {board : Board} (tracked : board.Tracked) (pos : Coordinate) :
    (board.processShot pos).1.Tracked := by
  obtain ⟨fleet, shots, after⟩ := tracked
  exact ⟨fleet, _, after.processShot pos⟩

theorem Board.Tracked.fleetSunk_iff {board : Board} (tracked : board.Tracked) :
    board.FleetSunk ↔ board.allShipsSunk = true := by
  obtain ⟨_, _, after⟩ := tracked
  exact after.fleetSunk_iff

theorem Board.HoldsFleet.tracked {board : Board} (placed : board.HoldsFleet) : board.Tracked := by
  obtain ⟨fleet, held⟩ := placed.fleet
  exact ⟨fleet, ∅, held.afterShots⟩

theorem Board.HoldsFleet.not_allShipsSunk {board : Board} (placed : board.HoldsFleet) :
    board.allShipsSunk = false := by
  obtain ⟨fleet, held⟩ := placed.fleet
  simp [allShipsSunk, held.remaining]

structure Call where
  now : Nat
  playerId : UserId
  target : Coordinate

namespace MatchState

def receive (game : MatchState) (call : Call) : MatchState :=
  (game.processMove call.now call.playerId call.target).1

def Accepts (game : MatchState) (call : Call) : Prop :=
  game.isActive = true ∧ call.playerId = game.currentTurnPlayerId

instance (game : MatchState) (call : Call) : Decidable (game.Accepts call) :=
  inferInstanceAs (Decidable (_ ∧ _))

def acceptedCalls (game : MatchState) : List Call → List Call
  | [] => []
  | call :: rest =>
      if game.Accepts call then call :: (game.receive call).acceptedCalls rest
      else (game.receive call).acceptedCalls rest

def misses (history : List Move) : Nat :=
  history.countP fun move => move.result = .miss

def seat (game : MatchState) (first : UserId) (missed : Nat) : UserId :=
  if missed % 2 = 0 then first else game.opponent first

theorem processMove_of_accepts {game : MatchState} {call : Call} (unpaused : game.isPaused = false)
    (accepted : game.Accepts call) : game.processMove call.now call.playerId call.target =
      game.playMove call.now call.playerId call.target := by
  simp [processMove, accepted.1, unpaused, accepted.2]

theorem processMove_of_not_accepts {game : MatchState} {call : Call}
    (refused : ¬game.Accepts call) :
    game.processMove call.now call.playerId call.target = (game, .miss) := by
  unfold processMove
  split
  · rfl
  split
  · rfl
  rename_i running turn
  simp only [Bool.or_eq_true, Bool.not_eq_true', not_or, Bool.not_eq_false] at running
  exact absurd ⟨running.1, not_not.mp turn⟩ refused

def moveOf (game : MatchState) (now : Nat) (playerId : UserId) (target : Coordinate) : Move where
  moveNumber := game.turnNumber
  playerId := playerId
  target := target
  result := ((game.targetBoard playerId).processShot target).2
  timestamp := now
  timeTakenMs := 0

def recorded (game : MatchState) (now : Nat) (playerId : UserId) (target : Coordinate) :
    MatchState :=
  (game.setTargetBoard playerId ((game.targetBoard playerId).processShot target).1).addMoveToHistory
    (game.moveOf now playerId target)

theorem playMove_eq (game : MatchState) (now : Nat) (playerId : UserId) (target : Coordinate) :
    (game.playMove now playerId target).1 =
      if ((game.targetBoard playerId).processShot target).1.allShipsSunk then
        (game.recorded now playerId target).endMatch now playerId
      else if (game.moveOf now playerId target).result = .miss then
        (game.recorded now playerId target).switchTurn now
      else game.recorded now playerId target := by
  rw [playMove]
  by_cases sunk : ((game.targetBoard playerId).processShot target).1.allShipsSunk = true
  · simp only [sunk, if_true]
    rfl
  · simp only [sunk, Bool.false_eq_true, if_false]
    by_cases missed : ((game.targetBoard playerId).processShot target).2 = .miss
    · simp only [moveOf, missed, if_true]
      rw [recorded, moveOf, missed]
    · simp only [moveOf, missed, if_false]
      rfl

section recorded

variable (game : MatchState) (now : Nat) (playerId : UserId) (target : Coordinate)

@[simp] theorem recorded_player1Id :
    (game.recorded now playerId target).player1Id = game.player1Id := by
  unfold recorded addMoveToHistory setTargetBoard
  split <;> rfl

@[simp] theorem recorded_player2Id :
    (game.recorded now playerId target).player2Id = game.player2Id := by
  unfold recorded addMoveToHistory setTargetBoard
  split <;> rfl

@[simp] theorem recorded_isPaused :
    (game.recorded now playerId target).isPaused = game.isPaused := by
  unfold recorded addMoveToHistory setTargetBoard
  split <;> rfl

@[simp] theorem recorded_isActive :
    (game.recorded now playerId target).isActive = game.isActive := by
  unfold recorded addMoveToHistory setTargetBoard
  split <;> rfl

@[simp] theorem recorded_turnNumber :
    (game.recorded now playerId target).turnNumber = game.turnNumber := by
  unfold recorded addMoveToHistory setTargetBoard
  split <;> rfl

@[simp] theorem recorded_currentTurnPlayerId :
    (game.recorded now playerId target).currentTurnPlayerId = game.currentTurnPlayerId := by
  unfold recorded addMoveToHistory setTargetBoard
  split <;> rfl

@[simp] theorem recorded_moveHistory :
    (game.recorded now playerId target).moveHistory =
      game.moveHistory ++ [game.moveOf now playerId target] := by
  unfold recorded addMoveToHistory setTargetBoard
  split <;> rfl

theorem recorded_targetBoard (shooter : UserId) :
    (game.recorded now playerId target).targetBoard shooter =
      if (shooter = game.player1Id ↔ playerId = game.player1Id) then
        ((game.targetBoard playerId).processShot target).1
      else game.targetBoard shooter := by
  unfold recorded addMoveToHistory setTargetBoard targetBoard
  by_cases first : playerId = game.player1Id <;> by_cases same : shooter = game.player1Id <;>
    simp [first, same]

end recorded

theorem playMove_history (game : MatchState) (now : Nat) (playerId : UserId)
    (target : Coordinate) : (game.playMove now playerId target).1.moveHistory =
      game.moveHistory ++ [game.moveOf now playerId target] := by
  rw [playMove_eq]
  split
  · simp [endMatch]
  split
  · simp [switchTurn]
  · simp

structure Consistent (first : UserId) (game : MatchState) : Prop where
  distinct : game.player1Id ≠ game.player2Id
  unpaused : game.isPaused = false
  first_seat : first = game.player1Id ∨ first = game.player2Id
  tracked : ∀ playerId, (game.targetBoard playerId).Tracked
  alternation : ∀ k earlier later, game.moveHistory[k]? = some earlier →
    game.moveHistory[k + 1]? = some later →
    (earlier.playerId = later.playerId ↔ earlier.result ≠ .miss)
  running : game.isActive = true →
    game.turnNumber = 1 + misses game.moveHistory ∧
    game.currentTurnPlayerId = game.seat first (misses game.moveHistory) ∧
    (∀ playerId, (game.targetBoard playerId).allShipsSunk = false) ∧
    ∀ last, game.moveHistory.getLast? = some last →
      (last.playerId = game.currentTurnPlayerId ↔ last.result ≠ .miss)
  done : game.isActive = false → ∃ last, game.moveHistory.getLast? = some last ∧
    game.winnerId = last.playerId ∧
    (game.winnerId = game.player1Id ∨ game.winnerId = game.player2Id) ∧
    (game.targetBoard game.winnerId).allShipsSunk = true ∧
    (game.targetBoard (game.opponent game.winnerId)).allShipsSunk = false ∧
    (game.result = .win ↔ game.winnerId = game.player1Id)

theorem Consistent.current_seat {first : UserId} {game : MatchState}
    (consistent : game.Consistent first) (active : game.isActive = true) :
    game.currentTurnPlayerId = game.player1Id ∨ game.currentTurnPlayerId = game.player2Id := by
  have turn := (consistent.running active).2.1
  rw [turn, seat]
  split
  · exact consistent.first_seat
  · unfold opponent
    split <;> simp

theorem seat_succ {game : MatchState} {first : UserId} (missed : Nat)
    (distinct : game.player1Id ≠ game.player2Id)
    (first_seat : first = game.player1Id ∨ first = game.player2Id) :
    game.seat first (missed + 1) = game.opponent (game.seat first missed) := by
  unfold seat
  rcases Nat.mod_two_eq_zero_or_one missed with even | odd
  · simp [even, show (missed + 1) % 2 = 1 by omega]
  · simp only [odd, show (missed + 1) % 2 = 0 by omega, if_true, one_ne_zero, if_false]
    rcases first_seat with rfl | rfl <;> simp [opponent, distinct.symm]

theorem misses_concat (history : List Move) (move : Move) :
    misses (history ++ [move]) = misses history + if move.result = .miss then 1 else 0 := by
  simp [misses, List.countP_append, List.countP_cons]

theorem alternation_concat {history : List Move} {move : Move}
    (before : ∀ k earlier later, history[k]? = some earlier → history[k + 1]? = some later →
      (earlier.playerId = later.playerId ↔ earlier.result ≠ .miss))
    (joint : ∀ last, history.getLast? = some last →
      (last.playerId = move.playerId ↔ last.result ≠ .miss)) :
    ∀ k earlier later, (history ++ [move])[k]? = some earlier →
      (history ++ [move])[k + 1]? = some later →
      (earlier.playerId = later.playerId ↔ earlier.result ≠ .miss) := by
  intro k earlier later at_k at_next
  have bound : k + 1 < history.length + 1 := by
    have inside := (List.getElem?_eq_some_iff.mp at_next).1
    simpa using inside
  rw [List.getElem?_append_left (by omega)] at at_k
  by_cases last : k + 1 < history.length
  · rw [List.getElem?_append_left last] at at_next
    exact before k earlier later at_k at_next
  · have atEnd : k + 1 = history.length := by omega
    rw [atEnd, List.getElem?_concat_length, Option.some.injEq] at at_next
    subst at_next
    apply joint
    rw [List.getLast?_eq_getElem?, ← atEnd]
    exact at_k

theorem opponent_iff {game : MatchState} (distinct : game.player1Id ≠ game.player2Id)
    (playerId : UserId) :
    ¬(game.opponent playerId = game.player1Id ↔ playerId = game.player1Id) := by
  unfold opponent
  split
  next same => simp [same, distinct.symm]
  next other => simp [other]

theorem recorded_tracked {game : MatchState} (tracked : ∀ shooter, (game.targetBoard shooter).Tracked)
    (now : Nat) (playerId : UserId) (target : Coordinate) (shooter : UserId) :
    ((game.recorded now playerId target).targetBoard shooter).Tracked := by
  rw [recorded_targetBoard]
  split
  · exact (tracked playerId).processShot target
  · exact tracked shooter

theorem Consistent.final {first : UserId} {game : MatchState}
    (consistent : game.Consistent first) (active : game.isActive = true) (now : Nat)
    (target : Coordinate)
    (sunk : ((game.targetBoard game.currentTurnPlayerId).processShot target).1.allShipsSunk = true) :
    ((game.recorded now game.currentTurnPlayerId target).endMatch now
      game.currentTurnPlayerId).Consistent first := by
  obtain ⟨number, turn, afloat, joint⟩ := consistent.running active
  have seated := consistent.current_seat active
  refine ⟨by simpa [endMatch] using consistent.distinct, by simpa [endMatch] using consistent.unpaused,
    by simpa [endMatch] using consistent.first_seat, ?_, ?_, by simp [endMatch], ?_⟩
  · exact recorded_tracked consistent.tracked now _ target
  · simpa [endMatch] using alternation_concat consistent.alternation joint
  · intro _
    refine ⟨game.moveOf now game.currentTurnPlayerId target, by simp [endMatch], rfl, ?_, ?_, ?_, ?_⟩
    · simpa [endMatch] using seated
    · change ((game.recorded now _ target).targetBoard game.currentTurnPlayerId).allShipsSunk = true
      rw [recorded_targetBoard, if_pos Iff.rfl]
      exact sunk
    · change ((game.recorded now _ target).targetBoard ((game.recorded now _ target).opponent
        game.currentTurnPlayerId)).allShipsSunk = false
      have same : (game.recorded now game.currentTurnPlayerId target).opponent
          game.currentTurnPlayerId = game.opponent game.currentTurnPlayerId := by
        simp [opponent]
      rw [same, recorded_targetBoard, if_neg (opponent_iff consistent.distinct _)]
      exact afloat _
    · simp only [endMatch, recorded_player1Id]
      split
      next won => simp [won]
      next lost => split <;> simp [lost]

theorem Consistent.recorded_afloat {first : UserId} {game : MatchState}
    (consistent : game.Consistent first) (active : game.isActive = true) (now : Nat)
    (target : Coordinate)
    (kept : ((game.targetBoard game.currentTurnPlayerId).processShot target).1.allShipsSunk = false)
    (shooter : UserId) :
    ((game.recorded now game.currentTurnPlayerId target).targetBoard shooter).allShipsSunk = false := by
  obtain ⟨_, _, afloat, _⟩ := consistent.running active
  rw [recorded_targetBoard]
  split
  · exact kept
  · exact afloat shooter

theorem Consistent.miss {first : UserId} {game : MatchState}
    (consistent : game.Consistent first) (active : game.isActive = true) (now : Nat)
    (target : Coordinate)
    (kept : ((game.targetBoard game.currentTurnPlayerId).processShot target).1.allShipsSunk = false)
    (missed : (game.moveOf now game.currentTurnPlayerId target).result = .miss) :
    ((game.recorded now game.currentTurnPlayerId target).switchTurn now).Consistent first := by
  obtain ⟨number, turn, afloat, joint⟩ := consistent.running active
  have next := seat_succ (misses game.moveHistory) consistent.distinct consistent.first_seat
  have moved : (game.moveOf now game.currentTurnPlayerId target).playerId =
      game.currentTurnPlayerId := rfl
  refine ⟨by simpa [switchTurn] using consistent.distinct,
    by simpa [switchTurn] using consistent.unpaused,
    by simpa [switchTurn] using consistent.first_seat, ?_, ?_, ?_, ?_⟩
  · exact recorded_tracked consistent.tracked now _ target
  · simpa [switchTurn] using alternation_concat consistent.alternation joint
  · intro _
    have switched : ((game.recorded now game.currentTurnPlayerId target).switchTurn
        now).currentTurnPlayerId = game.opponent game.currentTurnPlayerId := by
      simp [switchTurn, opponent]
    refine ⟨?_, ?_, consistent.recorded_afloat active now target kept, ?_⟩
    · simp only [switchTurn, recorded_turnNumber, recorded_moveHistory, misses_concat, missed,
        if_true, number, Nat.cast_add, Nat.cast_one]
      omega
    · rw [switched]
      simp only [switchTurn, recorded_moveHistory, misses_concat, missed, if_true]
      rw [turn]
      simpa [seat, opponent] using next.symm
    · intro last isLast
      rw [switched]
      simp only [switchTurn, recorded_moveHistory, List.getLast?_concat, Option.some.injEq] at isLast
      subst isLast
      rw [moved, missed]
      have differs := opponent_iff consistent.distinct game.currentTurnPlayerId
      simp only [ne_eq, not_true_eq_false, iff_false]
      intro same
      rw [← same] at differs
      exact differs Iff.rfl
  · intro done
    simp [switchTurn, active] at done

theorem Consistent.hit {first : UserId} {game : MatchState}
    (consistent : game.Consistent first) (active : game.isActive = true) (now : Nat)
    (target : Coordinate)
    (kept : ((game.targetBoard game.currentTurnPlayerId).processShot target).1.allShipsSunk = false)
    (struck : (game.moveOf now game.currentTurnPlayerId target).result ≠ .miss) :
    (game.recorded now game.currentTurnPlayerId target).Consistent first := by
  obtain ⟨number, turn, afloat, joint⟩ := consistent.running active
  refine ⟨by simpa using consistent.distinct, by simpa using consistent.unpaused,
    by simpa using consistent.first_seat, recorded_tracked consistent.tracked now _ target,
    by simpa using alternation_concat consistent.alternation joint, ?_, ?_⟩
  · intro _
    refine ⟨?_, ?_, consistent.recorded_afloat active now target kept, ?_⟩
    · simp [misses_concat, struck, number]
    · simp only [recorded_currentTurnPlayerId, recorded_moveHistory, misses_concat, struck,
        if_false, Nat.add_zero]
      rw [turn]
      simp [seat, opponent]
    · intro last isLast
      simp only [recorded_moveHistory, List.getLast?_concat, Option.some.injEq] at isLast
      subst isLast
      rw [recorded_currentTurnPlayerId]
      exact iff_of_true rfl struck
  · intro done
    simp [active] at done

theorem Consistent.playMove {first : UserId} {game : MatchState}
    (consistent : game.Consistent first) (active : game.isActive = true) (now : Nat)
    (target : Coordinate) :
    (game.playMove now game.currentTurnPlayerId target).1.Consistent first := by
  rw [playMove_eq]
  split
  next sunk => exact consistent.final active now target sunk
  next kept =>
    rw [Bool.not_eq_true] at kept
    split
    next missed => exact consistent.miss active now target kept missed
    next struck => exact consistent.hit active now target kept struck

theorem Consistent.receive {first : UserId} {game : MatchState}
    (consistent : game.Consistent first) (call : Call) : (game.receive call).Consistent first := by
  by_cases accepted : game.Accepts call
  · rw [MatchState.receive, processMove_of_accepts consistent.unpaused accepted, accepted.2]
    exact consistent.playMove accepted.1 call.now call.target
  · rw [MatchState.receive, processMove_of_not_accepts accepted]
    exact consistent

def callOf (move : Move) : Call := ⟨move.timestamp, move.playerId, move.target⟩

theorem receive_history {game : MatchState} (unpaused : game.isPaused = false) (call : Call) :
    (game.receive call).moveHistory.map callOf =
      game.moveHistory.map callOf ++ if game.Accepts call then [call] else [] := by
  by_cases accepted : game.Accepts call
  · rw [receive, processMove_of_accepts unpaused accepted, playMove_history, if_pos accepted]
    simp [callOf, moveOf]
  · rw [receive, processMove_of_not_accepts accepted, if_neg accepted, List.append_nil]

theorem acceptedCalls_concat (game : MatchState) (calls : List Call) (call : Call) :
    game.acceptedCalls (calls ++ [call]) = game.acceptedCalls calls ++
      if (exec receive game calls).Accepts call then [call] else [] := by
  induction calls generalizing game with
  | nil => rfl
  | cons head rest ih =>
      simp only [List.cons_append, acceptedCalls, exec_cons, ih]
      by_cases accepted : game.Accepts head
      · simp only [accepted, if_true, List.cons_append]
        rfl
      · simp only [accepted, if_false]
        rfl

theorem Consistent.exec_receive {first : UserId} {start : MatchState}
    (consistent : start.Consistent first) (fresh : start.moveHistory = []) (calls : List Call) :
    (exec MatchState.receive start calls).Consistent first ∧
      (exec MatchState.receive start calls).moveHistory.map callOf = start.acceptedCalls calls := by
  induction calls using List.reverseRecOn with
  | nil => exact ⟨consistent, by simp [fresh, acceptedCalls]⟩
  | append_singleton calls call ih =>
      obtain ⟨current, recordedCalls⟩ := ih
      rw [exec_append, exec_cons, exec_nil]
      refine ⟨current.receive call, ?_⟩
      rw [receive_history current.unpaused, recordedCalls, acceptedCalls_concat]

theorem receive_players (game : MatchState) (call : Call) :
    (game.receive call).player1Id = game.player1Id ∧
      (game.receive call).player2Id = game.player2Id := by
  by_cases running : (!game.isActive || game.isPaused) = true
  · simp [receive, processMove, running]
  by_cases turn : call.playerId = game.currentTurnPlayerId
  · rw [receive, processMove, if_neg running, if_neg (not_not.mpr turn), playMove_eq]
    split
    · simp [endMatch]
    split <;> simp [switchTurn]
  · rw [receive, processMove, if_neg running, if_pos turn]
    exact ⟨rfl, rfl⟩

theorem exec_receive_players (start : MatchState) (calls : List Call) :
    (exec receive start calls).player1Id = start.player1Id ∧
      (exec receive start calls).player2Id = start.player2Id := by
  refine invariant receive (motive := fun game => game.player1Id = start.player1Id ∧
    game.player2Id = start.player2Id) ⟨rfl, rfl⟩ ?_ calls
  intro game call kept
  obtain ⟨same1, same2⟩ := receive_players game call
  exact ⟨same1.trans kept.1, same2.trans kept.2⟩

theorem Consistent.startMatch {game : MatchState} (now : Nat)
    (distinct : game.player1Id ≠ game.player2Id)
    (turn : game.currentTurnPlayerId = game.player1Id ∨ game.currentTurnPlayerId = game.player2Id)
    (fresh : game.moveHistory = []) (unpaused : game.isPaused = false)
    (placed : ∀ playerId, (game.targetBoard playerId).HoldsFleet) :
    (game.startMatch now).Consistent game.currentTurnPlayerId where
  distinct := distinct
  unpaused := unpaused
  first_seat := turn
  tracked := fun playerId => (placed playerId).tracked
  alternation := by simp [MatchState.startMatch, fresh]
  running := by
    intro _
    refine ⟨by simp [MatchState.startMatch, fresh, misses],
      by simp [MatchState.startMatch, fresh, misses, seat], ?_,
      by simp [MatchState.startMatch, fresh]⟩
    exact fun playerId => (placed playerId).not_allShipsSunk
  done := by simp [MatchState.startMatch]

theorem Consistent.player1Board_iff {first : UserId} {game : MatchState}
    (consistent : game.Consistent first) :
    game.player1Board.FleetSunk ↔ (game.targetBoard game.player2Id).allShipsSunk = true := by
  have shootsAt : game.targetBoard game.player2Id = game.player1Board := by
    simp [targetBoard, consistent.distinct.symm]
  rw [← (consistent.tracked game.player2Id).fleetSunk_iff, shootsAt]

theorem Consistent.player2Board_iff {first : UserId} {game : MatchState}
    (consistent : game.Consistent first) :
    game.player2Board.FleetSunk ↔ (game.targetBoard game.player1Id).allShipsSunk = true := by
  have shootsAt : game.targetBoard game.player1Id = game.player2Board := by
    simp [targetBoard]
  rw [← (consistent.tracked game.player1Id).fleetSunk_iff, shootsAt]

theorem Consistent.decided {first : UserId} {game : MatchState}
    (consistent : game.Consistent first) (done : game.isActive = false) :
    (game.winnerId = game.player1Id ∧ game.player2Board.FleetSunk ∧ ¬game.player1Board.FleetSunk) ∨
    (game.winnerId = game.player2Id ∧ game.player1Board.FleetSunk ∧
      ¬game.player2Board.FleetSunk) := by
  obtain ⟨_, _, _, winner, sunk, afloat, _⟩ := consistent.done done
  rw [consistent.player1Board_iff, consistent.player2Board_iff]
  rcases winner with first_won | second_won
  · left
    rw [first_won] at sunk afloat
    refine ⟨first_won, sunk, ?_⟩
    simpa [opponent] using afloat
  · right
    rw [second_won] at sunk afloat
    refine ⟨second_won, sunk, ?_⟩
    simpa [opponent, consistent.distinct.symm] using afloat

theorem Consistent.undecided {first : UserId} {game : MatchState}
    (consistent : game.Consistent first) (active : game.isActive = true) :
    ¬game.player1Board.FleetSunk ∧ ¬game.player2Board.FleetSunk := by
  obtain ⟨_, _, afloat, _⟩ := consistent.running active
  rw [consistent.player1Board_iff, consistent.player2Board_iff]
  simp [afloat]

/-- What the match looks like after the calls. `start` is the started match. -/
structure MatchAccounts (start : MatchState) (calls : List Call) (game : MatchState) : Prop where
  history : game.moveHistory.map callOf = start.acceptedCalls calls
  refused : ∀ before call, StepOf calls before call → ¬(exec receive start before).Accepts call →
    exec receive start (before ++ [call]) = exec receive start before
  again_iff : ∀ k earlier later, game.moveHistory[k]? = some earlier →
    game.moveHistory[k + 1]? = some later →
    (earlier.playerId = later.playerId ↔ earlier.result = .hit ∨ earlier.result = .sunk)
  turn : game.isActive = true → game.turnNumber = 1 + misses game.moveHistory ∧
    game.currentTurnPlayerId = start.seat start.currentTurnPlayerId (misses game.moveHistory)
  over_iff : game.isActive = false ↔ Xor game.player1Board.FleetSunk game.player2Board.FleetSunk
  winner : game.isActive = false → ∃ last, game.moveHistory.getLast? = some last ∧
    game.winnerId = last.playerId ∧
    ((game.winnerId = start.player1Id ∧ game.player2Board.FleetSunk) ∨
      (game.winnerId = start.player2Id ∧ game.player1Board.FleetSunk)) ∧
    (game.result = .win ↔ game.winnerId = start.player1Id)
  never_both : ¬(game.player1Board.FleetSunk ∧ game.player2Board.FleetSunk)

/-- Any calls on a match just started with two complete fleets. -/
theorem startMatch_accounts {game : MatchState} (now : Nat)
    (distinct : game.player1Id ≠ game.player2Id)
    (turn : game.currentTurnPlayerId = game.player1Id ∨ game.currentTurnPlayerId = game.player2Id)
    (fresh : game.moveHistory = []) (unpaused : game.isPaused = false)
    (placed1 : game.player1Board.HoldsFleet) (placed2 : game.player2Board.HoldsFleet)
    (calls : List Call) :
    MatchAccounts (game.startMatch now) calls (exec receive (game.startMatch now) calls) := by
  have placed (playerId : UserId) : (game.targetBoard playerId).HoldsFleet := by
    unfold targetBoard
    split <;> assumption
  have started := Consistent.startMatch now distinct turn fresh unpaused placed
  obtain ⟨consistent, history⟩ := started.exec_receive fresh calls
  obtain ⟨kept1, kept2⟩ := exec_receive_players (game.startMatch now) calls
  constructor
  case history => exact history
  case refused =>
    intro before call _ refused
    rw [exec_append, exec_cons, exec_nil, receive, processMove_of_not_accepts refused]
  case again_iff =>
    intro k earlier later at_k at_next
    rw [consistent.alternation k earlier later at_k at_next]
    cases earlier.result <;> simp
  case turn =>
    intro active
    obtain ⟨number, current, _⟩ := consistent.running active
    refine ⟨number, ?_⟩
    rw [current, seat, seat, opponent, opponent, kept1, kept2]
    rfl
  case over_iff =>
    constructor
    · intro done
      rcases consistent.decided done with ⟨_, sunk, afloat⟩ | ⟨_, sunk, afloat⟩
      · exact Or.inr ⟨sunk, afloat⟩
      · exact Or.inl ⟨sunk, afloat⟩
    · intro one
      by_contra active
      obtain ⟨afloat1, afloat2⟩ := consistent.undecided (by simpa using active)
      rcases one with ⟨sunk, _⟩ | ⟨sunk, _⟩
      · exact afloat1 sunk
      · exact afloat2 sunk
  case winner =>
    intro done
    obtain ⟨last, isLast, winner, _, _, _, result⟩ := consistent.done done
    refine ⟨last, isLast, winner, ?_, ?_⟩
    · rw [← kept1, ← kept2]
      rcases consistent.decided done with ⟨won, sunk, _⟩ | ⟨won, sunk, _⟩
      · exact Or.inl ⟨won, sunk⟩
      · exact Or.inr ⟨won, sunk⟩
    · rw [← kept1]
      exact result
  case never_both =>
    rintro ⟨sunk1, sunk2⟩
    cases active : (exec receive (game.startMatch now) calls).isActive with
    | true => exact (consistent.undecided active).1 sunk1
    | false =>
        rcases consistent.decided active with ⟨_, _, afloat⟩ | ⟨_, _, afloat⟩
        · exact afloat sunk1
        · exact afloat sunk2

theorem rowsMatch_accounts :
    let game := { new [] 7 9 [] [] with
      player1Board := rowsBoard
      player2Board := rowsBoard
      currentTurnPlayerId := 9 }
    MatchAccounts (game.startMatch 100) [⟨101, 9, ⟨0, 0⟩⟩, ⟨102, 7, ⟨5, 5⟩⟩, ⟨103, 9, ⟨9, 9⟩⟩]
      (exec receive (game.startMatch 100)
        [⟨101, 9, ⟨0, 0⟩⟩, ⟨102, 7, ⟨5, 5⟩⟩, ⟨103, 9, ⟨9, 9⟩⟩]) :=
  startMatch_accounts 100 (by decide) (Or.inr rfl) rfl rfl rowsBoard_holdsFleet rowsBoard_holdsFleet _

/-- `startMatch` resets neither the pause nor the history: a paused match records no call, and a
match that is started once more keeps the moves it had. -/
theorem not_accounts_paused_or_restarted :
    (¬∀ (game : MatchState) (now : Nat) (calls : List Call), game.player1Id ≠ game.player2Id →
      (game.currentTurnPlayerId = game.player1Id ∨ game.currentTurnPlayerId = game.player2Id) →
      game.moveHistory = [] → game.player1Board.HoldsFleet → game.player2Board.HoldsFleet →
        MatchAccounts (game.startMatch now) calls (exec receive (game.startMatch now) calls)) ∧
    ¬∀ (game : MatchState) (now : Nat) (calls : List Call), game.player1Id ≠ game.player2Id →
      (game.currentTurnPlayerId = game.player1Id ∨ game.currentTurnPlayerId = game.player2Id) →
      game.isPaused = false → game.player1Board.HoldsFleet → game.player2Board.HoldsFleet →
        MatchAccounts (game.startMatch now) calls (exec receive (game.startMatch now) calls) := by
  let rows : MatchState := { new [] 7 9 [] [] with
    player1Board := rowsBoard
    player2Board := rowsBoard
    currentTurnPlayerId := 9 }
  constructor
  · intro all
    have accounts := all { rows with isPaused := true } 100 [⟨101, 9, ⟨0, 0⟩⟩] (by decide)
      (Or.inr rfl) rfl rowsBoard_holdsFleet rowsBoard_holdsFleet
    exact List.cons_ne_nil _ _ accounts.history.symm
  · intro all
    have accounts := all { rows with moveHistory := [⟨1, 9, ⟨9, 9⟩, .miss, 50, 0⟩] } 100 []
      (by decide) (Or.inr rfl) rfl rowsBoard_holdsFleet rowsBoard_holdsFleet
    exact List.cons_ne_nil _ _ accounts.history

end MatchState

end Battleship
