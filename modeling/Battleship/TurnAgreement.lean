import Battleship.MoveResults
import Battleship.SunkInference

/-! Whose turn it is, in three places: on the server, which alone decides it, and in
the two clients, which are told by messages under way and also count down on their
own. What a client will take the turn to be once it has read its messages is the
turn on the server, until a countdown runs out. -/

namespace Battleship

open Machine

inductive Side
  | first | second
deriving DecidableEq, Repr

namespace Payload

def turnAfter (userId : UserId) (turn : Bool) : Payload → Bool
  | matchState .. => true
  | turnUpdate _ currentPlayerId .. => currentPlayerId = userId
  | _ => turn

def SetsTurn : Payload → Prop
  | matchState .. => True
  | turnUpdate .. => True
  | _ => False

instance (payload : Payload) : Decidable payload.SetsTurn := by
  cases payload <;> simp only [SetsTurn] <;> infer_instance

def sunkBy? (userId : UserId) : Payload → Option Coordinate
  | moveResult _ shooterId target .sunk .. => if shooterId = userId then some target else .none
  | _ => .none

theorem sunkBy?_moveResult (userId shooterId winnerId : UserId) (matchId : MatchId)
    (target : Coordinate) (result : ShotResult) (shipSunk : ShipType) (shipsRemaining : Int)
    (gameOver : Bool) :
    (moveResult matchId shooterId target result shipSunk shipsRemaining gameOver winnerId).sunkBy?
      userId = if result = .sunk ∧ shooterId = userId then some target else .none := by
  cases result <;> simp [sunkBy?]

end Payload

namespace MatchState

def player (game : MatchState) : Side → UserId
  | .first => game.player1Id
  | .second => game.player2Id

def announcements (matchId : MatchId) (elo : UserId → Int × Int) (game : MatchState)
    (call : Call) (userId : UserId) : List Payload :=
  let played := game.receive call
  [game.moveResult matchId call,
    if (played.targetBoard call.playerId).allShipsSunk then
      .matchEnd matchId (Server.announcedResult call.playerId userId) call.playerId .normal
        (elo userId).1 (elo userId).2 played.moveHistory.length
        (secondsSince call.now played.startTime) "All ships destroyed".toList
    else .turnUpdate matchId played.currentTurnPlayerId played.turnNumber 20]

def opening (matchId : MatchId) (game : MatchState) : List Payload :=
  [.matchState matchId game.player1Id game.player2Id 0 1 true false,
    .turnUpdate matchId game.currentTurnPlayerId 1 20]

end MatchState

/-- The match on the server, the two clients and what is under way between them.
A client is lost by an array access outside the ship table. -/
structure Duel where
  game : MatchState
  client : Side → Option UIManager
  inbox : Side → List Payload
  moves : Side → List Coordinate

namespace Duel

inductive Event
  | tick (side : Side)
  | press (side : Side) (row col : Int)
  | fire (side : Side)
  | deliver (side : Side)
  | serve (side : Side) (now : Nat) (elo : UserId → Int × Int)

def opened (matchId : MatchId) (game : MatchState) (client : Side → UIManager) : Duel where
  game := game
  client := fun side => some (client side)
  inbox := fun _ => game.opening matchId
  moves := fun _ => []

variable (matchId : MatchId) (duel : Duel)

def act (side : Side) (action : UIManager → UIManager × Option Coordinate) : Duel :=
  { duel with
    client := Function.update duel.client side ((duel.client side).map fun ui => (action ui).1)
    moves := Function.update duel.moves side
      (duel.moves side ++ ((duel.client side).bind fun ui => (action ui).2).toList) }

def deliver (side : Side) : Duel :=
  match duel.inbox side with
  | [] => duel
  | payload :: rest => { duel with
      client := Function.update duel.client side
        ((duel.client side).bind fun ui => ui.receive payload)
      inbox := Function.update duel.inbox side rest }

def handleMove (elo : UserId → Int × Int) (call : Call) : Duel :=
  if duel.game.Accepts call then { duel with
    game := duel.game.receive call
    inbox := fun side => duel.inbox side ++
      duel.game.announcements matchId elo call (duel.game.player side) }
  else duel

def serve (side : Side) (now : Nat) (elo : UserId → Int × Int) : Duel :=
  match duel.moves side with
  | [] => duel
  | target :: rest =>
      { duel with moves := Function.update duel.moves side rest }.handleMove matchId elo
        ⟨now, duel.game.player side, target⟩

def step (duel : Duel) : Event → Duel
  | .tick side => duel.act side fun ui => (ui.turnTimerCallback, none)
  | .press side row col => duel.act side fun ui => (ui.onBoardButtonPress row col, none)
  | .fire side => duel.act side UIManager.executeFireAtTarget
  | .deliver side => duel.deliver side
  | .serve side now elo => duel.serve matchId side now elo

def Quiet : Prop := ∀ side, duel.inbox side = [] ∧ duel.moves side = []

/-- No countdown runs out, unless a message that sets the turn is still to be read. -/
def InTime (duel : Duel) (event : Event) : Prop :=
  ∀ side, event = .tick side → ∀ ui, duel.client side = some ui → ui.expires = true →
    ∃ payload ∈ duel.inbox side, payload.SetsTurn

end Duel

theorem Board.processShot_remaining (board : Board) (pos : Coordinate) :
    ((board.processShot pos).2 = .sunk ∧
        (board.processShot pos).1.shipsRemaining = board.shipsRemaining - 1 ∧
        (cellAt? pos.row.toInt pos.col.toInt).isSome = true) ∨
      ((board.processShot pos).2 ≠ .sunk ∧
        (board.processShot pos).1.shipsRemaining = board.shipsRemaining) := by
  unfold processShot
  cases cellAt? pos.row.toInt pos.col.toInt with
  | none => simp
  | some cell =>
      dsimp only
      split
      · cases findShip { board with grid := Function.update board.grid cell .hit } pos with
        | none => simp
        | some i =>
            dsimp only
            unfold hitShip
            dsimp only
            split <;> simp
      split <;> simp

namespace UIManager

variable (ui : UIManager)

def foreseen (inbox : List Payload) : Bool :=
  inbox.foldl (Payload.turnAfter ui.userId) ui.isPlayerTurn

theorem receive_spec (payload : Payload)
    (ready : ∀ target, payload.sunkBy? ui.userId = some target →
      (cellAt? target.row.toInt target.col.toInt).isSome = true ∧
        ui.opponentBoard.shipsCount < numShips) :
    ∃ later, ui.receive payload = some later ∧ later.userId = ui.userId ∧
      later.isPlayerTurn = payload.turnAfter ui.userId ui.isPlayerTurn ∧
      later.opponentBoard.shipsCount ≤
        ui.opponentBoard.shipsCount + (payload.sunkBy? ui.userId).toList.length := by
  cases payload with
  | moveResult matchId shooterId target result shipSunk shipsRemaining gameOver winnerId =>
      by_cases own : shooterId = ui.userId
      · have count (row col : Int) (state : CellState) :
            (ui.opponentBoard.setCell row col state).shipsCount = ui.opponentBoard.shipsCount := by
          unfold Board.setCell
          split <;> rfl
        cases result with
        | miss => exact ⟨_, if_pos own, rfl, rfl, by simp [count]⟩
        | hit => exact ⟨_, if_pos own, rfl, rfl, by simp [count]⟩
        | sunk =>
            obtain ⟨onGrid, room⟩ := ready target (if_pos own)
            obtain ⟨board, revealed, bound⟩ := Board.revealSunk_defined onGrid room shipSunk
            refine ⟨_, (if_pos own).trans (congrArg (Option.map _) revealed), rfl, rfl, ?_⟩
            simpa [Payload.sunkBy?, own] using bound
      · exact ⟨_, if_neg own, rfl, rfl, by simp [onOpponentShot]⟩
  | matchState => exact ⟨_, rfl, rfl, rfl, Nat.le_add_right _ _⟩
  | turnUpdate matchId currentPlayerId turnNumber timeLeft =>
      refine ⟨_, rfl, ?_⟩
      unfold onTurnUpdate
      dsimp only
      split <;> exact ⟨rfl, rfl, Nat.le_add_right _ _⟩
  | _ => exact ⟨_, rfl, rfl, rfl, Nat.le_add_right _ _⟩

theorem turnTimerCallback_spec : ui.turnTimerCallback.userId = ui.userId ∧
    ui.turnTimerCallback.opponentBoard = ui.opponentBoard ∧
    ui.turnTimerCallback.isPlayerTurn = (if ui.expires then !ui.isPlayerTurn else ui.isPlayerTurn) := by
  unfold turnTimerCallback expires
  cases on : ui.turnTimerOn with
  | false => simp
  | true =>
      by_cases runsOut : ui.turnTimeRemaining - 1 ≤ 0 <;>
        simp [runsOut, onTurnTimerExpired, switchTurn, clearTargetSelection, startTurnTimer]

theorem onBoardButtonPress_spec (row col : Int) :
    (ui.onBoardButtonPress row col).userId = ui.userId ∧
      (ui.onBoardButtonPress row col).opponentBoard = ui.opponentBoard ∧
      (ui.onBoardButtonPress row col).isPlayerTurn = ui.isPlayerTurn := by
  unfold onBoardButtonPress
  split
  · simp
  split
  · simp
  split <;> simp [selectTarget]

theorem executeFireAtTarget_spec : ui.executeFireAtTarget.1.userId = ui.userId ∧
    ui.executeFireAtTarget.1.opponentBoard = ui.opponentBoard ∧
    ui.executeFireAtTarget.1.isPlayerTurn = ui.isPlayerTurn := by
  unfold executeFireAtTarget
  cases ui.selectedTarget with
  | none => simp
  | some place =>
      dsimp only
      split <;> simp [clearTargetSelection]

end UIManager

namespace MatchState

structure Playable (game : MatchState) : Prop where
  underway : game.Underway
  bounds : ∀ side, 0 ≤ (game.targetBoard (game.player side)).shipsRemaining ∧
    (game.targetBoard (game.player side)).shipsRemaining ≤ numShips
  afloat : game.isActive = true →
    ∀ side, (game.targetBoard (game.player side)).shipsRemaining ≠ 0

theorem Underway.playable {game : MatchState} (underway : game.Underway)
    (full : ∀ userId, (game.targetBoard userId).shipsRemaining = numShips) : game.Playable := by
  refine ⟨underway, fun side => ?_, fun _ side => ?_⟩
  · rw [full]
    simp
  · rw [full]
    simp

theorem seats_player (game : MatchState) (side : Side) : game.Seats (game.player side) := by
  cases side
  · exact Or.inl rfl
  · exact Or.inr rfl

theorem receive_player (game : MatchState) (call : Call) (side : Side) :
    (game.receive call).player side = game.player side := by
  obtain ⟨same1, same2⟩ := receive_players game call
  cases side
  · exact same1
  · exact same2

theorem receive_active {game : MatchState} {call : Call} (underway : game.Underway)
    (accepted : game.Accepts call) (active : (game.receive call).isActive = true) :
    ((game.receive call).targetBoard call.playerId).allShipsSunk = false := by
  rw [receive, processMove_of_accepts underway.unpaused accepted] at active ⊢
  rw [playMove_targetBoard]
  by_contra sunk
  rw [Bool.not_eq_false] at sunk
  rw [playMove_eq, if_pos sunk] at active
  simp [endMatch] at active

theorem Playable.receive {game : MatchState} (playable : game.Playable) {call : Call}
    (accepted : game.Accepts call) : (game.receive call).Playable := by
  have board (side : Side) := receive_targetBoard playable.underway accepted (game.seats_player side)
  refine ⟨playable.underway.receive call, ?_, ?_⟩
  · intro side
    have before := playable.bounds side
    have positive := playable.afloat accepted.1 side
    rw [receive_player, board]
    split
    · have shot := (game.targetBoard (game.player side)).processShot_remaining call.target
      omega
    · exact before
  · intro active side
    rw [receive_player]
    by_cases shooter : call.playerId = game.player side
    · have afloat := receive_active playable.underway accepted active
      rw [shooter] at afloat
      simpa [Board.allShipsSunk] using afloat
    · rw [board, if_neg shooter]
      exact playable.afloat accepted.1 side

end MatchState

/-- What ties a client to the match: every ship that it has been told of, or will be
told of, is one fewer afloat. -/
structure Duel.Serves (duel : Duel) (side : Side) (ui : UIManager) : Prop where
  client : duel.client side = some ui
  user : ui.userId = duel.game.player side
  room : (ui.opponentBoard.shipsCount : Int) +
    ((duel.inbox side).filterMap (Payload.sunkBy? ui.userId)).length +
    (duel.game.targetBoard (duel.game.player side)).shipsRemaining ≤ numShips
  onGrid : ∀ target ∈ (duel.inbox side).filterMap (Payload.sunkBy? ui.userId),
    (cellAt? target.row.toInt target.col.toInt).isSome = true

namespace Duel

def Sound (duel : Duel) : Prop :=
  duel.game.Playable ∧ ∀ side, ∃ ui, duel.Serves side ui

def Foresees (duel : Duel) : Prop :=
  duel.game.isActive = true → ∀ side ui, duel.client side = some ui →
    ui.foreseen (duel.inbox side) = decide (duel.game.currentTurnPlayerId = ui.userId)

section Steps

variable {duel : Duel} {side : Side}

theorem act_sound (sound : duel.Sound) (action : UIManager → UIManager × Option Coordinate)
    (frame : ∀ ui, (action ui).1.userId = ui.userId ∧
      (action ui).1.opponentBoard = ui.opponentBoard) (side : Side) :
    (duel.act side action).Sound := by
  refine ⟨sound.1, fun other => ?_⟩
  obtain ⟨ui, client, user, room, onGrid⟩ := sound.2 other
  by_cases same : other = side
  · subst same
    obtain ⟨userKept, boardKept⟩ := frame ui
    refine ⟨(action ui).1, ?_, userKept.trans user, ?_, ?_⟩
    · simp [act, client]
    · rw [boardKept, userKept]
      exact room
    · rw [userKept]
      exact onGrid
  · exact ⟨ui, by simpa [act, same] using client, user, room, onGrid⟩

theorem act_foresees (foresees : duel.Foresees)
    (action : UIManager → UIManager × Option Coordinate) (side : Side)
    (same : ∀ ui, duel.client side = some ui → (action ui).1.userId = ui.userId ∧
      (action ui).1.foreseen (duel.inbox side) = ui.foreseen (duel.inbox side)) :
    (duel.act side action).Foresees := by
  intro active other later client
  by_cases here : other = side
  · subst here
    simp only [act, Function.update_self, Option.map_eq_some_iff] at client
    obtain ⟨ui, before, rfl⟩ := client
    obtain ⟨user, turn⟩ := same ui before
    rw [user]
    exact turn.trans (foresees active other ui before)
  · simp only [act, Function.update_of_ne here] at client
    exact foresees active other later client

theorem deliver_eq {payload : Payload} {rest : List Payload}
    (pending : duel.inbox side = payload :: rest) : duel.deliver side = { duel with
      client := Function.update duel.client side
        ((duel.client side).bind fun ui => ui.receive payload)
      inbox := Function.update duel.inbox side rest } := by
  simp [deliver, pending]

/-- A client reads the next message without being lost. -/
theorem Serves.reads {ui : UIManager} (serves : duel.Serves side ui)
    (playable : duel.game.Playable) {payload : Payload} {rest : List Payload}
    (pending : duel.inbox side = payload :: rest) :
    ∃ later, ui.receive payload = some later ∧ later.userId = ui.userId ∧
      later.foreseen rest = ui.foreseen (duel.inbox side) ∧
      (duel.deliver side).Serves side later := by
  obtain ⟨client, user, room, onGrid⟩ := serves
  have nonneg := (playable.bounds side).1
  have split : (duel.inbox side).filterMap (Payload.sunkBy? ui.userId) =
      (payload.sunkBy? ui.userId).toList ++ rest.filterMap (Payload.sunkBy? ui.userId) := by
    rw [pending, List.filterMap_cons]
    split <;> rename_i told <;> rw [told] <;> rfl
  rw [split] at room onGrid
  rw [List.length_append] at room
  obtain ⟨later, received, sameUser, turn, count⟩ := ui.receive_spec payload (by
    intro target told
    refine ⟨onGrid target (by simp [told]), ?_⟩
    rw [told] at room
    simp only [Option.toList_some, List.length_singleton, numShips] at room ⊢
    omega)
  refine ⟨later, received, sameUser, ?_, ?_⟩
  · rw [pending, UIManager.foreseen, UIManager.foreseen, List.foldl_cons, sameUser, turn]
  · rw [deliver_eq pending]
    refine ⟨by simp [client, received], sameUser.trans user, ?_, ?_⟩
    · rw [sameUser]
      simp only [Function.update_self, numShips] at room ⊢
      omega
    · intro target told
      simp only [Function.update_self, sameUser] at told
      exact onGrid target (List.mem_append_right _ told)

theorem Serves.passed {other : Side} {ui : UIManager} (serves : duel.Serves other ui)
    (different : other ≠ side) : (duel.deliver side).Serves other ui := by
  obtain ⟨client, user, room, onGrid⟩ := serves
  cases pending : duel.inbox side with
  | nil => simpa [deliver, pending] using ⟨client, user, room, onGrid⟩
  | cons payload rest =>
      rw [deliver_eq pending]
      refine ⟨by simpa [different] using client, user, ?_, ?_⟩
      · simpa [different] using room
      · simpa [different] using onGrid

theorem deliver_sound (sound : duel.Sound) (side : Side) : (duel.deliver side).Sound := by
  cases pending : duel.inbox side with
  | nil => simpa [deliver, pending] using sound
  | cons payload rest =>
      refine ⟨by rw [deliver_eq pending]; exact sound.1, fun other => ?_⟩
      obtain ⟨ui, serves⟩ := sound.2 other
      by_cases same : other = side
      · subst same
        obtain ⟨later, _, _, _, next⟩ := serves.reads sound.1 pending
        exact ⟨later, next⟩
      · exact ⟨ui, serves.passed same⟩

theorem deliver_foresees (sound : duel.Sound) (foresees : duel.Foresees) (side : Side) :
    (duel.deliver side).Foresees := by
  cases pending : duel.inbox side with
  | nil => simpa [deliver, pending] using foresees
  | cons payload rest =>
      have game : (duel.deliver side).game = duel.game := by rw [deliver_eq pending]
      intro active other later client
      rw [game] at active ⊢
      obtain ⟨ui, serves⟩ := sound.2 other
      have before := foresees active other ui serves.client
      by_cases same : other = side
      · subst same
        obtain ⟨next, _, user, foreseen, nextServes⟩ := serves.reads sound.1 pending
        obtain rfl := Option.some.inj (nextServes.client.symm.trans client)
        rw [user, ← before, ← foreseen, deliver_eq pending]
        simp only [Function.update_self]
      · have kept := serves.passed same
        obtain rfl := Option.some.inj (kept.client.symm.trans client)
        rw [deliver_eq pending]
        simpa [same] using before

theorem handleMove_eq (matchId : MatchId) (elo : UserId → Int × Int) {call : Call}
    (accepted : duel.game.Accepts call) : duel.handleMove matchId elo call = { duel with
      game := duel.game.receive call
      inbox := fun side => duel.inbox side ++
        duel.game.announcements matchId elo call (duel.game.player side) } :=
  if_pos accepted

/-- Of the messages that follow a MOVE, the result alone can tell of a ship sunk. -/
theorem announcements_sunkBy (matchId : MatchId) (elo : UserId → Int × Int) {game : MatchState}
    (underway : game.Underway) {call : Call} (accepted : game.Accepts call) (userId : UserId) :
    (game.announcements matchId elo call userId).filterMap (Payload.sunkBy? userId) =
      if ((game.targetBoard call.playerId).processShot call.target).2 = .sunk ∧
        call.playerId = userId then [call.target] else [] := by
  have played := MatchState.processMove_of_accepts underway.unpaused accepted
  have told : (game.moveResult matchId call).sunkBy? userId =
      if ((game.targetBoard call.playerId).processShot call.target).2 = .sunk ∧
        call.playerId = userId then some call.target else none := by
    unfold MatchState.moveResult
    rw [played]
    dsimp only
    rw [Payload.sunkBy?_moveResult, MatchState.playMove_result]
  unfold MatchState.announcements
  dsimp only
  by_cases sinks : ((game.targetBoard call.playerId).processShot call.target).2 = .sunk ∧
      call.playerId = userId
  · rw [if_pos sinks] at told ⊢
    rw [List.filterMap_cons_some told, List.filterMap_cons_none (by split <;> rfl),
      List.filterMap_nil]
  · rw [if_neg sinks] at told ⊢
    rw [List.filterMap_cons_none told, List.filterMap_cons_none (by split <;> rfl),
      List.filterMap_nil]

/-- A ship that is sunk is no longer afloat and is told of: the room stays the same. -/
theorem Serves.told {ui : UIManager} (serves : duel.Serves side ui)
    (playable : duel.game.Playable) (matchId : MatchId) (elo : UserId → Int × Int) {call : Call}
    (accepted : duel.game.Accepts call) : (duel.handleMove matchId elo call).Serves side ui := by
  obtain ⟨client, user, room, onGrid⟩ := serves
  have told := announcements_sunkBy matchId elo playable.underway accepted ui.userId
  have board := MatchState.receive_targetBoard playable.underway accepted
    (duel.game.seats_player side)
  have shot := (duel.game.targetBoard (duel.game.player side)).processShot_remaining call.target
  rw [handleMove_eq matchId elo accepted]
  refine ⟨client, user.trans (MatchState.receive_player ..).symm, ?_, ?_⟩
  · simp only [MatchState.receive_player, List.filterMap_append, List.length_append, ← user, told]
    rw [← user] at room shot board
    by_cases own : call.playerId = ui.userId
    · rw [board, if_pos own, own]
      rcases shot with ⟨sunk, fewer, _⟩ | ⟨unsunk, same⟩
      · simp only [sunk, and_self, if_true, List.length_singleton]
        omega
      · simp only [unsunk, false_and, if_false, List.length_nil]
        omega
    · rw [board, if_neg own]
      simp only [own, and_false, if_false, List.length_nil]
      omega
  · intro target member
    simp only [List.filterMap_append, List.mem_append, ← user, told] at member
    rcases member with earlier | now
    · exact onGrid target earlier
    split at now
    next sinks =>
      obtain rfl := List.mem_singleton.mp now
      rw [sinks.2, user] at sinks
      rcases shot with ⟨_, _, onBoard⟩ | ⟨unsunk, _⟩
      · exact onBoard
      · exact absurd sinks.1 unsunk
    next => simp at now

theorem handleMove_sound (sound : duel.Sound) (matchId : MatchId) (elo : UserId → Int × Int)
    (call : Call) : (duel.handleMove matchId elo call).Sound := by
  by_cases accepted : duel.game.Accepts call
  · refine ⟨?_, fun side => ?_⟩
    · rw [handleMove_eq matchId elo accepted]
      exact sound.1.receive accepted
    · obtain ⟨ui, serves⟩ := sound.2 side
      exact ⟨ui, serves.told sound.1 matchId elo accepted⟩
  · rw [handleMove, if_neg accepted]
    exact sound

theorem handleMove_foresees (sound : duel.Sound) (foresees : duel.Foresees) (matchId : MatchId)
    (elo : UserId → Int × Int) (call : Call) : (duel.handleMove matchId elo call).Foresees := by
  by_cases accepted : duel.game.Accepts call
  · rw [handleMove_eq matchId elo accepted]
    intro active side ui client
    have afloat := MatchState.receive_active sound.1.underway accepted active
    simp only [MatchState.announcements, afloat, Bool.false_eq_true, if_false, UIManager.foreseen,
      List.foldl_append, List.foldl_cons, List.foldl_nil]
    rfl
  · rw [handleMove, if_neg accepted]
    exact foresees

/-- A MOVE that leaves its queue changes nothing by that. -/
theorem serve_eq (duel : Duel) (matchId : MatchId) (side : Side) (now : Nat)
    (elo : UserId → Int × Int) :
    duel.serve matchId side now elo = duel ∨ ∃ moves call,
      duel.serve matchId side now elo = { duel with moves := moves }.handleMove matchId elo call := by
  unfold serve
  cases duel.moves side with
  | nil => exact Or.inl rfl
  | cons target rest => exact Or.inr ⟨_, _, rfl⟩

theorem Sound.withMoves (sound : duel.Sound) (moves : Side → List Coordinate) :
    Sound { duel with moves := moves } := by
  refine ⟨sound.1, fun side => ?_⟩
  obtain ⟨ui, client, user, room, onGrid⟩ := sound.2 side
  exact ⟨ui, client, user, room, onGrid⟩

theorem step_sound (matchId : MatchId) (duel : Duel) (event : Event) (sound : duel.Sound) :
    (step matchId duel event).Sound := by
  cases event with
  | tick side =>
      exact act_sound sound _ (fun ui => ⟨ui.turnTimerCallback_spec.1,
        ui.turnTimerCallback_spec.2.1⟩) side
  | press side row col =>
      exact act_sound sound _ (fun ui => ⟨(ui.onBoardButtonPress_spec row col).1,
        (ui.onBoardButtonPress_spec row col).2.1⟩) side
  | fire side =>
      exact act_sound sound _ (fun ui => ⟨ui.executeFireAtTarget_spec.1,
        ui.executeFireAtTarget_spec.2.1⟩) side
  | deliver side => exact deliver_sound sound side
  | serve side now elo =>
      rcases duel.serve_eq matchId side now elo with same | ⟨moves, call, served⟩
      · rw [step, same]
        exact sound
      · rw [step, served]
        exact handleMove_sound (sound.withMoves moves) matchId elo call

/-- A message that sets the turn makes what was before it irrelevant. -/
theorem foldl_turnAfter {userId : UserId} {inbox : List Payload}
    (sets : ∃ payload ∈ inbox, payload.SetsTurn) : ∀ first second : Bool,
      inbox.foldl (Payload.turnAfter userId) first = inbox.foldl (Payload.turnAfter userId) second := by
  induction inbox with
  | nil => simp at sets
  | cons payload rest ih =>
      intro first second
      by_cases here : payload.SetsTurn
      · have same : payload.turnAfter userId first = payload.turnAfter userId second := by
          cases payload <;> first | rfl | exact absurd here (by simp [Payload.SetsTurn])
        rw [List.foldl_cons, List.foldl_cons, same]
      · obtain ⟨other, member, setsTurn⟩ := sets
        have different : other ≠ payload := fun same => here (same ▸ setsTurn)
        have later := List.mem_of_ne_of_mem different member
        exact ih ⟨other, later, setsTurn⟩ _ _

theorem foreseen_of_same {ui later : UIManager} {inbox : List Payload}
    (user : later.userId = ui.userId) (turn : later.isPlayerTurn = ui.isPlayerTurn) :
    later.foreseen inbox = ui.foreseen inbox := by
  rw [UIManager.foreseen, UIManager.foreseen, user, turn]

theorem step_foresees (matchId : MatchId) (duel : Duel) (event : Event) (inTime : duel.InTime event)
    (sound : duel.Sound) (foresees : duel.Foresees) : (step matchId duel event).Foresees := by
  cases event with
  | tick side =>
      apply act_foresees foresees
      intro ui client
      obtain ⟨user, _, turn⟩ := ui.turnTimerCallback_spec
      refine ⟨user, ?_⟩
      by_cases expires : ui.expires = true
      · rw [UIManager.foreseen, user]
        exact foldl_turnAfter (inTime side rfl ui client expires) _ _
      · rw [if_neg expires] at turn
        exact foreseen_of_same user turn
  | press side row col =>
      apply act_foresees foresees
      intro ui _
      obtain ⟨user, _, turn⟩ := ui.onBoardButtonPress_spec row col
      exact ⟨user, foreseen_of_same user turn⟩
  | fire side =>
      apply act_foresees foresees
      intro ui _
      obtain ⟨user, _, turn⟩ := ui.executeFireAtTarget_spec
      exact ⟨user, foreseen_of_same user turn⟩
  | deliver side => exact deliver_foresees sound foresees side
  | serve side now elo =>
      rcases duel.serve_eq matchId side now elo with same | ⟨moves, call, served⟩
      · rw [step, same]
        exact foresees
      · rw [step, served]
        exact handleMove_foresees (sound.withMoves moves) foresees matchId elo call

end Steps

section Runs

variable {game : MatchState} {client : Side → UIManager}

theorem opened_sound (matchId : MatchId) (playable : game.Playable)
    (users : ∀ side, (client side).userId = game.player side)
    (blank : ∀ side, (client side).opponentBoard = Board.new) :
    (opened matchId game client).Sound := by
  have silent (userId : UserId) :
      (game.opening matchId).filterMap (Payload.sunkBy? userId) = [] := rfl
  refine ⟨playable, fun side => ⟨client side, rfl, users side, ?_, ?_⟩⟩
  · rw [blank]
    simpa [opened, silent, Board.new] using (playable.bounds side).2
  · simp [opened, silent]

theorem opened_foresees (matchId : MatchId) (game : MatchState) (client : Side → UIManager) :
    (opened matchId game client).Foresees := by
  intro _ side ui known
  obtain rfl := Option.some.inj known
  rfl

/-- In a run in which no countdown runs out unheeded, the clients agree with the
server about the turn whenever nothing is under way. -/
theorem agrees_of_inTime (matchId : MatchId) (playable : game.Playable)
    (users : ∀ side, (client side).userId = game.player side)
    (blank : ∀ side, (client side).opponentBoard = Board.new)
    {events : List Event}
    (inTime : Respects (step matchId) InTime (opened matchId game client) events) :
    ∀ early, early <+: events →
      (exec (step matchId) (opened matchId game client) early).game.isActive = true →
      (exec (step matchId) (opened matchId game client) early).Quiet →
      ∀ side, ∃ ui,
        (exec (step matchId) (opened matchId game client) early).client side = some ui ∧
        (ui.isPlayerTurn = true ↔
          (exec (step matchId) (opened matchId game client) early).game.currentTurnPlayerId =
            ui.userId) := by
  rintro early ⟨later, rfl⟩ active quiet side
  have both := invariant_of_respects (step matchId)
    (motive := fun duel => duel.Sound ∧ duel.Foresees)
    ⟨opened_sound matchId playable users blank, opened_foresees matchId game client⟩
    (fun duel event permitted both => ⟨step_sound matchId duel event both.1,
      step_foresees matchId duel event permitted both.1 both.2⟩) early inTime.of_append
  obtain ⟨ui, serves⟩ := both.1.2 side
  have foreseen := both.2 active side ui serves.client
  rw [(quiet side).1] at foreseen
  refine ⟨ui, serves.client, ?_⟩
  rw [show ui.isPlayerTurn = _ from foreseen, decide_eq_true_iff]

end Runs

/-- In a quiet match every countdown that runs out leaves its client in the wrong. -/
theorem tick_disagrees (matchId : MatchId) {duel : Duel} {side : Side} {ui : UIManager}
    (client : duel.client side = some ui) (expires : ui.expires = true)
    (agrees : ui.isPlayerTurn = true ↔ duel.game.currentTurnPlayerId = ui.userId) :
    ∃ later, (step matchId duel (.tick side)).client side = some later ∧
      ¬(later.isPlayerTurn = true ↔
        (step matchId duel (.tick side)).game.currentTurnPlayerId = later.userId) := by
  obtain ⟨user, _, turn⟩ := ui.turnTimerCallback_spec
  refine ⟨ui.turnTimerCallback, by simp [step, act, client], ?_⟩
  have same : (step matchId duel (.tick side)).game = duel.game := rfl
  rw [same, user, ← agrees, turn, if_pos expires]
  cases ui.isPlayerTurn <;> simp

end Duel

theorem Board.placeShip_remaining {board : Board} {type : ShipType} {pos : Coordinate}
    {orientation : Orientation} {answer : Board × Bool}
    (placed : board.placeShip type pos orientation = some answer) :
    answer.1.shipsRemaining = board.shipsRemaining := by
  unfold placeShip at placed
  split at placed
  · simp at placed
  · obtain rfl := Option.some.inj placed
    rfl
  split at placed
  · simp at placed
  split at placed
  · obtain rfl := Option.some.inj placed
    rfl
  · simp at placed

theorem loadToken_remaining {board after : Board} {token : Decimal.Text}
    (loaded : loadToken board token = some after) :
    after.shipsRemaining = board.shipsRemaining := by
  unfold loadToken at loaded
  split at loaded
  · rw [Option.some.inj loaded]
  split at loaded
  · simp at loaded
  · rw [Option.some.inj loaded]
  · obtain ⟨answer, placed, rfl⟩ := Option.map_eq_some_iff.mp loaded
    exact Board.placeShip_remaining placed

theorem loadedBoard_remaining (db : Database) (matchId : MatchId) (userId : UserId) :
    (loadedBoard db matchId userId Board.new).shipsRemaining = numShips := by
  have tokens (list : List Decimal.Text) : ∀ board after : Board,
      list.foldlM loadToken board = some after → after.shipsRemaining = board.shipsRemaining := by
    induction list with
    | nil =>
        intro board after loaded
        rw [← Option.some.inj loaded]
    | cons token rest ih =>
        intro board after loaded
        rw [List.foldlM_cons] at loaded
        obtain ⟨next, first, others⟩ := Option.bind_eq_some_iff.mp loaded
        rw [ih next after others, loadToken_remaining first]
  unfold loadedBoard
  cases loaded : loadShips Board.new (db.getShipPlacement matchId userId) with
  | none => rfl
  | some board =>
      unfold loadShips at loaded
      split at loaded
      · rw [← Option.some.inj loaded]
        rfl
      · exact tokens _ _ _ loaded

/-- The match that two accepted placements start on the server. -/
theorem openedMatch_playable (db : Database) (matchId : MatchId) {player1Id player2Id : UserId}
    (distinct : player1Id ≠ player2Id) {first : UserId}
    (turn : first = player1Id ∨ first = player2Id) (startTime : Nat) :
    (openedMatch db matchId player1Id player2Id first startTime).Playable := by
  refine MatchState.Underway.playable ⟨distinct, rfl, turn⟩ fun userId => ?_
  unfold MatchState.targetBoard
  split <;> exact loadedBoard_remaining ..

theorem rowsMatch_playable : rowsMatch.Playable := by
  refine rowsMatch_underway.playable fun userId => ?_
  unfold MatchState.targetBoard
  split <;> exact rowsBoard_holds.remaining

def rowsClients (side : Side) : UIManager := rowsClient (rowsMatch.player side)

def openingRead : List Duel.Event :=
  [.deliver .first, .deliver .first, .deliver .second, .deliver .second]

theorem openingRead_agrees :
    let events := openingRead ++ [.press .second 0 0, .fire .second]
    ∀ early, early <+: events →
      (exec (Duel.step 1) (.opened 1 rowsMatch rowsClients) early).game.isActive = true →
      (exec (Duel.step 1) (.opened 1 rowsMatch rowsClients) early).Quiet →
      ∀ side, ∃ ui,
        (exec (Duel.step 1) (.opened 1 rowsMatch rowsClients) early).client side = some ui ∧
        (ui.isPlayerTurn = true ↔
          (exec (Duel.step 1) (.opened 1 rowsMatch rowsClients) early).game.currentTurnPlayerId =
            ui.userId) :=
  Duel.agrees_of_inTime 1 rowsMatch_playable (fun _ => rfl) (fun _ => rfl)
    (by simp [openingRead, respects_cons, Duel.InTime])

def idleTurn : List Duel.Event := openingRead ++ List.replicate 20 (.tick .second)

theorem idleTurn_disagrees :
    (exec (Duel.step 1) (.opened 1 rowsMatch rowsClients) idleTurn).game.isActive = true ∧
      (exec (Duel.step 1) (.opened 1 rowsMatch rowsClients) idleTurn).Quiet ∧
      ¬∀ side, ∃ ui,
        (exec (Duel.step 1) (.opened 1 rowsMatch rowsClients) idleTurn).client side = some ui ∧
        (ui.isPlayerTurn = true ↔
          (exec (Duel.step 1) (.opened 1 rowsMatch rowsClients) idleTurn).game.currentTurnPlayerId =
            ui.userId) := by
  refine ⟨rfl, ?_, ?_⟩
  · intro side
    cases side <;> exact ⟨rfl, rfl⟩
  · intro agrees
    obtain ⟨ui, client, turn⟩ := agrees .second
    have believes : ((exec (Duel.step 1) (.opened 1 rowsMatch rowsClients) idleTurn).client
        .second).map (fun ui => (ui.isPlayerTurn, ui.userId)) = some (false, 9) := rfl
    rw [client] at believes
    obtain ⟨waits, user⟩ := Prod.mk.inj (Option.some.inj believes)
    rw [waits, user] at turn
    exact absurd (turn.mpr rfl) (by simp)

end Battleship
