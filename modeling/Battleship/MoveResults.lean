import Battleship.MatchSteps
import Battleship.UIManager

/-! The MOVE_RESULT messages of a match, and the two copies of a player's board:
the one on the server, and the one that the player's client keeps by replaying the
shots of the opponent. -/

namespace Battleship

open Decimal (Text)
open Machine

def Payload.shooter? : Payload → Option UserId
  | moveResult _ shooterId .. => some shooterId
  | _ => .none

namespace MatchState

structure Underway (game : MatchState) : Prop where
  distinct : game.player1Id ≠ game.player2Id
  unpaused : game.isPaused = false
  turn : game.currentTurnPlayerId = game.player1Id ∨ game.currentTurnPlayerId = game.player2Id

def Seats (game : MatchState) (userId : UserId) : Prop :=
  userId = game.player1Id ∨ userId = game.player2Id

def boardOf (game : MatchState) (userId : UserId) : Board :=
  if userId = game.player1Id then game.player1Board else game.player2Board

def moveResult (matchId : MatchId) (game : MatchState) (call : Call) : Payload :=
  let shot := game.processMove call.now call.playerId call.target
  let targetBoard := shot.1.targetBoard call.playerId
  .moveResult matchId call.playerId call.target shot.2
    (Server.shipSunk targetBoard shot.2 call.target) targetBoard.shipsRemaining
    targetBoard.allShipsSunk (if targetBoard.allShipsSunk then call.playerId else 0)

def moveResults (matchId : MatchId) (game : MatchState) : List Call → List Payload
  | [] => []
  | call :: rest =>
      if game.Accepts call then
        game.moveResult matchId call :: (game.receive call).moveResults matchId rest
      else (game.receive call).moveResults matchId rest

theorem moveResults_concat (matchId : MatchId) (game : MatchState) (calls : List Call)
    (call : Call) : game.moveResults matchId (calls ++ [call]) = game.moveResults matchId calls ++
      if (exec receive game calls).Accepts call then
        [(exec receive game calls).moveResult matchId call] else [] := by
  induction calls generalizing game with
  | nil => rfl
  | cons head rest ih =>
      simp only [List.cons_append, moveResults, exec_cons, ih]
      by_cases accepted : game.Accepts head
      · simp only [accepted, if_true, List.cons_append]
        rfl
      · simp only [accepted, if_false]
        rfl

end MatchState

theorem ActiveMatch.underway {db : Database} {games : Games} {matchId : MatchId}
    {game : MatchState} (fine : ActiveMatch db games matchId game) (good : db.WellFormed) :
    game.Underway where
  distinct := by
    obtain ⟨row, found, same1, same2⟩ := fine.row
    rw [same1, same2]
    exact (good.players matchId row found).1
  unpaused := fine.unpaused
  turn := fine.turn

/-- An accepted MOVE stores the match after the call and tells both players its
result, before the turn is announced or the match is concluded. -/
theorem Server.playMove_tells (lib : Externals) (env : Env) (matchId : MatchId)
    (game : MatchState) (userId : UserId) (target : Coordinate) (server : Server) :
    let played := game.receive ⟨env.now, userId, target⟩
    let payload := game.moveResult matchId ⟨env.now, userId, target⟩
    let header := stampedHeader env .moveResult payload
    let told := server
      |>.setMatch matchId played
      |>.sendToPlayer env header payload userId
      |>.sendToPlayer env header payload (game.opponent userId)
    let saved := { told with
      db := (told.db.saveMove env.now matchId userId played.turnNumber target.col.toInt
        target.row.toInt (game.processMove env.now userId target).2).1 }
    server.playMove lib env matchId game userId target =
      if (played.targetBoard userId).allShipsSunk then
        saved.finishMatch lib env matchId played userId .normal "All ships destroyed"
      else saved.sendTurnUpdate env matchId played.currentTurnPlayerId played.turnNumber :=
  playMove_eq lib env matchId game userId target server

namespace MatchState

section Receive

variable {game : MatchState} {call : Call} {userId : UserId}

theorem Underway.receive (underway : game.Underway) (call : Call) :
    (game.receive call).Underway := by
  by_cases accepted : game.Accepts call
  · rw [MatchState.receive, processMove_of_accepts underway.unpaused accepted, playMove_eq]
    split
    · exact ⟨by simpa [endMatch] using underway.distinct, by simpa [endMatch] using underway.unpaused,
        by simpa [endMatch] using underway.turn⟩
    split
    · exact ⟨by simpa [switchTurn] using underway.distinct,
        by simpa [switchTurn] using underway.unpaused, by
          simpa [switchTurn, opponent] using game.opponent_seat game.currentTurnPlayerId⟩
    · exact ⟨by simpa using underway.distinct, by simpa using underway.unpaused,
        by simpa using underway.turn⟩
  · rw [MatchState.receive, processMove_of_not_accepts accepted]
    exact underway

theorem Underway.exec_receive (underway : game.Underway) (calls : List Call) :
    (exec MatchState.receive game calls).Underway :=
  invariant MatchState.receive (motive := Underway) underway
    (fun _ call before => before.receive call) calls

theorem playMove_result (game : MatchState) (now : Nat) (playerId : UserId)
    (target : Coordinate) : (game.playMove now playerId target).2 =
      ((game.targetBoard playerId).processShot target).2 := by
  unfold playMove
  dsimp only
  split
  · rfl
  split <;> rfl

theorem receive_seats : (game.receive call).Seats userId ↔ game.Seats userId := by
  obtain ⟨same1, same2⟩ := receive_players game call
  rw [Seats, same1, same2, Seats]

theorem exec_receive_seats {calls : List Call} :
    (exec receive game calls).Seats userId ↔ game.Seats userId := by
  obtain ⟨same1, same2⟩ := exec_receive_players game calls
  rw [Seats, same1, same2, Seats]

theorem receive_of_not_accepts (refused : ¬game.Accepts call) : game.receive call = game := by
  rw [receive, processMove_of_not_accepts refused]

theorem receive_targetBoard (underway : game.Underway) (accepted : game.Accepts call)
    (seated : game.Seats userId) : (game.receive call).targetBoard userId =
      if call.playerId = userId then ((game.targetBoard userId).processShot call.target).1
      else game.targetBoard userId := by
  have shot := game.recorded_targetBoard call.now call.playerId call.target userId
  have played : (game.receive call).targetBoard userId =
      (game.recorded call.now call.playerId call.target).targetBoard userId := by
    rw [receive, processMove_of_accepts underway.unpaused accepted, playMove_eq]
    split
    · rfl
    split <;> rfl
  rw [played, shot]
  by_cases same : call.playerId = userId
  · simp [same]
  · have distinct := underway.distinct
    have turn := accepted.2 ▸ underway.turn
    rw [if_neg same, if_neg]
    have turned := distinct.symm
    rcases seated with rfl | rfl <;> rcases turn with shooter | shooter <;> simp_all

theorem boardOf_eq (distinct : game.player1Id ≠ game.player2Id) (seated : game.Seats userId) :
    game.boardOf userId = game.targetBoard (game.opponent userId) := by
  rcases seated with rfl | rfl <;> simp [boardOf, targetBoard, opponent, distinct.symm]

theorem receive_boardOf (underway : game.Underway) (accepted : game.Accepts call)
    (seated : game.Seats userId) : (game.receive call).boardOf userId =
      if call.playerId = userId then game.boardOf userId
      else ((game.boardOf userId).processShot call.target).1 := by
  obtain ⟨same1, same2⟩ := receive_players game call
  have opposite : (game.receive call).opponent userId = game.opponent userId := by
    rw [opponent, same1, same2, opponent]
  have turn : game.Seats call.playerId := accepted.2 ▸ underway.turn
  have other : call.playerId = game.opponent userId ↔ call.playerId ≠ userId := by
    have distinct := underway.distinct
    rcases seated with rfl | rfl <;> rcases turn with shooter | shooter <;>
      simp [opponent, shooter, distinct, distinct.symm]
  rw [boardOf_eq (underway.receive call).distinct (receive_seats.mpr seated), opposite,
    receive_targetBoard underway accepted (game.opponent_seat userId),
    boardOf_eq underway.distinct seated]
  by_cases own : call.playerId = userId
  · rw [if_neg (by rw [other]; exact not_not.mpr own), if_pos own]
  · rw [if_pos (other.mpr own), if_neg own]

end Receive

end MatchState

@[simp] theorem UIManager.receiveAll_nil (ui : UIManager) : ui.receiveAll [] = some ui := rfl

@[simp] theorem UIManager.receiveAll_singleton (ui : UIManager) (payload : Payload) :
    ui.receiveAll [payload] = ui.receive payload := by
  simp [receiveAll]

theorem UIManager.receiveAll_append (ui : UIManager) (first second : List Payload) :
    ui.receiveAll (first ++ second) =
      (ui.receiveAll first).bind fun later => later.receiveAll second :=
  List.foldlM_append

theorem Board.Holds.unique {first second : Board} {fleet : Fleet}
    (held : first.Holds fleet.ships) (also : second.Holds fleet.ships) : first = second := by
  have ships : first.ships = second.ships := by
    apply Vector.ext
    intro i bound
    have placed : i < fleet.ships.length := by rwa [fleet.length_ships]
    exact (held.ships ⟨i, bound⟩ placed).trans (also.ships ⟨i, bound⟩ placed).symm
  have grid : first.grid = second.grid := by
    funext cell
    rw [held.grid, also.grid]
  have count := held.count.trans also.count.symm
  have remaining := held.remaining.trans also.remaining.symm
  cases first
  cases second
  simp_all

namespace MatchState

/-- A client that replays the shots of the opponent keeps the board of the server. -/
theorem replays_boardOf {start : MatchState} (underway : start.Underway) (matchId : MatchId)
    {ui : UIManager} (seated : start.Seats ui.userId)
    (same : ui.playerBoard = start.boardOf ui.userId) (calls : List Call) :
    ∃ later, ui.receiveAll ((start.moveResults matchId calls).filter
        fun payload => payload.shooter? ≠ some ui.userId) = some later ∧
      later.userId = ui.userId ∧
      later.playerBoard = (exec receive start calls).boardOf ui.userId := by
  induction calls using List.reverseRecOn with
  | nil => exact ⟨ui, rfl, rfl, same⟩
  | append_singleton calls call ih =>
      obtain ⟨later, replayed, user, board⟩ := ih
      have current := underway.exec_receive calls
      rw [moveResults_concat, List.filter_append, UIManager.receiveAll_append, replayed, exec_append,
        exec_cons, exec_nil]
      by_cases accepted : (exec receive start calls).Accepts call
      · rw [if_pos accepted, receive_boardOf current accepted (exec_receive_seats.mpr seated)]
        by_cases own : call.playerId = ui.userId
        · have skipped : ((exec receive start calls).moveResult matchId call).shooter? =
              some ui.userId := congrArg some own
          refine ⟨later, by simp [skipped], user, ?_⟩
          rw [if_pos own, board]
        · have kept : ((exec receive start calls).moveResult matchId call).shooter? ≠
              some ui.userId := fun shooter => own (Option.some.inj shooter)
          refine ⟨later.onOpponentShot call.target, ?_, user, ?_⟩
          · rw [List.filter_cons_of_pos (by simpa using kept), List.filter_nil, Option.bind_some,
              UIManager.receiveAll_singleton]
            exact if_neg (by rwa [user])
          · rw [if_neg own, ← board]
            rfl
      · rw [if_neg accepted, receive_of_not_accepts accepted]
        exact ⟨later, by simp, user, board⟩

theorem playerBoard_agrees {start : MatchState} (underway : start.Underway) (matchId : MatchId)
    {ui : UIManager} (seated : start.Seats ui.userId) {fleet : Fleet}
    (client : ui.playerBoard.Holds fleet.ships)
    (server : (start.boardOf ui.userId).Holds fleet.ships) (calls : List Call) :
    ∃ later, ui.receiveAll ((start.moveResults matchId calls).filter
        fun payload => payload.shooter? ≠ some ui.userId) = some later ∧
      later.playerBoard.grid = ((exec receive start calls).boardOf ui.userId).grid ∧
      later.playerBoard.ships = ((exec receive start calls).boardOf ui.userId).ships ∧
      later.playerBoard.shipsRemaining =
        ((exec receive start calls).boardOf ui.userId).shipsRemaining := by
  obtain ⟨later, replayed, _, board⟩ :=
    replays_boardOf underway matchId seated (client.unique server) calls
  exact ⟨later, replayed, by rw [board], by rw [board], by rw [board]⟩

end MatchState

def rowsMatch : MatchState :=
  { MatchState.new [] 7 9 [] [] with
    player1Board := rowsBoard
    player2Board := rowsBoard
    currentTurnPlayerId := 9
    isActive := true }

theorem rowsMatch_underway : rowsMatch.Underway := ⟨by decide, rfl, Or.inr rfl⟩

def rowsClient (userId : UserId) : UIManager where
  userId := userId
  playerBoard := rowsBoard
  opponentBoard := Board.new
  isPlayerTurn := false
  turnTimeRemaining := 0
  turnTimerOn := false
  selectedTarget := none
  currentMatchId := 1
  shotsFired := 0
  hitsCount := 0

theorem rowsClient_agrees :
    let calls : List Call := [⟨101, 9, ⟨0, 0⟩⟩, ⟨102, 9, ⟨0, 0⟩⟩, ⟨103, 7, ⟨5, 5⟩⟩, ⟨104, 9, ⟨-1, 12⟩⟩]
    ∃ later, (rowsClient 7).receiveAll ((rowsMatch.moveResults 1 calls).filter
        fun payload => payload.shooter? ≠ some (rowsClient 7).userId) = some later ∧
      later.playerBoard.grid = ((exec MatchState.receive rowsMatch calls).boardOf 7).grid ∧
      later.playerBoard.ships = ((exec MatchState.receive rowsMatch calls).boardOf 7).ships ∧
      later.playerBoard.shipsRemaining =
        ((exec MatchState.receive rowsMatch calls).boardOf 7).shipsRemaining :=
  have client : (rowsClient 7).playerBoard.Holds rowsFleet.ships := rowsBoard_holds
  MatchState.playerBoard_agrees rowsMatch_underway 1 (Or.inl rfl) client rowsBoard_holds _

end Battleship
