import Battleship.Messages

/-! What `ui_manager.cpp` and `ui_lobby.cpp` keep of a match against another
player: the two boards, whose turn it is, and the countdown of the turn. Widgets
and the game against the bot are left out. -/

namespace Battleship

namespace Board

def getCell (board : Board) (row col : Int) : CellState :=
  match cellAt? row col with
  | none => .empty
  | some cell => board.grid cell

def setCell (board : Board) (row col : Int) (state : CellState) : Board :=
  match cellAt? row col with
  | none => board
  | some cell => { board with grid := Function.update board.grid cell state }

/-- One of the four scan loops, over the cells that it would come by: hits become
sunk as far as they go. With their number. -/
def sinkRun : List (Int × Int) → Board → Board × Nat
  | [], board => (board, 0)
  | (row, col) :: rest, board =>
      if board.getCell row col = .hit then
        let next := sinkRun rest (board.setCell row col .sunk)
        (next.1, next.2 + 1)
      else (board, 0)

end Board

def leftOf (row col : Int) : List (Int × Int) :=
  (List.range col.toNat).map fun i : Nat => (row, col - 1 - i)

def rightOf (row col : Int) : List (Int × Int) :=
  (List.range (boardSize - 1 - col).toNat).map fun i : Nat => (row, col + 1 + i)

def above (row col : Int) : List (Int × Int) :=
  (List.range row.toNat).map fun i : Nat => (row - 1 - i, col)

def below (row col : Int) : List (Int × Int) :=
  (List.range (boardSize - 1 - row).toNat).map fun i : Nat => (row + 1 + i, col)

structure Extent where
  board : Board
  left : Nat
  right : Nat
  up : Nat
  down : Nat

namespace Board

def scanRow (row col : Int) (extent : Extent) : Extent :=
  let left := extent.board.sinkRun (leftOf row col)
  let right := left.1.sinkRun (rightOf row col)
  { extent with board := right.1, left := left.2, right := right.2 }

def scanColumn (row col : Int) (extent : Extent) : Extent :=
  let up := extent.board.sinkRun (above row col)
  let down := up.1.sinkRun (below row col)
  { extent with board := down.1, up := up.2, down := down.2 }

def inferExtent (row col : Int) (board : Board) : Extent :=
  let horizontal := (col > 0 && board.getCell row (col - 1) = .hit) ||
    (col < boardSize - 1 && board.getCell row (col + 1) = .hit)
  let vertical := (row > 0 && board.getCell (row - 1) col = .hit) ||
    (row < boardSize - 1 && board.getCell (row + 1) col = .hit)
  let start : Extent := ⟨board, 0, 0, 0, 0⟩
  let across := if horizontal || !vertical then scanRow row col start else start
  if vertical || !horizontal then scanColumn row col across else across

def sinkShip (type : ShipType) (pos : Coordinate) (orientation : Orientation) (board : Board) :
    Board :=
  board.processShots ((List.range (getShipLength type)).map fun i =>
    ⟨Int8.ofInt (cellRow pos orientation i), Int8.ofInt (cellCol pos orientation i)⟩)

def revealSunk (row col : Int) (type : ShipType) (board : Board) : Option Board :=
  let extent := inferExtent row col (board.setCell row col .sunk)
  let orientation : Orientation :=
    if col + extent.right > col - extent.left then .horizontal
    else if row + extent.down > row - extent.up then .vertical
    else .horizontal
  let pos : Coordinate := ⟨Int8.ofInt (row - extent.up), Int8.ofInt (col - extent.left)⟩
  match extent.board.placeShip type pos orientation with
  | none => none
  | some (board, placed) => some (if placed then board.sinkShip type pos orientation else board)

end Board

structure UIManager where
  userId : UserId
  playerBoard : Board
  opponentBoard : Board
  isPlayerTurn : Bool
  turnTimeRemaining : Int
  /-- There is a timer: `turn_timer_id` is not `0`. -/
  turnTimerOn : Bool
  selectedTarget : Option (Int × Int)
  currentMatchId : MatchId
  shotsFired : Nat
  hitsCount : Nat

namespace UIManager

variable (ui : UIManager)

section Shots

def onOwnShot (target : Coordinate) (result : ShotResult) (shipSunk : ShipType) :
    Option UIManager :=
  let row := target.row.toInt
  let col := target.col.toInt
  let marked := match result with
    | .miss => some (ui.opponentBoard.setCell row col .miss)
    | .hit => some (ui.opponentBoard.setCell row col .hit)
    | .sunk => ui.opponentBoard.revealSunk row col shipSunk
  marked.map fun board => { ui with
    opponentBoard := board
    hitsCount := if result = .miss then ui.hitsCount else ui.hitsCount + 1
    shotsFired := ui.shotsFired + 1 }

def onOpponentShot (target : Coordinate) : UIManager :=
  { ui with playerBoard := (ui.playerBoard.processShot target).1 }

def onMoveResult (shooterId : UserId) (target : Coordinate) (result : ShotResult)
    (shipSunk : ShipType) : Option UIManager :=
  if shooterId = ui.userId then ui.onOwnShot target result shipSunk
  else some (ui.onOpponentShot target)

end Shots

section Turns

def startTurnTimer (seconds : Int) : UIManager :=
  { ui with turnTimeRemaining := seconds, turnTimerOn := true }

def stopTurnTimer : UIManager := { ui with turnTimerOn := false }

def switchTurn : UIManager := { ui with isPlayerTurn := !ui.isPlayerTurn }.startTurnTimer 20

def clearTargetSelection : UIManager := { ui with selectedTarget := none }

def onTurnTimerExpired : UIManager := ui.clearTargetSelection.switchTurn.startTurnTimer 20

def expires : Bool := ui.turnTimerOn && ui.turnTimeRemaining - 1 ≤ 0

def turnTimerCallback : UIManager :=
  let counted := { ui with turnTimeRemaining := ui.turnTimeRemaining - 1 }
  if !ui.turnTimerOn then ui
  else if counted.turnTimeRemaining ≤ 0 then counted.onTurnTimerExpired
  else counted

def showGameScreen : UIManager := { ui.stopTurnTimer with isPlayerTurn := true }.startTurnTimer 20

def onMatchReady (currentTurnPlayerId : UserId) : UIManager :=
  { ui with isPlayerTurn := currentTurnPlayerId = ui.userId }.showGameScreen

def onTurnUpdate (currentPlayerId : UserId) (timeLeft : Nat) : UIManager :=
  let turned := { ui with isPlayerTurn := currentPlayerId = ui.userId }
  if turned.isPlayerTurn then turned.startTurnTimer timeLeft else turned.stopTurnTimer

end Turns

section Firing

def selectTarget (row col : Int) : UIManager := { ui with selectedTarget := some (row, col) }

def onBoardButtonPress (row col : Int) : UIManager :=
  if ¬((0 ≤ row ∧ row < boardSize) ∧ 0 ≤ col ∧ col < boardSize) then ui
  else if !ui.isPlayerTurn then ui
  else if ui.opponentBoard.getCell row col = .empty ∨ ui.opponentBoard.getCell row col = .ship then
    ui.selectTarget row col
  else ui

/-- The multiplayer path of `executeFireAtTarget`, with the target of the MOVE that
is sent. -/
def executeFireAtTarget : UIManager × Option Coordinate :=
  match ui.selectedTarget with
  | none => (ui, none)
  | some (row, col) =>
      if !ui.isPlayerTurn then (ui, none)
      else (ui.clearTargetSelection, some ⟨Int8.ofInt row, Int8.ofInt col⟩)

end Firing

def receive (payload : Payload) : Option UIManager :=
  match payload with
  | .moveResult _ shooterId target result shipSunk _ _ _ =>
      ui.onMoveResult shooterId target result shipSunk
  | .matchState _ _ _ currentTurnPlayerId _ _ _ => some (ui.onMatchReady currentTurnPlayerId)
  | .turnUpdate _ currentPlayerId _ timeLeft => some (ui.onTurnUpdate currentPlayerId timeLeft)
  | .matchEnd .. => some ui.stopTurnTimer
  | _ => some ui

def receiveAll (payloads : List Payload) : Option UIManager :=
  payloads.foldlM (fun ui payload => ui.receive payload) ui

end UIManager

end Battleship
