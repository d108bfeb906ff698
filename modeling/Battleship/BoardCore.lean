import Battleship.Protocol
import Mathlib.Data.Fintype.Pi
import Mathlib.Data.Fintype.Prod

/-! The board class of `game_state.cpp`. An array access outside the grid or the
ship table has no meaning in the source, so a function that can make one returns
`none` there. -/

namespace Battleship

abbrev boardSize : Nat := 10
abbrev numShips : Nat := 5

inductive CellState
  | empty | ship | miss | hit | sunk
deriving DecidableEq, Repr

abbrev Cell := Fin boardSize × Fin boardSize

def cellAt? (row col : Int) : Option Cell :=
  if onGrid : (0 ≤ row ∧ row < boardSize) ∧ (0 ≤ col ∧ col < boardSize) then
    some (⟨row.toNat, by omega⟩, ⟨col.toNat, by omega⟩)
  else none

def cellRow (pos : Coordinate) (orientation : Orientation) (i : Nat) : Int :=
  pos.row.toInt + (if orientation = .vertical then i else 0)

def cellCol (pos : Coordinate) (orientation : Orientation) (i : Nat) : Int :=
  pos.col.toInt + (if orientation = .horizontal then i else 0)

def shipCell? (pos : Coordinate) (orientation : Orientation) (i : Nat) : Option Cell :=
  cellAt? (cellRow pos orientation i) (cellCol pos orientation i)

abbrev Grid := Cell → CellState

structure Board where
  grid : Grid
  ships : Vector Ship numShips
  shipsCount : Nat
  shipsRemaining : Int
  shipsCount_le : shipsCount ≤ numShips

namespace Board

def new : Board where
  grid := fun _ => .empty
  ships := Vector.replicate numShips Ship.zero
  shipsCount := 0
  shipsRemaining := numShips
  shipsCount_le := Nat.zero_le _

def clearBoard (_board : Board) : Board where
  grid := fun _ => .empty
  ships := Vector.replicate numShips Ship.zero
  shipsCount := 0
  shipsRemaining := numShips
  shipsCount_le := Nat.zero_le _

/-- The overlap loop over the remaining indices. -/
def unoccupied (grid : Grid) (pos : Coordinate) (orientation : Orientation) :
    List Nat → Option Bool
  | [] => some true
  | i :: rest =>
      match shipCell? pos orientation i with
      | none => none
      | some cell =>
          if grid cell ≠ .empty then some false else unoccupied grid pos orientation rest

def isValidPlacement (board : Board) (type : ShipType) (pos : Coordinate)
    (orientation : Orientation) : Option Bool :=
  let length : Nat := getShipLength type
  if pos.row.toInt < 0 ∨ pos.col.toInt < 0 then some false
  else if orientation = .horizontal ∧ pos.col.toInt + length > boardSize then some false
  else if orientation = .vertical ∧ pos.row.toInt + length > boardSize then some false
  else unoccupied board.grid pos orientation (List.range length)

def markShip (pos : Coordinate) (orientation : Orientation) : List Nat → Grid → Option Grid
  | [], grid => some grid
  | i :: rest, grid =>
      match shipCell? pos orientation i with
      | none => none
      | some cell => markShip pos orientation rest (Function.update grid cell .ship)

def placedShip (type : ShipType) (pos : Coordinate) (orientation : Orientation) : Ship where
  type := UInt8.ofInt type.toInt
  orientation := UInt8.ofInt orientation.toInt
  position := pos
  length := UInt8.ofNat (getShipLength type)
  hits := 0
  isSunk := false

def placeShip (board : Board) (type : ShipType) (pos : Coordinate) (orientation : Orientation) :
    Option (Board × Bool) :=
  match board.isValidPlacement type pos orientation with
  | none => none
  | some false => some (board, false)
  | some true =>
      match markShip pos orientation (List.range (getShipLength type)) board.grid with
      | none => none
      | some grid =>
          if room : board.shipsCount < numShips then
            some ({ grid := grid
                    ships := board.ships.set board.shipsCount (placedShip type pos orientation)
                    shipsCount := board.shipsCount + 1
                    shipsRemaining := board.shipsRemaining
                    shipsCount_le := room }, true)
          else none

def shipAt (ships : Vector Ship numShips) (i : Fin numShips) : Ship := ships[i]

def findType (board : Board) (type : ShipType) : Option (Fin numShips) :=
  (List.finRange numShips).find? fun i =>
    i < board.shipsCount && (shipAt board.ships i).type.toNat = type.toInt

def unmarkShip (pos : Coordinate) (orientation : Orientation) : List Nat → Grid → Option Grid
  | [], grid => some grid
  | i :: rest, grid =>
      match shipCell? pos orientation i with
      | none => none
      | some cell =>
          unmarkShip pos orientation rest
            (if grid cell = .ship then Function.update grid cell .empty else grid)

def shiftShips : List Nat → Vector Ship numShips → Option (Vector Ship numShips)
  | [], ships => some ships
  | j :: rest, ships =>
      if inside : j + 1 < numShips then shiftShips rest (ships.set j ships[j + 1]) else none

def removeShip (board : Board) (type : ShipType) : Option (Board × Bool) :=
  match board.findType type with
  | none => some (board, false)
  | some i =>
      let ship := shipAt board.ships i
      match unmarkShip ship.position ship.direction (List.range ship.length.toNat) board.grid with
      | none => none
      | some grid =>
          match shiftShips (List.range' i (board.shipsCount - 1 - i)) board.ships with
          | none => none
          | some ships =>
              some ({ grid := grid
                      ships := ships
                      shipsCount := board.shipsCount - 1
                      shipsRemaining := board.shipsRemaining
                      shipsCount_le := (Nat.sub_le _ _).trans board.shipsCount_le }, true)

def covers (ship : Ship) (pos : Coordinate) : Bool :=
  (List.range ship.length.toNat).any fun j =>
    cellRow ship.position ship.direction j = pos.row.toInt &&
      cellCol ship.position ship.direction j = pos.col.toInt

def findShip (board : Board) (pos : Coordinate) : Option (Fin numShips) :=
  (List.finRange numShips).find? fun i => i < board.shipsCount && covers (shipAt board.ships i) pos

def hitShip (board : Board) (i : Fin numShips) : Board × ShotResult :=
  let ship := shipAt board.ships i
  let ship := { ship with hits := ship.hits + 1 }
  if ship.hits ≥ ship.length then
    ({ board with
        ships := board.ships.set i { ship with isSunk := true }
        shipsRemaining := board.shipsRemaining - 1 }, .sunk)
  else ({ board with ships := board.ships.set i ship }, .hit)

def processShot (board : Board) (pos : Coordinate) : Board × ShotResult :=
  match cellAt? pos.row.toInt pos.col.toInt with
  | none => (board, .miss)
  | some cell =>
      if board.grid cell = .ship then
        let board := { board with grid := Function.update board.grid cell .hit }
        match board.findShip pos with
        | some i => board.hitShip i
        | none => (board, .hit)
      else if board.grid cell = .empty then
        ({ board with grid := Function.update board.grid cell .miss }, .miss)
      else (board, .miss)

def allShipsSunk (board : Board) : Bool := board.shipsRemaining = 0

/-- The `while` loop for one ship, with the number of attempts left and that of the
next draw of `rand`; the draws are numbered from the call to `srand`. -/
def tryPlacements (rand : Nat → Nat) (type : ShipType) : Nat → Board × Nat → Option (Board × Nat)
  | 0, drawn => some drawn
  | attempts + 1, (board, next) =>
      let pos : Coordinate := ⟨.ofNat (rand next % boardSize), .ofNat (rand (next + 1) % boardSize)⟩
      let orient : Orientation := if rand (next + 2) % 2 = 0 then .horizontal else .vertical
      match board.isValidPlacement type pos orient with
      | none => none
      | some true => (board.placeShip type pos orient).map fun placed => (placed.1, next + 3)
      | some false => tryPlacements rand type attempts (board, next + 3)

def randomPlacement (rand : Nat → Nat) (board : Board) : Option Board :=
  (ShipType.all.foldlM (fun drawn type => tryPlacements rand type 1000 drawn)
    (board.clearBoard, 0)).map Prod.fst

def processShots (board : Board) (shots : List Coordinate) : Board :=
  shots.foldl (fun board pos => (board.processShot pos).1) board

end Board

end Battleship
