import Battleship.BoardCore
import Battleship.Library.Decimal

/-! The check, the text form and the loading of a ship placement, from
`gameplay_handler.cpp`. -/

namespace Battleship

open Decimal (Text write stoi getline tokens)

structure Seen where
  shipCount : Nat
  hasCarrier : Bool
  hasBattleship : Bool
  hasCruiser : Bool
  hasSubmarine : Bool
  hasDestroyer : Bool

namespace Seen

def start : Seen := ⟨0, false, false, false, false, false⟩

/-- The switch on the ship type; `none` is its `default`. -/
def mark (seen : Seen) : ShipType → Option Seen
  | .carrier => some { seen with hasCarrier := true }
  | .battleship => some { seen with hasBattleship := true }
  | .cruiser => some { seen with hasCruiser := true }
  | .submarine => some { seen with hasSubmarine := true }
  | .destroyer => some { seen with hasDestroyer := true }
  | .unlisted _ => none

end Seen

/-- One round of the validation loop; `none` is `return false`. -/
def checkShip (seen : Seen) (ship : Ship) : Option Seen :=
  if 0 < ship.length then
    match { seen with shipCount := seen.shipCount + 1 }.mark ship.shipType with
    | none => none
    | some seen =>
        if ship.length.toNat ≠ getShipLength ship.shipType then none
        else if ship.position.row.toInt < 0 ∨ ship.position.row.toInt ≥ boardSize ∨
            ship.position.col.toInt < 0 ∨ ship.position.col.toInt ≥ boardSize then none
        else if ship.direction = .horizontal then
          if ship.position.col.toInt + ship.length.toNat > boardSize then none else some seen
        else if ship.position.row.toInt + ship.length.toNat > boardSize then none
        else some seen
  else some seen

def validateShipPlacement (ships : Vector Ship numShips) : Bool :=
  match ships.toList.foldlM checkShip Seen.start with
  | none => false
  | some seen =>
      seen.shipCount == 5 && seen.hasCarrier && seen.hasBattleship && seen.hasCruiser &&
        seen.hasSubmarine && seen.hasDestroyer

def shipText (ship : Ship) : Text :=
  write ship.type.toNat ++ ',' :: (write ship.orientation.toNat ++ ',' ::
    (write ship.position.row.toInt ++ ',' :: write ship.position.col.toInt))

def encodeShips (ships : Vector Ship numShips) : Text :=
  ships.toList.flatMap fun ship => shipText ship ++ [';']

inductive ShipToken
  | incomplete
  | fields (type orientation row col : Int)
deriving DecidableEq

/-- The four `getline` and `stoi` calls on a token; `none` is an exception. -/
def readToken (token : Text) : Option ShipToken :=
  match getline ',' token with
  | none => some .incomplete
  | some (field, rest) => do
    let type ← stoi field
    match getline ',' rest with
    | none => some .incomplete
    | some (field, rest) =>
      let orientation ← stoi field
      match getline ',' rest with
      | none => some .incomplete
      | some (field, rest) =>
        let row ← stoi field
        match getline ',' rest with
        | none => some .incomplete
        | some (field, _) =>
          let col ← stoi field
          some (.fields type orientation row col)

def loadToken (board : Board) (token : Text) : Option Board :=
  if token = [] then some board
  else
    match readToken token with
    | none => none
    | some .incomplete => some board
    | some (.fields type orientation row col) =>
        (board.placeShip (.ofInt type) ⟨Int8.ofInt row, Int8.ofInt col⟩
          (.ofInt orientation)).map Prod.fst

/-- `none` when the source would throw or leave the arrays of the board. -/
def loadShips (board : Board) (data : Text) : Option Board :=
  if data = [] then some board
  else (tokens ';' data).foldlM loadToken board.clearBoard

end Battleship
