import Battleship.PlacementCheck

/-! The text form of a placement, for any number of ships: what the loading loop reads
is what was written. -/

namespace Battleship

open Decimal (Text write stoi getline tokens)

structure ShipFields where
  type : Int
  orientation : Int
  row : Int
  col : Int
deriving DecidableEq, Repr

def Ship.fields (ship : Ship) : ShipFields :=
  ⟨ship.type.toNat, ship.orientation.toNat, ship.position.row.toInt, ship.position.col.toInt⟩

def shipData (ships : List Ship) : Text := ships.flatMap fun ship => shipText ship ++ [';']

/-- What the loading loop reads from the tokens, an empty or a short one skipped; `none`
is an exception of `stoi`. -/
def readShips : List Text → Option (List ShipFields)
  | [] => some []
  | token :: rest =>
      if token = [] then readShips rest
      else
        match readToken token with
        | none => none
        | some .incomplete => readShips rest
        | some (.fields type orientation row col) =>
            (readShips rest).map fun later => ⟨type, orientation, row, col⟩ :: later

def ShipFields.place (board : Board) (fields : ShipFields) : Option Board :=
  (board.placeShip (.ofInt fields.type) ⟨Int8.ofInt fields.row, Int8.ofInt fields.col⟩
    (.ofInt fields.orientation)).map Prod.fst

theorem foldlM_loadToken : ∀ {parts : List Text} {fields : List ShipFields} {board : Board},
    readShips parts = some fields →
      parts.foldlM loadToken board = fields.foldlM ShipFields.place board := by
  intro parts
  induction parts with
  | nil =>
      intro fields board read
      obtain rfl := Option.some.inj read
      rfl
  | cons token rest ih =>
      intro fields board read
      rw [List.foldlM_cons]
      simp only [readShips] at read
      split at read
      next blank =>
        rw [loadToken, if_pos blank]
        exact ih read
      next filled =>
        split at read
        · cases read
        next short =>
          have skipped : loadToken board token = some board := by
            rw [loadToken, if_neg filled, short]
          rw [skipped]
          exact ih read
        next type orientation row col whole =>
          obtain ⟨later, readRest, rfl⟩ := Option.map_eq_some_iff.mp read
          have placed : loadToken board token =
              ShipFields.place board ⟨type, orientation, row, col⟩ := by
            rw [loadToken, if_neg filled, whole]
            rfl
          rw [placed, List.foldlM_cons]
          exact congrArg _ (funext fun next => ih readRest)

/-- The boards of `loadShips` are those of its `placeShip` calls, one for each quadruple
that the loop has read. -/
theorem loadShips_of_readShips {board : Board} {data : Text} (filled : data ≠ [])
    {fields : List ShipFields} (read : readShips (tokens ';' data) = some fields) :
    loadShips board data = fields.foldlM ShipFields.place board.clearBoard := by
  rw [loadShips, if_neg filled]
  exact foldlM_loadToken read

theorem readShips_shipText (ships : List Ship) :
    readShips (ships.map shipText) = some (ships.map Ship.fields) := by
  induction ships with
  | nil => rfl
  | cons ship rest ih =>
      have filled : shipText ship ≠ [] := by simp [shipText]
      rw [List.map_cons, readShips, if_neg filled, readToken_shipText]
      simp only [ih, Option.map_some, List.map_cons]
      rfl

/-- Every token is one of the ships that were written, none of them is skipped and no
number fails to be read. -/
theorem readShips_shipData (ships : List Ship) :
    readShips (tokens ';' (shipData ships)) = some (ships.map Ship.fields) ∧
      (tokens ';' (shipData ships)).map readToken = ships.map fun ship =>
        some (.fields ship.fields.type ship.fields.orientation ship.fields.row ship.fields.col) := by
  rw [shipData, tokens_shipText]
  refine ⟨readShips_shipText ships, ?_⟩
  rw [List.map_map]
  exact List.map_congr_left fun ship _ => readToken_shipText ship

example : readShips (tokens ';' (shipData [⟨7, 250, ⟨-128, 127⟩, 3, 0, false⟩])) =
    some [⟨7, 250, -128, 127⟩] := by decide

end Battleship
