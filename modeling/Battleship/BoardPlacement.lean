import Battleship.BoardCore
import Mathlib.Data.Finset.Card

/-! What placing a ship does: the cells a placement occupies, when it is
accepted, and the board afterwards. -/

namespace Battleship

theorem cellAt?_eq_some {row col : Int} {cell : Cell} :
    cellAt? row col = some cell ↔ row = (cell.1 : Nat) ∧ col = (cell.2 : Nat) := by
  obtain ⟨⟨r, rBound⟩, ⟨c, cBound⟩⟩ := cell
  unfold cellAt?
  split
  · rename_i onGrid
    simp only [Option.some.injEq, Prod.mk.injEq, Fin.mk.injEq]
    omega
  · rename_i offGrid
    simp only [boardSize] at offGrid rBound cBound
    simp only [reduceCtorEq, false_iff]
    omega

theorem cellAt?_cell (cell : Cell) : cellAt? (cell.1 : Nat) (cell.2 : Nat) = some cell :=
  cellAt?_eq_some.mpr ⟨rfl, rfl⟩

theorem cellAt?_isSome {row col : Int} (rowOk : 0 ≤ row ∧ row < boardSize)
    (colOk : 0 ≤ col ∧ col < boardSize) : (cellAt? row col).isSome := by
  rw [cellAt?, dif_pos ⟨rowOk, colOk⟩]
  rfl

structure Placement where
  type : ShipType
  pos : Coordinate
  orientation : Orientation
deriving DecidableEq, Repr

def cellsOf (pos : Coordinate) (orientation : Orientation) (length : Nat) : Finset Cell :=
  ((List.range length).filterMap (shipCell? pos orientation)).toFinset

def InBounds (pos : Coordinate) (orientation : Orientation) (length : Nat) : Prop :=
  ∀ i < length, (shipCell? pos orientation i).isSome

instance (pos : Coordinate) (orientation : Orientation) (length : Nat) :
    Decidable (InBounds pos orientation length) :=
  inferInstanceAs (Decidable (∀ i < length, _))

namespace Placement

def cells (placement : Placement) : Finset Cell :=
  cellsOf placement.pos placement.orientation (getShipLength placement.type)

def InBounds (placement : Placement) : Prop :=
  Battleship.InBounds placement.pos placement.orientation (getShipLength placement.type)

instance (placement : Placement) : Decidable placement.InBounds :=
  inferInstanceAs (Decidable (Battleship.InBounds _ _ _))

end Placement

theorem mem_cellsOf {pos : Coordinate} {orientation : Orientation} {length : Nat} {cell : Cell} :
    cell ∈ cellsOf pos orientation length ↔
      ∃ i < length, shipCell? pos orientation i = some cell := by
  simp [cellsOf]

theorem cellsOf_card_le (pos : Coordinate) (orientation : Orientation) (length : Nat) :
    (cellsOf pos orientation length).card ≤ length := by
  calc (cellsOf pos orientation length).card
      ≤ ((List.range length).filterMap (shipCell? pos orientation)).length :=
        List.toFinset_card_le _
    _ ≤ (List.range length).length := List.length_filterMap_le _ _
    _ = length := List.length_range

theorem Placement.card_covered_le (placements : List Placement) :
    (Finset.univ.filter fun cell => ∃ placement ∈ placements, cell ∈ placement.cells).card ≤
      (placements.map fun placement => placement.cells.card).sum := by
  induction placements with
  | nil => simp
  | cons placement rest ih =>
      have split : (Finset.univ.filter fun cell => ∃ other ∈ placement :: rest, cell ∈ other.cells) =
          placement.cells ∪ Finset.univ.filter fun cell => ∃ other ∈ rest, cell ∈ other.cells := by
        ext cell
        simp
      rw [split, List.map_cons, List.sum_cons]
      exact (Finset.card_union_le _ _).trans (Nat.add_le_add_left ih _)

theorem shipCell?_injective {pos : Coordinate} {orientation : Orientation} {i j : Nat} {cell : Cell}
    (listed : orientation.Listed) (first : shipCell? pos orientation i = some cell)
    (second : shipCell? pos orientation j = some cell) : i = j := by
  unfold shipCell? at first second
  rw [cellAt?_eq_some] at first second
  rcases listed with rfl | rfl <;> simp [cellRow, cellCol] at first second <;> omega

theorem cellsOf_card {pos : Coordinate} {orientation : Orientation} {length : Nat}
    (listed : orientation.Listed) (inBounds : InBounds pos orientation length) :
    (cellsOf pos orientation length).card = length := by
  have distinct : ((List.range length).filterMap (shipCell? pos orientation)).Nodup :=
    List.nodup_range.filterMap fun _ _ _ first second => shipCell?_injective listed first second
  rw [cellsOf, List.toFinset_card_of_nodup distinct]
  have whole := List.filterMap_length_eq_length.mpr
    (fun i member => inBounds i (List.mem_range.mp member))
  rw [whole, List.length_range]

/-- A cast orientation that is neither enumerator puts every cell of the ship
on its starting cell. -/
theorem cellsOf_card_le_one (pos : Coordinate) {orientation : Orientation} (length : Nat)
    (unlisted : ¬orientation.Listed) : (cellsOf pos orientation length).card ≤ 1 := by
  simp only [Orientation.Listed, not_or] at unlisted
  rw [Finset.card_le_one]
  intro first inFirst second inSecond
  obtain ⟨i, _, first_at⟩ := mem_cellsOf.mp inFirst
  obtain ⟨j, _, second_at⟩ := mem_cellsOf.mp inSecond
  have same : shipCell? pos orientation i = shipCell? pos orientation j := by
    simp [shipCell?, cellRow, cellCol, unlisted]
  rw [first_at, second_at] at same
  exact Option.some.inj same

namespace Board

theorem unoccupied_eq (grid : Grid) (pos : Coordinate) (orientation : Orientation) :
    ∀ indices : List Nat, (∀ i ∈ indices, (shipCell? pos orientation i).isSome) →
      unoccupied grid pos orientation indices =
        some (decide (∀ i ∈ indices, ∀ cell, shipCell? pos orientation i = some cell →
          grid cell = .empty)) := by
  intro indices
  induction indices with
  | nil => simp [unoccupied]
  | cons i rest ih =>
      intro inside
      obtain ⟨cell, at_i⟩ := Option.isSome_iff_exists.mp (inside i (by simp))
      simp only [unoccupied, at_i]
      split
      · rename_i taken
        simp only [Option.some.injEq, eq_comm (a := false), decide_eq_false_iff_not]
        intro free
        exact taken (free i (by simp) cell at_i)
      · rename_i free
        rw [ih (fun j member => inside j (List.mem_cons_of_mem _ member))]
        simp only [ne_eq, not_not] at free
        simp only [List.forall_mem_cons, at_i, Option.some.injEq, forall_eq', free, true_and]

theorem markShip_eq (pos : Coordinate) (orientation : Orientation) :
    ∀ (indices : List Nat) (grid : Grid), (∀ i ∈ indices, (shipCell? pos orientation i).isSome) →
      ∃ marked, markShip pos orientation indices grid = some marked ∧
        ∀ cell, marked cell =
          if ∃ i ∈ indices, shipCell? pos orientation i = some cell then .ship else grid cell := by
  intro indices
  induction indices with
  | nil => intro grid _; exact ⟨grid, rfl, by simp⟩
  | cons i rest ih =>
      intro grid inside
      obtain ⟨first, at_i⟩ := Option.isSome_iff_exists.mp (inside i (by simp))
      obtain ⟨marked, done, spec⟩ := ih (Function.update grid first .ship)
        (fun j member => inside j (List.mem_cons_of_mem _ member))
      refine ⟨marked, by simpa [markShip, at_i] using done, ?_⟩
      intro cell
      rw [spec cell]
      by_cases later : ∃ j ∈ rest, shipCell? pos orientation j = some cell
      · rw [if_pos later, if_pos]
        obtain ⟨j, member, at_j⟩ := later
        exact ⟨j, List.mem_cons_of_mem _ member, at_j⟩
      · rw [if_neg later]
        by_cases same : cell = first
        · subst same
          rw [Function.update_self, if_pos ⟨i, by simp, at_i⟩]
        · rw [Function.update_of_ne same, if_neg]
          rintro ⟨j, member, at_j⟩
          rcases List.mem_cons.mp member with rfl | inRest
          · exact same (Option.some.inj (at_j.symm.trans at_i))
          · exact later ⟨j, inRest, at_j⟩

def withShip (board : Board) (placement : Placement) (room : board.shipsCount < numShips) :
    Board where
  grid := fun cell => if cell ∈ placement.cells then .ship else board.grid cell
  ships := board.ships.set board.shipsCount
    (placedShip placement.type placement.pos placement.orientation)
  shipsCount := board.shipsCount + 1
  shipsRemaining := board.shipsRemaining
  shipsCount_le := room

def Fits (placement : Placement) : Prop :=
  0 ≤ placement.pos.row.toInt ∧ 0 ≤ placement.pos.col.toInt ∧
  (placement.orientation = .horizontal →
    placement.pos.col.toInt + getShipLength placement.type ≤ boardSize) ∧
  (placement.orientation = .vertical →
    placement.pos.row.toInt + getShipLength placement.type ≤ boardSize)

def Free (board : Board) (placement : Placement) : Prop :=
  ∀ cell ∈ placement.cells, board.grid cell = .empty

instance (board : Board) (placement : Placement) : Decidable (board.Free placement) :=
  inferInstanceAs (Decidable (∀ cell ∈ placement.cells, _))

theorem isValidPlacement_eq {board : Board} {placement : Placement}
    (fits : Fits placement) (inBounds : placement.InBounds) :
    board.isValidPlacement placement.type placement.pos placement.orientation =
      some (decide (board.Free placement)) := by
  obtain ⟨rowOk, colOk, horizontalOk, verticalOk⟩ := fits
  unfold isValidPlacement
  rw [if_neg (by omega), if_neg (by intro ⟨direction, beyond⟩; have := horizontalOk direction; omega),
    if_neg (by intro ⟨direction, beyond⟩; have := verticalOk direction; omega),
    unoccupied_eq _ _ _ _ (fun i member => inBounds i (List.mem_range.mp member))]
  rw [Option.some.injEq, decide_eq_decide]
  simp only [List.mem_range, Free]
  constructor
  · intro free cell member
    obtain ⟨i, bound, at_i⟩ := mem_cellsOf.mp member
    exact free i bound cell at_i
  · intro free i bound cell at_i
    exact free cell (mem_cellsOf.mpr ⟨i, bound, at_i⟩)

theorem placeShip_eq {board : Board} {placement : Placement} (fits : Fits placement)
    (inBounds : placement.InBounds) (room : board.shipsCount < numShips) :
    board.placeShip placement.type placement.pos placement.orientation =
      some (if board.Free placement then (board.withShip placement room, true)
        else (board, false)) := by
  unfold placeShip
  rw [isValidPlacement_eq fits inBounds]
  by_cases free : board.Free placement
  · obtain ⟨marked, done, spec⟩ := markShip_eq placement.pos placement.orientation
      (List.range (getShipLength placement.type)) board.grid
      (fun i member => inBounds i (List.mem_range.mp member))
    have grid : marked = fun cell => if cell ∈ placement.cells then .ship else board.grid cell := by
      funext cell
      rw [spec cell]
      simp only [Placement.cells, mem_cellsOf, List.mem_range]
    simp [free, done, room, withShip, grid]
  · simp [free]

theorem unoccupied_inBounds {grid : Grid} {pos : Coordinate} {orientation : Orientation} :
    ∀ {indices : List Nat}, unoccupied grid pos orientation indices = some true →
      ∀ i ∈ indices, (shipCell? pos orientation i).isSome := by
  intro indices
  induction indices with
  | nil => simp
  | cons first rest ih =>
      intro scanned i member
      cases at_first : shipCell? pos orientation first with
      | none => simp [unoccupied, at_first] at scanned
      | some cell =>
          simp only [unoccupied, at_first] at scanned
          split at scanned
          · simp at scanned
          · rcases List.mem_cons.mp member with rfl | inRest
            · simp [at_first]
            · exact ih scanned i inRest

theorem isValidPlacement_true {board : Board} {placement : Placement}
    (valid : board.isValidPlacement placement.type placement.pos placement.orientation =
      some true) : Fits placement ∧ placement.InBounds := by
  simp only [isValidPlacement] at valid
  split at valid
  · simp at valid
  split at valid
  · simp at valid
  split at valid
  · simp at valid
  rename_i sign right bottom
  refine ⟨⟨by omega, by omega, ?_, ?_⟩, ?_⟩
  · intro direction
    simp only [direction, true_and] at right
    omega
  · intro direction
    simp only [direction, true_and] at bottom
    omega
  · exact fun i bound => unoccupied_inBounds valid i (List.mem_range.mpr bound)

theorem isValidPlacement_free {board : Board} {placement : Placement}
    (valid : board.isValidPlacement placement.type placement.pos placement.orientation =
      some true) : board.Free placement := by
  obtain ⟨fits, inBounds⟩ := isValidPlacement_true valid
  rw [isValidPlacement_eq fits inBounds] at valid
  simpa using valid

theorem placeShip_accepted {board next : Board} {placement : Placement}
    (accepted : board.placeShip placement.type placement.pos placement.orientation =
      some (next, true)) :
    Fits placement ∧ placement.InBounds ∧ board.Free placement ∧
      ∃ room, next = board.withShip placement room := by
  have valid : board.isValidPlacement placement.type placement.pos placement.orientation =
      some true := by
    unfold placeShip at accepted
    split at accepted <;> simp_all
  obtain ⟨fits, inBounds⟩ := isValidPlacement_true valid
  have room : board.shipsCount < numShips := by
    unfold placeShip at accepted
    rw [valid] at accepted
    simp only at accepted
    split at accepted
    · simp at accepted
    split at accepted
    · assumption
    · simp at accepted
  rw [placeShip_eq fits inBounds room] at accepted
  split at accepted
  · rename_i free
    simp only [Option.some.injEq, Prod.mk.injEq, and_true] at accepted
    exact ⟨fits, inBounds, free, room, accepted.symm⟩
  · simp at accepted

end Board

end Battleship
