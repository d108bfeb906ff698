import Battleship.BoardFleet
import Battleship.UIManager

/-! What the callback for a sunk ship does to the shooter's picture of the board:
hits around the target become sunk, and where there happens to be room for it a
second copy of the ship appears. -/

namespace Battleship

def Ship.placed (ship : Ship) : Placement := ⟨ship.shipType, ship.position, ship.direction⟩

theorem placedShip_placed {placement : Placement} (type : placement.type ∈ ShipType.all)
    (listed : placement.orientation.Listed) :
    (Board.placedShip placement.type placement.pos placement.orientation).placed = placement := by
  simp only [Ship.placed, Board.placedShip, Ship.shipType, Ship.direction,
    ShipType.byte_roundTrip type, Orientation.byte_roundTrip listed]

namespace Board

section Cells

variable {board : Board} {row col : Int}

theorem getCell_of_addressed {cell : Cell} (addressed : cellAt? row col = some cell) :
    board.getCell row col = board.grid cell := by
  simp [getCell, addressed]

theorem getCell_congr {other : Board}
    (same : ∀ cell, cellAt? row col = some cell → other.grid cell = board.grid cell) :
    other.getCell row col = board.getCell row col := by
  unfold getCell
  split
  · rfl
  · exact same _ ‹_›

theorem setCell_of_addressed {cell : Cell} (addressed : cellAt? row col = some cell)
    (state : CellState) : board.setCell row col state =
      { board with grid := Function.update board.grid cell state } := by
  simp [setCell, addressed]

theorem getCell_setCell_of_ne (state : CellState) {row' col' : Int}
    (other : ¬(row' = row ∧ col' = col)) :
    (board.setCell row col state).getCell row' col' = board.getCell row' col' := by
  apply getCell_congr
  intro cell' addressed'
  cases addressed : cellAt? row col with
  | none => simp [setCell, addressed]
  | some cell =>
      have different : cell' ≠ cell := by
        rintro rfl
        rw [cellAt?_eq_some] at addressed addressed'
        omega
      simp [setCell, addressed, different]

theorem getCell_setCell_self {cell : Cell} (addressed : cellAt? row col = some cell)
    (state : CellState) : (board.setCell row col state).getCell row col = state := by
  rw [getCell_of_addressed addressed, setCell_of_addressed addressed]
  exact Function.update_self ..

theorem free_iff {placement : Placement} : board.Free placement ↔
    ∀ i < getShipLength placement.type, board.getCell
      (cellRow placement.pos placement.orientation i)
      (cellCol placement.pos placement.orientation i) = .empty := by
  constructor
  · intro free i bound
    unfold getCell
    split
    · rfl
    next cell addressed => exact free cell (mem_cellsOf.mpr ⟨i, bound, addressed⟩)
  · intro empty cell member
    obtain ⟨i, bound, addressed⟩ := mem_cellsOf.mp member
    rw [← getCell_of_addressed addressed]
    exact empty i bound

instance (placement : Placement) : Decidable (Fits placement) :=
  inferInstanceAs (Decidable (_ ∧ _ ∧ (_ → _) ∧ (_ → _)))

theorem inBounds_of_fits {placement : Placement} (listed : placement.orientation.Listed)
    (fits : Fits placement) (rowOk : placement.pos.row.toInt < boardSize)
    (colOk : placement.pos.col.toInt < boardSize) : placement.InBounds := by
  obtain ⟨rowSign, colSign, horizontalOk, verticalOk⟩ := fits
  simp only [boardSize] at rowOk colOk horizontalOk verticalOk
  intro i bound
  rcases listed with across | down
  · have right := horizontalOk across
    apply cellAt?_isSome <;> simp [boardSize, cellRow, cellCol, across] <;> omega
  · have bottom := verticalOk down
    apply cellAt?_isSome <;> simp [boardSize, cellRow, cellCol, down] <;> omega

theorem placeShip_listed {placement : Placement} (listed : placement.orientation.Listed)
    (rowOk : placement.pos.row.toInt < boardSize) (colOk : placement.pos.col.toInt < boardSize)
    (room : board.shipsCount < numShips) :
    board.placeShip placement.type placement.pos placement.orientation =
      some (if Fits placement ∧ board.Free placement then (board.withShip placement room, true)
        else (board, false)) := by
  by_cases fits : Fits placement
  · rw [placeShip_eq fits (inBounds_of_fits listed fits rowOk colOk) room]
    simp [fits]
  · rw [if_neg (fun both => fits both.1)]
    have refused : board.isValidPlacement placement.type placement.pos placement.orientation =
        some false := by
      unfold isValidPlacement
      dsimp only
      split
      · rfl
      split
      · rfl
      split
      · rfl
      next sign right bottom =>
        refine absurd ⟨by omega, by omega, ?_, ?_⟩ fits
        · intro across
          simpa [across] using right
        · intro down
          simpa [down] using bottom
    simp [placeShip, refused]

end Cells

def hitRun (board : Board) : List (Int × Int) → Nat
  | [] => 0
  | (row, col) :: rest => if board.getCell row col = .hit then board.hitRun rest + 1 else 0

structure MarksSunk (line : Cell → Prop) (before after : Board) : Prop where
  ships : after.ships = before.ships
  count : after.shipsCount = before.shipsCount
  grid : ∀ cell, after.grid cell = before.grid cell ∨
    line cell ∧ before.grid cell = .hit ∧ after.grid cell = .sunk

namespace MarksSunk

variable {line : Cell → Prop} {before after : Board}

theorem refl (line : Cell → Prop) (board : Board) : MarksSunk line board board :=
  ⟨rfl, rfl, fun _ => Or.inl rfl⟩

theorem trans {last : Board} (early : MarksSunk line before after)
    (late : MarksSunk line after last) : MarksSunk line before last where
  ships := late.ships.trans early.ships
  count := late.count.trans early.count
  grid := by
    intro cell
    rcases early.grid cell with same | ⟨on, hit, sunk⟩ <;>
      rcases late.grid cell with sameLater | ⟨onLater, hitLater, sunkLater⟩
    · exact Or.inl (sameLater.trans same)
    · exact Or.inr ⟨onLater, same ▸ hitLater, sunkLater⟩
    · exact Or.inr ⟨on, hit, sameLater.trans sunk⟩
    · exact absurd (sunk.symm.trans hitLater) (by simp)

theorem mono {wider : Cell → Prop} (marks : MarksSunk line before after)
    (within : ∀ cell, line cell → wider cell) : MarksSunk wider before after :=
  ⟨marks.ships, marks.count, fun cell => (marks.grid cell).imp id
    fun ⟨on, rest⟩ => ⟨within cell on, rest⟩⟩

theorem getCell_off (marks : MarksSunk line before after) {row col : Int}
    (off : ∀ cell, cellAt? row col = some cell → ¬line cell) :
    after.getCell row col = before.getCell row col := by
  apply getCell_congr
  intro cell addressed
  rcases marks.grid cell with same | ⟨on, _⟩
  · exact same
  · exact absurd on (off cell addressed)

theorem getCell_empty_iff (marks : MarksSunk line before after) (row col : Int) :
    after.getCell row col = .empty ↔ before.getCell row col = .empty := by
  unfold getCell
  split
  · rfl
  next cell _ =>
    rcases marks.grid cell with same | ⟨_, hit, sunk⟩
    · rw [same]
    · simp [hit, sunk]

end MarksSunk

section Runs

variable {board : Board}

theorem hitRun_congr {other : Board} {cells : List (Int × Int)}
    (same : ∀ cell ∈ cells, other.getCell cell.1 cell.2 = board.getCell cell.1 cell.2) :
    other.hitRun cells = board.hitRun cells := by
  induction cells with
  | nil => rfl
  | cons head rest ih =>
      rw [hitRun, hitRun, same head (by simp), ih fun cell member => same cell (by simp [member])]

theorem hit_of_lt_hitRun {cells : List (Int × Int)} {i : Nat} (below : i < board.hitRun cells) :
    ∃ cell, cells[i]? = some cell ∧ board.getCell cell.1 cell.2 = .hit := by
  induction cells generalizing i with
  | nil => simp [hitRun] at below
  | cons head rest ih =>
      rw [hitRun] at below
      split at below
      next hit =>
        cases i with
        | zero => exact ⟨head, rfl, hit⟩
        | succ i => exact ih (by omega)
      next => omega

theorem sinkRun_marks (line : Cell → Prop) {cells : List (Int × Int)}
    (on : ∀ place ∈ cells, ∀ cell, cellAt? place.1 place.2 = some cell → line cell) :
    ∀ board : Board, MarksSunk line board (sinkRun cells board).1 := by
  induction cells with
  | nil => exact fun board => MarksSunk.refl line board
  | cons head rest ih =>
      intro board
      rw [sinkRun]
      split
      next hit =>
        refine MarksSunk.trans ?_ (ih (fun place member => on place (by simp [member])) _)
        obtain ⟨cell, addressed⟩ : ∃ cell, cellAt? head.1 head.2 = some cell := by
          by_contra off
          simp only [not_exists] at off
          simp [getCell, Option.eq_none_iff_forall_ne_some.mpr off] at hit
        rw [setCell_of_addressed addressed]
        refine ⟨rfl, rfl, fun other => ?_⟩
        rw [getCell_of_addressed addressed] at hit
        by_cases same : other = cell
        · subst same
          exact Or.inr ⟨on head (by simp) other addressed, hit, Function.update_self ..⟩
        · exact Or.inl (Function.update_of_ne same ..)
      next => exact MarksSunk.refl line board

theorem sinkRun_count {cells : List (Int × Int)} (distinct : cells.Nodup) :
    ∀ board : Board, (sinkRun cells board).2 = board.hitRun cells := by
  induction cells with
  | nil => exact fun _ => rfl
  | cons head rest ih =>
      intro board
      obtain ⟨fresh, distinctRest⟩ := List.nodup_cons.mp distinct
      rw [sinkRun, hitRun]
      split
      · dsimp only
        rw [ih distinctRest]
        congr 1
        apply hitRun_congr
        intro place member
        apply getCell_setCell_of_ne
        rintro ⟨sameRow, sameCol⟩
        exact fresh (Prod.ext sameRow sameCol ▸ member)
      · rfl

theorem hitRun_places {place : Nat → Int × Int} {count i : Nat}
    (below : i < board.hitRun ((List.range count).map place)) :
    i < count ∧ board.getCell (place i).1 (place i).2 = .hit := by
  obtain ⟨cell, at_i, hit⟩ := hit_of_lt_hitRun below
  obtain ⟨j, at_j, rfl⟩ := List.getElem?_map .. ▸ at_i |> Option.map_eq_some_iff.mp
  obtain ⟨bound, rfl⟩ := List.getElem?_eq_some_iff.mp at_j
  rw [List.length_range] at bound
  rw [List.getElem_range] at hit
  exact ⟨bound, hit⟩

theorem hitRun_eq_zero {place : Nat → Int × Int} {count : Nat}
    (none : 0 < count → board.getCell (place 0).1 (place 0).2 ≠ .hit) :
    board.hitRun ((List.range count).map place) = 0 := by
  by_contra some
  obtain ⟨bound, hit⟩ := hitRun_places (Nat.pos_of_ne_zero some)
  exact none bound hit

theorem nodup_places {place : Nat → Int × Int} (injective : Function.Injective place)
    (count : Nat) : ((List.range count).map place).Nodup :=
  List.nodup_range.map injective

end Runs

def OnLines (row col : Int) (cell : Cell) : Prop :=
  ((cell.1 : Nat) : Int) = row ∨ ((cell.2 : Nat) : Int) = col

section Scans

variable (row col : Int)

theorem leftOf_nodup : (leftOf row col).Nodup := by
  apply nodup_places
  intro i j same
  simp only [Prod.mk.injEq] at same
  omega

theorem above_nodup : (above row col).Nodup := by
  apply nodup_places
  intro i j same
  simp only [Prod.mk.injEq] at same
  omega

theorem scanRow_marks (extent : Extent) :
    MarksSunk (fun cell => ((cell.1 : Nat) : Int) = row) extent.board
      (scanRow row col extent).board := by
  have on (place : Int × Int) (member : place ∈ leftOf row col ∨ place ∈ rightOf row col)
      (cell : Cell) (addressed : cellAt? place.1 place.2 = some cell) :
      ((cell.1 : Nat) : Int) = row := by
    rw [cellAt?_eq_some] at addressed
    simp only [leftOf, rightOf, List.mem_map] at member
    rcases member with ⟨i, _, rfl⟩ | ⟨i, _, rfl⟩ <;> exact addressed.1.symm
  exact (sinkRun_marks _ (fun place member => on place (Or.inl member)) _).trans
    (sinkRun_marks _ (fun place member => on place (Or.inr member)) _)

theorem scanColumn_marks (extent : Extent) :
    MarksSunk (fun cell => ((cell.2 : Nat) : Int) = col) extent.board
      (scanColumn row col extent).board := by
  have on (place : Int × Int) (member : place ∈ above row col ∨ place ∈ below row col)
      (cell : Cell) (addressed : cellAt? place.1 place.2 = some cell) :
      ((cell.2 : Nat) : Int) = col := by
    rw [cellAt?_eq_some] at addressed
    simp only [above, below, List.mem_map] at member
    rcases member with ⟨i, _, rfl⟩ | ⟨i, _, rfl⟩ <;> exact addressed.2.symm
  exact (sinkRun_marks _ (fun place member => on place (Or.inl member)) _).trans
    (sinkRun_marks _ (fun place member => on place (Or.inr member)) _)

variable (board : Board)

theorem inferExtent_marks : MarksSunk (OnLines row col) board (inferExtent row col board).board := by
  have across (extent : Extent) : MarksSunk (OnLines row col) extent.board
      (scanRow row col extent).board := (scanRow_marks row col extent).mono fun _ => Or.inl
  have down (extent : Extent) : MarksSunk (OnLines row col) extent.board
      (scanColumn row col extent).board := (scanColumn_marks row col extent).mono fun _ => Or.inr
  unfold inferExtent
  dsimp only
  split <;> split
  · exact (across ⟨board, 0, 0, 0, 0⟩).trans (down _)
  · exact down ⟨board, 0, 0, 0, 0⟩
  · exact across ⟨board, 0, 0, 0, 0⟩
  · exact MarksSunk.refl _ board

theorem hitRun_leftOf_eq_zero (none : 0 < col → board.getCell row (col - 1) ≠ .hit) :
    board.hitRun (leftOf row col) = 0 := by
  apply hitRun_eq_zero
  intro positive
  simpa using none (by omega)

theorem hitRun_above_eq_zero (none : 0 < row → board.getCell (row - 1) col ≠ .hit) :
    board.hitRun (above row col) = 0 := by
  apply hitRun_eq_zero
  intro positive
  simpa using none (by omega)

theorem inferExtent_left : (inferExtent row col board).left = board.hitRun (leftOf row col) := by
  have scanned : (scanRow row col ⟨board, 0, 0, 0, 0⟩).left = board.hitRun (leftOf row col) :=
    sinkRun_count (leftOf_nodup row col) board
  unfold inferExtent
  dsimp only
  split <;> split
  · exact scanned
  next _ vertical =>
    refine (hitRun_leftOf_eq_zero row col board fun positive hit => vertical ?_).symm
    simp [positive, hit]
  · exact scanned
  next _ vertical =>
    refine (hitRun_leftOf_eq_zero row col board fun positive hit => vertical ?_).symm
    simp [positive, hit]

theorem inferExtent_up : (inferExtent row col board).up = board.hitRun (above row col) := by
  have scanned (extent : Extent) : (scanColumn row col extent).up =
      extent.board.hitRun (above row col) := sinkRun_count (above_nodup row col) extent.board
  unfold inferExtent
  dsimp only
  split <;> split
  · rw [scanned]
    apply hitRun_congr
    intro place member
    obtain ⟨i, bound, rfl⟩ := List.mem_map.mp member
    apply (scanRow_marks row col ⟨board, 0, 0, 0, 0⟩).getCell_off
    intro cell addressed
    rw [cellAt?_eq_some] at addressed
    dsimp only at addressed ⊢
    omega
  · exact scanned ⟨board, 0, 0, 0, 0⟩
  next horizontal _ =>
    refine (hitRun_above_eq_zero row col board fun positive hit => horizontal ?_).symm
    simp [positive, hit]
  next horizontal _ =>
    refine (hitRun_above_eq_zero row col board fun positive hit => horizontal ?_).symm
    simp [positive, hit]

end Scans

def inferred (row col : Int) (type : ShipType) (extent : Extent) : Placement where
  type := type
  pos := ⟨Int8.ofInt (row - extent.up), Int8.ofInt (col - extent.left)⟩
  orientation :=
    if col + extent.right > col - extent.left then .horizontal
    else if row + extent.down > row - extent.up then .vertical
    else .horizontal

/-- The hits above the target and those to its left enclose a free place for a
ship of this length. -/
def RoomAside (board : Board) (row col : Int) (length : Nat) : Prop :=
  0 < board.hitRun (above row col) ∧ length ≤ board.hitRun (leftOf row col) ∧
    ∀ i < length, board.getCell (row - board.hitRun (above row col))
      (col - board.hitRun (leftOf row col) + i) = .empty

instance (board : Board) (row col : Int) (length : Nat) :
    Decidable (board.RoomAside row col length) :=
  inferInstanceAs (Decidable (_ ∧ _ ∧ ∀ i < length, _))

section Struck

variable (board : Board) {row col : Int} {target : Cell}

def struck (row col : Int) : Extent := inferExtent row col (board.setCell row col .sunk)

theorem hitRun_setCell {cells : List (Int × Int)}
    (off : ∀ place ∈ cells, ¬(place.1 = row ∧ place.2 = col)) (state : CellState) :
    (board.setCell row col state).hitRun cells = board.hitRun cells :=
  hitRun_congr fun place member => getCell_setCell_of_ne state (off place member)

theorem struck_left : (board.struck row col).left = board.hitRun (leftOf row col) := by
  rw [struck, inferExtent_left]
  refine hitRun_setCell board (fun place member => ?_) .sunk
  obtain ⟨i, _, rfl⟩ := List.mem_map.mp member
  dsimp only
  omega

theorem struck_up : (board.struck row col).up = board.hitRun (above row col) := by
  rw [struck, inferExtent_up]
  refine hitRun_setCell board (fun place member => ?_) .sunk
  obtain ⟨i, _, rfl⟩ := List.mem_map.mp member
  dsimp only
  omega

theorem struck_empty_iff (onGrid : cellAt? row col = some target) (row' col' : Int) :
    (board.struck row col).board.getCell row' col' = .empty ↔
      board.getCell row' col' = .empty ∧ ¬(row' = row ∧ col' = col) := by
  rw [struck, (inferExtent_marks row col _).getCell_empty_iff]
  by_cases same : row' = row ∧ col' = col
  · obtain ⟨rfl, rfl⟩ := same
    simp [getCell_setCell_self onGrid]
  · simp [getCell_setCell_of_ne _ same, same]

theorem struck_grid_empty_iff (onGrid : cellAt? row col = some target) (cell : Cell) :
    (board.struck row col).board.grid cell = .empty ↔ board.grid cell = .empty ∧ cell ≠ target := by
  have at_cell := struck_empty_iff board onGrid (cell.1 : Nat) (cell.2 : Nat)
  rw [getCell_of_addressed (cellAt?_cell cell), getCell_of_addressed (cellAt?_cell cell)] at at_cell
  rw [cellAt?_eq_some] at onGrid
  rw [at_cell, ne_eq, Prod.ext_iff, Fin.ext_iff, Fin.ext_iff, onGrid.1, onGrid.2, Nat.cast_inj,
    Nat.cast_inj]

theorem struck_left_taken (onGrid : cellAt? row col = some target) {i : Nat}
    (within : i ≤ board.hitRun (leftOf row col)) :
    (board.struck row col).board.getCell row (col - i) ≠ .empty := by
  rw [ne_eq, struck_empty_iff board onGrid]
  cases i with
  | zero => simp
  | succ i =>
      obtain ⟨_, hit⟩ := hitRun_places within
      rw [show col - (i + 1 : Nat) = col - 1 - i by omega, hit]
      simp

theorem struck_up_taken (onGrid : cellAt? row col = some target) {i : Nat}
    (within : i ≤ board.hitRun (above row col)) :
    (board.struck row col).board.getCell (row - i) col ≠ .empty := by
  rw [ne_eq, struck_empty_iff board onGrid]
  cases i with
  | zero => simp
  | succ i =>
      obtain ⟨_, hit⟩ := hitRun_places within
      rw [show row - (i + 1 : Nat) = row - 1 - i by omega, hit]
      simp

theorem hitRun_places_le {place : Nat → Int × Int} {count : Nat} :
    board.hitRun ((List.range count).map place) ≤ count := by
  by_contra beyond
  obtain ⟨bound, _⟩ := hitRun_places (Nat.not_le.mp beyond)
  omega

theorem inferred_pos (onGrid : cellAt? row col = some target) (type : ShipType) :
    (inferred row col type (board.struck row col)).pos.row.toInt =
        row - board.hitRun (above row col) ∧
      (inferred row col type (board.struck row col)).pos.col.toInt =
        col - board.hitRun (leftOf row col) ∧
      0 ≤ row - board.hitRun (above row col) ∧ 0 ≤ col - board.hitRun (leftOf row col) := by
  rw [cellAt?_eq_some] at onGrid
  have rowBound : (target.1 : Nat) < 10 := target.1.isLt
  have colBound : (target.2 : Nat) < 10 := target.2.isLt
  have up : board.hitRun (above row col) ≤ row.toNat := hitRun_places_le board
  have left : board.hitRun (leftOf row col) ≤ col.toNat := hitRun_places_le board
  simp only [inferred, struck_up, struck_left]
  rw [Int8.toInt_ofInt_of_le (by omega) (by omega), Int8.toInt_ofInt_of_le (by omega) (by omega)]
  omega

theorem inferred_bounds (onGrid : cellAt? row col = some target) (type : ShipType) :
    (inferred row col type (board.struck row col)).pos.row.toInt < boardSize ∧
      (inferred row col type (board.struck row col)).pos.col.toInt < boardSize := by
  obtain ⟨posRow, posCol, _, _⟩ := inferred_pos board onGrid type
  have bounds := cellAt?_eq_some.mp onGrid
  have rowBound : (target.1 : Nat) < boardSize := target.1.isLt
  have colBound : (target.2 : Nat) < boardSize := target.2.isLt
  rw [posRow, posCol]
  omega

theorem inferred_listed (row col : Int) (type : ShipType) (extent : Extent) :
    (inferred row col type extent).orientation.Listed := by
  unfold inferred
  dsimp only
  split
  · exact Or.inl rfl
  split
  · exact Or.inr rfl
  · exact Or.inl rfl

/-- A ship is only ever placed aside of the target: everything else that could be
inferred begins at a cell that is not empty. -/
theorem inferred_accepted_iff (onGrid : cellAt? row col = some target) {type : ShipType}
    (sized : 0 < getShipLength type) :
    (Fits (inferred row col type (board.struck row col)) ∧
      (board.struck row col).board.Free (inferred row col type (board.struck row col))) ↔
    board.RoomAside row col (getShipLength type) := by
  obtain ⟨posRow, posCol, rowSign, colSign⟩ := inferred_pos board onGrid type
  have across (left : 0 < board.hitRun (leftOf row col)) :
      (inferred row col type (board.struck row col)).orientation = .horizontal := by
    refine if_pos ?_
    rw [struck_left]
    omega
  have bounds := cellAt?_eq_some.mp onGrid
  have colBound : (target.2 : Nat) < 10 := target.2.isLt
  rw [free_iff]
  simp only [cellRow, cellCol, posRow, posCol]
  constructor
  · rintro ⟨_, free⟩
    have first := free 0 sized
    simp only [Int.ofNat_zero, ite_self, add_zero] at first
    have up : 0 < board.hitRun (above row col) := by
      by_contra zero
      rw [Nat.eq_zero_of_not_pos zero] at first
      exact struck_left_taken board onGrid le_rfl (by simpa using first)
    have left : 0 < board.hitRun (leftOf row col) := by
      by_contra zero
      rw [Nat.eq_zero_of_not_pos zero] at first
      exact struck_up_taken board onGrid le_rfl (by simpa using first)
    simp only [across left, reduceCtorEq, if_false, if_true, Int.ofNat_zero, add_zero] at free
    have long : getShipLength type ≤ board.hitRun (leftOf row col) := by
      by_contra short
      have corner := free _ (Nat.not_le.mp short)
      rw [sub_add_cancel] at corner
      exact struck_up_taken board onGrid le_rfl corner
    exact ⟨up, long, fun i bound => ((struck_empty_iff board onGrid _ _).mp (free i bound)).1⟩
  · rintro ⟨up, long, empty⟩
    have horizontal := across (by omega)
    refine ⟨⟨by omega, by omega, ?_, ?_⟩, ?_⟩
    · intro _
      have length : (inferred row col type (board.struck row col)).type = type := rfl
      rw [posCol, length]
      simp only [boardSize]
      omega
    · simp [horizontal]
    · intro i bound
      simp only [horizontal, reduceCtorEq, if_false, if_true, Int.ofNat_zero, add_zero]
      refine (struck_empty_iff board onGrid _ _).mpr ⟨empty i bound, by omega⟩

theorem struck_count : (board.struck row col).board.shipsCount = board.shipsCount := by
  rw [struck, (inferExtent_marks row col _).count]
  unfold setCell
  split <;> rfl

theorem struck_ships : (board.struck row col).board.ships = board.ships := by
  rw [struck, (inferExtent_marks row col _).ships]
  unfold setCell
  split <;> rfl

def settled (placement : Placement) (answer : Board × Bool) : Board :=
  if answer.2 then answer.1.sinkShip placement.type placement.pos placement.orientation
  else answer.1

theorem revealSunk_eq_map (type : ShipType) :
    let placement := inferred row col type (board.struck row col)
    board.revealSunk row col type =
      ((board.struck row col).board.placeShip placement.type placement.pos
        placement.orientation).map (settled placement) := by
  unfold revealSunk
  dsimp only
  split
  next refused => exact (congrArg (Option.map (settled _)) refused).symm
  next answered => exact (congrArg (Option.map (settled (inferred ..))) answered).symm

theorem revealSunk_eq (onGrid : cellAt? row col = some target) {type : ShipType}
    (sized : 0 < getShipLength type) (room : board.shipsCount < numShips) :
    board.revealSunk row col type =
      some (if board.RoomAside row col (getShipLength type) then
        ((board.struck row col).board.withShip (inferred row col type (board.struck row col))
          ((struck_count board).trans_lt room)).sinkShip type
            (inferred row col type (board.struck row col)).pos
            (inferred row col type (board.struck row col)).orientation
      else (board.struck row col).board) := by
  obtain ⟨rowOk, colOk⟩ := inferred_bounds board onGrid type
  have counted : (board.struck row col).board.shipsCount < numShips :=
    (struck_count board).trans_lt room
  have placed := placeShip_listed (inferred_listed row col type (board.struck row col)) rowOk colOk
    counted
  simp only [inferred_accepted_iff board onGrid sized] at placed
  rw [revealSunk_eq_map, placed]
  split <;> rfl

end Struck

theorem withShip_slot (board : Board) (placement : Placement) (room : board.shipsCount < numShips)
    (i : Fin numShips) : shipAt (board.withShip placement room).ships i =
      if i.val = board.shipsCount then
        placedShip placement.type placement.pos placement.orientation
      else shipAt board.ships i := by
  simp only [withShip, shipAt, Fin.getElem_fin, Vector.getElem_set, eq_comm (a := i.val)]

structure KeepsRecords (before after : Board) : Prop where
  count : after.shipsCount = before.shipsCount
  placed : ∀ i, (shipAt after.ships i).placed = (shipAt before.ships i).placed
  taken : ∀ cell, before.grid cell ≠ .empty → after.grid cell ≠ .empty

theorem KeepsRecords.refl (board : Board) : board.KeepsRecords board :=
  ⟨rfl, fun _ => rfl, fun _ taken => taken⟩

theorem KeepsRecords.trans {first second third : Board} (early : first.KeepsRecords second)
    (late : second.KeepsRecords third) : first.KeepsRecords third :=
  ⟨late.count.trans early.count, fun i => (late.placed i).trans (early.placed i),
    fun cell taken => late.taken cell (early.taken cell taken)⟩

theorem hitShip_records (board : Board) (i : Fin numShips) :
    board.KeepsRecords (board.hitShip i).1 := by
  have same (ship : Ship) (kept : ship.placed = (shipAt board.ships i).placed)
      (j : Fin numShips) : (shipAt (board.ships.set i ship) j).placed =
        (shipAt board.ships j).placed := by
    rw [shipAt, Fin.getElem_fin, Vector.getElem_set]
    split
    next here => rw [kept, Fin.ext here]
    next => rfl
  unfold hitShip
  dsimp only
  split
  · exact ⟨rfl, same _ rfl, fun _ taken => taken⟩
  · exact ⟨rfl, same _ rfl, fun _ taken => taken⟩

theorem processShot_records (board : Board) (pos : Coordinate) :
    board.KeepsRecords (board.processShot pos).1 := by
  have marked (cell : Cell) (state : CellState) (taken : state ≠ .empty) :
      board.KeepsRecords { board with grid := Function.update board.grid cell state } := by
    refine ⟨rfl, fun _ => rfl, fun other before => ?_⟩
    by_cases same : other = cell
    · rw [same]
      simpa using taken
    · simpa [same] using before
  unfold processShot
  split
  · exact KeepsRecords.refl board
  split
  · dsimp only
    split
    · exact (marked _ .hit (by simp)).trans (hitShip_records _ _)
    · exact marked _ .hit (by simp)
  split
  · exact marked _ .miss (by simp)
  · exact KeepsRecords.refl board

theorem processShots_records (shots : List Coordinate) :
    ∀ board : Board, board.KeepsRecords (board.processShots shots) := by
  induction shots with
  | nil => exact KeepsRecords.refl
  | cons pos rest ih => exact fun board => (processShot_records board pos).trans (ih _)

structure Misplaces (target : Cell) (type : ShipType) (before after : Board) : Prop where
  count : after.shipsCount = before.shipsCount + 1
  earlier : ∀ i : Fin numShips, i.val < before.shipsCount →
    (shipAt after.ships i).placed = (shipAt before.ships i).placed
  last : ∀ i : Fin numShips, i.val = before.shipsCount →
    (shipAt after.ships i).placed.type = type ∧
      ∃ cell ∈ (shipAt after.ships i).placed.cells, cell ≠ target ∧
        before.grid cell = .empty ∧ after.grid cell ≠ .empty
  taken : ∀ cell, (before.grid cell = .empty → cell = target) → after.grid cell ≠ .empty

theorem revealSunk_aside {board : Board} {row col : Int} {target : Cell}
    (onGrid : cellAt? row col = some target) {type : ShipType} (listed : type ∈ ShipType.all)
    (room : board.shipsCount < numShips)
    (aside : board.RoomAside row col (getShipLength type)) :
    ∃ after, board.revealSunk row col type = some after ∧
      Misplaces target type board after := by
  have sized : 0 < getShipLength type := by
    have := getShipLength_of_mem listed
    omega
  have along := inferred_listed row col type (board.struck row col)
  obtain ⟨fits, free⟩ := (inferred_accepted_iff board onGrid sized).mpr aside
  rw [revealSunk_eq board onGrid sized room, if_pos aside]
  obtain ⟨rowOk, colOk⟩ := inferred_bounds board onGrid type
  have inBounds := inBounds_of_fits along fits rowOk colOk
  generalize placed : inferred row col type (board.struck row col) = placement at *
  have ofType : placement.type = type := by rw [← placed]; rfl
  have counted : (board.struck row col).board.shipsCount = board.shipsCount := struck_count board
  have shot := processShots_records ((List.range (getShipLength type)).map fun i =>
    ⟨Int8.ofInt (cellRow placement.pos placement.orientation i),
      Int8.ofInt (cellCol placement.pos placement.orientation i)⟩)
    ((board.struck row col).board.withShip placement (counted.trans_lt room))
  refine ⟨_, rfl, ?_, ?_, ?_, ?_⟩
  · exact shot.count.trans (congrArg (· + 1) counted)
  · intro i earlier
    refine (shot.placed i).trans ?_
    rw [withShip_slot, if_neg (by omega), struck_ships]
  · intro i here
    have onRecord : (shipAt (((board.struck row col).board.withShip placement
        (counted.trans_lt room)).sinkShip type placement.pos placement.orientation).ships i).placed =
        placement := by
      refine (shot.placed i).trans ?_
      rw [withShip_slot, if_pos (by omega)]
      exact placedShip_placed (ofType ▸ listed) along
    have first : (shipCell? placement.pos placement.orientation 0).isSome :=
      inBounds 0 (by rwa [ofType])
    obtain ⟨cell, addressed⟩ := Option.isSome_iff_exists.mp first
    have member : cell ∈ placement.cells := mem_cellsOf.mpr ⟨0, by rwa [ofType], addressed⟩
    obtain ⟨empty, different⟩ := (struck_grid_empty_iff board onGrid cell).mp (free cell member)
    rw [onRecord]
    refine ⟨ofType, cell, member, different, empty, shot.taken cell ?_⟩
    simp [Board.withShip, member]
  · intro cell taken
    apply shot.taken
    have kept : (board.struck row col).board.grid cell ≠ .empty :=
      fun empty => by
        obtain ⟨before, other⟩ := (struck_grid_empty_iff board onGrid cell).mp empty
        exact other (taken before)
    simp only [Board.withShip]
    split
    · simp
    · exact kept

theorem revealSunk_defined {board : Board} {row col : Int}
    (onGrid : (cellAt? row col).isSome = true) (room : board.shipsCount < numShips)
    (type : ShipType) : ∃ after, board.revealSunk row col type = some after ∧
      after.shipsCount ≤ board.shipsCount + 1 := by
  obtain ⟨target, addressed⟩ := Option.isSome_iff_exists.mp onGrid
  obtain ⟨rowOk, colOk⟩ := inferred_bounds board addressed type
  have counted : (board.struck row col).board.shipsCount = board.shipsCount := struck_count board
  rw [revealSunk_eq_map, placeShip_listed (inferred_listed row col type _) rowOk colOk
    (counted.trans_lt room)]
  refine ⟨_, rfl, ?_⟩
  split
  · rw [settled, if_pos rfl, sinkShip, (processShots_records _ _).count]
    exact Nat.succ_le_succ counted.le
  · rw [settled, if_neg (by simp), counted]
    exact Nat.le_succ _

end Board

end Battleship
