import Battleship.BoardFleet

/-! Shots at a board that holds a fleet. The grid, the hit counters, the sunk
flags and `shipsRemaining` are four readings of one set, the cells shot so far;
`AfterShots` states the readings and `processShot` adds a cell to the set. -/

namespace Battleship

open Targets

def Fleet.shipAfter (fleet : Fleet) (shots : Finset Cell) (i : Fin numShips) : Ship :=
  { Board.placedShip (fleet.ship i).type (fleet.ship i).pos (fleet.ship i).orientation with
    hits := UInt8.ofNat (fleet.family.hits shots i)
    isSunk := decide (fleet.family.Sunk shots i) }

namespace Fleet

variable (fleet : Fleet) (shots : Finset Cell) (i : Fin numShips)

@[simp] theorem shipAfter_cells : (fleet.shipAfter shots i).cells = fleet.family.cells i :=
  placedShip_cells (fleet.listed _ (fleet.ship_mem i))

theorem shipAfter_length : (fleet.shipAfter shots i).length.toNat = (fleet.family.cells i).card :=
  (getShipLength_byte _).trans (fleet.card_cells i).symm

theorem card_cells_le : (fleet.family.cells i).card ≤ 5 :=
  (fleet.card_cells i).trans_le (getShipLength_le _)

theorem shipAfter_hits : (fleet.shipAfter shots i).hits.toNat = fleet.family.hits shots i := by
  have bound := (fleet.family.hits_le_card shots i).trans (fleet.card_cells_le i)
  rw [shipAfter, UInt8.toNat_ofNat', Nat.mod_eq_of_lt (by omega)]

theorem hits_eq_length_iff : (fleet.shipAfter shots i).hits = (fleet.shipAfter shots i).length ↔
    fleet.family.Sunk shots i := by
  rw [← UInt8.toNat_inj, shipAfter_hits, shipAfter_length, Family.sunk_iff_hits]

end Fleet

namespace Board

structure AfterShots (board : Board) (fleet : Fleet) (shots : Finset Cell) : Prop where
  grid : ∀ cell, board.grid cell =
    if fleet.family.Covered cell then (if cell ∈ shots then .hit else .ship)
    else (if cell ∈ shots then .miss else .empty)
  ships : ∀ i : Fin numShips, shipAt board.ships i = fleet.shipAfter shots i
  count : board.shipsCount = numShips
  remaining : board.shipsRemaining = (fleet.family.afloat shots).card

theorem Holds.afterShots {board : Board} {fleet : Fleet} (held : board.Holds fleet.ships) :
    board.AfterShots fleet ∅ where
  grid := by
    intro cell
    rw [held.grid cell]
    simp [fleet.covered_iff]
  ships := by
    intro i
    rw [shipAt, held.ships i (by rw [fleet.length_ships]; exact i.isLt)]
    have afloat : ¬fleet.family.Sunk ∅ i := by
      rw [← Family.mem_afloat, Family.afloat_none]
      exact Finset.mem_univ i
    simp [Fleet.shipAfter, Fleet.ship, placedShip, Family.hits, afloat]
  count := held.count.trans fleet.length_ships
  remaining := by
    rw [held.remaining, Family.afloat_none, Finset.card_univ, Fintype.card_fin]

section Shot

variable {board : Board} {fleet : Fleet} {shots : Finset Cell} {pos : Coordinate} {cell : Cell}

theorem covers_iff {ship : Ship} (addressed : cellAt? pos.row.toInt pos.col.toInt = some cell) :
    covers ship pos = true ↔ cell ∈ ship.cells := by
  rw [cellAt?_eq_some] at addressed
  simp only [covers, List.any_eq_true, List.mem_range, Bool.and_eq_true, decide_eq_true_eq,
    Ship.cells, mem_cellsOf, shipCell?, cellAt?_eq_some, addressed]

theorem AfterShots.findShip (after : board.AfterShots fleet shots)
    (addressed : cellAt? pos.row.toInt pos.col.toInt = some cell) (i : Fin numShips)
    (inside : cell ∈ fleet.family.cells i) : board.findShip pos = some i := by
  have at_ship (j : Fin numShips) : (decide (j.val < board.shipsCount) && covers (shipAt board.ships j) pos)
      = true ↔ cell ∈ fleet.family.cells j := by
    rw [after.count, after.ships j, Bool.and_eq_true, covers_iff addressed,
      Fleet.shipAfter_cells]
    simp [j.isLt]
  unfold Board.findShip
  rw [List.find?_eq_some_iff_getElem]
  refine ⟨(at_ship i).mpr inside, i.val, by simp, by simp, ?_⟩
  intro j earlier
  simp only [List.getElem_finRange, Bool.not_eq_true', ← Bool.not_eq_true]
  intro found
  have same := Family.owner_unique ((at_ship _).mp found) inside
  simp only [Fin.ext_iff, Fin.val_cast] at same
  omega

theorem processShot_off_board (off : cellAt? pos.row.toInt pos.col.toInt = none) :
    board.processShot pos = (board, .miss) := by
  simp [processShot, off]

/-- A cell already shot: nothing changes. -/
theorem AfterShots.processShot_again (after : board.AfterShots fleet shots)
    (addressed : cellAt? pos.row.toInt pos.col.toInt = some cell) (shot : cell ∈ shots) :
    board.processShot pos = (board, .miss) := by
  have at_cell := after.grid cell
  simp only [shot, if_true] at at_cell
  simp only [processShot, addressed]
  split at at_cell <;> simp [at_cell]

theorem grid_insert (target : Cell) (shotAt : CellState)
    (agrees : shotAt = if fleet.family.Covered target then .hit else .miss) (other : Cell) :
    Function.update (fun cell => if fleet.family.Covered cell then
        (if cell ∈ shots then CellState.hit else .ship)
      else (if cell ∈ shots then .miss else .empty)) target shotAt other =
    if fleet.family.Covered other then (if other ∈ insert target shots then .hit else .ship)
    else (if other ∈ insert target shots then .miss else .empty) := by
  by_cases same : other = target
  · subst same
    simp [agrees]
  · simp [same]

theorem AfterShots.processShot_water (after : board.AfterShots fleet shots)
    (addressed : cellAt? pos.row.toInt pos.col.toInt = some cell) (unshot : cell ∉ shots)
    (water : ¬fleet.family.Covered cell) :
    (board.processShot pos).1.AfterShots fleet (insert cell shots) ∧
      (board.processShot pos).2 = .miss := by
  have at_cell : board.grid cell = .empty := by simp [after.grid cell, water, unshot]
  have outside (i : Fin numShips) : cell ∉ fleet.family.cells i := fun inside => water ⟨i, inside⟩
  simp only [processShot, addressed, at_cell, reduceCtorEq, if_false, if_true, and_true]
  refine ⟨?_, ?_, after.count, ?_⟩
  · intro other
    simp only [funext after.grid]
    exact grid_insert cell .miss (by simp [water]) other
  · intro i
    simp only [after.ships i, Fleet.shipAfter, Family.hits_insert_of_notMem (outside i),
      Family.sunk_insert_of_notMem (outside i)]
  · simp only [after.remaining, Family.afloat_insert_of_uncovered water]

theorem shipAfter_insert {i : Fin numShips} (inside : cell ∈ fleet.family.cells i)
    (j : Fin numShips) (different : i ≠ j) :
    fleet.shipAfter (insert cell shots) j = fleet.shipAfter shots j := by
  have outside : cell ∉ fleet.family.cells j :=
    fun also => different (Family.owner_unique inside also)
  simp only [Fleet.shipAfter, Family.hits_insert_of_notMem outside,
    Family.sunk_insert_of_notMem outside]

theorem AfterShots.processShot_ship (after : board.AfterShots fleet shots)
    (addressed : cellAt? pos.row.toInt pos.col.toInt = some cell) (unshot : cell ∉ shots)
    {i : Fin numShips} (inside : cell ∈ fleet.family.cells i) :
    (board.processShot pos).1.AfterShots fleet (insert cell shots) ∧
      (board.processShot pos).2 =
        if fleet.family.Sunk (insert cell shots) i then .sunk else .hit := by
  have covered : fleet.family.Covered cell := ⟨i, inside⟩
  have at_cell : board.grid cell = .ship := by simp [after.grid cell, covered, unshot]
  let marked : Board := { board with grid := Function.update board.grid cell .hit }
  have found : marked.findShip pos = some i := after.findShip addressed i inside
  have processed : board.processShot pos = marked.hitShip i := by
    unfold Board.processShot
    simp only [addressed, at_cell, if_true]
    rw [show Board.findShip { board with grid := Function.update board.grid cell .hit } pos = some i
      from found]
  have grid : ∀ other, marked.grid other = if fleet.family.Covered other then
      (if other ∈ insert cell shots then .hit else .ship)
      else (if other ∈ insert cell shots then .miss else .empty) := by
    intro other
    simp only [marked, funext after.grid]
    exact grid_insert cell .hit (by simp [covered]) other
  have record : shipAt marked.ships i = fleet.shipAfter shots i := after.ships i
  have counted : (fleet.shipAfter shots i).hits + 1 =
      (fleet.shipAfter (insert cell shots) i).hits := by
    simp only [Fleet.shipAfter, Family.hits_insert_of_mem inside unshot, UInt8.ofNat_add]
    rfl
  have reaches : (fleet.shipAfter (insert cell shots) i).hits ≥ (fleet.shipAfter shots i).length ↔
      fleet.family.Sunk (insert cell shots) i := by
    have bound := fleet.family.hits_le_card (insert cell shots) i
    rw [ge_iff_le, UInt8.le_iff_toNat_le, Fleet.shipAfter_hits, Fleet.shipAfter_length,
      Family.sunk_iff_hits]
    omega
  have others (sunkFlag : Bool)
      (flag : sunkFlag = decide (fleet.family.Sunk (insert cell shots) i)) (j : Fin numShips) :
      shipAt (marked.ships.set i { fleet.shipAfter shots i with
        hits := (fleet.shipAfter (insert cell shots) i).hits, isSunk := sunkFlag }) j =
      fleet.shipAfter (insert cell shots) j := by
    rw [shipAt, Fin.getElem_fin, Vector.getElem_set]
    by_cases same : i = j
    · subst same
      simp [Fleet.shipAfter, flag]
    · rw [if_neg (Fin.val_ne_of_ne same), shipAfter_insert inside j same]
      exact after.ships j
  rw [processed]
  simp only [hitShip, record, counted, reaches]
  by_cases sinks : fleet.family.Sunk (insert cell shots) i
  · simp only [sinks, if_true, and_true]
    refine ⟨grid, others true (by simp [sinks]), after.count, ?_⟩
    have fewer := Family.card_afloat_insert_of_sunk inside unshot sinks
    simp only [marked, after.remaining]
    omega
  · simp only [sinks, if_false, and_true]
    have unsunk : (fleet.shipAfter shots i).isSunk = false := by
      simp [Fleet.shipAfter, Family.not_sunk_of_unshot inside unshot]
    have kept := others false (by simp [sinks])
    rw [← unsunk] at kept
    refine ⟨grid, kept, after.count, ?_⟩
    simp only [marked, after.remaining, Family.afloat_insert_of_not_sunk inside unshot sinks]

theorem AfterShots.processShot (after : board.AfterShots fleet shots) (pos : Coordinate) :
    (board.processShot pos).1.AfterShots fleet
      (shots ∪ (cellAt? pos.row.toInt pos.col.toInt).toFinset) := by
  cases addressed : cellAt? pos.row.toInt pos.col.toInt with
  | none => simpa [processShot_off_board addressed] using after
  | some cell =>
      have shape : shots ∪ (some cell).toFinset = insert cell shots := by simp
      rw [shape]
      by_cases shot : cell ∈ shots
      · rw [after.processShot_again addressed shot, Finset.insert_eq_of_mem shot]
        exact after
      by_cases covered : fleet.family.Covered cell
      · obtain ⟨i, inside⟩ := covered
        exact (after.processShot_ship addressed shot inside).1
      · exact (after.processShot_water addressed shot covered).1

end Shot

def shotCells (shots : List Coordinate) : Finset Cell :=
  (shots.filterMap fun pos => cellAt? pos.row.toInt pos.col.toInt).toFinset

theorem mem_shotCells {shots : List Coordinate} {cell : Cell} :
    cell ∈ shotCells shots ↔ ∃ pos ∈ shots, cellAt? pos.row.toInt pos.col.toInt = some cell := by
  simp [shotCells]

theorem AfterShots.processShots {fleet : Fleet} (later : List Coordinate) :
    ∀ {board : Board} {shots : Finset Cell}, board.AfterShots fleet shots →
      (board.processShots later).AfterShots fleet (shots ∪ shotCells later) := by
  induction later with
  | nil => intro board shots after; simpa [Board.processShots, shotCells] using after
  | cons pos rest ih =>
      intro board shots after
      have next := ih (after.processShot pos)
      have shape : shots ∪ (cellAt? pos.row.toInt pos.col.toInt).toFinset ∪ shotCells rest =
          shots ∪ shotCells (pos :: rest) := by
        ext cell
        simp only [Finset.mem_union, mem_shotCells, List.exists_mem_cons_iff, Option.mem_toFinset,
          Option.mem_def, or_assoc]
      rwa [shape] at next

theorem Holds.processShots {board : Board} {fleet : Fleet} (held : board.Holds fleet.ships)
    (shots : List Coordinate) : (board.processShots shots).AfterShots fleet (shotCells shots) := by
  simpa using held.afterShots.processShots shots

/-- What was shot determines all that is on the board. -/
theorem AfterShots.unique {first second : Board} {fleet : Fleet} {shots : Finset Cell}
    (left : first.AfterShots fleet shots) (right : second.AfterShots fleet shots) :
    first = second := by
  have grid : first.grid = second.grid := by
    funext cell
    rw [left.grid cell, right.grid cell]
  have ships : first.ships = second.ships := by
    apply Vector.ext
    intro i bound
    exact (left.ships ⟨i, bound⟩).trans (right.ships ⟨i, bound⟩).symm
  have count : first.shipsCount = second.shipsCount := left.count.trans right.count.symm
  have remaining : first.shipsRemaining = second.shipsRemaining :=
    left.remaining.trans right.remaining.symm
  cases first
  cases second
  simp_all

/-- Neither the order of the shots nor their repetition shows on the board. -/
theorem processShots_eq_of_shotCells {board : Board} (placed : board.HoldsFleet)
    {first second : List Coordinate} (same : shotCells first = shotCells second) :
    board.processShots first = board.processShots second := by
  obtain ⟨fleet, held⟩ := placed.fleet
  have left := held.processShots first
  rw [same] at left
  exact left.unique (held.processShots second)

/-- The books of a board that started with a fleet, after a sequence of shots:
each counter agrees with the grid, and the next call reports what it does. -/
structure ShotAccounts (start after : Board) (shots : List Coordinate) : Prop where
  hits : ∀ i : Fin numShips, (shipAt after.ships i).hits.toNat =
    ((shipAt start.ships i).cells.filter fun cell => after.grid cell = .hit).card
  sunk : ∀ i : Fin numShips, (shipAt after.ships i).isSunk = true ↔
    (shipAt after.ships i).hits = (shipAt after.ships i).length
  remaining : after.shipsRemaining = (Finset.univ.filter fun i : Fin numShips =>
    ∃ cell ∈ (shipAt start.ships i).cells, after.grid cell ≠ .hit).card
  remaining_nonneg : 0 ≤ after.shipsRemaining
  ship_cell : ∀ cell, after.grid cell = .ship ↔
    (∃! i : Fin numShips, cell ∈ (shipAt start.ships i).cells) ∧ cell ∉ shotCells shots
  fleet_cells : (Finset.univ.biUnion fun i : Fin numShips => (shipAt start.ships i).cells).card = 17
  allSunk : after.allShipsSunk = true ↔
    ∀ i : Fin numShips, ∀ cell ∈ (shipAt start.ships i).cells, after.grid cell = .hit
  reports_sunk : ∀ pos, (after.processShot pos).2 = .sunk ↔
    ∃ cell, cellAt? pos.row.toInt pos.col.toInt = some cell ∧ after.grid cell ≠ .hit ∧
      ∃ i : Fin numShips, cell ∈ (shipAt start.ships i).cells ∧
        ∀ other ∈ (shipAt start.ships i).cells, other ≠ cell → after.grid other = .hit
  reports_hit : ∀ pos, (after.processShot pos).2 = .hit ↔
    ∃ cell, cellAt? pos.row.toInt pos.col.toInt = some cell ∧ after.grid cell ≠ .hit ∧
      ∃ i : Fin numShips, cell ∈ (shipAt start.ships i).cells ∧
        ∃ other ∈ (shipAt start.ships i).cells, other ≠ cell ∧ after.grid other ≠ .hit
  unchanged : ∀ pos, (∀ cell, cellAt? pos.row.toInt pos.col.toInt = some cell →
    cell ∈ shotCells shots) → after.processShot pos = (after, .miss)

section Accounts

variable {board : Board} {fleet : Fleet} {shots : Finset Cell}

theorem AfterShots.hit_iff (after : board.AfterShots fleet shots) {i : Fin numShips} {cell : Cell}
    (inside : cell ∈ fleet.family.cells i) : board.grid cell = .hit ↔ cell ∈ shots := by
  rw [after.grid cell, if_pos ⟨i, inside⟩]
  split <;> simp_all

theorem AfterShots.result_eq (after : board.AfterShots fleet shots) (pos : Coordinate) :
    (board.processShot pos).2 = .miss ∨
      ∃ cell, cellAt? pos.row.toInt pos.col.toInt = some cell ∧ cell ∉ shots ∧
        ∃ i, cell ∈ fleet.family.cells i ∧ (board.processShot pos).2 =
          if fleet.family.Sunk (insert cell shots) i then .sunk else .hit := by
  cases addressed : cellAt? pos.row.toInt pos.col.toInt with
  | none => exact Or.inl (by rw [processShot_off_board addressed])
  | some cell =>
      by_cases shot : cell ∈ shots
      · exact Or.inl (by rw [after.processShot_again addressed shot])
      by_cases covered : fleet.family.Covered cell
      · obtain ⟨i, inside⟩ := covered
        exact Or.inr ⟨cell, rfl, shot, i, inside, (after.processShot_ship addressed shot inside).2⟩
      · exact Or.inl (after.processShot_water addressed shot covered).2

theorem AfterShots.last_cell_iff (after : board.AfterShots fleet shots) {i : Fin numShips}
    {cell : Cell} : (∀ other ∈ fleet.family.cells i, other ≠ cell → board.grid other = .hit) ↔
      fleet.family.Sunk (insert cell shots) i := by
  constructor
  · intro rest other inside
    by_cases same : other = cell
    · simp [same]
    · exact Finset.mem_insert_of_mem ((after.hit_iff inside).mp (rest other inside same))
  · intro sunk other inside different
    rw [after.hit_iff inside]
    exact (Finset.mem_insert.mp (sunk inside)).resolve_left different

theorem AfterShots.reports_iff (after : board.AfterShots fleet shots) (pos : Coordinate)
    (result : ShotResult) (reported : result ≠ .miss) :
    (board.processShot pos).2 = result ↔
      ∃ cell, cellAt? pos.row.toInt pos.col.toInt = some cell ∧ board.grid cell ≠ .hit ∧
        ∃ i, cell ∈ fleet.family.cells i ∧
          result = if fleet.family.Sunk (insert cell shots) i then .sunk else .hit := by
  constructor
  · intro same
    rcases after.result_eq pos with missed | ⟨cell, addressed, unshot, i, inside, outcome⟩
    · exact absurd (same.symm.trans missed) reported
    · exact ⟨cell, addressed, (after.hit_iff inside).not.mpr unshot, i, inside,
        same.symm.trans outcome⟩
  · rintro ⟨cell, addressed, unhit, i, inside, rfl⟩
    exact (after.processShot_ship addressed ((after.hit_iff inside).not.mp unhit) inside).2

end Accounts

/-- Over every sequence of shots at a placed fleet the four representations of
the board agree, and every call reports exactly what it changes. -/
theorem processShots_accounts {board : Board} (placed : board.HoldsFleet)
    (shots : List Coordinate) : ShotAccounts board (board.processShots shots) shots := by
  obtain ⟨fleet, held⟩ := placed.fleet
  have start (i : Fin numShips) : (shipAt board.ships i).cells = fleet.family.cells i := by
    rw [held.afterShots.ships i, Fleet.shipAfter_cells]
  have after := held.processShots shots
  constructor
  case hits =>
    intro i
    rw [after.ships i, Fleet.shipAfter_hits, start i, Family.hits]
    congr 1
    ext cell
    simp only [Finset.mem_inter, Finset.mem_filter]
    exact and_congr_right fun inside => (after.hit_iff inside).symm
  case sunk =>
    intro i
    rw [after.ships i, Fleet.hits_eq_length_iff, Fleet.shipAfter, decide_eq_true_iff]
  case remaining =>
    rw [after.remaining]
    congr 2
    ext i
    rw [Family.mem_afloat, Family.Sunk, Finset.not_subset]
    simp only [Finset.mem_filter, Finset.mem_univ, true_and, start i, ne_eq]
    exact exists_congr fun cell => and_congr_right fun inside => (after.hit_iff inside).not.symm
  case remaining_nonneg =>
    rw [after.remaining]
    exact Int.natCast_nonneg _
  case ship_cell =>
    intro cell
    have covered : (∃! i : Fin numShips, cell ∈ (shipAt board.ships i).cells) ↔
        fleet.family.Covered cell := by
      simp only [start]
      refine ⟨ExistsUnique.exists, ?_⟩
      rintro ⟨i, inside⟩
      exact ⟨i, inside, fun j also => Family.owner_unique also inside⟩
    rw [after.grid cell, covered]
    split <;> split <;> simp_all
  case fleet_cells =>
    simp only [start]
    exact fleet.card_covered
  case allSunk =>
    rw [allShipsSunk, decide_eq_true_iff, after.remaining, Int.natCast_eq_zero,
      Finset.card_eq_zero, Family.afloat_empty_iff]
    simp only [start]
    constructor
    · intro all i cell inside
      exact (after.hit_iff inside).mpr (all cell ⟨i, inside⟩)
    · rintro all cell ⟨i, inside⟩
      exact (after.hit_iff inside).mp (all i cell inside)
  case reports_sunk =>
    intro pos
    rw [after.reports_iff pos .sunk (by simp)]
    simp only [start, after.last_cell_iff]
    simp
  case reports_hit =>
    intro pos
    rw [after.reports_iff pos .hit (by simp)]
    have unfinished (i : Fin numShips) (cell : Cell) :
        (∃ other ∈ fleet.family.cells i, other ≠ cell ∧
          (board.processShots shots).grid other ≠ .hit) ↔
          ¬fleet.family.Sunk (insert cell (shotCells shots)) i := by
      rw [← after.last_cell_iff]
      push Not
      rfl
    simp only [start, unfinished]
    simp
  case unchanged =>
    intro pos known
    cases addressed : cellAt? pos.row.toInt pos.col.toInt with
    | none => exact processShot_off_board addressed
    | some cell => exact after.processShot_again addressed (known cell addressed)

end Board

def rowsFleet : Fleet where
  ships := [⟨.carrier, ⟨0, 0⟩, .horizontal⟩, ⟨.battleship, ⟨1, 0⟩, .horizontal⟩,
    ⟨.cruiser, ⟨2, 0⟩, .horizontal⟩, ⟨.submarine, ⟨3, 0⟩, .horizontal⟩,
    ⟨.destroyer, ⟨4, 0⟩, .horizontal⟩]
  oneOfEach := by decide
  listed := by decide
  inBounds := by decide
  disjoint := by decide

def rowsBoard : Board := (Board.new.clearBoard.placeShips rowsFleet.ships).getD Board.new

theorem rowsBoard_holdsFleet : rowsBoard.HoldsFleet := by
  obtain ⟨board, done, _⟩ := Board.placeShips_fleet Board.new rowsFleet
  refine ⟨Board.new, rowsFleet, ?_⟩
  rw [rowsBoard, done]
  rfl

theorem rowsBoard_holds : rowsBoard.Holds rowsFleet.ships := by
  obtain ⟨board, done, held⟩ := Board.placeShips_fleet Board.new rowsFleet
  rw [rowsBoard, done]
  exact held

theorem rowsBoard_shotOrder : rowsBoard.processShots [⟨0, 0⟩, ⟨-1, 12⟩, ⟨9, 9⟩] =
    rowsBoard.processShots [⟨9, 9⟩, ⟨0, 0⟩, ⟨9, 9⟩] :=
  Board.processShots_eq_of_shotCells rowsBoard_holdsFleet (by decide)

theorem rowsBoard_accounts : Board.ShotAccounts rowsBoard
    (rowsBoard.processShots [⟨0, 0⟩, ⟨9, 9⟩, ⟨0, 0⟩, ⟨-1, 12⟩])
    [⟨0, 0⟩, ⟨9, 9⟩, ⟨0, 0⟩, ⟨-1, 12⟩] :=
  Board.processShots_accounts rowsBoard_holdsFleet _

end Battleship
