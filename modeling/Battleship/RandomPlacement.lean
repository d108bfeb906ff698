import Battleship.PlacementScreen
import Mathlib.Algebra.Order.BigOperators.Group.List
import Mathlib.Algebra.Order.Group.Nat
import Mathlib.Data.Fintype.Prod

/-! What `randomPlacement` leaves on the board, and why none of its loops can be stuck:
the ships of the earlier types cannot meet all the places that are left for the next. -/

namespace Battleship

namespace Board

/-- The boards, with the number of the next draw, on which the loop for a type makes an
attempt. -/
def attempts (rand : Nat → Nat) (type : ShipType) : Nat → Board × Nat → List (Board × Nat)
  | 0, _ => []
  | count + 1, (board, next) =>
      let pos : Coordinate := ⟨.ofNat (rand next % boardSize), .ofNat (rand (next + 1) % boardSize)⟩
      let orient : Orientation := if rand (next + 2) % 2 = 0 then .horizontal else .vertical
      (board, next) ::
        if board.isValidPlacement type pos orient = some false then
          attempts rand type count (board, next + 3)
        else []

def Tries (rand : Nat → Nat) (board : Board) (type : ShipType) (tried : Board) : Prop :=
  ∃ before after drawn, ShipType.all = before ++ type :: after ∧
    before.foldlM (fun drawn type => tryPlacements rand type 1000 drawn) (board.clearBoard, 0) =
      some drawn ∧ tried ∈ (attempts rand type 1000 drawn).map Prod.fst

/-- Ships of the five types in their order, some of which may be missing, apart from each
other on the grid, with nothing else on it. -/
structure IsScattered (board : Board) : Prop where
  types : (board.placedShips.map Ship.shipType).Sublist ShipType.all
  lengths : ∀ ship ∈ board.placedShips, ship.length.toNat = getShipLength ship.shipType
  inBounds : ∀ ship ∈ board.placedShips,
    InBounds ship.position ship.direction ship.length.toNat
  disjoint : board.placedShips.Pairwise fun first second => Disjoint first.cells second.cells
  grid : ∀ cell, board.grid cell =
    if ∃ ship ∈ board.placedShips, cell ∈ ship.cells then .ship else .empty
  full : board.shipsCount = numShips →
    (Finset.univ.filter fun cell => board.grid cell = .ship).card = 17

section Result

variable {board : Board} {placements : List Placement}

theorem Laid.mem_placedShips (laid : board.Laid placements) {ship : Ship} :
    ship ∈ board.placedShips ↔ ∃ placement ∈ placements,
      placedShip placement.type placement.pos placement.orientation = ship := by
  rw [laid.placedShips, List.mem_map]

theorem DrawnFor.types_eq (drawn : DrawnFor ShipType.all placements)
    (full : placements.length = numShips) : placements.map Placement.type = ShipType.all := by
  apply drawn.types.eq_of_length
  rw [List.length_map, full]
  rfl

theorem Laid.card_of_full (laid : board.Laid placements) (drawn : DrawnFor ShipType.all placements)
    (full : placements.length = numShips) :
    (Finset.univ.filter fun cell => board.grid cell = .ship).card = 17 := by
  let fleet : Fleet := {
    ships := placements
    oneOfEach := by rw [drawn.types_eq full]
    listed := drawn.listed
    inBounds := laid.inBounds
    disjoint := laid.apart }
  have cells : (Finset.univ.filter fun cell => board.grid cell = .ship) =
      Finset.univ.biUnion fleet.family.cells := by
    ext cell
    have covered : (∃ i, cell ∈ fleet.family.cells i) ↔
        ∃ placement ∈ placements, cell ∈ placement.cells := fleet.covered_iff
    simp only [Finset.mem_filter, Finset.mem_univ, true_and, Finset.mem_biUnion, covered,
      laid.holds.grid cell]
    split
    next inside => exact iff_of_true rfl inside
    next outside => exact iff_of_false (by simp) outside
  rw [cells]
  exact fleet.card_covered

theorem Laid.isScattered (laid : board.Laid placements)
    (drawn : DrawnFor ShipType.all placements) : board.IsScattered where
  types := by
    rw [laid.map_shipType]
    exact drawn.types
  lengths := by
    intro ship member
    obtain ⟨placement, inside, rfl⟩ := laid.mem_placedShips.mp member
    rw [placedShip_shipType (laid.stored placement inside)]
    exact getShipLength_byte _
  inBounds := by
    intro ship member
    obtain ⟨placement, inside, rfl⟩ := laid.mem_placedShips.mp member
    rw [(laid.stored placement inside).placedShip_direction]
    have length : (placedShip placement.type placement.pos placement.orientation).length.toNat =
        getShipLength placement.type := getShipLength_byte _
    rw [length]
    exact laid.inBounds placement inside
  disjoint := by
    rw [laid.placedShips, List.pairwise_map]
    refine laid.apart.imp_of_mem ?_
    intro first second inFirst inSecond apart
    rwa [(laid.stored first inFirst).placedShip_cells, (laid.stored second inSecond).placedShip_cells]
  grid := by
    intro cell
    have same : (∃ ship ∈ board.placedShips, cell ∈ ship.cells) ↔
        ∃ placement ∈ placements, cell ∈ placement.cells := by
      constructor
      · rintro ⟨ship, member, inside⟩
        obtain ⟨placement, placed, rfl⟩ := laid.mem_placedShips.mp member
        rw [(laid.stored placement placed).placedShip_cells] at inside
        exact ⟨placement, placed, inside⟩
      · rintro ⟨placement, placed, inside⟩
        rw [← (laid.stored placement placed).placedShip_cells] at inside
        exact ⟨_, laid.mem_placedShips.mpr ⟨placement, placed, rfl⟩, inside⟩
    simp only [same]
    exact laid.holds.grid cell
  full := by
    intro full
    rw [laid.holds.count] at full
    exact laid.card_of_full drawn full

end Result

section Room

def piece (type : ShipType) (row : Fin boardSize) (k : Nat) : Placement where
  type := type
  pos := ⟨.ofNat row, .ofNat (k * getShipLength type)⟩
  orientation := .horizontal

variable {board : Board} {placements : List Placement} {type : ShipType} {row : Fin boardSize}
  {k : Nat}

theorem piece_end (inRow : k < boardSize / getShipLength type) :
    k * getShipLength type + getShipLength type ≤ boardSize := by
  calc k * getShipLength type + getShipLength type = (k + 1) * getShipLength type :=
        (Nat.add_one_mul k _).symm
    _ ≤ boardSize / getShipLength type * getShipLength type := Nat.mul_le_mul_right _ inRow
    _ ≤ boardSize := Nat.div_mul_le_self _ _

theorem piece_shipCell? (inRow : k < boardSize / getShipLength type) {i : Nat} {cell : Cell}
    (bound : i < getShipLength type) :
    shipCell? (piece type row k).pos (piece type row k).orientation i = some cell ↔
      cell.1 = row ∧ (cell.2 : Nat) = k * getShipLength type + i := by
  have inside := piece_end inRow
  have rowBound := row.isLt
  simp only [boardSize] at inside rowBound
  have atRow : ((piece type row k).pos.row).toInt = (row : Nat) :=
    Int8.toInt_ofNat_of_lt (by omega)
  have atCol : ((piece type row k).pos.col).toInt = (k * getShipLength type : Nat) :=
    Int8.toInt_ofNat_of_lt (by omega)
  have across : (piece type row k).orientation = .horizontal := rfl
  rw [shipCell?, cellAt?_eq_some, cellRow, cellCol, atRow, atCol, across]
  simp only [reduceCtorEq, if_false, if_true, Fin.ext_iff]
  omega

theorem piece_inBounds (inRow : k < boardSize / getShipLength type) :
    (piece type row k).InBounds := by
  intro i bound
  have inside := piece_end inRow
  have small : k * getShipLength type + i < boardSize := by
    have : i < getShipLength type := bound
    omega
  let cell : Cell := (row, ⟨k * getShipLength type + i, small⟩)
  have found : shipCell? (piece type row k).pos (piece type row k).orientation i = some cell :=
    (piece_shipCell? inRow bound).mpr ⟨rfl, rfl⟩
  exact Option.isSome_iff_exists.mpr ⟨cell, found⟩

theorem mem_piece_cells (inRow : k < boardSize / getShipLength type) {cell : Cell} :
    cell ∈ (piece type row k).cells ↔ cell.1 = row ∧ k * getShipLength type ≤ cell.2 ∧
      (cell.2 : Nat) < k * getShipLength type + getShipLength type := by
  rw [Placement.cells, mem_cellsOf]
  constructor
  · rintro ⟨i, bound, found⟩
    have length : i < getShipLength type := bound
    obtain ⟨same, col⟩ := (piece_shipCell? inRow bound).mp found
    exact ⟨same, by omega, by omega⟩
  · rintro ⟨same, low, high⟩
    have bound : (cell.2 : Nat) - k * getShipLength type < getShipLength type := by omega
    exact ⟨_, bound, (piece_shipCell? inRow bound).mpr ⟨same, by omega⟩⟩

def pieces (sized : 0 < getShipLength type) :
    Targets.Family Cell (Fin boardSize × Fin (boardSize / getShipLength type)) where
  cells index := (piece type index.1 index.2).cells
  disjoint := by
    intro first second different
    rw [Finset.disjoint_left]
    intro cell inFirst inSecond
    obtain ⟨row, low, high⟩ := (mem_piece_cells first.2.isLt).mp inFirst
    obtain ⟨sameRow, lowAlso, highAlso⟩ := (mem_piece_cells second.2.isLt).mp inSecond
    refine different (Prod.ext (row.symm.trans sameRow) (Fin.ext ?_))
    have above : (first.2 : Nat) < second.2 + 1 := by
      apply Nat.lt_of_mul_lt_mul_right (a := getShipLength type)
      rw [Nat.add_one_mul]
      omega
    have below : (second.2 : Nat) < first.2 + 1 := by
      apply Nat.lt_of_mul_lt_mul_right (a := getShipLength type)
      rw [Nat.add_one_mul]
      omega
    omega
  nonempty := by
    intro index
    have inside := piece_end index.2.isLt
    have small : (index.2 : Nat) * getShipLength type < boardSize := by omega
    exact ⟨(index.1, ⟨_, small⟩),
      (mem_piece_cells index.2.isLt).mpr ⟨rfl, Nat.le_refl _, Nat.lt_add_of_pos_right sized⟩⟩

theorem card_marked_le (placements : List Placement) :
    (Finset.univ.filter fun cell => ∃ placement ∈ placements, cell ∈ placement.cells).card ≤
      ((placements.map Placement.type).map getShipLength).sum := by
  refine (Placement.card_covered_le placements).trans ?_
  rw [List.map_map]
  exact List.sum_le_sum fun placement _ => cellsOf_card_le _ _ _

/-- The ships of the earlier types have fewer cells than there are pieces. -/
theorem earlier_lengths {before after : List ShipType}
    (split : ShipType.all = before ++ type :: after) :
    (before.map getShipLength).sum < boardSize * (boardSize / getShipLength type) := by
  have lengths : before.length < numShips := by
    have total := congrArg List.length split
    simp only [ShipType.all, List.length_cons, List.length_nil, List.length_append] at total
    simp only [numShips]
    omega
  have front : before = ShipType.all.take before.length := by simp [split]
  have here : ShipType.all[before.length]? = some type := by simp [split]
  have table : ∀ i : Fin numShips, ∀ other ∈ ShipType.all[i.val]?,
      ((ShipType.all.take i).map getShipLength).sum <
        boardSize * (boardSize / getShipLength other) := by
    decide
  rw [front]
  exact table ⟨before.length, lengths⟩ type here

theorem Laid.exists_place (laid : board.Laid placements) {before after : List ShipType}
    (split : ShipType.all = before ++ type :: after) (drawn : DrawnFor before placements) :
    ∃ row col : Fin boardSize, ∃ orientation : Orientation, orientation.Listed ∧
      board.isValidPlacement type ⟨.ofNat row, .ofNat col⟩ orientation = some true := by
  have sized : 0 < getShipLength type := by
    have listed : type ∈ ShipType.all := by rw [split]; simp
    have := getShipLength_of_mem listed
    omega
  have few : (Finset.univ.filter fun cell =>
      ∃ placement ∈ placements, cell ∈ placement.cells).card <
        Fintype.card (Fin boardSize × Fin (boardSize / getShipLength type)) := by
    calc _ ≤ ((placements.map Placement.type).map getShipLength).sum := card_marked_le placements
      _ ≤ (before.map getShipLength).sum := (drawn.types.map getShipLength).sum_le_sum (by simp)
      _ < boardSize * (boardSize / getShipLength type) := earlier_lengths split
      _ = _ := by simp
  obtain ⟨⟨row, k⟩, apart⟩ := (pieces sized).exists_disjoint few
  have inBounds : (piece type row k).InBounds := piece_inBounds k.isLt
  have inRow : (k : Nat) * getShipLength type < boardSize := by
    have := piece_end k.isLt
    omega
  refine ⟨row, ⟨_, inRow⟩, .horizontal, Or.inl rfl, ?_⟩
  have free : board.Free (piece type row k) := by
    intro cell inside
    rw [laid.holds.grid cell, if_neg]
    intro marked
    exact Finset.disjoint_left.mp apart inside (by simpa using marked)
  have valid : board.isValidPlacement _ _ _ = _ :=
    isValidPlacement_eq (fits_of_inBounds sized inBounds) inBounds
  rw [decide_eq_true free] at valid
  exact valid

theorem attempts_board {rand : Nat → Nat} : ∀ {count : Nat} {board tried : Board} {next : Nat},
    tried ∈ (attempts rand type count (board, next)).map Prod.fst → tried = board := by
  intro count
  induction count with
  | zero => simp [attempts]
  | succ count ih =>
      intro board tried next member
      rw [attempts, List.map_cons, List.mem_cons, apply_ite (List.map Prod.fst), List.map_nil,
        List.mem_ite_nil_right] at member
      rcases member with same | ⟨-, later⟩
      · exact same
      · exact ih later

end Room

/-- Whatever `rand` returns, the ships come to lie in order and apart from each other, and
at every attempt there is a place that would be accepted. -/
theorem randomPlacement_scatters (rand : Nat → Nat) (board : Board) :
    (∃ next, board.randomPlacement rand = some next ∧ next.IsScattered) ∧
      ∀ type tried, board.Tries rand type tried →
        ∃ row col : Fin boardSize, ∃ orientation : Orientation, orientation.Listed ∧
          tried.isValidPlacement type ⟨.ofNat row, .ofNat col⟩ orientation = some true := by
  constructor
  · obtain ⟨next, placements, done, tidy, drawn⟩ := randomPlacement_tidy rand board
    exact ⟨next, done, tidy.laid.isScattered drawn⟩
  · rintro type tried ⟨before, after, ⟨reached, draws⟩, split, done, member⟩
    have total := congrArg List.length split
    simp only [ShipType.all, List.length_cons, List.length_nil, List.length_append] at total
    obtain ⟨drawn, placements, same, tidy, given⟩ := Tidy.foldlM_tryPlacements rand before
      (fun other inside => by rw [split]; simp [inside]) [] board.clearBoard 0
      (tidy_clearBoard board) (by simp only [List.length_nil, numShips]; omega)
    obtain rfl := Option.some.inj (same.symm.trans done)
    obtain rfl := attempts_board member
    exact Laid.exists_place tidy.laid split given

end Board

end Battleship
