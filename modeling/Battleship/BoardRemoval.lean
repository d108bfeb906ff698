import Battleship.BoardShots

/-! The placement phase: boards on which ships have been placed, and possibly taken
away again, before the first shot. -/

namespace Battleship

structure Placement.Stored (placement : Placement) : Prop where
  type : ∃ byte : UInt8, placement.type = .ofInt byte.toNat
  orientation : ∃ byte : UInt8, placement.orientation = .ofInt byte.toNat

theorem byte_ofInt_toNat (byte : UInt8) : UInt8.ofInt byte.toNat = byte := by
  have bound := byte.toNat_lt
  have small : ((byte.toNat : Int) % 2 ^ 8).toNat = byte.toNat := by omega
  rw [UInt8.ofInt, small, UInt8.ofNat_toNat]

theorem ShipType.toInt_inj_of_byte {first second : ShipType}
    (left : ∃ byte : UInt8, first = .ofInt byte.toNat)
    (right : ∃ byte : UInt8, second = .ofInt byte.toNat) (same : first.toInt = second.toInt) :
    first = second := by
  obtain ⟨byte, rfl⟩ := left
  obtain ⟨other, rfl⟩ := right
  rw [ShipType.toInt_ofInt, ShipType.toInt_ofInt] at same
  rw [same]

namespace Placement.Stored

variable {placement : Placement} (stored : placement.Stored)

include stored

theorem placedShip_direction :
    (Board.placedShip placement.type placement.pos placement.orientation).direction =
      placement.orientation := by
  obtain ⟨byte, same⟩ := stored.orientation
  simp only [Board.placedShip, Ship.direction, same, Orientation.toInt_ofInt, byte_ofInt_toNat]

theorem placedShip_cells :
    (Board.placedShip placement.type placement.pos placement.orientation).cells =
      placement.cells := by
  rw [Ship.cells, stored.placedShip_direction, Placement.cells]
  simp only [Board.placedShip, getShipLength_byte]

theorem placedShip_type :
    ((Board.placedShip placement.type placement.pos placement.orientation).type.toNat : Int) =
      placement.type.toInt := by
  obtain ⟨byte, same⟩ := stored.type
  simp only [Board.placedShip, same, ShipType.toInt_ofInt, byte_ofInt_toNat]

end Placement.Stored

namespace Board

theorem unmarkShip_eq (pos : Coordinate) (orientation : Orientation) :
    ∀ (indices : List Nat) (grid : Grid), (∀ i ∈ indices, (shipCell? pos orientation i).isSome) →
      ∃ cleared, unmarkShip pos orientation indices grid = some cleared ∧
        ∀ cell, cleared cell =
          if (∃ i ∈ indices, shipCell? pos orientation i = some cell) ∧ grid cell = .ship then .empty
          else grid cell := by
  intro indices
  induction indices with
  | nil => intro grid _; exact ⟨grid, rfl, by simp⟩
  | cons i rest ih =>
      intro grid inside
      obtain ⟨first, at_i⟩ := Option.isSome_iff_exists.mp (inside i (by simp))
      obtain ⟨cleared, done, spec⟩ := ih
        (if grid first = .ship then Function.update grid first .empty else grid)
        (fun j member => inside j (List.mem_cons_of_mem _ member))
      refine ⟨cleared, by simpa only [unmarkShip, at_i] using done, ?_⟩
      intro cell
      rw [spec cell]
      simp only [List.mem_cons, exists_eq_or_imp, at_i, Option.some.injEq]
      by_cases same : first = cell
      · subst same
        by_cases marked : grid first = .ship <;> simp [marked]
      · have kept : (if grid first = .ship then Function.update grid first .empty else grid) cell =
            grid cell := by
          split
          · exact Function.update_of_ne (Ne.symm same) _ _
          · rfl
        simp only [kept, same, false_or]

theorem shiftShips_eq (count : Nat) : ∀ (start : Nat) (ships : Vector Ship numShips),
    start + count < numShips →
      ∃ shifted, shiftShips (List.range' start count) ships = some shifted ∧
        ∀ j, shifted[j]? = if start ≤ j ∧ j < start + count then ships[j + 1]? else ships[j]? := by
  induction count with
  | zero =>
      intro start ships _
      refine ⟨ships, rfl, ?_⟩
      intro j
      rw [if_neg (by omega)]
  | succ count ih =>
      intro start ships room
      have inside : start + 1 < numShips := by omega
      obtain ⟨shifted, done, spec⟩ := ih (start + 1) (ships.set start ships[start + 1]) (by omega)
      refine ⟨shifted, by simpa [List.range'_succ, shiftShips, inside] using done, ?_⟩
      intro j
      rw [spec j]
      by_cases first : j = start
      · subst first
        rw [if_neg (by omega), if_pos (by omega)]
        simp [inside]
      by_cases later : start + 1 ≤ j ∧ j < start + 1 + count
      · rw [if_pos later, if_pos (by omega), Vector.getElem?_set_ne _ (by omega)]
      · rw [if_neg later, if_neg (by omega), Vector.getElem?_set_ne _ (Ne.symm first)]

structure Laid (board : Board) (placements : List Placement) : Prop where
  holds : board.Holds placements
  apart : placements.Pairwise fun first second => Disjoint first.cells second.cells
  inBounds : ∀ placement ∈ placements, placement.InBounds
  stored : ∀ placement ∈ placements, placement.Stored

section Laid

variable {board : Board} {placements before after : List Placement} {placement : Placement}

theorem laid_clearBoard (board : Board) : board.clearBoard.Laid [] where
  holds := holds_clearBoard board
  apart := List.Pairwise.nil
  inBounds := by simp
  stored := by simp

theorem Laid.length_le (laid : board.Laid placements) : placements.length ≤ numShips :=
  laid.holds.count.symm.trans_le board.shipsCount_le

theorem Laid.placeShip (laid : board.Laid placements) (stored : placement.Stored) {next : Board}
    (accepted : board.placeShip placement.type placement.pos placement.orientation =
      some (next, true)) : next.Laid (placements ++ [placement]) := by
  obtain ⟨fits, inBounds, free, room, rfl⟩ := placeShip_accepted accepted
  refine ⟨laid.holds.withShip room, laid.holds.apart_concat free laid.apart, ?_, ?_⟩
  · simpa [or_imp, forall_and] using ⟨laid.inBounds, inBounds⟩
  · simpa [or_imp, forall_and] using ⟨laid.stored, stored⟩

theorem Laid.shipAt (laid : board.Laid placements) (i : Fin numShips)
    (placed : i.val < placements.length) : shipAt board.ships i =
      placedShip placements[i].type placements[i].pos placements[i].orientation :=
  laid.holds.ships i placed

theorem Laid.slot (laid : board.Laid placements) {j : Nat} (placed : j < placements.length) :
    board.ships[j]? = placements[j]?.map fun other =>
      placedShip other.type other.pos other.orientation := by
  have room : j < numShips := placed.trans_le laid.length_le
  have record := laid.holds.ships ⟨j, room⟩ placed
  simp only [Fin.getElem_fin] at record
  simp [room, placed, record]

theorem Laid.alone (laid : board.Laid (before ++ placement :: after)) {cell : Cell}
    (inside : cell ∈ placement.cells) {other : Placement} (member : other ∈ before ++ after) :
    cell ∉ other.cells := by
  obtain ⟨-, tail, cross⟩ := List.pairwise_append.mp laid.apart
  rcases List.mem_append.mp member with early | late
  · exact Finset.disjoint_right.mp (cross other early placement (by simp)) inside
  · exact Finset.disjoint_left.mp ((List.pairwise_cons.mp tail).1 other late) inside

theorem Laid.findType_eq_none (laid : board.Laid placements) {type : ShipType}
    (absent : ∀ other ∈ placements, other.type.toInt ≠ type.toInt) : board.findType type = none := by
  simp only [findType, List.find?_eq_none, List.mem_finRange, true_imp_iff, Bool.and_eq_true,
    decide_eq_true_eq, not_and]
  intro i placed
  rw [laid.holds.count] at placed
  have member : placements[i.val] ∈ placements := List.getElem_mem placed
  rw [laid.shipAt i placed]
  exact fun same => absent _ member ((laid.stored _ member).placedShip_type.symm.trans same)

theorem Laid.findType_eq_some (laid : board.Laid (before ++ placement :: after))
    (absent : ∀ other ∈ before, other.type.toInt ≠ placement.type.toInt)
    (room : before.length < numShips) :
    board.findType placement.type = some ⟨before.length, room⟩ := by
  have count := laid.holds.count
  simp only [List.length_append, List.length_cons] at count
  unfold findType
  rw [List.find?_eq_some_iff_getElem]
  refine ⟨?_, before.length, by simpa using room, by simp, ?_⟩
  · have stored := laid.stored placement (by simp)
    rw [laid.shipAt _ (by simp)]
    simp [count, stored.placedShip_type]
  · intro j earlier
    have member : before[j] ∈ before := List.getElem_mem earlier
    have stored := laid.stored before[j] (List.mem_append_left _ member)
    simp only [List.getElem_finRange, Bool.not_eq_true', ← Bool.not_eq_true, Bool.and_eq_true,
      decide_eq_true_eq, not_and]
    rintro -
    rw [laid.shipAt _ (by simp; omega)]
    simp only [Fin.getElem_fin, Fin.val_cast, List.getElem_append_left earlier]
    rw [stored.placedShip_type]
    exact absent _ member

theorem Laid.unmarkShip (laid : board.Laid (before ++ placement :: after)) :
    ∃ cleared, unmarkShip placement.pos placement.orientation
        (List.range (getShipLength placement.type)) board.grid = some cleared ∧
      ∀ cell, cleared cell =
        if ∃ other ∈ before ++ after, cell ∈ other.cells then .ship else .empty := by
  obtain ⟨cleared, unmarked, grid⟩ := unmarkShip_eq placement.pos placement.orientation
    (List.range (getShipLength placement.type)) board.grid
    (fun i member => laid.inBounds placement (by simp) i (List.mem_range.mp member))
  refine ⟨cleared, unmarked, ?_⟩
  intro cell
  have here : (∃ i ∈ List.range (getShipLength placement.type),
      shipCell? placement.pos placement.orientation i = some cell) ↔ cell ∈ placement.cells := by
    simp only [Placement.cells, mem_cellsOf, List.mem_range]
  rw [grid cell]
  simp only [here]
  by_cases inside : cell ∈ placement.cells
  · have marked : board.grid cell = .ship := by
      rw [laid.holds.grid cell, if_pos ⟨placement, by simp, inside⟩]
    rw [if_pos ⟨inside, marked⟩, if_neg]
    rintro ⟨other, member, also⟩
    exact laid.alone inside member also
  · have same : (∃ other ∈ before ++ placement :: after, cell ∈ other.cells) ↔
        ∃ other ∈ before ++ after, cell ∈ other.cells := by
      simp [inside, or_and_right, exists_or]
    rw [if_neg fun both => inside both.1, laid.holds.grid cell]
    simp only [same]

theorem Laid.shiftShips (laid : board.Laid (before ++ placement :: after)) :
    ∃ shifted, shiftShips (List.range' before.length after.length) board.ships = some shifted ∧
      (∀ j < (before ++ after).length, shifted[j]? = (before ++ after)[j]?.map fun other =>
        placedShip other.type other.pos other.orientation) ∧
      ∀ j, (before ++ after).length ≤ j → shifted[j]? = board.ships[j]? := by
  have few := laid.length_le
  simp only [List.length_append, List.length_cons] at few
  obtain ⟨shifted, moved, ships⟩ := shiftShips_eq after.length before.length board.ships (by omega)
  refine ⟨shifted, moved, ?_, ?_⟩
  · intro j placed
    rw [List.length_append] at placed
    rw [ships j]
    by_cases early : j < before.length
    · rw [if_neg (by omega), laid.slot (by simp; omega), List.getElem?_append_left early,
        List.getElem?_append_left early]
    · have next : j + 1 - before.length = (j - before.length) + 1 := by omega
      rw [if_pos (by omega), laid.slot (by simp; omega), List.getElem?_append_right (by omega),
        List.getElem?_append_right (by omega), next, List.getElem?_cons_succ]
  · intro j beyond
    rw [List.length_append] at beyond
    rw [ships j, if_neg (by omega)]

/-- The board after the ship has been taken away: its cells are free, those behind it
have moved up, and what is behind the last of them is as it was. -/
theorem Laid.removeShip (laid : board.Laid (before ++ placement :: after))
    (absent : ∀ other ∈ before, other.type.toInt ≠ placement.type.toInt) :
    ∃ next, board.removeShip placement.type = some (next, true) ∧ next.Laid (before ++ after) ∧
      ∀ j, (before ++ after).length ≤ j → next.ships[j]? = board.ships[j]? := by
  have count := laid.holds.count
  have few := laid.length_le
  simp only [List.length_append, List.length_cons] at count few
  have room : before.length < numShips := by omega
  have found := laid.findType_eq_some absent room
  have stored := laid.stored placement (by simp)
  have record : Board.shipAt board.ships ⟨before.length, room⟩ =
      placedShip placement.type placement.pos placement.orientation := by
    rw [laid.shipAt _ (by simp)]
    simp
  obtain ⟨cleared, unmarked, grid⟩ := laid.unmarkShip
  obtain ⟨shifted, moved, slots, beyond⟩ := laid.shiftShips
  have between : board.shipsCount - 1 - before.length = after.length := by omega
  have fewer : (before ++ after).Sublist (before ++ placement :: after) :=
    (List.sublist_cons_self placement after).append_left before
  let next : Board := {
    grid := cleared
    ships := shifted
    shipsCount := board.shipsCount - 1
    shipsRemaining := board.shipsRemaining
    shipsCount_le := (Nat.sub_le _ _).trans board.shipsCount_le }
  have holds : next.Holds (before ++ after) := by
    refine ⟨?_, laid.holds.remaining, ?_, grid⟩
    · simp only [next, List.length_append]
      omega
    · intro i placed
      have same := slots i placed
      simp only [Fin.is_lt, Vector.getElem?_eq_getElem, placed, List.getElem?_eq_getElem,
        Option.map_some, Option.some.injEq] at same
      exact same
  refine ⟨next, ?_, ⟨holds, laid.apart.sublist fewer, ?_, ?_⟩, beyond⟩
  · have length : (placedShip placement.type placement.pos placement.orientation).length.toNat =
        getShipLength placement.type := getShipLength_byte _
    have position : (placedShip placement.type placement.pos placement.orientation).position =
        placement.pos := rfl
    simp only [Board.removeShip, found, record, stored.placedShip_direction, length, position,
      unmarked, between, moved]
    rfl
  · exact fun other member => laid.inBounds other (fewer.subset member)
  · exact fun other member => laid.stored other (fewer.subset member)

theorem Laid.placeShips : ∀ {later placements : List Placement} {board next : Board},
    board.Laid placements → (∀ other ∈ later, other.Stored) → board.placeShips later = some next →
      next.Laid (placements ++ later) := by
  intro later
  induction later with
  | nil =>
      intro placements board next laid _ done
      obtain rfl : board = next := by simpa [Board.placeShips] using done
      simpa using laid
  | cons placement rest ih =>
      intro placements board next laid stored done
      rw [Board.placeShips] at done
      split at done
      next middle accepted =>
        have placed := laid.placeShip (stored placement (by simp)) accepted
        simpa using ih placed (fun other member => stored other (List.mem_cons_of_mem _ member)) done
      next => simp at done

theorem placeShips_fits : ∀ {later : List Placement} {board next : Board},
    board.placeShips later = some next → ∀ other ∈ later, Fits other ∧ other.InBounds := by
  intro later
  induction later with
  | nil => simp
  | cons placement rest ih =>
      intro board next done other member
      rw [Board.placeShips] at done
      split at done
      next middle accepted =>
        obtain ⟨fits, inBounds, _⟩ := placeShip_accepted accepted
        rcases List.mem_cons.mp member with rfl | later
        · exact ⟨fits, inBounds⟩
        · exact ih done other later
      next => simp at done

end Laid

structure SamePlaced (first second : Board) : Prop where
  grid : first.grid = second.grid
  shipsCount : first.shipsCount = second.shipsCount
  shipsRemaining : first.shipsRemaining = second.shipsRemaining
  ships : ∀ i : Fin numShips, i.val < first.shipsCount → shipAt first.ships i = shipAt second.ships i

theorem Holds.samePlaced {first second : Board} {placements : List Placement}
    (left : first.Holds placements) (right : second.Holds placements) : first.SamePlaced second where
  grid := by
    funext cell
    rw [left.grid cell, right.grid cell]
  shipsCount := left.count.trans right.count.symm
  shipsRemaining := left.remaining.trans right.remaining.symm
  ships := by
    intro i placed
    rw [left.count] at placed
    exact (left.ships i placed).trans (right.ships i placed).symm

/-- To take a ship away is to never have placed it. -/
theorem removeShip_placeShips {start board : Board} {placements : List Placement}
    (done : start.clearBoard.placeShips placements = some board)
    (distinct : (placements.map Placement.type).Nodup)
    (stored : ∀ placement ∈ placements, placement.Stored) {type : ShipType}
    (byte : ∃ byte : UInt8, type = .ofInt byte.toNat) :
    (type ∈ placements.map Placement.type → ∃ next other,
      board.removeShip type = some (next, true) ∧
      start.clearBoard.placeShips (placements.filter fun placement => placement.type ≠ type) =
        some other ∧ next.SamePlaced other) ∧
    (type ∉ placements.map Placement.type → board.removeShip type = some (board, false)) := by
  have laid : board.Laid placements := by
    simpa using (laid_clearBoard start).placeShips stored done
  have differs {other : Placement} (member : other ∈ placements) (different : other.type ≠ type) :
      other.type.toInt ≠ type.toInt :=
    fun same => different (ShipType.toInt_inj_of_byte (stored other member).type byte same)
  constructor
  · intro listed
    obtain ⟨placement, member, rfl⟩ := List.mem_map.mp listed
    obtain ⟨before, after, rfl⟩ := List.append_of_mem member
    simp only [List.map_append, List.map_cons, List.nodup_append, List.nodup_cons, List.mem_map,
      List.mem_cons, not_exists, not_and] at distinct
    have early (other : Placement) (inBefore : other ∈ before) : other.type ≠ placement.type :=
      distinct.2.2 _ ⟨other, inBefore, rfl⟩ _ (Or.inl rfl)
    have late (other : Placement) (inAfter : other ∈ after) : other.type ≠ placement.type :=
      distinct.2.1.1 other inAfter
    have rest : (before ++ placement :: after).filter (fun other => other.type ≠ placement.type) =
        before ++ after := by
      rw [List.filter_append, List.filter_cons_of_neg (by simp),
        List.filter_eq_self.mpr (by simpa using early), List.filter_eq_self.mpr (by simpa using late)]
    obtain ⟨next, removed, kept, -⟩ := laid.removeShip
      (fun other inBefore => differs (List.mem_append_left _ inBefore) (early other inBefore))
    have fits := placeShips_fits done
    have fewer : (before ++ after).Sublist (before ++ placement :: after) :=
      (List.sublist_cons_self placement after).append_left before
    obtain ⟨other, placed, held⟩ := placeShips_of_disjoint (before ++ after) [] start.clearBoard
      (holds_clearBoard start) kept.length_le (fun other inRest => fits other (fewer.subset inRest))
      kept.apart
    refine ⟨next, other, removed, ?_, kept.holds.samePlaced held⟩
    rw [rest]
    exact placed
  · intro unlisted
    have absent : board.findType type = none := by
      apply laid.findType_eq_none
      intro other member
      exact differs member fun same => unlisted (List.mem_map.mpr ⟨other, member, same⟩)
    simp only [removeShip, absent]

end Board

theorem Fleet.stored (fleet : Fleet) : ∀ placement ∈ fleet.ships, placement.Stored := by
  intro placement member
  exact ⟨⟨_, (ShipType.byte_roundTrip (fleet.type_mem member)).symm⟩,
    ⟨_, (Orientation.byte_roundTrip (fleet.listed placement member)).symm⟩⟩

theorem rowsBoard_removeShip : ∃ board, Board.new.clearBoard.placeShips rowsFleet.ships = some board ∧
    ∃ next other, board.removeShip .cruiser = some (next, true) ∧
      Board.new.clearBoard.placeShips
        (rowsFleet.ships.filter fun placement => placement.type ≠ .cruiser) = some other ∧
      next.SamePlaced other := by
  obtain ⟨board, done, -⟩ := Board.placeShips_fleet Board.new rowsFleet
  exact ⟨board, done, (Board.removeShip_placeShips done (by decide) rowsFleet.stored
    ⟨2, rfl⟩).1 (by decide)⟩

end Battleship
