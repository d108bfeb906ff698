import Battleship.BoardPlacement
import Battleship.Library.Targets
import Mathlib.Algebra.BigOperators.Fin

/-! Complete fleets: the five ships one of each type, inside the grid and
pairwise disjoint, and the board that holds them before the first shot. -/

namespace Battleship

def Ship.cells (ship : Ship) : Finset Cell :=
  cellsOf ship.position ship.direction ship.length.toNat

theorem Orientation.byte_roundTrip {orientation : Orientation} (listed : orientation.Listed) :
    Orientation.ofInt (UInt8.ofInt orientation.toInt).toNat = orientation := by
  rcases listed with rfl | rfl <;> rfl

theorem ShipType.byte_roundTrip {type : ShipType} (listed : type ∈ ShipType.all) :
    ShipType.ofInt (UInt8.ofInt type.toInt).toNat = type := by
  simp only [ShipType.all, List.mem_cons, List.not_mem_nil, or_false] at listed
  rcases listed with rfl | rfl | rfl | rfl | rfl <;> rfl

theorem getShipLength_byte (type : ShipType) :
    (UInt8.ofNat (getShipLength type)).toNat = getShipLength type := by
  have small := getShipLength_le type
  rw [UInt8.toNat_ofNat', Nat.mod_eq_of_lt (by omega)]

theorem placedShip_cells {placement : Placement} (listed : placement.orientation.Listed) :
    (Board.placedShip placement.type placement.pos placement.orientation).cells =
      placement.cells := by
  simp only [Ship.cells, Board.placedShip, Ship.direction, Placement.cells, getShipLength_byte,
    Orientation.byte_roundTrip listed]

theorem fits_of_inBounds {placement : Placement} (sized : 0 < getShipLength placement.type)
    (inBounds : placement.InBounds) : Board.Fits placement := by
  obtain ⟨first, at_first⟩ := Option.isSome_iff_exists.mp (inBounds 0 sized)
  obtain ⟨last, at_last⟩ := Option.isSome_iff_exists.mp
    (inBounds (getShipLength placement.type - 1) (by omega))
  unfold shipCell? at at_first at_last
  rw [cellAt?_eq_some] at at_first at_last
  have rowBound : (last.1 : Nat) < 10 := last.1.isLt
  have colBound : (last.2 : Nat) < 10 := last.2.isLt
  simp only [cellRow, cellCol, ite_self, Int.ofNat_zero, add_zero] at at_first
  simp only [cellRow, cellCol] at at_last
  refine ⟨by omega, by omega, ?_, ?_⟩
  · intro direction
    simp only [direction, if_true] at at_last
    simp only [boardSize]
    omega
  · intro direction
    simp only [direction, if_true] at at_last
    simp only [boardSize]
    omega

structure Fleet where
  ships : List Placement
  oneOfEach : (ships.map Placement.type).Perm ShipType.all
  listed : ∀ placement ∈ ships, placement.orientation.Listed
  inBounds : ∀ placement ∈ ships, placement.InBounds
  disjoint : ships.Pairwise fun first second => Disjoint first.cells second.cells

namespace Fleet

variable (fleet : Fleet)

theorem length_ships : fleet.ships.length = numShips := by
  simpa [ShipType.all] using fleet.oneOfEach.length_eq

theorem type_mem {placement : Placement} (member : placement ∈ fleet.ships) :
    placement.type ∈ ShipType.all :=
  fleet.oneOfEach.subset (List.mem_map_of_mem member)

def ship (i : Fin numShips) : Placement :=
  fleet.ships.get (i.cast fleet.length_ships.symm)

theorem ship_mem (i : Fin numShips) : fleet.ship i ∈ fleet.ships := List.getElem_mem _

theorem card_cells (i : Fin numShips) :
    (fleet.ship i).cells.card = getShipLength (fleet.ship i).type :=
  cellsOf_card (fleet.listed _ (fleet.ship_mem i)) (fleet.inBounds _ (fleet.ship_mem i))

theorem disjoint_cells {i j : Fin numShips} (different : i ≠ j) :
    Disjoint (fleet.ship i).cells (fleet.ship j).cells := by
  have apart := List.pairwise_iff_getElem.mp fleet.disjoint
  rcases Nat.lt_or_gt_of_ne (Fin.val_ne_of_ne different) with below | above
  · exact apart i j _ _ below
  · exact (apart j i _ _ above).symm

def family : Targets.Family Cell (Fin numShips) where
  cells i := (fleet.ship i).cells
  disjoint _ _ different := fleet.disjoint_cells different
  nonempty i := by
    rw [← Finset.card_pos, fleet.card_cells]
    have := getShipLength_of_mem (fleet.type_mem (fleet.ship_mem i))
    omega

theorem exists_ship {placement : Placement} (member : placement ∈ fleet.ships) :
    ∃ i, fleet.ship i = placement := by
  obtain ⟨i, bound, at_i⟩ := List.mem_iff_getElem.mp member
  exact ⟨⟨i, by rwa [fleet.length_ships] at bound⟩, at_i⟩

theorem covered_iff {cell : Cell} :
    fleet.family.Covered cell ↔ ∃ placement ∈ fleet.ships, cell ∈ placement.cells := by
  constructor
  · rintro ⟨i, inside⟩
    exact ⟨_, fleet.ship_mem i, inside⟩
  · rintro ⟨placement, member, inside⟩
    obtain ⟨i, rfl⟩ := fleet.exists_ship member
    exact ⟨i, inside⟩

instance (cell : Cell) : Decidable (fleet.family.Covered cell) :=
  decidable_of_iff _ fleet.covered_iff.symm

theorem card_covered : (Finset.univ.biUnion fleet.family.cells).card = 17 := by
  rw [Finset.card_biUnion (fun i _ j _ different => fleet.family.disjoint i j different)]
  have sizes : ∀ i, (fleet.family.cells i).card = getShipLength (fleet.ship i).type :=
    fleet.card_cells
  simp only [sizes]
  have asList : ∑ i, getShipLength (fleet.ship i).type =
      ((fleet.ships.map Placement.type).map getShipLength).sum := by
    rw [List.map_map, ← List.sum_ofFn]
    congr 1
    apply List.ext_getElem
    · simp [fleet.length_ships]
    · intro i _ _
      rw [List.getElem_ofFn, List.getElem_map]
      rfl
  rw [asList, (fleet.oneOfEach.map getShipLength).sum_eq]
  rfl

end Fleet

namespace Board

def placeShips : Board → List Placement → Option Board
  | board, [] => some board
  | board, placement :: rest =>
      match board.placeShip placement.type placement.pos placement.orientation with
      | some (next, true) => placeShips next rest
      | _ => none

/-- The board holds exactly these ships, unhit, in this slot order. -/
structure Holds (board : Board) (placements : List Placement) : Prop where
  count : board.shipsCount = placements.length
  remaining : board.shipsRemaining = numShips
  ships : ∀ (i : Fin numShips) (placed : i.val < placements.length),
    board.ships[i] = placedShip placements[i].type placements[i].pos placements[i].orientation
  grid : ∀ cell, board.grid cell =
    if ∃ placement ∈ placements, cell ∈ placement.cells then .ship else .empty

theorem holds_clearBoard (board : Board) : board.clearBoard.Holds [] where
  count := rfl
  remaining := rfl
  ships := by intro i impossible; simp at impossible
  grid := by simp [clearBoard]

theorem Holds.withShip {board : Board} {placements : List Placement} {placement : Placement}
    (held : board.Holds placements) (room : board.shipsCount < numShips) :
    (board.withShip placement room).Holds (placements ++ [placement]) where
  count := by simp [Board.withShip, held.count]
  remaining := held.remaining
  ships := by
    intro i placed
    simp only [Board.withShip, Fin.getElem_fin, Vector.getElem_set, held.count]
    simp only [List.length_append, List.length_singleton] at placed
    by_cases last : placements.length = i.val
    · rw [if_pos last, List.getElem_append_right (by omega)]
      simp [last]
    · rw [if_neg last, List.getElem_append_left (by omega)]
      exact held.ships i (by omega)
  grid := by
    intro cell
    have split : (∃ other ∈ placements ++ [placement], cell ∈ other.cells) ↔
        (∃ other ∈ placements, cell ∈ other.cells) ∨ cell ∈ placement.cells := by
      simp [or_and_right, exists_or]
    simp only [Board.withShip, held.grid cell, split]
    by_cases here : cell ∈ placement.cells <;> simp [here]

theorem Holds.free_iff {board : Board} {placements : List Placement} {placement : Placement}
    (held : board.Holds placements) :
    board.Free placement ↔ ∀ other ∈ placements, Disjoint other.cells placement.cells := by
  constructor
  · intro free other member
    rw [Finset.disjoint_left]
    intro cell inOther inside
    have empty := free cell inside
    rw [held.grid cell, if_pos ⟨other, member, inOther⟩] at empty
    cases empty
  · intro apart cell inside
    rw [held.grid cell, if_neg]
    rintro ⟨other, member, inOther⟩
    exact Finset.disjoint_left.mp (apart other member) inOther inside

/-- A ship for which the board is free lies apart from those that are held. -/
theorem Holds.apart_concat {board : Board} {placements : List Placement} {placement : Placement}
    (held : board.Holds placements) (free : board.Free placement)
    (apart : placements.Pairwise fun first second => Disjoint first.cells second.cells) :
    (placements ++ [placement]).Pairwise fun first second =>
      Disjoint first.cells second.cells := by
  rw [List.pairwise_append]
  refine ⟨apart, List.pairwise_singleton _ _, ?_⟩
  intro other member last isLast
  rw [List.mem_singleton.mp isLast]
  exact held.free_iff.mp free other member

theorem placeShips_of_disjoint : ∀ (later placements : List Placement) (board : Board),
    board.Holds placements → (placements ++ later).length ≤ numShips →
    (∀ placement ∈ later, Fits placement ∧ placement.InBounds) →
    (placements ++ later).Pairwise (fun first second => Disjoint first.cells second.cells) →
    ∃ next, board.placeShips later = some next ∧ next.Holds (placements ++ later) := by
  intro later
  induction later with
  | nil => intro placements board held _ _ _; exact ⟨board, rfl, by simpa using held⟩
  | cons placement rest ih =>
      intro placements board held space inside apart
      have room : board.shipsCount < numShips := by
        have := held.count
        simp only [List.length_append, List.length_cons] at space
        omega
      have free : board.Free placement := by
        rw [held.free_iff]
        intro other member
        exact (List.pairwise_append.mp apart).2.2 other member placement (by simp)
      obtain ⟨fits, inBounds⟩ := inside placement (by simp)
      obtain ⟨next, done, result⟩ := ih (placements ++ [placement]) (board.withShip placement room)
        (held.withShip room) (by simpa using space)
        (fun other member => inside other (List.mem_cons_of_mem _ member)) (by simpa using apart)
      refine ⟨next, ?_, by simpa using result⟩
      rw [placeShips, placeShip_eq fits inBounds room, if_pos free]
      exact done

theorem holds_of_placeShips : ∀ (later placements : List Placement) (board next : Board),
    board.Holds placements →
    placements.Pairwise (fun first second => Disjoint first.cells second.cells) →
    board.placeShips later = some next →
    next.Holds (placements ++ later) ∧
      (placements ++ later).Pairwise (fun first second => Disjoint first.cells second.cells) ∧
      ∀ placement ∈ later, placement.InBounds := by
  intro later
  induction later with
  | nil =>
      intro placements board next held apart done
      simp only [placeShips, Option.some.injEq] at done
      subst next
      simpa using ⟨held, apart⟩
  | cons placement rest ih =>
      intro placements board next held apart done
      rw [placeShips] at done
      split at done
      next middle accepted =>
        obtain ⟨fits, inBounds, free, room, rfl⟩ := placeShip_accepted accepted
        have later := ih (placements ++ [placement]) _ next (held.withShip room)
          (held.apart_concat free apart) done
        simp only [List.append_assoc, List.singleton_append] at later
        refine ⟨later.1, later.2.1, ?_⟩
        intro other member
        rcases List.mem_cons.mp member with rfl | inRest
        · exact inBounds
        · exact later.2.2 other inRest
      next => simp at done

def HoldsFleet (board : Board) : Prop :=
  ∃ (start : Board) (fleet : Fleet), start.clearBoard.placeShips fleet.ships = some board

theorem placeShips_fleet (start : Board) (fleet : Fleet) :
    ∃ board, start.clearBoard.placeShips fleet.ships = some board ∧ board.Holds fleet.ships := by
  apply placeShips_of_disjoint fleet.ships [] _ (holds_clearBoard start)
  · simp [fleet.length_ships]
  · intro placement member
    have sized := getShipLength_of_mem (fleet.type_mem member)
    exact ⟨fits_of_inBounds (by omega) (fleet.inBounds placement member),
      fleet.inBounds placement member⟩
  · simpa using fleet.disjoint

theorem HoldsFleet.fleet {board : Board} (placed : board.HoldsFleet) :
    ∃ fleet : Fleet, board.Holds fleet.ships := by
  obtain ⟨start, fleet, done⟩ := placed
  exact ⟨fleet, by simpa using (holds_of_placeShips fleet.ships [] _ board
    (holds_clearBoard start) List.Pairwise.nil done).1⟩

end Board

end Battleship
