import Battleship.BoardShots
import Battleship.PlacementCore
import Mathlib.Algebra.Order.BigOperators.Group.List

/-! What the validation of a ship placement guarantees about the board that is
loaded from it: the five ships are there exactly when the placement also keeps
them apart and gives each a listed orientation, which the validation omits. -/

namespace Battleship

open Decimal (Text write stoi getline tokens)

namespace Seen

def has (seen : Seen) : ShipType → Bool
  | .carrier => seen.hasCarrier
  | .battleship => seen.hasBattleship
  | .cruiser => seen.hasCruiser
  | .submarine => seen.hasSubmarine
  | .destroyer => seen.hasDestroyer
  | .unlisted _ => false

theorem mark_eq_some {seen next : Seen} {type : ShipType} (marked : seen.mark type = some next) :
    type ∈ ShipType.all ∧ next.shipCount = seen.shipCount ∧
      ∀ other, next.has other = true ↔ seen.has other = true ∨ other = type := by
  cases type with
  | unlisted value => simp [mark] at marked
  | _ =>
      simp only [mark, Option.some.injEq] at marked
      subst marked
      refine ⟨by simp [ShipType.all], rfl, ?_⟩
      intro other
      cases other <;> simp [has]

end Seen

structure ShipAccepted (ship : Ship) : Prop where
  type : ship.shipType ∈ ShipType.all
  length : ship.length.toNat = getShipLength ship.shipType
  row : 0 ≤ ship.position.row.toInt ∧ ship.position.row.toInt < boardSize
  col : 0 ≤ ship.position.col.toInt ∧ ship.position.col.toInt < boardSize
  right : ship.direction = .horizontal → ship.position.col.toInt + ship.length.toNat ≤ boardSize
  bottom : ship.direction ≠ .horizontal → ship.position.row.toInt + ship.length.toNat ≤ boardSize

theorem checkShip_eq_some {seen next : Seen} {ship : Ship} (sized : 0 < ship.length)
    (passed : checkShip seen ship = some next) :
    ShipAccepted ship ∧ next.shipCount = seen.shipCount + 1 ∧
      ∀ type, next.has type = true ↔ seen.has type = true ∨ type = ship.shipType := by
  unfold checkShip at passed
  rw [if_pos sized] at passed
  split at passed
  · simp at passed
  next marked accepted =>
    obtain ⟨listed, count, flags⟩ := Seen.mark_eq_some accepted
    have sameFlags : ∀ type, ({ seen with shipCount := seen.shipCount + 1 } : Seen).has type =
        seen.has type := by
      intro type
      cases type <;> rfl
    simp only [sameFlags] at flags
    split at passed
    · simp at passed
    next length =>
      split at passed
      · simp at passed
      next position =>
        split at passed
        next direction =>
          split at passed
          · simp at passed
          next fits =>
            simp only [Option.some.injEq] at passed
            subst passed
            refine ⟨⟨listed, not_not.mp length, by omega, by omega, fun _ => by omega, ?_⟩, count,
              flags⟩
            exact fun other => absurd direction other
        next direction =>
          split at passed
          · simp at passed
          next fits =>
            simp only [Option.some.injEq] at passed
            subst passed
            refine ⟨⟨listed, not_not.mp length, by omega, by omega, ?_, fun _ => by omega⟩, count,
              flags⟩
            exact fun other => absurd other direction

theorem foldlM_checkShip : ∀ {ships : List Ship} {seen final : Seen},
    ships.foldlM checkShip seen = some final →
    (∀ ship ∈ ships, 0 < ship.length → ShipAccepted ship) ∧
      final.shipCount = seen.shipCount + ships.countP (fun ship => 0 < ship.length) ∧
      ∀ type, final.has type = true ↔
        seen.has type = true ∨ ∃ ship ∈ ships, 0 < ship.length ∧ type = ship.shipType := by
  intro ships
  induction ships with
  | nil =>
      intro seen final done
      simp only [List.foldlM_nil, Option.pure_def, Option.some.injEq] at done
      subst done
      simp
  | cons ship rest ih =>
      intro seen final done
      rw [List.foldlM_cons] at done
      obtain ⟨next, passed, later⟩ := Option.bind_eq_some_iff.mp done
      obtain ⟨accepted, count, flags⟩ := ih later
      by_cases sized : 0 < ship.length
      · obtain ⟨fine, counted, marked⟩ := checkShip_eq_some sized passed
        refine ⟨?_, ?_, ?_⟩
        · intro other member
          rcases List.mem_cons.mp member with rfl | inRest
          · exact fun _ => fine
          · exact accepted other inRest
        · rw [count, counted, List.countP_cons_of_pos (by simpa using sized)]
          omega
        · intro type
          rw [flags, marked]
          simp only [List.exists_mem_cons_iff, sized, true_and, or_assoc]
      · simp only [checkShip, if_neg sized, Option.some.injEq] at passed
        subst passed
        refine ⟨?_, ?_, ?_⟩
        · intro other member
          rcases List.mem_cons.mp member with rfl | inRest
          · exact fun positive => absurd positive sized
          · exact accepted other inRest
        · rw [count, List.countP_cons_of_neg (by simpa using sized)]
        · intro type
          rw [flags]
          simp only [List.exists_mem_cons_iff, sized, false_and, false_or]

def Ship.placement (ship : Ship) : Placement := ⟨ship.shipType, ship.position, ship.direction⟩

theorem validateShipPlacement_accepted {ships : Vector Ship numShips}
    (accepted : validateShipPlacement ships = true) :
    (∀ ship ∈ ships.toList, ShipAccepted ship) ∧
      ((ships.toList.map Ship.placement).map Placement.type).Perm ShipType.all := by
  unfold validateShipPlacement at accepted
  split at accepted
  · simp at accepted
  next final done =>
    obtain ⟨fine, count, flags⟩ := foldlM_checkShip done
    simp only [Bool.and_eq_true, beq_iff_eq] at accepted
    obtain ⟨⟨⟨⟨⟨five, carrier⟩, battleship⟩, cruiser⟩, submarine⟩, destroyer⟩ := accepted
    have sized : ∀ ship ∈ ships.toList, 0 < ship.length := by
      have all : ships.toList.countP (fun ship => 0 < ship.length) = ships.toList.length := by
        rw [five] at count
        simpa [Seen.start] using count.symm
      simpa using List.countP_eq_length.mp all
    refine ⟨fun ship member => fine ship member (sized ship member), ?_⟩
    have listed : ShipType.all ⊆ (ships.toList.map Ship.placement).map Placement.type := by
      intro type member
      have flagged : final.has type = true := by
        simp only [ShipType.all, List.mem_cons, List.not_mem_nil, or_false] at member
        rcases member with rfl | rfl | rfl | rfl | rfl <;> assumption
      rcases (flags type).mp flagged with early | ⟨ship, inShips, _, same⟩
      · cases type <;> simp [Seen.has, Seen.start] at early
      · simp only [List.map_map, List.mem_map, Function.comp_apply]
        exact ⟨ship, inShips, same.symm⟩
    have distinct : ShipType.all.Nodup := by decide
    have within := List.subperm_of_subset distinct listed
    exact (within.perm_of_length_le (by simp [ShipType.all])).symm

theorem ShipAccepted.cells {ship : Ship} (accepted : ShipAccepted ship) :
    ship.cells = ship.placement.cells := by
  rw [Ship.cells, accepted.length]
  rfl

theorem ShipAccepted.fits {ship : Ship} (accepted : ShipAccepted ship) :
    Board.Fits ship.placement := by
  refine ⟨accepted.row.1, accepted.col.1, ?_, ?_⟩
  · intro direction
    have right := accepted.right direction
    rwa [accepted.length] at right
  · intro direction
    have bottom := accepted.bottom (by rw [show ship.direction = .vertical from direction]; decide)
    rwa [accepted.length] at bottom

theorem ShipAccepted.inBounds {ship : Ship} (accepted : ShipAccepted ship) :
    ship.placement.InBounds := by
  intro i bound
  have length := accepted.length
  have rowOk := accepted.row
  have colOk := accepted.col
  simp only [Ship.placement] at bound ⊢
  by_cases horizontal : ship.direction = .horizontal
  · have right := accepted.right horizontal
    apply cellAt?_isSome <;> simp only [cellRow, cellCol, horizontal, reduceCtorEq, if_true, if_false]
      <;> omega
  · have bottom := accepted.bottom horizontal
    apply cellAt?_isSome <;> simp only [cellRow, cellCol, horizontal, if_false]
    · split <;> omega
    · omega

namespace Board

def loadPlacements : Board → List Placement → Option Board
  | board, [] => some board
  | board, placement :: rest =>
      match board.placeShip placement.type placement.pos placement.orientation with
      | none => none
      | some (next, _) => loadPlacements next rest

/-- Loading drops the ships that overlap an earlier one and keeps the rest, in order. -/
theorem loadPlacements_kept : ∀ (later placements : List Placement) (board : Board),
    board.Holds placements → (placements ++ later).length ≤ numShips →
    (∀ placement ∈ later, Fits placement ∧ placement.InBounds) →
    placements.Pairwise (fun first second => Disjoint first.cells second.cells) →
    ∃ next kept, board.loadPlacements later = some next ∧ kept.Sublist later ∧
      next.Holds (placements ++ kept) ∧
      (placements ++ kept).Pairwise (fun first second => Disjoint first.cells second.cells) ∧
      ((placements ++ later).Pairwise (fun first second => Disjoint first.cells second.cells) →
        kept = later) := by
  intro later
  induction later with
  | nil =>
      intro placements board held _ _ apart
      exact ⟨board, [], rfl, List.Sublist.refl _, by simpa using held, by simpa using apart,
        fun _ => rfl⟩
  | cons placement rest ih =>
      intro placements board held space inside apart
      have room : board.shipsCount < numShips := by
        have := held.count
        simp only [List.length_append, List.length_cons] at space
        omega
      obtain ⟨fits, inBounds⟩ := inside placement (by simp)
      have inRest : ∀ other ∈ rest, Fits other ∧ other.InBounds :=
        fun other member => inside other (List.mem_cons_of_mem _ member)
      have placed := placeShip_eq fits inBounds room
      by_cases free : board.Free placement
      · rw [if_pos free] at placed
        obtain ⟨next, kept, done, sub, holds, keptApart, whole⟩ := ih (placements ++ [placement])
          (board.withShip placement room) (held.withShip room) (by simpa using space) inRest
          (held.apart_concat free apart)
        refine ⟨next, placement :: kept, ?_, sub.cons_cons placement, by simpa using holds,
          by simpa using keptApart, ?_⟩
        · rw [loadPlacements, placed]
          exact done
        · intro all
          rw [whole (by simpa using all)]
      · rw [if_neg free] at placed
        obtain ⟨next, kept, done, sub, holds, keptApart, _⟩ := ih placements board held
          (by simp only [List.length_append, List.length_cons] at space ⊢; omega) inRest apart
        refine ⟨next, kept, ?_, sub.cons placement, holds, keptApart, ?_⟩
        · rw [loadPlacements, placed]
          exact done
        · intro all
          refine absurd ?_ free
          rw [held.free_iff]
          intro other member
          exact (List.pairwise_append.mp all).2.2 other member placement (by simp)

end Board

theorem separator_not_mem_shipText (ship : Ship) : ';' ∉ shipText ship := by
  have absent (value : Int) : ';' ∉ write value := Decimal.not_mem_write (by decide) (by decide)
  simp [shipText, absent]

theorem readToken_shipText (ship : Ship) : readToken (shipText ship) =
    some (.fields ship.type.toNat ship.orientation.toNat ship.position.row.toInt
      ship.position.col.toInt) := by
  have absent (value : Int) : ',' ∉ write value := Decimal.not_mem_write (by decide) (by decide)
  have byteRead (byte : UInt8) : stoi (write byte.toNat) = some (byte.toNat : Int) :=
    Decimal.stoi_write (by omega) (by have := byte.toNat_lt; omega)
  have coordRead (coord : Int8) : stoi (write coord.toInt) = some coord.toInt := by
    have low := coord.le_toInt
    have high := coord.toInt_lt
    exact Decimal.stoi_write (by omega) (by omega)
  simp only [readToken, shipText, Decimal.getline_append _ (absent _),
    Decimal.getline_last (Decimal.write_ne_nil _) (absent _), byteRead, coordRead]
  rfl

theorem tokens_shipText (ships : List Ship) :
    tokens ';' (ships.flatMap fun ship => shipText ship ++ [';']) = ships.map shipText := by
  rw [← Decimal.tokens_flatMap ';' (ships.map shipText), List.flatMap_map]
  intro part member
  obtain ⟨ship, _, rfl⟩ := List.mem_map.mp member
  exact separator_not_mem_shipText ship

theorem loadToken_shipText (board : Board) (ship : Ship) : loadToken board (shipText ship) =
    (board.placeShip ship.placement.type ship.placement.pos ship.placement.orientation).map
      Prod.fst := by
  have nonempty : shipText ship ≠ [] := by simp [shipText]
  rw [loadToken, if_neg nonempty, readToken_shipText]
  simp only [Int8.ofInt_toInt]
  rfl

theorem loadShips_encodeShips (board : Board) (ships : Vector Ship numShips) :
    loadShips board (encodeShips ships) =
      board.clearBoard.loadPlacements (ships.toList.map Ship.placement) := by
  have nonempty : encodeShips ships ≠ [] := by
    have first : ships[0] ∈ ships.toList := by simp
    intro empty
    have blank := List.flatMap_eq_nil_iff.mp empty _ first
    simp at blank
  rw [loadShips, if_neg nonempty, encodeShips, tokens_shipText]
  generalize board.clearBoard = start
  induction ships.toList generalizing start with
  | nil => rfl
  | cons ship rest ih =>
      simp only [List.map_cons, List.foldlM_cons, loadToken_shipText, Board.loadPlacements]
      cases start.placeShip ship.placement.type ship.placement.pos ship.placement.orientation with
      | none => rfl
      | some placed => exact ih placed.1

noncomputable def everyShot : List Coordinate :=
  (Finset.univ : Finset Cell).toList.map fun cell =>
    ⟨Int8.ofNat cell.1, Int8.ofNat cell.2⟩

theorem mem_shotCells_everyShot (cell : Cell) : cell ∈ Board.shotCells everyShot := by
  rw [Board.mem_shotCells]
  refine ⟨_, List.mem_map_of_mem (Finset.mem_toList.mpr (Finset.mem_univ cell)), ?_⟩
  have narrow : ∀ i : Fin 10, (Int8.ofNat i).toInt = (i : Nat) := by decide
  simp only [narrow]
  exact cellAt?_cell cell

namespace Board

structure FleetLoaded (board : Board) : Prop where
  count : board.shipsCount = numShips
  oneOfEach : ∀ type ∈ ShipType.all, ∃! i : Fin numShips, (shipAt board.ships i).shipType = type
  cells : (Finset.univ.filter fun cell => board.grid cell = .ship).card = 17
  sinkable : ∃ shots, (board.processShots shots).allShipsSunk = true

theorem Holds.fleetLoaded {board : Board} {fleet : Fleet} (held : board.Holds fleet.ships) :
    board.FleetLoaded where
  count := held.count.trans fleet.length_ships
  oneOfEach := by
    have types (i : Fin numShips) : (shipAt board.ships i).shipType = (fleet.ship i).type := by
      rw [shipAt, held.ships i (by rw [fleet.length_ships]; exact i.isLt)]
      exact ShipType.byte_roundTrip (fleet.type_mem (fleet.ship_mem i))
    have distinct : (fleet.ships.map Placement.type).Nodup :=
      (fleet.oneOfEach.nodup_iff).mpr (by decide)
    intro type member
    obtain ⟨placement, inFleet, rfl⟩ := List.mem_map.mp (fleet.oneOfEach.symm.subset member)
    obtain ⟨i, rfl⟩ := fleet.exists_ship inFleet
    refine ⟨i, types i, ?_⟩
    intro j same
    rw [types j] at same
    have inJ : j.val < (fleet.ships.map Placement.type).length := by
      rw [List.length_map, fleet.length_ships]
      exact j.isLt
    have inI : i.val < (fleet.ships.map Placement.type).length := by
      rw [List.length_map, fleet.length_ships]
      exact i.isLt
    apply Fin.ext
    have typed : (fleet.ships.map Placement.type)[j.val] = (fleet.ships.map Placement.type)[i.val] := by
      rw [List.getElem_map, List.getElem_map]
      exact same
    exact distinct.getElem_inj_iff.mp typed
  cells := by
    rw [← fleet.card_covered]
    congr 1
    ext cell
    simp only [Finset.mem_filter, Finset.mem_univ, true_and, Finset.mem_biUnion, held.grid cell]
    have covered : fleet.family.Covered cell ↔ _ := fleet.covered_iff
    unfold Targets.Family.Covered at covered
    rw [covered]
    split <;> simp_all
  sinkable := by
    refine ⟨everyShot, ?_⟩
    have after := held.processShots everyShot
    rw [allShipsSunk, decide_eq_true_iff, after.remaining, Int.natCast_eq_zero,
      Finset.card_eq_zero, Targets.Family.afloat_empty_iff]
    exact fun cell _ => mem_shotCells_everyShot cell

theorem Holds.listed {board : Board} {placements : List Placement} (held : board.Holds placements)
    (oneOfEach : (placements.map Placement.type).Perm ShipType.all)
    (cells : (Finset.univ.filter fun cell => board.grid cell = .ship).card = 17) :
    ∀ placement ∈ placements, placement.orientation.Listed := by
  intro placement member
  by_contra unlisted
  have sized : 2 ≤ getShipLength placement.type :=
    getShipLength_of_mem (oneOfEach.subset (List.mem_map_of_mem member))
  have short := cellsOf_card_le_one placement.pos (getShipLength placement.type) unlisted
  have marked : (Finset.univ.filter fun cell => board.grid cell = .ship) =
      Finset.univ.filter fun cell => ∃ other ∈ placements, cell ∈ other.cells := by
    ext cell
    simp only [Finset.mem_filter, Finset.mem_univ, true_and, held.grid cell]
    split <;> simp_all
  have bound := Placement.card_covered_le placements
  rw [← marked, cells] at bound
  have less : (placements.map fun other => other.cells.card).sum <
      (placements.map fun other => getShipLength other.type).sum := by
    apply List.sum_lt_sum
    · exact fun other _ => cellsOf_card_le _ _ _
    · exact ⟨placement, member, lt_of_le_of_lt short (by omega)⟩
  have total : (placements.map fun other => getShipLength other.type).sum = 17 := by
    have sums := (oneOfEach.map getShipLength).sum_eq
    rw [List.map_map] at sums
    exact sums
  omega

end Board

structure Apart (ships : Vector Ship numShips) : Prop where
  listed : ∀ i : Fin numShips, (Board.shipAt ships i).direction.Listed
  disjoint : ∀ i j : Fin numShips, i < j →
    Disjoint (Board.shipAt ships i).cells (Board.shipAt ships j).cells

instance (ships : Vector Ship numShips) : Decidable (Apart ships) :=
  decidable_of_iff ((∀ i : Fin numShips, (Board.shipAt ships i).direction.Listed) ∧
    ∀ i j : Fin numShips, i < j →
      Disjoint (Board.shipAt ships i).cells (Board.shipAt ships j).cells)
    ⟨fun both => ⟨both.1, both.2⟩, fun apart => ⟨apart.listed, apart.disjoint⟩⟩

theorem apart_iff {ships : Vector Ship numShips}
    (accepted : ∀ ship ∈ ships.toList, ShipAccepted ship) :
    Apart ships ↔ (∀ placement ∈ ships.toList.map Ship.placement, placement.orientation.Listed) ∧
      (ships.toList.map Ship.placement).Pairwise
        (fun first second => Disjoint first.cells second.cells) := by
  have member (i : Fin numShips) : Board.shipAt ships i ∈ ships.toList := by
    rw [Board.shipAt]
    simp
  have cells (i : Fin numShips) : (Board.shipAt ships i).cells =
      (Board.shipAt ships i).placement.cells := (accepted _ (member i)).cells
  constructor
  · intro apart
    refine ⟨?_, ?_⟩
    · intro placement member
      obtain ⟨ship, inShips, rfl⟩ := List.mem_map.mp member
      obtain ⟨i, bound, rfl⟩ := List.mem_iff_getElem.mp inShips
      simp only [Vector.length_toList] at bound
      exact apart.listed ⟨i, bound⟩
    · rw [List.pairwise_map, List.pairwise_iff_getElem]
      intro i j iBound jBound below
      simp only [Vector.length_toList] at iBound jBound
      have distinct := apart.disjoint ⟨i, iBound⟩ ⟨j, jBound⟩ below
      rw [cells, cells] at distinct
      exact distinct
  · rintro ⟨listed, disjoint⟩
    refine ⟨?_, ?_⟩
    · exact fun i => listed (Board.shipAt ships i).placement (List.mem_map_of_mem (member i))
    · intro i j below
      rw [cells, cells]
      rw [List.pairwise_map, List.pairwise_iff_getElem] at disjoint
      exact disjoint i j (by simp) (by simp) below

theorem loads_of_apart {ships : Vector Ship numShips} (accepted : validateShipPlacement ships = true)
    (apart : Apart ships) (board : Board) :
    ∃ loaded, loadShips board (encodeShips ships) = some loaded ∧ loaded.FleetLoaded := by
  obtain ⟨fine, oneOfEach⟩ := validateShipPlacement_accepted accepted
  obtain ⟨listed, disjoint⟩ := (apart_iff fine).mp apart
  have inside : ∀ placement ∈ ships.toList.map Ship.placement,
      Board.Fits placement ∧ placement.InBounds := by
    intro placement member
    obtain ⟨ship, inShips, rfl⟩ := List.mem_map.mp member
    exact ⟨(fine ship inShips).fits, (fine ship inShips).inBounds⟩
  obtain ⟨loaded, kept, done, _, holds, _, whole⟩ := Board.loadPlacements_kept
    (ships.toList.map Ship.placement) [] _ (Board.holds_clearBoard board) (by simp) inside
    List.Pairwise.nil
  rw [whole (by simpa using disjoint)] at holds
  let fleet : Fleet := {
    ships := ships.toList.map Ship.placement
    oneOfEach := oneOfEach
    listed := listed
    inBounds := fun placement member => (inside placement member).2
    disjoint := disjoint }
  refine ⟨loaded, (loadShips_encodeShips board ships).trans done, ?_⟩
  have held : loaded.Holds fleet.ships := by simpa using holds
  exact held.fleetLoaded

theorem apart_of_loads {ships : Vector Ship numShips} (accepted : validateShipPlacement ships = true)
    {board loaded : Board} (done : loadShips board (encodeShips ships) = some loaded)
    (count : loaded.shipsCount = numShips)
    (cells : (Finset.univ.filter fun cell => loaded.grid cell = .ship).card = 17) :
    Apart ships := by
  obtain ⟨fine, oneOfEach⟩ := validateShipPlacement_accepted accepted
  have inside : ∀ placement ∈ ships.toList.map Ship.placement,
      Board.Fits placement ∧ placement.InBounds := by
    intro placement member
    obtain ⟨ship, inShips, rfl⟩ := List.mem_map.mp member
    exact ⟨(fine ship inShips).fits, (fine ship inShips).inBounds⟩
  obtain ⟨next, kept, loading, sub, holds, disjoint, _⟩ := Board.loadPlacements_kept
    (ships.toList.map Ship.placement) [] _ (Board.holds_clearBoard board) (by simp) inside
    List.Pairwise.nil
  rw [loadShips_encodeShips, loading, Option.some.injEq] at done
  subst done
  simp only [List.nil_append] at holds disjoint
  have whole : kept = ships.toList.map Ship.placement := by
    apply sub.eq_of_length
    rw [← holds.count, count, List.length_map, Vector.length_toList]
  subst whole
  exact (apart_iff fine).mpr ⟨holds.listed oneOfEach cells, disjoint⟩

/-- An accepted placement loads its whole fleet exactly when its ships lie along
a row or a column and share no cell. -/
theorem validateShipPlacement_loads_iff {ships : Vector Ship numShips}
    (accepted : validateShipPlacement ships = true) (board : Board) :
    (∃ loaded, loadShips board (encodeShips ships) = some loaded ∧ loaded.FleetLoaded) ↔
      Apart ships := by
  constructor
  · rintro ⟨loaded, done, complete⟩
    exact apart_of_loads accepted done complete.count complete.cells
  · exact fun apart => loads_of_apart accepted apart board

def sentShip (type : UInt8) (orientation : UInt8) (row col : Int8) (length : UInt8) : Ship :=
  ⟨type, orientation, ⟨row, col⟩, length, 0, false⟩

def rowShips : Vector Ship numShips :=
  #v[sentShip 0 0 0 0 5, sentShip 1 0 1 0 4, sentShip 2 0 2 0 3, sentShip 3 0 3 0 3,
    sentShip 4 0 4 0 2]

def overlappingShips : Vector Ship numShips :=
  #v[sentShip 0 0 0 0 5, sentShip 1 0 0 0 4, sentShip 2 0 2 0 3, sentShip 3 0 3 0 3,
    sentShip 4 0 4 0 2]

theorem rowShips_loads_iff :
    (∃ loaded, loadShips Board.new (encodeShips rowShips) = some loaded ∧ loaded.FleetLoaded) ↔
      Apart rowShips :=
  validateShipPlacement_loads_iff (by decide) Board.new

/-- A placement whose battleship overlaps the carrier is accepted, and the
battleship is then missing from the loaded board. -/
theorem overlappingShips_not_loaded : validateShipPlacement overlappingShips = true ∧
    ∀ board, ¬∃ loaded, loadShips board (encodeShips overlappingShips) = some loaded ∧
      loaded.FleetLoaded := by
  have accepted : validateShipPlacement overlappingShips = true := by decide
  refine ⟨accepted, ?_⟩
  rintro board ⟨loaded, done, complete⟩
  have apart := apart_of_loads accepted done complete.count complete.cells
  exact absurd (apart.disjoint 0 1 (by decide)) (by decide)

end Battleship
