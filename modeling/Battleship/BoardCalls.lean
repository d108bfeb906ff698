import Battleship.BoardRemoval
import Battleship.Library.Machine

/-! Any sequence of calls on a board. A placement is checked along the ship only, and
nothing counts the ships, so two kinds of calls leave the arrays; and `removeShip`
leaves a copy of the last ship behind. -/

namespace Battleship

open Machine

/-- The calls of the placement phase, with the values that the fields of a ship can hold. -/
inductive PlacementCall
  | placeShip (type : UInt8) (pos : Coordinate) (orientation : UInt8)
  | removeShip (type : UInt8)
  | clearBoard
  | randomPlacement (rand : Nat → Nat)

inductive BoardCall
  | placing (call : PlacementCall)
  | isValidPlacement (type : UInt8) (pos : Coordinate) (orientation : UInt8)
  | processShot (pos : Coordinate)

def requested (type : UInt8) (pos : Coordinate) (orientation : UInt8) : Placement where
  type := .ofInt type.toNat
  pos := pos
  orientation := .ofInt orientation.toNat

theorem requested_stored (type : UInt8) (pos : Coordinate) (orientation : UInt8) :
    (requested type pos orientation).Stored := ⟨⟨type, rfl⟩, ⟨orientation, rfl⟩⟩

/-- The checks pass and there is a cell to look at, but the ship starts off the grid. -/
def Placement.Strays (placement : Placement) : Prop :=
  Board.Fits placement ∧ 0 < getShipLength placement.type ∧
    cellAt? placement.pos.row.toInt placement.pos.col.toInt = none

theorem inBounds_of_fits {placement : Placement} (fits : Board.Fits placement)
    (inside : ¬placement.Strays) : placement.InBounds := by
  intro i bound
  obtain ⟨cell, start⟩ : ∃ cell,
      cellAt? placement.pos.row.toInt placement.pos.col.toInt = some cell := by
    rw [← Option.ne_none_iff_exists']
    exact fun off => inside ⟨fits, by omega, off⟩
  rw [cellAt?_eq_some] at start
  have rowBound : (cell.1 : Nat) < 10 := cell.1.isLt
  have colBound : (cell.2 : Nat) < 10 := cell.2.isLt
  obtain ⟨_, _, horizontal, vertical⟩ := fits
  unfold shipCell?
  apply cellAt?_isSome
  · unfold cellRow
    split
    next down =>
      have := vertical down
      simp only [boardSize] at this ⊢
      omega
    next =>
      simp only [boardSize]
      omega
  · unfold cellCol
    split
    next right =>
      have := horizontal right
      simp only [boardSize] at this ⊢
      omega
    next =>
      simp only [boardSize]
      omega

namespace Board

variable {board : Board} {placement : Placement}

theorem isValidPlacement_of_not_fits (board : Board) (unfit : ¬Fits placement) :
    board.isValidPlacement placement.type placement.pos placement.orientation = some false := by
  unfold isValidPlacement
  dsimp only
  split
  · rfl
  split
  · rfl
  split
  · rfl
  next sign right bottom =>
    refine absurd ⟨by omega, by omega, ?_, ?_⟩ unfit
    · intro direction
      simp only [direction, true_and] at right
      omega
    · intro direction
      simp only [direction, true_and] at bottom
      omega

theorem isValidPlacement_eq_none_iff (board : Board) (placement : Placement) :
    board.isValidPlacement placement.type placement.pos placement.orientation = none ↔
      placement.Strays := by
  constructor
  · intro stuck
    by_contra inside
    by_cases fits : Fits placement
    · rw [isValidPlacement_eq fits (inBounds_of_fits fits inside)] at stuck
      cases stuck
    · rw [isValidPlacement_of_not_fits board fits] at stuck
      cases stuck
  · rintro ⟨⟨rowOk, colOk, horizontal, vertical⟩, sized, off⟩
    obtain ⟨length, size⟩ := Nat.exists_eq_succ_of_ne_zero (Nat.ne_of_gt sized)
    have first : shipCell? placement.pos placement.orientation 0 = none := by
      simpa [shipCell?, cellRow, cellCol] using off
    have right : ¬(placement.orientation = .horizontal ∧
        placement.pos.col.toInt + getShipLength placement.type > boardSize) := by
      rintro ⟨direction, beyond⟩
      have := horizontal direction
      omega
    have bottom : ¬(placement.orientation = .vertical ∧
        placement.pos.row.toInt + getShipLength placement.type > boardSize) := by
      rintro ⟨direction, beyond⟩
      have := vertical direction
      omega
    unfold isValidPlacement
    rw [if_neg (by omega), if_neg right, if_neg bottom, size, List.range_succ_eq_map, unoccupied,
      first]

theorem placeShip_isSome_iff (board : Board) (placement : Placement) :
    (board.placeShip placement.type placement.pos placement.orientation).isSome ↔
      ¬placement.Strays ∧ (Fits placement → board.Free placement → board.shipsCount < numShips) := by
  by_cases strays : placement.Strays
  · have stuck := (isValidPlacement_eq_none_iff board placement).mpr strays
    simp [placeShip, stuck, strays]
  by_cases fits : Fits placement
  · have inBounds := inBounds_of_fits fits strays
    by_cases free : board.Free placement
    · by_cases room : board.shipsCount < numShips
      · simp [placeShip_eq fits inBounds room, strays, room]
      · obtain ⟨marked, done, -⟩ := markShip_eq placement.pos placement.orientation
          (List.range (getShipLength placement.type)) board.grid
          (fun i member => inBounds i (List.mem_range.mp member))
        simp [placeShip, isValidPlacement_eq fits inBounds, free, done, room, strays, fits]
    · simp [placeShip, isValidPlacement_eq fits inBounds, free, strays]
  · simp [placeShip, isValidPlacement_of_not_fits board fits, strays, fits]

def Inside (board : Board) : Prop :=
  ∀ i : Fin numShips, i.val < board.shipsCount →
    let ship := shipAt board.ships i
    InBounds ship.position ship.direction ship.length.toNat

theorem Laid.inside {placements : List Placement} (laid : board.Laid placements) :
    board.Inside := by
  intro i placed
  rw [laid.holds.count] at placed
  have member : placements[i.val] ∈ placements := List.getElem_mem placed
  have length : (placedShip placements[i].type placements[i].pos
      placements[i].orientation).length.toNat = getShipLength placements[i].type :=
    getShipLength_byte _
  have direction := (laid.stored _ member).placedShip_direction
  dsimp only
  rw [laid.shipAt i placed, length]
  simp only [Fin.getElem_fin, direction]
  exact laid.inBounds _ member

theorem Inside.withShip (inside : board.Inside) (stored : placement.Stored)
    (inBounds : placement.InBounds) (room : board.shipsCount < numShips) :
    (board.withShip placement room).Inside := by
  intro i placed
  simp only [Board.withShip] at placed ⊢
  have direction := stored.placedShip_direction
  by_cases last : board.shipsCount = i.val
  · have record : shipAt (board.ships.set board.shipsCount (placedShip placement.type placement.pos
        placement.orientation)) i =
        placedShip placement.type placement.pos placement.orientation := by
      simp [shipAt, last]
    have length : (placedShip placement.type placement.pos placement.orientation).length.toNat =
        getShipLength placement.type := getShipLength_byte _
    rw [record, direction, length]
    exact inBounds
  · have record : shipAt (board.ships.set board.shipsCount (placedShip placement.type placement.pos
        placement.orientation)) i = shipAt board.ships i := by
      simp only [shipAt, Fin.getElem_fin]
      exact Vector.getElem_set_ne _ _ last
    rw [record]
    exact inside i (by omega)

theorem placeShip_refused {next : Board}
    (refused : board.placeShip placement.type placement.pos placement.orientation =
      some (next, false)) : board = next := by
  unfold Board.placeShip at refused
  split at refused
  · simp at refused
  · simpa using refused
  split at refused
  · simp at refused
  split at refused
  · simp at refused
  · simp at refused

theorem Inside.placeShip (inside : board.Inside) (stored : placement.Stored) {next : Board}
    {answer : Bool} (placed : board.placeShip placement.type placement.pos placement.orientation =
      some (next, answer)) : next.Inside := by
  cases answer with
  | true =>
      obtain ⟨_, inBounds, _, room, rfl⟩ := placeShip_accepted placed
      exact inside.withShip stored inBounds room
  | false => exact placeShip_refused placed ▸ inside

theorem Inside.removeShip (inside : board.Inside) (type : ShipType) :
    ∃ next answer, board.removeShip type = some (next, answer) ∧ next.Inside := by
  unfold Board.removeShip
  split
  · exact ⟨board, false, rfl, inside⟩
  next i found =>
    have placed : i.val < board.shipsCount := by
      have hit := List.find?_some (show (List.finRange numShips).find? _ = _ from found)
      simp only [Bool.and_eq_true, decide_eq_true_eq] at hit
      exact hit.1
    have few := board.shipsCount_le
    obtain ⟨cleared, unmarked, -⟩ := unmarkShip_eq (shipAt board.ships i).position
      (shipAt board.ships i).direction (List.range (shipAt board.ships i).length.toNat) board.grid
      (fun j member => inside i placed j (List.mem_range.mp member))
    obtain ⟨shifted, moved, slots⟩ := shiftShips_eq (board.shipsCount - 1 - i) i board.ships
      (by omega)
    dsimp only
    rw [unmarked, moved]
    refine ⟨_, true, rfl, ?_⟩
    intro j kept
    dsimp only at kept ⊢
    obtain ⟨k, present, same⟩ : ∃ k : Fin numShips, k.val < board.shipsCount ∧
        shipAt shifted j = shipAt board.ships k := by
      have slot := slots j
      split at slot
      next between =>
        refine ⟨⟨j + 1, by omega⟩, by simp only; omega, ?_⟩
        rw [Vector.getElem?_eq_getElem j.isLt, Vector.getElem?_eq_getElem (by omega),
          Option.some.injEq] at slot
        exact slot
      next =>
        refine ⟨j, by omega, ?_⟩
        rw [Vector.getElem?_eq_getElem j.isLt, Vector.getElem?_eq_getElem j.isLt,
          Option.some.injEq] at slot
        exact slot
    rw [same]
    exact inside k present

def SamePlace (first second : Ship) : Prop :=
  first.position = second.position ∧ first.direction = second.direction ∧
    first.length = second.length

theorem hitShip_place (board : Board) (i j : Fin numShips) :
    SamePlace (shipAt (board.hitShip i).1.ships j) (shipAt board.ships j) := by
  have same (ship : Ship) (kept : SamePlace ship (shipAt board.ships i)) :
      SamePlace (shipAt (board.ships.set i ship) j) (shipAt board.ships j) := by
    rw [shipAt, Fin.getElem_fin, Vector.getElem_set]
    split
    next here => rwa [← Fin.ext here]
    next => exact ⟨rfl, rfl, rfl⟩
  unfold hitShip
  dsimp only
  split
  · exact same _ ⟨rfl, rfl, rfl⟩
  · exact same _ ⟨rfl, rfl, rfl⟩

theorem processShot_place (board : Board) (pos : Coordinate) :
    (board.processShot pos).1.shipsCount = board.shipsCount ∧ ∀ i : Fin numShips,
      SamePlace (shipAt (board.processShot pos).1.ships i) (shipAt board.ships i) := by
  unfold Board.processShot
  split
  · exact ⟨rfl, fun _ => ⟨rfl, rfl, rfl⟩⟩
  split
  · dsimp only
    split
    next i _ =>
      refine ⟨?_, hitShip_place _ i⟩
      unfold hitShip
      dsimp only
      split <;> rfl
    next => exact ⟨rfl, fun _ => ⟨rfl, rfl, rfl⟩⟩
  split
  · exact ⟨rfl, fun _ => ⟨rfl, rfl, rfl⟩⟩
  · exact ⟨rfl, fun _ => ⟨rfl, rfl, rfl⟩⟩

theorem Inside.processShot (inside : board.Inside) (pos : Coordinate) :
    (board.processShot pos).1.Inside := by
  obtain ⟨count, places⟩ := processShot_place board pos
  intro i placed
  obtain ⟨position, direction, length⟩ := places i
  dsimp only
  rw [position, direction, length]
  exact inside i (count ▸ placed)

structure Tidy (board : Board) (placements : List Placement) : Prop where
  laid : board.Laid placements
  tail : ∀ i : Fin numShips, placements.length ≤ i.val → shipAt board.ships i = Ship.zero

theorem tidy_clearBoard (board : Board) : board.clearBoard.Tidy [] where
  laid := laid_clearBoard board
  tail := by
    intro i _
    simp [shipAt, clearBoard]

theorem Tidy.placeShip {placements : List Placement} (tidy : board.Tidy placements)
    (stored : placement.Stored) {next : Board}
    (accepted : board.placeShip placement.type placement.pos placement.orientation =
      some (next, true)) : next.Tidy (placements ++ [placement]) := by
  refine ⟨tidy.laid.placeShip stored accepted, ?_⟩
  obtain ⟨_, _, _, room, rfl⟩ := placeShip_accepted accepted
  intro i beyond
  rw [List.length_append, List.length_singleton] at beyond
  have count := tidy.laid.holds.count
  simp only [withShip, shipAt, Fin.getElem_fin]
  rw [Vector.getElem_set_ne _ _ (by omega)]
  exact tidy.tail i (by omega)

/-- The draws give cells of the grid, so a ship that is tried never strays. -/
theorem not_strays_of_drawn {placement : Placement} (row col : Nat)
    (at_row : placement.pos.row = .ofNat (row % boardSize))
    (at_col : placement.pos.col = .ofNat (col % boardSize)) : ¬placement.Strays := by
  rintro ⟨-, -, off⟩
  have rowOk : 0 ≤ placement.pos.row.toInt ∧ placement.pos.row.toInt < boardSize := by
    rw [at_row, Int8.toInt_ofNat_of_lt] <;> simp only [boardSize] <;> omega
  have colOk : 0 ≤ placement.pos.col.toInt ∧ placement.pos.col.toInt < boardSize := by
    rw [at_col, Int8.toInt_ofNat_of_lt] <;> simp only [boardSize] <;> omega
  have on := cellAt?_isSome rowOk colOk
  rw [off] at on
  cases on

structure DrawnFor (types : List ShipType) (placements : List Placement) : Prop where
  types : (placements.map Placement.type).Sublist types
  listed : ∀ placement ∈ placements, placement.orientation.Listed

theorem drawnFor_nil (types : List ShipType) : DrawnFor types [] := ⟨by simp, by simp⟩

theorem DrawnFor.append {early late : List ShipType} {first second : List Placement}
    (left : DrawnFor early first) (right : DrawnFor late second) :
    DrawnFor (early ++ late) (first ++ second) := by
  refine ⟨?_, ?_⟩
  · rw [List.map_append]
    exact left.types.append right.types
  · simpa [or_imp, forall_and] using ⟨left.listed, right.listed⟩

theorem DrawnFor.length_le {types : List ShipType} {placements : List Placement}
    (drawn : DrawnFor types placements) : placements.length ≤ types.length := by
  simpa using drawn.types.length_le

theorem Tidy.tryPlacements {placements : List Placement} (tidy : board.Tidy placements)
    (room : placements.length < numShips) {type : ShipType} (listed : type ∈ ShipType.all)
    (rand : Nat → Nat) : ∀ attempts next, ∃ drawn later,
      tryPlacements rand type attempts (board, next) = some drawn ∧
        drawn.1.Tidy (placements ++ later) ∧ DrawnFor [type] later := by
  intro attempts
  induction attempts with
  | zero => exact fun next => ⟨_, [], rfl, by simpa using tidy, drawnFor_nil _⟩
  | succ attempts ih =>
      intro next
      let attempt : Placement := {
        type := type
        pos := ⟨.ofNat (rand next % boardSize), .ofNat (rand (next + 1) % boardSize)⟩
        orientation := if rand (next + 2) % 2 = 0 then .horizontal else .vertical }
      have inside : ¬attempt.Strays := not_strays_of_drawn (rand next) (rand (next + 1)) rfl rfl
      rw [Board.tryPlacements]
      cases valid : board.isValidPlacement attempt.type attempt.pos attempt.orientation with
      | none => exact absurd ((isValidPlacement_eq_none_iff board attempt).mp valid) inside
      | some answer =>
          dsimp only [attempt] at valid
          cases answer with
          | false => simpa only [valid] using ih (next + 3)
          | true =>
              have oriented : attempt.orientation.Listed := by
                dsimp only [attempt]
                split
                · exact Or.inl rfl
                · exact Or.inr rfl
              have stored : attempt.Stored :=
                ⟨⟨_, (ShipType.byte_roundTrip listed).symm⟩,
                  ⟨_, (Orientation.byte_roundTrip oriented).symm⟩⟩
              have space : board.shipsCount < numShips := tidy.laid.holds.count.trans_lt room
              have checked : board.isValidPlacement attempt.type attempt.pos attempt.orientation =
                  some true := valid
              obtain ⟨fits, inBounds⟩ := isValidPlacement_true checked
              have placed := placeShip_eq fits inBounds space
              rw [if_pos (isValidPlacement_free checked)] at placed
              refine ⟨(board.withShip attempt space, next + 3), [attempt], ?_,
                tidy.placeShip stored placed, ⟨by simp [attempt], by simpa using oriented⟩⟩
              dsimp only [attempt] at placed
              simp only [placed, Option.map_some, attempt]

theorem Tidy.foldlM_tryPlacements (rand : Nat → Nat) : ∀ (types : List ShipType),
    (∀ type ∈ types, type ∈ ShipType.all) → ∀ (placements : List Placement) (board : Board)
      (next : Nat), board.Tidy placements → placements.length + types.length ≤ numShips →
      ∃ drawn later, types.foldlM (fun drawn type => Board.tryPlacements rand type 1000 drawn)
        (board, next) = some drawn ∧ drawn.1.Tidy (placements ++ later) ∧
          DrawnFor types later := by
  intro types
  induction types with
  | nil =>
      intro _ placements board next tidy _
      exact ⟨(board, next), [], rfl, by simpa using tidy, drawnFor_nil _⟩
  | cons type types ih =>
      intro listed placements board next tidy room
      rw [List.length_cons] at room
      obtain ⟨⟨middle, draws⟩, first, tried, kept, few⟩ :=
        tidy.tryPlacements (by omega) (listed type (by simp)) rand 1000 next
      have single : first.length ≤ 1 := few.length_le
      obtain ⟨drawn, others, done, final, rest⟩ := ih
        (fun other member => listed other (List.mem_cons_of_mem _ member)) _ middle draws kept
        (by rw [List.length_append]; omega)
      refine ⟨drawn, first ++ others, ?_, by simpa using final, few.append rest⟩
      rw [List.foldlM_cons, tried]
      exact done

theorem randomPlacement_tidy (rand : Nat → Nat) (board : Board) :
    ∃ next placements, board.randomPlacement rand = some next ∧ next.Tidy placements ∧
      DrawnFor ShipType.all placements := by
  obtain ⟨drawn, placements, done, tidy, given⟩ := Tidy.foldlM_tryPlacements rand ShipType.all
    (fun _ member => member) [] board.clearBoard 0 (tidy_clearBoard board) (by decide)
  exact ⟨drawn.1, placements, by rw [randomPlacement, done, Option.map_some], tidy, given⟩

section Runs

def place (board : Board) : PlacementCall → Option Board
  | .placeShip type pos orientation =>
      (board.placeShip (.ofInt type.toNat) pos (.ofInt orientation.toNat)).map Prod.fst
  | .removeShip type => (board.removeShip (.ofInt type.toNat)).map Prod.fst
  | .clearBoard => some board.clearBoard
  | .randomPlacement rand => board.randomPlacement rand

def perform (board : Board) : BoardCall → Option Board
  | .placing call => board.place call
  | .isValidPlacement type pos orientation =>
      (board.isValidPlacement (.ofInt type.toNat) pos (.ofInt orientation.toNat)).map fun _ => board
  | .processShot pos => some (board.processShot pos).1

/-- A call with nothing left to go on from: there is no board after an access outside
the arrays. -/
def step (state : Option Board) (call : BoardCall) : Option Board :=
  state.bind fun board => board.perform call

def StaysInside (calls : List BoardCall) : Prop :=
  ∀ early, early <+: calls → ∃ board, exec step (some Board.new) early = some board ∧
    0 ≤ board.shipsCount ∧ board.shipsCount ≤ numShips

def Allows (board : Board) : BoardCall → Prop
  | .placing (.placeShip type pos orientation) =>
      ¬(requested type pos orientation).Strays ∧
        (Fits (requested type pos orientation) → board.Free (requested type pos orientation) →
          board.shipsCount < numShips)
  | .isValidPlacement type pos orientation => ¬(requested type pos orientation).Strays
  | .placing (.removeShip _) | .placing .clearBoard | .placing (.randomPlacement _)
  | .processShot _ => True

theorem perform_isSome_iff (inside : board.Inside) (call : BoardCall) :
    (board.perform call).isSome ↔ board.Allows call := by
  cases call with
  | isValidPlacement type pos orientation =>
      have stuck := isValidPlacement_eq_none_iff board (requested type pos orientation)
      rw [perform, Option.isSome_map, Option.isSome_iff_ne_none]
      exact stuck.not
  | processShot pos => simp [perform, Allows]
  | placing call =>
      cases call with
      | placeShip type pos orientation =>
          rw [perform, place, Option.isSome_map]
          exact placeShip_isSome_iff board (requested type pos orientation)
      | removeShip type =>
          obtain ⟨next, answer, removed, -⟩ := inside.removeShip (.ofInt type.toNat)
          simp [perform, place, removed, Allows]
      | clearBoard => simp [perform, place, Allows]
      | randomPlacement rand =>
          obtain ⟨next, _, placed, -⟩ := randomPlacement_tidy rand board
          simp [perform, place, placed, Allows]

theorem Inside.perform (inside : board.Inside) (call : BoardCall) {next : Board}
    (done : board.perform call = some next) : next.Inside := by
  cases call with
  | isValidPlacement type pos orientation =>
      obtain ⟨_, _, rfl⟩ := Option.map_eq_some_iff.mp done
      exact inside
  | processShot pos =>
      obtain rfl := Option.some.inj done
      exact inside.processShot pos
  | placing call =>
      cases call with
      | placeShip type pos orientation =>
          obtain ⟨⟨_, answer⟩, placed, rfl⟩ := Option.map_eq_some_iff.mp done
          exact inside.placeShip (requested_stored type pos orientation) placed
      | removeShip type =>
          obtain ⟨kept, answer, removed, still⟩ := inside.removeShip (.ofInt type.toNat)
          rw [Board.perform, place, removed] at done
          exact Option.some.inj done ▸ still
      | clearBoard =>
          obtain rfl := Option.some.inj done
          exact (laid_clearBoard board).inside
      | randomPlacement rand =>
          obtain ⟨random, _, placed, tidy, -⟩ := randomPlacement_tidy rand board
          rw [Board.perform, place, placed] at done
          exact Option.some.inj done ▸ tidy.laid.inside

/-- A sequence of calls stays inside the arrays exactly when each of its placements
does, on the board that it meets. -/
theorem staysInside_iff (calls : List BoardCall) : StaysInside calls ↔
    Respects step (fun state call => ∀ board ∈ state, board.Allows call) (some Board.new) calls := by
  have fresh : Board.new.Inside := (laid_clearBoard Board.new).inside
  refine always_iff_respects step (fun state => ∀ board ∈ state, Inside board)
    (motive := fun state => ∃ board, state = some board ∧ 0 ≤ board.shipsCount ∧
      board.shipsCount ≤ numShips) (by simpa using fresh) ?_
    ⟨Board.new, rfl, Nat.zero_le _, Nat.zero_le _⟩ ?_ calls
  · rintro state call sound next reached
    obtain ⟨board, rfl, done⟩ := Option.bind_eq_some_iff.mp reached
    exact (sound board rfl).perform call done
  · rintro _ call sound ⟨board, rfl, -⟩
    have permitted := perform_isSome_iff (sound board rfl) call
    simp only [step, Option.bind_some, Option.mem_def, Option.some.injEq, forall_eq',
      ← permitted, Option.isSome_iff_exists]
    exact exists_congr fun next => and_iff_left ⟨Nat.zero_le _, next.shipsCount_le⟩

theorem not_staysInside_of_isNone {calls : List BoardCall}
    (stuck : (exec step (some Board.new) calls).isNone = true) : ¬StaysInside calls := by
  intro stays
  obtain ⟨board, reached, -⟩ := stays calls List.prefix_rfl
  rw [reached] at stuck
  cases stuck

def sixDestroyers : List BoardCall :=
  (List.range 6).map fun row => .placing (.placeShip 4 ⟨.ofNat row, 0⟩ 0)

/-- A destroyer below the grid, and a sixth ship on it. -/
theorem not_staysInside_below_sixth :
    ¬StaysInside [.placing (.placeShip 4 ⟨12, 0⟩ 0)] ∧ ¬StaysInside sixDestroyers :=
  ⟨not_staysInside_of_isNone (by decide +kernel), not_staysInside_of_isNone (by decide +kernel)⟩

end Runs

section Slots

/-- What a reader of all the slots sees: it does not know how many are in use. -/
def shown (board : Board) : List Ship := board.ships.toList.filter fun ship => ship.length ≠ 0

structure ShowsShips (board : Board) : Prop where
  tail : ∀ i : Fin numShips, board.shipsCount ≤ i.val → shipAt board.ships i = Ship.zero
  shown : board.shown =
    (board.ships.toList.take board.shipsCount).filter fun ship => ship.length ≠ 0
  once : board.shown.Nodup

theorem Tidy.toList {placements : List Placement} (tidy : board.Tidy placements) :
    board.ships.toList = placements.map (fun placement =>
      placedShip placement.type placement.pos placement.orientation) ++
        List.replicate (numShips - placements.length) Ship.zero := by
  have few := tidy.laid.length_le
  apply List.ext_getElem
  · simp only [Vector.length_toList, List.length_append, List.length_map, List.length_replicate]
    omega
  intro j inside _
  have bound : j < numShips := by simpa using inside
  rw [Vector.getElem_toList]
  by_cases placed : j < placements.length
  · rw [List.getElem_append_left (by simpa using placed), List.getElem_map]
    exact tidy.laid.shipAt ⟨j, bound⟩ placed
  · rw [List.getElem_append_right (by simpa using placed), List.getElem_replicate]
    exact tidy.tail ⟨j, bound⟩ (by simpa using placed)

theorem placedShip_ne {first second : Placement} (left : first.Stored) (right : second.Stored)
    (inBounds : first.InBounds) (apart : Disjoint first.cells second.cells)
    (sized : 0 < getShipLength first.type) :
    placedShip first.type first.pos first.orientation ≠
      placedShip second.type second.pos second.orientation := by
  intro same
  have cells : first.cells = second.cells := by
    rw [← left.placedShip_cells, ← right.placedShip_cells, same]
  obtain ⟨cell, at_first⟩ := Option.isSome_iff_exists.mp (inBounds 0 sized)
  have inside : cell ∈ first.cells := mem_cellsOf.mpr ⟨0, sized, at_first⟩
  exact Finset.disjoint_left.mp apart inside (cells ▸ inside)

theorem Laid.records_nodup {placements : List Placement} (laid : board.Laid placements) :
    ((placements.map fun placement =>
      placedShip placement.type placement.pos placement.orientation).filter
        fun ship => ship.length ≠ 0).Nodup := by
  rw [List.filter_map, List.Nodup, List.pairwise_map]
  have apart := laid.apart.filter ((fun ship : Ship => decide (ship.length ≠ 0)) ∘
    fun placement => placedShip placement.type placement.pos placement.orientation)
  refine apart.imp_of_mem ?_
  intro first second inFirst inSecond disjoint
  simp only [List.mem_filter, Function.comp_apply, decide_eq_true_eq] at inFirst inSecond
  have sized : 0 < getShipLength first.type := by
    have length := getShipLength_byte first.type
    by_contra empty
    exact inFirst.2 (UInt8.toNat_inj.mp (length.trans (by simpa using empty)))
  exact placedShip_ne (laid.stored _ inFirst.1) (laid.stored _ inSecond.1)
    (laid.inBounds _ inFirst.1) disjoint sized

theorem Tidy.showsShips {placements : List Placement} (tidy : board.Tidy placements) :
    board.ShowsShips := by
  have count := tidy.laid.holds.count
  have behind : (List.replicate (numShips - placements.length) Ship.zero).filter
      (fun ship => ship.length ≠ 0) = [] := by
    simp [Ship.zero]
  have front : board.ships.toList.take board.shipsCount = placements.map fun placement =>
      placedShip placement.type placement.pos placement.orientation := by
    rw [tidy.toList, count, List.take_left' (by simp)]
  have seen : board.shown = (placements.map fun placement =>
      placedShip placement.type placement.pos placement.orientation).filter
        fun ship => ship.length ≠ 0 := by
    rw [Board.shown, tidy.toList, List.filter_append, behind, List.append_nil]
  exact ⟨fun i beyond => tidy.tail i (count ▸ beyond), by rw [front, seen],
    by rw [seen]; exact tidy.laid.records_nodup⟩

/-- A record that was written is not the empty one: the carrier, which has the type of
the empty record, has a length. -/
theorem placedShip_ne_zero {placement : Placement} (stored : placement.Stored) :
    placedShip placement.type placement.pos placement.orientation ≠ Ship.zero := by
  intro same
  have type := stored.placedShip_type
  have length : (placedShip placement.type placement.pos placement.orientation).length.toNat =
      getShipLength placement.type := getShipLength_byte _
  rw [same] at type length
  obtain ⟨byte, named⟩ := stored.type
  have zero : byte = 0 := by
    rw [named, ShipType.toInt_ofInt] at type
    exact UInt8.toNat_inj.mp (by simpa [Ship.zero] using type.symm)
  subst zero
  rw [named] at length
  exact absurd length (by decide)

def placeStep (state : Option Board) (call : PlacementCall) : Option Board :=
  state.bind fun board => board.place call

def AlwaysShows (calls : List PlacementCall) : Prop :=
  ∀ early, early <+: calls →
    ∀ board ∈ exec placeStep (some Board.new) early, board.ShowsShips

def Takes (board : Board) : PlacementCall → Prop
  | .removeShip type => ∃ i : Fin numShips, i.val < board.shipsCount ∧
      (shipAt board.ships i).type = type
  | .placeShip .. | .clearBoard | .randomPlacement _ => False

def IsLaid (board : Board) : Prop := ∃ placements, board.Laid placements

theorem type_eq_iff {placement : Placement} (stored : placement.Stored) (type : UInt8) :
    placement.type = .ofInt type.toNat ↔
      (placedShip placement.type placement.pos placement.orientation).type = type := by
  obtain ⟨byte, same⟩ := stored.type
  have record : (placedShip placement.type placement.pos placement.orientation).type = byte := by
    simp only [placedShip, same, ShipType.toInt_ofInt, byte_ofInt_toNat]
  rw [record, same]
  constructor
  · intro equal
    have values := congrArg ShipType.toInt equal
    simp only [ShipType.toInt_ofInt, Nat.cast_inj] at values
    exact UInt8.toNat_inj.mp values
  · rintro rfl
    rfl

/-- The ship that was last on the board is still in the slot behind the others. -/
theorem removeShip_leaves {placements : List Placement} (laid : board.Laid placements)
    {type : UInt8} (takes : board.Takes (.removeShip type)) :
    ∃ next, board.removeShip (.ofInt type.toNat) = some (next, true) ∧ next.IsLaid ∧
      ¬next.ShowsShips := by
  obtain ⟨i, placed, named⟩ := takes
  rw [laid.holds.count] at placed
  have member : placements[i.val] ∈ placements := List.getElem_mem placed
  have present : (placements.find? fun other => other.type = .ofInt type.toNat).isSome := by
    rw [List.find?_isSome]
    refine ⟨_, member, decide_eq_true ((type_eq_iff (laid.stored _ member) type).mpr ?_)⟩
    rw [← named, laid.shipAt i placed]
    rfl
  obtain ⟨placement, found⟩ := Option.isSome_iff_exists.mp present
  obtain ⟨here, before, after, rfl, earlier⟩ := List.find?_eq_some_iff_append.mp found
  rw [decide_eq_true_iff] at here
  rw [← here] at earlier ⊢
  obtain ⟨next, removed, kept, beyond⟩ := laid.removeShip (by
    intro other inBefore same
    have differs : other.type ≠ placement.type := by simpa using earlier other inBefore
    exact differs (ShipType.toInt_inj_of_byte (laid.stored other (by simp [inBefore])).type
      (laid.stored placement (by simp)).type same))
  refine ⟨next, removed, ⟨_, kept⟩, ?_⟩
  intro shows
  have few := laid.length_le
  have last : (before ++ after).length < (before ++ placement :: after).length := by simp
  have bound : (before ++ after).length < numShips := last.trans_le few
  have empty := shows.tail ⟨_, bound⟩ kept.holds.count.le
  have copy := beyond _ (Nat.le_refl _)
  rw [laid.slot last, Vector.getElem?_eq_getElem bound, List.getElem?_eq_getElem last,
    Option.map_some, Option.some.injEq] at copy
  exact placedShip_ne_zero (laid.stored _ (List.getElem_mem last)) (copy.symm.trans empty)

theorem placeShip_of_place {type orientation : UInt8} {pos : Coordinate} {next : Board}
    (done : board.place (.placeShip type pos orientation) = some next) :
    ∃ after answer, board.placeShip (requested type pos orientation).type
      (requested type pos orientation).pos (requested type pos orientation).orientation =
        some (after, answer) ∧ after = next := by
  obtain ⟨⟨after, answer⟩, placed, same⟩ := Option.map_eq_some_iff.mp done
  exact ⟨after, answer, placed, same⟩

theorem Laid.place {placements : List Placement} (laid : board.Laid placements)
    {call : PlacementCall} (spares : ¬board.Takes call) {next : Board}
    (done : board.place call = some next) :
    ∃ later, next.Laid later ∧ (board.Tidy placements → next.Tidy later) := by
  cases call with
  | placeShip type pos orientation =>
      have stored := requested_stored type pos orientation
      obtain ⟨after, answer, placed, rfl⟩ := placeShip_of_place done
      cases answer with
      | true => exact ⟨_, laid.placeShip stored placed, fun tidy => tidy.placeShip stored placed⟩
      | false =>
          obtain rfl := placeShip_refused placed
          exact ⟨placements, laid, id⟩
  | removeShip type =>
      have absent : board.findType (.ofInt type.toNat) = none := by
        simp only [findType, List.find?_eq_none, List.mem_finRange, true_imp_iff, Bool.and_eq_true,
          decide_eq_true_eq, not_and, ShipType.toInt_ofInt, Nat.cast_inj]
        exact fun i placed same => spares ⟨i, placed, UInt8.toNat_inj.mp same⟩
      simp only [Board.place, Board.removeShip, absent, Option.map_some, Option.some.injEq] at done
      subst done
      exact ⟨placements, laid, id⟩
  | clearBoard =>
      obtain rfl := Option.some.inj done
      exact ⟨[], laid_clearBoard board, fun _ => tidy_clearBoard board⟩
  | randomPlacement rand =>
      obtain ⟨random, placed, drawn, tidy, -⟩ := randomPlacement_tidy rand board
      rw [Board.place, drawn] at done
      obtain rfl := Option.some.inj done
      exact ⟨placed, tidy.laid, fun _ => tidy⟩

theorem IsLaid.place (laid : board.IsLaid) {call : PlacementCall} {next : Board}
    (done : board.place call = some next) :
    next.IsLaid ∧ (board.ShowsShips → (next.ShowsShips ↔ ¬board.Takes call)) := by
  obtain ⟨placements, laid⟩ := laid
  by_cases takes : board.Takes call
  · cases call with
    | removeShip type =>
        obtain ⟨left, removed, still, hidden⟩ := removeShip_leaves laid takes
        rw [Board.place, removed] at done
        obtain rfl := Option.some.inj done
        exact ⟨still, fun _ => iff_of_false hidden (not_not_intro takes)⟩
    | placeShip | clearBoard | randomPlacement => exact takes.elim
  · obtain ⟨later, kept, tidies⟩ := laid.place takes done
    refine ⟨⟨later, kept⟩, fun shows => iff_of_true ?_ takes⟩
    exact (tidies ⟨laid, fun i beyond => shows.tail i (laid.holds.count ▸ beyond)⟩).showsShips

theorem Laid.place_of_takes {placements : List Placement} (laid : board.Laid placements)
    {call : PlacementCall} (takes : board.Takes call) : ∃ next, board.place call = some next := by
  cases call with
  | removeShip type =>
      obtain ⟨left, removed, -⟩ := removeShip_leaves laid takes
      exact ⟨left, by rw [Board.place, removed]; rfl⟩
  | placeShip | clearBoard | randomPlacement => exact takes.elim

/-- Readers see the ships on the board after every call exactly when no call takes a
ship away. -/
theorem alwaysShows_iff (calls : List PlacementCall) : AlwaysShows calls ↔
    Respects placeStep (fun state call => ∀ board ∈ state, ¬board.Takes call) (some Board.new)
      calls := by
  have fresh := tidy_clearBoard Board.new
  refine always_iff_respects placeStep (fun state => ∀ board ∈ state, IsLaid board)
    (motive := fun state => ∀ board ∈ state, ShowsShips board)
    (by rintro _ ⟨⟩; exact ⟨_, fresh.laid⟩) ?_ (by rintro _ ⟨⟩; exact fresh.showsShips) ?_ calls
  · rintro state call sound next reached
    obtain ⟨board, rfl, done⟩ := Option.bind_eq_some_iff.mp reached
    exact ((sound board rfl).place done).1
  · intro state call sound shows
    constructor
    · rintro later board rfl takes
      obtain ⟨placements, laid⟩ := sound board rfl
      obtain ⟨next, done⟩ := laid.place_of_takes takes
      exact ((sound board rfl).place done).2 (shows board rfl) |>.mp (later next done) takes
    · rintro spares next reached
      obtain ⟨board, rfl, done⟩ := Option.bind_eq_some_iff.mp reached
      exact ((sound board rfl).place done).2 (shows board rfl) |>.mpr (spares board rfl)

/-- The cruiser is taken away again: the array still shows it. -/
theorem not_alwaysShows_taken :
    ¬AlwaysShows [.placeShip 2 ⟨0, 0⟩ 0, .removeShip 2] := by
  intro shows
  have stale : (exec placeStep (some Board.new) [.placeShip 2 ⟨0, 0⟩ 0, .removeShip 2]).any
      (fun board => (shipAt board.ships 0).length = 3 && board.shipsCount = 0) = true := by
    decide +kernel
  obtain ⟨board, reached, copy⟩ := (Option.any_eq_true _ _).mp stale
  simp only [Bool.and_eq_true, decide_eq_true_eq] at copy
  have empty := (shows _ List.prefix_rfl board reached).tail 0 (by simp [copy.2])
  rw [empty] at copy
  cases copy.1

end Slots

end Board

end Battleship
