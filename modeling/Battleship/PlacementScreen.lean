import Battleship.BoardCalls

/-! The placement screen of `ui_ship_placement.cpp`: the board, a flag for each type,
and the type that the next click places. The selection moves on only while there is
a type left to place. -/

namespace Battleship

open Machine

def ShipType.numbered (i : Fin numShips) : ShipType := .ofInt i.val

theorem ShipType.numbered_mem (i : Fin numShips) : numbered i ∈ all := by
  revert i
  decide

theorem ShipType.exists_numbered {type : ShipType} (listed : type ∈ all) :
    ∃ i, numbered i = type := by
  simp only [all, List.mem_cons, List.not_mem_nil, or_false] at listed
  rcases listed with rfl | rfl | rfl | rfl | rfl
  exacts [⟨0, rfl⟩, ⟨1, rfl⟩, ⟨2, rfl⟩, ⟨3, rfl⟩, ⟨4, rfl⟩]

theorem ShipType.numbered_injective : Function.Injective numbered := by
  intro i j same
  have values := congrArg toInt same
  simp only [numbered, toInt_ofInt, Nat.cast_inj] at values
  exact Fin.ext values

structure PlacementScreen where
  playerBoard : Board
  shipsPlaced : Fin numShips → Bool
  selectedShipType : Fin numShips
  currentOrientation : Orientation

inductive PlacementAction
  | selectButton (i : Fin numShips)
  | rotateButton
  | boardPress (row col : Int)
  | deleteButton (i : Fin numShips)
  | clearButton

namespace PlacementScreen

def selectShipForPlacement (screen : PlacementScreen) (i : Fin numShips) : PlacementScreen :=
  { screen with selectedShipType := i }

def toggleShipOrientation (screen : PlacementScreen) : PlacementScreen :=
  { screen with currentOrientation :=
      if screen.currentOrientation = .horizontal then .vertical else .horizontal }

def allShipsPlaced (screen : PlacementScreen) : Bool :=
  (List.finRange numShips).all screen.shipsPlaced

def nextUnplaced (shipsPlaced : Fin numShips → Bool) (selected : Fin numShips) : Fin numShips :=
  ((List.finRange numShips).find? fun i => !shipsPlaced i).getD selected

def placeShipAt (screen : PlacementScreen) (row col : Int) : Option PlacementScreen :=
  let pos : Coordinate := ⟨.ofInt row, .ofInt col⟩
  match screen.playerBoard.placeShip (.numbered screen.selectedShipType) pos
      screen.currentOrientation with
  | none => none
  | some (board, true) =>
      let shipsPlaced := Function.update screen.shipsPlaced screen.selectedShipType true
      some { screen with
        playerBoard := board
        shipsPlaced := shipsPlaced
        selectedShipType := nextUnplaced shipsPlaced screen.selectedShipType }
  | some (board, false) => some { screen with playerBoard := board }

def clearAllShips (screen : PlacementScreen) : PlacementScreen :=
  { screen with
    playerBoard := screen.playerBoard.clearBoard
    shipsPlaced := fun _ => false
    selectedShipType := 0 }

def clearShip (screen : PlacementScreen) (i : Fin numShips) : Option PlacementScreen :=
  (screen.playerBoard.removeShip (.numbered i)).map fun removed =>
    { screen with
      playerBoard := removed.1
      shipsPlaced := Function.update screen.shipsPlaced i false }

/-- The button of a type is insensitive once the type is placed, and a press beside the
grid is ignored. -/
def act (screen : PlacementScreen) : PlacementAction → Option PlacementScreen
  | .selectButton i =>
      some (if screen.shipsPlaced i then screen else screen.selectShipForPlacement i)
  | .rotateButton => some screen.toggleShipOrientation
  | .boardPress row col =>
      if (0 ≤ row ∧ row < boardSize) ∧ (0 ≤ col ∧ col < boardSize) then screen.placeShipAt row col
      else some screen
  | .deleteButton i => screen.clearShip i
  | .clearButton => some screen.clearAllShips

def readyShips (screen : PlacementScreen) : Option (Vector Ship numShips) :=
  if screen.allShipsPlaced then some screen.playerBoard.ships else none

def actStep (state : Option PlacementScreen) (action : PlacementAction) : Option PlacementScreen :=
  state.bind fun screen => screen.act action

end PlacementScreen

namespace Board

def placedShips (board : Board) : List Ship := board.ships.toList.take board.shipsCount

def heldOf (board : Board) (type : ShipType) : Nat :=
  board.placedShips.countP fun ship => ship.shipType = type

variable {board : Board} {placements : List Placement}

theorem Laid.placedShips (laid : board.Laid placements) : board.placedShips =
    placements.map fun placement =>
      placedShip placement.type placement.pos placement.orientation := by
  have few := laid.length_le
  have count := laid.holds.count
  apply List.ext_getElem
  · simp only [Board.placedShips, List.length_take, Vector.length_toList, List.length_map]
    omega
  intro j _ placed
  rw [List.length_map] at placed
  simp only [Board.placedShips, List.getElem_take, Vector.getElem_toList, List.getElem_map]
  exact laid.shipAt ⟨j, by omega⟩ placed

theorem placedShip_shipType {placement : Placement} (stored : placement.Stored) :
    (placedShip placement.type placement.pos placement.orientation).shipType = placement.type := by
  obtain ⟨byte, same⟩ := stored.type
  simp only [Ship.shipType, placedShip, same, ShipType.toInt_ofInt, byte_ofInt_toNat]

theorem Laid.map_shipType (laid : board.Laid placements) :
    board.placedShips.map Ship.shipType = placements.map Placement.type := by
  rw [laid.placedShips, List.map_map]
  apply List.map_congr_left
  intro placement member
  exact placedShip_shipType (laid.stored placement member)

theorem Laid.heldOf (laid : board.Laid placements) (type : ShipType) :
    board.heldOf type = (placements.map Placement.type).count type := by
  rw [← laid.map_shipType, List.count, List.countP_map]
  apply List.countP_congr
  intro ship _
  simp

/-- Whether there is a ship of the type or not, `removeShip` leaves the others. -/
theorem Laid.removeShip_eraseP (laid : board.Laid placements) {type : ShipType}
    (byte : ∃ byte : UInt8, type = .ofInt byte.toNat) :
    ∃ next answer, board.removeShip type = some (next, answer) ∧
      next.Laid (placements.eraseP fun placement => placement.type = type) := by
  have differs {other : Placement} (member : other ∈ placements) (different : other.type ≠ type) :
      other.type.toInt ≠ type.toInt :=
    fun same => different (ShipType.toInt_inj_of_byte (laid.stored other member).type byte same)
  cases found : placements.find? (fun placement => placement.type = type) with
  | none =>
      have absent : ∀ other ∈ placements, other.type ≠ type := by
        simpa using List.find?_eq_none.mp found
      refine ⟨board, false, ?_, ?_⟩
      · rw [Board.removeShip,
          laid.findType_eq_none fun other member => differs member (absent other member)]
      · rwa [List.eraseP_of_forall_not (by simpa using absent)]
  | some placement =>
      obtain ⟨here, before, after, rfl, earlier⟩ := List.find?_eq_some_iff_append.mp found
      obtain rfl : placement.type = type := by simpa using here
      have early : ∀ other ∈ before, other.type ≠ placement.type := by simpa using earlier
      obtain ⟨next, removed, kept, -⟩ := laid.removeShip
        (fun other member => differs (List.mem_append_left _ member) (early other member))
      refine ⟨next, true, removed, ?_⟩
      rwa [List.eraseP_append_right _ (by simpa using early), List.eraseP_cons_of_pos (by simp)]

end Board

namespace PlacementScreen

def FlagsAgree (screen : PlacementScreen) : Prop :=
  ∀ i, (screen.shipsPlaced i = true ↔ screen.playerBoard.heldOf (.numbered i) = 1) ∧
    (screen.shipsPlaced i = false ↔ screen.playerBoard.heldOf (.numbered i) = 0)

def SendsFleet (screen : PlacementScreen) : Prop :=
  ∀ ships ∈ screen.readyShips, (ships.toList.map Ship.shipType).Perm ShipType.all

def AlwaysAgrees (screen : PlacementScreen) (actions : List PlacementAction) : Prop :=
  ∀ early, early <+: actions → ∃ reached, exec actStep (some screen) early = some reached ∧
    reached.FlagsAgree ∧ reached.SendsFleet

structure IsReset (screen : PlacementScreen) : Prop where
  playerBoard : ∃ board : Board, screen.playerBoard = board.clearBoard
  shipsPlaced : ∀ i, screen.shipsPlaced i = false
  currentOrientation : screen.currentOrientation.Listed

def Doubles (screen : PlacementScreen) : PlacementAction → Prop
  | .boardPress row col =>
      ((0 ≤ row ∧ row < boardSize) ∧ (0 ≤ col ∧ col < boardSize)) ∧
        screen.shipsPlaced screen.selectedShipType = true ∧
        screen.playerBoard.isValidPlacement (.numbered screen.selectedShipType)
          ⟨.ofInt row, .ofInt col⟩ screen.currentOrientation = some true
  | .selectButton _ | .rotateButton | .deleteButton _ | .clearButton => False

structure Lays (screen : PlacementScreen) (placements : List Placement) : Prop where
  laid : screen.playerBoard.Laid placements
  listed : ∀ placement ∈ placements, placement.type ∈ ShipType.all
  oriented : screen.currentOrientation.Listed

def attempt (screen : PlacementScreen) (row col : Int) : Placement where
  type := .numbered screen.selectedShipType
  pos := ⟨.ofInt row, .ofInt col⟩
  orientation := screen.currentOrientation

variable {screen next : PlacementScreen} {placements : List Placement} {row col : Int}

theorem numbered_byte (i : Fin numShips) :
    ∃ byte : UInt8, ShipType.numbered i = .ofInt byte.toNat :=
  ⟨_, (ShipType.byte_roundTrip (ShipType.numbered_mem i)).symm⟩

theorem Lays.attempt_stored (lays : screen.Lays placements) (row col : Int) :
    (screen.attempt row col).Stored :=
  ⟨numbered_byte _, _, (Orientation.byte_roundTrip lays.oriented).symm⟩

theorem attempt_not_strays (rowOk : 0 ≤ row ∧ row < boardSize) (colOk : 0 ≤ col ∧ col < boardSize) :
    ¬(screen.attempt row col).Strays := by
  simp only [boardSize] at rowOk colOk
  have same (value : Int) (inside : 0 ≤ value ∧ value < 10) :
      Int8.ofInt value = .ofNat (value.toNat % boardSize) := by
    have small : value.toNat % boardSize = value.toNat := by
      simp only [boardSize]
      omega
    rw [small, ← Int8.ofInt_eq_ofNat]
    congr 1
    omega
  exact Board.not_strays_of_drawn row.toNat col.toNat (same row (by omega)) (same col (by omega))

theorem placeShipAt_refused
    (refused : screen.playerBoard.isValidPlacement (.numbered screen.selectedShipType)
      ⟨.ofInt row, .ofInt col⟩ screen.currentOrientation = some false) :
    screen.placeShipAt row col = some screen := by
  simp only [placeShipAt, Board.placeShip, refused]

def withShipAt (screen : PlacementScreen) (row col : Int)
    (room : screen.playerBoard.shipsCount < numShips) : PlacementScreen :=
  let shipsPlaced := Function.update screen.shipsPlaced screen.selectedShipType true
  { screen with
    playerBoard := screen.playerBoard.withShip (screen.attempt row col) room
    shipsPlaced := shipsPlaced
    selectedShipType := nextUnplaced shipsPlaced screen.selectedShipType }

theorem placeShipAt_accepted
    (valid : screen.playerBoard.isValidPlacement (.numbered screen.selectedShipType)
      ⟨.ofInt row, .ofInt col⟩ screen.currentOrientation = some true) :
    screen.placeShipAt row col =
      if room : screen.playerBoard.shipsCount < numShips then some (screen.withShipAt row col room)
      else none := by
  have checked : screen.playerBoard.isValidPlacement (screen.attempt row col).type
      (screen.attempt row col).pos (screen.attempt row col).orientation = some true := valid
  obtain ⟨fits, inBounds⟩ := Board.isValidPlacement_true checked
  have free := Board.isValidPlacement_free checked
  split
  next room =>
    have placed := Board.placeShip_eq fits inBounds room
    rw [if_pos free] at placed
    simp only [attempt] at placed
    simp only [placeShipAt, placed, withShipAt, attempt]
  next full =>
    have isSome := Board.placeShip_isSome_iff screen.playerBoard (screen.attempt row col)
    have stuck : screen.playerBoard.placeShip (.numbered screen.selectedShipType)
        ⟨.ofInt row, .ofInt col⟩ screen.currentOrientation = none := by
      rw [← Option.not_isSome_iff_eq_none]
      exact fun some => full ((isSome.mp some).2 fits free)
    simp only [placeShipAt, stuck]

theorem Lays.withShipAt (lays : screen.Lays placements)
    (valid : screen.playerBoard.isValidPlacement (.numbered screen.selectedShipType)
      ⟨.ofInt row, .ofInt col⟩ screen.currentOrientation = some true)
    (room : screen.playerBoard.shipsCount < numShips) :
    (screen.withShipAt row col room).Lays (placements ++ [screen.attempt row col]) := by
  have checked : screen.playerBoard.isValidPlacement (screen.attempt row col).type
      (screen.attempt row col).pos (screen.attempt row col).orientation = some true := valid
  obtain ⟨fits, inBounds⟩ := Board.isValidPlacement_true checked
  have free := Board.isValidPlacement_free checked
  have placed := Board.placeShip_eq fits inBounds room
  rw [if_pos free] at placed
  refine ⟨lays.laid.placeShip (lays.attempt_stored row col) placed, ?_, lays.oriented⟩
  intro placement member
  rcases List.mem_append.mp member with early | last
  · exact lays.listed placement early
  · rw [List.mem_singleton.mp last]
    exact ShipType.numbered_mem _

theorem Lays.clearShip (lays : screen.Lays placements) (i : Fin numShips) :
    ∃ next, screen.clearShip i = some next ∧
      next.shipsPlaced = Function.update screen.shipsPlaced i false ∧
      next.Lays (placements.eraseP fun placement => placement.type = .numbered i) := by
  obtain ⟨board, answer, removed, laid⟩ := lays.laid.removeShip_eraseP (numbered_byte i)
  refine ⟨{ screen with
    playerBoard := board
    shipsPlaced := Function.update screen.shipsPlaced i false }, ?_, rfl, laid, ?_, lays.oriented⟩
  · simp only [PlacementScreen.clearShip, removed, Option.map_some]
  · exact fun placement member => lays.listed placement (List.eraseP_subset member)

theorem lays_clearAllShips (oriented : screen.currentOrientation.Listed) :
    screen.clearAllShips.Lays [] where
  laid := Board.laid_clearBoard screen.playerBoard
  listed := by simp
  oriented := oriented

/-- A press on the grid changes nothing, or it puts the selected ship there. -/
theorem placeShipAt_outcomes {row col : Int} (rows : 0 ≤ row ∧ row < boardSize)
    (cols : 0 ≤ col ∧ col < boardSize) (done : screen.placeShipAt row col = some next) :
    next = screen ∨
      ∃ room, screen.playerBoard.isValidPlacement (.numbered screen.selectedShipType)
        ⟨.ofInt row, .ofInt col⟩ screen.currentOrientation = some true ∧
        next = screen.withShipAt row col room := by
  cases valid : screen.playerBoard.isValidPlacement (.numbered screen.selectedShipType)
      ⟨.ofInt row, .ofInt col⟩ screen.currentOrientation with
  | none =>
      exact absurd ((Board.isValidPlacement_eq_none_iff _ (screen.attempt row col)).mp valid)
        (attempt_not_strays rows cols)
  | some answer =>
      cases answer with
      | false =>
          rw [placeShipAt_refused valid] at done
          exact Or.inl (Option.some.inj done).symm
      | true =>
          rw [placeShipAt_accepted valid] at done
          split at done
          next room => exact Or.inr ⟨room, rfl, (Option.some.inj done).symm⟩
          next => cases done

theorem Lays.placeShipAt (lays : screen.Lays placements) {row col : Int}
    (rows : 0 ≤ row ∧ row < boardSize) (cols : 0 ≤ col ∧ col < boardSize)
    (done : screen.placeShipAt row col = some next) : ∃ later, next.Lays later := by
  rcases placeShipAt_outcomes rows cols done with rfl | ⟨room, valid, rfl⟩
  · exact ⟨placements, lays⟩
  · exact ⟨_, lays.withShipAt valid room⟩

theorem Lays.act (lays : screen.Lays placements) {action : PlacementAction}
    (done : screen.act action = some next) : ∃ later, next.Lays later := by
  cases action with
  | selectButton i =>
      obtain rfl := Option.some.inj done
      split
      · exact ⟨placements, lays⟩
      · exact ⟨placements, lays.laid, lays.listed, lays.oriented⟩
  | rotateButton =>
      obtain rfl := Option.some.inj done
      refine ⟨placements, lays.laid, lays.listed, ?_⟩
      simp only [toggleShipOrientation]
      split
      · exact Or.inr rfl
      · exact Or.inl rfl
  | boardPress row col =>
      simp only [PlacementScreen.act] at done
      split at done
      next onGrid => exact lays.placeShipAt onGrid.1 onGrid.2 done
      next =>
        obtain rfl := Option.some.inj done
        exact ⟨placements, lays⟩
  | deleteButton i =>
      obtain ⟨cleared, same, -, kept⟩ := lays.clearShip i
      obtain rfl := Option.some.inj (same.symm.trans done)
      exact ⟨_, kept⟩
  | clearButton =>
      obtain rfl := Option.some.inj done
      exact ⟨[], lays_clearAllShips lays.oriented⟩

theorem Lays.flagsAgree_iff (lays : screen.Lays placements) : screen.FlagsAgree ↔
    ∀ i, (placements.map Placement.type).count (.numbered i) =
      if screen.shipsPlaced i then 1 else 0 := by
  apply forall_congr'
  intro i
  rw [lays.laid.heldOf]
  cases screen.shipsPlaced i with
  | false => simp +contextual
  | true => simp +contextual

theorem Lays.nodup_types (lays : screen.Lays placements) (agree : screen.FlagsAgree) :
    (placements.map Placement.type).Nodup := by
  rw [List.nodup_iff_count_le_one]
  intro type
  by_cases member : type ∈ placements.map Placement.type
  · obtain ⟨placement, laid, rfl⟩ := List.mem_map.mp member
    obtain ⟨i, same⟩ := ShipType.exists_numbered (lays.listed placement laid)
    rw [← same, lays.flagsAgree_iff.mp agree i]
    split <;> omega
  · rw [List.count_eq_zero.mpr member]
    omega

theorem Lays.subset_all (lays : screen.Lays placements) :
    placements.map Placement.type ⊆ ShipType.all := by
  intro type member
  obtain ⟨placement, laid, rfl⟩ := List.mem_map.mp member
  exact lays.listed placement laid

/-- There is room for a type that is not placed. -/
theorem Lays.room (lays : screen.Lays placements) (agree : screen.FlagsAgree)
    (unplaced : screen.shipsPlaced screen.selectedShipType = false) :
    screen.playerBoard.shipsCount < numShips := by
  have absent : ShipType.numbered screen.selectedShipType ∉ placements.map Placement.type := by
    rw [← List.count_eq_zero, lays.flagsAgree_iff.mp agree, unplaced]
    simp
  have distinct := List.nodup_cons.mpr ⟨absent, lays.nodup_types agree⟩
  have few := (distinct.subperm (List.cons_subset.mpr
    ⟨ShipType.numbered_mem screen.selectedShipType, lays.subset_all⟩)).length_le
  simp only [List.length_cons, List.length_map, ShipType.all, List.length_nil] at few
  rw [lays.laid.holds.count, numShips]
  omega

theorem Lays.sendsFleet (lays : screen.Lays placements) (agree : screen.FlagsAgree) :
    screen.SendsFleet := by
  intro ships sent
  simp only [readyShips] at sent
  split at sent
  next ready =>
    obtain rfl := Option.some.inj sent
    have types : (placements.map Placement.type).Perm ShipType.all := by
      rw [List.perm_ext_iff_of_nodup (lays.nodup_types agree) (by decide)]
      intro type
      refine ⟨fun member => lays.subset_all member, ?_⟩
      intro listed
      obtain ⟨i, rfl⟩ := ShipType.exists_numbered listed
      have placed : screen.shipsPlaced i = true := by
        simp only [allShipsPlaced, List.all_eq_true] at ready
        exact ready i (List.mem_finRange i)
      rw [← List.count_pos_iff, lays.flagsAgree_iff.mp agree i, placed]
      simp
    have full : screen.playerBoard.shipsCount = numShips := by
      rw [lays.laid.holds.count]
      simpa [ShipType.all] using types.length_eq
    have whole : screen.playerBoard.ships.toList = screen.playerBoard.placedShips := by
      rw [Board.placedShips, full, List.take_of_length_le (by simp)]
    rw [whole, lays.laid.map_shipType]
    exact types
  next => cases sent

theorem Lays.flagsAgree_withShipAt (lays : screen.Lays placements) (agree : screen.FlagsAgree)
    (valid : screen.playerBoard.isValidPlacement (.numbered screen.selectedShipType)
      ⟨.ofInt row, .ofInt col⟩ screen.currentOrientation = some true)
    (room : screen.playerBoard.shipsCount < numShips) :
    (screen.withShipAt row col room).FlagsAgree ↔
      screen.shipsPlaced screen.selectedShipType = false := by
  have before := lays.flagsAgree_iff.mp agree
  have flags : (screen.withShipAt row col room).shipsPlaced =
      Function.update screen.shipsPlaced screen.selectedShipType true := rfl
  rw [(lays.withShipAt valid room).flagsAgree_iff, flags]
  simp only [List.map_append, List.map_singleton, List.count_append, before, attempt]
  constructor
  · intro after
    have here := after screen.selectedShipType
    simp only [Function.update_self, List.count_singleton_self, if_true] at here
    cases placed : screen.shipsPlaced screen.selectedShipType with
    | false => rfl
    | true => simp [placed] at here
  · intro unplaced i
    by_cases same : i = screen.selectedShipType
    · subst same
      simp [unplaced]
    · have other : ShipType.numbered screen.selectedShipType ≠ .numbered i :=
        fun equal => same (ShipType.numbered_injective equal).symm
      rw [Function.update_of_ne same]
      simp [other]

theorem Lays.flagsAgree_clearShip {i : Fin numShips} (lays : screen.Lays placements)
    (agree : screen.FlagsAgree) (kept : next.Lays (placements.eraseP fun placement =>
      placement.type = .numbered i))
    (flags : next.shipsPlaced = Function.update screen.shipsPlaced i false) : next.FlagsAgree := by
  have before := lays.flagsAgree_iff.mp agree
  rw [kept.flagsAgree_iff, flags]
  intro j
  have erased : (placements.eraseP fun placement => placement.type = .numbered i).map
      Placement.type = (placements.map Placement.type).erase (.numbered i) := by
    rw [List.erase_eq_eraseP', List.eraseP_map]
    rfl
  rw [erased, List.count_erase, before j]
  by_cases same : j = i
  · subst same
    simp only [Function.update_self, beq_self_eq_true, if_true]
    split <;> rfl
  · have other : ShipType.numbered i ≠ .numbered j :=
      fun equal => same (ShipType.numbered_injective equal).symm
    rw [Function.update_of_ne same]
    simp [other]

def Agrees (state : Option PlacementScreen) : Prop :=
  ∃ screen, state = some screen ∧ screen.FlagsAgree ∧ screen.SendsFleet

theorem Lays.agrees (lays : screen.Lays placements) :
    Agrees (some screen) ↔ screen.FlagsAgree := by
  constructor
  · rintro ⟨same, held, agree, -⟩
    obtain rfl := Option.some.inj held
    exact agree
  · exact fun agree => ⟨screen, rfl, agree, lays.sendsFleet agree⟩

theorem Lays.boardPress_agrees_iff (lays : screen.Lays placements) (agree : screen.FlagsAgree) :
    Agrees (screen.act (.boardPress row col)) ↔ ¬screen.Doubles (.boardPress row col) := by
  by_cases onGrid : (0 ≤ row ∧ row < boardSize) ∧ (0 ≤ col ∧ col < boardSize)
  · have pressed : screen.act (.boardPress row col) = screen.placeShipAt row col := if_pos onGrid
    rw [pressed, Doubles, and_iff_right onGrid]
    cases valid : screen.playerBoard.isValidPlacement (.numbered screen.selectedShipType)
        ⟨.ofInt row, .ofInt col⟩ screen.currentOrientation with
    | none =>
        exact absurd ((Board.isValidPlacement_eq_none_iff _ (screen.attempt row col)).mp valid)
          (attempt_not_strays onGrid.1 onGrid.2)
    | some answer =>
        cases answer with
        | false =>
            rw [placeShipAt_refused valid, lays.agrees]
            simpa using agree
        | true =>
            rw [placeShipAt_accepted valid]
            simp only [and_true, Bool.not_eq_true]
            by_cases room : screen.playerBoard.shipsCount < numShips
            · rw [dif_pos room, (lays.withShipAt valid room).agrees]
              exact lays.flagsAgree_withShipAt agree valid room
            · rw [dif_neg room]
              refine iff_of_false ?_ fun unplaced => room (lays.room agree unplaced)
              rintro ⟨_, impossible, -⟩
              cases impossible
  · have pressed : screen.act (.boardPress row col) = some screen := if_neg onGrid
    rw [pressed, lays.agrees]
    exact iff_of_true agree fun doubles => onGrid doubles.1

theorem Lays.act_agrees_iff (lays : screen.Lays placements) (agree : screen.FlagsAgree)
    (action : PlacementAction) : Agrees (screen.act action) ↔ ¬screen.Doubles action := by
  cases action with
  | boardPress row col => exact lays.boardPress_agrees_iff agree
  | selectButton i =>
      refine iff_of_true ?_ id
      simp only [PlacementScreen.act]
      split
      · exact lays.agrees.mpr agree
      · exact ⟨_, rfl, agree, lays.sendsFleet agree⟩
  | rotateButton => exact iff_of_true ⟨_, rfl, agree, lays.sendsFleet agree⟩ id
  | deleteButton i =>
      refine iff_of_true ?_ id
      obtain ⟨cleared, done, flags, kept⟩ := lays.clearShip i
      rw [PlacementScreen.act, done, kept.agrees]
      exact lays.flagsAgree_clearShip agree kept flags
  | clearButton =>
      refine iff_of_true ?_ id
      have cleared := lays_clearAllShips lays.oriented
      rw [PlacementScreen.act, cleared.agrees, cleared.flagsAgree_iff]
      intro i
      simp [clearAllShips]

/-- From a reset screen the flags tell what is on the board exactly as long as no click
places a type that is placed already. -/
theorem alwaysAgrees_iff (fresh : screen.IsReset) (actions : List PlacementAction) :
    screen.AlwaysAgrees actions ↔
      Respects actStep (fun state action => ∀ screen ∈ state, ¬screen.Doubles action) (some screen)
        actions := by
  have lays : screen.Lays [] := by
    obtain ⟨board, same⟩ := fresh.playerBoard
    exact ⟨same ▸ Board.laid_clearBoard board, by simp, fresh.currentOrientation⟩
  have agree : screen.FlagsAgree := by
    rw [lays.flagsAgree_iff]
    intro i
    simp [fresh.shipsPlaced i]
  refine always_iff_respects actStep
    (fun state => ∀ screen ∈ state, ∃ placements, PlacementScreen.Lays screen placements)
    (motive := Agrees) ?_ ?_ (lays.agrees.mpr agree) ?_ actions
  · rintro _ ⟨⟩
    exact ⟨[], lays⟩
  · rintro state action sound next reached
    obtain ⟨screen, rfl, done⟩ := Option.bind_eq_some_iff.mp reached
    obtain ⟨placements, lays⟩ := sound screen rfl
    exact lays.act done
  · rintro _ action sound ⟨screen, rfl, agree, -⟩
    obtain ⟨placements, lays⟩ := sound screen rfl
    simp only [actStep, Option.bind_some, Option.mem_def, Option.some.injEq, forall_eq']
    exact lays.act_agrees_iff agree action

def freshScreen : PlacementScreen := ⟨Board.new.clearBoard, fun _ => false, 0, .horizontal⟩

theorem freshScreen_isReset : freshScreen.IsReset :=
  ⟨⟨Board.new, rfl⟩, fun _ => rfl, Or.inl rfl⟩

def fillRows : List PlacementAction :=
  (List.range numShips).map fun row : Nat => .boardPress row 0

/-- A fleet is placed and the cruiser taken away: the destroyer is still selected. -/
def destroyerTwice : List PlacementAction := fillRows ++ [.deleteButton 2, .boardPress 7 0]

theorem fillRows_alwaysAgrees_iff : freshScreen.AlwaysAgrees fillRows ↔
    Respects actStep (fun state action => ∀ screen ∈ state, ¬screen.Doubles action)
      (some freshScreen) fillRows :=
  alwaysAgrees_iff freshScreen_isReset fillRows

theorem not_alwaysAgrees_destroyerTwice : ¬freshScreen.AlwaysAgrees destroyerTwice := by
  intro always
  obtain ⟨reached, done, agree, -⟩ := always destroyerTwice List.prefix_rfl
  have twice : (exec actStep (some freshScreen) destroyerTwice).all
      (fun screen => screen.shipsPlaced 4 && screen.playerBoard.heldOf .destroyer = 2) = true := by
    decide +kernel
  rw [done, Option.all_some, Bool.and_eq_true, decide_eq_true_eq] at twice
  have once := (agree 4).1.mp twice.1
  have numbered : ShipType.numbered 4 = .destroyer := rfl
  rw [numbered, twice.2] at once
  omega

end PlacementScreen

end Battleship
