import Battleship.PlacementCheck
import Battleship.RandomPlacement

/-! The fleet on its way from the placement screen to the server: with the randomize
button the screen may call itself ready before five ships are on its board. What the ready
button sends is a fleet to the server exactly when it is one on the screen, and the server
then loads the very board that the player has laid. -/

namespace Battleship

open Machine

namespace Board

variable {board next : Board} {placements : List Placement} {placement : Placement}

def Records (board : Board) (type : ShipType) : Prop :=
  ∃ i : Fin numShips, 0 < (shipAt board.ships i).length ∧ (shipAt board.ships i).shipType = type

theorem withShip_records {room : board.shipsCount < numShips} (stored : placement.Stored)
    {type : ShipType} (records : (board.withShip placement room).Records type) :
    board.Records type ∨ placement.type = type := by
  obtain ⟨i, sized, named⟩ := records
  simp only [withShip, shipAt, Fin.getElem_fin, Vector.getElem_set] at sized named
  split at named
  next last => exact Or.inr ((placedShip_shipType stored).symm.trans named)
  next other =>
    rw [if_neg other] at sized
    exact Or.inl ⟨i, sized, named⟩

/-- The loop moves records up and makes no new ones. -/
theorem removeShip_slots {type : ShipType} {answer : Bool}
    (removed : board.removeShip type = some (next, answer)) (i : Fin numShips) :
    ∃ j, shipAt next.ships i = shipAt board.ships j := by
  unfold Board.removeShip at removed
  split at removed
  next =>
    simp only [Option.some.injEq, Prod.mk.injEq] at removed
    exact ⟨i, by rw [removed.1]⟩
  next found hit =>
    dsimp only at removed
    split at removed
    next => cases removed
    split at removed
    next => cases removed
    next shifted moved =>
      simp only [Option.some.injEq, Prod.mk.injEq] at removed
      obtain ⟨rfl, -⟩ := removed
      have few := board.shipsCount_le
      obtain ⟨same, done, slots⟩ := shiftShips_eq (board.shipsCount - 1 - found) found board.ships
        (by have := found.isLt; omega)
      obtain rfl := Option.some.inj (done.symm.trans moved)
      have slot := slots i
      rw [Vector.getElem?_eq_getElem i.isLt] at slot
      split at slot
      next between =>
        have inside : i.val + 1 < numShips := by omega
        rw [Vector.getElem?_eq_getElem inside, Option.some.injEq] at slot
        exact ⟨⟨i + 1, inside⟩, slot⟩
      next =>
        rw [Vector.getElem?_eq_getElem i.isLt, Option.some.injEq] at slot
        exact ⟨i, slot⟩

theorem removeShip_records {type other : ShipType} {answer : Bool}
    (removed : board.removeShip type = some (next, answer)) (records : next.Records other) :
    board.Records other := by
  obtain ⟨i, sized, named⟩ := records
  obtain ⟨j, same⟩ := removeShip_slots removed i
  rw [same] at sized named
  exact ⟨j, sized, named⟩

theorem Tidy.mem_of_records (tidy : board.Tidy placements) {type : ShipType}
    (records : board.Records type) : type ∈ placements.map Placement.type := by
  obtain ⟨i, sized, named⟩ := records
  by_cases placed : i.val < placements.length
  · have member : placements[i.val] ∈ placements := List.getElem_mem placed
    rw [tidy.laid.shipAt i placed, Fin.getElem_fin,
      placedShip_shipType (tidy.laid.stored _ member)] at named
    exact named ▸ List.mem_map_of_mem member
  · rw [tidy.tail i (by omega)] at sized
    exact absurd sized (by decide)

/-- Every slot is in use, so the ships determine the board. -/
theorem Holds.eq_of_full {first second : Board} (left : first.Holds placements)
    (right : second.Holds placements) (full : placements.length = numShips) : first = second := by
  have same := left.samePlaced right
  have ships : first.ships = second.ships := by
    apply Vector.ext
    intro i inside
    exact same.ships ⟨i, inside⟩ (by rw [left.count, full]; exact inside)
  obtain ⟨grid, _, count, remaining, _⟩ := first
  obtain ⟨_, _, _, _, _⟩ := second
  obtain ⟨sameGrid, sameCount, sameRemaining, -⟩ := same
  simp only at sameGrid sameCount sameRemaining ships
  subst sameGrid sameCount sameRemaining ships
  rfl

end Board

theorem Seen.mark_isSome {type : ShipType} (listed : type ∈ ShipType.all) (seen : Seen) :
    (seen.mark type).isSome := by
  cases type with
  | unlisted value => exact absurd listed (by simp [ShipType.all])
  | _ => rfl

theorem ShipAccepted.checkShip {ship : Ship} (accepted : ShipAccepted ship) (seen : Seen) :
    (checkShip seen ship).isSome := by
  obtain ⟨row, col⟩ := And.intro accepted.row accepted.col
  unfold Battleship.checkShip
  split
  next =>
    obtain ⟨marked, done⟩ := Option.isSome_iff_exists.mp
      (Seen.mark_isSome accepted.type { seen with shipCount := seen.shipCount + 1 })
    rw [done]
    dsimp only
    rw [if_neg (not_not.mpr accepted.length), if_neg (by omega)]
    split
    next across =>
      rw [if_neg (by have := accepted.right across; omega)]
      rfl
    next down =>
      rw [if_neg (by have := accepted.bottom down; omega)]
      rfl
  next => rfl

theorem foldlM_checkShip_isSome : ∀ {ships : List Ship}, (∀ ship ∈ ships, ShipAccepted ship) →
    ∀ seen, (ships.foldlM checkShip seen).isSome := by
  intro ships
  induction ships with
  | nil => exact fun _ _ => rfl
  | cons ship rest ih =>
      intro accepted seen
      obtain ⟨next, passed⟩ :=
        Option.isSome_iff_exists.mp ((accepted ship (by simp)).checkShip seen)
      rw [List.foldlM_cons, passed]
      exact ih (fun other member => accepted other (List.mem_cons_of_mem _ member)) next

theorem validateShipPlacement_of_accepted {ships : Vector Ship numShips}
    (accepted : ∀ ship ∈ ships.toList, ShipAccepted ship)
    (oneOfEach : (ships.toList.map Ship.shipType).Perm ShipType.all) :
    validateShipPlacement ships = true := by
  obtain ⟨final, done⟩ := Option.isSome_iff_exists.mp
    (foldlM_checkShip_isSome accepted Seen.start)
  obtain ⟨-, count, flags⟩ := foldlM_checkShip done
  have sized : ∀ ship ∈ ships.toList, 0 < ship.length := by
    intro ship member
    have length := (accepted ship member).length
    have positive := getShipLength_of_mem (accepted ship member).type
    rw [UInt8.lt_iff_toNat_lt, length]
    exact Nat.lt_of_lt_of_le (by decide) positive
  have five : final.shipCount = 5 := by
    rw [count, List.countP_eq_length.mpr (by simpa using sized)]
    simp [Seen.start]
  have seen (type : ShipType) (listed : type ∈ ShipType.all) : final.has type = true := by
    obtain ⟨ship, member, same⟩ := List.mem_map.mp (oneOfEach.symm.subset listed)
    exact (flags type).mpr (Or.inr ⟨ship, member, sized ship member, same.symm⟩)
  have carrier : final.hasCarrier = true := seen .carrier (by decide)
  have battleship : final.hasBattleship = true := seen .battleship (by decide)
  have cruiser : final.hasCruiser = true := seen .cruiser (by decide)
  have submarine : final.hasSubmarine = true := seen .submarine (by decide)
  have destroyer : final.hasDestroyer = true := seen .destroyer (by decide)
  unfold validateShipPlacement
  rw [done]
  simp [five, carrier, battleship, cruiser, submarine, destroyer]

namespace Board

variable {board : Board} {placements : List Placement}

theorem Laid.shipAccepted (laid : board.Laid placements) {placement : Placement}
    (member : placement ∈ placements) (listed : placement.type ∈ ShipType.all)
    (oriented : placement.orientation.Listed) :
    ShipAccepted (placedShip placement.type placement.pos placement.orientation) := by
  have stored := laid.stored placement member
  have inBounds := laid.inBounds placement member
  have sized : 0 < getShipLength placement.type :=
    Nat.lt_of_lt_of_le (by decide) (getShipLength_of_mem listed)
  obtain ⟨rowOk, colOk, right, bottom⟩ := fits_of_inBounds sized inBounds
  obtain ⟨cell, start⟩ := Option.isSome_iff_exists.mp (inBounds 0 sized)
  rw [shipCell?, cellAt?_eq_some] at start
  simp only [cellRow, cellCol, Nat.cast_zero, ite_self, Int.add_zero] at start
  have length : (placedShip placement.type placement.pos placement.orientation).length.toNat =
      getShipLength placement.type := getShipLength_byte _
  have direction := stored.placedShip_direction
  have rows := cell.1.isLt
  have cols := cell.2.isLt
  refine ⟨?_, ?_, ⟨rowOk, ?_⟩, ⟨colOk, ?_⟩, ?_, ?_⟩
  · rwa [placedShip_shipType stored]
  · rw [length, placedShip_shipType stored]
  · change placement.pos.row.toInt < _
    omega
  · change placement.pos.col.toInt < _
    omega
  · rw [direction, length]
    exact right
  · rw [direction, length]
    intro down
    exact bottom (oriented.resolve_left down)

theorem Laid.toList_of_full (laid : board.Laid placements) (full : placements.length = numShips) :
    board.ships.toList = placements.map fun placement =>
      placedShip placement.type placement.pos placement.orientation := by
  rw [← laid.placedShips, Board.placedShips, laid.holds.count, full,
    List.take_of_length_le (by simp)]

theorem placement_placedShip {placement : Placement} (stored : placement.Stored) :
    (placedShip placement.type placement.pos placement.orientation).placement = placement := by
  rw [Ship.placement, placedShip_shipType stored, stored.placedShip_direction]
  rfl

/-- A complete fleet passes the check, and what is loaded from its text is the same board. -/
theorem Laid.ready (laid : board.Laid placements)
    (oneOfEach : (placements.map Placement.type).Perm ShipType.all)
    (oriented : ∀ placement ∈ placements, placement.orientation.Listed) :
    validateShipPlacement board.ships = true ∧
      ∀ server, loadShips server (encodeShips board.ships) = some board := by
  have full : placements.length = numShips := by
    rw [← List.length_map (f := Placement.type), oneOfEach.length_eq]
    rfl
  have ships := laid.toList_of_full full
  constructor
  · apply validateShipPlacement_of_accepted
    · rw [ships]
      intro ship member
      obtain ⟨placement, inside, rfl⟩ := List.mem_map.mp member
      exact laid.shipAccepted inside (oneOfEach.subset (List.mem_map_of_mem inside))
        (oriented placement inside)
    · rwa [ships, ← laid.placedShips, laid.map_shipType]
  · intro server
    have named : board.ships.toList.map Ship.placement = placements := by
      rw [ships, List.map_map]
      calc placements.map _ = placements.map id := List.map_congr_left fun placement member =>
            placement_placedShip (laid.stored placement member)
        _ = placements := List.map_id _
    have inside : ∀ placement ∈ placements, Fits placement ∧ placement.InBounds := by
      intro placement member
      have sized := getShipLength_of_mem (oneOfEach.subset (List.mem_map_of_mem member))
      have inBounds := laid.inBounds placement member
      exact ⟨fits_of_inBounds (by omega) inBounds, inBounds⟩
    obtain ⟨loaded, kept, done, -, holds, -, whole⟩ := loadPlacements_kept placements []
      server.clearBoard (holds_clearBoard server) (by simpa using laid.length_le) inside
      List.Pairwise.nil
    rw [whole laid.apart, List.nil_append] at holds
    rw [loadShips_encodeShips, named, done, holds.eq_of_full laid.holds full]

/-- The check passes only when there is a record of each type. -/
theorem records_of_accepted (accepted : validateShipPlacement board.ships = true)
    {type : ShipType} (listed : type ∈ ShipType.all) : board.Records type := by
  obtain ⟨fine, oneOfEach⟩ := validateShipPlacement_accepted accepted
  rw [List.map_map] at oneOfEach
  obtain ⟨ship, member, same⟩ := List.mem_map.mp (oneOfEach.symm.subset listed)
  have sized : 0 < ship.length := by
    have positive := getShipLength_of_mem (fine ship member).type
    rw [UInt8.lt_iff_toNat_lt, (fine ship member).length]
    exact Nat.lt_of_lt_of_le (by decide) positive
  obtain ⟨i, bound, rfl⟩ := List.mem_iff_getElem.mp member
  rw [Vector.length_toList] at bound
  exact ⟨⟨i, bound⟩, sized, same⟩

end Board

namespace PlacementScreen

inductive ScreenAction
  | act (action : PlacementAction)
  | randomButton (rand : Nat → Nat)

def randomPlaceAllShips (rand : Nat → Nat) (screen : PlacementScreen) : Option PlacementScreen :=
  (screen.playerBoard.randomPlacement rand).map fun board =>
    { screen with
      playerBoard := board
      shipsPlaced := fun _ => true }

def press (screen : PlacementScreen) : ScreenAction → Option PlacementScreen
  | .act action => screen.act action
  | .randomButton rand => screen.randomPlaceAllShips rand

def pressStep (state : Option PlacementScreen) (action : ScreenAction) : Option PlacementScreen :=
  state.bind fun screen => screen.press action

/-- A flag that is set without a ship is one that the randomize button set, and then there
is no record of such a ship in any slot. -/
structure Backed (drawn : Prop) (screen : PlacementScreen) (placements : List Placement) : Prop where
  lays : screen.Lays placements
  oriented : ∀ placement ∈ placements, placement.orientation.Listed
  flags : ∀ i, screen.shipsPlaced i = true → .numbered i ∈ placements.map Placement.type ∨
    (drawn ∧ ¬screen.playerBoard.Records (.numbered i))

variable {drawn : Prop} {screen next : PlacementScreen} {placements : List Placement}
  {row col : Int}

theorem IsReset.backed (fresh : screen.IsReset) : Backed drawn screen [] := by
  obtain ⟨board, same⟩ := fresh.playerBoard
  refine ⟨⟨same ▸ Board.laid_clearBoard board, by simp, fresh.currentOrientation⟩, by simp, ?_⟩
  intro i placed
  rw [fresh.shipsPlaced i] at placed
  cases placed

theorem Backed.withShipAt (backed : Backed drawn screen placements)
    (valid : screen.playerBoard.isValidPlacement (.numbered screen.selectedShipType)
      ⟨.ofInt row, .ofInt col⟩ screen.currentOrientation = some true)
    (room : screen.playerBoard.shipsCount < numShips) :
    Backed drawn (screen.withShipAt row col room) (placements ++ [screen.attempt row col]) := by
  refine ⟨backed.lays.withShipAt valid room, ?_, ?_⟩
  · intro placement member
    rcases List.mem_append.mp member with early | last
    · exact backed.oriented placement early
    · rw [List.mem_singleton.mp last]
      exact backed.lays.oriented
  · intro i placed
    change Function.update screen.shipsPlaced screen.selectedShipType true i = true at placed
    rw [List.map_append, List.map_singleton, List.mem_append, List.mem_singleton]
    by_cases same : i = screen.selectedShipType
    · exact Or.inl (Or.inr (congrArg ShipType.numbered same))
    rw [Function.update_of_ne same] at placed
    rcases backed.flags i placed with laid | ⟨random, absent⟩
    · exact Or.inl (Or.inl laid)
    · refine Or.inr ⟨random, fun records => ?_⟩
      rcases Board.withShip_records (backed.lays.attempt_stored row col) records with old | new
      · exact absent old
      · exact same (ShipType.numbered_injective new).symm

theorem Backed.placeShipAt (backed : Backed drawn screen placements)
    (rows : 0 ≤ row ∧ row < boardSize) (cols : 0 ≤ col ∧ col < boardSize)
    (done : screen.placeShipAt row col = some next) : ∃ later, Backed drawn next later := by
  rcases placeShipAt_outcomes rows cols done with rfl | ⟨room, valid, rfl⟩
  · exact ⟨placements, backed⟩
  · exact ⟨_, backed.withShipAt valid room⟩

theorem Backed.clearShip (backed : Backed drawn screen placements) {i : Fin numShips}
    (done : screen.clearShip i = some next) :
    Backed drawn next (placements.eraseP fun placement => placement.type = .numbered i) := by
  obtain ⟨cleared, same, flags, kept⟩ := backed.lays.clearShip i
  obtain rfl := Option.some.inj (same.symm.trans done)
  obtain ⟨⟨board, answer⟩, removed, rfl⟩ := Option.map_eq_some_iff.mp done
  refine ⟨kept, fun placement member =>
    backed.oriented placement (List.eraseP_subset member), ?_⟩
  intro j placed
  rw [flags] at placed
  by_cases same : j = i
  · subst same
    rw [Function.update_self] at placed
    cases placed
  rw [Function.update_of_ne same] at placed
  rcases backed.flags j placed with laid | ⟨random, absent⟩
  · obtain ⟨placement, member, named⟩ := List.mem_map.mp laid
    have other : placement.type ≠ .numbered i :=
      fun equal => same (ShipType.numbered_injective (named.symm.trans equal))
    exact Or.inl (List.mem_map.mpr
      ⟨placement, (List.mem_eraseP_of_neg (by simpa using other)).mpr member, named⟩)
  · exact Or.inr ⟨random, fun records => absent (Board.removeShip_records removed records)⟩

theorem Backed.act (backed : Backed drawn screen placements) {action : PlacementAction}
    (done : screen.act action = some next) : ∃ later, Backed drawn next later := by
  have moved (lays : next.Lays placements) (flags : next.shipsPlaced = screen.shipsPlaced)
      (board : next.playerBoard = screen.playerBoard) : Backed drawn next placements :=
    ⟨lays, backed.oriented, by rw [flags, board]; exact backed.flags⟩
  obtain ⟨laid, listed, oriented⟩ := backed.lays
  cases action with
  | selectButton i =>
      obtain rfl := Option.some.inj done
      split
      · exact ⟨placements, backed⟩
      next unplaced =>
        rw [if_neg unplaced] at moved
        exact ⟨placements, moved ⟨laid, listed, oriented⟩ rfl rfl⟩
  | rotateButton =>
      obtain rfl := Option.some.inj done
      refine ⟨placements, moved ⟨laid, listed, ?_⟩ rfl rfl⟩
      simp only [toggleShipOrientation]
      split
      · exact Or.inr rfl
      · exact Or.inl rfl
  | boardPress row col =>
      simp only [PlacementScreen.act] at done
      split at done
      next onGrid => exact backed.placeShipAt onGrid.1 onGrid.2 done
      next =>
        obtain rfl := Option.some.inj done
        exact ⟨placements, backed⟩
  | deleteButton i => exact ⟨_, backed.clearShip done⟩
  | clearButton =>
      obtain rfl := Option.some.inj done
      refine ⟨[], lays_clearAllShips oriented, by simp, ?_⟩
      intro i placed
      cases placed

theorem Backed.randomPlaceAllShips (backed : Backed drawn screen placements) (random : drawn)
    {rand : Nat → Nat} (done : screen.randomPlaceAllShips rand = some next) :
    ∃ later, Backed drawn next later := by
  obtain ⟨board, laying, rfl⟩ := Option.map_eq_some_iff.mp done
  obtain ⟨scattered, later, placed, tidy, given⟩ :=
    Board.randomPlacement_tidy rand screen.playerBoard
  obtain rfl := Option.some.inj (laying.symm.trans placed)
  refine ⟨later, ⟨tidy.laid, ?_, backed.lays.oriented⟩, given.listed, ?_⟩
  · exact fun placement member => given.types.subset (List.mem_map_of_mem member)
  · intro i _
    by_cases laid : ShipType.numbered i ∈ later.map Placement.type
    · exact Or.inl laid
    · exact Or.inr ⟨random, fun records => laid (tidy.mem_of_records records)⟩

theorem Backed.press (backed : Backed drawn screen placements) {action : ScreenAction}
    (random : ∀ rand, action = .randomButton rand → drawn)
    (done : screen.press action = some next) : ∃ later, Backed drawn next later := by
  cases action with
  | act action => exact backed.act done
  | randomButton rand => exact backed.randomPlaceAllShips (random rand rfl) done

theorem Backed.reached (fresh : screen.IsReset) {actions : List ScreenAction}
    {reached : PlacementScreen} (run : exec pressStep (some screen) actions = some reached) :
    ∃ placements, Backed (∃ rand, .randomButton rand ∈ actions) reached placements := by
  have random : Respects pressStep (fun _ action => ∀ rand, action = .randomButton rand →
      ∃ rand, .randomButton rand ∈ actions) (some screen) actions := by
    rintro before action ⟨after, rfl⟩ rand rfl
    exact ⟨rand, by simp⟩
  refine invariant_of_respects pressStep (motive := fun state => ∀ screen ∈ state, ∃ placements,
    Backed (∃ rand, .randomButton rand ∈ actions) screen placements) ?_ ?_ actions random reached run
  · rintro _ ⟨⟩
    exact ⟨[], fresh.backed⟩
  · rintro state action random sound next done
    obtain ⟨screen, rfl, pressed⟩ := Option.bind_eq_some_iff.mp done
    obtain ⟨placements, backed⟩ := sound screen rfl
    exact backed.press random pressed

theorem ships_of_readyShips {ships : Vector Ship numShips}
    (sent : screen.readyShips = some ships) :
    screen.playerBoard.ships = ships ∧ ∀ i, screen.shipsPlaced i = true := by
  rw [readyShips] at sent
  split at sent
  next ready =>
    simp only [allShipsPlaced, List.all_eq_true] at ready
    exact ⟨Option.some.inj sent, fun i => ready i (List.mem_finRange i)⟩
  next => cases sent

/-- There are at most five ships, so with one of each type there is one of each only. -/
theorem Backed.oneOfEach (backed : Backed drawn screen placements)
    (all : ∀ i, ShipType.numbered i ∈ placements.map Placement.type) :
    (placements.map Placement.type).Perm ShipType.all := by
  have listed : ShipType.all ⊆ placements.map Placement.type := by
    intro type member
    obtain ⟨i, rfl⟩ := ShipType.exists_numbered member
    exact all i
  have few := backed.lays.laid.length_le
  have distinct : ShipType.all.Nodup := by decide
  exact ((List.subperm_of_subset distinct listed).perm_of_length_le
    (by rw [List.length_map]; exact few)).symm

theorem Backed.accepted_iff (backed : Backed drawn screen placements)
    {ships : Vector Ship numShips} (sent : screen.readyShips = some ships) :
    validateShipPlacement ships = true ↔
      (screen.playerBoard.placedShips.map Ship.shipType).Perm ShipType.all := by
  obtain ⟨rfl, ready⟩ := ships_of_readyShips sent
  rw [backed.lays.laid.map_shipType]
  constructor
  · intro accepted
    apply backed.oneOfEach
    intro i
    have records := Board.records_of_accepted accepted (ShipType.numbered_mem i)
    exact (backed.flags i (ready i)).resolve_right fun absent => absent.2 records
  · exact fun oneOfEach => (backed.lays.laid.ready oneOfEach backed.oriented).1

/-- Unless a sixth ship was placed, after which there is no screen, what the ready button sends
passes the server's check exactly when the screen shows a ship of each type, which only the
randomize button can prevent; and then the server loads the player's board, with every ship in
its slot. -/
theorem ready_agreement (fresh : screen.IsReset) {actions : List ScreenAction}
    {reached : PlacementScreen} (run : exec pressStep (some screen) actions = some reached)
    {ships : Vector Ship numShips} (sent : reached.readyShips = some ships) :
    (validateShipPlacement ships = true ↔
      (reached.playerBoard.placedShips.map Ship.shipType).Perm ShipType.all) ∧
    (validateShipPlacement ships = true →
      ∀ server, loadShips server (encodeShips ships) = some reached.playerBoard) ∧
    ((∀ rand, .randomButton rand ∉ actions) → validateShipPlacement ships = true) := by
  obtain ⟨placements, backed⟩ := Backed.reached fresh run
  have accepted := backed.accepted_iff sent
  obtain ⟨same, ready⟩ := ships_of_readyShips sent
  refine ⟨accepted, ?_, ?_⟩
  · intro passed server
    have oneOfEach := accepted.mp passed
    rw [backed.lays.laid.map_shipType] at oneOfEach
    rw [← same]
    exact (backed.lays.laid.ready oneOfEach backed.oriented).2 server
  · intro chosen
    rw [accepted, backed.lays.laid.map_shipType]
    refine backed.oneOfEach fun i => (backed.flags i (ready i)).resolve_right ?_
    rintro ⟨⟨rand, member⟩, -⟩
    exact chosen rand member

theorem fillRows_ready : ∃ reached ships,
    exec pressStep (some freshScreen) (fillRows.map .act) = some reached ∧
      reached.readyShips = some ships ∧
      loadShips Board.new (encodeShips ships) = some reached.playerBoard := by
  have ready : (exec pressStep (some freshScreen) (fillRows.map .act)).any
      (fun screen => screen.readyShips.isSome) = true := by
    decide +kernel
  obtain ⟨reached, run, sends⟩ := (Option.any_eq_true _ _).mp ready
  obtain ⟨ships, sent⟩ := Option.isSome_iff_exists.mp sends
  obtain ⟨-, loads, accepted⟩ := ready_agreement freshScreen_isReset run sent
  exact ⟨reached, ships, run, sent, loads (accepted (by simp)) Board.new⟩

end PlacementScreen

end Battleship
