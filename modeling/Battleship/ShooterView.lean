import Battleship.MoveResults
import Battleship.SunkInference

/-! The shooter's picture of the opponent's board against the board itself. The
client does not replay its shots but overwrites cells from the reported results:
a second shot at a hit cell is reported as a miss, and a ship that is sunk may be
put where nothing has been shot. -/

namespace Battleship

open Machine

theorem foldl_shipSunk {found : Ship → Prop} [DecidablePred found] {type : ShipType}
    {ships : List Ship} (only : ∀ ship ∈ ships, found ship → ship.shipType = type) :
    ∀ first : ShipType, (first = type ∨ ∃ ship ∈ ships, found ship) →
      ships.foldl (fun before ship => if found ship then ship.shipType else before) first = type := by
  induction ships with
  | nil => simp
  | cons head rest ih =>
      intro first witness
      refine ih (fun ship member => only ship (by simp [member])) _ ?_
      dsimp only
      by_cases here : found head
      · rw [if_pos here]
        exact Or.inl (only head (by simp) here)
      · rw [if_neg here]
        rcases witness with same | ⟨ship, member, holds⟩
        · exact Or.inl same
        · rcases List.mem_cons.mp member with rfl | inRest
          · exact absurd holds here
          · exact Or.inr ⟨ship, inRest, holds⟩

/-- The type that is reported is that of the ship the shot sank. -/
theorem shipSunk_eq {board : Board} {fleet : Fleet} {shots : Finset Cell} {pos : Coordinate}
    {cell : Cell} {i : Fin numShips} (after : board.AfterShots fleet shots)
    (addressed : cellAt? pos.row.toInt pos.col.toInt = some cell)
    (inside : cell ∈ fleet.family.cells i) (sunk : fleet.family.Sunk shots i) :
    Server.shipSunk board .sunk pos = (fleet.ship i).type := by
  have type (j : Fin numShips) : (fleet.shipAfter shots j).shipType = (fleet.ship j).type :=
    ShipType.byte_roundTrip (fleet.type_mem (fleet.ship_mem j))
  have listed (ship : Ship) : ship ∈ board.ships.toList ↔
      ∃ j, fleet.shipAfter shots j = ship := by
    rw [List.mem_iff_getElem]
    constructor
    · rintro ⟨j, bound, rfl⟩
      exact ⟨⟨j, by simpa using bound⟩, (after.ships _).symm⟩
    · rintro ⟨j, rfl⟩
      refine ⟨j, by simp, ?_⟩
      rw [Vector.getElem_toList]
      exact after.ships j
  rw [Server.shipSunk, if_pos rfl]
  apply foldl_shipSunk
  · intro ship member found
    obtain ⟨j, rfl⟩ := (listed ship).mp member
    have also := (Board.covers_iff addressed).mp found.2.2
    rw [Fleet.shipAfter_cells] at also
    rw [type, Targets.Family.owner_unique also inside]
  · refine Or.inr ⟨fleet.shipAfter shots i, (listed _).mpr ⟨i, rfl⟩, ?_, ?_, ?_⟩
    · simp [Fleet.shipAfter, sunk]
    · rw [(fleet.hits_eq_length_iff shots i).mpr sunk]
      exact UInt8.le_refl _
    · rw [Board.covers_iff addressed, Fleet.shipAfter_cells]
      exact inside

def UIManager.sees (ui : UIManager) (target : Board) (pos : Coordinate) : Option UIManager :=
  let shot := target.processShot pos
  ui.onOwnShot pos shot.2 (Server.shipSunk shot.1 shot.2 pos)

/-- What a report does to the shooter's picture of a fleet of which these cells
have been shot, and the cells shot afterwards. -/
inductive Report (fleet : Fleet) (shots : Finset Cell) (pos : Coordinate) (before : Board) :
    Finset Cell → ShotResult → Option Board → Prop
  | off (outside : cellAt? pos.row.toInt pos.col.toInt = none) :
      Report fleet shots pos before shots .miss (some before)
  | again {cell : Cell} (addressed : cellAt? pos.row.toInt pos.col.toInt = some cell)
      (shot : cell ∈ shots) : Report fleet shots pos before shots .miss
        (some (before.setCell pos.row.toInt pos.col.toInt .miss))
  | water {cell : Cell} (addressed : cellAt? pos.row.toInt pos.col.toInt = some cell)
      (unshot : cell ∉ shots) (open_water : ¬fleet.family.Covered cell) :
      Report fleet shots pos before (insert cell shots) .miss
        (some (before.setCell pos.row.toInt pos.col.toInt .miss))
  | hit {cell : Cell} {i : Fin numShips}
      (addressed : cellAt? pos.row.toInt pos.col.toInt = some cell) (unshot : cell ∉ shots)
      (inside : cell ∈ fleet.family.cells i)
      (afloat : ¬fleet.family.Sunk (insert cell shots) i) :
      Report fleet shots pos before (insert cell shots) .hit
        (some (before.setCell pos.row.toInt pos.col.toInt .hit))
  | sunk {cell : Cell} {i : Fin numShips}
      (addressed : cellAt? pos.row.toInt pos.col.toInt = some cell) (unshot : cell ∉ shots)
      (inside : cell ∈ fleet.family.cells i) (sinks : fleet.family.Sunk (insert cell shots) i) :
      Report fleet shots pos before (insert cell shots) .sunk
        (before.revealSunk pos.row.toInt pos.col.toInt (fleet.ship i).type)

section Reports

variable {target : Board} {fleet : Fleet} {shots : Finset Cell}

theorem Board.setCell_off (board : Board) {row col : Int} (outside : cellAt? row col = none)
    (state : CellState) : board.setCell row col state = board := by
  simp [setCell, outside]

theorem Board.AfterShots.report (after : target.AfterShots fleet shots) (ui : UIManager)
    (pos : Coordinate) : ∃ later, (target.processShot pos).1.AfterShots fleet later ∧
      Report fleet shots pos ui.opponentBoard later (target.processShot pos).2
        ((ui.sees target pos).map UIManager.opponentBoard) := by
  unfold UIManager.sees
  cases addressed : cellAt? pos.row.toInt pos.col.toInt with
  | none =>
      rw [processShot_off_board addressed]
      refine ⟨shots, after, ?_⟩
      have same := setCell_off ui.opponentBoard addressed .miss
      simpa [UIManager.onOwnShot, same] using Report.off addressed
  | some cell =>
      by_cases shot : cell ∈ shots
      · rw [after.processShot_again addressed shot]
        exact ⟨shots, after, .again addressed shot⟩
      by_cases covered : fleet.family.Covered cell
      · obtain ⟨i, inside⟩ := covered
        obtain ⟨later, result⟩ := after.processShot_ship addressed shot inside
        refine ⟨_, later, ?_⟩
        dsimp only
        rw [result]
        split
        next sinks =>
          rw [shipSunk_eq later addressed inside sinks]
          have revealed : Report fleet shots pos ui.opponentBoard _ _ _ :=
            .sunk addressed shot inside sinks
          simpa [UIManager.onOwnShot, Option.map_map, Function.comp_def] using revealed
        next afloat => exact .hit addressed shot inside afloat
      · obtain ⟨later, result⟩ := after.processShot_water addressed shot covered
        refine ⟨_, later, ?_⟩
        dsimp only
        rw [result]
        exact .water addressed shot covered

/-- The client's part of the invariant: it has room for the ships still to be sunk,
the ships on its record have been sunk, and no cell that was shot is empty. -/
structure Follows (fleet : Fleet) (shots : Finset Cell) (client : Board) : Prop where
  room : client.shipsCount + (fleet.family.afloat shots).card ≤ numShips
  recorded : ∀ slot : Fin numShips, slot.val < client.shipsCount →
    ∃ i, fleet.family.Sunk shots i ∧
      (Board.shipAt client.ships slot).placed.type = (fleet.ship i).type
  taken : ∀ cell ∈ shots, client.grid cell ≠ .empty

theorem follows_new (fleet : Fleet) : Follows fleet ∅ Board.new where
  room := by simp [Board.new, Targets.Family.afloat_none]
  recorded := by simp [Board.new]
  taken := by simp

variable {before : Board} {pos : Coordinate}

theorem Follows.kept (follows : Follows fleet shots before) {cell : Cell} {after : Board}
    (count : after.shipsCount = before.shipsCount) (ships : after.ships = before.ships)
    (taken : ∀ other ∈ insert cell shots, after.grid other ≠ .empty) :
    Follows fleet (insert cell shots) after where
  room := by
    have fewer := Finset.card_le_card (fleet.family.afloat_insert_subset shots cell)
    rw [count]
    exact (Nat.add_le_add_left fewer _).trans follows.room
  recorded := by
    intro slot within
    obtain ⟨i, sunk, type⟩ := follows.recorded slot (count ▸ within)
    exact ⟨i, sunk.insert cell, ships ▸ type⟩
  taken := taken

theorem Follows.setCell (follows : Follows fleet shots before) {row col : Int} {cell : Cell}
    (addressed : cellAt? row col = some cell) {state : CellState} (filled : state ≠ .empty) :
    Follows fleet (insert cell shots) (before.setCell row col state) := by
  rw [Board.setCell_of_addressed addressed]
  refine follows.kept rfl rfl fun other shot => ?_
  by_cases same : other = cell
  · subst same
    simpa using filled
  · simpa [same] using follows.taken other (Finset.mem_of_mem_insert_of_ne shot same)

theorem Follows.struck (follows : Follows fleet shots before) {row col : Int} {cell : Cell}
    (addressed : cellAt? row col = some cell) :
    Follows fleet (insert cell shots) (before.struck row col).board := by
  refine follows.kept (Board.struck_count before) (Board.struck_ships before) fun other shot empty => ?_
  obtain ⟨untouched, different⟩ := (Board.struck_grid_empty_iff _ addressed other).mp empty
  exact follows.taken other (Finset.mem_of_mem_insert_of_ne shot different) untouched

theorem Follows.hasRoom (follows : Follows fleet shots before) {cell : Cell} {i : Fin numShips}
    (inside : cell ∈ fleet.family.cells i) (unshot : cell ∉ shots) :
    before.shipsCount < numShips := by
  have afloat := (Targets.Family.mem_afloat i).mpr
    (Targets.Family.not_sunk_of_unshot inside unshot)
  have positive := Finset.card_pos.mpr ⟨i, afloat⟩
  have := follows.room
  omega

theorem Follows.misplaces (follows : Follows fleet shots before) {cell : Cell} {i : Fin numShips}
    (unshot : cell ∉ shots) (inside : cell ∈ fleet.family.cells i)
    (sinks : fleet.family.Sunk (insert cell shots) i) {after : Board}
    (misplaces : Board.Misplaces cell (fleet.ship i).type before after) :
    Follows fleet (insert cell shots) after := by
  refine ⟨?_, ?_, ?_⟩
  · have fewer := Targets.Family.card_afloat_insert_of_sunk inside unshot sinks
    have := follows.room
    rw [misplaces.count]
    omega
  · intro slot within
    rw [misplaces.count] at within
    by_cases last : slot.val = before.shipsCount
    · exact ⟨i, sinks, (misplaces.last slot last).1⟩
    · obtain ⟨j, sunk, type⟩ := follows.recorded slot (by omega)
      rw [misplaces.earlier slot (by omega)]
      exact ⟨j, sunk.insert cell, type⟩
  · intro other shot
    apply misplaces.taken
    intro empty
    by_contra different
    exact follows.taken other (Finset.mem_of_mem_insert_of_ne shot different) empty

theorem Report.follows {later : Finset Cell} {result : ShotResult} {after : Option Board}
    (report : Report fleet shots pos before later result after)
    (follows : Follows fleet shots before) :
    ∃ board, after = some board ∧ Follows fleet later board := by
  cases report with
  | off outside => exact ⟨before, rfl, follows⟩
  | again addressed shot =>
      have filled : CellState.miss ≠ .empty := by simp
      have kept := follows.setCell addressed filled
      rw [Finset.insert_eq_of_mem shot] at kept
      exact ⟨_, rfl, kept⟩
  | water addressed unshot open_water => exact ⟨_, rfl, follows.setCell addressed (by simp)⟩
  | hit addressed unshot inside afloat => exact ⟨_, rfl, follows.setCell addressed (by simp)⟩
  | @sunk cell i addressed unshot inside sinks =>
      have room := follows.hasRoom inside unshot
      have listed := fleet.type_mem (fleet.ship_mem i)
      by_cases aside : before.RoomAside pos.row.toInt pos.col.toInt
          (getShipLength (fleet.ship i).type)
      · obtain ⟨board, revealed, misplaces⟩ := Board.revealSunk_aside addressed listed room aside
        exact ⟨board, revealed, follows.misplaces unshot inside sinks misplaces⟩
      · have sized := getShipLength_of_mem listed
        refine ⟨_, ?_, follows.struck addressed⟩
        rw [Board.revealSunk_eq before addressed (by omega) room, if_neg aside]

end Reports

namespace Board

structure Views (client server : Board) : Prop where
  miss : ∀ cell, client.grid cell = .miss ↔ server.grid cell = .miss
  hit : ∀ cell, client.grid cell = .hit ∨ client.grid cell = .sunk ↔ server.grid cell = .hit
  rest : ∀ cell, server.grid cell ≠ .miss → server.grid cell ≠ .hit → client.grid cell = .empty

def Finishes (board : Board) (pos : Coordinate) (i : Fin numShips) : Prop :=
  ∃ cell, cellAt? pos.row.toInt pos.col.toInt = some cell ∧ cell ∈ (shipAt board.ships i).cells ∧
    board.grid cell ≠ .hit ∧ ∀ other ∈ (shipAt board.ships i).cells, other ≠ cell →
      board.grid other = .hit

/-- The target is not a cell that was hit before, and a ship that the shot finishes
finds no second place in the picture. -/
structure ClearShot (target client : Board) (pos : Coordinate) : Prop where
  fresh : target.getCell pos.row.toInt pos.col.toInt ≠ .hit
  unmistaken : ∀ i, target.Finishes pos i → ¬client.RoomAside pos.row.toInt pos.col.toInt
    (shipAt target.ships i).length.toNat

end Board

def Shows (fleet : Fleet) (shots : Finset Cell) (client : Board) : Prop :=
  ∀ cell, if cell ∈ shots then
    (if fleet.family.Covered cell then client.grid cell = .hit ∨ client.grid cell = .sunk
      else client.grid cell = .miss)
    else client.grid cell = .empty

section Views

variable {target before : Board} {fleet : Fleet} {shots : Finset Cell} {pos : Coordinate}
  {cell : Cell}

theorem Board.AfterShots.views_iff (after : target.AfterShots fleet shots) {client : Board} :
    client.Views target ↔ Shows fleet shots client := by
  have pointwise (cell : Cell) : ((client.grid cell = .miss ↔ target.grid cell = .miss) ∧
      (client.grid cell = .hit ∨ client.grid cell = .sunk ↔ target.grid cell = .hit) ∧
      (target.grid cell ≠ .miss → target.grid cell ≠ .hit → client.grid cell = .empty)) ↔
      if cell ∈ shots then
        (if fleet.family.Covered cell then client.grid cell = .hit ∨ client.grid cell = .sunk
          else client.grid cell = .miss)
        else client.grid cell = .empty := by
    rw [after.grid cell]
    cases client.grid cell <;> split <;> split <;> simp_all
  constructor
  · intro views cell
    exact (pointwise cell).mp ⟨views.miss cell, views.hit cell, views.rest cell⟩
  · intro shows
    exact ⟨fun cell => ((pointwise cell).mpr (shows cell)).1,
      fun cell => ((pointwise cell).mpr (shows cell)).2.1,
      fun cell => ((pointwise cell).mpr (shows cell)).2.2⟩

theorem Board.AfterShots.finishes_iff (after : target.AfterShots fleet shots)
    (addressed : cellAt? pos.row.toInt pos.col.toInt = some cell) (i : Fin numShips) :
    target.Finishes pos i ↔ cell ∈ fleet.family.cells i ∧ cell ∉ shots ∧
      fleet.family.Sunk (insert cell shots) i := by
  simp only [Finishes, addressed, Option.some.injEq, exists_eq_left', after.ships i,
    Fleet.shipAfter_cells]
  constructor
  · rintro ⟨inside, unhit, others⟩
    exact ⟨inside, (after.hit_iff inside).not.mp unhit, after.last_cell_iff.mp others⟩
  · rintro ⟨inside, unshot, sinks⟩
    exact ⟨inside, (after.hit_iff inside).not.mpr unshot, after.last_cell_iff.mpr sinks⟩

theorem Shows.setCell_iff (shows : Shows fleet shots before) {row col : Int}
    (addressed : cellAt? row col = some cell) (state : CellState) :
    Shows fleet (insert cell shots) (before.setCell row col state) ↔
      if fleet.family.Covered cell then state = .hit ∨ state = .sunk else state = .miss := by
  rw [Board.setCell_of_addressed addressed]
  constructor
  · intro shown
    simpa using shown cell
  · intro right other
    by_cases same : other = cell
    · subst same
      simpa using right
    · simpa [same] using shows other

theorem Shows.struck (shows : Shows fleet shots before) {row col : Int}
    (addressed : cellAt? row col = some cell) (covered : fleet.family.Covered cell) :
    Shows fleet (insert cell shots) (before.struck row col).board := by
  have marked := (shows.setCell_iff addressed .sunk).mpr (by simp [covered])
  intro other
  rcases (Board.inferExtent_marks row col (before.setCell row col .sunk)).grid other with
    same | ⟨_, hit, sunk⟩
  · rw [Board.struck, same]
    exact marked other
  · have shown := marked other
    rw [Board.struck, sunk]
    rw [hit] at shown
    split at shown
    · split at shown
      · simp_all
      · simp at shown
    · simp at shown

theorem Board.AfterShots.fresh_iff (after : target.AfterShots fleet shots)
    (addressed : cellAt? pos.row.toInt pos.col.toInt = some cell) :
    target.getCell pos.row.toInt pos.col.toInt ≠ .hit ↔
      ¬(fleet.family.Covered cell ∧ cell ∈ shots) := by
  rw [getCell_of_addressed addressed, after.grid cell]
  split <;> split <;> simp_all

theorem Board.AfterShots.clearShot_iff (after : target.AfterShots fleet shots)
    (addressed : cellAt? pos.row.toInt pos.col.toInt = some cell) :
    target.ClearShot before pos ↔ ¬(fleet.family.Covered cell ∧ cell ∈ shots) ∧
      ∀ i, cell ∈ fleet.family.cells i → cell ∉ shots → fleet.family.Sunk (insert cell shots) i →
        ¬before.RoomAside pos.row.toInt pos.col.toInt (getShipLength (fleet.ship i).type) := by
  have length (i : Fin numShips) : (shipAt target.ships i).length.toNat =
      getShipLength (fleet.ship i).type := by
    rw [after.ships i, Fleet.shipAfter_length]
    exact fleet.card_cells i
  rw [← after.fresh_iff addressed]
  constructor
  · rintro ⟨fresh, unmistaken⟩
    refine ⟨fresh, fun i inside unshot sinks => ?_⟩
    rw [← length]
    exact unmistaken i ((after.finishes_iff addressed i).mpr ⟨inside, unshot, sinks⟩)
  · rintro ⟨fresh, unmistaken⟩
    refine ⟨fresh, fun i finishes => ?_⟩
    obtain ⟨inside, unshot, sinks⟩ := (after.finishes_iff addressed i).mp finishes
    rw [length]
    exact unmistaken i inside unshot sinks

theorem Shows.not_misplaced (shows : Shows fleet shots before) {client : Board}
    {type : ShipType} (room : before.shipsCount < numShips)
    (misplaces : Board.Misplaces cell type before client) :
    ¬Shows fleet (insert cell shots) client := by
  intro shown
  obtain ⟨_, other, _, different, empty, filled⟩ := misplaces.last ⟨before.shipsCount, room⟩ rfl
  have unshot : other ∉ shots := by
    intro shot
    have at_other := shows other
    rw [if_pos shot, empty] at at_other
    split at at_other <;> simp at at_other
  have at_other := shown other
  rw [if_neg (by simp [different, unshot])] at at_other
  exact filled at_other

/-- One report keeps the picture right exactly when the shot was clear. -/
theorem Report.shows_iff (after : target.AfterShots fleet shots) {later : Finset Cell}
    {result : ShotResult} {pictured : Option Board} {client : Board}
    (report : Report fleet shots pos before later result pictured)
    (same : pictured = some client) (follows : Follows fleet shots before)
    (shows : Shows fleet shots before) :
    Shows fleet later client ↔ target.ClearShot before pos := by
  cases report with
  | off outside =>
      obtain rfl := Option.some.inj same
      refine iff_of_true shows ⟨by simp [Board.getCell, outside], ?_⟩
      rintro i ⟨cell, addressed, _⟩
      simp [outside] at addressed
  | @again cell addressed shot =>
      obtain rfl := Option.some.inj same
      have overwritten := shows.setCell_iff addressed .miss
      rw [Finset.insert_eq_of_mem shot] at overwritten
      rw [overwritten, after.clearShot_iff addressed]
      simp [shot]
  | water addressed unshot open_water =>
      obtain rfl := Option.some.inj same
      rw [shows.setCell_iff addressed, after.clearShot_iff addressed]
      simp only [open_water, if_false, unshot, and_false, not_false_eq_true, true_and, true_iff]
      exact fun i inside => absurd ⟨i, inside⟩ open_water
  | @hit cell i addressed unshot inside afloat =>
      obtain rfl := Option.some.inj same
      have covered : fleet.family.Covered cell := ⟨i, inside⟩
      rw [shows.setCell_iff addressed, after.clearShot_iff addressed]
      simp only [covered, if_true, true_or, unshot, and_false, not_false_eq_true, true_and,
        true_iff]
      intro j also _ sinks
      rw [Targets.Family.owner_unique also inside] at sinks
      exact absurd sinks afloat
  | @sunk cell i addressed unshot inside sinks =>
      have room := follows.hasRoom inside unshot
      have listed := fleet.type_mem (fleet.ship_mem i)
      have clear : target.ClearShot before pos ↔ ¬before.RoomAside pos.row.toInt pos.col.toInt
          (getShipLength (fleet.ship i).type) := by
        rw [after.clearShot_iff addressed]
        refine ⟨fun clear => clear.2 i inside unshot sinks, fun clear => ⟨by simp [unshot], ?_⟩⟩
        intro j also _ _
        rwa [Targets.Family.owner_unique also inside]
      rw [clear]
      by_cases aside : before.RoomAside pos.row.toInt pos.col.toInt
          (getShipLength (fleet.ship i).type)
      · obtain ⟨board, revealed, misplaces⟩ := Board.revealSunk_aside addressed listed room aside
        obtain rfl := Option.some.inj (revealed.symm.trans same)
        exact iff_of_false (shows.not_misplaced room misplaces) (not_not.mpr aside)
      · have sized := getShipLength_of_mem listed
        rw [Board.revealSunk_eq before addressed (by omega) room, if_neg aside] at same
        obtain rfl := Option.some.inj same
        exact iff_of_true (shows.struck addressed ⟨i, inside⟩) aside

end Views

theorem UIManager.receive_own {ui : UIManager} {game : MatchState} {call : Call}
    (underway : game.Underway) (accepted : game.Accepts call) (own : call.playerId = ui.userId)
    (matchId : MatchId) : ui.receive (game.moveResult matchId call) =
      ui.sees (game.targetBoard call.playerId) call.target := by
  have played := MatchState.processMove_of_accepts underway.unpaused accepted
  unfold MatchState.moveResult
  rw [played]
  dsimp only
  rw [MatchState.playMove_targetBoard, MatchState.playMove_result]
  exact if_pos own

theorem UIManager.sees_userId {ui later : UIManager} {target : Board} {pos : Coordinate}
    (seen : ui.sees target pos = some later) : later.userId = ui.userId := by
  obtain ⟨board, _, rfl⟩ := Option.map_eq_some_iff.mp seen
  rfl

structure Watch where
  game : MatchState
  client : Option UIManager

namespace Watch

def next (matchId : MatchId) (userId : UserId) (watch : Watch) (call : Call) : Watch where
  game := watch.game.receive call
  client :=
    if watch.game.Accepts call ∧ call.playerId = userId then
      watch.client.bind fun ui => ui.receive (watch.game.moveResult matchId call)
    else watch.client

def ownResults (matchId : MatchId) (userId : UserId) (start : MatchState) (calls : List Call) :
    List Payload :=
  (start.moveResults matchId calls).filter fun payload => payload.shooter? = some userId

theorem ownResults_concat (matchId : MatchId) (userId : UserId) (start : MatchState)
    (calls : List Call) (call : Call) : ownResults matchId userId start (calls ++ [call]) =
      ownResults matchId userId start calls ++
        if (exec MatchState.receive start calls).Accepts call ∧ call.playerId = userId then
          [(exec MatchState.receive start calls).moveResult matchId call] else [] := by
  have shooter : ((exec MatchState.receive start calls).moveResult matchId call).shooter? =
      some call.playerId := rfl
  rw [ownResults, MatchState.moveResults_concat, List.filter_append, ownResults]
  congr 1
  by_cases accepted : (exec MatchState.receive start calls).Accepts call
  · by_cases own : call.playerId = userId <;> simp [accepted, own, shooter]
  · simp [accepted]

theorem exec_next (matchId : MatchId) (userId : UserId) (start : MatchState) (ui : UIManager)
    (calls : List Call) : exec (next matchId userId) ⟨start, some ui⟩ calls =
      ⟨exec MatchState.receive start calls,
        ui.receiveAll (ownResults matchId userId start calls)⟩ := by
  induction calls using List.reverseRecOn with
  | nil => rfl
  | append_singleton calls call ih =>
      rw [exec_append, exec_cons, exec_nil, ih, next, ownResults_concat,
        UIManager.receiveAll_append, exec_append, exec_cons, exec_nil]
      dsimp only
      split
      · simp only [UIManager.receiveAll_singleton]
      · simp

variable (userId : UserId) (fleet : Fleet)

structure Follows (watch : Watch) (shots : Finset Cell) (ui : UIManager) : Prop where
  client : watch.client = some ui
  user : ui.userId = userId
  underway : watch.game.Underway
  seated : watch.game.Seats userId
  after : (watch.game.targetBoard userId).AfterShots fleet shots
  picture : Battleship.Follows fleet shots ui.opponentBoard

def Sound (watch : Watch) : Prop := ∃ shots ui, watch.Follows userId fleet shots ui

def Agrees (watch : Watch) : Prop :=
  ∃ ui, watch.client = some ui ∧ ui.opponentBoard.Views (watch.game.targetBoard userId)

def Clear (watch : Watch) (call : Call) : Prop :=
  watch.game.Accepts call → call.playerId = userId → ∀ ui, watch.client = some ui →
    (watch.game.targetBoard userId).ClearShot ui.opponentBoard call.target

variable {userId fleet} {watch : Watch} {shots : Finset Cell} {ui : UIManager}

theorem Follows.kept (follows : watch.Follows userId fleet shots ui) (matchId : MatchId)
    {call : Call} (foreign : ¬(watch.game.Accepts call ∧ call.playerId = userId)) :
    (next matchId userId watch call).Follows userId fleet shots ui ∧
      (next matchId userId watch call).game.targetBoard userId = watch.game.targetBoard userId := by
  have board : (watch.game.receive call).targetBoard userId = watch.game.targetBoard userId := by
    by_cases accepted : watch.game.Accepts call
    · rw [MatchState.receive_targetBoard follows.underway accepted follows.seated,
        if_neg fun own => foreign ⟨accepted, own⟩]
    · rw [MatchState.receive_of_not_accepts accepted]
  refine ⟨⟨?_, follows.user, follows.underway.receive call,
    MatchState.receive_seats.mpr follows.seated, ?_, follows.picture⟩, board⟩
  · rw [next, if_neg foreign]
    exact follows.client
  · rw [next, board]
    exact follows.after

theorem Follows.shot (follows : watch.Follows userId fleet shots ui) (matchId : MatchId)
    {call : Call} (accepted : watch.game.Accepts call) (own : call.playerId = userId) :
    ∃ later shotsLater, (next matchId userId watch call).Follows userId fleet shotsLater later ∧
      Report fleet shots call.target ui.opponentBoard shotsLater
        ((watch.game.targetBoard userId).processShot call.target).2 (some later.opponentBoard) := by
  obtain ⟨shotsLater, after, report⟩ := follows.after.report ui call.target
  obtain ⟨board, pictured, picture⟩ := report.follows follows.picture
  obtain ⟨later, seen, rfl⟩ := Option.map_eq_some_iff.mp pictured
  rw [seen] at report
  refine ⟨later, shotsLater, ⟨?_, ?_, follows.underway.receive call,
    MatchState.receive_seats.mpr follows.seated, ?_, picture⟩, report⟩
  · rw [next, if_pos ⟨accepted, own⟩, follows.client, Option.bind_some,
      UIManager.receive_own follows.underway accepted (own.trans follows.user.symm), own]
    exact seen
  · exact (UIManager.sees_userId seen).trans follows.user
  · rw [next, MatchState.receive_targetBoard follows.underway accepted follows.seated, if_pos own]
    exact after

theorem next_sound (matchId : MatchId) (watch : Watch) (call : Call)
    (sound : watch.Sound userId fleet) : (next matchId userId watch call).Sound userId fleet := by
  obtain ⟨shots, ui, follows⟩ := sound
  by_cases shoots : watch.game.Accepts call ∧ call.playerId = userId
  · obtain ⟨later, shotsLater, kept, _⟩ := follows.shot matchId shoots.1 shoots.2
    exact ⟨shotsLater, later, kept⟩
  · exact ⟨shots, ui, (follows.kept matchId shoots).1⟩

theorem Follows.agrees_iff (follows : watch.Follows userId fleet shots ui) :
    watch.Agrees userId ↔ Shows fleet shots ui.opponentBoard := by
  rw [← follows.after.views_iff]
  constructor
  · rintro ⟨other, client, views⟩
    obtain rfl := Option.some.inj (follows.client.symm.trans client)
    exact views
  · exact fun views => ⟨ui, follows.client, views⟩

theorem next_agrees_iff (matchId : MatchId) (watch : Watch) (call : Call)
    (sound : watch.Sound userId fleet) (agrees : watch.Agrees userId) :
    (next matchId userId watch call).Agrees userId ↔ watch.Clear userId call := by
  obtain ⟨shots, ui, follows⟩ := sound
  have shows := follows.agrees_iff.mp agrees
  by_cases shoots : watch.game.Accepts call ∧ call.playerId = userId
  · obtain ⟨later, shotsLater, kept, report⟩ := follows.shot matchId shoots.1 shoots.2
    rw [kept.agrees_iff, report.shows_iff follows.after rfl follows.picture shows]
    constructor
    · intro clear _ _ other client
      obtain rfl := Option.some.inj (follows.client.symm.trans client)
      exact clear
    · intro clear
      exact clear shoots.1 shoots.2 ui follows.client
  · have kept := (follows.kept matchId shoots).1
    rw [kept.agrees_iff]
    exact iff_of_true shows fun accepted own => absurd ⟨accepted, own⟩ shoots

theorem sound_start {start : MatchState} (underway : start.Underway) (seated : start.Seats ui.userId)
    (server : (start.targetBoard ui.userId).Holds fleet.ships)
    (blank : ui.opponentBoard = Board.new) :
    (Watch.mk start (some ui)).Sound ui.userId fleet :=
  ⟨∅, ui, rfl, rfl, underway, seated, server.afterShots, blank ▸ follows_new fleet⟩

theorem agrees_start {start : MatchState}
    (server : (start.targetBoard ui.userId).Holds fleet.ships)
    (blank : ui.opponentBoard = Board.new) : (Watch.mk start (some ui)).Agrees ui.userId := by
  refine ⟨ui, rfl, server.afterShots.views_iff.mpr ?_⟩
  intro cell
  simp [blank, Board.new]

/-- The shooter's picture agrees with the board after every MOVE_RESULT exactly when
each of the shots was clear. -/
theorem opponentBoard_agrees_iff {start : MatchState} (underway : start.Underway)
    (matchId : MatchId) (seated : start.Seats ui.userId)
    (server : (start.targetBoard ui.userId).Holds fleet.ships)
    (blank : ui.opponentBoard = Board.new) (calls : List Call) :
    (∀ early, early <+: calls →
      ∃ later, ui.receiveAll ((start.moveResults matchId early).filter
          fun payload => payload.shooter? = some ui.userId) = some later ∧
        later.opponentBoard.Views ((exec MatchState.receive start early).targetBoard ui.userId)) ↔
    ∀ before call, StepOf calls before call →
      (exec MatchState.receive start before).Accepts call → call.playerId = ui.userId →
      ∀ later, ui.receiveAll ((start.moveResults matchId before).filter
          fun payload => payload.shooter? = some ui.userId) = some later →
        ((exec MatchState.receive start before).targetBoard ui.userId).ClearShot later.opponentBoard
          call.target := by
  have decided := always_iff_respects (next matchId ui.userId) (Sound ui.userId fleet)
    (sound_start underway seated server blank) (next_sound matchId) (agrees_start server blank)
    (next_agrees_iff matchId) calls
  simp only [exec_next, Respects] at decided
  exact decided

end Watch

theorem rowsClient_picture :
    let calls : List Call := [⟨101, 9, ⟨4, 0⟩⟩, ⟨102, 9, ⟨4, 1⟩⟩, ⟨103, 9, ⟨9, 9⟩⟩, ⟨104, 7, ⟨0, 0⟩⟩]
    (∀ early, early <+: calls →
      ∃ later, (rowsClient 9).receiveAll ((rowsMatch.moveResults 1 early).filter
          fun payload => payload.shooter? = some 9) = some later ∧
        later.opponentBoard.Views ((exec MatchState.receive rowsMatch early).targetBoard 9)) ↔
    ∀ before call, StepOf calls before call →
      (exec MatchState.receive rowsMatch before).Accepts call → call.playerId = 9 →
      ∀ later, (rowsClient 9).receiveAll ((rowsMatch.moveResults 1 before).filter
          fun payload => payload.shooter? = some 9) = some later →
        ((exec MatchState.receive rowsMatch before).targetBoard 9).ClearShot later.opponentBoard
          call.target :=
  have server : (rowsMatch.targetBoard (rowsClient 9).userId).Holds rowsFleet.ships := rowsBoard_holds
  Watch.opponentBoard_agrees_iff rowsMatch_underway 1 (Or.inr rfl) server rfl _

def doubleFire : List Call := [⟨101, 9, ⟨0, 0⟩⟩, ⟨102, 9, ⟨0, 0⟩⟩]

theorem doubleFire_disagrees : ¬∃ later,
    (rowsClient 9).receiveAll ((rowsMatch.moveResults 1 doubleFire).filter
        fun payload => payload.shooter? = some (rowsClient 9).userId) = some later ∧
      later.opponentBoard.Views ((exec MatchState.receive rowsMatch doubleFire).targetBoard 9) := by
  rintro ⟨later, received, views⟩
  have client : ((rowsClient 9).receiveAll ((rowsMatch.moveResults 1 doubleFire).filter
      fun payload => payload.shooter? = some (rowsClient 9).userId)).map
        (fun ui => ui.opponentBoard.grid (0, 0)) = some .miss := by decide
  have server : ((exec MatchState.receive rowsMatch doubleFire).targetBoard 9).grid (0, 0) = .hit := by
    decide
  rw [received] at client
  have missed := (views.miss (0, 0)).mp (Option.some.inj client)
  simp [server] at missed

end Battleship
