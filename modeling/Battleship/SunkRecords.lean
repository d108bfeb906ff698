import Battleship.ShooterView

/-! What the client has on record of a sunk ship. The callback puts the ship on the
board only after its cells have been marked, so that `placeShip` refuses the place
where the ship was: no sunk ship is ever on record there. -/

namespace Battleship

open Machine
open Targets

structure Sighting where
  target : Board
  client : Option UIManager

namespace Sighting

def shoot (sighting : Sighting) (pos : Coordinate) : Sighting where
  target := (sighting.target.processShot pos).1
  client := sighting.client.bind fun ui => ui.sees sighting.target pos

end Sighting

/-- What the callback is meant to do about a ship that was just sunk. -/
structure Reconstructs (ship : Placement) (before after : Board) : Prop where
  marked : ∀ cell, after.grid cell = .sunk ↔ cell ∈ ship.cells ∨ before.grid cell = .sunk
  afloat : ∀ cell, before.grid cell = .hit → cell ∉ ship.cells → after.grid cell = .hit
  recorded : ∃ slot : Fin numShips, slot.val < after.shipsCount ∧
    (Board.shipAt after.ships slot).placed = ship ∧ (Board.shipAt after.ships slot).isSunk = true

theorem Fleet.ship_unique (fleet : Fleet) {i j : Fin numShips}
    (same : (fleet.ship i).type = (fleet.ship j).type) : i = j := by
  have distinct : (fleet.ships.map Placement.type).Nodup :=
    fleet.oneOfEach.nodup_iff.mpr (by decide)
  have place (k : Fin numShips) : k.val < (fleet.ships.map Placement.type).length := by
    rw [List.length_map, fleet.length_ships]
    exact k.isLt
  have types : (fleet.ships.map Placement.type).get ⟨i.val, place i⟩ =
      (fleet.ships.map Placement.type).get ⟨j.val, place j⟩ := by
    rw [List.get_eq_getElem, List.get_eq_getElem, List.getElem_map, List.getElem_map]
    exact same
  exact Fin.ext (Fin.mk.inj_iff.mp (List.nodup_iff_injective_get.mp distinct types))

section Records

variable {target before after : Board} {fleet : Fleet} {shots : Finset Cell} {pos : Coordinate}

theorem Board.AfterShots.shots_unique {board : Board} {first second : Finset Cell}
    (after : board.AfterShots fleet first) (also : board.AfterShots fleet second) :
    first = second := by
  ext cell
  have same := (after.grid cell).symm.trans (also.grid cell)
  split at same <;> split at same <;> split at same <;> simp_all

/-- A ship that is sunk is not on record where it was. -/
theorem Report.not_recorded {later : Finset Cell} {pictured : Option Board}
    (report : Report fleet shots pos before later .sunk pictured) (same : pictured = some after)
    (follows : Follows fleet shots before) {cell : Cell}
    (addressed : cellAt? pos.row.toInt pos.col.toInt = some cell) {i : Fin numShips}
    (inside : cell ∈ fleet.family.cells i) (slot : Fin numShips)
    (within : slot.val < after.shipsCount) :
    (Board.shipAt after.ships slot).placed ≠ fleet.ship i := by
  cases report with
  | @sunk cell' j addressed' unshot inside' sinks =>
      obtain rfl := Option.some.inj (addressed.symm.trans addressed')
      obtain rfl := Family.owner_unique inside' inside
      have room := follows.hasRoom inside unshot
      have listed := fleet.type_mem (fleet.ship_mem j)
      have fresh (earlier : slot.val < before.shipsCount) :
          (Board.shipAt before.ships slot).placed ≠ fleet.ship j := by
        intro recorded
        obtain ⟨k, sunk, type⟩ := follows.recorded slot earlier
        rw [recorded] at type
        rw [← fleet.ship_unique type] at sunk
        exact Family.not_sunk_of_unshot inside unshot sunk
      by_cases aside : before.RoomAside pos.row.toInt pos.col.toInt
          (getShipLength (fleet.ship j).type)
      · obtain ⟨board, revealed, misplaces⟩ := Board.revealSunk_aside addressed listed room aside
        obtain rfl := Option.some.inj (revealed.symm.trans same)
        by_cases last : slot.val = before.shipsCount
        · intro recorded
          obtain ⟨_, other, member, different, empty, _⟩ := misplaces.last slot last
          rw [recorded] at member
          have shot := Finset.mem_of_mem_insert_of_ne (sinks member) different
          exact follows.taken other shot empty
        · rw [misplaces.count] at within
          rw [misplaces.earlier slot (by omega)]
          exact fresh (by omega)
      · have sized := getShipLength_of_mem listed
        rw [Board.revealSunk_eq before addressed (by omega) room, if_neg aside] at same
        obtain rfl := Option.some.inj same
        rw [Board.struck_count] at within
        rw [Board.struck_ships]
        exact fresh within

end Records

theorem Board.shotCells_concat (shots : List Coordinate) (pos : Coordinate) :
    Board.shotCells (shots ++ [pos]) =
      Board.shotCells shots ∪ (cellAt? pos.row.toInt pos.col.toInt).toFinset := by
  ext cell
  simp only [Finset.mem_union, mem_shotCells, List.mem_append, List.mem_singleton, or_and_right,
    exists_or, exists_eq_left, Option.mem_toFinset, Option.mem_def]

namespace Sighting

variable {target : Board} {fleet : Fleet} {ui : UIManager}

theorem exec_target (target : Board) (client : Option UIManager) (shots : List Coordinate) :
    (exec shoot ⟨target, client⟩ shots).target = target.processShots shots := by
  induction shots generalizing target client with
  | nil => rfl
  | cons pos rest ih => exact ih _ _

/-- The client follows every run: there is always a next picture. -/
theorem exec_follows (held : target.Holds fleet.ships) (blank : ui.opponentBoard = Board.new)
    (shots : List Coordinate) : ∃ later, (exec shoot ⟨target, some ui⟩ shots).client = some later ∧
      Follows fleet (Board.shotCells shots) later.opponentBoard := by
  induction shots using List.reverseRecOn with
  | nil => exact ⟨ui, rfl, blank ▸ follows_new fleet⟩
  | append_singleton shots pos ih =>
      obtain ⟨current, client, follows⟩ := ih
      have after := held.processShots shots
      obtain ⟨cells, afterNext, report⟩ := after.report current pos
      obtain ⟨board, pictured, kept⟩ := report.follows follows
      obtain ⟨later, seen, rfl⟩ := Option.map_eq_some_iff.mp pictured
      have next := held.processShots (shots ++ [pos])
      rw [Board.processShots, List.foldl_append] at next
      rw [afterNext.shots_unique next] at kept
      refine ⟨later, ?_, kept⟩
      rw [exec_append, exec_cons, exec_nil, shoot, client, exec_target]
      exact seen

theorem not_reconstructs (held : target.Holds fleet.ships) (blank : ui.opponentBoard = Board.new)
    {shots : List Coordinate} {pos : Coordinate} {i : Fin numShips}
    (finishes : (exec shoot ⟨target, some ui⟩ shots).target.Finishes pos i)
    {earlier later : UIManager}
    (before : (exec shoot ⟨target, some ui⟩ shots).client = some earlier)
    (after : (exec shoot ⟨target, some ui⟩ (shots ++ [pos])).client = some later) :
    ¬Reconstructs (fleet.ship i) earlier.opponentBoard later.opponentBoard := by
  rintro ⟨_, _, slot, within, recorded, _⟩
  obtain ⟨current, client, follows⟩ := exec_follows held blank shots
  obtain rfl := Option.some.inj (client.symm.trans before)
  rw [exec_target] at finishes
  obtain ⟨cell, addressed, _⟩ := id finishes
  obtain ⟨inside, unshot, sinks⟩ :=
    ((held.processShots shots).finishes_iff addressed i).mp finishes
  obtain ⟨cells, _, report⟩ := (held.processShots shots).report current pos
  rw [exec_append, exec_cons, exec_nil, shoot, client, exec_target, Option.bind_some] at after
  dsimp only at after
  have sunk := ((held.processShots shots).processShot_ship addressed unshot inside).2
  rw [if_pos sinks] at sunk
  rw [sunk, after] at report
  exact report.not_recorded rfl follows addressed inside slot within recorded

/-- A ship has been shot completely exactly when some shot of the run was reported to
sink one. -/
theorem sinks_iff (held : target.Holds fleet.ships) (client : Option UIManager)
    (shots : List Coordinate) :
    (∃ before pos, StepOf shots before pos ∧
      ((exec shoot ⟨target, client⟩ before).target.processShot pos).2 = .sunk) ↔
    ∃ i, fleet.family.Sunk (Board.shotCells shots) i := by
  simp only [exec_target]
  constructor
  · rintro ⟨before, pos, ⟨rest, rfl⟩, sunk⟩
    rcases (held.processShots before).result_eq pos with missed | ⟨cell, addressed, _, i, _, outcome⟩
    · simp [sunk] at missed
    · rw [sunk] at outcome
      have sinks : fleet.family.Sunk (insert cell (Board.shotCells before)) i := by
        by_contra afloat
        simp [afloat] at outcome
      refine ⟨i, sinks.trans ?_⟩
      intro other member
      rw [Board.mem_shotCells]
      rcases Finset.mem_insert.mp member with rfl | earlier
      · exact ⟨pos, by simp, addressed⟩
      · obtain ⟨shot, listed, at_shot⟩ := Board.mem_shotCells.mp earlier
        exact ⟨shot, by simp [listed], at_shot⟩
  · rintro ⟨i, sunk⟩
    induction shots using List.reverseRecOn with
    | nil =>
        obtain ⟨cell, inside⟩ := fleet.family.nonempty i
        simpa [Board.shotCells] using sunk inside
    | append_singleton shots pos ih =>
        by_cases earlier : fleet.family.Sunk (Board.shotCells shots) i
        · obtain ⟨before, shot, taken, reported⟩ := ih earlier
          exact ⟨before, shot, stepOf_append_left [pos] taken, reported⟩
        rw [Board.shotCells_concat] at sunk
        cases addressed : cellAt? pos.row.toInt pos.col.toInt with
        | none => exact absurd (by simpa [addressed] using sunk) earlier
        | some cell =>
            have sinks : fleet.family.Sunk (insert cell (Board.shotCells shots)) i := by
              simpa [addressed] using sunk
            have inside : cell ∈ fleet.family.cells i := by
              by_contra outside
              exact earlier ((Family.sunk_insert_of_notMem outside).mp sinks)
            have unshot : cell ∉ Board.shotCells shots := by
              intro shot
              rw [Finset.insert_eq_of_mem shot] at sinks
              exact earlier sinks
            refine ⟨shots, pos, stepOf_last shots pos, ?_⟩
            rw [((held.processShots shots).processShot_ship addressed unshot inside).2, if_pos sinks]

/-- Every ship that is sunk is reconstructed exactly when none is sunk. -/
theorem reconstructs_iff (held : target.Holds fleet.ships) (blank : ui.opponentBoard = Board.new)
    (shots : List Coordinate) :
    (∀ before pos, StepOf shots before pos →
      ((exec shoot ⟨target, some ui⟩ before).target.processShot pos).2 = .sunk →
      ∃ i, (exec shoot ⟨target, some ui⟩ before).target.Finishes pos i ∧
        ∃ earlier later, (exec shoot ⟨target, some ui⟩ before).client = some earlier ∧
          (exec shoot ⟨target, some ui⟩ (before ++ [pos])).client = some later ∧
          Reconstructs (fleet.ship i) earlier.opponentBoard later.opponentBoard) ↔
    ∀ i, ¬fleet.family.Sunk (Board.shotCells shots) i := by
  rw [← not_exists, ← sinks_iff held (some ui)]
  constructor
  · rintro all ⟨before, pos, taken, sunk⟩
    obtain ⟨i, finishes, earlier, later, client, next, right⟩ := all before pos taken sunk
    exact not_reconstructs held blank finishes client next right
  · intro never before pos taken sunk
    exact absurd ⟨before, pos, taken, sunk⟩ never

end Sighting

theorem rowsClient_sightings :
    (∀ before pos, StepOf [⟨4, 0⟩, ⟨9, 9⟩] before pos →
      ((exec Sighting.shoot ⟨rowsBoard, some (rowsClient 9)⟩ before).target.processShot pos).2 =
        .sunk →
      ∃ i, (exec Sighting.shoot ⟨rowsBoard, some (rowsClient 9)⟩ before).target.Finishes pos i ∧
        ∃ earlier later,
          (exec Sighting.shoot ⟨rowsBoard, some (rowsClient 9)⟩ before).client = some earlier ∧
          (exec Sighting.shoot ⟨rowsBoard, some (rowsClient 9)⟩ (before ++ [pos])).client =
            some later ∧
          Reconstructs (rowsFleet.ship i) earlier.opponentBoard later.opponentBoard) ↔
    ∀ i, ¬rowsFleet.family.Sunk (Board.shotCells [⟨4, 0⟩, ⟨9, 9⟩]) i :=
  Sighting.reconstructs_iff rowsBoard_holds rfl _

def destroyerShots : List Coordinate := [⟨4, 0⟩, ⟨4, 1⟩]

theorem destroyerShots_not_reconstructed :
    ¬∀ before pos, StepOf destroyerShots before pos →
      ((exec Sighting.shoot ⟨rowsBoard, some (rowsClient 9)⟩ before).target.processShot pos).2 =
        .sunk →
      ∃ i, (exec Sighting.shoot ⟨rowsBoard, some (rowsClient 9)⟩ before).target.Finishes pos i ∧
        ∃ earlier later,
          (exec Sighting.shoot ⟨rowsBoard, some (rowsClient 9)⟩ before).client = some earlier ∧
          (exec Sighting.shoot ⟨rowsBoard, some (rowsClient 9)⟩ (before ++ [pos])).client =
            some later ∧
          Reconstructs (rowsFleet.ship i) earlier.opponentBoard later.opponentBoard := by
  intro reconstructs
  obtain ⟨i, finishes, earlier, later, client, next, right⟩ :=
    reconstructs [⟨4, 0⟩] ⟨4, 1⟩ ⟨[], rfl⟩ (by decide)
  exact Sighting.not_reconstructs rowsBoard_holds rfl finishes client next right

end Battleship
