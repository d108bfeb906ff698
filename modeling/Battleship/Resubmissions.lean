import Battleship.BoardRemoval
import Battleship.FrameLengths
import Battleship.ListedClients
import Battleship.MoveResults
import Battleship.Readiness

/-! A player who submits a placement again. The server acknowledges and saves each
placement in a row of its own, and builds the board of the player from the first row. -/

namespace Battleship

open Decimal (Text)

theorem Ship.placement_stored (ship : Ship) : ship.placement.Stored :=
  ⟨⟨ship.type, rfl⟩, ⟨ship.orientation, rfl⟩⟩

def NoOverlap (ships : Vector Ship numShips) : Prop :=
  (ships.toList.map Ship.placement).Pairwise fun first second => Disjoint first.cells second.cells

instance (ships : Vector Ship numShips) : Decidable (NoOverlap ships) :=
  inferInstanceAs (Decidable (List.Pairwise _ _))

def SameShips (first second : Vector Ship numShips) : Prop :=
  (first.toList.map Ship.placement).Perm (second.toList.map Ship.placement)

instance (first second : Vector Ship numShips) : Decidable (SameShips first second) :=
  inferInstanceAs (Decidable (List.Perm _ _))

def Database.boardsOf (db : Database) (matchId : MatchId) (userId : UserId) : List MatchBoard :=
  db.matchBoards.filter fun row => row.matchId = matchId ∧ row.userId = userId

theorem Database.getShipPlacement_eq (db : Database) (matchId : MatchId) (userId : UserId) :
    db.getShipPlacement matchId userId =
      ((db.boardsOf matchId userId).head?.map MatchBoard.shipData).getD [] := by
  unfold getShipPlacement boardsOf
  rw [List.head?_filter]
  split
  next missing =>
    rw [missing]
    rfl
  next row found =>
    rw [found]
    rfl

namespace Board

def HoldsShips (board : Board) (ships : Vector Ship numShips) : Prop :=
  ∃ placements, placements.Perm (ships.toList.map Ship.placement) ∧ board.Holds placements

theorem placedShip_injective {first second : Placement} (left : first.Stored)
    (right : second.Stored) (same : placedShip first.type first.pos first.orientation =
      placedShip second.type second.pos second.orientation) : first = second := by
  have type : first.type = second.type := by
    refine ShipType.toInt_inj_of_byte left.type right.type ?_
    rw [← left.placedShip_type, ← right.placedShip_type, same]
  have orientation : first.orientation = second.orientation := by
    rw [← left.placedShip_direction, ← right.placedShip_direction, same]
  have pos : first.pos = second.pos := congrArg Ship.position same
  obtain ⟨_, _, _⟩ := first
  obtain ⟨_, _, _⟩ := second
  simp_all

theorem Holds.placements_unique {board : Board} {first second : List Placement}
    (left : board.Holds first) (right : board.Holds second) (few : first.length ≤ numShips)
    (storedFirst : ∀ placement ∈ first, placement.Stored)
    (storedSecond : ∀ placement ∈ second, placement.Stored) : first = second := by
  have length : first.length = second.length := left.count.symm.trans right.count
  apply List.ext_getElem length
  intro i inFirst inSecond
  refine placedShip_injective (storedFirst _ (List.getElem_mem _))
    (storedSecond _ (List.getElem_mem _)) ?_
  let slot : Fin numShips := ⟨i, inFirst.trans_le few⟩
  exact (left.ships slot inFirst).symm.trans (right.ships slot inSecond)

/-- The board that is loaded from a placement holds the ships of another one only if they are
the same, and none of them is dropped. -/
theorem holdsShips_loaded_iff {first second : Vector Ship numShips} (board : Board)
    (accepted : validateShipPlacement first = true) :
    ((loadShips board (encodeShips first)).getD board).HoldsShips second ↔
      NoOverlap first ∧ SameShips first second := by
  obtain ⟨fine, -⟩ := validateShipPlacement_accepted accepted
  have inside : ∀ placement ∈ first.toList.map Ship.placement,
      Fits placement ∧ placement.InBounds := by
    intro placement member
    obtain ⟨ship, inShips, rfl⟩ := List.mem_map.mp member
    exact ⟨(fine ship inShips).fits, (fine ship inShips).inBounds⟩
  have stored (ships : Vector Ship numShips) : ∀ placement ∈ ships.toList.map Ship.placement,
      placement.Stored := by
    intro placement member
    obtain ⟨ship, -, rfl⟩ := List.mem_map.mp member
    exact ship.placement_stored
  obtain ⟨loaded, kept, loading, sub, holds, apart, whole⟩ := loadPlacements_kept
    (first.toList.map Ship.placement) [] _ (holds_clearBoard board) (by simp) inside
    List.Pairwise.nil
  simp only [List.nil_append] at holds apart whole
  rw [loadShips_encodeShips, loading, Option.getD_some]
  constructor
  · rintro ⟨placements, same, held⟩
    have few : placements.length ≤ numShips := by rw [same.length_eq]; simp
    obtain rfl := held.placements_unique holds few (fun placement member => stored second placement
      (same.subset member)) fun placement member => stored first placement (sub.subset member)
    have all : placements = first.toList.map Ship.placement := by
      apply sub.eq_of_length
      rw [same.length_eq]
      simp
    rw [all] at apart same
    exact ⟨apart, same⟩
  · rintro ⟨disjoint, same⟩
    rw [whole disjoint] at holds
    exact ⟨_, same, holds⟩

end Board

namespace Server

variable (lib : Externals)

def answer (server : Server) (event : Event) : Option Sent :=
  ((server.step lib event).net.calls.drop server.net.calls.length).head?

def acknowledged (matchId : MatchId) (userId : UserId) (server : Server) (event : Event) :
    Option (Vector Ship numShips) :=
  match event.action, server.answer lib event with
  | .message conn token (.shipPlacement placed ships),
      some ⟨answered, _, .shipPlacementAck acked valid _⟩ =>
      if placed = matchId ∧ server.sessionUser event.env token = userId ∧ answered = conn ∧
          acked = matchId ∧ valid = true then some ships
      else none
  | _, _ => none

def acknowledgedIn (events : List Event) (matchId : MatchId) (userId : UserId) :
    List (Vector Ship numShips) :=
  Machine.outputs (step lib) (acknowledged lib matchId userId) init events

section Acknowledged

variable {server : Server} {env : Env} {token : Text} {matchId : MatchId}
  {ships : Vector Ship numShips}

theorem answer_of_calls {later : Server} {calls : List Sent}
    (added : later.net.calls = server.net.calls ++ calls) :
    (later.net.calls.drop server.net.calls.length).head? = calls.head? := by
  rw [added, List.drop_left]

theorem acknowledge_calls (server : Server) (listed : server.Listed) {conn : ConnId} {fd : Fd}
    (socket : server.net.socketFd conn = some fd) (valid : Bool) (message : String) :
    ∃ header text, (server.acknowledge env matchId valid message (some fd)).net.calls =
      server.net.calls ++ [⟨conn, header, .shipPlacementAck matchId valid text⟩] := by
  have found := listed conn fd socket
  let payload : Payload := .shipPlacementAck matchId valid message.toList
  refine ⟨stampedHeader env .shipPlacement payload, message.toList, ?_⟩
  unfold acknowledge sendToClient Network.sendToClient
  dsimp only
  rw [Option.bind_some, found]
  exact Network.sendMessage_calls env _ _ conn server.net

/-- An accepted placement is first of all acknowledged, on the connection it came on. -/
theorem accepted_calls (good : server.WellFormed) (listed : server.Listed) {conn : ConnId} {fd : Fd}
    (socket : server.net.socketFd conn = some fd)
    (accepted : server.AcceptsPlacement env token matchId ships) : ∃ header text rest,
    (server.handleShipPlacement env token matchId ships (some fd)).net.calls =
      server.net.calls ++ ⟨conn, header, .shipPlacementAck matchId true text⟩ :: rest := by
  obtain ⟨header, text, acked⟩ : ∃ header text,
      (server.placementSaved env token matchId ships (some fd)).net.calls = server.net.calls ++
        [⟨conn, header, .shipPlacementAck matchId true text⟩] :=
    acknowledge_calls { server with db := _ } listed socket true _
  have ready := placementReady_work env matchId
    (Work.refl (server.placementSaved env token matchId ships (some fd)))
    (server.sessionUser env token)
  obtain ⟨rest, added, -⟩ := ready.routine.callsFramed
  refine ⟨header, text, rest, ?_⟩
  rw [handleShipPlacement_accepted env good (some fd) accepted, added, acked, List.append_assoc,
    List.singleton_append]

/-- Any other one is answered with `valid = false` at most. -/
theorem refused_calls (listed : server.Listed) {conn : ConnId} {fd : Fd}
    (socket : server.net.socketFd conn = some fd)
    (refused : ¬server.AcceptsPlacement env token matchId ships) :
    (server.handleShipPlacement env token matchId ships (some fd)).net.calls = server.net.calls ∨
      ∃ header text, (server.handleShipPlacement env token matchId ships (some fd)).net.calls =
        server.net.calls ++ [⟨conn, header, .shipPlacementAck matchId false text⟩] := by
  unfold handleShipPlacement
  dsimp only
  split
  · exact .inl rfl
  next valid =>
    split
    · exact .inr (acknowledge_calls (server.validateSession env token).1 listed socket false _)
    next fleet =>
      split
      · exact .inr (acknowledge_calls { server with db := _ } listed socket false _)
      next done =>
        simp only [validateSession, Bool.not_eq_true, Bool.not_eq_false',
          Database.saveShipPlacement_saved, Database.validateSession_matchRows] at done valid
        exact absurd ⟨valid, by simpa using fleet, done.1⟩ refused

theorem Handles.placement {event : Event}
    (handled : server.Handles event token (.shipPlacement matchId ships)) :
    ∃ conn fd, event.action = .message conn token (.shipPlacement matchId ships) ∧
      server.net.socketFd conn = some fd ∧ server.step lib event =
        server.handleShipPlacement event.env token matchId ships (some fd) := by
  obtain ⟨conn, client, acted, known, serving, connected⟩ := handled
  obtain ⟨fd, socket⟩ := Option.isSome_iff_exists.mp connected
  refine ⟨conn, fd, acted, ?_, ?_⟩
  · rw [Network.socketFd, known]
    exact socket
  · simp only [step, acted, known, serving, socket, Option.isSome_some, and_self, if_true, routeMessage]

theorem step_unhandled {event : Event} {conn : ConnId} {request : Request}
    (acted : event.action = .message conn token request)
    (unhandled : ¬server.Handles event token request) : server.step lib event = server := by
  unfold step
  rw [acted]
  dsimp only
  split
  · rfl
  next client known =>
    split
    next live => exact absurd ⟨conn, client, acted, known, live⟩ unhandled
    · rfl

theorem acknowledged_iff (good : server.WellFormed) (listed : server.Listed) {event : Event}
    {userId : UserId} : server.acknowledged lib matchId userId event = some ships ↔
      server.Places event matchId userId ships := by
  constructor
  · intro acknowledged
    unfold Server.acknowledged at acknowledged
    split at acknowledged
    next conn token placed sent answered header acked valid text acted answer =>
      rw [Option.ite_none_right_eq_some, Option.some.injEq] at acknowledged
      obtain ⟨⟨rfl, user, rfl, rfl, rfl⟩, rfl⟩ := acknowledged
      unfold Server.answer at answer
      by_cases handled : server.Handles event token (.shipPlacement acked sent)
      · obtain ⟨conn, fd, -, socket, stepped⟩ := handled.placement lib
        refine ⟨token, handled, user, ?_⟩
        rw [← user]
        refine (acceptsPlacement_iff good).mp ?_
        by_contra refused
        rw [stepped] at answer
        rcases refused_calls listed socket refused with
          silent | ⟨header, text, calls⟩
        · simp [silent] at answer
        · rw [answer_of_calls calls] at answer
          simp at answer
      · rw [step_unhandled lib acted handled] at answer
        simp at answer
    · cases acknowledged
  · rintro ⟨token, handled, rfl, placed⟩
    obtain ⟨conn, fd, acted, socket, stepped⟩ := handled.placement lib
    obtain ⟨header, text, rest, calls⟩ :=
      accepted_calls good listed socket ((acceptsPlacement_iff good).mpr placed)
    have answer : server.answer lib event =
        some ⟨conn, header, .shipPlacementAck matchId true text⟩ := by
      rw [Server.answer, stepped, answer_of_calls calls]
      rfl
    unfold Server.acknowledged
    rw [acted, answer]
    simp

end Acknowledged

section Runs

/-- Each placement that a step acknowledges is saved in a row behind the others. -/
theorem step_boardsOf {server : Server} (good : server.WellFormed) (listed : server.Listed)
    (event : Event) (matchId : MatchId) (userId : UserId) :
    (server.step lib event).db.boardsOf matchId userId = server.db.boardsOf matchId userId ++
      (server.acknowledged lib matchId userId event).toList.map fun ships =>
        ⟨matchId, userId, encodeShips ships⟩ := by
  unfold Database.boardsOf
  cases acked : server.acknowledged lib matchId userId event with
  | some ships =>
      have done := places_done lib good ((acknowledged_iff lib good listed).mp acked)
      rw [done.boards, List.filter_append]
      simp
  | none =>
      rw [Option.toList_none, List.map_nil, List.append_nil]
      cases step_placement lib good event with
      | unplaced running unplaced => rw [unplaced.boards]
      | restarted restart boards unready => rw [boards]
      | placed other player ships places done =>
          have elsewhere : ¬(other = matchId ∧ player = userId) := by
            rintro ⟨rfl, rfl⟩
            rw [(acknowledged_iff lib good listed).mpr places] at acked
            cases acked
          rw [done.boards, List.filter_append]
          simp [elsewhere]

theorem acknowledgedIn_concat (events : List Event) (event : Event) (matchId : MatchId)
    (userId : UserId) : acknowledgedIn lib (events ++ [event]) matchId userId =
      acknowledgedIn lib events matchId userId ++
        ((after lib events).acknowledged lib matchId userId event).toList :=
  Machine.outputs_concat (step lib) (acknowledged lib matchId userId) init events event

theorem after_boardsOf (events : List Event) (matchId : MatchId) (userId : UserId) :
    (after lib events).db.boardsOf matchId userId =
      (acknowledgedIn lib events matchId userId).map fun ships =>
        ⟨matchId, userId, encodeShips ships⟩ := by
  induction events using List.reverseRecOn with
  | nil => rfl
  | append_singleton before event ih =>
      rw [after_concat, step_boardsOf lib (after_wellFormed lib before) (after_listed lib before),
        ih, acknowledgedIn_concat, List.map_append]

theorem acknowledgedIn_valid (events : List Event) (matchId : MatchId) (userId : UserId) :
    ∀ ships ∈ acknowledgedIn lib events matchId userId, validateShipPlacement ships = true := by
  induction events using List.reverseRecOn with
  | nil => exact fun ships member => absurd member List.not_mem_nil
  | append_singleton before event ih =>
      intro ships member
      rw [acknowledgedIn_concat, List.mem_append, Option.mem_toList] at member
      rcases member with early | now
      · exact ih ships early
      · obtain ⟨token, -, -, -, fleet, -⟩ := (acknowledged_iff lib (after_wellFormed lib before)
          (after_listed lib before)).mp now
        exact fleet

def HoldsLast (events : List Event) (matchId : MatchId) (userId : UserId) (board : Board) : Prop :=
  ∃ last ∈ (acknowledgedIn lib events matchId userId).getLast?, board.HoldsShips last

def LastAsFirst (events : List Event) (matchId : MatchId) (userId : UserId) : Prop :=
  ∃ first ∈ (acknowledgedIn lib events matchId userId).head?,
    ∃ last ∈ (acknowledgedIn lib events matchId userId).getLast?,
      NoOverlap first ∧ SameShips first last

theorem loadedBoard_holdsLast_iff (events : List Event) (matchId : MatchId) (userId : UserId) :
    HoldsLast lib events matchId userId
        (loadedBoard (after lib events).db matchId userId Board.new) ↔
      LastAsFirst lib events matchId userId := by
  have rows := after_boardsOf lib events matchId userId
  have valid := acknowledgedIn_valid lib events matchId userId
  unfold HoldsLast LastAsFirst loadedBoard
  rw [Database.getShipPlacement_eq, rows]
  cases acks : acknowledgedIn lib events matchId userId with
  | nil => simp
  | cons first rest =>
      have accepted := valid first (by simp [acks])
      simp only [List.map_cons, List.head?_cons, Option.map_some, Option.getD_some,
        Option.mem_some_iff, exists_eq_left', Board.holdsShips_loaded_iff Board.new accepted]

theorem boardOf_created {events : List Event} {event : Event} {matchId : MatchId}
    {game : MatchState} (creates : (after lib events).Creates lib event matchId game)
    {userId : UserId} (seated : game.Seats userId) : game.boardOf userId =
      loadedBoard (after lib (events ++ [event])).db matchId userId Board.new := by
  have unplayed := creates.unplayed lib (after_wellFormed lib events)
  have active := creates.1
  rw [← after_concat] at active
  have opened := ((after_wellFormed lib (events ++ [event])).games.active matchId game
    active).unplayed unplayed
  unfold MatchState.boardOf
  split
  next first =>
    rw [first]
    exact congrArg MatchState.player1Board opened
  next other =>
    rw [seated.resolve_left other]
    exact congrArg MatchState.player2Board opened

/-- The board that is built for a player holds the ships of the last acknowledged placement
exactly when these are the ships of the first one, and none of them overlaps another. -/
theorem builtBoard_holdsLast_iff {events : List Event} {event : Event} {matchId : MatchId}
    {game : MatchState} (creates : (after lib events).Creates lib event matchId game)
    {userId : UserId} (seated : game.Seats userId) :
    HoldsLast lib (events ++ [event]) matchId userId (game.boardOf userId) ↔
      LastAsFirst lib (events ++ [event]) matchId userId := by
  rw [boardOf_created lib creates seated]
  exact loadedBoard_holdsLast_iff lib (events ++ [event]) matchId userId

end Runs

end Server

namespace Script

open Server

def destroyerBelow : Vector Ship numShips :=
  #v[sentShip 0 0 0 0 5, sentShip 1 0 1 0 4, sentShip 2 0 2 0 3, sentShip 3 0 3 0 3,
    sentShip 4 0 9 0 2]

def resubmitted : List Event := paired ++ [
  sends 4 alice (.shipPlacement 1 rowShips), sends 4 alice (.shipPlacement 1 destroyerBelow)]

def bobPlaces : Event := sends 5 bob (.shipPlacement 1 rowShips)

theorem resubmitted_creates : ∃ game, (after lib resubmitted).Creates lib bobPlaces 1 game ∧
    game.Seats alice := by
  have seats : (((after lib resubmitted).step lib bobPlaces).getMatch 1).map MatchState.player1Id =
    some alice := by decide +kernel
  obtain ⟨game, active, player1⟩ := Option.map_eq_some_iff.mp seats
  have before : ((after lib resubmitted).getMatch 1).isNone = true := by decide +kernel
  exact ⟨game, ⟨active, .inl (Option.isNone_iff_eq_none.mp before)⟩, .inl player1.symm⟩

theorem resubmitted_holdsLast_iff : ∃ game, (after lib resubmitted).Creates lib bobPlaces 1 game ∧
    (HoldsLast lib (resubmitted ++ [bobPlaces]) 1 alice (game.boardOf alice) ↔
      LastAsFirst lib (resubmitted ++ [bobPlaces]) 1 alice) := by
  obtain ⟨game, creates, seated⟩ := resubmitted_creates
  exact ⟨game, creates, builtBoard_holdsLast_iff lib creates seated⟩

theorem resubmitted_acknowledged : acknowledgedIn lib (resubmitted ++ [bobPlaces]) 1 alice =
    [rowShips, destroyerBelow] := by decide +kernel

/-- Alice's destroyer stays where her first placement had it. -/
theorem not_holdsLast_resubmitted : ¬∀ lib events event matchId game userId,
    (after lib events).Creates lib event matchId game → game.Seats userId →
      HoldsLast lib (events ++ [event]) matchId userId (game.boardOf userId) := by
  intro all
  obtain ⟨game, creates, seated⟩ := resubmitted_creates
  have holds := all lib resubmitted bobPlaces 1 game alice creates seated
  rw [boardOf_created lib creates seated, loadedBoard_holdsLast_iff] at holds
  obtain ⟨first, isFirst, last, isLast, -, same⟩ := holds
  rw [resubmitted_acknowledged] at isFirst isLast
  cases isFirst
  cases isLast
  exact absurd same (by decide)

end Script

end Battleship
