import Battleship.People
import Battleship.ServerEdits

/-! Who is ready for a match. A player is in its ready set from the placement that
the server accepts and saves until the match is removed, and a match is created
from the placements that its two players have saved for it. -/

namespace Battleship

open Decimal (Text)

namespace Database

variable {db : Database}

theorem saveShipPlacement_boards {matchId : MatchId} {userId : UserId} {shipData : Text}
    (saved : (db.saveShipPlacement matchId userId shipData).2 = true) :
    (db.saveShipPlacement matchId userId shipData).1.matchBoards =
      db.matchBoards ++ [⟨matchId, userId, shipData⟩] := by
  unfold saveShipPlacement at saved ⊢
  split at saved
  · simp at saved
  next known => rw [if_neg known]

theorem saveShipPlacement_unsaved {matchId : MatchId} {userId : UserId} {shipData : Text}
    (failed : (db.saveShipPlacement matchId userId shipData).2 = false) :
    (db.saveShipPlacement matchId userId shipData).1.matchBoards = db.matchBoards := by
  unfold saveShipPlacement at failed ⊢
  split at failed
  next unknown => rw [if_pos unknown]
  · simp at failed

end Database

namespace Server

structure Unplaced (server later : Server) : Prop where
  boards : later.db.matchBoards = server.db.matchBoards
  ready : ∀ matchId,
    ((later.getMatch matchId).isSome = (server.getMatch matchId).isSome ∧
      later.games.readySet matchId = server.games.readySet matchId) ∨
    (server.getMatch matchId ≠ none ∧ later.getMatch matchId = none ∧
      later.games.readySet matchId = ∅)

theorem Unplaced.of_games {server later : Server}
    (boards : later.db.matchBoards = server.db.matchBoards) (games : later.games = server.games) :
    Unplaced server later :=
  ⟨boards, fun _ => .inl (by simp only [getMatch, games, and_self])⟩

theorem Unplaced.of_aside {server later : Server} (aside : server.Aside later) :
    Unplaced server later :=
  .of_games aside.tables.matchBoards aside.games

theorem Unplaced.refl (server : Server) : Unplaced server server := .of_games rfl rfl

theorem Unplaced.trans {first second third : Server} (early : Unplaced first second)
    (late : Unplaced second third) : Unplaced first third := by
  refine ⟨late.boards.trans early.boards, fun matchId => ?_⟩
  rcases early.ready matchId with ⟨active, ready⟩ | ⟨was, gone, empty⟩
  · rcases late.ready matchId with ⟨active', ready'⟩ | ⟨was, gone, empty⟩
    · exact .inl ⟨active'.trans active, ready'.trans ready⟩
    · refine .inr ⟨fun none => was ?_, gone, empty⟩
      rwa [none, Option.isSome_none, Option.isSome_eq_false_iff, Option.isNone_iff_eq_none] at active
  · rcases late.ready matchId with ⟨active', ready'⟩ | ⟨was', _, _⟩
    · refine .inr ⟨was, ?_, ready'.trans empty⟩
      rwa [gone, Option.isSome_none, Option.isSome_eq_false_iff, Option.isNone_iff_eq_none] at active'
    · exact absurd gone was'

theorem Unplaced.of_removed {server later : Server} {matchId : MatchId}
    (active : server.getMatch matchId ≠ none)
    (boards : later.db.matchBoards = server.db.matchBoards)
    (games : later.games = ⟨server.games.activeMatches.erase matchId,
      server.games.readyPlayers.erase matchId⟩) : Unplaced server later := by
  refine ⟨boards, fun other => ?_⟩
  simp only [getMatch, games, readySet_erase, Table.lookup_erase]
  split
  next same =>
    subst same
    exact .inr ⟨active, rfl, rfl⟩
  · exact .inl ⟨rfl, rfl⟩

/-- Whatever the server is at but a placement. -/
theorem Work.unplaced {duty : Duty} {env : Env} {server later : Server}
    (work : Work duty env server later) (other : duty ≠ .placing) : Unplaced server later := by
  induction work with
  | refl => exact .refl server
  | tail _ act unplaced =>
      refine unplaced.trans ?_
      cases act with
      | statement made => exact .of_games (made.matchBoards other) rfl
      | createMatch pairs player1Id player2Id =>
          exact .of_games (Database.createMatch_boards ..) rfl
      | games places => exact absurd places other
      | @setMatch matchId moves active game =>
          refine ⟨rfl, fun another => .inl ⟨?_, rfl⟩⟩
          simp only [getMatch, setMatch, Table.lookup_insert]
          split
          next same =>
            subst same
            exact (Option.isSome_iff_ne_none.mpr active).symm
          · rfl
      | removeMatch active => exact .of_removed active rfl rfl
      | manager | journal | tells | status => exact .of_games rfl rfl

theorem Removal.unplaced {lib : Externals} {env : Env} {fd : Fd} {server later : Server}
    {user : Option UserId} (removal : Removal lib env fd server user later) :
    Unplaced server later := by
  cases removal with
  | nobody => exact .of_games rfl rfl
  | @user net last userId =>
      have listed : Unplaced server { server with net := net } := .of_games rfl rfl
      have ended := (handlePlayerDisconnect_work lib env (.refl { server with net := net })
        userId).unplaced (by decide)
      exact (listed.trans ended).trans (.of_games rfl rfl)

def Places (server : Server) (event : Event) (matchId : MatchId) (userId : UserId)
    (ships : Vector Ship numShips) : Prop :=
  ∃ token, server.Handles event token (.shipPlacement matchId ships) ∧
    server.sessionUser event.env token = userId ∧ userId ≠ 0 ∧
    validateShipPlacement ships = true ∧
    (server.db.saveShipPlacement matchId userId (encodeShips ships)).2 = true

section Placements

variable {server : Server} {env : Env} {token : Text} {matchId : MatchId}
  {ships : Vector Ship numShips}

theorem acceptsPlacement_iff (good : server.WellFormed) :
    server.AcceptsPlacement env token matchId ships ↔
      server.sessionUser env token ≠ 0 ∧ validateShipPlacement ships = true ∧
        (server.db.saveShipPlacement matchId (server.sessionUser env token)
          (encodeShips ships)).2 = true := by
  rw [Database.saveShipPlacement_saved]
  constructor
  · rintro ⟨valid, fleet, row⟩
    exact ⟨valid, fleet, row, good.db.validateSession_user valid⟩
  · rintro ⟨valid, fleet, row, _⟩
    exact ⟨valid, fleet, row⟩

theorem placementReady_db (userId : UserId) (server : Server) :
    (server.placementReady env matchId userId).db = server.db := by
  unfold placementReady
  dsimp only
  split
  · rfl
  split
  · rw [activateMatch_eq]
    rfl
  · rfl

theorem placementReady_readySet (userId : UserId) (other : MatchId) (server : Server) :
    (server.placementReady env matchId userId).games.readySet other =
      if matchId = other then insert userId (server.games.readySet matchId)
      else server.games.readySet other := by
  rw [← markReady_readySet]
  unfold placementReady
  dsimp only
  split
  · rfl
  split
  · rw [activateMatch_eq]
    rfl
  · rfl

theorem placementReady_active (userId : UserId) {other : MatchId} {server : Server}
    (active : server.getMatch other ≠ none) :
    (server.placementReady env matchId userId).getMatch other ≠ none := by
  unfold placementReady
  dsimp only
  split
  · exact active
  split
  · rw [activateMatch_getMatch]
    split
    · exact Option.some_ne_none _
    · exact active
  · exact active

structure PlacementDone (server : Server) (matchId : MatchId) (userId : UserId)
    (ships : Vector Ship numShips) (later : Server) : Prop where
  boards : later.db.matchBoards = server.db.matchBoards ++ [⟨matchId, userId, encodeShips ships⟩]
  ready : ∀ other, later.games.readySet other =
    if matchId = other then insert userId (server.games.readySet matchId)
    else server.games.readySet other
  active : ∀ other, server.getMatch other ≠ none → later.getMatch other ≠ none

theorem handleShipPlacement_done (good : server.WellFormed) (clientFd : Option Fd)
    (accepted : server.AcceptsPlacement env token matchId ships) :
    PlacementDone server matchId (server.sessionUser env token) ships
      (server.handleShipPlacement env token matchId ships clientFd) := by
  have kept := keeps_placementSaved env token matchId ships clientFd server
  have saved := Database.saveShipPlacement_boards (good.saves_of_accepted env accepted)
  rw [(Database.validateSession_aside ..).matchBoards] at saved
  rw [handleShipPlacement_accepted env good clientFd accepted]
  refine ⟨?_, fun other => ?_, fun other was => placementReady_active _ ?_⟩
  · rw [placementReady_db]
    exact saved
  · rw [placementReady_readySet, kept.games]
  · rwa [(kept.untouched other).game]

theorem handleShipPlacement_unplaced (clientFd : Option Fd)
    (refused : ¬server.AcceptsPlacement env token matchId ships) :
    Unplaced server (server.handleShipPlacement env token matchId ships clientFd) := by
  refine .of_games ?_ (handleShipPlacement_refused env clientFd refused).games
  have aside : server.db.Aside (server.db.validateSession env.now token).1 :=
    Database.validateSession_aside env.now token
  have checked := aside.matchBoards
  unfold handleShipPlacement validateSession
  dsimp only
  split
  · exact checked
  next valid =>
    split
    · exact checked
    next fleet =>
      split
      next failed => exact (Database.saveShipPlacement_unsaved (by simpa using failed)).trans checked
      next done =>
        simp only [Bool.not_eq_true, Bool.not_eq_false', Database.saveShipPlacement_saved,
          Database.validateSession_matchRows] at done
        exact absurd ⟨valid, by simpa using fleet, done.1⟩ refused

end Placements

section Steps

variable (lib : Externals) {server : Server} {event : Event}

theorem HandlerWork.unplaced {duty : Duty} {env : Env} {later : Server}
    (work : HandlerWork duty env server later) (other : duty ≠ .placing) :
    Unplaced server later := by
  cases work with
  | work kept => exact kept.unplaced other
  | refusal => exact .of_games rfl rfl

theorem routeMessage_unplaced (env : Env) (conn : ConnId) (client : ClientConnection)
    (token : Text) {request : Request} (other : request.duty ≠ .placing) :
    Unplaced server (server.routeMessage lib env conn client token request) := by
  cases plain : request.authenticates with
  | false => exact (routeMessage_work lib env conn client token server plain).unplaced other
  | true => exact .of_aside (routeMessage_aside lib env conn client token server plain)

inductive PlacementChange (server : Server) (event : Event) (later : Server) : Prop
  | unplaced (running : event.action ≠ .restart) (unplaced : Unplaced server later)
  | restarted (restart : event.action = .restart)
      (boards : later.db.matchBoards = server.db.matchBoards)
      (unready : ∀ matchId, later.games.readySet matchId = ∅)
  | placed (matchId : MatchId) (userId : UserId) (ships : Vector Ship numShips)
      (places : server.Places event matchId userId ships)
      (done : PlacementDone server matchId userId ships later)

theorem places_done (good : server.WellFormed) {matchId : MatchId} {userId : UserId}
    {ships : Vector Ship numShips} (places : server.Places event matchId userId ships) :
    PlacementDone server matchId userId ships (server.step lib event) := by
  obtain ⟨token, handled, rfl, valid, fleet, saved⟩ := places
  obtain ⟨conn, client, _, _, stepped⟩ := handled.step_eq lib
  rw [stepped]
  exact handleShipPlacement_done good client.socketFd
    ((acceptsPlacement_iff good).mpr ⟨valid, fleet, saved⟩)

theorem step_placement (good : server.WellFormed) (event : Event) :
    PlacementChange server event (server.step lib event) := by
  by_cases handled : ∃ token matchId ships,
      server.Handles event token (.shipPlacement matchId ships)
  · obtain ⟨token, matchId, ships, handled⟩ := handled
    obtain ⟨conn, client, acted, known, stepped⟩ := handled.step_eq lib
    by_cases accepted : server.AcceptsPlacement event.env token matchId ships
    · have places : server.Places event matchId (server.sessionUser event.env token) ships :=
        ⟨token, handled, rfl, (acceptsPlacement_iff good).mp accepted⟩
      exact .placed matchId _ ships places (places_done lib good places)
    · rw [stepped]
      exact .unplaced (by simp [acted]) (handleShipPlacement_unplaced client.socketFd accepted)
  cases step_call lib server event with
  | idle running stepped =>
      rw [stepped]
      exact .unplaced running (.refl server)
  | accepted fd acted _ stepped =>
      rw [stepped]
      exact .unplaced (by simp [acted]) (.of_games rfl rfl)
  | routed conn client token request acted known live stepped =>
      rw [stepped]
      refine .unplaced (by simp [acted]) (routeMessage_unplaced lib event.env conn client token ?_)
      cases request with
      | shipPlacement matchId ships =>
          exact absurd ⟨token, matchId, ships, conn, client, acted, known, live.1, live.2⟩ handled
      | _ => nofun
  | receiveFailed conn acted stepped =>
      rw [stepped]
      exact .unplaced (by simp [acted]) (.of_games rfl rfl)
  | removed conn client acted _ _ stepped =>
      rw [stepped]
      exact .unplaced (by simp [acted])
        ((removeClient_removal lib event.env client.threadFd server).unplaced.trans
          (.of_games rfl rfl))
  | swept acted stepped =>
      rw [stepped]
      exact .unplaced (by simp [acted])
        ((checkTurnTimeouts_work lib event.env (.refl server)).unplaced (by decide))
  | restarted acted stepped =>
      rw [stepped]
      exact .restarted acted rfl fun matchId => by simp [restarted, init, Games.readySet]

def Forgets (server : Server) (event : Event) (matchId : MatchId) : Prop :=
  event.action = .restart ∨
    (server.getMatch matchId ≠ none ∧ (server.step lib event).getMatch matchId = none)

/-- A placement of the user for the match has been accepted and saved in the run,
and the match has not been removed since. -/
def PlacedSince (events : List Event) (matchId : MatchId) (userId : UserId) : Prop :=
  Machine.Since (step lib) (fun server event => ∃ ships, server.Places event matchId userId ships)
    (fun server event => ¬server.Forgets lib event matchId) init events

theorem Places.message {matchId : MatchId} {userId : UserId} {ships : Vector Ship numShips}
    (places : server.Places event matchId userId ships) : event.action ≠ .restart := by
  obtain ⟨token, ⟨conn, client, acted, _⟩, _⟩ := places
  simp [acted]

theorem step_ready (good : server.WellFormed) (event : Event) (matchId : MatchId)
    (userId : UserId) : userId ∈ (server.step lib event).games.readySet matchId ↔
      (∃ ships, server.Places event matchId userId ships) ∨
        userId ∈ server.games.readySet matchId ∧ ¬server.Forgets lib event matchId := by
  constructor
  · intro ready
    cases step_placement lib good event with
    | unplaced running unplaced =>
        rcases unplaced.ready matchId with ⟨active, same⟩ | ⟨_, _, empty⟩
        · refine .inr ⟨same ▸ ready, ?_⟩
          rintro (restart | ⟨was, gone⟩)
          · exact running restart
          · rw [gone, Option.isSome_none] at active
            exact was (Option.not_isSome_iff_eq_none.mp (by simp [← active]))
        · simp [empty] at ready
    | restarted restart boards unready => simp [unready matchId] at ready
    | placed other player ships places done =>
        have kept : ¬server.Forgets lib event matchId := by
          rintro (restart | ⟨was, gone⟩)
          · exact places.message restart
          · exact done.active matchId was gone
        rw [done.ready] at ready
        split at ready
        next same =>
          subst same
          rcases Finset.mem_insert.mp ready with rfl | early
          · exact .inl ⟨ships, places⟩
          · exact .inr ⟨early, kept⟩
        · exact .inr ⟨ready, kept⟩
  · rintro (⟨ships, places⟩ | ⟨ready, kept⟩)
    · rw [(places_done lib good places).ready, if_pos rfl]
      exact Finset.mem_insert_self ..
    · cases step_placement lib good event with
      | unplaced running unplaced =>
          rcases unplaced.ready matchId with ⟨_, same⟩ | ⟨was, gone, _⟩
          · exact same ▸ ready
          · exact absurd (.inr ⟨was, gone⟩) kept
      | restarted restart boards unready => exact absurd (.inl restart) kept
      | placed other player ships places done =>
          rw [done.ready]
          split
          next same => exact Finset.mem_insert_of_mem (same ▸ ready)
          · exact ready

theorem ready_iff_placedSince (events : List Event) (matchId : MatchId) (userId : UserId) :
    userId ∈ (after lib events).games.readySet matchId ↔ PlacedSince lib events matchId userId :=
  (Machine.since_iff_holds (step lib)
    (motive := fun server => userId ∈ server.games.readySet matchId) wellFormed_init
    (step_wellFormed lib) (by simp [init, Games.readySet])
    fun _ event _ good => step_ready lib good event matchId userId).symm

def SavedIn (events : List Event) (board : MatchBoard) : Prop :=
  ∃ before event ships, Machine.StepOf events before event ∧
    (after lib before).Places event board.matchId board.userId ships ∧
    board.shipData = encodeShips ships

theorem SavedIn.append {events : List Event} {board : MatchBoard} (saved : SavedIn lib events board)
    (later : List Event) : SavedIn lib (events ++ later) board := by
  obtain ⟨before, event, ships, taken, places, written⟩ := saved
  exact ⟨before, event, ships, Machine.stepOf_append_left later taken, places, written⟩

theorem boards_saved (events : List Event) :
    ∀ board ∈ (after lib events).db.matchBoards, SavedIn lib events board := by
  induction events using List.reverseRecOn with
  | nil => exact fun board member => absurd member List.not_mem_nil
  | append_singleton before event ih =>
      intro board member
      rw [after_concat] at member
      cases step_placement lib (after_wellFormed lib before) event with
      | unplaced running unplaced => exact (ih board (unplaced.boards ▸ member)).append lib [event]
      | restarted restart boards unready => exact (ih board (boards ▸ member)).append lib [event]
      | placed matchId userId ships places done =>
          rw [done.boards, List.mem_append, List.mem_singleton] at member
          rcases member with early | rfl
          · exact (ih board early).append lib [event]
          · exact ⟨before, event, ships, Machine.stepOf_last before event, places, rfl⟩

def LoadedFrom (events : List Event) (matchId : MatchId) (userId : UserId) (board : Board) : Prop :=
  ∃ row ∈ (after lib events).db.matchBoards, row.matchId = matchId ∧ row.userId = userId ∧
    board = (loadShips Board.new row.shipData).getD Board.new ∧ SavedIn lib events row

theorem loadedFrom_of_ready {events : List Event} {matchId : MatchId} {userId : UserId}
    (ready : userId ∈ (after lib events).games.readySet matchId) :
    LoadedFrom lib events matchId userId
      (loadedBoard (after lib events).db matchId userId Board.new) := by
  obtain ⟨known, member, same1, same2⟩ := (after_wellFormed lib events).games.saved matchId _ ready
  unfold loadedBoard Database.getShipPlacement
  cases found : (after lib events).db.matchBoards.find? fun row =>
      row.matchId = matchId ∧ row.userId = userId with
  | none => simpa [same1, same2] using List.find?_eq_none.mp found known member
  | some row =>
      have named : row.matchId = matchId ∧ row.userId = userId := by
        simpa using List.find?_some found
      have member := List.mem_of_find?_eq_some found
      exact ⟨row, member, named.1, named.2, rfl, boards_saved lib events row member⟩

/-- The step creates the match, or creates it anew: every step that reaches
`createMatch` is one of these. -/
def Creates (server : Server) (event : Event) (matchId : MatchId) (game : MatchState) : Prop :=
  (server.step lib event).getMatch matchId = some game ∧
    (server.getMatch matchId = none ∨ game.moveHistory = [] ∧
      ∃ token ships, server.Handles event token (.shipPlacement matchId ships))

theorem handleShipPlacement_opens (good : server.WellFormed) {env : Env} {token : Text}
    {matchId : MatchId} {ships : Vector Ship numShips} (clientFd : Option Fd)
    (accepted : server.AcceptsPlacement env token matchId ships)
    (completes : server.Completes matchId (server.sessionUser env token)) :
    ∃ game, (server.handleShipPlacement env token matchId ships clientFd).getMatch matchId =
      some game ∧ game.moveHistory = [] := by
  obtain ⟨row, found, ready1, ready2⟩ := (placementSaved_completes env server token matchId ships
    clientFd _).mpr completes
  rw [handleShipPlacement_accepted env good clientFd accepted,
    placementReady_complete env _ matchId _ found ready1 ready2, activateMatch_getMatch, if_pos rfl]
  exact ⟨_, rfl, rfl⟩

theorem Creates.unplayed (good : server.WellFormed) {matchId : MatchId} {game : MatchState}
    (creates : server.Creates lib event matchId game) : game.moveHistory = [] := by
  obtain ⟨active, inactive | ⟨unplayed, _⟩⟩ := creates
  · cases step_change lib good event matchId with
    | untouched kept => simp [← kept.game, active] at inactive
    | restarted restart quiet gone => simp [active] at gone
    | activated completes quiet running =>
        obtain ⟨token, ships, handled, accepted, complete⟩ := completes
        obtain ⟨conn, client, _, _, stepped⟩ := handled.step_eq lib
        obtain ⟨opened, found, unplayed⟩ :=
          handleShipPlacement_opens good client.socketFd accepted complete
        rw [stepped] at active
        obtain rfl := Option.some.inj (active.symm.trans found)
        exact unplayed
    | moved was quiet running => simp [inactive] at was
    | concluded ended winnerId reason cause done => simp [done.gone] at active
  · exact unplayed

structure CreatedReady (events : List Event) (event : Event) (matchId : MatchId)
    (game : MatchState) : Prop where
  row : ∃ row : Match, (after lib (events ++ [event])).db.matchRows[matchId]? = some row ∧
    game.player1Id = row.player1Id ∧ game.player2Id = row.player2Id
  placed1 : PlacedSince lib (events ++ [event]) matchId game.player1Id
  placed2 : PlacedSince lib (events ++ [event]) matchId game.player2Id
  board1 : LoadedFrom lib (events ++ [event]) matchId game.player1Id game.player1Board
  board2 : LoadedFrom lib (events ++ [event]) matchId game.player2Id game.player2Board

/-- In a run of any events a player is ready for a match exactly from a placement
that was accepted and saved until the match is removed, and the match is created
only with both of its players ready, from boards that they saved for it. -/
theorem readinessContract (events : List Event) (matchId : MatchId) :
    (∀ userId, userId ∈ (after lib events).games.readySet matchId ↔
      PlacedSince lib events matchId userId) ∧
    ∀ event game, (after lib events).Creates lib event matchId game →
      CreatedReady lib events event matchId game := by
  refine ⟨ready_iff_placedSince lib events matchId, fun event game creates => ?_⟩
  have unplayed := creates.unplayed lib (after_wellFormed lib events)
  have active := creates.1
  rw [← after_concat] at active
  have fine := (after_wellFormed lib (events ++ [event])).games.active matchId game active
  have opened := fine.unplayed unplayed
  refine ⟨fine.row, (ready_iff_placedSince ..).mp fine.ready1,
    (ready_iff_placedSince ..).mp fine.ready2, ?_, ?_⟩
  · rw [opened]
    exact loadedFrom_of_ready lib fine.ready1
  · rw [opened]
    exact loadedFrom_of_ready lib fine.ready2

end Steps

end Server

namespace Script

open Server

def bobReady : Event := sends 4 bob (.shipPlacement 1 rowShips)

theorem bobReady_created : ∃ early game, early ++ [bobReady] = duel ∧
    (after lib early).Creates lib bobReady 1 game ∧ CreatedReady lib early bobReady 1 game := by
  let early := paired ++ [sends 4 alice (.shipPlacement 1 rowShips)]
  have created : (((after lib early).step lib bobReady).getMatch 1).isSome = true := by
    decide +kernel
  have absent : ((after lib early).getMatch 1).isNone = true := by decide +kernel
  obtain ⟨game, running⟩ := Option.isSome_iff_exists.mp created
  have creates : (after lib early).Creates lib bobReady 1 game :=
    ⟨running, Or.inl (Option.isNone_iff_eq_none.mp absent)⟩
  exact ⟨early, game, rfl, creates, (readinessContract lib early 1).2 bobReady game creates⟩

end Script

end Battleship
