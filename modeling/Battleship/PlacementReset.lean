import Battleship.ServerRuns

/-! Ship placements during a running match. Both players stay in the ready set
until the match is removed, so every placement that is accepted for the match
starts it anew, whoever sends it. -/

namespace Battleship

open Decimal (Text)

structure MatchState.SameProgress (game later : MatchState) : Prop where
  player1Board : later.player1Board = game.player1Board
  player2Board : later.player2Board = game.player2Board
  currentTurnPlayerId : later.currentTurnPlayerId = game.currentTurnPlayerId
  turnNumber : later.turnNumber = game.turnNumber
  turnStartTime : later.turnStartTime = game.turnStartTime
  moveHistory : later.moveHistory = game.moveHistory
  startTime : later.startTime = game.startTime

theorem MatchState.SameProgress.refl (game : MatchState) : game.SameProgress game :=
  ⟨rfl, rfl, rfl, rfl, rfl, rfl, rfl⟩

def Request.isShipPlacement : Request → Bool
  | .shipPlacement _ _ => true
  | .unread type => type = .shipPlacement
  | _ => false

namespace Server

def KeepsProgress (matchId : MatchId) (server later : Server) : Prop :=
  ∃ game continued, server.getMatch matchId = some game ∧
    later.getMatch matchId = some continued ∧ game.SameProgress continued

/-- A match that would look the same if it was started anew: there is no move yet,
and the clock and the player who is drawn are those of its start. -/
def StartsAlike (env : Env) (game : MatchState) : Prop :=
  game.moveHistory = [] ∧ game.startTime = env.now ∧
    game.currentTurnPlayerId = if env.coin then game.player1Id else game.player2Id

def HarmlessPlacement (server : Server) (env : Env) (token : Text) (matchId : MatchId)
    (game : MatchState) : Request → Prop
  | .shipPlacement named ships =>
      named ≠ matchId ∨ server.sessionUser env token = 0 ∨ validateShipPlacement ships = false ∨
        StartsAlike env game
  | _ => True

theorem Untouched.keepsProgress {matchId : MatchId} {server later : Server} {game : MatchState}
    (kept : Untouched matchId server later) (active : server.getMatch matchId = some game) :
    KeepsProgress matchId server later :=
  ⟨game, game, active, kept.game.trans active, .refl game⟩

section Restart

variable (env : Env) {server : Server} {token : Text} {matchId : MatchId}
  {ships : Vector Ship numShips} {game : MatchState}

theorem completes_of_active (good : server.WellFormed) (active : server.getMatch matchId = some game)
    (userId : UserId) : server.Completes matchId userId := by
  have fine := good.games.active matchId game active
  obtain ⟨row, found, player1, player2⟩ := fine.row
  refine ⟨row, found, ?_, ?_⟩
  · exact Finset.mem_insert_of_mem (player1 ▸ fine.ready1)
  · exact Finset.mem_insert_of_mem (player2 ▸ fine.ready2)

theorem handleShipPlacement_restarts (good : server.WellFormed) (clientFd : Option Fd)
    (accepted : server.AcceptsPlacement env token matchId ships)
    (active : server.getMatch matchId = some game) :
    (server.handleShipPlacement env token matchId ships clientFd).getMatch matchId =
      some (openedMatch server.db matchId game.player1Id game.player2Id
        (if env.coin then game.player1Id else game.player2Id) env.now) := by
  have fine := good.games.active matchId game active
  obtain ⟨known, foundKnown, player1, player2⟩ := fine.row
  obtain ⟨_, known1, known2⟩ := good.db.players matchId known foundKnown
  have kept := keeps_placementSaved env token matchId ships clientFd server
  obtain ⟨_, grows⟩ := kept.db.keeps good.db
  obtain ⟨row, found, ready1, ready2⟩ := (placementSaved_completes env server token matchId ships
    clientFd (server.sessionUser env token)).mpr (completes_of_active good active _)
  obtain ⟨same, foundSame, kept1, kept2⟩ := grows.matchRows matchId known foundKnown
  obtain rfl := Option.some.inj (foundSame.symm.trans found)
  rw [handleShipPlacement_accepted env good clientFd accepted,
    placementReady_complete env _ matchId _ found ready1 ready2, activateMatch_getMatch,
    if_pos rfl, activated_eq, kept1, kept2, ← player1, ← player2]
  exact congrArg some (grows.openedMatch (player1 ▸ known1) (player2 ▸ known2)
    (good.games.saved matchId _ fine.ready1) (good.games.saved matchId _ fine.ready2) _ _)

theorem openedMatch_eq_iff {db : Database} {games : Games} (fine : ActiveMatch db games matchId game) :
    openedMatch db matchId game.player1Id game.player2Id
      (if env.coin then game.player1Id else game.player2Id) env.now = game ↔
      StartsAlike env game := by
  constructor
  · intro same
    rw [StartsAlike, ← same]
    exact ⟨rfl, rfl, rfl⟩
  · rintro ⟨unplayed, started, drawn⟩
    rw [← drawn, ← started]
    exact (fine.unplayed unplayed).symm

end Restart

variable {lib : Externals}

/-- A placement leaves the progress of a running match alone exactly when it is
for another match, is refused, or happens to start the match just as it was. -/
theorem shipPlacement_keepsProgress_iff {server : Server} (reachable : server.Reachable lib)
    {matchId : MatchId} {game : MatchState} (active : server.getMatch matchId = some game)
    {event : Event} {token : Text} {request : Request}
    (handled : server.Handles event token request) (placement : request.isShipPlacement = true) :
    KeepsProgress matchId server (server.step lib event) ↔
      server.HarmlessPlacement event.env token matchId game request := by
  have good := reachable.wellFormed
  obtain ⟨conn, client, _, _, stepped⟩ := handled.step_eq lib
  rw [stepped]
  cases request with
  | shipPlacement named ships =>
      simp only [routeMessage, HarmlessPlacement]
      by_cases accepted : named = matchId ∧ server.sessionUser event.env token ≠ 0 ∧
          validateShipPlacement ships = true
      · obtain ⟨rfl, valid, fleet⟩ := accepted
        have fine := good.games.active named game active
        obtain ⟨row, found, _⟩ := fine.row
        have lookup := handleShipPlacement_restarts event.env good client.socketFd
          ⟨valid, fleet, by rw [found]; rfl⟩ active
        simp only [ne_eq, not_true_eq_false, valid, fleet, Bool.true_eq_false, false_or]
        constructor
        · rintro ⟨before, continued, was, now, same⟩
          obtain rfl := Option.some.inj (was.symm.trans active)
          obtain rfl := Option.some.inj (now.symm.trans lookup)
          exact ⟨same.moveHistory.symm, same.startTime.symm, same.currentTurnPlayerId.symm⟩
        · intro alike
          rw [(openedMatch_eq_iff event.env fine).mpr alike] at lookup
          exact ⟨game, game, active, lookup, .refl game⟩
      · have harmless : named ≠ matchId ∨ server.sessionUser event.env token = 0 ∨
            validateShipPlacement ships = false := by
          by_contra rest
          simp only [not_or, ne_eq, not_not, Bool.not_eq_false] at rest
          exact accepted rest
        have kept : Untouched matchId server
            (server.handleShipPlacement event.env token named ships client.socketFd) := by
          rcases handleShipPlacement_change event.env good token named ships client.socketFd
            matchId with kept | ⟨same, ⟨valid, fleet, _⟩, _⟩
          · exact kept
          · exact absurd ⟨same.symm, valid, fleet⟩ accepted
        refine iff_of_true (kept.keepsProgress active) ?_
        rcases harmless with other | invalid | refused
        · exact Or.inl other
        · exact Or.inr (Or.inl invalid)
        · exact Or.inr (Or.inr (Or.inl refused))
  | unread type => exact iff_of_true ((Untouched.refl matchId server).keepsProgress active) trivial
  | _ => simp [Request.isShipPlacement] at placement

end Server

namespace Script

open Server

def duelMoved : List Event := duel ++ [sends 5 alice (.move 1 ⟨9, 9⟩)]

def placesAgain : Event := sends 6 alice (.shipPlacement 1 rowShips)

theorem placesAgain_handled : (after lib duelMoved).Handles placesAgain (token alice)
    (.shipPlacement 1 rowShips) :=
  handles_of_isLive (by decide +kernel) ..

theorem placesAgain_keepsProgress_iff : ∃ game, (after lib duelMoved).getMatch 1 = some game ∧
    (KeepsProgress 1 (after lib duelMoved) ((after lib duelMoved).step lib placesAgain) ↔
      (after lib duelMoved).HarmlessPlacement placesAgain.env (token alice) 1 game
        (.shipPlacement 1 rowShips)) := by
  have running : ((after lib duelMoved).getMatch 1).isSome = true := by decide +kernel
  obtain ⟨game, active⟩ := Option.isSome_iff_exists.mp running
  exact ⟨game, active, shipPlacement_keepsProgress_iff (after_reachable lib duelMoved) active
    placesAgain_handled rfl⟩

/-- The shot is forgotten. -/
theorem placesAgain_resets : (after lib duelMoved).Reachable lib ∧
    ((after lib duelMoved).getMatch 1).isSome = true ∧
    (after lib duelMoved).Handles placesAgain (token alice) (.shipPlacement 1 rowShips) ∧
    ¬KeepsProgress 1 (after lib duelMoved) ((after lib duelMoved).step lib placesAgain) := by
  refine ⟨after_reachable lib duelMoved, by decide +kernel, placesAgain_handled, ?_⟩
  rintro ⟨game, restarted, active, lookup, same⟩
  have shots : ((after lib duelMoved).getMatch 1).map (·.moveHistory.length) = some 1 := by
    decide +kernel
  have none : (((after lib duelMoved).step lib placesAgain).getMatch 1).map
      (·.moveHistory.length) = some 0 := by decide +kernel
  rw [active, Option.map_some, ← same.moveHistory] at shots
  rw [lookup, Option.map_some, shots] at none
  simp at none

end Script

end Battleship
