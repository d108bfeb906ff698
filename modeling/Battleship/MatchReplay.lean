import Battleship.MatchConclusion
import Battleship.MatchEndings
import Battleship.MoveRows
import Battleship.PendingChallenges
import Battleship.RejectedMessages

/-! An active match next to what the database holds of it. The saved placements and the rows
of `match_moves`, made again one after the other, come to the state that the server has
in memory, whatever else has happened in between. The readings of the clock are left out:
`processMove` and `saveMove` each take their own. -/

namespace Battleship

open Decimal (Text)
open Machine

namespace MatchState

variable (game : MatchState) (now : Nat) (playerId : UserId) (target : Coordinate)

def untimed : MatchState :=
  { game with
    turnStartTime := 0
    moveHistory := game.moveHistory.map fun move => { move with timestamp := 0 }
    startTime := 0
    endTime := 0 }

@[simp] theorem untimed_targetBoard :
    game.untimed.targetBoard playerId = game.targetBoard playerId := rfl

theorem untimed_setTargetBoard (board : Board) : (game.setTargetBoard playerId board).untimed =
    game.untimed.setTargetBoard playerId board := by
  unfold setTargetBoard
  by_cases first : playerId = game.player1Id
  · rw [if_pos first, if_pos (by exact first)]
    rfl
  · rw [if_neg first, if_neg (by exact first)]
    rfl

theorem untimed_addMoveToHistory (move : Move) : (game.addMoveToHistory move).untimed =
    game.untimed.addMoveToHistory { move with timestamp := 0 } := by
  simp [untimed, addMoveToHistory]

theorem untimed_recorded : (game.recorded now playerId target).untimed =
    game.untimed.recorded 0 playerId target := by
  rw [recorded, untimed_addMoveToHistory, untimed_setTargetBoard]
  rfl

theorem untimed_endMatch (winner : UserId) :
    (game.endMatch now winner).untimed = game.untimed.endMatch 0 winner := rfl

theorem untimed_switchTurn : (game.switchTurn now).untimed = game.untimed.switchTurn 0 := rfl

/-- A move does with a match what it does without the clock. -/
theorem untimed_processMove : (game.processMove now playerId target).1.untimed =
    (game.untimed.processMove 0 playerId target).1 := by
  have recorded := game.untimed_recorded now playerId target
  unfold processMove
  change _ = (if !game.isActive || game.isPaused then (game.untimed, ShotResult.miss)
    else if playerId ≠ game.currentTurnPlayerId then (game.untimed, .miss)
    else game.untimed.playMove 0 playerId target).1
  split
  · rfl
  split
  · rfl
  rw [playMove_eq, playMove_eq, untimed_targetBoard]
  change _ = if _ then _ else if (game.moveOf now playerId target).result = ShotResult.miss
    then _ else _
  split
  · rw [untimed_endMatch, recorded]
  split
  · rw [untimed_switchTurn, recorded]
  · exact recorded

variable {game} in
theorem processMove_untimed_congr {other : MatchState} (same : game.untimed = other.untimed)
    (later : Nat) : (game.processMove now playerId target).1.untimed =
      (other.processMove later playerId target).1.untimed := by
  rw [untimed_processMove, same, ← untimed_processMove]

end MatchState

namespace Server

def replayMove (game : MatchState) (row : MatchMove) : MatchState :=
  (game.processMove row.timestamp row.playerId ⟨Int8.ofInt row.y, Int8.ofInt row.x⟩).1

theorem replayMove_savedMove (env : Env) (matchId : MatchId) {game other : MatchState}
    (same : game.untimed = other.untimed) (target : Coordinate) :
    (game.processMove env.now game.currentTurnPlayerId target).1.untimed =
      (replayMove other (savedMove env matchId game target)).untimed := by
  simp only [replayMove, savedMove, Int8.ofInt_toInt]
  exact MatchState.processMove_untimed_congr env.now _ target same env.now

section Steps

variable (lib : Externals) {server : Server} {event : Event} {matchId : MatchId}

/-- Any other event leaves a match as it was, or ends it. -/
theorem step_running
    (still : ∀ token matchId target, ¬server.Handles event token (.move matchId target))
    (unplaced : ∀ token matchId ships, ¬server.Handles event token (.shipPlacement matchId ships))
    {game : MatchState} (running : (server.step lib event).getMatch matchId = some game) :
    server.getMatch matchId = some game := by
  cases step_call lib server event with
  | idle _ stepped => rwa [stepped] at running
  | accepted fd _ _ stepped =>
      rw [stepped] at running
      exact running
  | routed conn client token request acted known live stepped =>
      have handled : server.Handles event token request :=
        ⟨conn, client, acted, known, live.1, live.2⟩
      rw [stepped] at running
      refine (routeMessage_keepsTurns lib event.env conn client token ?_ ?_).games _ _ running
      · cases request with
        | shipPlacement matchId ships => exact absurd handled (unplaced token matchId ships)
        | _ => nofun
      · cases request with
        | move matchId target => exact absurd handled (still token matchId target)
        | _ => nofun
  | receiveFailed conn _ stepped =>
      rw [stepped] at running
      exact running
  | removed conn client _ _ _ stepped =>
      rw [stepped] at running
      exact (removeClient_removal lib event.env client.threadFd server).keepsTurns.games _ _ running
  | swept _ stepped =>
      rw [stepped] at running
      exact (checkTurnTimeouts_keepsTurns lib event.env server).games _ _ running
  | restarted _ stepped =>
      rw [stepped] at running
      exact (restarted_keepsTurns server).games _ _ running

/-- A match that goes on is as it was, with the rows that it had, or has one move more. -/
theorem step_continues (good : server.WellFormed)
    (begun : ¬server.CompletesPlacement event matchId) {game : MatchState}
    (running : (server.step lib event).getMatch matchId = some game) :
    (server.getMatch matchId = some game ∧
      (server.step lib event).db.movesOf matchId = server.db.movesOf matchId) ∨
    ∃ before target, server.Moves event matchId before target ∧
      game = (before.processMove event.env.now before.currentTurnPlayerId target).1 ∧
      (server.step lib event).db.movesOf matchId =
        server.db.movesOf matchId ++ [savedMove event.env matchId before target] := by
  by_cases moved : ∃ other before target, server.Moves event other before target
  · obtain ⟨other, before, target, moves⟩ := moved
    have done := moves.done lib good
    have rows := movesOf_concat _ _ _ done.moves matchId
    by_cases here : matchId = other
    · subst here
      rw [if_pos (by rfl)] at rows
      exact Or.inr ⟨before, target, moves, (done.played game running).1, rows⟩
    · rw [if_neg (by exact Ne.symm here), List.append_nil] at rows
      rw [done.others matchId here] at running
      exact Or.inl ⟨running, rows⟩
  · left
    have unmoved := (step_moved lib server event).resolve_right moved
    refine ⟨?_, by rw [Database.movesOf, unmoved.moves, Database.movesOf]⟩
    by_cases placed : ∃ token named ships, server.Handles event token (.shipPlacement named ships)
    · obtain ⟨token, named, ships, handled⟩ := placed
      obtain ⟨conn, client, _, _, stepped⟩ := handled.step_eq lib
      rw [stepped] at running
      rcases handleShipPlacement_change event.env good token named ships client.socketFd matchId with
        kept | ⟨rfl, accepted, complete, -⟩
      · exact kept.game.symm.trans running
      · exact absurd ⟨token, ships, handled, accepted, complete⟩ begun
    by_cases shot : ∃ token named target, server.Handles event token (.move named target)
    · obtain ⟨token, named, target, handled⟩ := shot
      obtain ⟨conn, client, _, _, stepped⟩ := handled.step_eq lib
      have refused : server.sessionUser event.env token = 0 ∨ ∀ game,
          server.getMatch named = some game →
            game.currentTurnPlayerId ≠ server.sessionUser event.env token := by
        by_contra accepted
        obtain ⟨valid, taken⟩ := not_or.mp accepted
        push Not at taken
        obtain ⟨before, found, turn⟩ := taken
        exact moved ⟨named, before, target, token, handled, turn.symm, turn ▸ valid, found⟩
      rw [stepped, routeMessage, handleMove_rejected lib event.env server token target refused]
        at running
      exact running
    · refine step_running lib ?_ ?_ running
      · exact fun token named target handled => shot ⟨token, named, target, handled⟩
      · exact fun token named ships handled => placed ⟨token, named, ships, handled⟩

theorem CompletesPlacement.starts (good : server.WellFormed)
    (completes : server.CompletesPlacement event matchId) {game : MatchState}
    (running : (server.step lib event).getMatch matchId = some game) :
    game = openedMatch (server.step lib event).db matchId game.player1Id game.player2Id
      game.currentTurnPlayerId game.startTime ∧
    (server.step lib event).db.movesOf matchId = server.db.movesOf matchId := by
  have fine := (step_wellFormed lib server event good).games.active matchId game running
  obtain ⟨token, ships, handled, accepted, complete⟩ := completes
  obtain ⟨conn, client, _, _, stepped⟩ := handled.step_eq lib
  constructor
  · apply fine.unplayed
    obtain ⟨opened, found, unplayed⟩ :=
      handleShipPlacement_opens good client.socketFd accepted complete
    rw [stepped] at running
    obtain rfl := Option.some.inj (running.symm.trans found)
    exact unplayed
  · have unmoved := handleShipPlacement_unmoved event.env server token matchId ships client.socketFd
    rw [stepped, routeMessage, Database.movesOf, unmoved.moves, Database.movesOf]

variable (event) in
theorem step_openedMatch (good : server.WellFormed) {game : MatchState}
    (found : server.getMatch matchId = some game) (first : UserId) (startTime : Nat) :
    openedMatch (server.step lib event).db matchId game.player1Id game.player2Id first startTime =
      openedMatch server.db matchId game.player1Id game.player2Id first startTime := by
  have fine := good.games.active matchId game found
  have stored := fine.stored good.db
  exact (step_grows lib good event).openedMatch stored.player1 stored.player2
    (good.games.saved matchId _ fine.ready1) (good.games.saved matchId _ fine.ready2) _ _

end Steps

section Runs

variable (lib : Externals) (events : List Event) (matchId : MatchId)

def StartedLast (early : List Event) : Prop :=
  ∃ started later, events = early ++ started :: later ∧
    (after lib early).CompletesPlacement started matchId ∧
    Respects (step lib) (fun server event => ¬server.CompletesPlacement event matchId)
      (after lib (early ++ [started])) later

def movesSince (early : List Event) : List MatchMove :=
  ((after lib events).db.movesOf matchId).drop ((after lib early).db.movesOf matchId).length

/-- The moves of the match are the rows saved since it was started last, and it is what comes
of its saved placements and of these rows, its readings of the clock apart. -/
def Replays (game : MatchState) : Prop :=
  ∃ early first, StartedLast lib events matchId early ∧
    (first = game.player1Id ∨ first = game.player2Id) ∧
    ((after lib early).db.movesOf matchId).length ≤ ((after lib events).db.movesOf matchId).length ∧
    List.Forall₂ SameShot (movesSince lib events matchId early) game.moveHistory ∧
    ∀ startTime, game.untimed = ((movesSince lib events matchId early).foldl replayMove
      (openedMatch (after lib events).db matchId game.player1Id game.player2Id first
        startTime)).untimed

end Runs

section Induction

variable {lib : Externals} {before early : List Event} {event : Event} {matchId : MatchId}

theorem StartedLast.concat (started : StartedLast lib before matchId early)
    (begun : ¬(after lib before).CompletesPlacement event matchId) :
    StartedLast lib (before ++ [event]) matchId early := by
  obtain ⟨start, later, rfl, completes, alone⟩ := started
  refine ⟨start, later ++ [event], by simp, completes, ?_⟩
  intro between last taken
  rcases stepOf_concat taken with ⟨rfl, rfl⟩ | old
  · rwa [← exec_append, List.append_assoc]
  · exact alone between last old

theorem Replays.kept {game : MatchState} (replays : Replays lib before matchId game)
    (begun : ¬(after lib before).CompletesPlacement event matchId)
    (found : (after lib before).getMatch matchId = some game)
    (rows : (after lib (before ++ [event])).db.movesOf matchId =
      (after lib before).db.movesOf matchId) :
    Replays lib (before ++ [event]) matchId game := by
  obtain ⟨early, first, started, seat, saved, moves, same⟩ := replays
  refine ⟨early, first, started.concat begun, seat, rows ▸ saved, ?_, ?_⟩
  · rwa [movesSince, rows]
  intro startTime
  have opened := step_openedMatch lib event (after_wellFormed lib before) found first startTime
  rw [movesSince, rows, after_concat, opened]
  exact same startTime

theorem Replays.moved {game : MatchState} (replays : Replays lib before matchId game)
    (begun : ¬(after lib before).CompletesPlacement event matchId) {target : Coordinate}
    (found : (after lib before).getMatch matchId = some game)
    (rows : (after lib (before ++ [event])).db.movesOf matchId =
      (after lib before).db.movesOf matchId ++ [savedMove event.env matchId game target]) :
    Replays lib (before ++ [event]) matchId
      (game.processMove event.env.now game.currentTurnPlayerId target).1 := by
  obtain ⟨early, first, started, seat, saved, moves, same⟩ := replays
  have fine := (after_wellFormed lib before).games.active matchId game found
  obtain ⟨player1, player2⟩ :=
    game.receive_players ⟨event.env.now, game.currentTurnPlayerId, target⟩
  change (game.processMove event.env.now game.currentTurnPlayerId target).1.player1Id = _ at player1
  change (game.processMove event.env.now game.currentTurnPlayerId target).1.player2Id = _ at player2
  refine ⟨early, first, started.concat begun, by rwa [player1, player2], ?_, ?_, ?_⟩
  · rw [rows, List.length_append]
    omega
  · rw [movesSince, rows, List.drop_append_of_le_length saved, played_history fine]
    exact List.rel_append moves (.cons (savedMove_sameShot fine target event.env) .nil)
  · intro startTime
    have opened := step_openedMatch lib event (after_wellFormed lib before) found first startTime
    rw [movesSince, rows, List.drop_append_of_le_length saved, List.foldl_append, player1, player2,
      after_concat, opened, ← movesSince]
    exact replayMove_savedMove event.env matchId (same startTime) target

theorem replays_started (completes : (after lib before).CompletesPlacement event matchId)
    {game : MatchState} (running : (after lib (before ++ [event])).getMatch matchId = some game) :
    Replays lib (before ++ [event]) matchId game := by
  have good := after_wellFormed lib (before ++ [event])
  rw [after_concat] at running
  obtain ⟨opened, rows⟩ := completes.starts lib (after_wellFormed lib before) running
  rw [← after_concat] at opened rows running
  refine ⟨before, game.currentTurnPlayerId, ⟨event, [], rfl, completes, respects_nil _ _ _⟩,
    (good.games.active matchId game running).turn, rows ▸ le_rfl, ?_, ?_⟩
  · rw [movesSince, rows, List.drop_length, opened]
    exact .nil
  intro startTime
  rw [movesSince, rows, List.drop_length, List.foldl_nil]
  exact (congrArg MatchState.untimed opened).trans rfl

end Induction

/-- In every run the state of every active match, its readings of the clock apart, can be read
off the database: it is what its saved placements open, followed by the moves of the rows since. -/
theorem replayed (lib : Externals) (events : List Event) (matchId : MatchId) (game : MatchState)
    (running : (after lib events).getMatch matchId = some game) :
    Replays lib events matchId game := by
  induction events using List.reverseRecOn generalizing game with
  | nil => simp [after, getMatch, init] at running
  | append_singleton before event ih =>
      by_cases begun : (after lib before).CompletesPlacement event matchId
      · exact replays_started begun running
      have stepped := running
      rw [after_concat] at stepped
      rcases step_continues lib (after_wellFormed lib before) begun stepped with
        ⟨found, rows⟩ | ⟨earlier, target, moves, rfl, rows⟩
      · rw [← after_concat] at rows
        exact (ih game found).kept begun found rows
      · rw [← after_concat] at rows
        have found := moves.choose_spec.2.2.2
        exact (ih earlier found).moved begun found rows

end Server

namespace Script

open Server

theorem replayed_missedShot : ∃ game, (after lib (duel ++ [missedShot])).getMatch 1 = some game ∧
    Replays lib (duel ++ [missedShot]) 1 game := by
  have active : ((after lib (duel ++ [missedShot])).getMatch 1).isSome = true := by decide +kernel
  obtain ⟨game, running⟩ := Option.isSome_iff_exists.mp active
  exact ⟨game, running, replayed lib _ 1 game running⟩

end Script

end Battleship
