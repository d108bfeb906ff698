import Battleship.Readiness
import Battleship.TurnAgreement
import Battleship.TurnAnnouncements
import Mathlib.Data.List.Sort

/-! The rows of `match_moves` next to the move history of a match. A row takes the turn
number after the move, the history the one before it, so they part at every miss. -/

namespace Battleship

open Decimal (Text)
open Machine

namespace Database

theorem saveMove_moves (db : Database) {matchId : MatchId} {playerId : UserId}
    (row : (db.matchRows[matchId]?).isSome = true) (player : db.HasUser playerId) (now : Nat)
    (moveNumber x y : Int) (result : ShotResult) :
    (db.saveMove now matchId playerId moveNumber x y result).1.matchMoves =
      db.matchMoves ++ [⟨matchId, playerId, moveNumber, x, y, result, now⟩] := by
  have known : (db.users[playerId]?).isSome = true := player
  unfold saveMove
  rw [if_neg]
  simp only [Bool.or_eq_true, Option.isNone_iff_eq_none, not_or, ← ne_eq,
    ← Option.isSome_iff_ne_none]
  exact ⟨row, known⟩

def movesOf (db : Database) (matchId : MatchId) : List MatchMove :=
  db.matchMoves.filter fun row => row.matchId = matchId

/-- The order in which `getMatchMoves` lists rows: `ORDER BY move_number`. -/
def inMoveOrder (rows : List MatchMove) : List MatchMove :=
  rows.mergeSort fun first second => first.moveNumber ≤ second.moveNumber

end Database

namespace Server

structure Unmoved (env : Env) (server later : Server) : Prop where
  moves : later.db.matchMoves = server.db.matchMoves
  games : ∀ matchId game, later.getMatch matchId = some game →
    server.getMatch matchId = some game ∨ game.moveHistory = [] ∧ game.turnStartTime = env.now

theorem Unmoved.refl (env : Env) (server : Server) : Unmoved env server server :=
  ⟨rfl, fun _ _ => Or.inl⟩

theorem Unmoved.trans {env : Env} {first second third : Server} (early : Unmoved env first second)
    (late : Unmoved env second third) : Unmoved env first third := by
  refine ⟨late.moves.trans early.moves, ?_⟩
  intro matchId game found
  rcases late.games matchId game found with kept | begun
  · exact early.games matchId game kept
  · exact Or.inr begun

theorem Unmoved.of_games {env : Env} {server later : Server}
    (moves : later.db.matchMoves = server.db.matchMoves) (games : later.games = server.games) :
    Unmoved env server later :=
  ⟨moves, fun matchId game found => Or.inl (by rwa [getMatch, games] at found)⟩

/-- Whatever the server is at but a placement or a move. -/
theorem Work.unmoved {duty : Duty} {env : Env} {server later : Server}
    (work : Work duty env server later) (unplaced : duty ≠ .placing) (still : duty ≠ .moving) :
    Unmoved env server later := by
  induction work with
  | refl => exact .refl env server
  | tail _ act unmoved =>
      refine unmoved.trans ?_
      cases act with
      | statement made => exact .of_games (made.matchMoves still) rfl
      | createMatch pairs player1Id player2Id =>
          exact .of_games (Database.createMatch_moves ..) rfl
      | games places => exact absurd places unplaced
      | setMatch moves => exact absurd moves still
      | @removeMatch matchId active =>
          refine ⟨rfl, fun other game found => Or.inl ?_⟩
          unfold getMatch Server.removeMatch at found
          rw [Table.lookup_erase] at found
          split at found
          · cases found
          · exact found
      | manager | journal | tells | status => exact .of_games rfl rfl

section Handlers

variable (lib : Externals) (env : Env) (server : Server)

theorem validateSession_unmoved (token : Text) :
    Unmoved env server (server.validateSession env token).1 :=
  .of_games (Database.validateSession_aside ..).matchMoves rfl

theorem finishMatch_moves (matchId : MatchId) (game : MatchState) (winnerId : UserId)
    (reason : MatchEndReason) (reasonText : String) :
    (server.finishMatch lib env matchId game winnerId reason reasonText).db.matchMoves =
      server.db.matchMoves :=
  Database.endMatch_moves ..

theorem Removal.unmoved {lib : Externals} {env : Env} {fd : Fd} {server later : Server}
    {user : Option UserId} (removal : Removal lib env fd server user later) :
    Unmoved env server later := by
  cases removal with
  | nobody => exact .of_games rfl rfl
  | @user net last userId =>
      have listed : Unmoved env server { server with net := net } := .of_games rfl rfl
      have ended := (handlePlayerDisconnect_work lib env (.refl { server with net := net })
        userId).unmoved (by decide) (by decide)
      exact (listed.trans ended).trans (.of_games rfl rfl)

theorem placementReady_unmoved (matchId : MatchId) (userId : UserId) :
    Unmoved env server (server.placementReady env matchId userId) := by
  refine ⟨by rw [placementReady_db], ?_⟩
  intro other game found
  unfold placementReady at found
  dsimp only at found
  split at found
  · exact Or.inl found
  split at found
  · rw [activateMatch_getMatch] at found
    split at found
    · obtain rfl := Option.some.inj found
      exact Or.inr ⟨rfl, rfl⟩
    · exact Or.inl found
  · exact Or.inl found

theorem handleShipPlacement_unmoved (token : Text) (matchId : MatchId)
    (ships : Vector Ship numShips) (clientFd : Option Fd) :
    Unmoved env server (server.handleShipPlacement env token matchId ships clientFd) := by
  have checked := (validateSession_unmoved env server token).moves
  have saved := (Database.saveShipPlacement_moves (server.validateSession env token).1.db matchId
    (server.validateSession env token).2 (encodeShips ships)).trans checked
  unfold handleShipPlacement
  dsimp only
  split
  · exact ⟨checked, fun _ _ => Or.inl⟩
  split
  · exact ⟨checked, fun _ _ => Or.inl⟩
  split
  · exact ⟨saved, fun _ _ => Or.inl⟩
  · refine Unmoved.trans ?_ (placementReady_unmoved env _ matchId _)
    exact ⟨saved, fun _ _ => Or.inl⟩

end Handlers

section Steps

variable (lib : Externals) {server : Server} {event : Event}

theorem HandlerWork.unmoved {duty : Duty} {env : Env} {later : Server}
    (work : HandlerWork duty env server later) (unplaced : duty ≠ .placing)
    (still : duty ≠ .moving) : Unmoved env server later := by
  cases work with
  | work kept => exact kept.unmoved unplaced still
  | refusal => exact .of_games rfl rfl

theorem routeMessage_unmoved (env : Env) (conn : ConnId) (client : ClientConnection)
    (token : Text) {request : Request} (still : request.duty ≠ .moving) :
    Unmoved env server (server.routeMessage lib env conn client token request) := by
  cases plain : request.authenticates with
  | true =>
      have aside := routeMessage_aside lib env conn client token server plain
      exact .of_games aside.tables.matchMoves aside.games
  | false =>
      cases request with
      | shipPlacement matchId ships =>
          exact handleShipPlacement_unmoved env server token matchId ships client.socketFd
      | _ => exact (routeMessage_work lib env conn client token server plain).unmoved nofun still

theorem step_unmoved (other : ∀ token matchId target,
      ¬server.Handles event token (.move matchId target)) :
    Unmoved event.env server (server.step lib event) := by
  cases step_call lib server event with
  | idle _ stepped =>
      rw [stepped]
      exact .refl event.env server
  | accepted fd _ _ stepped =>
      rw [stepped]
      exact .of_games rfl rfl
  | routed conn client token request acted known live stepped =>
      rw [stepped]
      refine routeMessage_unmoved lib event.env conn client token ?_
      cases request with
      | move matchId target =>
          exact absurd ⟨conn, client, acted, known, live⟩ (other token matchId target)
      | _ => nofun
  | receiveFailed conn _ stepped =>
      rw [stepped]
      exact .of_games rfl rfl
  | removed conn client _ _ _ stepped =>
      rw [stepped]
      have removed := (removeClient_removal lib event.env client.threadFd server).unmoved
      exact removed.trans (.of_games rfl rfl)
  | swept _ stepped =>
      rw [stepped]
      exact (checkTurnTimeouts_work lib event.env (.refl server)).unmoved (by decide) (by decide)
  | restarted _ stepped =>
      rw [stepped]
      exact ⟨rfl, fun matchId game found => Or.inl ((restarted_keepsTurns server).games _ _ found)⟩

end Steps

section Moves

def SameShot (row : MatchMove) (move : Move) : Prop :=
  row.playerId = move.playerId ∧ row.x = move.target.col.toInt ∧ row.y = move.target.row.toInt ∧
    row.result = move.result

def SameMove (row : MatchMove) (move : Move) : Prop :=
  SameShot row move ∧ row.moveNumber = move.moveNumber

def Moves (server : Server) (event : Event) (matchId : MatchId) (game : MatchState)
    (target : Coordinate) : Prop :=
  ∃ token, server.Handles event token (.move matchId target) ∧
    server.sessionUser event.env token = game.currentTurnPlayerId ∧ game.currentTurnPlayerId ≠ 0 ∧
    server.getMatch matchId = some game

/-- The last rows of the match are the history after the move, entry by entry, and in the
order of their numbers they stay as they are. -/
def RecordsMove (lib : Externals) (server : Server) (event : Event) (matchId : MatchId) : Prop :=
  ∀ game target, server.Moves event matchId game target →
    ∃ earlier recent, (server.step lib event).db.movesOf matchId = earlier ++ recent ∧
      List.Forall₂ SameMove recent
        (game.processMove event.env.now game.currentTurnPlayerId target).1.moveHistory ∧
      Database.inMoveOrder recent = recent

def Dry (board : Board) (target : Coordinate) : Prop :=
  ∀ cell ∈ cellAt? target.row.toInt target.col.toInt, board.grid cell ≠ .ship

def Misses (server : Server) (event : Event) (matchId : MatchId) : Prop :=
  ∃ game target, server.Moves event matchId game target ∧
    Dry (game.targetBoard game.currentTurnPlayerId) target

theorem processShot_miss_iff (board : Board) (target : Coordinate) :
    (board.processShot target).2 = .miss ↔ Dry board target := by
  unfold Board.processShot Dry
  cases cellAt? target.row.toInt target.col.toInt with
  | none => simp
  | some cell =>
      dsimp only
      simp only [Option.mem_def, Option.some.injEq, forall_eq']
      split
      next ship =>
        refine iff_of_false ?_ (not_not_intro ship)
        split
        · unfold Board.hitShip
          dsimp only
          split <;> simp
        · simp
      next other =>
        refine iff_of_true ?_ other
        split <;> rfl

def savedMove (env : Env) (matchId : MatchId) (game : MatchState) (target : Coordinate) :
    MatchMove :=
  let played := game.processMove env.now game.currentTurnPlayerId target
  ⟨matchId, game.currentTurnPlayerId, played.1.turnNumber, target.col.toInt, target.row.toInt,
    played.2, env.now⟩

structure MoveDone (env : Env) (matchId : MatchId) (game : MatchState) (target : Coordinate)
    (server later : Server) : Prop where
  moves : later.db.matchMoves = server.db.matchMoves ++ [savedMove env matchId game target]
  played : ∀ continued, later.getMatch matchId = some continued →
    continued = (game.processMove env.now game.currentTurnPlayerId target).1 ∧
      (continued.targetBoard game.currentTurnPlayerId).allShipsSunk = false
  others : ∀ other, other ≠ matchId → later.getMatch other = server.getMatch other

section Done

variable (lib : Externals) (env : Env) {server : Server} {matchId : MatchId} {game : MatchState}

theorem playMove_done (good : server.WellFormed) (found : server.getMatch matchId = some game)
    (target : Coordinate) : MoveDone env matchId game target server
      (server.playMove lib env matchId game game.currentTurnPlayerId target) := by
  have fine := good.games.active matchId game found
  have stored := fine.stored good.db
  obtain ⟨row, known⟩ := stored.row
  have saved : (server.movePlayed env matchId game game.currentTurnPlayerId target).db.matchMoves =
      server.db.matchMoves ++ [savedMove env matchId game target] :=
    Database.saveMove_moves server.db (by rw [known]; rfl) (stored.seated fine.turn) ..
  have lookup := movePlayed_getMatch env matchId game game.currentTurnPlayerId target server
  have apart (other : MatchId) (different : other ≠ matchId) :
      (server.movePlayed env matchId game game.currentTurnPlayerId target).getMatch other =
        server.getMatch other := by
    rw [lookup, if_neg (Ne.symm different)]
  rw [playMove_eq]
  split
  next sunk =>
    refine ⟨(finishMatch_moves ..).trans saved, ?_, ?_⟩
    · intro continued running
      rw [(finishMatch_concludes lib env matchId _ _ _ .normal "All ships destroyed"
        ((lookup matchId).trans (if_pos rfl))).gone] at running
      cases running
    · intro other different
      exact (finishMatch_untouched lib env matchId _ _ _ _ _ (Ne.symm different)).game.trans
        (apart other different)
  next afloat =>
    refine ⟨saved, ?_, apart⟩
    intro continued running
    have same := (lookup matchId).symm.trans running
    rw [if_pos rfl] at same
    obtain rfl := Option.some.inj same
    exact ⟨rfl, by simpa using afloat⟩

theorem Moves.done {event : Event} {target : Coordinate} (good : server.WellFormed)
    (moves : server.Moves event matchId game target) :
    MoveDone event.env matchId game target server (server.step lib event) := by
  obtain ⟨token, handled, turn, valid, found⟩ := moves
  obtain ⟨conn, client, _, _, stepped⟩ := handled.step_eq lib
  have checked := validated_wellFormed event.env good token
  have kept := (keeps_validated event.env server token).untouched
  have running := (kept matchId).game.trans found
  have user : (server.validateSession event.env token).2 = game.currentTurnPlayerId := turn
  rw [stepped]
  unfold routeMessage handleMove
  dsimp only
  rw [user, if_neg valid, running]
  dsimp only
  rw [if_neg (by simp)]
  obtain ⟨moves, played, others⟩ := playMove_done lib event.env checked running target
  refine ⟨?_, played, fun other different => (others other different).trans (kept other).game⟩
  rw [moves, (validateSession_unmoved event.env server token).moves]

/-- A MOVE that is not accepted saves nothing. -/
theorem step_moved (server : Server) (event : Event) :
    Unmoved event.env server (server.step lib event) ∨
      ∃ matchId game target, server.Moves event matchId game target := by
  by_cases handled : ∃ token matchId target, server.Handles event token (.move matchId target)
  · obtain ⟨token, matchId, target, handled⟩ := handled
    obtain ⟨conn, client, _, _, stepped⟩ := handled.step_eq lib
    have checked := validateSession_unmoved event.env server token
    by_cases accepted : ∃ game, server.Moves event matchId game target
    · exact Or.inr ⟨matchId, accepted.choose, target, accepted.choose_spec⟩
    left
    rw [stepped]
    unfold routeMessage handleMove
    dsimp only
    split
    · exact checked
    next valid =>
      split
      · exact checked
      next game found =>
        split
        · exact checked
        next turn =>
          rw [ne_eq, not_not] at turn
          have active : server.getMatch matchId = some game :=
            ((keeps_validated event.env server token).untouched matchId).game.symm.trans found
          have user : server.sessionUser event.env token = game.currentTurnPlayerId := turn.symm
          exact absurd ⟨game, token, handled, user, turn ▸ valid, active⟩ accepted
  · left
    exact step_unmoved lib fun token matchId target same => handled ⟨token, matchId, target, same⟩

end Done

end Moves

section Following

def Afloat (game : MatchState) : Prop := ∀ shooter, (game.targetBoard shooter).allShipsSunk = false

def RowsFollow (same : MatchMove → Move → Prop) (rows : List MatchMove) (game : MatchState) : Prop :=
  ∃ earlier recent, rows = earlier ++ recent ∧ List.Forall₂ same recent game.moveHistory ∧
    (recent.Pairwise fun first second => first.moveNumber ≤ second.moveNumber) ∧
    ∀ row ∈ recent, row.moveNumber ≤ game.turnNumber

theorem sinks_strikes {board : Board} {target : Coordinate} (afloat : board.allShipsSunk = false)
    (sunk : (board.processShot target).1.allShipsSunk = true) :
    (board.processShot target).2 ≠ .miss := by
  rcases board.processShot_remaining target with ⟨result, -⟩ | ⟨-, same⟩
  · rw [result]
    simp
  · rw [Board.allShipsSunk, same] at sunk
    rw [Board.allShipsSunk, sunk] at afloat
    cases afloat

section Played

variable {db : Database} {games : Games} {matchId : MatchId} {game : MatchState}
  (fine : ActiveMatch db games matchId game) (afloat : Afloat game) (now : Nat) (target : Coordinate)

include fine

theorem played_history :
    (game.processMove now game.currentTurnPlayerId target).1.moveHistory =
      game.moveHistory ++ [game.moveOf now game.currentTurnPlayerId target] := by
  rw [Server.ActiveMatch.processMove fine, MatchState.playMove_history]

theorem played_result : (game.processMove now game.currentTurnPlayerId target).2 =
    ((game.targetBoard game.currentTurnPlayerId).processShot target).2 := by
  rw [Server.ActiveMatch.processMove fine]
  simp only [MatchState.playMove, apply_ite Prod.snd, ite_self]

theorem savedMove_sameShot (env : Env) : SameShot (savedMove env matchId game target)
    (game.moveOf env.now game.currentTurnPlayerId target) :=
  ⟨rfl, rfl, rfl, played_result fine env.now target⟩

theorem played_turnNumber_hit (hit : ¬Dry (game.targetBoard game.currentTurnPlayerId) target) :
    (game.processMove now game.currentTurnPlayerId target).1.turnNumber = game.turnNumber := by
  have struck : (game.moveOf now game.currentTurnPlayerId target).result ≠ .miss :=
    mt (processShot_miss_iff _ target).mp hit
  rw [Server.ActiveMatch.processMove fine, MatchState.playMove_eq]
  split
  · simp [MatchState.endMatch]
  · simp

include afloat

theorem played_turnNumber_miss (dry : Dry (game.targetBoard game.currentTurnPlayerId) target) :
    (game.processMove now game.currentTurnPlayerId target).1.turnNumber = game.turnNumber + 1 := by
  have missed : (game.moveOf now game.currentTurnPlayerId target).result = .miss :=
    (processShot_miss_iff _ target).mpr dry
  rw [Server.ActiveMatch.processMove fine, MatchState.playMove_eq, if_neg, if_pos missed]
  · simp [MatchState.switchTurn]
  · exact fun sunk => sinks_strikes (afloat _) sunk missed

/-- The numbers of the two records agree unless the shot is a miss. -/
theorem savedMove_sameMove_iff (env : Env) : SameMove (savedMove env matchId game target)
    (game.moveOf env.now game.currentTurnPlayerId target) ↔
      ¬Dry (game.targetBoard game.currentTurnPlayerId) target := by
  constructor
  · rintro ⟨-, number⟩ dry
    have counted := played_turnNumber_miss fine afloat env.now target dry
    have same : (game.processMove env.now game.currentTurnPlayerId target).1.turnNumber =
        game.turnNumber := number
    omega
  · intro hit
    exact ⟨savedMove_sameShot fine target env, played_turnNumber_hit fine env.now target hit⟩

theorem played_afloat
    (left : ((game.processMove now game.currentTurnPlayerId target).1.targetBoard
      game.currentTurnPlayerId).allShipsSunk = false) :
    Afloat (game.processMove now game.currentTurnPlayerId target).1 := by
  have boards (shooter : UserId) :
      (game.playMove now game.currentTurnPlayerId target).1.targetBoard shooter =
        (game.recorded now game.currentTurnPlayerId target).targetBoard shooter := by
    rw [MatchState.playMove_eq]
    split
    · rfl
    split <;> rfl
  rw [Server.ActiveMatch.processMove fine] at left ⊢
  intro shooter
  rw [boards, MatchState.recorded_targetBoard] at left ⊢
  rw [if_pos Iff.rfl] at left
  split
  · exact left
  · exact afloat shooter

end Played

theorem RowsFollow.moved {same : MatchMove → Move → Prop} {rows : List MatchMove}
    {game : MatchState} (follow : RowsFollow same rows game) {played : MatchState} {row : MatchMove}
    {move : Move} (history : played.moveHistory = game.moveHistory ++ [move]) (agrees : same row move)
    (later : game.turnNumber ≤ played.turnNumber) (numbered : row.moveNumber = played.turnNumber) :
    RowsFollow same (rows ++ [row]) played := by
  obtain ⟨earlier, recent, rfl, entries, sorted, bound⟩ := follow
  refine ⟨earlier, recent ++ [row], by simp, ?_, ?_, ?_⟩
  · rw [history]
    exact List.rel_append entries (.cons agrees .nil)
  · rw [List.pairwise_append]
    refine ⟨sorted, List.pairwise_singleton _ _, ?_⟩
    intro first member last isLast
    rw [List.mem_singleton.mp isLast, numbered]
    exact (bound first member).trans later
  · intro other member
    rcases List.mem_append.mp member with early | last
    · exact (bound other early).trans later
    · rw [List.mem_singleton.mp last, numbered]

theorem RowsFollow.inMoveOrder {same : MatchMove → Move → Prop} {rows : List MatchMove}
    {game : MatchState} (follow : RowsFollow same rows game) : ∃ earlier recent,
      rows = earlier ++ recent ∧ List.Forall₂ same recent game.moveHistory ∧
        Database.inMoveOrder recent = recent := by
  obtain ⟨earlier, recent, split, entries, sorted, -⟩ := follow
  refine ⟨earlier, recent, split, entries, List.mergeSort_of_pairwise ?_⟩
  exact sorted.imp fun le => by simpa using le

theorem movesOf_concat (db later : Database) (row : MatchMove)
    (moves : later.matchMoves = db.matchMoves ++ [row]) (matchId : MatchId) :
    later.movesOf matchId =
      db.movesOf matchId ++ if row.matchId = matchId then [row] else [] := by
  rw [Database.movesOf, moves, List.filter_append, Database.movesOf]
  congr 1
  split
  next same => simp [same]
  next different => simp [different]

def Follows (same : MatchMove → Move → Prop) (matchId : MatchId) (server : Server) : Prop :=
  ∀ game, server.getMatch matchId = some game →
    Afloat game ∧ RowsFollow same (server.db.movesOf matchId) game

section Step

variable (lib : Externals) {server : Server} {event : Event} {matchId : MatchId}
  {same : MatchMove → Move → Prop} (good : server.WellFormed)

include good

theorem afloat_of_unplayed {game : MatchState} (found : server.getMatch matchId = some game)
    (unplayed : game.moveHistory = []) : Afloat game := by
  rw [(good.games.active matchId game found).unplayed unplayed]
  intro shooter
  unfold MatchState.targetBoard Board.allShipsSunk openedMatch
  split
  · simp [loadedBoard_remaining]
  · simp [loadedBoard_remaining]

theorem Moves.follow {game : MatchState} {target : Coordinate}
    (moves : server.Moves event matchId game target) (follows : Follows same matchId server)
    (agrees : same (savedMove event.env matchId game target)
      (game.moveOf event.env.now game.currentTurnPlayerId target)) :
    RowsFollow same ((server.step lib event).db.movesOf matchId)
      (game.processMove event.env.now game.currentTurnPlayerId target).1 := by
  have found := moves.choose_spec.2.2.2
  have fine := good.games.active matchId game found
  obtain ⟨afloat, follow⟩ := follows game found
  have rows := movesOf_concat _ _ _ (moves.done lib good).moves matchId
  rw [if_pos (by rfl)] at rows
  rw [rows]
  refine follow.moved (played_history fine _ target) agrees ?_ rfl
  by_cases dry : Dry (game.targetBoard game.currentTurnPlayerId) target
  · rw [played_turnNumber_miss fine afloat _ target dry]
    omega
  · rw [played_turnNumber_hit fine _ target dry]

theorem step_follows (follows : Follows same matchId server)
    (agrees : ∀ game target, server.Moves event matchId game target →
      same (savedMove event.env matchId game target)
        (game.moveOf event.env.now game.currentTurnPlayerId target)) :
    Follows same matchId (server.step lib event) := by
  have goodLater := step_wellFormed lib server event good
  intro continued running
  rcases step_moved lib server event with unmoved | ⟨other, game, target, moves⟩
  · rcases unmoved.games matchId continued running with kept | ⟨unplayed, -⟩
    · rw [Database.movesOf, unmoved.moves]
      exact follows continued kept
    · refine ⟨afloat_of_unplayed goodLater running unplayed, (server.step lib event).db.movesOf
        matchId, [], by simp, ?_, List.Pairwise.nil, by simp⟩
      rw [unplayed]
      exact .nil
  · have done := moves.done lib good
    have found := moves.choose_spec.2.2.2
    have fine := good.games.active other game found
    by_cases here : matchId = other
    · subst here
      obtain ⟨rfl, left⟩ := done.played continued running
      exact ⟨played_afloat fine (follows game found).1 _ target left,
        moves.follow lib good follows (agrees game target moves)⟩
    · rw [done.others matchId here] at running
      have rows := movesOf_concat _ _ _ done.moves matchId
      rw [if_neg (by exact Ne.symm here), List.append_nil] at rows
      rw [rows]
      exact follows continued running

theorem Moves.recordsMove (follows : Follows same matchId server) {game : MatchState}
    {target : Coordinate} (moves : server.Moves event matchId game target)
    (agrees : same (savedMove event.env matchId game target)
      (game.moveOf event.env.now game.currentTurnPlayerId target)) :
    ∃ earlier recent, (server.step lib event).db.movesOf matchId = earlier ++ recent ∧
      List.Forall₂ same recent
        (game.processMove event.env.now game.currentTurnPlayerId target).1.moveHistory ∧
      Database.inMoveOrder recent = recent :=
  (moves.follow lib good follows agrees).inMoveOrder

/-- A miss is saved with the number of the turn that follows it. -/
theorem Moves.not_recordsMove (follows : Follows SameShot matchId server) {game : MatchState}
    {target : Coordinate} (moves : server.Moves event matchId game target)
    (dry : Dry (game.targetBoard game.currentTurnPlayerId) target) :
    ¬RecordsMove lib server event matchId := by
  have found := moves.choose_spec.2.2.2
  have fine := good.games.active matchId game found
  intro records
  obtain ⟨earlier, recent, rows, entries, -⟩ := records game target moves
  have saved := movesOf_concat _ _ _ (moves.done lib good).moves matchId
  rw [if_pos (by rfl), rows] at saved
  rw [played_history fine] at entries
  have final := List.forall₂_drop_append recent _ _ entries
  obtain ⟨last, others, agrees, none, only⟩ := List.forall₂_cons_right_iff.mp final
  rw [List.forall₂_nil_right_iff.mp none] at only
  have whole := List.take_append_drop game.moveHistory.length recent
  rw [← whole, only, ← List.append_assoc] at saved
  obtain rfl := List.singleton_inj.mp (List.append_inj' saved rfl).2
  exact (savedMove_sameMove_iff fine (follows game found).1 target event.env).mp agrees dry

end Step

section Runs

variable (lib : Externals) (matchId : MatchId)

/-- In everything but the number the rows follow the history of every match. -/
theorem after_follows (events : List Event) : Follows SameShot matchId (after lib events) := by
  have all : ∀ events, Respects (step lib) (fun _ _ => True) init events →
      Follows SameShot matchId (after lib events) := by
    apply run_induction
    · intro game found
      simp [getMatch, init] at found
    · intro before event _ follows
      rw [after_concat]
      have good := after_wellFormed lib before
      refine step_follows lib good follows ?_
      intro game target moves
      exact savedMove_sameShot (good.games.active matchId game moves.choose_spec.2.2.2) target _
  exact all events (respects_true (step lib) init events)

theorem Moves.sameMove {server : Server} (good : server.WellFormed) {event : Event}
    (follows : Follows SameShot matchId server) (hits : ¬server.Misses event matchId)
    {game : MatchState} {target : Coordinate} (moves : server.Moves event matchId game target) :
    SameMove (savedMove event.env matchId game target)
      (game.moveOf event.env.now game.currentTurnPlayerId target) := by
  have found := moves.choose_spec.2.2.2
  have fine := good.games.active matchId game found
  refine (savedMove_sameMove_iff fine (follows game found).1 target event.env).mpr ?_
  exact fun dry => hits ⟨game, target, moves, dry⟩

theorem after_follows_hits : ∀ events : List Event,
    Respects (step lib) (fun server event => ¬server.Misses event matchId) init events →
      Follows SameMove matchId (after lib events) := by
  apply run_induction
  · intro game found
    simp [getMatch, init] at found
  · intro before event hits follows
    have good := after_wellFormed lib before
    rw [after_concat]
    refine step_follows lib good follows fun game target moves => ?_
    exact moves.sameMove matchId good (after_follows lib matchId before) hits

/-- The two records of every move agree in the runs in which no accepted shot at the match is
a miss, and in no other. -/
theorem recordsMoves_iff (events : List Event) :
    Respects (step lib) (fun server event => RecordsMove lib server event matchId) init events ↔
      Respects (step lib) (fun server event => ¬server.Misses event matchId) init events := by
  constructor
  · rintro records before event taken ⟨game, target, moves, dry⟩
    exact moves.not_recordsMove lib (after_wellFormed lib before) (after_follows lib matchId before)
      dry (records before event taken)
  · rintro hits before event ⟨later, rfl⟩ game target moves
    have good := after_wellFormed lib before
    have hit := hits before event ⟨later, rfl⟩
    refine moves.recordsMove lib good (after_follows_hits lib matchId before hits.of_append) ?_
    exact moves.sameMove matchId good (after_follows lib matchId before) hit

end Runs

end Following

end Server

namespace Script

open Server

def missedShot : Event := sends 5 alice (.move 1 ⟨9, 9⟩)

/-- The first shot of Alice is a miss: the history has it as move 1, the row as move 2. -/
theorem not_recordsMoves_missedShot : ¬∀ (lib : Externals) (events : List Event)
    (matchId : MatchId), Respects (step lib)
      (fun server event => RecordsMove lib server event matchId) init events := by
  intro all
  have numbers : ((after lib duel).getMatch 1).map (fun game => (game.currentTurnPlayerId,
      (game.processMove (start + 5) game.currentTurnPlayerId ⟨9, 9⟩).1.moveHistory.map
        Move.moveNumber)) = some (alice, [1]) := by decide +kernel
  have saved : (((after lib duel).step lib missedShot).db.movesOf 1).map MatchMove.moveNumber =
      [2] := by decide +kernel
  obtain ⟨game, active, values⟩ := Option.map_eq_some_iff.mp numbers
  obtain ⟨turn, history⟩ := Prod.mk.inj values
  have moves : (after lib duel).Moves missedShot 1 game ⟨9, 9⟩ := by
    refine ⟨token alice, handles_of_isLive (by decide +kernel) .., ?_, by rw [turn]; decide, active⟩
    rw [turn]
    decide +kernel
  obtain ⟨earlier, recent, rows, entries, -⟩ :=
    all lib (duel ++ [missedShot]) 1 duel missedShot ⟨[], rfl⟩ game ⟨9, 9⟩ moves
  have same : recent.map MatchMove.moveNumber = [1] := by
    rw [← history]
    exact entries.rec rfl fun agrees _ others => List.cons_eq_cons.mpr ⟨agrees.2, others⟩
  rw [rows, List.map_append, same] at saved
  have last := List.append_inj' (saved.trans (List.nil_append [2]).symm) rfl
  simp at last

end Script

end Battleship
