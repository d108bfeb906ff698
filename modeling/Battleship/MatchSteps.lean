import Battleship.MatchLife

/-! What each gameplay handler does to each match, and that it keeps the
invariant of the server. -/

namespace Battleship

open Decimal (Text)

namespace MatchState

theorem playMove_targetBoard (game : MatchState) (now : Nat) (playerId : UserId)
    (target : Coordinate) : (game.playMove now playerId target).1.targetBoard playerId =
      ((game.targetBoard playerId).processShot target).1 := by
  have shot := game.recorded_targetBoard now playerId target playerId
  rw [if_pos Iff.rfl] at shot
  rw [playMove_eq]
  split
  · exact shot
  split <;> exact shot

theorem playMove_running {game : MatchState} {now : Nat} {playerId : UserId} {target : Coordinate}
    (afloat : ((game.playMove now playerId target).1.targetBoard playerId).allShipsSunk = false) :
    (game.playMove now playerId target).1.isActive = game.isActive ∧
      (game.playMove now playerId target).1.isPaused = game.isPaused ∧
      (game.playMove now playerId target).1.player1Id = game.player1Id ∧
      (game.playMove now playerId target).1.player2Id = game.player2Id ∧
      ((game.playMove now playerId target).1.currentTurnPlayerId = game.currentTurnPlayerId ∨
        (game.playMove now playerId target).1.currentTurnPlayerId =
          game.opponent game.currentTurnPlayerId) := by
  rw [playMove_targetBoard] at afloat
  rw [playMove_eq, if_neg (by simp [afloat])]
  split
  · simp [switchTurn, opponent]
  · simp

theorem opponent_seat (game : MatchState) (playerId : UserId) :
    game.opponent playerId = game.player1Id ∨ game.opponent playerId = game.player2Id := by
  unfold opponent
  split
  · exact Or.inr rfl
  · exact Or.inl rfl

end MatchState

theorem ActiveMatch.playMove {db : Database} {games : Games} {matchId : MatchId}
    {game : MatchState} (fine : ActiveMatch db games matchId game) {now : Nat} {target : Coordinate}
    (afloat : ((game.playMove now game.currentTurnPlayerId target).1.targetBoard
      game.currentTurnPlayerId).allShipsSunk = false) :
    ActiveMatch db games matchId (game.playMove now game.currentTurnPlayerId target).1 := by
  obtain ⟨active, paused, player1, player2, turn⟩ := MatchState.playMove_running afloat
  refine ⟨?_, active.trans fine.active, paused.trans fine.unpaused, ?_, ?_, ?_, ?_⟩
  · rw [player1, player2]
    exact fine.row
  · rw [player1, player2]
    rcases turn with same | switched
    · rw [same]
      exact fine.turn
    · rw [switched]
      exact game.opponent_seat _
  · rw [player1]
    exact fine.ready1
  · rw [player2]
    exact fine.ready2
  · intro unplayed
    rw [MatchState.playMove_history] at unplayed
    simp at unplayed

namespace Server

section Loops

theorem foldl_concludes {body : Server → MatchId → Server} {winner : MatchState → UserId}
    {reason : MatchEndReason}
    (other : ∀ server matchId another, matchId ≠ another →
      Untouched another server (body server matchId))
    (ends : ∀ (server : Server) matchId game, server.getMatch matchId = some game →
      Concludes matchId game (winner game) reason server (body server matchId)) :
    ∀ (matchIds : List MatchId), matchIds.Nodup → ∀ (server : Server) (matchId : MatchId),
      (matchId ∉ matchIds → Untouched matchId server (matchIds.foldl body server)) ∧
      (matchId ∈ matchIds → ∀ game, server.getMatch matchId = some game →
        Concludes matchId game (winner game) reason server (matchIds.foldl body server)) := by
  intro matchIds
  induction matchIds with
  | nil => exact fun _ server matchId => ⟨fun _ => Untouched.refl _ _, by simp⟩
  | cons head rest ih =>
      intro distinct server matchId
      obtain ⟨notInRest, restDistinct⟩ := List.nodup_cons.mp distinct
      obtain ⟨outside, inside⟩ := ih restDistinct (body server head) matchId
      rw [List.foldl_cons]
      constructor
      · intro absent
        simp only [List.mem_cons, not_or] at absent
        exact (other server head matchId (Ne.symm absent.1)).trans (outside absent.2)
      · intro member game found
        rcases List.mem_cons.mp member with rfl | inRest
        · exact (ends server matchId game found).untouched (outside notInRest)
        · have different : head ≠ matchId := fun same => notInRest (same ▸ inRest)
          have kept := other server head matchId different
          exact kept.concludes (inside inRest game (kept.game.trans found))

variable (lib : Externals) (env : Env)

theorem timeOutMatch_untouched (server : Server) {matchId other : MatchId}
    (different : matchId ≠ other) :
    Untouched other server (server.timeOutMatch lib env matchId) := by
  unfold timeOutMatch
  split
  · exact Untouched.refl other server
  · exact finishMatch_untouched lib env matchId server _ _ _ _ different

theorem timeOutMatch_concludes (server : Server) {matchId : MatchId} {game : MatchState}
    (was : server.getMatch matchId = some game) :
    Concludes matchId game (game.opponent game.currentTurnPlayerId) .timeout server
      (server.timeOutMatch lib env matchId) := by
  simp only [timeOutMatch, was]
  exact finishMatch_concludes lib env matchId server game _ _ _ was

theorem timeOutMatch_wellFormed (server : Server) (matchId : MatchId) (good : server.WellFormed) :
    (server.timeOutMatch lib env matchId).WellFormed := by
  unfold timeOutMatch
  split
  · exact good
  · exact finishMatch_wellFormed lib env matchId server _ _ _ _ good

theorem checkTurnTimeouts_wellFormed {server : Server} (good : server.WellFormed) :
    (server.checkTurnTimeouts lib env).WellFormed :=
  List.foldlRecOn (motive := WellFormed) _ _ good
    fun server good matchId _ => timeOutMatch_wellFormed lib env server matchId good

theorem checkTurnTimeouts_change (server : Server) (matchId : MatchId) :
    Untouched matchId server (server.checkTurnTimeouts lib env) ∨
      ∃ game, game.isTurnTimedOut env.now = true ∧
        Concludes matchId game (game.opponent game.currentTurnPlayerId) .timeout server
          (server.checkTurnTimeouts lib env) := by
  obtain ⟨outside, inside⟩ := foldl_concludes
    (fun server matchId another => timeOutMatch_untouched lib env server)
    (fun server matchId game => timeOutMatch_concludes lib env server)
    (server.games.activeMatches.keysWhere fun game => game.isTurnTimedOut env.now)
    (Table.keysWhere_nodup ..) server matchId
  by_cases member : matchId ∈
      server.games.activeMatches.keysWhere fun game => game.isTurnTimedOut env.now
  · right
    obtain ⟨game, found, late⟩ := Table.mem_keysWhere.mp member
    exact ⟨game, late, inside member game found⟩
  · exact Or.inl (outside member)

theorem handlePlayerDisconnect_wellFormed (userId : UserId) {server : Server}
    (good : server.WellFormed) : (server.handlePlayerDisconnect lib env userId).WellFormed :=
  List.foldlRecOn (motive := WellFormed) _ _ good
    fun server good matchId _ => abandonMatch_wellFormed lib env userId server matchId good

theorem handlePlayerDisconnect_change (userId : UserId) (server : Server) (matchId : MatchId) :
    (Untouched matchId server (server.handlePlayerDisconnect lib env userId) ∧
      ∀ game, server.getMatch matchId = some game →
        ¬(game.player1Id = userId ∨ game.player2Id = userId)) ∨
      ∃ game, (game.player1Id = userId ∨ game.player2Id = userId) ∧
        Concludes matchId game (game.opponent userId) .disconnect server
          (server.handlePlayerDisconnect lib env userId) := by
  obtain ⟨outside, inside⟩ := foldl_concludes
    (fun server matchId another => abandonMatch_untouched lib env userId server)
    (fun server matchId game => abandonMatch_concludes lib env userId server)
    (server.games.activeMatches.keysWhere fun game =>
      decide (game.player1Id = userId ∨ game.player2Id = userId))
    (Table.keysWhere_nodup ..) server matchId
  by_cases member : matchId ∈ server.games.activeMatches.keysWhere fun game =>
      decide (game.player1Id = userId ∨ game.player2Id = userId)
  · right
    obtain ⟨game, found, seated⟩ := Table.mem_keysWhere.mp member
    exact ⟨game, by simpa using seated, inside member game found⟩
  · left
    refine ⟨outside member, ?_⟩
    intro game found seated
    exact member (Table.mem_keysWhere.mpr ⟨game, found, by simpa using seated⟩)

end Loops

def sessionUser (server : Server) (env : Env) (token : Text) : UserId :=
  (server.db.validateSession env.now token).2

def AcceptsPlacement (server : Server) (env : Env) (token : Text) (matchId : MatchId)
    (ships : Vector Ship numShips) : Prop :=
  server.sessionUser env token ≠ 0 ∧ validateShipPlacement ships = true ∧
    (server.db.matchRows[matchId]?).isSome = true

def Completes (server : Server) (matchId : MatchId) (userId : UserId) : Prop :=
  ∃ row : Match, server.db.matchRows[matchId]? = some row ∧
    row.player1Id ∈ insert userId (server.games.readySet matchId) ∧
    row.player2Id ∈ insert userId (server.games.readySet matchId)

section Placement

variable (env : Env)

def placementSaved (token : Text) (matchId : MatchId) (ships : Vector Ship numShips)
    (clientFd : Option Fd) (server : Server) : Server :=
  let checked := (server.db.validateSession env.now token).1
  { server with
    db := (checked.saveShipPlacement matchId (server.sessionUser env token) (encodeShips ships)).1
  }.acknowledge env matchId true "Ship placement accepted" clientFd

theorem keeps_placementSaved (token : Text) (matchId : MatchId) (ships : Vector Ship numShips)
    (clientFd : Option Fd) (server : Server) :
    server.KeepsMatches (server.placementSaved env token matchId ships clientFd) := by
  have checked := (KeepsMatches.refl server).withDb (Database.kept_validateSession env.now token)
  have saved := checked.withDb (Database.kept_saveShipPlacement matchId
    (server.sessionUser env token) (encodeShips ships))
  exact saved.sendToClient env rfl _ clientFd

theorem handleShipPlacement_refused {server : Server} {token : Text} {matchId : MatchId}
    {ships : Vector Ship numShips} (clientFd : Option Fd)
    (refused : ¬server.AcceptsPlacement env token matchId ships) :
    server.KeepsMatches (server.handleShipPlacement env token matchId ships clientFd) := by
  have checked := (KeepsMatches.refl server).withDb (Database.kept_validateSession env.now token)
  unfold handleShipPlacement validateSession
  dsimp only
  split
  · exact checked
  next valid =>
    split
    · exact checked.sendToClient env rfl _ clientFd
    next accepted =>
      have saved := checked.withDb (Database.kept_saveShipPlacement matchId
        (server.sessionUser env token) (encodeShips ships))
      split
      · exact saved.sendToClient env rfl _ clientFd
      next done =>
        simp only [Bool.not_eq_true, Bool.not_eq_false', Database.saveShipPlacement_saved,
          Database.validateSession_matchRows] at done
        exact absurd ⟨valid, by simpa using accepted, done.1⟩ refused

theorem WellFormed.saves_of_accepted {server : Server} (good : server.WellFormed) {token : Text}
    {matchId : MatchId} {ships : Vector Ship numShips}
    (accepted : server.AcceptsPlacement env token matchId ships) :
    ((server.db.validateSession env.now token).1.saveShipPlacement matchId
      (server.sessionUser env token) (encodeShips ships)).2 = true :=
  (Database.saveShipPlacement_saved ..).mpr ⟨by simpa using accepted.2.2,
    (Database.validateSession_hasUser ..).mpr (good.db.validateSession_user accepted.1)⟩

theorem handleShipPlacement_accepted {server : Server} (good : server.WellFormed) {token : Text}
    {matchId : MatchId} {ships : Vector Ship numShips} (clientFd : Option Fd)
    (accepted : server.AcceptsPlacement env token matchId ships) :
    server.handleShipPlacement env token matchId ships clientFd =
      (server.placementSaved env token matchId ships clientFd).placementReady env matchId
        (server.sessionUser env token) := by
  have saved := good.saves_of_accepted env accepted
  obtain ⟨valid, fleet, row⟩ := accepted
  simp only [sessionUser] at valid saved
  unfold handleShipPlacement validateSession
  dsimp only
  rw [if_neg valid, if_neg (by simp [fleet]), if_neg (by simp [saved])]
  rfl

theorem placementSaved_row {server : Server} (good : server.WellFormed) {token : Text}
    {matchId : MatchId} {ships : Vector Ship numShips} (clientFd : Option Fd)
    (accepted : server.AcceptsPlacement env token matchId ships) :
    ∃ row ∈ (server.placementSaved env token matchId ships clientFd).db.matchBoards,
      row.matchId = matchId ∧ row.userId = server.sessionUser env token := by
  exact ⟨_, Database.mem_saveShipPlacement (good.saves_of_accepted env accepted), rfl, rfl⟩

variable (server : Server) (matchId : MatchId) (userId : UserId)

theorem markReady_readySet (other : MatchId) :
    (server.markReady matchId userId).games.readySet other =
      if matchId = other then insert userId (server.games.readySet matchId)
      else server.games.readySet other :=
  readySet_insert ..

theorem placementReady_waiting (waiting : ¬server.Completes matchId userId) :
    server.placementReady env matchId userId = server.markReady matchId userId := by
  unfold placementReady
  dsimp only
  split
  · rfl
  next row found =>
    rw [if_neg]
    rintro ⟨ready1, ready2⟩
    rw [markReady_readySet, if_pos rfl] at ready1 ready2
    exact waiting ⟨row, found, ready1, ready2⟩

theorem placementReady_complete {row : Match} (found : server.db.matchRows[matchId]? = some row)
    (ready1 : row.player1Id ∈ insert userId (server.games.readySet matchId))
    (ready2 : row.player2Id ∈ insert userId (server.games.readySet matchId)) :
    server.placementReady env matchId userId =
      (server.markReady matchId userId).activateMatch env matchId row.player1Id row.player2Id := by
  have lookup : (server.markReady matchId userId).db.getMatchById matchId = some row := found
  unfold placementReady
  dsimp only
  rw [lookup]
  dsimp only
  rw [if_pos]
  rw [markReady_readySet, if_pos rfl]
  exact ⟨ready1, ready2⟩

section Activation

variable (player1Id player2Id : UserId)

def activated : MatchState :=
  server.startedMatch env matchId player1Id player2Id
    (server.freshMatch matchId player1Id player2Id)

theorem activated_eq : server.activated env matchId player1Id player2Id =
    openedMatch server.db matchId player1Id player2Id (if env.coin then player1Id else player2Id)
      env.now := rfl

theorem activateMatch_eq : server.activateMatch env matchId player1Id player2Id =
    (((server.createMatch matchId player1Id player2Id).setMatch matchId
      (server.activated env matchId player1Id player2Id)).sendMatchReady env matchId player1Id
      player2Id).sendTurnUpdate env matchId
      (server.activated env matchId player1Id player2Id).currentTurnPlayerId 1 := by
  have created : (server.createMatch matchId player1Id player2Id).getMatch matchId =
      some (server.freshMatch matchId player1Id player2Id) :=
    (Table.lookup_insert ..).trans (if_pos rfl)
  unfold activateMatch
  dsimp only
  rw [created]
  rfl

theorem activateMatch_getMatch (other : MatchId) :
    (server.activateMatch env matchId player1Id player2Id).getMatch other =
      if matchId = other then some (server.activated env matchId player1Id player2Id)
      else server.getMatch other := by
  rw [activateMatch_eq]
  change ((server.games.activeMatches.insert matchId _).insert matchId
    (server.activated env matchId player1Id player2Id))[other]? = _
  rw [Table.lookup_insert, Table.lookup_insert]
  split <;> rfl

theorem sendMatchReady_keeps (server : Server) :
    server.KeepsMatches (server.sendMatchReady env matchId player1Id player2Id) :=
  ((KeepsMatches.refl server).sendToPlayer env rfl _ _).sendToPlayer env rfl _ _

theorem sendTurnUpdate_keeps (userId : UserId) (turnNumber : Int) (server : Server) :
    server.KeepsMatches (server.sendTurnUpdate env matchId userId turnNumber) := by
  apply (KeepsMatches.refl server).withNet
  split
  · exact Network.Transmits.refl _
  · exact (((KeepsMatches.refl server).sendToPlayer env rfl _ _).sendToPlayer env rfl _ _).net

theorem activateMatch_transmits : server.net.Transmits NoMatchEnd
    (server.activateMatch env matchId player1Id player2Id).net := by
  rw [activateMatch_eq]
  let started := (server.createMatch matchId player1Id player2Id).setMatch matchId
    (server.activated env matchId player1Id player2Id)
  have ready := sendMatchReady_keeps env matchId player1Id player2Id started
  exact (ready.trans (sendTurnUpdate_keeps env matchId _ 1 _)).net

theorem activateMatch_quiet (other : MatchId) :
    Quiet other server (server.activateMatch env matchId player1Id player2Id) := by
  refine ⟨?_, matchEnds_of_noMatchEnd (activateMatch_transmits ..) other⟩
  rw [activateMatch_eq]
  rfl

end Activation

theorem activated_active {row : Match} (found : server.db.matchRows[matchId]? = some row)
    {games : Games} (ready1 : row.player1Id ∈ games.readySet matchId)
    (ready2 : row.player2Id ∈ games.readySet matchId) :
    ActiveMatch server.db games matchId
      (server.activated env matchId row.player1Id row.player2Id) where
  row := ⟨row, found, rfl, rfl⟩
  active := rfl
  unpaused := rfl
  turn := by
    simp only [activated, startedMatch, freshMatch, MatchState.startMatch, MatchState.new]
    split
    · exact Or.inl rfl
    · exact Or.inr rfl
  ready1 := ready1
  ready2 := ready2
  unplayed := fun _ => rfl

theorem markReady_wellFormed {server : Server} (good : server.WellFormed) {matchId : MatchId}
    {userId : UserId}
    (saved : ∃ row ∈ server.db.matchBoards, row.matchId = matchId ∧ row.userId = userId) :
    (server.markReady matchId userId).WellFormed :=
  ⟨good.db, good.games.markReady saved, good.challenges⟩

theorem activateMatch_wellFormed {server : Server} (good : server.WellFormed) {matchId : MatchId}
    {row : Match} (found : server.db.matchRows[matchId]? = some row)
    (ready1 : row.player1Id ∈ server.games.readySet matchId)
    (ready2 : row.player2Id ∈ server.games.readySet matchId) :
    (server.activateMatch env matchId row.player1Id row.player2Id).WellFormed := by
  have fine := activated_active env server matchId found ready1 ready2
  have games : (server.activateMatch env matchId row.player1Id row.player2Id).games =
      { server.games with
        activeMatches := server.games.activeMatches.insert matchId
          (server.activated env matchId row.player1Id row.player2Id) } := by
    rw [activateMatch_eq, ← Table.insert_insert server.games.activeMatches matchId
      (server.freshMatch matchId row.player1Id row.player2Id)]
    rfl
  rw [activateMatch_eq] at games ⊢
  exact ⟨good.db, games ▸ good.games.setMatch fine, good.challenges⟩

theorem placementReady_wellFormed {server : Server} (good : server.WellFormed)
    {matchId : MatchId} {userId : UserId}
    (saved : ∃ row ∈ server.db.matchBoards, row.matchId = matchId ∧ row.userId = userId) :
    (server.placementReady env matchId userId).WellFormed := by
  have marked := markReady_wellFormed good saved
  by_cases complete : server.Completes matchId userId
  · obtain ⟨row, found, ready1, ready2⟩ := complete
    rw [placementReady_complete env server matchId userId found ready1 ready2]
    refine activateMatch_wellFormed env marked found ?_ ?_
    · rwa [markReady_readySet, if_pos rfl]
    · rwa [markReady_readySet, if_pos rfl]
  · rw [placementReady_waiting env server matchId userId complete]
    exact marked

theorem handleShipPlacement_wellFormed {server : Server} (good : server.WellFormed) (token : Text)
    (matchId : MatchId) (ships : Vector Ship numShips) (clientFd : Option Fd) :
    (server.handleShipPlacement env token matchId ships clientFd).WellFormed := by
  by_cases accepted : server.AcceptsPlacement env token matchId ships
  · rw [handleShipPlacement_accepted env good clientFd accepted]
    have kept := keeps_placementSaved env token matchId ships clientFd server
    exact placementReady_wellFormed env (good.of_keepsMatches kept rfl)
      (placementSaved_row env good clientFd accepted)
  · refine good.of_keepsMatches (handleShipPlacement_refused env clientFd accepted) ?_
    unfold handleShipPlacement
    dsimp only
    split
    · rfl
    split
    · rfl
    split
    · rfl
    · simp only [placementReady]
      split
      · rfl
      split
      · rw [activateMatch_eq]
        rfl
      · rfl

theorem placementSaved_completes (server : Server) (token : Text) (matchId : MatchId)
    (ships : Vector Ship numShips) (clientFd : Option Fd) (userId : UserId) :
    (server.placementSaved env token matchId ships clientFd).Completes matchId userId ↔
      server.Completes matchId userId := by
  have rows : (server.placementSaved env token matchId ships clientFd).db.matchRows =
      server.db.matchRows :=
    (Database.saveShipPlacement_matchRows ..).trans (Database.validateSession_matchRows ..)
  rw [Completes, Completes, rows]
  rfl

theorem markReady_untouched (other : MatchId) :
    Untouched other server (server.markReady matchId userId) := ⟨⟨rfl, rfl⟩, rfl⟩

theorem handleShipPlacement_change {server : Server} (good : server.WellFormed) (token : Text)
    (matchId : MatchId) (ships : Vector Ship numShips) (clientFd : Option Fd) (other : MatchId) :
    Untouched other server (server.handleShipPlacement env token matchId ships clientFd) ∨
      (other = matchId ∧ server.AcceptsPlacement env token matchId ships ∧
        server.Completes matchId (server.sessionUser env token) ∧
        Quiet other server (server.handleShipPlacement env token matchId ships clientFd) ∧
        ((server.handleShipPlacement env token matchId ships clientFd).getMatch other).isSome =
          true) := by
  by_cases accepted : server.AcceptsPlacement env token matchId ships
  · rw [handleShipPlacement_accepted env good clientFd accepted]
    have kept := keeps_placementSaved env token matchId ships clientFd server
    have marked := (kept.untouched other).trans (markReady_untouched _ matchId
      (server.sessionUser env token) other)
    by_cases complete : server.Completes matchId (server.sessionUser env token)
    · obtain ⟨row, found, ready1, ready2⟩ := (placementSaved_completes env ..).mpr complete
      rw [placementReady_complete env _ matchId _ found ready1 ready2]
      have quiet := marked.toQuiet.trans
        (activateMatch_quiet env _ matchId row.player1Id row.player2Id other)
      by_cases same : other = matchId
      · right
        refine ⟨same, accepted, complete, quiet, ?_⟩
        rw [activateMatch_getMatch, if_pos same.symm]
        rfl
      · left
        refine ⟨quiet, ?_⟩
        rw [activateMatch_getMatch, if_neg (Ne.symm same)]
        exact marked.game
    · left
      rw [placementReady_waiting env _ matchId _
        (fun late => complete ((placementSaved_completes env ..).mp late))]
      exact marked
  · exact Or.inl ((handleShipPlacement_refused env clientFd accepted).untouched other)

end Placement

section Moves

variable (lib : Externals) (env : Env)

theorem keeps_validated (server : Server) (token : Text) :
    server.KeepsMatches (server.validateSession env token).1 :=
  (KeepsMatches.refl server).withDb (Database.kept_validateSession env.now token)

def movePlayed (matchId : MatchId) (game : MatchState) (userId : UserId) (target : Coordinate)
    (server : Server) : Server :=
  let played := game.processMove env.now userId target
  let targetBoard := played.1.targetBoard userId
  let winnerId := if targetBoard.allShipsSunk then userId else 0
  let server := server
    |>.setMatch matchId played.1
    |>.sendMoveResult env matchId userId (game.opponent userId) target played.2
      (shipSunk targetBoard played.2 target) targetBoard.shipsRemaining targetBoard.allShipsSunk
      winnerId
  { server with
    db := (server.db.saveMove env.now matchId userId played.1.turnNumber target.col.toInt
      target.row.toInt played.2).1 }

theorem playMove_eq (matchId : MatchId) (game : MatchState) (userId : UserId) (target : Coordinate)
    (server : Server) : server.playMove lib env matchId game userId target =
      if ((game.processMove env.now userId target).1.targetBoard userId).allShipsSunk then
        (server.movePlayed env matchId game userId target).finishMatch lib env matchId
          (game.processMove env.now userId target).1 userId .normal "All ships destroyed"
      else (server.movePlayed env matchId game userId target).sendTurnUpdate env matchId
        (game.processMove env.now userId target).1.currentTurnPlayerId
        (game.processMove env.now userId target).1.turnNumber := by
  unfold playMove movePlayed
  dsimp only
  split
  next sunk => simp only [sunk]
  next afloat => simp only [afloat]

theorem movePlayed_transmits (matchId : MatchId) (game : MatchState) (userId : UserId)
    (target : Coordinate) (server : Server) :
    server.net.Transmits NoMatchEnd (server.movePlayed env matchId game userId target).net :=
  (((KeepsMatches.refl (server.setMatch matchId _)).sendToPlayer env rfl _ userId).sendToPlayer env
    rfl _ (game.opponent userId)).net

theorem movePlayed_quiet (matchId : MatchId) (game : MatchState) (userId : UserId)
    (target : Coordinate) (server : Server) (other : MatchId) :
    Quiet other server (server.movePlayed env matchId game userId target) :=
  ⟨rfl, matchEnds_of_noMatchEnd (movePlayed_transmits ..) other⟩

theorem movePlayed_getMatch (matchId : MatchId) (game : MatchState) (userId : UserId)
    (target : Coordinate) (server : Server) (other : MatchId) :
    (server.movePlayed env matchId game userId target).getMatch other =
      if matchId = other then some (game.processMove env.now userId target).1
      else server.getMatch other :=
  Table.lookup_insert ..

theorem movePlayed_db (matchId : MatchId) (game : MatchState) (userId : UserId)
    (target : Coordinate) (server : Server) :
    server.db.Sound (server.movePlayed env matchId game userId target).db :=
  Database.sound_saveMove ..

theorem ActiveMatch.processMove {db : Database} {games : Games} {matchId : MatchId}
    {game : MatchState} (fine : ActiveMatch db games matchId game) (now : Nat)
    (target : Coordinate) : game.processMove now game.currentTurnPlayerId target =
      game.playMove now game.currentTurnPlayerId target := by
  simp [MatchState.processMove, fine.active, fine.unpaused]

theorem playMove_wellFormed {server : Server} (good : server.WellFormed) {matchId : MatchId}
    {game : MatchState} (found : server.getMatch matchId = some game) (target : Coordinate) :
    (server.playMove lib env matchId game game.currentTurnPlayerId target).WellFormed := by
  have fine := good.games.active matchId game found
  have played := ActiveMatch.processMove fine env.now target
  obtain ⟨db, grows⟩ :=
    (movePlayed_db env matchId game game.currentTurnPlayerId target server).keeps good.db
  have hold := good.games.grows good.db grows
  rw [playMove_eq]
  split
  next sunk =>
    obtain ⟨dbEnd, growsEnd⟩ := (finishMatch_db lib env matchId
      (server.movePlayed env matchId game game.currentTurnPlayerId target)
      (game.processMove env.now game.currentTurnPlayerId target).1 game.currentTurnPlayerId .normal
      "All ships destroyed").keeps db
    have removed := (hold.grows db growsEnd).removeMatch matchId
    rw [← Table.erase_insert server.games.activeMatches matchId
      (game.processMove env.now game.currentTurnPlayerId target).1] at removed
    exact ⟨dbEnd, removed, good.challenges⟩
  next afloat =>
    rw [played, Bool.not_eq_true] at afloat
    have running := fine.playMove afloat
    rw [← played] at running
    have moved : (server.movePlayed env matchId game game.currentTurnPlayerId target).WellFormed :=
      ⟨db, (good.games.setMatch running).grows good.db grows, good.challenges⟩
    exact moved.of_keepsMatches (sendTurnUpdate_keeps ..) rfl

theorem playMove_change {server : Server} {matchId : MatchId} {game : MatchState}
    (found : server.getMatch matchId = some game) (userId : UserId) (target : Coordinate) :
    (Quiet matchId server (server.playMove lib env matchId game userId target) ∧
      ((server.playMove lib env matchId game userId target).getMatch matchId).isSome = true) ∨
    Concludes matchId game userId .normal server
      (server.playMove lib env matchId game userId target) := by
  have quiet := movePlayed_quiet env matchId game userId target server matchId
  have lookup := movePlayed_getMatch env matchId game userId target server matchId
  rw [if_pos rfl] at lookup
  rw [playMove_eq]
  split
  · right
    have done := finishMatch_concludes lib env matchId _ _ userId .normal "All ships destroyed" lookup
    exact ⟨found, done.gone, by rw [done.endings, quiet.endings]⟩
  · left
    have sent (moved : Server) := (sendTurnUpdate_keeps env matchId
      (game.processMove env.now userId target).1.currentTurnPlayerId
      (game.processMove env.now userId target).1.turnNumber moved).untouched matchId
    refine ⟨quiet.trans (sent _).toQuiet, ?_⟩
    rw [(sent _).game, lookup]
    rfl

theorem playMove_untouched (server : Server) (matchId : MatchId) (game : MatchState)
    (userId : UserId) (target : Coordinate) {other : MatchId} (different : matchId ≠ other) :
    Untouched other server (server.playMove lib env matchId game userId target) := by
  have lookup := movePlayed_getMatch env matchId game userId target server other
  rw [if_neg different] at lookup
  have moved : Untouched other server (server.movePlayed env matchId game userId target) :=
    ⟨movePlayed_quiet env matchId game userId target server other, lookup⟩
  rw [playMove_eq]
  split
  · exact moved.trans (finishMatch_untouched lib env matchId _ _ _ _ _ different)
  · exact moved.trans ((sendTurnUpdate_keeps env matchId _ _ _).untouched other)

theorem handleMove_change (server : Server) (token : Text) (matchId : MatchId)
    (target : Coordinate) (other : MatchId) :
    Untouched other server (server.handleMove lib env token matchId target) ∨
      (other = matchId ∧ server.sessionUser env token ≠ 0 ∧
        ∃ game, server.getMatch matchId = some game ∧
        server.sessionUser env token = game.currentTurnPlayerId ∧
        ((Quiet other server (server.handleMove lib env token matchId target) ∧
          ((server.handleMove lib env token matchId target).getMatch other).isSome = true) ∨
        Concludes other game (server.sessionUser env token) .normal server
          (server.handleMove lib env token matchId target))) := by
  have kept := (keeps_validated env server token).untouched other
  unfold handleMove
  dsimp only
  split
  · exact Or.inl kept
  next valid =>
    split
    · exact Or.inl kept
    next game found =>
      split
      · exact Or.inl kept
      next turn =>
        rw [ne_eq, not_not] at turn
        by_cases same : other = matchId
        · right
          subst same
          refine ⟨rfl, valid, game, found, turn.symm, ?_⟩
          rcases playMove_change lib env found (server.validateSession env token).2 target with
            ⟨quiet, running⟩ | done
          · exact Or.inl ⟨kept.toQuiet.trans quiet, running⟩
          · exact Or.inr (kept.concludes done)
        · exact Or.inl (kept.trans (playMove_untouched lib env _ _ _ _ _ (Ne.symm same)))

theorem handleMove_wellFormed {server : Server} (good : server.WellFormed) (token : Text)
    (matchId : MatchId) (target : Coordinate) :
    (server.handleMove lib env token matchId target).WellFormed := by
  have checked := good.of_keepsMatches (keeps_validated env server token) rfl
  unfold handleMove
  dsimp only
  split
  · exact checked
  split
  · exact checked
  next game found =>
    split
    · exact checked
    next turn =>
      rw [ne_eq, not_not] at turn
      rw [← turn]
      exact playMove_wellFormed lib env checked found target

theorem handleResign_concludes {server : Server} {token : Text} {matchId : MatchId}
    {game : MatchState} (active : server.getMatch matchId = some game)
    (valid : server.sessionUser env token ≠ 0) :
    Concludes matchId game (game.opponent (server.sessionUser env token)) .resign server
      (server.handleResign lib env token matchId) := by
  have kept := (keeps_validated env server token).untouched matchId
  have found := kept.game.trans active
  unfold handleResign
  dsimp only
  rw [if_neg (show (server.validateSession env token).2 ≠ 0 from valid), found]
  exact kept.concludes (finishMatch_concludes lib env matchId _ game _ .resign _ found)

theorem handleResign_change (server : Server) (token : Text) (matchId other : MatchId) :
    Untouched other server (server.handleResign lib env token matchId) ∨
      (other = matchId ∧ server.sessionUser env token ≠ 0 ∧ ∃ game,
        Concludes other game (game.opponent (server.sessionUser env token)) .resign server
          (server.handleResign lib env token matchId)) := by
  have kept := (keeps_validated env server token).untouched other
  unfold handleResign
  dsimp only
  split
  · exact Or.inl kept
  next valid =>
    split
    · exact Or.inl kept
    next game found =>
      by_cases same : other = matchId
      · right
        subst same
        exact ⟨rfl, valid, game, kept.concludes (finishMatch_concludes lib env other _ _ _ _ _ found)⟩
      · exact Or.inl (kept.trans (finishMatch_untouched lib env matchId _ _ _ _ _ (Ne.symm same)))

theorem handleResign_wellFormed {server : Server} (good : server.WellFormed) (token : Text)
    (matchId : MatchId) : (server.handleResign lib env token matchId).WellFormed := by
  have checked := good.of_keepsMatches (keeps_validated env server token) rfl
  unfold handleResign
  dsimp only
  split
  · exact checked
  split
  · exact checked
  · exact finishMatch_wellFormed lib env matchId _ _ _ _ _ checked

theorem keeps_drawOffer (server : Server) (token : Text) (matchId : MatchId) :
    server.KeepsMatches (server.handleDrawOffer env token matchId) := by
  have checked := keeps_validated env server token
  unfold handleDrawOffer
  dsimp only
  split
  · exact checked
  split
  · exact checked
  · exact checked.sendToPlayer env rfl _ _

theorem handleDrawResponse_concludes {server : Server} {token : Text} {matchId : MatchId}
    {game : MatchState} (active : server.getMatch matchId = some game)
    (valid : server.sessionUser env token ≠ 0) :
    Concludes matchId game 0 .drawAgreed server
      (server.handleDrawResponse lib env token matchId true) := by
  have kept := (keeps_validated env server token).untouched matchId
  have found := kept.game.trans active
  unfold handleDrawResponse
  dsimp only
  rw [if_neg (show (server.validateSession env token).2 ≠ 0 from valid), found]
  exact kept.concludes (finishMatch_concludes lib env matchId _ game 0 .drawAgreed _ found)

theorem handleDrawResponse_change (server : Server) (token : Text) (matchId : MatchId)
    (accepted : Bool) (other : MatchId) :
    Untouched other server (server.handleDrawResponse lib env token matchId accepted) ∨
      (other = matchId ∧ accepted = true ∧ server.sessionUser env token ≠ 0 ∧ ∃ game,
        Concludes other game 0 .drawAgreed server
          (server.handleDrawResponse lib env token matchId accepted)) := by
  have checked := keeps_validated env server token
  have kept := checked.untouched other
  unfold handleDrawResponse
  dsimp only
  split
  · exact Or.inl kept
  next valid =>
    split
    · exact Or.inl kept
    next game found =>
      split
      next agreed =>
        by_cases same : other = matchId
        · right
          subst same
          exact ⟨rfl, agreed, valid, game,
            kept.concludes (finishMatch_concludes lib env other _ _ _ _ _ found)⟩
        · exact Or.inl (kept.trans
            (finishMatch_untouched lib env matchId _ _ _ _ _ (Ne.symm same)))
      · exact Or.inl ((checked.sendToPlayer env rfl _ _).untouched other)

theorem handleDrawResponse_wellFormed {server : Server} (good : server.WellFormed) (token : Text)
    (matchId : MatchId) (accepted : Bool) :
    (server.handleDrawResponse lib env token matchId accepted).WellFormed := by
  have kept := keeps_validated env server token
  have checked := good.of_keepsMatches kept rfl
  unfold handleDrawResponse
  dsimp only
  split
  · exact checked
  split
  · exact checked
  split
  · exact finishMatch_wellFormed lib env matchId _ _ _ _ _ checked
  · exact good.of_keepsMatches (kept.sendToPlayer env rfl _ _) rfl

end Moves

end Server

end Battleship
