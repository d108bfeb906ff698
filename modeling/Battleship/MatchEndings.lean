import Battleship.Disconnects
import Battleship.MoveReports
import Battleship.MoveRows

/-! The epilogue of a match. It is written out five times in the source; four copies agree,
and the one for a disconnected player takes the number of the turn for the number of moves. -/

namespace Battleship

open Decimal (Text)

theorem Database.saveMove_users (db : Database) (now : Nat) (matchId : MatchId) (playerId : UserId)
    (moveNumber x y : Int) (result : ShotResult) :
    (db.saveMove now matchId playerId moveNumber x y result).1.users = db.users := by
  unfold saveMove
  split <;> rfl

namespace Server

def reasonText : MatchEndReason → String
  | .normal => "All ships destroyed"
  | .resign => "Opponent resigned"
  | .drawAgreed => "Draw agreed by both players"
  | .timeout => "Turn time limit exceeded"
  | .disconnect => "Opponent disconnected"

/-- The shot that ends a match is one of its moves. -/
def movesMade (game : MatchState) (reason : MatchEndReason) : Nat :=
  game.moveHistory.length + if reason = .normal then 1 else 0

def matchEndMessage (lib : Externals) (server : Server) (matchId : MatchId) (game : MatchState)
    (winnerId : UserId) (reason : MatchEndReason) (totalMoves : Int) (duration : Nat)
    (playerId : UserId) : Payload :=
  let new := server.ratings lib game.player1Id game.player2Id winnerId
  let newElo := if playerId = game.player1Id then new.1 else new.2
  .matchEnd matchId (announcedResult winnerId playerId) winnerId reason
    (newElo - server.oldElo playerId) newElo totalMoves duration
    ((reasonText reason).toList.take 127)

def TellsEnd (env : Env) (matchId : MatchId) (game : MatchState) (payload : UserId → Payload)
    (server later : Server) : Prop :=
  ∃ added, later.net.sent = server.net.sent ++ added ∧
    (∀ message ∈ added, message.payload.endedMatch? = some matchId → ∃ playerId,
      game.Seats playerId ∧ server.ServedBy env playerId message.conn ∧
        message.payload = payload playerId) ∧
    ∀ playerId conn, game.Seats playerId → server.ServedBy env playerId conn →
      ∃ message ∈ added, message.conn = conn ∧ message.payload = payload playerId

/-- How a match is ended: its players are told the number of its moves and how long it took,
those who stay are available (after a disconnection that is the winner), and it is gone. -/
structure Epilogue (lib : Externals) (env : Env) (matchId : MatchId) (game : MatchState)
    (winnerId : UserId) (reason : MatchEndReason) (totalMoves : Int) (duration : Nat)
    (before after : Server) : Prop where
  told : TellsEnd env matchId game
    (before.matchEndMessage lib matchId game winnerId reason totalMoves duration) before after
  free : ∀ userId, game.Seats userId → (reason = .disconnect → userId = winnerId) →
    after.players[userId]? =
      before.players[userId]?.map fun data => { data with status := .available }
  gone : after.getMatch matchId = none
  unready : after.games.readyPlayers[matchId]? = none

section Telling

variable {env : Env} {matchId : MatchId} {game : MatchState} {payload : UserId → Payload}
  {server middle later : Server}

theorem ServedBy.of_transmits {allowed : Sent → Prop} {userId : UserId} {conn : ConnId}
    (transmits : server.net.Transmits allowed later.net) (players : later.players = server.players)
    (served : later.ServedBy env userId conn) : server.ServedBy env userId conn := by
  obtain ⟨client, delivers⟩ := served
  simp only [getClientConnection, players] at client
  exact ⟨client, transmits.delivers delivers⟩

variable (env) in
theorem sendToPlayer_served (own : server.net.OwnDescriptors) (header : MessageHeader)
    (payload : Payload) (userId : UserId) : ∃ added,
      (server.sendToPlayer env header payload userId).net.sent = server.net.sent ++ added ∧
        (∀ message ∈ added, message.payload = payload ∧ server.ServedBy env userId message.conn) ∧
        ∀ conn, server.ServedBy env userId conn → ⟨conn, header, payload⟩ ∈ added := by
  by_cases reaches : server.Reaches env userId
  · obtain ⟨conn, client, delivers⟩ := reaches
    refine ⟨_, sendToPlayer_reached client delivers, ?_, ?_⟩
    · intro message member
      rw [List.mem_singleton.mp member]
      exact ⟨rfl, client, delivers⟩
    · rintro other ⟨same, -⟩
      rw [Option.some.inj (same.symm.trans client)]
      exact List.mem_singleton_self _
  · obtain ⟨added, sent, none⟩ := (sendToPlayer_unreached header payload own reaches).sent
    refine ⟨added, sent, fun message member => (none message member).elim, ?_⟩
    rintro conn ⟨client, delivers⟩
    exact absurd ⟨conn, client, delivers⟩ reaches

theorem TellsEnd.after (told : TellsEnd env matchId game payload middle later)
    (quiet : server.net.Transmits NoMatchEnd middle.net)
    (kept : ∀ userId conn, server.ServedBy env userId conn → middle.ServedBy env userId conn)
    (players : middle.players = server.players) :
    TellsEnd env matchId game payload server later := by
  obtain ⟨late, sent', only, all⟩ := told
  obtain ⟨early, sent, none⟩ := quiet.sent
  refine ⟨early ++ late, by rw [sent', sent, List.append_assoc], ?_, ?_⟩
  · intro message member ended
    rcases List.mem_append.mp member with inEarly | inLate
    · rw [none message inEarly] at ended
      cases ended
    · obtain ⟨playerId, seated, served, same⟩ := only message inLate ended
      exact ⟨playerId, seated, served.of_transmits quiet players, same⟩
  · intro playerId conn seated served
    obtain ⟨message, member, rest⟩ := all playerId conn seated (kept playerId conn served)
    exact ⟨message, List.mem_append_right _ member, rest⟩

theorem TellsEnd.followed (told : TellsEnd env matchId game payload server middle)
    (quiet : middle.net.Transmits NoMatchEnd later.net) :
    TellsEnd env matchId game payload server later := by
  obtain ⟨early, sent, only, all⟩ := told
  obtain ⟨late, sent', none⟩ := quiet.sent
  refine ⟨early ++ late, by rw [sent', sent, List.append_assoc], ?_, ?_⟩
  · intro message member ended
    rcases List.mem_append.mp member with inEarly | inLate
    · exact only message inEarly ended
    · rw [none message inLate] at ended
      cases ended
  · intro playerId conn seated served
    obtain ⟨message, member, rest⟩ := all playerId conn seated served
    exact ⟨message, List.mem_append_left _ member, rest⟩

end Telling

section Epilogue

variable (lib : Externals) (env : Env) {matchId : MatchId} {game : MatchState}
  {winnerId : UserId} {reason : MatchEndReason} {totalMoves : Int} {duration : Nat}
  {server middle later : Server}

theorem matchEndMessage_congr (users : middle.db.users = server.db.users) :
    middle.matchEndMessage lib matchId game winnerId reason totalMoves duration =
      server.matchEndMessage lib matchId game winnerId reason totalMoves duration := by
  have old (userId : UserId) : middle.oldElo userId = server.oldElo userId := by
    unfold oldElo Database.getUserById
    rw [users]
  funext playerId
  simp only [matchEndMessage, ratings, old]

theorem sendMatchEnd_tells (own : server.net.OwnDescriptors)
    (distinct : game.player1Id ≠ game.player2Id) (matchId : MatchId) (winnerId : UserId)
    (reason : MatchEndReason) (totalMoves : Int) (duration : Nat) :
    TellsEnd env matchId game
      (server.matchEndMessage lib matchId game winnerId reason totalMoves duration) server
      (server.sendMatchEnd lib env matchId game.player1Id game.player2Id winnerId reason
        (reasonText reason) totalMoves duration) := by
  let told := server.matchEndMessage lib matchId game winnerId reason totalMoves duration
  let rated := ((server.announceEnd matchId winnerId reason).updateEloRating matchId game.player1Id
    (server.ratings lib game.player1Id game.player2Id winnerId).1).updateEloRating matchId
    game.player2Id (server.ratings lib game.player1Id game.player2Id winnerId).2
  let header1 := stampedHeader env .matchEnd (told game.player1Id)
  let header2 := stampedHeader env .matchEnd (told game.player2Id)
  let halfway := rated.sendToPlayer env header1 (told game.player1Id) game.player1Id
  have shape : server.sendMatchEnd lib env matchId game.player1Id game.player2Id winnerId reason
      (reasonText reason) totalMoves duration =
        halfway.sendToPlayer env header2 (told game.player2Id) game.player2Id := by
    simp only [sendMatchEnd, halfway, rated, header1, header2, told, matchEndMessage, ratings, if_true,
      distinct.symm, if_false]
  have first : rated.net.Transmits (fun _ => True) halfway.net :=
    sendToPlayer_transmits env rated fun _ => trivial
  have rated_own : rated.net.OwnDescriptors := own
  obtain ⟨early, sent, only, told1⟩ := sendToPlayer_served env rated_own header1
    (told game.player1Id) game.player1Id
  obtain ⟨late, sent', only', told2⟩ := sendToPlayer_served env
    (first.ownDescriptors own) header2 (told game.player2Id) game.player2Id
  have both : halfway.net.sent = server.net.sent ++ early := sent
  rw [shape]
  refine ⟨early ++ late, by rw [sent', both, List.append_assoc], ?_, ?_⟩
  · intro message member _
    rcases List.mem_append.mp member with inEarly | inLate
    · obtain ⟨same, served⟩ := only message inEarly
      exact ⟨game.player1Id, Or.inl rfl, served, same⟩
    · obtain ⟨same, served⟩ := only' message inLate
      exact ⟨game.player2Id, Or.inr rfl, served.of_transmits first rfl, same⟩
  · rintro playerId conn (rfl | rfl) served
    · exact ⟨_, List.mem_append_left _ (told1 conn served), rfl, rfl⟩
    · have still : halfway.ServedBy env game.player2Id conn := by
        have start : rated.ServedBy env game.player2Id conn := served
        exact start.sendToPlayer header1 (told game.player1Id) game.player1Id
      exact ⟨_, List.mem_append_right _ (told2 conn still), rfl, rfl⟩

theorem finishMatch_epilogue (server : Server) (own : server.net.OwnDescriptors)
    (distinct : game.player1Id ≠ game.player2Id) (winnerId : UserId) (reason : MatchEndReason) :
    Epilogue lib env matchId game winnerId reason game.moveHistory.length
      (secondsSince env.now game.startTime) server
      (server.finishMatch lib env matchId game winnerId reason (reasonText reason)) := by
  let told := server.sendMatchEnd lib env matchId game.player1Id game.player2Id winnerId reason
    (reasonText reason) game.moveHistory.length (secondsSince env.now game.startTime)
  have released := ((KeepsMatches.refl (told.endMatch env matchId winnerId)).updatePlayerStatus
    env game.player1Id .available).updatePlayerStatus env game.player2Id .available
  refine ⟨(sendMatchEnd_tells lib env own distinct ..).followed released.net, ?_, ?_, ?_⟩
  · intro userId seated _
    have statuses : (server.finishMatch lib env matchId game winnerId reason
        (reasonText reason)).players = (server.players.modify game.player1Id fun data =>
          { data with status := .available }).modify game.player2Id fun data =>
            { data with status := .available } := rfl
    rw [statuses, Table.lookup_modify, Table.lookup_modify]
    rcases seated with rfl | rfl
    · rw [if_neg distinct.symm, if_pos rfl]
    · rw [if_pos rfl, if_neg distinct]
  · exact (Table.lookup_erase _ matchId matchId).trans (if_pos rfl)
  · exact (Table.lookup_erase _ matchId matchId).trans (if_pos rfl)

theorem timeOutMatch_epilogue (own : server.net.OwnDescriptors)
    (distinct : game.player1Id ≠ game.player2Id) (was : server.getMatch matchId = some game) :
    Epilogue lib env matchId game (game.opponent game.currentTurnPlayerId) .timeout
      game.moveHistory.length (secondsSince env.now game.startTime) server
      (server.timeOutMatch lib env matchId) := by
  unfold timeOutMatch
  rw [was]
  exact finishMatch_epilogue lib env server own distinct _ .timeout

theorem abandonMatch_epilogue (own : server.net.OwnDescriptors)
    (distinct : game.player1Id ≠ game.player2Id) (was : server.getMatch matchId = some game)
    (userId : UserId) : Epilogue lib env matchId game (game.opponent userId) .disconnect
      game.turnNumber (if game.startTime > 0 then secondsSince env.now game.startTime else 0)
      server (server.abandonMatch lib env userId matchId) := by
  let duration := if game.startTime > 0 then secondsSince env.now game.startTime else 0
  let recorded := server.endMatch env matchId (game.opponent userId)
  let told := recorded.sendMatchEnd lib env matchId game.player1Id game.player2Id
    (game.opponent userId) .disconnect (reasonText .disconnect) game.turnNumber duration
  have shape : server.abandonMatch lib env userId matchId =
      (told.removeMatch matchId).updatePlayerStatus env (game.opponent userId) .available := by
    simp only [abandonMatch, was]
    rfl
  have users : recorded.db.users = server.db.users := Database.endMatch_users ..
  have released := (KeepsMatches.refl (told.removeMatch matchId)).updatePlayerStatus env
    (game.opponent userId) .available
  have recorded_own : recorded.net.OwnDescriptors := own
  have announced := sendMatchEnd_tells lib env recorded_own distinct matchId
    (game.opponent userId) .disconnect game.turnNumber duration
  rw [matchEndMessage_congr lib users] at announced
  rw [shape]
  refine ⟨announced.followed released.net, ?_, ?_, ?_⟩
  · intro playerId _ stays
    rw [stays rfl, updatePlayerStatus_players, Table.lookup_modify, if_pos rfl]
    rfl
  · exact (Table.lookup_erase _ matchId matchId).trans (if_pos rfl)
  · exact (Table.lookup_erase _ matchId matchId).trans (if_pos rfl)

theorem Epilogue.after (epilogue : Epilogue lib env matchId game winnerId reason totalMoves duration
      middle later)
    (quiet : server.net.Transmits NoMatchEnd middle.net)
    (kept : ∀ userId conn, server.ServedBy env userId conn → middle.ServedBy env userId conn)
    (players : middle.players = server.players) (users : middle.db.users = server.db.users) :
    Epilogue lib env matchId game winnerId reason totalMoves duration server later := by
  obtain ⟨told, free, gone, unready⟩ := epilogue
  rw [matchEndMessage_congr lib users] at told
  rw [players] at free
  exact ⟨told.after quiet kept players, free, gone, unready⟩

theorem Epilogue.of_validated (token : Text) (epilogue : Epilogue lib env matchId game winnerId
      reason totalMoves duration (server.validateSession env token).1 later) :
    Epilogue lib env matchId game winnerId reason totalMoves duration server later :=
  epilogue.after lib env (Network.Transmits.refl _) (fun _ _ served => served) rfl
    (Database.validateSession_users ..)

theorem Epilogue.of_players {changed : MatchState} (epilogue : Epilogue lib env matchId changed
      winnerId reason totalMoves duration server later)
    (player1 : changed.player1Id = game.player1Id) (player2 : changed.player2Id = game.player2Id) :
    Epilogue lib env matchId game winnerId reason totalMoves duration server later := by
  obtain ⟨told, free, gone, unready⟩ := epilogue
  unfold TellsEnd matchEndMessage MatchState.Seats at told
  unfold MatchState.Seats at free
  rw [player1, player2] at told free
  exact ⟨told, free, gone, unready⟩

theorem processMove_startTime (game : MatchState) (now : Nat) (userId : UserId)
    (target : Coordinate) : (game.processMove now userId target).1.startTime = game.startTime := by
  have recorded : (game.recorded now userId target).startTime = game.startTime := by
    unfold MatchState.recorded MatchState.addMoveToHistory MatchState.setTargetBoard
    dsimp only
    split <;> rfl
  unfold MatchState.processMove
  split
  · rfl
  split
  · rfl
  rw [MatchState.playMove_eq]
  split
  · exact recorded
  split
  · exact recorded
  · exact recorded

/-- The shot of the player whose turn it is, with the match concluded right after it. -/
theorem movePlayed_epilogue {db : Database} {games : Games} (server : Server)
    (own : server.net.OwnDescriptors) (distinct : game.player1Id ≠ game.player2Id)
    (fine : ActiveMatch db games matchId game) (target : Coordinate) :
    Epilogue lib env matchId game game.currentTurnPlayerId .normal (game.moveHistory.length + 1)
      (secondsSince env.now game.startTime) server
      ((server.movePlayed env matchId game game.currentTurnPlayerId target).finishMatch lib env
        matchId (game.processMove env.now game.currentTurnPlayerId target).1
        game.currentTurnPlayerId .normal (reasonText .normal)) := by
  let played := (game.processMove env.now game.currentTurnPlayerId target).1
  let moved := server.movePlayed env matchId game game.currentTurnPlayerId target
  have quiet := movePlayed_transmits env matchId game game.currentTurnPlayerId target server
  have players : played.player1Id = game.player1Id ∧ played.player2Id = game.player2Id :=
    game.receive_players ⟨env.now, game.currentTurnPlayerId, target⟩
  have epilogue : Epilogue lib env matchId played game.currentTurnPlayerId .normal
      played.moveHistory.length (secondsSince env.now played.startTime) moved
      (moved.finishMatch lib env matchId played game.currentTurnPlayerId .normal
        (reasonText .normal)) := by
    refine finishMatch_epilogue lib env moved (quiet.ownDescriptors own) ?_ _ _
    rw [players.1, players.2]
    exact distinct
  have history := played_history fine env.now target
  simp only [played, history, List.length_append, List.length_singleton, Nat.cast_add, Nat.cast_one,
    processMove_startTime] at epilogue
  refine (epilogue.of_players lib env players.1 players.2).after lib env quiet ?_ rfl ?_
  · intro userId conn served
    have start : (server.setMatch matchId played).ServedBy env userId conn := served
    exact (start.sendToPlayer _ _ game.currentTurnPlayerId).sendToPlayer _ _
      (game.opponent game.currentTurnPlayerId)
  · exact Database.saveMove_users ..

theorem handleMove_epilogue (good : server.WellFormed) (own : server.net.OwnDescriptors)
    (distinct : game.player1Id ≠ game.player2Id) {token : Text} {target : Coordinate}
    (done : Concludes matchId game winnerId reason server
      (server.handleMove lib env token matchId target)) :
    reason = .normal ∧ Epilogue lib env matchId game winnerId .normal (game.moveHistory.length + 1)
      (secondsSince env.now game.startTime) server
      (server.handleMove lib env token matchId target) := by
  rcases handleMove_change lib env server token matchId target matchId with
    kept | ⟨-, valid, game', found, mover, ⟨-, running⟩ | ended⟩
  · exact absurd kept done.not_untouched
  · simp [done.gone] at running
  obtain ⟨rfl, rfl, rfl⟩ := ended.unique done
  refine ⟨rfl, ?_⟩
  have shape := handleMove_of_turn lib env found valid mover target
  rw [shape] at done ⊢
  rw [mover]
  refine Epilogue.of_validated lib env token ?_
  let played := (game'.processMove env.now game'.currentTurnPlayerId target).1
  have sunk : (played.targetBoard game'.currentTurnPlayerId).allShipsSunk = true := by
    by_contra afloat
    have gone := done.gone
    rw [playMove_eq, if_neg afloat, ((sendTurnUpdate_keeps env matchId _ _ _).untouched matchId).game,
      movePlayed_getMatch, if_pos rfl] at gone
    cases gone
  rw [playMove_eq, if_pos sunk]
  exact movePlayed_epilogue lib env (server.validateSession env token).1 own distinct
    (good.games.active matchId game' found) target

/-- A handler that validates the token and then finishes a match, as the one that was seen to
end. -/
theorem finishMatch_epilogue_of_validated (own : server.net.OwnDescriptors)
    (distinct : game.player1Id ≠ game.player2Id) (token : Text) {current : MatchState}
    {winner : UserId} {ended : MatchEndReason}
    (found : (server.validateSession env token).1.getMatch matchId = some current)
    (done : Concludes matchId game winnerId reason server
      ((server.validateSession env token).1.finishMatch lib env matchId current winner ended
        (reasonText ended))) :
    reason = ended ∧ Epilogue lib env matchId game winnerId ended game.moveHistory.length
      (secondsSince env.now game.startTime) server
      ((server.validateSession env token).1.finishMatch lib env matchId current winner ended
        (reasonText ended)) := by
  have kept := (keeps_validated env server token).untouched matchId
  have checked : (server.validateSession env token).1.net.OwnDescriptors := own
  obtain ⟨rfl, rfl, rfl⟩ :=
    (kept.concludes (finishMatch_concludes lib env matchId _ _ _ _ _ found)).unique done
  refine ⟨rfl, Epilogue.of_validated lib env token ?_⟩
  exact finishMatch_epilogue lib env _ checked distinct _ _

theorem handleResign_epilogue (own : server.net.OwnDescriptors)
    (distinct : game.player1Id ≠ game.player2Id) {token : Text}
    (done : Concludes matchId game winnerId reason server
      (server.handleResign lib env token matchId)) :
    reason = .resign ∧ Epilogue lib env matchId game winnerId .resign game.moveHistory.length
      (secondsSince env.now game.startTime) server
      (server.handleResign lib env token matchId) := by
  have kept := (keeps_validated env server token).untouched matchId
  unfold handleResign at done ⊢
  dsimp only at done ⊢
  split at done
  · exact absurd kept done.not_untouched
  next valid =>
    rw [if_neg valid]
    split at done
    · exact absurd kept done.not_untouched
    next found => exact finishMatch_epilogue_of_validated lib env own distinct token found done

theorem handleDrawResponse_epilogue (own : server.net.OwnDescriptors)
    (distinct : game.player1Id ≠ game.player2Id) {token : Text}
    (done : Concludes matchId game winnerId reason server
      (server.handleDrawResponse lib env token matchId true)) :
    reason = .drawAgreed ∧ Epilogue lib env matchId game winnerId .drawAgreed
      game.moveHistory.length (secondsSince env.now game.startTime) server
      (server.handleDrawResponse lib env token matchId true) := by
  have kept := (keeps_validated env server token).untouched matchId
  unfold handleDrawResponse at done ⊢
  simp only [if_true] at done ⊢
  split at done
  · exact absurd kept done.not_untouched
  next valid =>
    rw [if_neg valid]
    split at done
    · exact absurd kept done.not_untouched
    next found => exact finishMatch_epilogue_of_validated lib env own distinct token found done

theorem Epilogue.counters_eq {totalMoves' : Int} {duration' : Nat}
    (one : Epilogue lib env matchId game winnerId reason totalMoves duration server later)
    (other : Epilogue lib env matchId game winnerId reason totalMoves' duration' server later)
    {playerId : UserId} (seated : game.Seats playerId) (reaches : server.Reaches env playerId) :
    totalMoves = totalMoves' ∧ duration = duration' := by
  obtain ⟨conn, served⟩ := reaches
  obtain ⟨added, sent, only, -⟩ := one.told
  obtain ⟨added', sent', -, all⟩ := other.told
  obtain rfl := List.append_cancel_left (sent.symm.trans sent')
  obtain ⟨message, member, -, payload'⟩ := all playerId conn seated served
  have ended : message.payload.endedMatch? = some matchId := by
    rw [payload']
    rfl
  obtain ⟨toldId, -, -, payload⟩ := only message member ended
  have same := payload.symm.trans payload'
  simp only [matchEndMessage, Payload.matchEnd.injEq] at same
  tauto

/-- Where no player of the match can be reached, nothing is told. -/
theorem Epilogue.unheard (one : Epilogue lib env matchId game winnerId reason totalMoves duration
      server later) (lost : ∀ playerId, game.Seats playerId → ¬server.Reaches env playerId)
    (totalMoves' : Int) (duration' : Nat) :
    Epilogue lib env matchId game winnerId reason totalMoves' duration' server later := by
  obtain ⟨⟨added, sent, only, -⟩, free, gone, unready⟩ := one
  refine ⟨⟨added, sent, ?_, ?_⟩, free, gone, unready⟩
  · intro message member ended
    obtain ⟨playerId, seated, served, -⟩ := only message member ended
    exact absurd ⟨message.conn, served⟩ (lost playerId seated)
  · intro playerId conn seated served
    exact absurd ⟨conn, served⟩ (lost playerId seated)

end Epilogue

section Concluding

variable {lib : Externals} {env : Env} {matchId : MatchId} {game : MatchState} {winnerId : UserId}
  {reason : MatchEndReason} {before after : Server}

def EndsAlike (lib : Externals) (env : Env) (matchId : MatchId) (game : MatchState)
    (winnerId : UserId) (reason : MatchEndReason) (before after : Server) : Prop :=
  Epilogue lib env matchId game winnerId reason (movesMade game reason)
    (secondsSince env.now game.startTime) before after

def CountsMoves (env : Env) (game : MatchState) : Prop :=
  game.turnNumber = game.moveHistory.length ∧ (game.startTime = 0 → secondsSince env.now 0 = 0)

theorem Concluding.ownDescriptors (concluding : Concluding lib env matchId before after) :
    before.net.OwnDescriptors := by
  cases concluding with
  | finalShot reachable => exact reachable.ownDescriptors
  | resigned reachable => exact reachable.ownDescriptors
  | drawAgreed reachable => exact reachable.ownDescriptors
  | @timedOut server reachable early =>
      have edits : Edits env server (early.foldl
          (fun server matchId => server.timeOutMatch lib env matchId) server) :=
        timeOutMatches_edits reachable.wellFormed early
      exact edits.transmits.ownDescriptors reachable.ownDescriptors
  | @disconnected server reachable fd userId early =>
      have edits : Edits env (server.unlisted fd) (early.foldl
          (fun server matchId => server.abandonMatch lib env userId matchId)
          (server.unlisted fd)) :=
        abandonMatches_edits (unlisted_wellFormed reachable.wellFormed fd) userId early
      refine edits.transmits.ownDescriptors fun conn found other socket listed => ?_
      have client : (server.net.clients.erase fd)[other]? = some found := listed
      rw [Table.lookup_erase] at client
      split at client
      · cases client
      · exact reachable.ownDescriptors conn found other socket client

/-- What `handlePlayerDisconnect` sends is what its siblings would send exactly when its two
counters come out as theirs, or when nobody hears of them. -/
theorem abandonMatch_endsAlike_iff (own : server.net.OwnDescriptors)
    (distinct : game.player1Id ≠ game.player2Id) (was : server.getMatch matchId = some game)
    (userId : UserId) :
    EndsAlike lib env matchId game (game.opponent userId) .disconnect server
        (server.abandonMatch lib env userId matchId) ↔
      CountsMoves env game ∨
        ∀ playerId, game.Seats playerId → ¬server.Reaches env playerId := by
  have epilogue := abandonMatch_epilogue lib env own distinct was userId
  constructor
  · intro alike
    rw [or_iff_not_imp_right]
    intro heard
    obtain ⟨playerId, heard⟩ := not_forall.mp heard
    obtain ⟨seated, reaches⟩ := Classical.not_imp.mp heard
    obtain ⟨moves, duration⟩ := epilogue.counters_eq lib env alike seated (not_not.mp reaches)
    refine ⟨moves, fun unstarted => ?_⟩
    simpa [unstarted] using duration.symm
  · rintro (⟨moves, started⟩ | lost)
    · have duration : (if game.startTime > 0 then secondsSince env.now game.startTime else 0) =
          secondsSince env.now game.startTime := by
        split
        · rfl
        next unstarted =>
          rw [Nat.eq_zero_of_not_pos unstarted] at started ⊢
          exact (started rfl).symm
      rw [moves, duration] at epilogue
      exact epilogue
    · exact epilogue.unheard lib env lost _ _

theorem endsAlike_iff (concluding : Concluding lib env matchId before after)
    (done : Concludes matchId game winnerId reason before after) :
    EndsAlike lib env matchId game winnerId reason before after ↔
      (reason = .disconnect → CountsMoves env game ∨
        ∀ playerId, game.Seats playerId → ¬before.Reaches env playerId) := by
  have good := concluding.before_sound.1
  have own := concluding.ownDescriptors
  have distinct := ((good.games.active matchId game done.was).underway good.db).distinct
  cases concluding with
  | finalShot _ token target =>
      obtain ⟨rfl, epilogue⟩ := handleMove_epilogue lib env good own distinct done
      exact iff_of_true epilogue (by simp)
  | resigned _ token =>
      obtain ⟨rfl, epilogue⟩ := handleResign_epilogue lib env own distinct done
      exact iff_of_true epilogue (by simp)
  | drawAgreed _ token =>
      obtain ⟨rfl, epilogue⟩ := handleDrawResponse_epilogue lib env own distinct done
      exact iff_of_true epilogue (by simp)
  | timedOut =>
      obtain ⟨-, rfl, rfl⟩ := (timeOutMatch_concludes lib env _ done.was).unique done
      exact iff_of_true (timeOutMatch_epilogue lib env own distinct done.was) (by simp)
  | disconnected _ fd userId =>
      obtain ⟨-, rfl, rfl⟩ := (abandonMatch_concludes lib env userId _ done.was).unique done
      rw [abandonMatch_endsAlike_iff own distinct done.was userId]
      exact ⟨fun condition _ => condition, fun condition => condition rfl⟩

end Concluding

end Server

namespace Script

open Server

/-- Bob leaves the match that has just begun. -/
theorem bobLeft_scan : (((after lib duel).unlisted 6).games.activeMatches.keysWhere fun game =>
    decide (game.player1Id = bob ∨ game.player2Id = bob)) = [1] := by decide +kernel

def beforeBobLeft : Server := (after lib duel).unlisted 6

theorem bobLeft_concluding : Concluding lib (env 5) 1 beforeBobLeft
    (beforeBobLeft.abandonMatch lib (env 5) bob 1) :=
  @Concluding.disconnected lib (env 5) 1 _ (after_reachable lib duel) 6 bob [] [] bobLeft_scan

theorem bobLeft_endsAlike_iff : ∃ game, beforeBobLeft.getMatch 1 = some game ∧
    (EndsAlike lib (env 5) 1 game (game.opponent bob) .disconnect beforeBobLeft
        (beforeBobLeft.abandonMatch lib (env 5) bob 1) ↔
      (MatchEndReason.disconnect = .disconnect → CountsMoves (env 5) game ∨
        ∀ playerId, game.Seats playerId → ¬beforeBobLeft.Reaches (env 5) playerId)) := by
  have running : (beforeBobLeft.getMatch 1).isSome = true := by decide +kernel
  obtain ⟨game, was⟩ := Option.isSome_iff_exists.mp running
  exact ⟨game, was, endsAlike_iff bobLeft_concluding (abandonMatch_concludes lib (env 5) bob _ was)⟩

/-- Alice is told of one move, and none was made. -/
theorem not_endsAlike_bobLeft : ¬∀ (lib : Externals) (env : Env) (matchId : MatchId)
    (game : MatchState) (winnerId : UserId) (reason : MatchEndReason) (before after : Server),
    Concluding lib env matchId before after →
      Concludes matchId game winnerId reason before after →
        EndsAlike lib env matchId game winnerId reason before after := by
  intro all
  have values : (beforeBobLeft.getMatch 1).map (fun game =>
      (game.player1Id, game.player2Id, game.turnNumber, game.moveHistory.length)) =
        some (alice, bob, 1, 0) := by decide +kernel
  obtain ⟨game, was, numbers⟩ := Option.map_eq_some_iff.mp values
  simp only [Prod.mk.injEq] at numbers
  obtain ⟨player1, player2, turn, moves⟩ := numbers
  have alike := all lib (env 5) 1 game _ _ _ _ bobLeft_concluding
    (abandonMatch_concludes lib (env 5) bob _ was)
  have distinct : game.player1Id ≠ game.player2Id := by
    rw [player1, player2]
    decide
  have epilogue := abandonMatch_epilogue lib (env 5) bobLeft_concluding.ownDescriptors distinct was bob
  have reaches : beforeBobLeft.Reaches (env 5) alice :=
    ⟨0, by decide +kernel, 5, by decide +kernel, by decide +kernel, by decide⟩
  obtain ⟨counted, -⟩ := epilogue.counters_eq lib (env 5) alike (Or.inl player1.symm) reaches
  simp [movesMade, turn, moves] at counted

end Script

end Battleship
