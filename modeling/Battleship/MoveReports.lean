import Battleship.Connections
import Battleship.MatchRecords
import Battleship.ShooterView
import Battleship.TurnAnnouncements

/-! What the players of a match are told about a move. The sunk ship and the count of
the ships left are read off the board after the shot, and the answer of `handleMove`
is the end of the match or the next turn. -/

namespace Battleship

open Decimal (Text)
open Machine

namespace Board

def Down (board : Board) (i : Fin numShips) : Prop :=
  ∀ cell ∈ (shipAt board.ships i).cells, board.grid cell = .hit

instance (board : Board) (i : Fin numShips) : Decidable (board.Down i) :=
  inferInstanceAs (Decidable (∀ cell ∈ (shipAt board.ships i).cells, board.grid cell = .hit))

def Strikes (board : Board) (pos : Coordinate) (i : Fin numShips) : Prop :=
  ∃ cell ∈ (shipAt board.ships i).cells,
    cellAt? pos.row.toInt pos.col.toInt = some cell ∧ board.grid cell ≠ .hit

structure ShotReport (before after : Board) (pos : Coordinate) (result : ShotResult)
    (shipSunk : ShipType) (shipsRemaining : Int) (gameOver : Bool) : Prop where
  miss : result = .miss ↔ ∀ i, ¬before.Strikes pos i
  hit : result = .hit ↔ ∃ i, before.Strikes pos i ∧ ¬after.Down i
  sunk : result = .sunk ↔ ∃ i, before.Strikes pos i ∧ after.Down i
  shipSunk : result = .sunk → ∃ i, (∀ j, ¬before.Down j ∧ after.Down j ↔ j = i) ∧
    shipSunk = (shipAt after.ships i).shipType
  remaining : shipsRemaining = (Finset.univ.filter fun i => ¬after.Down i).card
  gameOver : gameOver = true ↔ ∀ i, after.Down i

section Reports

variable {board : Board} {fleet : Fleet} {shots : Finset Cell} {pos : Coordinate}

theorem AfterShots.shipAt_cells (after : board.AfterShots fleet shots) (i : Fin numShips) :
    (shipAt board.ships i).cells = fleet.family.cells i := by
  rw [after.ships i, Fleet.shipAfter_cells]

theorem AfterShots.down_iff (after : board.AfterShots fleet shots) (i : Fin numShips) :
    board.Down i ↔ fleet.family.Sunk shots i := by
  rw [Down, after.shipAt_cells]
  exact forall₂_congr fun cell inside => after.hit_iff inside

theorem AfterShots.strikes_iff (after : board.AfterShots fleet shots) (i : Fin numShips) :
    board.Strikes pos i ↔ ∃ cell ∈ fleet.family.cells i,
      cellAt? pos.row.toInt pos.col.toInt = some cell ∧ cell ∉ shots := by
  rw [Strikes, after.shipAt_cells]
  refine exists_congr fun cell => and_congr_right fun inside => ?_
  rw [ne_eq, after.hit_iff inside]

theorem AfterShots.struck (before : board.AfterShots fleet shots) {i : Fin numShips} {cell : Cell}
    (inside : cell ∈ fleet.family.cells i)
    (addressed : cellAt? pos.row.toInt pos.col.toInt = some cell) (unshot : cell ∉ shots)
    (j : Fin numShips) : board.Strikes pos j ↔ j = i := by
  rw [before.strikes_iff]
  constructor
  · rintro ⟨other, also, same, -⟩
    rw [addressed, Option.some.injEq] at same
    exact Targets.Family.owner_unique (same ▸ also) inside
  · rintro rfl
    exact ⟨cell, inside, addressed, unshot⟩

theorem newly_sunk_iff {i j : Fin numShips} {cell : Cell} (inside : cell ∈ fleet.family.cells i)
    (unshot : cell ∉ shots) (sinks : fleet.family.Sunk (insert cell shots) i) :
    ¬fleet.family.Sunk shots j ∧ fleet.family.Sunk (insert cell shots) j ↔ j = i := by
  constructor
  · rintro ⟨afloat, sunk⟩
    by_contra different
    have outside : cell ∉ fleet.family.cells j :=
      fun also => different (Targets.Family.owner_unique also inside)
    exact afloat ((Targets.Family.sunk_insert_of_notMem outside).mp sunk)
  · rintro rfl
    exact ⟨Targets.Family.not_sunk_of_unshot inside unshot, sinks⟩

theorem AfterShots.shotReport (before : board.AfterShots fleet shots) (pos : Coordinate) :
    let shot := board.processShot pos
    board.ShotReport shot.1 pos shot.2 (Server.shipSunk shot.1 shot.2 pos) shot.1.shipsRemaining
      shot.1.allShipsSunk := by
  intro shot
  obtain ⟨later, after⟩ : ∃ later, shot.1.AfterShots fleet later := ⟨_, before.processShot pos⟩
  have remaining : shot.1.shipsRemaining = (Finset.univ.filter fun i => ¬shot.1.Down i).card := by
    rw [after.remaining, Targets.Family.afloat]
    simp only [after.down_iff]
  have gameOver : shot.1.allShipsSunk = true ↔ ∀ i, shot.1.Down i := by
    rw [allShipsSunk, decide_eq_true_iff, remaining, Int.natCast_eq_zero, Finset.card_eq_zero,
      Finset.filter_eq_empty_iff]
    simp
  by_cases strikes : ∃ i, board.Strikes pos i
  · obtain ⟨i, strike⟩ := strikes
    obtain ⟨cell, inside, addressed, unshot⟩ := (before.strikes_iff i).mp strike
    have struck := before.struck inside addressed unshot
    obtain ⟨marked, result⟩ := before.processShot_ship addressed unshot inside
    have down (j : Fin numShips) : shot.1.Down j ↔ fleet.family.Sunk (insert cell shots) j :=
      marked.down_iff j
    refine ⟨?_, ?_, ?_, ?_, remaining, gameOver⟩
    · refine iff_of_false ?_ (not_forall_not.mpr ⟨i, strike⟩)
      rw [result]
      split <;> simp
    · simp only [struck, down, exists_eq_left]
      rw [result]
      split <;> simp_all
    · simp only [struck, down, exists_eq_left]
      rw [result]
      split <;> simp_all
    · intro sunk
      have sinks : fleet.family.Sunk (insert cell shots) i := by
        by_contra afloat
        simp [shot, result, afloat] at sunk
      refine ⟨i, fun j => ?_, ?_⟩
      · rw [before.down_iff, down]
        exact newly_sunk_iff inside unshot sinks
      · rw [sunk, shipSunk_eq marked addressed inside sinks, marked.ships i]
        exact (ShipType.byte_roundTrip (fleet.type_mem (fleet.ship_mem i))).symm
  · have missed : shot.2 = .miss := by
      rcases before.result_eq pos with missed | ⟨cell, addressed, unshot, i, inside, -⟩
      · exact missed
      · exact absurd ⟨i, (before.strikes_iff i).mpr ⟨cell, inside, addressed, unshot⟩⟩ strikes
    rw [not_exists] at strikes
    refine ⟨iff_of_true missed strikes, ?_, ?_, ?_, remaining, gameOver⟩
    · simp [missed, strikes]
    · simp [missed, strikes]
    · simp [missed]

end Reports

end Board

namespace Server

section Telling

variable (env : Env)

def ServedBy (server : Server) (userId : UserId) (conn : ConnId) : Prop :=
  server.getClientConnection userId = some conn ∧ server.net.Delivers env conn

variable {env} {server : Server} {userId : UserId} {conn : ConnId}

theorem ServedBy.sendToPlayer (served : server.ServedBy env userId conn) (header : MessageHeader)
    (payload : Payload) (other : UserId) :
    (server.sendToPlayer env header payload other).ServedBy env userId conn := by
  obtain ⟨client, delivers⟩ := served
  refine ⟨client, ?_⟩
  simp only [Server.sendToPlayer]
  split
  · exact delivers
  · exact delivers.sendToClient header payload _

variable (env) in
theorem sendToPlayer_sent (server : Server) (header : MessageHeader) (payload : Payload)
    (userId : UserId) : ∃ added,
      (server.sendToPlayer env header payload userId).net.sent = server.net.sent ++ added ∧
        (∀ message ∈ added, message.payload = payload) ∧
        ∀ conn, server.ServedBy env userId conn → ⟨conn, header, payload⟩ ∈ added := by
  have transmits : server.net.Transmits (fun message => message.payload = payload)
      (server.sendToPlayer env header payload userId).net :=
    sendToPlayer_transmits env server fun _ => rfl
  obtain ⟨added, sent, only⟩ := transmits.sent
  refine ⟨added, sent, only, ?_⟩
  rintro conn ⟨client, delivers⟩
  have reached : (server.sendToPlayer env header payload userId).net.sent =
      server.net.sent ++ [⟨conn, header, payload⟩] := sendToPlayer_reached client delivers
  rw [sent, List.append_cancel_left_eq] at reached
  simp [reached]

variable (env) in
theorem sendBoth_sent (server : Server) (header1 header2 : MessageHeader)
    (payload1 payload2 : Payload) (first second : UserId) : ∃ added,
      (server |>.sendToPlayer env header1 payload1 first
        |>.sendToPlayer env header2 payload2 second).net.sent = server.net.sent ++ added ∧
      (∀ message ∈ added, message.payload = payload1 ∨ message.payload = payload2) ∧
      (∀ conn, server.ServedBy env first conn → ⟨conn, header1, payload1⟩ ∈ added) ∧
      ∀ conn, server.ServedBy env second conn → ⟨conn, header2, payload2⟩ ∈ added := by
  obtain ⟨early, sent, only, told⟩ := sendToPlayer_sent env server header1 payload1 first
  obtain ⟨late, sent', only', told'⟩ := sendToPlayer_sent env
    (server.sendToPlayer env header1 payload1 first) header2 payload2 second
  refine ⟨early ++ late, by rw [sent', sent, List.append_assoc], ?_, ?_, ?_⟩
  · intro message member
    rcases List.mem_append.mp member with inEarly | inLate
    · exact Or.inl (only message inEarly)
    · exact Or.inr (only' message inLate)
  · exact fun conn served => List.mem_append_left _ (told conn served)
  · exact fun conn served =>
      List.mem_append_right _ (told' conn (served.sendToPlayer header1 payload1 first))

theorem sendTurnUpdate_sent {matchId : MatchId} {game : MatchState}
    (found : server.getMatch matchId = some game) (nextPlayerId : UserId) (turnNumber : Int) :
    let turn : Payload := .turnUpdate matchId nextPlayerId turnNumber 20
    ∃ rest, (server.sendTurnUpdate env matchId nextPlayerId turnNumber).net.sent =
        server.net.sent ++ rest ∧
      (∀ message ∈ rest, message.payload = turn) ∧
      ∀ userId conn, game.Seats userId → server.ServedBy env userId conn →
        ⟨conn, stampedHeader env .turnUpdate turn, turn⟩ ∈ rest := by
  intro turn
  obtain ⟨rest, sent, only, told1, told2⟩ := sendBoth_sent env server
    (stampedHeader env .turnUpdate turn) (stampedHeader env .turnUpdate turn) turn turn
    game.player1Id game.player2Id
  refine ⟨rest, ?_, fun message member => (only message member).elim id id, ?_⟩
  · rw [← sent]
    simp only [sendTurnUpdate, found, turn]
  · rintro userId conn (rfl | rfl) served
    · exact told1 conn served
    · exact told2 conn served

def Closing (message : Sent) : Prop := message.payload.shooter? = none ∧ NoTurnUpdate message

variable (env) in
/-- A MATCH_END goes to both players before their statuses change. -/
theorem finishMatch_sent (lib : Externals) (server : Server) (matchId : MatchId)
    (game : MatchState) (winnerId : UserId) (reason : MatchEndReason) (reasonText : String) :
    ∃ rest, (server.finishMatch lib env matchId game winnerId reason reasonText).net.sent =
        server.net.sent ++ rest ∧
      (∀ message ∈ rest, Closing message) ∧
      ∀ userId conn, game.Seats userId → server.ServedBy env userId conn →
        ∃ message ∈ rest, message.conn = conn ∧
          ∃ newElo, message.payload.announcedEnd? = some (matchId, winnerId, newElo) := by
  let new := newElos lib game.player1Id game.player2Id winnerId (server.oldElo game.player1Id)
    (server.oldElo game.player2Id)
  let ending (playerId : UserId) (old newElo : Int) : Payload :=
    .matchEnd matchId (announcedResult winnerId playerId) winnerId reason (newElo - old) newElo
      game.moveHistory.length (secondsSince env.now game.startTime) (reasonText.toList.take 127)
  let rated := server
    |>.announceEnd matchId winnerId reason
    |>.updateEloRating matchId game.player1Id new.1
    |>.updateEloRating matchId game.player2Id new.2
  let ending1 := ending game.player1Id (server.oldElo game.player1Id) new.1
  let ending2 := ending game.player2Id (server.oldElo game.player2Id) new.2
  obtain ⟨told, sent, only, told1, told2⟩ := sendBoth_sent env rated
    (stampedHeader env .matchEnd ending1) (stampedHeader env .matchEnd ending2) ending1 ending2
    game.player1Id game.player2Id
  let announced := server.sendMatchEnd lib env matchId game.player1Id game.player2Id winnerId reason
    reasonText game.moveHistory.length (secondsSince env.now game.startTime)
  have released : announced.net.Transmits Closing
      (server.finishMatch lib env matchId game winnerId reason reasonText).net :=
    (updatePlayerStatus_transmits env (announced.endMatch env matchId winnerId)
      (fun _ _ _ _ _ _ => ⟨rfl, rfl⟩) ..).trans
        (updatePlayerStatus_transmits env _ (fun _ _ _ _ _ _ => ⟨rfl, rfl⟩) ..)
  obtain ⟨statuses, sent', quiet⟩ := released.sent
  refine ⟨told ++ statuses, ?_, ?_, ?_⟩
  · rw [sent', ← List.append_assoc]
    congr 1
  · intro message member
    rcases List.mem_append.mp member with early | late
    · rcases only message early with same | same
      · exact ⟨by rw [same]; rfl, by rw [NoTurnUpdate, same]; rfl⟩
      · exact ⟨by rw [same]; rfl, by rw [NoTurnUpdate, same]; rfl⟩
    · exact quiet message late
  · rintro userId conn (rfl | rfl) served
    · exact ⟨_, List.mem_append_left _ (told1 conn served), rfl, new.1, rfl⟩
    · exact ⟨_, List.mem_append_left _ (told2 conn served), rfl, new.2, rfl⟩

end Telling

end Server

namespace MatchState

structure InPlay (game : MatchState) : Prop where
  active : game.isActive = true
  underway : game.Underway
  fleets : ∀ userId, (game.targetBoard userId).Tracked

theorem Consistent.inPlay {first : UserId} {game : MatchState} (consistent : game.Consistent first)
    (active : game.isActive = true) : game.InPlay where
  active := active
  underway := ⟨consistent.distinct, consistent.unpaused, consistent.current_seat active⟩
  fleets := consistent.tracked

variable {game : MatchState}

theorem Underway.shooter_or_opponent (underway : game.Underway) {userId : UserId}
    (seated : game.Seats userId) :
    userId = game.currentTurnPlayerId ∨ userId = game.opponent game.currentTurnPlayerId := by
  have distinct := underway.distinct
  rcases underway.turn with turn | turn <;> rcases seated with rfl | rfl <;>
    simp [turn, opponent, distinct.symm]

theorem InPlay.accepts (inPlay : game.InPlay) (now : Nat) (target : Coordinate) :
    game.Accepts ⟨now, game.currentTurnPlayerId, target⟩ := ⟨inPlay.active, rfl⟩

theorem InPlay.receive_targetBoard (inPlay : game.InPlay) (now : Nat) (target : Coordinate) :
    (game.receive ⟨now, game.currentTurnPlayerId, target⟩).targetBoard game.currentTurnPlayerId =
      ((game.targetBoard game.currentTurnPlayerId).processShot target).1 :=
  (MatchState.receive_targetBoard inPlay.underway (inPlay.accepts now target)
    inPlay.underway.turn).trans (if_pos rfl)

theorem InPlay.processMove_result (inPlay : game.InPlay) (now : Nat) (target : Coordinate) :
    (game.processMove now game.currentTurnPlayerId target).2 =
      ((game.targetBoard game.currentTurnPlayerId).processShot target).2 := by
  have played : game.processMove now game.currentTurnPlayerId target =
      game.playMove now game.currentTurnPlayerId target :=
    processMove_of_accepts inPlay.underway.unpaused (inPlay.accepts now target)
  rw [played, playMove_result]

theorem InPlay.next_player (inPlay : game.InPlay) (now : Nat) (target : Coordinate)
    (afloat : ((game.targetBoard game.currentTurnPlayerId).processShot target).1.allShipsSunk =
      false) :
    (game.receive ⟨now, game.currentTurnPlayerId, target⟩).currentTurnPlayerId =
        game.currentTurnPlayerId ↔
      ((game.targetBoard game.currentTurnPlayerId).processShot target).2 ≠ .miss := by
  have distinct := inPlay.underway.distinct
  rw [receive, processMove_of_accepts inPlay.underway.unpaused (inPlay.accepts now target),
    playMove_eq, if_neg (by simp [afloat])]
  split
  next missed =>
    refine iff_of_false ?_ (not_not_intro missed)
    rcases inPlay.underway.turn with first | second
    · simp [switchTurn, first, distinct.symm]
    · simp [switchTurn, second, distinct, distinct.symm]
  next struck => exact iff_of_true (by simp) struck

end MatchState

theorem ActiveMatch.inPlay {db : Database} {games : Games} {matchId : MatchId}
    {game : MatchState} (fine : ActiveMatch db games matchId game) (good : db.WellFormed)
    (fleets : ∀ userId, (game.targetBoard userId).Tracked) : game.InPlay :=
  ⟨fine.active, fine.underway good, fleets⟩

namespace Server

/-- The messages of an accepted MOVE in the order in which they are sent: the result to
both players, and then the end of the match or the next turn. -/
structure MoveTold (env : Env) (matchId : MatchId) (game played : MatchState) (result : Payload)
    (gameOver : Bool) (server later : Server) (results rest : List Sent) : Prop where
  sent : later.net.sent = server.net.sent ++ results ++ rest
  same : ∀ message ∈ results, message.payload = result
  both : ∀ userId conn, game.Seats userId → server.ServedBy env userId conn →
    ⟨conn, stampedHeader env .moveResult result, result⟩ ∈ results
  once : ∀ message ∈ rest, message.payload.shooter? = none
  ended : gameOver = true → later.getMatch matchId = none ∧
    (∀ message ∈ rest, NoTurnUpdate message) ∧
    ∀ userId conn, game.Seats userId → server.ServedBy env userId conn →
      ∃ message ∈ rest, message.conn = conn ∧ ∃ newElo,
        message.payload.announcedEnd? = some (matchId, game.currentTurnPlayerId, newElo)
  continued : gameOver = false → later.getMatch matchId = some played ∧
    let turn : Payload := .turnUpdate matchId played.currentTurnPlayerId played.turnNumber 20
    (∀ message ∈ rest, message.payload = turn) ∧
    ∀ userId conn, game.Seats userId → server.ServedBy env userId conn →
      ⟨conn, stampedHeader env .turnUpdate turn, turn⟩ ∈ rest

variable (lib : Externals) (env : Env)

theorem playMove_told (matchId : MatchId) {game : MatchState} (inPlay : game.InPlay)
    (target : Coordinate) (server : Server) :
    let call : Call := ⟨env.now, game.currentTurnPlayerId, target⟩
    let played := game.receive call
    ∃ results rest, MoveTold env matchId game played (game.moveResult matchId call)
      (played.targetBoard game.currentTurnPlayerId).allShipsSunk server
      (server.playMove lib env matchId game game.currentTurnPlayerId target) results rest := by
  intro call played
  let result := game.moveResult matchId call
  let header := stampedHeader env .moveResult result
  obtain ⟨results, sent, only, told1, told2⟩ := sendBoth_sent env (server.setMatch matchId played)
    header header result result game.currentTurnPlayerId (game.opponent game.currentTurnPlayerId)
  let saved := server.movePlayed env matchId game game.currentTurnPlayerId target
  have sentResults : saved.net.sent = server.net.sent ++ results := sent
  have served {userId : UserId} {conn : ConnId} (at_start : server.ServedBy env userId conn) :
      saved.ServedBy env userId conn := by
    have stored : (server.setMatch matchId played).ServedBy env userId conn := at_start
    exact (stored.sendToPlayer header result game.currentTurnPlayerId).sendToPlayer header result
      (game.opponent game.currentTurnPlayerId)
  have both : ∀ userId conn, game.Seats userId → server.ServedBy env userId conn →
      ⟨conn, header, result⟩ ∈ results := by
    intro userId conn seated at_start
    rcases inPlay.underway.shooter_or_opponent seated with rfl | rfl
    · exact told1 conn at_start
    · exact told2 conn at_start
  have stored : saved.getMatch matchId = some played :=
    (movePlayed_getMatch env matchId game game.currentTurnPlayerId target server matchId).trans
      (if_pos rfl)
  have split : server.playMove lib env matchId game game.currentTurnPlayerId target =
      if (played.targetBoard game.currentTurnPlayerId).allShipsSunk then
        saved.finishMatch lib env matchId played game.currentTurnPlayerId .normal
          "All ships destroyed"
      else saved.sendTurnUpdate env matchId played.currentTurnPlayerId played.turnNumber :=
    playMove_eq lib env matchId game game.currentTurnPlayerId target server
  have same : ∀ message ∈ results, message.payload = result :=
    fun message member => (only message member).elim id id
  cases ended : (played.targetBoard game.currentTurnPlayerId).allShipsSunk with
  | true =>
      obtain ⟨rest, sentRest, closing, told⟩ := finishMatch_sent env lib saved matchId played
        game.currentTurnPlayerId .normal "All ships destroyed"
      rw [split, if_pos ended]
      refine ⟨results, rest, sentRest.trans (by rw [sentResults]), same, both,
        fun message member => (closing message member).1, fun _ => ⟨?_, ?_, ?_⟩, by simp⟩
      · exact (finishMatch_concludes lib env matchId saved played _ _ _ stored).gone
      · exact fun message member => (closing message member).2
      · exact fun userId conn seated at_start =>
          told userId conn (MatchState.receive_seats.mpr seated) (served at_start)
  | false =>
      obtain ⟨rest, sentRest, turns, told⟩ := sendTurnUpdate_sent stored played.currentTurnPlayerId
        played.turnNumber
      rw [split, ended]
      refine ⟨results, rest, sentRest.trans (by rw [sentResults]), same, both,
        fun message member => by rw [turns message member]; rfl, by simp, fun _ => ⟨stored, turns, ?_⟩⟩
      exact fun userId conn seated at_start =>
        told userId conn (MatchState.receive_seats.mpr seated) (served at_start)

theorem handleMove_of_turn {server : Server} {token : Text} {matchId : MatchId}
    {game : MatchState} (found : server.getMatch matchId = some game)
    (valid : server.sessionUser env token ≠ 0)
    (mover : server.sessionUser env token = game.currentTurnPlayerId) (target : Coordinate) :
    server.handleMove lib env token matchId target = (server.validateSession env token).1.playMove
      lib env matchId game game.currentTurnPlayerId target := by
  have checked : (server.validateSession env token).1.getMatch matchId = some game := found
  have turn : (server.validateSession env token).2 = game.currentTurnPlayerId := mover
  have present : game.currentTurnPlayerId ≠ 0 := fun absent => valid (mover.trans absent)
  simp only [handleMove, turn, present, if_false, checked, ne_eq, not_true_eq_false]

/-- A MOVE of the player to move: both players are told the same, it is what the shot
did to the board, and the end of the match or the next turn follows. -/
theorem handleMove_reports {server : Server} {token : Text} {matchId : MatchId}
    {game : MatchState} (found : server.getMatch matchId = some game) (inPlay : game.InPlay)
    (valid : server.sessionUser env token ≠ 0)
    (mover : server.sessionUser env token = game.currentTurnPlayerId) (target : Coordinate) :
    let shooter := game.currentTurnPlayerId
    let played := game.receive ⟨env.now, shooter, target⟩
    ∃ result shipSunk shipsRemaining gameOver winnerId results rest,
      played.targetBoard shooter = ((game.targetBoard shooter).processShot target).1 ∧
      (game.targetBoard shooter).ShotReport (played.targetBoard shooter) target result shipSunk
        shipsRemaining gameOver ∧
      (winnerId = shooter ↔ gameOver = true) ∧
      MoveTold env matchId game played
        (.moveResult matchId shooter target result shipSunk shipsRemaining gameOver winnerId)
        gameOver server (server.handleMove lib env token matchId target) results rest ∧
      (gameOver = false → (played.currentTurnPlayerId = shooter ↔ result ≠ .miss)) := by
  intro shooter played
  have after : played.targetBoard shooter = ((game.targetBoard shooter).processShot target).1 :=
    inPlay.receive_targetBoard env.now target
  let reported := (game.processMove env.now shooter target).2
  have outcome : reported = ((game.targetBoard shooter).processShot target).2 :=
    inPlay.processMove_result env.now target
  have report : (game.targetBoard shooter).ShotReport (played.targetBoard shooter) target reported
      (shipSunk (played.targetBoard shooter) reported target)
      (played.targetBoard shooter).shipsRemaining (played.targetBoard shooter).allShipsSunk := by
    obtain ⟨fleet, shots, held⟩ := inPlay.fleets shooter
    rw [after, outcome]
    exact held.shotReport target
  obtain ⟨results, rest, told⟩ := playMove_told lib env matchId inPlay target
    (server.validateSession env token).1
  rw [handleMove_of_turn lib env found valid mover]
  refine ⟨_, _, _, _, _, results, rest, after, report, ?_,
    ⟨told.sent, told.same, told.both, told.once, told.ended, told.continued⟩, ?_⟩
  · have present : shooter ≠ 0 := fun absent => valid (mover.trans absent)
    change (if (played.targetBoard shooter).allShipsSunk then shooter else 0) = shooter ↔ _
    split
    next ended => exact iff_of_true rfl ended
    next afloat => exact iff_of_false present.symm afloat
  · intro afloat
    rw [after] at afloat
    rw [outcome]
    exact inPlay.next_player env.now target afloat

end Server

section Example

open Script

def rowsDuel : MatchState :=
  { rowsMatch with player1Id := alice, player2Id := bob, currentTurnPlayerId := alice }

theorem rowsDuel_inPlay : rowsDuel.InPlay where
  active := rfl
  underway := ⟨by decide, rfl, Or.inl rfl⟩
  fleets := by
    intro userId
    unfold MatchState.targetBoard
    split <;> exact rowsBoard_holdsFleet.tracked

theorem rowsDuel_reports :
    let server := (Server.after lib lobby).setMatch 1 rowsDuel
    let played := rowsDuel.receive ⟨(env 5).now, alice, ⟨0, 0⟩⟩
    ∃ result shipSunk shipsRemaining gameOver winnerId results rest,
      played.targetBoard alice = ((rowsDuel.targetBoard alice).processShot ⟨0, 0⟩).1 ∧
      (rowsDuel.targetBoard alice).ShotReport (played.targetBoard alice) ⟨0, 0⟩ result shipSunk
        shipsRemaining gameOver ∧
      (winnerId = alice ↔ gameOver = true) ∧
      Server.MoveTold (env 5) 1 rowsDuel played
        (.moveResult 1 alice ⟨0, 0⟩ result shipSunk shipsRemaining gameOver winnerId) gameOver
        server (server.handleMove lib (env 5) (token alice) 1 ⟨0, 0⟩) results rest ∧
      (gameOver = false → (played.currentTurnPlayerId = alice ↔ result ≠ .miss)) :=
  Server.handleMove_reports lib (env 5) ((Table.lookup_insert ..).trans (if_pos rfl)) rowsDuel_inPlay
    (by decide +kernel) (by decide +kernel) ⟨0, 0⟩

end Example

end Battleship
