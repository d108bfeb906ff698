import Battleship.Connections
import Battleship.PlacementReset

/-! Messages about a match from a user who does not play in it. Only `handleMove`
checks that the sender is a player; the other handlers take everyone who is not
the first player for the second. -/

namespace Battleship

open Decimal (Text)

def Request.gameplayMatch? : Request → Option MatchId
  | .shipPlacement matchId _ => some matchId
  | .move matchId _ => some matchId
  | .resign matchId => some matchId
  | .drawOffer matchId => some matchId
  | .drawResponse matchId _ => some matchId
  | _ => none

namespace Server

def rating (server : Server) (userId : UserId) : Option Int :=
  server.db.users[userId]?.map User.eloRating

def TellsSeat (matchId : MatchId) (row : Match) (server : Server) (message : Sent) : Prop :=
  message.payload.matchId? = some matchId ∧
    ∃ userId, row.Seats userId ∧ server.getClientConnection userId = some message.conn

structure Unaffected (matchId : MatchId) (row : Match) (server later : Server) : Prop where
  game : later.getMatch matchId = server.getMatch matchId
  stored : later.db.matchRows[matchId]? = server.db.matchRows[matchId]?
  ratings : ∀ userId, row.Seats userId → later.rating userId = server.rating userId
  statuses : ∀ userId, row.Seats userId →
    later.getPlayerStatus userId = server.getPlayerStatus userId
  messages : ∃ added, later.net.sent = server.net.sent ++ added ∧
    ∀ message ∈ added, ¬server.TellsSeat matchId row message

def Heard (matchId : MatchId) (row : Match) (server : Server) (net later : Network) : Prop :=
  ∃ added, later.sent = net.sent ++ added ∧ ∃ message ∈ added, server.TellsSeat matchId row message

section Hearing

variable {matchId : MatchId} {row : Match} {server later : Server}

theorem unaffected_of_silent (game : later.getMatch matchId = server.getMatch matchId)
    (rows : later.db.matchRows = server.db.matchRows) (users : later.db.users = server.db.users)
    (players : later.players = server.players)
    (silent : server.net.Transmits (fun message => ¬server.TellsSeat matchId row message) later.net) :
    Unaffected matchId row server later where
  game := game
  stored := by rw [rows]
  ratings := fun _ _ => by rw [rating, rating, users]
  statuses := fun _ _ => by rw [getPlayerStatus, getPlayerStatus, players]
  messages := silent.sent

theorem Heard.not_unaffected (heard : Heard matchId row server server.net later.net) :
    ¬Unaffected matchId row server later := by
  intro unaffected
  obtain ⟨added, split, message, member, telling⟩ := heard
  obtain ⟨same, splitSame, silent⟩ := unaffected.messages
  obtain rfl := List.append_cancel_left (split.symm.trans splitSame)
  exact silent message member telling

theorem Heard.after {allowed : Sent → Prop} {net middle last : Network}
    (early : net.Transmits allowed middle) (heard : Heard matchId row server middle last) :
    Heard matchId row server net last := by
  obtain ⟨before, splitBefore, _⟩ := early.sent
  obtain ⟨added, split, message, member, telling⟩ := heard
  exact ⟨before ++ added, by rw [split, splitBefore, List.append_assoc], message,
    List.mem_append_right _ member, telling⟩

theorem Heard.before {allowed : Sent → Prop} {net middle last : Network}
    (heard : Heard matchId row server net middle) (late : middle.Transmits allowed last) :
    Heard matchId row server net last := by
  obtain ⟨added, split, message, member, telling⟩ := heard
  obtain ⟨rest, splitRest, _⟩ := late.sent
  exact ⟨added ++ rest, by rw [splitRest, split, List.append_assoc], message,
    List.mem_append_left _ member, telling⟩

variable {env : Env} {userId : UserId} {header : MessageHeader} {payload : Payload}

theorem sendToPlayer_heard {current : Server} (players : current.players = server.players)
    (reaches : current.Reaches env userId) (seated : row.Seats userId)
    (about : payload.matchId? = some matchId) :
    Heard matchId row server current.net (current.sendToPlayer env header payload userId).net := by
  obtain ⟨conn, client, delivers⟩ := reaches
  refine ⟨_, sendToPlayer_reached client delivers, _, List.mem_singleton_self _, about, userId,
    seated, ?_⟩
  rwa [getClientConnection, ← players]

theorem sendToPlayers_silent {other : UserId} (own : server.net.OwnDescriptors)
    (lost : ¬server.Reaches env userId) (lostOther : ¬server.Reaches env other) :
    server.net.Transmits (fun _ => False) ((server.sendToPlayer env header payload
      userId).sendToPlayer env header payload other).net := by
  have first := sendToPlayer_unreached header payload own lost
  refine first.trans (sendToPlayer_unreached header payload (first.ownDescriptors own) ?_)
  exact fun reaches => lostOther (reaches.of_transmits first rfl)

end Hearing

section Outsider

variable (lib : Externals) {env : Env} {server : Server} {matchId : MatchId} {row : Match}
  {token : Text}

theorem validated_unaffected (env : Env) (token : Text) :
    Unaffected matchId row server (server.validateSession env token).1 :=
  unaffected_of_silent rfl (Database.validateSession_matchRows ..) (Database.validateSession_users ..)
    rfl (Network.Transmits.refl _)

theorem players_of_active (good : server.WellFormed) (stored : server.db.matchRows[matchId]? = some row)
    {game : MatchState} (active : server.getMatch matchId = some game) :
    game.player1Id = row.player1Id ∧ game.player2Id = row.player2Id := by
  obtain ⟨known, found, players⟩ := (good.games.active matchId game active).row
  obtain rfl := Option.some.inj (stored.symm.trans found)
  exact players

theorem not_unaffected_of_gone {later : Server} {game : MatchState}
    (active : server.getMatch matchId = some game) (gone : later.getMatch matchId = none) :
    ¬Unaffected matchId row server later := by
  intro unaffected
  have kept := unaffected.game
  rw [active, gone] at kept
  simp at kept

theorem handleMove_outsider (good : server.WellFormed)
    (stored : server.db.matchRows[matchId]? = some row)
    (outsider : ¬row.Seats (server.sessionUser env token)) (target : Coordinate) :
    server.handleMove lib env token matchId target = (server.validateSession env token).1 := by
  unfold handleMove
  dsimp only
  split
  · rfl
  split
  · rfl
  next game active =>
    rw [if_pos]
    obtain ⟨player1, player2⟩ := players_of_active good stored active
    intro turn
    apply outsider
    rcases (good.games.active matchId game active).turn with first | second
    · exact Or.inl (player1.symm.trans (first.symm.trans turn))
    · exact Or.inr (player2.symm.trans (second.symm.trans turn))

theorem handleResign_outsider_iff (valid : server.sessionUser env token ≠ 0) :
    Unaffected matchId row server (server.handleResign lib env token matchId) ↔
      server.getMatch matchId = none := by
  cases active : server.getMatch matchId with
  | none =>
      have lookup : (server.validateSession env token).1.getMatch matchId = none := active
      unfold handleResign
      dsimp only
      rw [if_neg (show (server.validateSession env token).2 ≠ 0 from valid), lookup]
      exact iff_of_true (validated_unaffected env token) rfl
  | some game =>
      have gone := (handleResign_concludes lib env active valid).gone
      exact iff_of_false (not_unaffected_of_gone active gone) (by simp)

theorem tellPlayer1_unaffected_iff (own : server.net.OwnDescriptors) {header : MessageHeader}
    {payload : Payload} (about : payload.matchId? = some matchId) :
    Unaffected matchId row server ((server.validateSession env token).1.sendToPlayer env header
      payload row.player1Id) ↔ ¬server.Reaches env row.player1Id := by
  constructor
  · intro unaffected reaches
    have heard : Heard matchId row server (server.validateSession env token).1.net
        ((server.validateSession env token).1.sendToPlayer env header payload row.player1Id).net :=
      sendToPlayer_heard rfl reaches (Or.inl rfl) about
    exact heard.not_unaffected unaffected
  · intro lost
    have silent : (server.validateSession env token).1.net.Transmits (fun _ => False)
        ((server.validateSession env token).1.sendToPlayer env header payload row.player1Id).net :=
      sendToPlayer_unreached header payload own lost
    exact unaffected_of_silent rfl (Database.validateSession_matchRows ..)
      (Database.validateSession_users ..) rfl (silent.mono fun _ impossible => impossible.elim)

theorem opponent_of_outsider (good : server.WellFormed)
    (stored : server.db.matchRows[matchId]? = some row) {game : MatchState}
    (active : server.getMatch matchId = some game) {userId : UserId} (outsider : ¬row.Seats userId) :
    game.opponent userId = row.player1Id := by
  obtain ⟨player1, _⟩ := players_of_active good stored active
  rw [MatchState.opponent, if_neg, player1]
  exact fun same => outsider (Or.inl (same.trans player1).symm)

theorem handleDrawOffer_outsider_iff (good : server.WellFormed) (own : server.net.OwnDescriptors)
    (stored : server.db.matchRows[matchId]? = some row) (valid : server.sessionUser env token ≠ 0)
    (outsider : ¬row.Seats (server.sessionUser env token)) :
    Unaffected matchId row server (server.handleDrawOffer env token matchId) ↔
      server.getMatch matchId = none ∨ ¬server.Reaches env row.player1Id := by
  have lookup : (server.validateSession env token).1.getMatch matchId = server.getMatch matchId := rfl
  unfold handleDrawOffer
  dsimp only
  rw [if_neg (show (server.validateSession env token).2 ≠ 0 from valid), lookup]
  cases active : server.getMatch matchId with
  | none => exact iff_of_true (validated_unaffected env token) (Or.inl rfl)
  | some game =>
      dsimp only
      rw [show game.opponent (server.validateSession env token).2 = row.player1Id from
        opponent_of_outsider good stored active outsider, tellPlayer1_unaffected_iff own rfl]
      simp

theorem handleDrawResponse_outsider_iff (good : server.WellFormed) (own : server.net.OwnDescriptors)
    (stored : server.db.matchRows[matchId]? = some row) (valid : server.sessionUser env token ≠ 0)
    (outsider : ¬row.Seats (server.sessionUser env token)) (accepted : Bool) :
    Unaffected matchId row server (server.handleDrawResponse lib env token matchId accepted) ↔
      server.getMatch matchId = none ∨
        (accepted = false ∧ ¬server.Reaches env row.player1Id) := by
  have lookup : (server.validateSession env token).1.getMatch matchId = server.getMatch matchId := rfl
  by_cases agreed : accepted = true ∧ (server.getMatch matchId).isSome = true
  · obtain ⟨rfl, running⟩ := agreed
    obtain ⟨game, active⟩ := Option.isSome_iff_exists.mp running
    have gone := (handleDrawResponse_concludes lib env active valid).gone
    exact iff_of_false (not_unaffected_of_gone active gone) (by simp [active])
  unfold handleDrawResponse
  dsimp only
  rw [if_neg (show (server.validateSession env token).2 ≠ 0 from valid), lookup]
  cases active : server.getMatch matchId with
  | none => exact iff_of_true (validated_unaffected env token) (Or.inl rfl)
  | some game =>
      have declined : accepted = false := by simpa [active] using agreed
      dsimp only
      rw [show game.opponent (server.validateSession env token).2 = row.player1Id from
        opponent_of_outsider good stored active outsider, if_neg (by simp [declined]),
        tellPlayer1_unaffected_iff own rfl]
      simp [declined]

section Placement

variable {conn : ConnId} {header : MessageHeader} {payload : Payload}

theorem answer_heard {userId : UserId} (seated : row.Seats userId)
    (client : server.getClientConnection userId = some conn)
    (delivers : server.net.Delivers env conn) (about : payload.matchId? = some matchId) :
    Heard matchId row server server.net
      (server.net.sendToClient env header payload (server.net.socketFd conn)) := by
  exact ⟨_, Network.sendToClient_delivered delivers, _, List.mem_singleton_self _, about, userId,
    seated, client⟩

theorem answer_silent (own : server.net.OwnDescriptors) (unheard : ∀ userId, row.Seats userId →
    server.getClientConnection userId = some conn → ¬server.net.Delivers env conn) :
    server.net.Transmits (fun message => ¬server.TellsSeat matchId row message)
      (server.net.sendToClient env header payload (server.net.socketFd conn)) := by
  by_cases delivers : server.net.Delivers env conn
  · apply Network.sendToClient_transmits
    intro found client
    obtain ⟨fd, socket, listed⟩ := Option.bind_eq_some_iff.mp client
    obtain rfl := own conn found fd socket listed
    rintro ⟨_, userId, seated, registered⟩
    exact unheard userId seated registered delivers
  · exact (Network.sendToClient_undelivered own delivers).mono fun _ impossible => impossible.elim

variable {current : Server} {player1Id player2Id : UserId}

theorem activateMatch_silent (own : current.net.OwnDescriptors)
    (lost1 : ¬current.Reaches env player1Id) (lost2 : ¬current.Reaches env player2Id) :
    current.net.Transmits (fun _ => False)
      (current.activateMatch env matchId player1Id player2Id).net := by
  rw [activateMatch_eq]
  let game := current.activated env matchId player1Id player2Id
  let started := (current.createMatch matchId player1Id player2Id).setMatch matchId game
  have ready : started.net.Transmits (fun _ => False)
      (started.sendMatchReady env matchId player1Id player2Id).net :=
    sendToPlayers_silent own lost1 lost2
  have active : (started.sendMatchReady env matchId player1Id player2Id).getMatch matchId =
      some game := (Table.lookup_insert ..).trans (if_pos rfl)
  refine Network.Transmits.trans ready ?_
  simp only [sendTurnUpdate, game, started] at active ⊢
  rw [active]
  exact sendToPlayers_silent (ready.ownDescriptors own)
    (fun reaches => lost1 (reaches.of_transmits ready rfl))
    (fun reaches => lost2 (reaches.of_transmits ready rfl))

theorem activateMatch_heard (players : current.players = server.players)
    (seated1 : row.Seats player1Id) (seated2 : row.Seats player2Id)
    (reaches : current.Reaches env player1Id ∨ current.Reaches env player2Id) :
    Heard matchId row server current.net
      (current.activateMatch env matchId player1Id player2Id).net := by
  rw [activateMatch_eq]
  let started := (current.createMatch matchId player1Id player2Id).setMatch matchId
    (current.activated env matchId player1Id player2Id)
  let payload : Payload := .matchState matchId player1Id player2Id 0 1 true false
  let header := stampedHeader env .matchReady payload
  have ready : Heard matchId row server started.net
      (started.sendMatchReady env matchId player1Id player2Id).net := by
    let told := started.sendToPlayer env header payload player1Id
    have early : started.net.Transmits (fun _ => True) told.net :=
      sendToPlayer_transmits env started fun _ => trivial
    have late : told.net.Transmits (fun _ => True)
        (told.sendToPlayer env header payload player2Id).net :=
      sendToPlayer_transmits env told fun _ => trivial
    rcases reaches with first | second
    · have heard : Heard matchId row server started.net told.net :=
        sendToPlayer_heard players first seated1 rfl
      exact heard.before late
    · have still : told.Reaches env player2Id :=
        Reaches.sendToPlayer (show started.Reaches env player2Id from second) header payload
          player1Id
      have heard : Heard matchId row server told.net
          (told.sendToPlayer env header payload player2Id).net :=
        sendToPlayer_heard players still seated2 rfl
      exact Heard.after early heard
  exact ready.before (sendTurnUpdate_keeps env matchId _ 1 _).net

variable {ships : Vector Ship numShips} {client : ClientConnection}

theorem handleShipPlacement_invalid (valid : server.sessionUser env token ≠ 0)
    (refused : validateShipPlacement ships = false) (clientFd : Option Fd) :
    server.handleShipPlacement env token matchId ships clientFd =
      (server.validateSession env token).1.acknowledge env matchId false "Invalid ship placement"
        clientFd := by
  unfold handleShipPlacement
  dsimp only
  rw [if_neg (show (server.validateSession env token).2 ≠ 0 from valid), if_pos (by simp [refused])]

theorem placementSaved_users (server : Server) (clientFd : Option Fd) :
    (server.placementSaved env token matchId ships clientFd).db.users = server.db.users :=
  (Database.saveShipPlacement_users ..).trans (Database.validateSession_users ..)

theorem placementSaved_rows (server : Server) (clientFd : Option Fd) :
    (server.placementSaved env token matchId ships clientFd).db.matchRows = server.db.matchRows :=
  (Database.saveShipPlacement_matchRows ..).trans (Database.validateSession_matchRows ..)

theorem completes_outsider_iff (stored : server.db.matchRows[matchId]? = some row) {userId : UserId}
    (outsider : ¬row.Seats userId) : server.Completes matchId userId ↔
      row.player1Id ∈ server.games.readySet matchId ∧
        row.player2Id ∈ server.games.readySet matchId := by
  have first : row.player1Id ≠ userId := fun same => outsider (Or.inl same)
  have second : row.player2Id ≠ userId := fun same => outsider (Or.inr same)
  constructor
  · rintro ⟨found, known, ready1, ready2⟩
    obtain rfl := Option.some.inj (stored.symm.trans known)
    exact ⟨(Finset.mem_insert.mp ready1).resolve_left first,
      (Finset.mem_insert.mp ready2).resolve_left second⟩
  · rintro ⟨ready1, ready2⟩
    exact ⟨row, stored, Finset.mem_insert_of_mem ready1, Finset.mem_insert_of_mem ready2⟩

theorem markReady_reaches_iff (userId playerId : UserId) :
    (server.markReady matchId userId).Reaches env playerId ↔ server.Reaches env playerId := Iff.rfl

theorem placementSaved_reaches_iff (clientFd : Option Fd) (userId : UserId)
    (silent : server.net.Transmits (fun message => ¬server.TellsSeat matchId row message)
      (server.placementSaved env token matchId ships clientFd).net) :
    (server.placementSaved env token matchId ships clientFd).Reaches env userId ↔
      server.Reaches env userId := by
  constructor
  · exact Reaches.of_transmits silent rfl
  · rintro ⟨conn, client, delivers⟩
    exact ⟨conn, client, delivers.sendToClient _ _ _⟩

/-- What an activation after a silent step does to a match that is active already. -/
theorem activateMatch_unaffected_iff {current : Server} (own : server.net.OwnDescriptors)
    (rows : current.db.matchRows = server.db.matchRows) (users : current.db.users = server.db.users)
    (players : current.players = server.players)
    (silent : server.net.Transmits (fun message => ¬server.TellsSeat matchId row message) current.net) :
    Unaffected matchId row server
        (current.activateMatch env matchId row.player1Id row.player2Id) ↔
      (current.activateMatch env matchId row.player1Id row.player2Id).getMatch matchId =
        server.getMatch matchId ∧
      ¬current.Reaches env row.player1Id ∧ ¬current.Reaches env row.player2Id := by
  constructor
  · intro unaffected
    refine ⟨unaffected.game, not_or.mp ?_⟩
    intro reaches
    have heard : Heard matchId row server current.net
        (current.activateMatch env matchId row.player1Id row.player2Id).net :=
      activateMatch_heard players (Or.inl rfl) (Or.inr rfl) reaches
    exact (Heard.after silent heard).not_unaffected unaffected
  · rintro ⟨game, lost1, lost2⟩
    have quiet : current.net.Transmits (fun _ => False)
        (current.activateMatch env matchId row.player1Id row.player2Id).net :=
      activateMatch_silent (silent.ownDescriptors own) lost1 lost2
    refine unaffected_of_silent game ?_ ?_ ?_ (silent.trans (quiet.mono ?_))
    · rw [activateMatch_eq]
      exact rows
    · rw [activateMatch_eq]
      exact users
    · rw [activateMatch_eq]
      exact players
    · exact fun _ impossible => impossible.elim

theorem placementReady_outsider_iff (good : server.WellFormed) (own : server.net.OwnDescriptors)
    (stored : server.db.matchRows[matchId]? = some row)
    (outsider : ¬row.Seats (server.sessionUser env token)) (clientFd : Option Fd)
    (accepted : server.AcceptsPlacement env token matchId ships)
    (silent : server.net.Transmits (fun message => ¬server.TellsSeat matchId row message)
      (server.placementSaved env token matchId ships clientFd).net) :
    Unaffected matchId row server (server.handleShipPlacement env token matchId ships clientFd) ↔
      ¬(row.player1Id ∈ server.games.readySet matchId ∧
        row.player2Id ∈ server.games.readySet matchId) ∨
      ∃ game, server.getMatch matchId = some game ∧ StartsAlike env game ∧
        ¬server.Reaches env row.player1Id ∧ ¬server.Reaches env row.player2Id := by
  let userId := server.sessionUser env token
  let saved := server.placementSaved env token matchId ships clientFd
  have shape : server.handleShipPlacement env token matchId ships clientFd =
      saved.placementReady env matchId userId := handleShipPlacement_accepted env good clientFd accepted
  have completes := completes_outsider_iff stored outsider
  have rows : saved.db.matchRows = server.db.matchRows := placementSaved_rows server clientFd
  have users : saved.db.users = server.db.users := placementSaved_users server clientFd
  by_cases complete : server.Completes matchId userId
  · simp only [← completes, userId, complete, not_true_eq_false, false_or]
    obtain ⟨ready1, ready2⟩ := completes.mp complete
    have started : server.handleShipPlacement env token matchId ships clientFd =
        (saved.markReady matchId userId).activateMatch env matchId row.player1Id row.player2Id :=
      shape.trans (placementReady_complete env saved matchId userId (rows ▸ stored)
        (Finset.mem_insert_of_mem ready1) (Finset.mem_insert_of_mem ready2))
    have unaffected : Unaffected matchId row server
        (server.handleShipPlacement env token matchId ships clientFd) ↔
        (server.handleShipPlacement env token matchId ships clientFd).getMatch matchId =
          server.getMatch matchId ∧ ¬(saved.markReady matchId userId).Reaches env row.player1Id ∧
        ¬(saved.markReady matchId userId).Reaches env row.player2Id := by
      rw [started]
      exact activateMatch_unaffected_iff own rows users rfl silent
    rw [unaffected, markReady_reaches_iff, markReady_reaches_iff,
      placementSaved_reaches_iff clientFd row.player1Id silent,
      placementSaved_reaches_iff clientFd row.player2Id silent]
    cases active : server.getMatch matchId with
    | none =>
        rw [started, activateMatch_getMatch, if_pos rfl]
        simp
    | some game =>
        rw [handleShipPlacement_restarts env good clientFd accepted active, Option.some.injEq,
          openedMatch_eq_iff env (good.games.active matchId game active)]
        simp
  · rw [← completes]
    refine iff_of_true ?_ (Or.inl complete)
    rw [shape, placementReady_waiting env saved matchId userId
      (fun late => complete ((placementSaved_completes env ..).mp late))]
    exact unaffected_of_silent rfl rows users rfl silent

def AnswersSeat (server : Server) (env : Env) (conn : ConnId) (row : Match) : Prop :=
  ∃ userId, row.Seats userId ∧ server.getClientConnection userId = some conn ∧
    server.net.Delivers env conn

theorem handleShipPlacement_outsider_iff (good : server.WellFormed) (own : server.net.OwnDescriptors)
    (stored : server.db.matchRows[matchId]? = some row) (valid : server.sessionUser env token ≠ 0)
    (outsider : ¬row.Seats (server.sessionUser env token)) :
    Unaffected matchId row server
        (server.handleShipPlacement env token matchId ships (server.net.socketFd conn)) ↔
      ¬server.AnswersSeat env conn row ∧
      (validateShipPlacement ships = false ∨
        ¬(row.player1Id ∈ server.games.readySet matchId ∧
          row.player2Id ∈ server.games.readySet matchId) ∨
        ∃ game, server.getMatch matchId = some game ∧ StartsAlike env game ∧
          ¬server.Reaches env row.player1Id ∧ ¬server.Reaches env row.player2Id) := by
  have known : (server.db.matchRows[matchId]?).isSome = true := by simp [stored]
  by_cases answers : server.AnswersSeat env conn row
  · refine iff_of_false ?_ fun harmless => harmless.1 answers
    obtain ⟨userId, seated, client, delivers⟩ := answers
    cases fleet : validateShipPlacement ships with
    | false =>
        rw [handleShipPlacement_invalid valid fleet]
        exact Heard.not_unaffected (answer_heard seated client delivers rfl)
    | true =>
        rw [handleShipPlacement_accepted env good _ ⟨valid, fleet, known⟩]
        have answered : Heard matchId row server server.net
            (server.placementSaved env token matchId ships (server.net.socketFd conn)).net :=
          answer_heard seated client delivers rfl
        exact (answered.before (placementReady_edits env matchId _ _).transmits).not_unaffected
  · have unheard (userId : UserId) (seated : row.Seats userId)
        (client : server.getClientConnection userId = some conn) : ¬server.net.Delivers env conn :=
      fun delivers => answers ⟨userId, seated, client, delivers⟩
    cases fleet : validateShipPlacement ships with
    | false =>
        refine iff_of_true ?_ ⟨answers, Or.inl rfl⟩
        rw [handleShipPlacement_invalid valid fleet]
        exact unaffected_of_silent rfl (Database.validateSession_matchRows ..)
          (Database.validateSession_users ..) rfl (answer_silent own unheard)
    | true =>
        rw [placementReady_outsider_iff good own stored outsider _ ⟨valid, fleet, known⟩
          (answer_silent own unheard)]
        simp [answers]

end Placement

end Outsider

def HarmlessFromOutsider (server : Server) (env : Env) (conn : ConnId) (matchId : MatchId)
    (row : Match) : Request → Prop
  | .shipPlacement _ ships => ¬server.AnswersSeat env conn row ∧
      (validateShipPlacement ships = false ∨
        ¬(row.player1Id ∈ server.games.readySet matchId ∧
          row.player2Id ∈ server.games.readySet matchId) ∨
        ∃ game, server.getMatch matchId = some game ∧ StartsAlike env game ∧
          ¬server.Reaches env row.player1Id ∧ ¬server.Reaches env row.player2Id)
  | .resign _ => server.getMatch matchId = none
  | .drawOffer _ => server.getMatch matchId = none ∨ ¬server.Reaches env row.player1Id
  | .drawResponse _ accepted => server.getMatch matchId = none ∨
      (accepted = false ∧ ¬server.Reaches env row.player1Id)
  | _ => True

/-- An outsider's message leaves a match alone exactly if it is a move, or a
message of which nothing reaches the players and by which nothing starts or ends. -/
theorem outsider_unaffected_iff (lib : Externals) {server : Server} (reachable : server.Reachable lib)
    {matchId : MatchId} {row : Match} (stored : server.db.matchRows[matchId]? = some row)
    {event : Event} {conn : ConnId} {token : Text} {request : Request}
    (action : event.action = .message conn token request)
    (handled : server.Handles event token request)
    (about : request.gameplayMatch? = some matchId)
    (valid : server.sessionUser event.env token ≠ 0)
    (outsider : ¬row.Seats (server.sessionUser event.env token)) :
    Unaffected matchId row server (server.step lib event) ↔
      server.HarmlessFromOutsider event.env conn matchId row request := by
  have good := reachable.wellFormed
  have own := reachable.ownDescriptors
  obtain ⟨served, client, acted, known, stepped⟩ := handled.step_eq lib
  obtain ⟨rfl, _⟩ := Action.message.inj (action.symm.trans acted)
  rw [stepped]
  cases request with
  | shipPlacement named ships =>
      obtain rfl := Option.some.inj about
      have socket : server.net.socketFd conn = client.socketFd := by
        rw [Network.socketFd, known, Option.bind_some]
      simp only [routeMessage, HarmlessFromOutsider, ← socket]
      exact handleShipPlacement_outsider_iff good own stored valid outsider
  | move named target =>
      obtain rfl := Option.some.inj about
      simp only [routeMessage, HarmlessFromOutsider, iff_true]
      rw [handleMove_outsider lib good stored outsider]
      exact validated_unaffected event.env token
  | resign named =>
      obtain rfl := Option.some.inj about
      exact handleResign_outsider_iff lib valid
  | drawOffer named =>
      obtain rfl := Option.some.inj about
      exact handleDrawOffer_outsider_iff good own stored valid outsider
  | drawResponse named accepted =>
      obtain rfl := Option.some.inj about
      exact handleDrawResponse_outsider_iff lib good own stored valid outsider accepted
  | ping | register | login | logout | validateSession | playerListRequest | challengeSend
  | challengeResponse | rematchRequest | rematchResponse | unread => simp [Request.gameplayMatch?] at about

end Server

namespace Script

open Server

def duelRow : Match := ⟨alice, bob, 0, .waiting, start + 3, 0⟩

def carolResigns : Event := sends 5 carol (.resign 1)

theorem duel_row : (after lib duel).db.matchRows[1]? = some duelRow := by decide +kernel

theorem duel_live : (after lib duel).isLive 2 = true := by decide +kernel

theorem carolResigns_handled :
    (after lib duel).Handles carolResigns (token carol) (.resign 1) :=
  handles_of_isLive duel_live (env 5) (token carol) (.resign 1)

theorem carol_session : (after lib duel).sessionUser (env 5) (token carol) = carol := by decide +kernel

theorem carolResigns_unaffected_iff :
    Unaffected 1 duelRow (after lib duel) ((after lib duel).step lib carolResigns) ↔
      (after lib duel).HarmlessFromOutsider (env 5) 2 1 duelRow (.resign 1) :=
  outsider_unaffected_iff lib (after_reachable lib duel) duel_row rfl carolResigns_handled rfl
    (by rw [show carolResigns.env = env 5 from rfl, carol_session]; decide)
    (by rw [show carolResigns.env = env 5 from rfl, carol_session]; decide)

/-- The match is over, and Alice has won it. -/
theorem carolResigns_affects : (after lib duel).Reachable lib ∧
    (after lib duel).db.matchRows[1]? = some duelRow ∧
    (after lib duel).Handles carolResigns (token carol) (.resign 1) ∧
    (after lib duel).sessionUser carolResigns.env (token carol) = carol ∧ ¬duelRow.Seats carol ∧
    ¬Unaffected 1 duelRow (after lib duel) ((after lib duel).step lib carolResigns) ∧
    (((after lib duel).step lib carolResigns).db.matchRows[1]?).map Match.winnerId = some alice := by
  refine ⟨after_reachable lib duel, duel_row, carolResigns_handled, carol_session, by decide, ?_,
    by decide +kernel⟩
  intro unaffected
  have before : (((after lib duel).getMatch 1).isSome) = true := by decide +kernel
  have gone : (((after lib duel).step lib carolResigns).getMatch 1).isSome = false := by
    decide +kernel
  rw [unaffected.game, before] at gone
  cases gone

end Script

end Battleship
