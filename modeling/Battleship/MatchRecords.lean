import Battleship.Accounts

/-! What is left in the database of a match that is concluded, against what its
players are told: the winner in its row, and the ratings of its two players. -/

namespace Battleship

open Decimal (Text)

def Payload.announcedEnd? : Payload → Option (MatchId × UserId × Int)
  | matchEnd matchId _ winnerId _ _ newElo _ _ _ => some (matchId, winnerId, newElo)
  | _ => .none

namespace Server

def recipient (server : Server) (userId : UserId) : Option ConnId :=
  (server.getClientConnection userId).bind fun conn =>
    (server.net.socketFd conn).bind fun fd => server.net.clients[fd]?

def AnnouncesEnd (server : Server) (matchId : MatchId) (game : MatchState) (winnerId : UserId)
    (newElo1 newElo2 : Int) (message : Sent) : Prop :=
  ∀ winner newElo, message.payload.announcedEnd? = some (matchId, winner, newElo) →
    winner = winnerId ∧
      (server.recipient game.player1Id = some message.conn ∧ newElo = newElo1 ∨
        server.recipient game.player2Id = some message.conn ∧ newElo = newElo2)

theorem NoMatchEnd.announcesEnd {message : Sent} (none : NoMatchEnd message) (server : Server)
    (matchId : MatchId) (game : MatchState) (winnerId : UserId) (newElo1 newElo2 : Int) :
    AnnouncesEnd server matchId game winnerId newElo1 newElo2 message := by
  intro winner newElo announced
  obtain ⟨conn, header, payload⟩ := message
  cases payload with
  | matchEnd => simp [NoMatchEnd, Payload.endedMatch?] at none
  | _ => simp [Payload.announcedEnd?] at announced

section Announcing

variable (env : Env) {header : MessageHeader} {payload : Payload} {server later : Server}

theorem sendToPlayer_recipient {allowed : Sent → Prop} (userId : UserId)
    (permitted : ∀ conn, server.recipient userId = some conn → allowed ⟨conn, header, payload⟩) :
    server.net.Transmits allowed (server.sendToPlayer env header payload userId).net := by
  simp only [sendToPlayer]
  cases client : server.getClientConnection userId with
  | none => exact Network.Transmits.refl _
  | some conn =>
      refine Network.sendToClient_transmits env server.net fun listed found => permitted listed ?_
      simpa [recipient, client] using found

theorem recipient_of_transmits {allowed : Sent → Prop}
    (transmits : server.net.Transmits allowed later.net) (players : later.players = server.players)
    {userId : UserId} {conn : ConnId} (found : later.recipient userId = some conn) :
    server.recipient userId = some conn := by
  simp only [recipient, getClientConnection, players, Option.bind_eq_some_iff] at found ⊢
  obtain ⟨entry, client, fd, socket, listed⟩ := found
  exact ⟨entry, client, fd, transmits.sockets entry fd socket, transmits.clients fd conn listed⟩

variable (lib : Externals) (matchId : MatchId) (game : MatchState) (winnerId : UserId)
  (reason : MatchEndReason) (reasonText : String) (server : Server)

theorem sendMatchEnd_announces (totalMoves : Int) (duration : Nat) :
    server.net.Transmits (AnnouncesEnd server matchId game winnerId
      (server.ratings lib game.player1Id game.player2Id winnerId).1
      (server.ratings lib game.player1Id game.player2Id winnerId).2)
      (server.sendMatchEnd lib env matchId game.player1Id game.player2Id winnerId reason reasonText
        totalMoves duration).net := by
  have announces (conn : ConnId) (header : MessageHeader) (result : GameResult)
      (eloChange newElo : Int) (text : Text)
      (receiver : server.recipient game.player1Id = some conn ∧
          newElo = (server.ratings lib game.player1Id game.player2Id winnerId).1 ∨
        server.recipient game.player2Id = some conn ∧
          newElo = (server.ratings lib game.player1Id game.player2Id winnerId).2) :
      AnnouncesEnd server matchId game winnerId
        (server.ratings lib game.player1Id game.player2Id winnerId).1
        (server.ratings lib game.player1Id game.player2Id winnerId).2
        ⟨conn, header, .matchEnd matchId result winnerId reason eloChange newElo totalMoves duration
          text⟩ := by
    rintro winner announced same
    obtain ⟨rfl, rfl⟩ : winnerId = winner ∧ newElo = announced := by
      simpa [Payload.announcedEnd?] using same
    exact ⟨rfl, receiver⟩
  let rated := ((server.announceEnd matchId winnerId reason).updateEloRating matchId game.player1Id
    (server.ratings lib game.player1Id game.player2Id winnerId).1).updateEloRating matchId
    game.player2Id (server.ratings lib game.player1Id game.player2Id winnerId).2
  have first (header : MessageHeader) (result : GameResult) (eloChange : Int) (text : Text) :
      server.net.Transmits (AnnouncesEnd server matchId game winnerId
        (server.ratings lib game.player1Id game.player2Id winnerId).1
        (server.ratings lib game.player1Id game.player2Id winnerId).2)
        (rated.sendToPlayer env header (.matchEnd matchId result winnerId reason eloChange
          (server.ratings lib game.player1Id game.player2Id winnerId).1 totalMoves duration text)
          game.player1Id).net :=
    sendToPlayer_recipient env game.player1Id fun conn found =>
      announces conn header result eloChange _ text (.inl ⟨found, rfl⟩)
  refine (first _ _ _ _).trans (sendToPlayer_recipient env game.player2Id fun conn found => ?_)
  exact announces conn _ _ _ _ _ (.inr ⟨recipient_of_transmits (first _ _ _ _) rfl found, rfl⟩)

end Announcing

/-! ### One end of a match -/

def Amounts (matchId : MatchId) (game : MatchState) (winnerId : UserId) (newElo1 newElo2 : Int)
    (added : List MatchEffect) : Prop :=
  ∀ accounts : Accounts, game.player1Id ≠ game.player2Id →
    (Machine.exec Accounts.post accounts added).ratings game.player1Id = newElo1 ∧
    (Machine.exec Accounts.post accounts added).ratings game.player2Id = newElo2 ∧
    (Machine.exec Accounts.post accounts added).results matchId =
      if winnerId = 0 then accounts.results matchId else (winnerId, .completed)

def Ends (matchId : MatchId) (game : MatchState) (winnerId : UserId) (server later : Server) : Prop :=
  ∃ newElo1 newElo2 added, later.journal = server.journal ++ added ∧
    Amounts matchId game winnerId newElo1 newElo2 added ∧
    server.net.Transmits (AnnouncesEnd server matchId game winnerId newElo1 newElo2) later.net

section Ends

variable (lib : Externals) (env : Env) {matchId : MatchId} {game : MatchState} {winnerId : UserId}
  {server later : Server}

theorem amounts_finished (matchId : MatchId) (game : MatchState) (winnerId : UserId)
    (reason : MatchEndReason) (newElo1 newElo2 : Int) :
    Amounts matchId game winnerId newElo1 newElo2 [.concluded matchId winnerId reason,
      .eloUpdated matchId game.player1Id newElo1, .eloUpdated matchId game.player2Id newElo2,
      .recorded matchId winnerId] := by
  intro accounts distinct
  simp only [Machine.exec_cons, Machine.exec_nil, Accounts.post]
  split <;> simp [distinct]

theorem amounts_abandoned (matchId : MatchId) (game : MatchState) (winnerId : UserId)
    (reason : MatchEndReason) (newElo1 newElo2 : Int) :
    Amounts matchId game winnerId newElo1 newElo2 [.recorded matchId winnerId,
      .concluded matchId winnerId reason, .eloUpdated matchId game.player1Id newElo1,
      .eloUpdated matchId game.player2Id newElo2] := by
  intro accounts distinct
  simp only [Machine.exec_cons, Machine.exec_nil, Accounts.post]
  split <;> simp [distinct]

theorem finishMatch_ends (matchId : MatchId) (game : MatchState) (winnerId : UserId)
    (reason : MatchEndReason) (reasonText : String) (server : Server) :
    Ends matchId game winnerId server
      (server.finishMatch lib env matchId game winnerId reason reasonText) := by
  refine ⟨(server.ratings lib game.player1Id game.player2Id winnerId).1,
    (server.ratings lib game.player1Id game.player2Id winnerId).2, _, ?_,
    amounts_finished matchId game winnerId reason _ _, ?_⟩
  · simp only [finishMatch, removeMatch, updatePlayerStatus, broadcastIf, endMatch,
      sendMatchEnd_journal, List.append_assoc, List.cons_append, List.nil_append]
  · let ended := server.sendMatchEnd lib env matchId game.player1Id game.player2Id winnerId reason
      reasonText game.moveHistory.length (secondsSince env.now game.startTime)
    have released := ((KeepsMatches.refl (ended.endMatch env matchId winnerId)).updatePlayerStatus
      env game.player1Id .available).updatePlayerStatus env game.player2Id .available
    exact (sendMatchEnd_announces env lib matchId game winnerId reason reasonText server _ _).trans
      (released.net.mono fun _ none => NoMatchEnd.announcesEnd none server matchId game winnerId _ _)

theorem abandonMatch_ends {userId : UserId} (was : server.getMatch matchId = some game) :
    Ends matchId game (game.opponent userId) server
      (server.abandonMatch lib env userId matchId) := by
  obtain ⟨duration, shape⟩ := abandonMatch_of_some lib env userId server was
  let recorded := server.endMatch env matchId (game.opponent userId)
  refine ⟨(recorded.ratings lib game.player1Id game.player2Id (game.opponent userId)).1,
    (recorded.ratings lib game.player1Id game.player2Id (game.opponent userId)).2, _, ?_,
    amounts_abandoned matchId game (game.opponent userId) .disconnect _ _, ?_⟩
  · rw [shape]
    simp only [updatePlayerStatus, broadcastIf, removeMatch, sendMatchEnd_journal, recorded,
      endMatch, List.append_assoc, List.cons_append, List.nil_append]
  · rw [shape]
    let ended := recorded.sendMatchEnd lib env matchId game.player1Id game.player2Id
      (game.opponent userId) .disconnect "Opponent disconnected" game.turnNumber duration
    have released := (KeepsMatches.refl (ended.removeMatch matchId)).updatePlayerStatus env
      (game.opponent userId) .available
    have announced := sendMatchEnd_announces env lib matchId game (game.opponent userId)
      .disconnect "Opponent disconnected" recorded game.turnNumber duration
    exact announced.trans (released.net.mono fun _ none =>
      NoMatchEnd.announcesEnd none server matchId game (game.opponent userId) _ _)

/-- The end of a match is on record as its players were told: its row is completed
with the winner of each MATCH_END, and each goes to a player whose row has the
rating in it. -/
structure Recorded (matchId : MatchId) (game : MatchState) (winnerId : UserId)
    (server later : Server) : Prop where
  row : ∃ row : Match, later.db.matchRows[matchId]? = some row ∧ row.status = .completed ∧
    row.winnerId = winnerId
  told : ∃ added, later.net.sent = server.net.sent ++ added ∧ ∀ message ∈ added,
    ∀ winner newElo, message.payload.announcedEnd? = some (matchId, winner, newElo) →
      winner = winnerId ∧ ∃ (playerId : UserId) (user : User),
        (playerId = game.player1Id ∨ playerId = game.player2Id) ∧
        server.recipient playerId = some message.conn ∧
        later.db.users[playerId]? = some user ∧ user.eloRating = newElo

theorem rating_of_user {db : Database} {userId : UserId} (known : db.HasUser userId) :
    ∃ user : User, db.users[userId]? = some user ∧ user.eloRating = db.rating userId := by
  obtain ⟨user, found⟩ := Option.isSome_iff_exists.mp known
  exact ⟨user, found, by simp [Database.rating, found]⟩

theorem result_iff {db : Database} (winnerId : UserId)
    (row : ∃ row : Match, db.matchRows[matchId]? = some row) :
    (∃ row : Match, db.matchRows[matchId]? = some row ∧ row.status = .completed ∧
      row.winnerId = winnerId) ↔ db.result matchId = (winnerId, .completed) := by
  obtain ⟨row, found⟩ := row
  simp only [found, Option.some.injEq, exists_eq_left', Database.result, Option.map_some,
    Option.getD_some, Prod.mk.injEq]
  exact and_comm

theorem Ends.onRecord_iff (ends : Ends matchId game winnerId server later)
    (good : server.db.WellFormed) (stored : Stored server.db matchId game)
    (distinct : game.player1Id ≠ game.player2Id) (edits : Edits env server later)
    (undrawn : winnerId = 0 → server.db.result matchId ≠ (0, .completed)) :
    Recorded matchId game winnerId server later ↔ winnerId ≠ 0 := by
  obtain ⟨newElo1, newElo2, added, journal, amounts, announced⟩ := ends
  obtain ⟨posted, journal', moved⟩ := edits.posts good
  obtain rfl := List.append_cancel_left (journal'.symm.trans journal)
  have later_stored := stored.grows (edits.db_sound.keeps good).2
  obtain ⟨rating1, rating2, result⟩ := amounts server.accounts distinct
  rw [← moved] at rating1 rating2 result
  have told : ∃ added, later.net.sent = server.net.sent ++ added ∧ ∀ message ∈ added,
      ∀ winner newElo, message.payload.announcedEnd? = some (matchId, winner, newElo) →
        winner = winnerId ∧ ∃ (playerId : UserId) (user : User),
          (playerId = game.player1Id ∨ playerId = game.player2Id) ∧
          server.recipient playerId = some message.conn ∧
          later.db.users[playerId]? = some user ∧ user.eloRating = newElo := by
    obtain ⟨sent, split, permitted⟩ := announced.sent
    refine ⟨sent, split, fun message member winner newElo ended => ?_⟩
    obtain ⟨same, ⟨receives, rfl⟩ | ⟨receives, rfl⟩⟩ := permitted message member winner newElo ended
    · obtain ⟨user, found, rating⟩ := rating_of_user later_stored.player1
      exact ⟨same, _, user, .inl rfl, receives, found, rating.trans rating1⟩
    · obtain ⟨user, found, rating⟩ := rating_of_user later_stored.player2
      exact ⟨same, _, user, .inr rfl, receives, found, rating.trans rating2⟩
  have row := result_iff winnerId later_stored.row
  constructor
  · rintro ⟨completed, _⟩ rfl
    rw [if_pos rfl] at result
    exact undrawn rfl (result.symm.trans (row.mp completed))
  · intro winner
    rw [if_neg winner] at result
    exact ⟨row.mpr result, told⟩

theorem Ends.after {middle : Server} (ends : Ends matchId game winnerId middle later)
    (journal : middle.journal = server.journal) (players : middle.players = server.players)
    (quiet : server.net.Transmits NoMatchEnd middle.net) :
    Ends matchId game winnerId server later := by
  obtain ⟨newElo1, newElo2, added, split, amounts, announced⟩ := ends
  refine ⟨newElo1, newElo2, added, by rw [split, journal], amounts, ?_⟩
  have early := quiet.mono fun _ none =>
    NoMatchEnd.announcesEnd none server matchId game winnerId newElo1 newElo2
  refine early.trans (announced.mono fun message told winner newElo ended => ?_)
  obtain ⟨same, receiver⟩ := told winner newElo ended
  have known {userId : UserId} (found : middle.recipient userId = some message.conn) :
      server.recipient userId = some message.conn := recipient_of_transmits quiet players found
  exact ⟨same, receiver.imp (.imp_left known) (.imp_left known)⟩

theorem Ends.of_players {changed : MatchState} (ends : Ends matchId changed winnerId server later)
    (player1 : changed.player1Id = game.player1Id) (player2 : changed.player2Id = game.player2Id) :
    Ends matchId game winnerId server later := by
  unfold Ends Amounts AnnouncesEnd at *
  rwa [player1, player2] at ends

end Ends

/-! ### The five ways to an end -/

def unlisted (server : Server) (fd : Fd) : Server :=
  { server with net := { server.net with clients := server.net.clients.erase fd } }

inductive Concluding (lib : Externals) (env : Env) (matchId : MatchId) : Server → Server → Prop
  | finalShot {server : Server} (reachable : server.Reachable lib) (token : Text)
      (target : Coordinate) :
      Concluding lib env matchId server (server.handleMove lib env token matchId target)
  | resigned {server : Server} (reachable : server.Reachable lib) (token : Text) :
      Concluding lib env matchId server (server.handleResign lib env token matchId)
  | drawAgreed {server : Server} (reachable : server.Reachable lib) (token : Text) :
      Concluding lib env matchId server (server.handleDrawResponse lib env token matchId true)
  | timedOut {server : Server} (reachable : server.Reachable lib) {early late : List MatchId}
      (scan : (server.games.activeMatches.keysWhere fun game => game.isTurnTimedOut env.now) =
        early ++ matchId :: late) :
      Concluding lib env matchId
        (early.foldl (fun server matchId => server.timeOutMatch lib env matchId) server)
        ((early.foldl (fun server matchId => server.timeOutMatch lib env matchId)
          server).timeOutMatch lib env matchId)
  | disconnected {server : Server} (reachable : server.Reachable lib) (fd : Fd) (userId : UserId)
      {early late : List MatchId}
      (scan : (server.games.activeMatches.keysWhere fun game =>
        decide (game.player1Id = userId ∨ game.player2Id = userId)) = early ++ matchId :: late) :
      Concluding lib env matchId
        (early.foldl (fun server matchId => server.abandonMatch lib env userId matchId)
          (server.unlisted fd))
        ((early.foldl (fun server matchId => server.abandonMatch lib env userId matchId)
          (server.unlisted fd)).abandonMatch lib env userId matchId)

def Outcome (matchId : MatchId) (server later : Server) : Prop :=
  later.getMatch matchId ≠ none ∨ server.getMatch matchId = none ∨
    ∃ game winnerId reason, Concludes matchId game winnerId reason server later ∧
      Ends matchId game winnerId server later

section Outcomes

variable {lib : Externals} {env : Env} {matchId : MatchId} {server later : Server}

theorem Untouched.outcome (kept : Untouched matchId server later) : Outcome matchId server later := by
  by_cases was : server.getMatch matchId = none
  · exact .inr (.inl was)
  · exact .inl (kept.game ▸ was)

theorem Outcome.after {middle : Server} (outcome : Outcome matchId middle later)
    (kept : server.KeepsMatches middle) (players : middle.players = server.players) :
    Outcome matchId server later := by
  have same := (kept.untouched matchId).game
  rcases outcome with running | inactive | ⟨game, winnerId, reason, done, ends⟩
  · exact .inl running
  · exact .inr (.inl (same.symm.trans inactive))
  · exact .inr (.inr ⟨game, winnerId, reason, (kept.untouched matchId).concludes done,
      ends.after kept.journal players kept.net⟩)

theorem finishMatch_outcome {game : MatchState} (was : server.getMatch matchId = some game)
    (winnerId : UserId) (reason : MatchEndReason) (reasonText : String) :
    Outcome matchId server (server.finishMatch lib env matchId game winnerId reason reasonText) :=
  .inr (.inr ⟨game, winnerId, reason, finishMatch_concludes lib env matchId server game winnerId
    reason reasonText was, finishMatch_ends ..⟩)

theorem playMove_outcome {game : MatchState} (was : server.getMatch matchId = some game)
    (userId : UserId) (target : Coordinate) :
    Outcome matchId server (server.playMove lib env matchId game userId target) := by
  rcases playMove_change lib env was userId target with ⟨_, running⟩ | done
  · exact .inl (Option.isSome_iff_ne_none.mp running)
  · have gone := done.gone
    rw [playMove_eq] at done gone ⊢
    split at done
    next sunk =>
      rw [if_pos sunk]
      have ends := finishMatch_ends lib env matchId (game.processMove env.now userId target).1 userId
        .normal "All ships destroyed" (server.movePlayed env matchId game userId target)
      have early : Ends matchId (game.processMove env.now userId target).1 userId server _ :=
        ends.after rfl rfl (movePlayed_transmits env matchId game userId target server)
      obtain ⟨player1, player2⟩ := game.receive_players ⟨env.now, userId, target⟩
      exact .inr (.inr ⟨game, userId, .normal, done, early.of_players player1 player2⟩)
    next afloat =>
      rw [if_neg afloat] at gone ⊢
      exact absurd gone (by
        rw [((sendTurnUpdate_keeps env matchId _ _ _).untouched matchId).game, movePlayed_getMatch,
          if_pos rfl]
        simp)

theorem handleMove_outcome (token : Text) (target : Coordinate) :
    Outcome matchId server (server.handleMove lib env token matchId target) := by
  have checked := keeps_validated env server token
  have still := (checked.untouched matchId).outcome
  unfold handleMove
  dsimp only
  split
  · exact still
  split
  · exact still
  next game found =>
    split
    · exact still
    · exact (playMove_outcome found _ target).after checked rfl

theorem handleResign_outcome (token : Text) :
    Outcome matchId server (server.handleResign lib env token matchId) := by
  have checked := keeps_validated env server token
  have still := (checked.untouched matchId).outcome
  unfold handleResign
  dsimp only
  split
  · exact still
  split
  · exact still
  next game found => exact (finishMatch_outcome found _ _ _).after checked rfl

theorem handleDrawResponse_outcome (token : Text) :
    Outcome matchId server (server.handleDrawResponse lib env token matchId true) := by
  have checked := keeps_validated env server token
  have still := (checked.untouched matchId).outcome
  unfold handleDrawResponse
  dsimp only
  split
  · exact still
  split
  · exact still
  next game found => exact (finishMatch_outcome found _ _ _).after checked rfl

theorem timeOutMatch_outcome : Outcome matchId server (server.timeOutMatch lib env matchId) := by
  unfold timeOutMatch
  split
  · exact (Untouched.refl matchId server).outcome
  next game found => exact finishMatch_outcome found ..

theorem abandonMatch_outcome (userId : UserId) :
    Outcome matchId server (server.abandonMatch lib env userId matchId) := by
  cases was : server.getMatch matchId with
  | none => exact .inr (.inl was)
  | some game =>
      exact .inr (.inr ⟨game, _, _, abandonMatch_concludes lib env userId server was,
        abandonMatch_ends lib env was⟩)

theorem Concluding.outcome {before after : Server}
    (concluding : Concluding lib env matchId before after) : Outcome matchId before after := by
  cases concluding with
  | finalShot _ token target => exact handleMove_outcome token target
  | resigned _ token => exact handleResign_outcome token
  | drawAgreed _ token => exact handleDrawResponse_outcome token
  | timedOut => exact timeOutMatch_outcome
  | disconnected _ _ userId => exact abandonMatch_outcome userId

end Outcomes

end Server

def Accounts.Undrawn (accounts : Accounts) : Prop :=
  ∀ matchId, accounts.results matchId ≠ (0, .completed)

theorem Accounts.undrawn_opening : opening.Undrawn := by simp [Undrawn, opening]

theorem Accounts.post_undrawn (accounts : Accounts) (effect : MatchEffect)
    (undrawn : accounts.Undrawn) : (accounts.post effect).Undrawn := by
  intro matchId
  cases effect with
  | concluded | eloUpdated => exact undrawn matchId
  | recorded named winnerId =>
      simp only [post]
      split
      · exact undrawn matchId
      next winner =>
        simp only [Function.update_apply]
        split
        · simp [winner]
        · exact undrawn matchId

namespace Server

section Records

variable {lib : Externals} {env : Env} {matchId : MatchId} {server before after : Server}

theorem Reachable.undrawn (reachable : server.Reachable lib) : server.accounts.Undrawn := by
  rw [reachable.accounts_eq]
  exact Machine.invariant Accounts.post Accounts.undrawn_opening Accounts.post_undrawn _

theorem Edits.undrawn {later : Server} (edits : Edits env server later)
    (good : server.db.WellFormed) (undrawn : server.accounts.Undrawn) : later.accounts.Undrawn := by
  obtain ⟨added, _, moved⟩ := edits.posts good
  rw [moved]
  exact Machine.invariant Accounts.post undrawn Accounts.post_undrawn added

theorem timeOutMatch_edits (good : server.WellFormed) (matchId : MatchId) :
    Edits env server (server.timeOutMatch lib env matchId) := by
  unfold timeOutMatch
  split
  · exact Edits.refl server
  next found => exact finishStored_edits lib env good found (.inr ⟨_, rfl⟩) ..

theorem timeOutMatches_edits (good : server.WellFormed) (matchIds : List MatchId) :
    Edits env server
      (matchIds.foldl (fun server matchId => server.timeOutMatch lib env matchId) server) :=
  foldl_edits env good (fun later matchId fine =>
    ⟨timeOutMatch_wellFormed lib env later matchId fine, timeOutMatch_edits fine matchId⟩) matchIds

theorem abandonMatches_edits (good : server.WellFormed) (userId : UserId)
    (matchIds : List MatchId) : Edits env server
      (matchIds.foldl (fun server matchId => server.abandonMatch lib env userId matchId) server) :=
  foldl_edits env good (fun later matchId fine =>
    ⟨abandonMatch_wellFormed lib env userId later matchId fine,
      abandonMatch_edits lib env fine userId matchId⟩) matchIds

theorem unlisted_wellFormed (good : server.WellFormed) (fd : Fd) :
    (server.unlisted fd).WellFormed := ⟨good.db, good.games, good.challenges⟩

theorem Concluding.before_sound (concluding : Concluding lib env matchId before after) :
    before.WellFormed ∧ before.accounts.Undrawn := by
  cases concluding with
  | finalShot reachable => exact ⟨reachable.wellFormed, reachable.undrawn⟩
  | resigned reachable => exact ⟨reachable.wellFormed, reachable.undrawn⟩
  | drawAgreed reachable => exact ⟨reachable.wellFormed, reachable.undrawn⟩
  | @timedOut server reachable early =>
      have good := reachable.wellFormed
      refine ⟨?_, (timeOutMatches_edits good early).undrawn good.db reachable.undrawn⟩
      exact List.foldlRecOn (motive := WellFormed) _ _ good fun later fine matchId _ =>
        timeOutMatch_wellFormed lib env later matchId fine
  | @disconnected server reachable fd userId early =>
      have good := unlisted_wellFormed reachable.wellFormed fd
      refine ⟨?_, (abandonMatches_edits good userId early).undrawn good.db reachable.undrawn⟩
      exact List.foldlRecOn (motive := WellFormed) _ _ good fun later fine matchId _ =>
        abandonMatch_wellFormed lib env userId later matchId fine

theorem Concluding.edits (concluding : Concluding lib env matchId before after) :
    Edits env before after := by
  have good := concluding.before_sound.1
  cases concluding with
  | finalShot _ token target => exact handleMove_edits lib env good token matchId target
  | resigned _ token => exact handleResign_edits lib env good token matchId
  | drawAgreed _ token => exact handleDrawResponse_edits lib env good token matchId true
  | timedOut => exact timeOutMatch_edits good matchId
  | disconnected _ _ userId => exact abandonMatch_edits lib env good userId matchId

theorem Concludes.unique {first second : MatchState} {winner winner' : UserId}
    {reason reason' : MatchEndReason} (one : Concludes matchId first winner reason before after)
    (other : Concludes matchId second winner' reason' before after) :
    first = second ∧ winner = winner' ∧ reason = reason' := by
  have same := List.append_cancel_left (one.endings.symm.trans other.endings)
  exact ⟨Option.some.inj (one.was.symm.trans other.was), by simpa using same⟩

theorem Concludes.not_untouched {game : MatchState} {winnerId : UserId} {reason : MatchEndReason}
    (done : Concludes matchId game winnerId reason before after) :
    ¬Untouched matchId before after := by
  intro kept
  simpa [done.gone, done.was] using kept.game

theorem Concluding.winner_iff (concluding : Concluding lib env matchId before after)
    {game : MatchState} {winnerId : UserId} {reason : MatchEndReason}
    (done : Concludes matchId game winnerId reason before after) :
    winnerId ≠ 0 ↔ reason ≠ .drawAgreed := by
  have good := concluding.before_sound.1
  have opponent (userId : UserId) : game.opponent userId ≠ 0 :=
    Nat.ne_of_gt (good.db.users _ (((good.games.active matchId game done.was).stored
      good.db).opponent userId)).1
  have still := done.not_untouched
  cases concluding with
  | finalShot _ token target =>
      rcases handleMove_change lib env before token matchId target matchId with
        kept | ⟨_, valid, _, _, _, ⟨_, running⟩ | ended⟩
      · exact absurd kept still
      · simp [done.gone] at running
      · obtain ⟨rfl, rfl, rfl⟩ := ended.unique done
        simpa using valid
  | resigned _ token =>
      rcases handleResign_change lib env before token matchId matchId with kept | ⟨_, _, _, ended⟩
      · exact absurd kept still
      · obtain ⟨rfl, rfl, rfl⟩ := ended.unique done
        simpa using opponent _
  | drawAgreed _ token =>
      rcases handleDrawResponse_change lib env before token matchId true matchId with
        kept | ⟨_, _, _, _, ended⟩
      · exact absurd kept still
      · obtain ⟨rfl, rfl, rfl⟩ := ended.unique done
        simp
  | timedOut =>
      obtain ⟨-, rfl, rfl⟩ := (timeOutMatch_concludes lib env _ done.was).unique done
      simpa using opponent _
  | disconnected _ _ userId =>
      obtain ⟨-, rfl, rfl⟩ := (abandonMatch_concludes lib env userId _ done.was).unique done
      simpa using opponent _

/-- The end of a match is on record as it is announced exactly when it is not a draw. -/
theorem recorded_iff (concluding : Concluding lib env matchId before after) {game : MatchState}
    {winnerId : UserId} {reason : MatchEndReason}
    (done : Concludes matchId game winnerId reason before after) :
    Recorded matchId game winnerId before after ↔ reason ≠ .drawAgreed := by
  obtain ⟨good, undrawn⟩ := concluding.before_sound
  rw [← concluding.winner_iff done]
  rcases concluding.outcome with running | inactive | ⟨found, winner, how, ended, ends⟩
  · exact absurd done.gone running
  · exact absurd (inactive.symm.trans done.was) (by simp)
  · obtain ⟨rfl, rfl, rfl⟩ := ended.unique done
    have fine := good.games.active matchId found ended.was
    obtain ⟨row, known, player1, player2⟩ := fine.row
    have distinct : found.player1Id ≠ found.player2Id := by
      rw [player1, player2]
      exact (good.db.players matchId row known).1
    exact ends.onRecord_iff env good.db (fine.stored good.db) distinct concluding.edits
      fun _ => undrawn matchId

end Records

section Steps

variable {lib : Externals} {matchId : MatchId} {server : Server}

/-- A match that a loop concludes is active until its turn comes, and gone after it. -/
theorem foldl_concluding {body : Server → MatchId → Server} {winner : MatchState → UserId}
    {reason : MatchEndReason}
    (other : ∀ server matchId another, matchId ≠ another →
      Untouched another server (body server matchId))
    (ends : ∀ (server : Server) matchId game, server.getMatch matchId = some game →
      Concludes matchId game (winner game) reason server (body server matchId))
    {matchIds : List MatchId} (distinct : matchIds.Nodup) (listed : matchId ∈ matchIds)
    {game : MatchState} (was : server.getMatch matchId = some game) :
    ∃ early late, matchIds = early ++ matchId :: late ∧
      Concludes matchId game (winner game) reason (early.foldl body server)
        (body (early.foldl body server) matchId) := by
  obtain ⟨early, late, split⟩ := List.append_of_mem listed
  rw [split, List.nodup_append] at distinct
  have unlisted : matchId ∉ early := fun member => distinct.2.2 matchId member matchId (by simp) rfl
  have kept := (foldl_concludes other ends early distinct.1 server matchId).1 unlisted
  exact ⟨early, late, split, ends _ _ _ (kept.game.trans was)⟩

theorem removeClient_concluding (reachable : server.Reachable lib) {env : Env} {fd : Fd}
    {game : MatchState} {winnerId : UserId} {reason : MatchEndReason}
    (done : Concludes matchId game winnerId reason server (server.removeClient lib env fd)) :
    ∃ before after, Concluding lib env matchId before after ∧
      Concludes matchId game winnerId reason before after := by
  have erased : server.KeepsMatches (server.unlisted fd) :=
    (KeepsMatches.refl server).withNet (Network.erase_transmits server.net fd)
  cases found : server.net.clients[fd]? with
  | none =>
      simp only [removeClient, found] at done
      exact absurd (.refl matchId server) done.not_untouched
  | some conn =>
      cases known : server.net.connections[conn]? with
      | none =>
          simp only [removeClient, found, known] at done
          exact absurd (erased.untouched matchId) done.not_untouched
      | some client =>
          cases authenticated : client.authenticated with
          | false =>
              simp only [removeClient, found, known, authenticated, Bool.false_eq_true,
                if_false] at done
              exact (done.not_untouched ((erased.untouched matchId).trans ⟨⟨rfl, rfl⟩, rfl⟩)).elim
          | true =>
              obtain ⟨start, rfl, shape⟩ := removeClient_eq lib env found known authenticated
              rw [shape] at done
              have ended : Concludes matchId game winnerId reason (server.unlisted fd)
                  ((server.unlisted fd).handlePlayerDisconnect lib env client.userId) :=
                ⟨done.was, done.gone, done.endings⟩
              rcases handlePlayerDisconnect_change lib env client.userId (server.unlisted fd)
                matchId with ⟨kept, _⟩ | ⟨found, seated, ending⟩
              · exact absurd kept ended.not_untouched
              · obtain ⟨rfl, rfl, rfl⟩ := ending.unique ended
                obtain ⟨early, late, split, concludes⟩ := foldl_concluding
                  (fun server matchId another => abandonMatch_untouched lib env client.userId server)
                  (fun server matchId game => abandonMatch_concludes lib env client.userId server)
                  (Table.keysWhere_nodup (server.unlisted fd).games.activeMatches fun game =>
                    decide (game.player1Id = client.userId ∨ game.player2Id = client.userId))
                  (Table.mem_keysWhere.mpr ⟨found, ending.was, by simpa using seated⟩) ending.was
                exact ⟨_, _, .disconnected reachable fd client.userId split, concludes⟩

theorem checkTurnTimeouts_concluding (reachable : server.Reachable lib) {env : Env}
    {game : MatchState} (was : server.getMatch matchId = some game)
    (late : game.isTurnTimedOut env.now = true) :
    ∃ before after, Concluding lib env matchId before after ∧
      Concludes matchId game (game.opponent game.currentTurnPlayerId) .timeout before after := by
  obtain ⟨early, rest, split, concludes⟩ := foldl_concluding
    (fun server matchId another => timeOutMatch_untouched lib env server)
    (fun server matchId game => timeOutMatch_concludes lib env server)
    (Table.keysWhere_nodup server.games.activeMatches fun game => game.isTurnTimedOut env.now)
    (Table.mem_keysWhere.mpr ⟨game, was, late⟩) was
  exact ⟨_, _, .timedOut reachable split, concludes⟩

/-- Whatever step concludes a match does so in one of the five ways. -/
theorem step_concluding (reachable : server.Reachable lib) {event : Event} {game : MatchState}
    {winnerId : UserId} {reason : MatchEndReason}
    (done : Concludes matchId game winnerId reason server (server.step lib event)) :
    ∃ before after, Concluding lib event.env matchId before after ∧
      Concludes matchId game winnerId reason before after := by
  cases step_change lib reachable.wellFormed event matchId with
  | untouched kept => exact absurd kept done.not_untouched
  | restarted _ quiet _ => exact absurd (quiet.endings.symm.trans done.endings) (by simp)
  | activated _ _ running => simp [done.gone] at running
  | moved _ _ running => simp [done.gone] at running
  | concluded ended winner how cause concludes =>
      obtain ⟨rfl, rfl, rfl⟩ := concludes.unique done
      cases how with
      | normal =>
          obtain ⟨token, target, handled, _⟩ := cause
          obtain ⟨conn, client, _, _, stepped⟩ := handled.step_eq lib
          rw [stepped] at done
          exact ⟨_, _, .finalShot reachable token target, done⟩
      | resign =>
          obtain ⟨token, handled, _⟩ := cause
          obtain ⟨conn, client, _, _, stepped⟩ := handled.step_eq lib
          rw [stepped] at done
          exact ⟨_, _, .resigned reachable token, done⟩
      | drawAgreed =>
          obtain ⟨_, token, handled, _⟩ := cause
          obtain ⟨conn, client, _, _, stepped⟩ := handled.step_eq lib
          rw [stepped] at done
          exact ⟨_, _, .drawAgreed reachable token, done⟩
      | timeout =>
          obtain ⟨_, late, rfl⟩ := cause
          exact checkTurnTimeouts_concluding reachable done.was late
      | disconnect =>
          obtain ⟨conn, userId, acted, _⟩ := cause
          simp only [step, acted] at done
          split at done
          · exact absurd (.refl matchId server) done.not_untouched
          next client _ =>
            split at done
            · have removed : Concludes matchId ended winner .disconnect server
                  (server.removeClient lib event.env client.threadFd) :=
                ⟨done.was, done.gone, done.endings⟩
              exact removeClient_concluding reachable removed
            · exact absurd (.refl matchId server) done.not_untouched

end Steps

end Server

namespace Script

open Server

theorem resigned_recorded_iff : ∃ game, (after lib duel).getMatch 1 = some game ∧
    (Recorded 1 game (game.opponent ((after lib duel).sessionUser (env 5) (token alice)))
      (after lib duel) ((after lib duel).handleResign lib (env 5) (token alice) 1) ↔
        MatchEndReason.resign ≠ .drawAgreed) := by
  obtain ⟨game, active⟩ : ∃ game, (after lib duel).getMatch 1 = some game :=
    Option.isSome_iff_exists.mp (by decide +kernel)
  have session : (after lib duel).sessionUser (env 5) (token alice) ≠ 0 := by decide +kernel
  exact ⟨game, active, recorded_iff (.resigned (after_reachable lib duel) (token alice))
    (handleResign_concludes lib (env 5) active session)⟩

/-- The update that records a draw names user `0` as the winner and fails. -/
theorem drawn_not_recorded : ¬∀ (lib : Externals) (env : Env) (matchId : MatchId)
    (before after : Server) (game : MatchState) (winnerId : UserId) (reason : MatchEndReason),
    Concluding lib env matchId before after → Concludes matchId game winnerId reason before after →
      Recorded matchId game winnerId before after := by
  intro all
  obtain ⟨game, active⟩ : ∃ game, (after lib duel).getMatch 1 = some game :=
    Option.isSome_iff_exists.mp (by decide +kernel)
  have session : (after lib duel).sessionUser (env 5) (token bob) ≠ 0 := by decide +kernel
  have recorded := all lib (env 5) 1 _ _ game 0 .drawAgreed
    (.drawAgreed (after_reachable lib duel) (token bob))
    (handleDrawResponse_concludes lib (env 5) active session)
  obtain ⟨row, found, completed, _⟩ := recorded.row
  have waiting : (((after lib duel).handleDrawResponse lib (env 5) (token bob) 1
      true).db.matchRows[1]?).map Match.status = some .waiting := by decide +kernel
  simp [found, completed] at waiting

end Script

end Battleship
