import Battleship.ServerRuns
import Mathlib.Logic.Relation

/-! What a step is made of. Every step but the acceptance of a connection and a
restart is a chain of six kinds of changes; a property of runs is shown for each
kind. -/

namespace Battleship

open Decimal (Text)

structure Stored (db : Database) (matchId : MatchId) (game : MatchState) : Prop where
  row : ∃ row : Match, db.matchRows[matchId]? = some row
  player1 : db.HasUser game.player1Id
  player2 : db.HasUser game.player2Id

theorem ActiveMatch.stored {db : Database} {games : Games} {matchId : MatchId} {game : MatchState}
    (fine : ActiveMatch db games matchId game) (good : db.WellFormed) : Stored db matchId game := by
  obtain ⟨row, found, same1, same2⟩ := fine.row
  obtain ⟨_, known1, known2⟩ := good.players matchId row found
  exact ⟨⟨row, found⟩, same1 ▸ known1, same2 ▸ known2⟩

theorem Database.Grows.hasUser {db later : Database} (grows : db.Grows later) {userId : UserId}
    (known : db.HasUser userId) : later.HasUser userId := by
  obtain ⟨user, found⟩ := Option.isSome_iff_exists.mp known
  obtain ⟨user', found', _⟩ := grows.users userId user found
  exact Option.isSome_iff_exists.mpr ⟨user', found'⟩

namespace Stored

variable {db later : Database} {matchId : MatchId} {game : MatchState}

theorem grows (stored : Stored db matchId game) (grows : db.Grows later) :
    Stored later matchId game := by
  obtain ⟨row, found⟩ := stored.row
  obtain ⟨row', found', _⟩ := grows.matchRows matchId row found
  exact ⟨⟨row', found'⟩, grows.hasUser stored.player1, grows.hasUser stored.player2⟩

theorem seated (stored : Stored db matchId game) {userId : UserId}
    (seat : userId = game.player1Id ∨ userId = game.player2Id) : db.HasUser userId := by
  rcases seat with rfl | rfl
  · exact stored.player1
  · exact stored.player2

theorem opponent (stored : Stored db matchId game) (userId : UserId) :
    db.HasUser (game.opponent userId) := stored.seated (game.opponent_seat userId)

theorem of_players {changed : MatchState} (stored : Stored db matchId game)
    (player1 : changed.player1Id = game.player1Id) (player2 : changed.player2Id = game.player2Id) :
    Stored db matchId changed :=
  ⟨stored.row, player1 ▸ stored.player1, player2 ▸ stored.player2⟩

end Stored

namespace Server

/-- One change. What is on account of a match is about a match that has its rows. -/
inductive Edit (env : Env) (server : Server) : Server → Prop
  | quiet {later : Server} (kept : server.KeepsMatches later) : Edit env server later
  | games (games : Games) : Edit env server { server with games := games }
  | sends {net : Network} (transmits : server.net.Transmits (fun _ => True) net) :
      Edit env server { server with net := net }
  | announced (matchId : MatchId) (winnerId : UserId) (reason : MatchEndReason) :
      Edit env server (server.announceEnd matchId winnerId reason)
  | rated (matchId : MatchId) {userId : UserId} (known : server.db.HasUser userId) (newElo : Int) :
      Edit env server (server.updateEloRating matchId userId newElo)
  | recorded {matchId : MatchId} {row : Match} (found : server.db.matchRows[matchId]? = some row)
      {winnerId : UserId} (winner : winnerId = 0 ∨ server.db.HasUser winnerId) :
      Edit env server (server.endMatch env matchId winnerId)

def Edits (env : Env) : Server → Server → Prop := Relation.ReflTransGen (Edit env)

namespace Edits

variable {env : Env} {server later : Server}

theorem refl (server : Server) : Edits env server server := Relation.ReflTransGen.refl

theorem trans {first second third : Server} (early : Edits env first second)
    (late : Edits env second third) : Edits env first third := Relation.ReflTransGen.trans early late

variable (edits : Edits env server later)

include edits

theorem quiet {last : Server} (kept : later.KeepsMatches last) : Edits env server last :=
  edits.tail (.quiet kept)

theorem games (games : Games) : Edits env server { later with games := games } :=
  edits.tail (.games games)

theorem sends {net : Network} (transmits : later.net.Transmits (fun _ => True) net) :
    Edits env server { later with net := net } :=
  edits.tail (.sends transmits)

theorem announced (matchId : MatchId) (winnerId : UserId) (reason : MatchEndReason) :
    Edits env server (later.announceEnd matchId winnerId reason) :=
  edits.tail (.announced matchId winnerId reason)

theorem rated (matchId : MatchId) {userId : UserId} (known : later.db.HasUser userId)
    (newElo : Int) : Edits env server (later.updateEloRating matchId userId newElo) :=
  edits.tail (.rated matchId known newElo)

theorem recorded {matchId : MatchId} {row : Match} (found : later.db.matchRows[matchId]? = some row)
    {winnerId : UserId} (winner : winnerId = 0 ∨ later.db.HasUser winnerId) :
    Edits env server (later.endMatch env matchId winnerId) :=
  edits.tail (.recorded found winner)

end Edits

theorem KeepsMatches.edits {env : Env} {server later : Server} (kept : server.KeepsMatches later) :
    Edits env server later :=
  (Edits.refl server).quiet kept

theorem Edit.db_sound {env : Env} {server later : Server} (edit : Edit env server later) :
    server.db.Sound later.db := by
  cases edit with
  | quiet kept => exact kept.db.toSound
  | games games => exact Database.Sound.refl _
  | sends transmits => exact Database.Sound.refl _
  | announced matchId winnerId reason => exact Database.Sound.refl _
  | rated matchId known newElo => exact Database.sound_updateEloRating _ newElo
  | recorded found winner => exact Database.sound_endMatch _ _ _

theorem Edits.db_sound {env : Env} {server later : Server} (edits : Edits env server later) :
    server.db.Sound later.db := by
  induction edits with
  | refl => exact Database.Sound.refl _
  | tail _ edit early => exact early.trans edit.db_sound

section Handlers

variable (lib : Externals) (env : Env)

section Endings

variable (matchId : MatchId) (server : Server)

theorem sendMatchEnd_edits {player1Id player2Id : UserId} (known1 : server.db.HasUser player1Id)
    (known2 : server.db.HasUser player2Id) (winnerId : UserId) (reason : MatchEndReason)
    (reasonText : String) (totalMoves : Int) (duration : Nat) :
    Edits env server (server.sendMatchEnd lib env matchId player1Id player2Id winnerId reason
      reasonText totalMoves duration) := by
  let elos := server.ratings lib player1Id player2Id winnerId
  have known2' : (server.db.updateEloRating player1Id elos.1).HasUser player2Id :=
    (Database.hasUser_modify ..).mpr known2
  have concluded : Edits env server (server.announceEnd matchId winnerId reason) :=
    (Edits.refl server).announced matchId winnerId reason
  have rated := (concluded.rated matchId known1 elos.1).rated matchId known2' elos.2
  exact (rated.sends (sendToPlayer_transmits env _ fun _ => trivial)).sends
    (sendToPlayer_transmits env _ fun _ => trivial)

variable {game : MatchState} {winnerId : UserId}

theorem finishMatch_edits (good : server.db.WellFormed) (stored : Stored server.db matchId game)
    (winner : winnerId = 0 ∨ server.db.HasUser winnerId) (reason : MatchEndReason)
    (reasonText : String) :
    Edits env server (server.finishMatch lib env matchId game winnerId reason reasonText) := by
  have announced := sendMatchEnd_edits lib env matchId server stored.player1 stored.player2 winnerId
    reason reasonText game.moveHistory.length (secondsSince env.now game.startTime)
  have grows := (announced.db_sound.keeps good).2
  obtain ⟨row, found⟩ := (stored.grows grows).row
  have recorded := announced.recorded found (winner.imp_right grows.hasUser)
  have released := (recorded.quiet ((KeepsMatches.refl _).updatePlayerStatus env game.player1Id
    .available)).quiet ((KeepsMatches.refl _).updatePlayerStatus env game.player2Id .available)
  exact released.games _

theorem abandonMatch_edits {server : Server} (good : server.WellFormed) (userId : UserId)
    (matchId : MatchId) : Edits env server (server.abandonMatch lib env userId matchId) := by
  cases was : server.getMatch matchId with
  | none =>
      rw [abandonMatch_of_none lib env userId server was]
      exact Edits.refl server
  | some game =>
      obtain ⟨duration, shape⟩ := abandonMatch_of_some lib env userId server was
      rw [shape]
      have stored := (good.games.active matchId game was).stored good.db
      obtain ⟨row, found⟩ := stored.row
      have recorded : Edits env server (server.endMatch env matchId (game.opponent userId)) :=
        (Edits.refl server).recorded found (Or.inr (stored.opponent userId))
      have later := stored.grows (recorded.db_sound.keeps good.db).2
      have announced := sendMatchEnd_edits lib env matchId _ later.player1 later.player2
        (game.opponent userId) .disconnect "Opponent disconnected" game.turnNumber duration
      exact ((recorded.trans announced).games _).quiet
        ((KeepsMatches.refl _).updatePlayerStatus env (game.opponent userId) .available)

end Endings

theorem activateMatch_edits (server : Server) (matchId : MatchId) (player1Id player2Id : UserId) :
    Edits env server (server.activateMatch env matchId player1Id player2Id) := by
  rw [activateMatch_eq]
  have started : Edits env server ((server.createMatch matchId player1Id player2Id).setMatch matchId
      (server.activated env matchId player1Id player2Id)) := (Edits.refl server).games _
  exact (started.quiet (sendMatchReady_keeps ..)).quiet (sendTurnUpdate_keeps ..)

theorem placementReady_edits (matchId : MatchId) (userId : UserId) (server : Server) :
    Edits env server (server.placementReady env matchId userId) := by
  have marked : Edits env server (server.markReady matchId userId) := (Edits.refl server).games _
  simp only [placementReady]
  split
  · exact marked
  split
  · exact marked.trans (activateMatch_edits env _ matchId _ _)
  · exact marked

theorem handleShipPlacement_edits {server : Server} (good : server.WellFormed) (token : Text)
    (matchId : MatchId) (ships : Vector Ship numShips) (clientFd : Option Fd) :
    Edits env server (server.handleShipPlacement env token matchId ships clientFd) := by
  by_cases accepted : server.AcceptsPlacement env token matchId ships
  · rw [handleShipPlacement_accepted env good clientFd accepted]
    exact (keeps_placementSaved env token matchId ships clientFd server).edits.trans
      (placementReady_edits env matchId _ _)
  · exact (handleShipPlacement_refused env clientFd accepted).edits

theorem movePlayed_edits (matchId : MatchId) (game : MatchState) (userId : UserId)
    (target : Coordinate) (server : Server) :
    Edits env server (server.movePlayed env matchId game userId target) := by
  have played : Edits env server (server.setMatch matchId (game.processMove env.now userId target).1) :=
    (Edits.refl server).games _
  exact played.quiet ((((KeepsMatches.refl _).sendToPlayer env rfl _ userId).sendToPlayer env rfl _
    (game.opponent userId)).withDb (Database.kept_saveMove ..))

theorem playMove_edits {server : Server} (good : server.WellFormed) {matchId : MatchId}
    {game : MatchState} (found : server.getMatch matchId = some game) (target : Coordinate) :
    Edits env server (server.playMove lib env matchId game game.currentTurnPlayerId target) := by
  have fine := good.games.active matchId game found
  have moved := movePlayed_edits env matchId game game.currentTurnPlayerId target server
  obtain ⟨later, grows⟩ := moved.db_sound.keeps good.db
  rw [playMove_eq]
  split
  · obtain ⟨player1, player2⟩ := game.receive_players ⟨env.now, game.currentTurnPlayerId, target⟩
    have stored := (fine.stored good.db).grows grows
    exact moved.trans (finishMatch_edits lib env matchId _ later
      (stored.of_players player1 player2) (Or.inr (stored.seated fine.turn)) ..)
  · exact moved.quiet (sendTurnUpdate_keeps env matchId _ _ _)

section Messages

variable {server : Server} (good : server.WellFormed) (token : Text)

include good

theorem validated_wellFormed : (server.validateSession env token).1.WellFormed :=
  good.of_keepsMatches (keeps_validated env server token) rfl

theorem handleMove_edits (matchId : MatchId) (target : Coordinate) :
    Edits env server (server.handleMove lib env token matchId target) := by
  have checked : Edits env server _ := (keeps_validated env server token).edits
  unfold handleMove
  dsimp only
  split
  · exact checked
  split
  · exact checked
  next game found =>
    split
    · exact checked
    next turn =>
      rw [ne_eq, not_not] at turn
      rw [← turn]
      exact checked.trans (playMove_edits lib env (validated_wellFormed env good token) found target)

theorem finishStored_edits {matchId : MatchId} {game : MatchState}
    (found : server.getMatch matchId = some game) {winnerId : UserId}
    (winner : winnerId = 0 ∨ ∃ userId, winnerId = game.opponent userId) (reason : MatchEndReason)
    (reasonText : String) :
    Edits env server (server.finishMatch lib env matchId game winnerId reason reasonText) := by
  have stored := (good.games.active matchId game found).stored good.db
  refine finishMatch_edits lib env matchId server good.db stored (winner.imp_right ?_) ..
  rintro ⟨userId, rfl⟩
  exact stored.opponent userId

theorem handleResign_edits (matchId : MatchId) :
    Edits env server (server.handleResign lib env token matchId) := by
  have checked : Edits env server _ := (keeps_validated env server token).edits
  unfold handleResign
  dsimp only
  split
  · exact checked
  split
  · exact checked
  next found => exact checked.trans (finishStored_edits lib env (validated_wellFormed env good token)
      found (Or.inr ⟨_, rfl⟩) ..)

theorem handleDrawResponse_edits (matchId : MatchId) (accepted : Bool) :
    Edits env server (server.handleDrawResponse lib env token matchId accepted) := by
  have checked : Edits env server _ := (keeps_validated env server token).edits
  unfold handleDrawResponse
  dsimp only
  split
  · exact checked
  split
  · exact checked
  next found =>
    split
    · exact checked.trans (finishStored_edits lib env (validated_wellFormed env good token) found
        (Or.inl rfl) ..)
    · exact ((keeps_validated env server token).sendToPlayer env rfl _ _).edits

end Messages

section Loops

variable {server : Server} (good : server.WellFormed)

include good

theorem foldl_edits {body : Server → MatchId → Server}
    (edits : ∀ server matchId, server.WellFormed →
      (body server matchId).WellFormed ∧ Edits env server (body server matchId))
    (matchIds : List MatchId) : Edits env server (matchIds.foldl body server) := by
  have both : (matchIds.foldl body server).WellFormed ∧
      Edits env server (matchIds.foldl body server) := by
    refine List.foldlRecOn (motive := fun later => later.WellFormed ∧ Edits env server later)
      matchIds body ⟨good, Edits.refl server⟩ ?_
    intro later early matchId _
    obtain ⟨kept, next⟩ := edits later matchId early.1
    exact ⟨kept, early.2.trans next⟩
  exact both.2

theorem checkTurnTimeouts_edits : Edits env server (server.checkTurnTimeouts lib env) := by
  refine foldl_edits env good (fun later matchId fine => ?_) _
  refine ⟨timeOutMatch_wellFormed lib env later matchId fine, ?_⟩
  simp only [timeOutMatch]
  split
  · exact Edits.refl later
  next found => exact finishStored_edits lib env fine found (Or.inr ⟨_, rfl⟩) ..

theorem handlePlayerDisconnect_edits (userId : UserId) :
    Edits env server (server.handlePlayerDisconnect lib env userId) :=
  foldl_edits env good (fun later matchId fine =>
    ⟨abandonMatch_wellFormed lib env userId later matchId fine,
      abandonMatch_edits lib env fine userId matchId⟩) _

theorem removeClient_edits (fd : Fd) : Edits env server (server.removeClient lib env fd) := by
  unfold removeClient
  split
  · exact Edits.refl server
  next conn _ =>
    let erased : Server := { server with
      net := { server.net with clients := server.net.clients.erase fd } }
    have kept : Edits env server erased :=
      (Edits.refl server).sends (Network.erase_transmits server.net fd)
    have fine : erased.WellFormed := ⟨good.db, good.games, good.challenges⟩
    dsimp only
    split
    · exact kept
    next client _ =>
      split
      · have ended := kept.trans (handlePlayerDisconnect_edits lib env fine client.userId)
        have removed := ended.quiet ((KeepsMatches.refl _).removePlayer env client.userId)
        exact removed.sends (Network.disconnect_transmits _ conn)
      · exact kept.sends (Network.disconnect_transmits _ conn)

end Loops

theorem routeMessage_edits {server : Server} (good : server.WellFormed) (conn : ConnId)
    (client : ClientConnection) (token : Text) (request : Request) :
    Edits env server (server.routeMessage lib env conn client token request) := by
  cases request with
  | ping => exact ((KeepsMatches.refl server).sendOn env rfl _ conn).edits
  | register username password displayName =>
      exact (handleRegister_aside lib env server conn ..).keepsMatches.edits
  | login username password => exact (handleLogin_aside lib env server conn ..).keepsMatches.edits
  | logout sessionToken =>
      exact (handleLogout_aside env server conn client sessionToken).keepsMatches.edits
  | validateSession sessionToken =>
      exact (handleValidateSession_aside env server conn sessionToken).keepsMatches.edits
  | playerListRequest => exact (keeps_playerListRequest env server conn).edits
  | challengeSend targetUserId timeLimit randomPlacement =>
      simp only [routeMessage, handleChallengeSend]
      split
      · exact (keeps_sendChallenge env server _ _).edits
      · exact Edits.refl server
  | challengeResponse challengeId accepted =>
      simp only [routeMessage, handleChallengeResponse]
      split
      · exact (keeps_respondToChallenge env good _ _).edits
      · exact Edits.refl server
  | shipPlacement matchId ships =>
      exact handleShipPlacement_edits env good token matchId ships client.socketFd
  | move matchId target => exact handleMove_edits lib env good token matchId target
  | resign matchId => exact handleResign_edits lib env good token matchId
  | drawOffer matchId => exact (keeps_drawOffer env server token matchId).edits
  | drawResponse matchId accepted => exact handleDrawResponse_edits lib env good token matchId accepted
  | rematchRequest previousMatchId => exact (keeps_validated env server token).edits
  | rematchResponse previousMatchId accepted => exact (keeps_validated env server token).edits
  | unread type => exact Edits.refl server

inductive StepShape (server : Server) (event : Event) (later : Server) : Prop
  | edited (edits : Edits event.env server later)
  | accepted {fd : Fd} (free : server.descriptorFree fd = true)
      (opened : later = server.acceptConnection fd)
  | restarted (fresh : later = server.restarted)

theorem step_shape {server : Server} (good : server.WellFormed) (event : Event) :
    StepShape server event (server.step lib event) := by
  cases step_call lib server event with
  | idle _ stepped =>
      rw [stepped]
      exact .edited (Edits.refl server)
  | accepted fd _ free stepped => exact .accepted free stepped
  | routed conn client token request _ _ _ stepped =>
      rw [stepped]
      exact .edited (routeMessage_edits lib event.env good conn client token request)
  | receiveFailed conn _ stepped =>
      rw [stepped]
      exact .edited ((Edits.refl server).sends (Network.disconnect_transmits server.net conn))
  | removed conn client _ _ _ stepped =>
      rw [stepped]
      exact .edited ((removeClient_edits lib event.env good client.threadFd).sends
        (Network.modify_transmits _ conn (by simp)))
  | swept _ stepped =>
      rw [stepped]
      exact .edited (checkTurnTimeouts_edits lib event.env good)
  | restarted _ stepped => exact .restarted stepped

end Handlers

end Server

end Battleship
