import Battleship.People

/-! The time left that a TURN_UPDATE announces, and the clock of the turn. A
TURN_UPDATE follows every move, but only a miss sets the clock back; the time
announced is kept as long as every hit comes early enough in its turn. -/

namespace Battleship

open Decimal (Text)

def Payload.turnOf? : Payload → Option MatchId
  | turnUpdate matchId .. => some matchId
  | _ => .none

def NoTurnUpdate (message : Sent) : Prop := message.payload.turnOf? = none

def Network.lastTurnUpdate (net : Network) (matchId : MatchId) : Option Sent :=
  (net.sent.filter fun message => message.payload.turnOf? = some matchId).getLast?

theorem MatchState.playMove_clock {game : MatchState} (now : Nat) {playerId : UserId}
    {target : Coordinate}
    (afloat : ¬((game.targetBoard playerId).processShot target).1.allShipsSunk = true) :
    (game.playMove now playerId target).1.turnTimeLimit = game.turnTimeLimit ∧
      (((game.targetBoard playerId).processShot target).2 = .miss ∧
          (game.playMove now playerId target).1.turnStartTime = now ∨
        ((game.targetBoard playerId).processShot target).2 ≠ .miss ∧
          (game.playMove now playerId target).1.turnStartTime = game.turnStartTime) := by
  have untimed : (game.recorded now playerId target).turnTimeLimit = game.turnTimeLimit ∧
      (game.recorded now playerId target).turnStartTime = game.turnStartTime := by
    simp only [recorded, addMoveToHistory, setTargetBoard]
    split <;> exact ⟨rfl, rfl⟩
  rw [playMove_eq, if_neg afloat]
  split
  next missed => exact ⟨untimed.1, Or.inl ⟨missed, rfl⟩⟩
  next hit => exact ⟨untimed.1, Or.inr ⟨hit, untimed.2⟩⟩

namespace Server

structure KeepsTurns (server later : Server) : Prop where
  net : server.net.Transmits NoTurnUpdate later.net
  games : ∀ matchId game, later.getMatch matchId = some game → server.getMatch matchId = some game

theorem Aside.keepsTurns {server later : Server} (aside : server.Aside later) :
    server.KeepsTurns later := by
  refine ⟨aside.net.mono ?_, fun matchId game found => ?_⟩
  · rintro ⟨conn, header, payload⟩ clerical
    cases payload <;> first | rfl | exact clerical.elim
  · rwa [getMatch, ← aside.games]

namespace KeepsTurns

variable (env : Env) {server later : Server}

theorem refl (server : Server) : server.KeepsTurns server :=
  ⟨Network.Transmits.refl _, fun _ _ found => found⟩

theorem trans {last : Server} (early : server.KeepsTurns later) (late : later.KeepsTurns last) :
    server.KeepsTurns last :=
  ⟨early.net.trans late.net, fun matchId game found =>
    early.games matchId game (late.games matchId game found)⟩

variable (kept : server.KeepsTurns later)

include kept

theorem withNet {net : Network} (transmits : later.net.Transmits NoTurnUpdate net) :
    server.KeepsTurns { later with net := net } :=
  kept.trans ⟨transmits, fun _ _ found => found⟩

theorem withDb (db : Database) : server.KeepsTurns { later with db := db } := ⟨kept.net, kept.games⟩

theorem withManager (manager : ChallengeManager) :
    server.KeepsTurns { later with manager := manager } := ⟨kept.net, kept.games⟩

theorem sendOn {payload : Payload} (other : payload.turnOf? = none) (header : MessageHeader)
    (conn : ConnId) : server.KeepsTurns (later.sendOn env header payload conn) :=
  kept.withNet (sendOn_transmits env later other)

theorem tellPlayer {payload : Payload} (other : payload.turnOf? = none) (header : MessageHeader)
    (userId : UserId) : server.KeepsTurns (later.tellPlayer env header payload userId) :=
  kept.withNet (tellPlayer_transmits env later fun _ => other)

theorem sendToPlayer {payload : Payload} (other : payload.turnOf? = none) (header : MessageHeader)
    (userId : UserId) : server.KeepsTurns (later.sendToPlayer env header payload userId) :=
  kept.withNet (sendToPlayer_transmits env later fun _ => other)

theorem sendToClient {payload : Payload} (other : payload.turnOf? = none) (header : MessageHeader)
    (fd : Option Fd) : server.KeepsTurns (later.sendToClient env header payload fd) :=
  kept.withNet (sendToClient_transmits env later fun _ _ => other)

theorem removePlayer (userId : UserId) : server.KeepsTurns (later.removePlayer env userId) :=
  kept.trans ⟨removePlayer_transmits env later (fun _ _ _ _ _ _ => rfl) .., fun _ _ found => found⟩

theorem updatePlayerStatus (userId : UserId) (status : PlayerStatus) :
    server.KeepsTurns (later.updatePlayerStatus env userId status) :=
  kept.trans ⟨updatePlayerStatus_transmits env later (fun _ _ _ _ _ _ => rfl) ..,
    fun _ _ found => found⟩

theorem removeMatch (matchId : MatchId) : server.KeepsTurns (later.removeMatch matchId) := by
  refine kept.trans ⟨Network.Transmits.refl _, ?_⟩
  intro other game found
  simp only [getMatch, Server.removeMatch, Table.lookup_erase] at found
  split at found
  · cases found
  · exact found

end KeepsTurns

section Handlers

variable (lib : Externals) (env : Env) {server : Server}

theorem validated_keepsTurns (server : Server) (token : Text) :
    server.KeepsTurns (server.validateSession env token).1 := (KeepsTurns.refl server).withDb _

theorem handleChallengeSend_keepsTurns (client : ClientConnection) (request : ChallengeRequest)
    (server : Server) : server.KeepsTurns (server.handleChallengeSend env client request) := by
  have same := KeepsTurns.refl server
  unfold handleChallengeSend sendChallenge
  split
  · split
    · exact same.tellPlayer env rfl _ _
    · exact (same.withManager _).tellPlayer env rfl _ _
  · exact same

theorem acceptChallenge_keepsTurns {later : Server} (kept : server.KeepsTurns later)
    (challenge : PendingChallenge) : server.KeepsTurns (later.acceptChallenge env challenge) := by
  have created := kept.withDb
    (later.db.createMatch env.now challenge.challengerId challenge.targetId).1
  unfold acceptChallenge
  dsimp only
  split
  · unfold announceMatch
    dsimp only
    exact (((created.tellPlayer env rfl _ _).tellPlayer env rfl _ _).updatePlayerStatus env
      _ _).updatePlayerStatus env _ _
  · exact created.tellPlayer env rfl _ _

theorem handleChallengeResponse_keepsTurns (client : ClientConnection)
    (response : ChallengeResponse) (server : Server) :
    server.KeepsTurns (server.handleChallengeResponse env client response) := by
  have same := KeepsTurns.refl server
  have taken := same.withManager
    (server.manager.takeChallenge client.userId response.challengeId).1
  unfold handleChallengeResponse respondToChallenge
  split
  case isFalse => exact same
  dsimp only
  split
  · exact same
  · exact same.tellPlayer env rfl _ _
  split
  · exact acceptChallenge_keepsTurns env taken _
  · exact taken.tellPlayer env rfl _ _

theorem sendMatchEnd_keepsTurns {later : Server} (kept : server.KeepsTurns later)
    (matchId : MatchId) (player1Id player2Id winnerId : UserId) (reason : MatchEndReason)
    (reasonText : String) (totalMoves : Int) (duration : Nat) :
    server.KeepsTurns (later.sendMatchEnd lib env matchId player1Id player2Id winnerId reason
      reasonText totalMoves duration) := by
  let elos := later.ratings lib player1Id player2Id winnerId
  have rated : server.KeepsTurns (((later.announceEnd matchId winnerId reason).updateEloRating
      matchId player1Id elos.1).updateEloRating matchId player2Id elos.2) := ⟨kept.net, kept.games⟩
  exact (rated.sendToPlayer env rfl _ _).sendToPlayer env rfl _ _

theorem endMatch_keepsTurns {later : Server} (kept : server.KeepsTurns later) (matchId : MatchId)
    (winnerId : UserId) : server.KeepsTurns (later.endMatch env matchId winnerId) :=
  ⟨kept.net, kept.games⟩

theorem finishMatch_keepsTurns {later : Server} (kept : server.KeepsTurns later) (matchId : MatchId)
    (game : MatchState) (winnerId : UserId) (reason : MatchEndReason) (reasonText : String) :
    server.KeepsTurns (later.finishMatch lib env matchId game winnerId reason reasonText) := by
  have announced := sendMatchEnd_keepsTurns lib env kept matchId game.player1Id game.player2Id
    winnerId reason reasonText game.moveHistory.length (secondsSince env.now game.startTime)
  have recorded := endMatch_keepsTurns env announced matchId winnerId
  exact ((recorded.updatePlayerStatus env _ _).updatePlayerStatus env _ _).removeMatch matchId

theorem timeOutMatch_keepsTurns {later : Server} (kept : server.KeepsTurns later)
    (matchId : MatchId) : server.KeepsTurns (later.timeOutMatch lib env matchId) := by
  unfold timeOutMatch
  split
  · exact kept
  · exact finishMatch_keepsTurns lib env kept ..

theorem checkTurnTimeouts_keepsTurns (server : Server) :
    server.KeepsTurns (server.checkTurnTimeouts lib env) :=
  List.foldlRecOn (motive := fun later => server.KeepsTurns later) _ _ (KeepsTurns.refl server)
    fun _ kept matchId _ => timeOutMatch_keepsTurns lib env kept matchId

theorem abandonMatch_keepsTurns {later : Server} (kept : server.KeepsTurns later)
    (userId : UserId) (matchId : MatchId) :
    server.KeepsTurns (later.abandonMatch lib env userId matchId) := by
  unfold abandonMatch
  split
  · exact kept
  next game _ =>
    have announced := sendMatchEnd_keepsTurns lib env
      (endMatch_keepsTurns env kept matchId (game.opponent userId)) matchId game.player1Id
      game.player2Id (game.opponent userId) .disconnect "Opponent disconnected" game.turnNumber
      (if game.startTime > 0 then secondsSince env.now game.startTime else 0)
    exact (announced.removeMatch matchId).updatePlayerStatus env _ _

theorem Removal.keepsTurns {fd : Fd} {server later : Server} {user : Option UserId}
    (removal : Removal lib env fd server user later) : server.KeepsTurns later := by
  cases removal with
  | nobody closes => exact (KeepsTurns.refl server).withNet closes.transmits
  | @user net last userId closes _ closed =>
      have unlisted := (KeepsTurns.refl server).withNet closes.transmits
      have ended : server.KeepsTurns
          ({ server with net := net }.handlePlayerDisconnect lib env userId) :=
        List.foldlRecOn (motive := fun later => server.KeepsTurns later) _ _ unlisted
          fun _ kept matchId _ => abandonMatch_keepsTurns lib env kept userId matchId
      exact (ended.removePlayer env userId).withNet closed.transmits

theorem handleResign_keepsTurns (token : Text) (matchId : MatchId) (server : Server) :
    server.KeepsTurns (server.handleResign lib env token matchId) := by
  have checked := validated_keepsTurns env server token
  unfold handleResign
  dsimp only
  split
  · exact checked
  split
  · exact checked
  · exact finishMatch_keepsTurns lib env checked ..

theorem handleDrawOffer_keepsTurns (token : Text) (matchId : MatchId) (server : Server) :
    server.KeepsTurns (server.handleDrawOffer env token matchId) := by
  have checked := validated_keepsTurns env server token
  unfold handleDrawOffer
  dsimp only
  split
  · exact checked
  split
  · exact checked
  · exact checked.sendToPlayer env rfl _ _

theorem handleDrawResponse_keepsTurns (token : Text) (matchId : MatchId) (accepted : Bool)
    (server : Server) : server.KeepsTurns (server.handleDrawResponse lib env token matchId accepted) := by
  have checked := validated_keepsTurns env server token
  unfold handleDrawResponse
  dsimp only
  split
  · exact checked
  split
  · exact checked
  split
  · exact finishMatch_keepsTurns lib env checked ..
  · exact checked.sendToPlayer env rfl _ _

end Handlers

def Announces (matchId : MatchId) (now : Nat) (message : Sent) : Prop :=
  ∀ other userId turnNumber timeLeft,
    message.payload = .turnUpdate other userId turnNumber timeLeft →
      other = matchId ∧ timeLeft = 20 ∧ message.header.timestamp = some now

structure Retimes (matchId : MatchId) (now : Nat) (server later : Server) : Prop where
  net : server.net.Transmits (Announces matchId now) later.net
  game : ∃ game, later.getMatch matchId = some game ∧ game.turnTimeLimit = 60 ∧
    (game.turnStartTime = now ∨ now + 20 ≤ game.turnStartTime + 60 ∧
      ∃ old, server.getMatch matchId = some old ∧ game.turnStartTime = old.turnStartTime)
  others : ∀ other game, matchId ≠ other → later.getMatch other = some game →
    server.getMatch other = some game

structure TurnsFit (now : Nat) (server : Server) : Prop where
  clock : ∀ matchId game, server.getMatch matchId = some game →
    game.turnTimeLimit = 60 ∧ game.turnStartTime ≤ now
  announced : ∀ message ∈ server.net.sent, ∀ matchId userId turnNumber timeLeft,
    message.payload = .turnUpdate matchId userId turnNumber timeLeft →
      timeLeft = 20 ∧ ∃ sentAt, message.header.timestamp = some sentAt ∧ sentAt ≤ now ∧
        ∀ game, server.getMatch matchId = some game → sentAt + 20 ≤ game.turnStartTime + 60

section Invariant

variable {server later : Server} {matchId : MatchId} {now : Nat}

theorem announces_of_noTurnUpdate {message : Sent} (silent : NoTurnUpdate message) (matchId : MatchId)
    (now : Nat) : Announces matchId now message := by
  intro other userId turnNumber timeLeft named
  simp [NoTurnUpdate, named, Payload.turnOf?] at silent

theorem KeepsTurns.retimes {middle : Server} (kept : server.KeepsTurns middle)
    (retimes : Retimes matchId now middle later) : Retimes matchId now server later := by
  obtain ⟨game, found, limit, clock⟩ := retimes.game
  have announces := kept.net.mono fun _ silent => announces_of_noTurnUpdate silent matchId now
  refine ⟨announces.trans retimes.net, ⟨game, found, limit, clock.imp_right ?_⟩, ?_⟩
  · rintro ⟨enough, old, was, same⟩
    exact ⟨enough, old, kept.games matchId old was, same⟩
  · exact fun other game different found =>
      kept.games other game (retimes.others other game different found)

theorem TurnsFit.mono {earlier : Nat} (fit : TurnsFit earlier server) (passed : earlier ≤ now) :
    TurnsFit now server where
  clock := fun matchId game found =>
    ⟨(fit.clock matchId game found).1, (fit.clock matchId game found).2.trans passed⟩
  announced := by
    intro message member matchId userId turnNumber timeLeft named
    obtain ⟨same, sentAt, stamped, before, fits⟩ :=
      fit.announced message member matchId userId turnNumber timeLeft named
    exact ⟨same, sentAt, stamped, before.trans passed, fits⟩

theorem turnsFit_of_keepsTurns (fit : TurnsFit now server) (kept : server.KeepsTurns later) :
    TurnsFit now later where
  clock := fun matchId game found => fit.clock matchId game (kept.games matchId game found)
  announced := by
    intro message member matchId userId turnNumber timeLeft named
    obtain ⟨added, split, silent⟩ := kept.net.sent
    rw [split] at member
    rcases List.mem_append.mp member with old | new
    · obtain ⟨same, sentAt, stamped, before, fits⟩ :=
        fit.announced message old matchId userId turnNumber timeLeft named
      exact ⟨same, sentAt, stamped, before, fun game found =>
        fits game (kept.games matchId game found)⟩
    · have none := silent message new
      simp [NoTurnUpdate, named, Payload.turnOf?] at none

theorem turnsFit_of_retimes (fit : TurnsFit now server) (retimes : Retimes matchId now server later) :
    TurnsFit now later := by
  obtain ⟨game, found, limit, clock⟩ := retimes.game
  constructor
  · intro other current known
    by_cases same : matchId = other
    · subst same
      obtain rfl := Option.some.inj (found.symm.trans known)
      refine ⟨limit, ?_⟩
      rcases clock with new | ⟨_, old, was, same⟩
      · exact new.le
      · exact same.trans_le (fit.clock matchId old was).2
    · exact fit.clock other current (retimes.others other current same known)
  · intro message member other userId turnNumber timeLeft named
    obtain ⟨added, split, announces⟩ := retimes.net.sent
    rw [split] at member
    rcases List.mem_append.mp member with old | new
    · obtain ⟨same, sentAt, stamped, before, fits⟩ :=
        fit.announced message old other userId turnNumber timeLeft named
      refine ⟨same, sentAt, stamped, before, ?_⟩
      intro current known
      by_cases same : matchId = other
      · subst same
        obtain rfl := Option.some.inj (found.symm.trans known)
        rcases clock with new | ⟨_, old, was, same⟩
        · omega
        · exact same ▸ fits old was
      · exact fits current (retimes.others other current same known)
    · obtain ⟨rfl, same, stamped⟩ := announces message new other userId turnNumber timeLeft named
      refine ⟨same, now, stamped, le_rfl, ?_⟩
      intro current known
      obtain rfl := Option.some.inj (found.symm.trans known)
      rcases clock with new | ⟨enough, _⟩
      · omega
      · exact enough

end Invariant

section Turns

variable (lib : Externals) (env : Env) {server : Server} {matchId : MatchId}

theorem sendTurnUpdate_announces (matchId : MatchId) (userId : UserId) (turnNumber : Int)
    (server : Server) : server.net.Transmits (Announces matchId env.now)
      (server.sendTurnUpdate env matchId userId turnNumber).net := by
  have permitted (conn : ConnId) : Announces matchId env.now ⟨conn,
      stampedHeader env .turnUpdate (.turnUpdate matchId userId turnNumber 20),
      .turnUpdate matchId userId turnNumber 20⟩ := by
    intro other shown turn timeLeft named
    obtain ⟨rfl, -, -, rfl⟩ := Payload.turnUpdate.inj named
    exact ⟨rfl, rfl, rfl⟩
  unfold sendTurnUpdate
  dsimp only
  split
  · exact Network.Transmits.refl _
  · exact (sendToPlayer_transmits env server permitted).trans
      (sendToPlayer_transmits env _ permitted)

theorem activateMatch_retimes (matchId : MatchId) (player1Id player2Id : UserId) (server : Server) :
    Retimes matchId env.now server (server.activateMatch env matchId player1Id player2Id) := by
  refine ⟨?_, ⟨server.activated env matchId player1Id player2Id, ?_, rfl, Or.inl rfl⟩, ?_⟩
  · rw [activateMatch_eq]
    have ready : server.net.Transmits NoTurnUpdate
        (((server.createMatch matchId player1Id player2Id).setMatch matchId
          (server.activated env matchId player1Id player2Id)).sendMatchReady env matchId player1Id
          player2Id).net :=
      (sendToPlayer_transmits env _ fun _ => rfl).trans (sendToPlayer_transmits env _ fun _ => rfl)
    have announces := ready.mono fun _ silent => announces_of_noTurnUpdate silent matchId env.now
    exact announces.trans (sendTurnUpdate_announces env matchId _ 1 _)
  · rw [activateMatch_getMatch, if_pos rfl]
  · intro other game different found
    rwa [activateMatch_getMatch, if_neg different] at found

theorem placementReady_turns (matchId : MatchId) (userId : UserId) (server : Server) :
    server.KeepsTurns (server.placementReady env matchId userId) ∨
      Retimes matchId env.now server (server.placementReady env matchId userId) := by
  have marked : server.KeepsTurns (server.markReady matchId userId) :=
    ⟨Network.Transmits.refl _, fun _ _ found => found⟩
  unfold placementReady
  dsimp only
  split
  · exact Or.inl marked
  split
  · exact Or.inr (marked.retimes (activateMatch_retimes env matchId _ _ _))
  · exact Or.inl marked

theorem acknowledge_keepsTurns {later : Server} (kept : server.KeepsTurns later) (matchId : MatchId)
    (valid : Bool) (message : String) (clientFd : Option Fd) :
    server.KeepsTurns (later.acknowledge env matchId valid message clientFd) :=
  kept.sendToClient env rfl _ clientFd

theorem handleShipPlacement_turns (token : Text) (matchId : MatchId) (ships : Vector Ship numShips)
    (clientFd : Option Fd) (server : Server) :
    server.KeepsTurns (server.handleShipPlacement env token matchId ships clientFd) ∨
      Retimes matchId env.now server
        (server.handleShipPlacement env token matchId ships clientFd) := by
  have checked := validated_keepsTurns env server token
  have saved := checked.withDb ((server.validateSession env token).1.db.saveShipPlacement matchId
    (server.validateSession env token).2 (encodeShips ships)).1
  unfold handleShipPlacement
  dsimp only
  split
  · exact Or.inl checked
  split
  · exact Or.inl (acknowledge_keepsTurns env checked ..)
  split
  · exact Or.inl (acknowledge_keepsTurns env saved ..)
  · have answered := acknowledge_keepsTurns env saved matchId true "Ship placement accepted" clientFd
    exact (placementReady_turns env matchId _ _).imp answered.trans answered.retimes

def lateHit (token : Text) (matchId : MatchId) (target : Coordinate) (server : Server) : Bool :=
  (server.getMatch matchId).any fun game =>
    let shot := (game.targetBoard game.currentTurnPlayerId).processShot target
    server.sessionUser env token = game.currentTurnPlayerId ∧ shot.2 ≠ .miss ∧
      ¬shot.1.allShipsSunk ∧ game.turnStartTime + game.turnTimeLimit < env.now + 20

theorem playMove_turns (good : server.WellFormed) (fit : TurnsFit env.now server)
    {game : MatchState} (found : server.getMatch matchId = some game) (target : Coordinate)
    (inTime : ((game.targetBoard game.currentTurnPlayerId).processShot target).2 ≠ .miss →
      ¬((game.targetBoard game.currentTurnPlayerId).processShot target).1.allShipsSunk →
        env.now + 20 ≤ game.turnStartTime + game.turnTimeLimit) :
    server.KeepsTurns
        (server.playMove lib env matchId game game.currentTurnPlayerId target) ∨
      Retimes matchId env.now server
        (server.playMove lib env matchId game game.currentTurnPlayerId target) := by
  have limit := (fit.clock matchId game found).1
  have played := ActiveMatch.processMove (good.games.active matchId game found) env.now target
  have told : server.net.Transmits NoTurnUpdate
      (server.movePlayed env matchId game game.currentTurnPlayerId target).net :=
    (sendToPlayer_transmits env (server.setMatch matchId _) fun _ => rfl).trans
      (sendToPlayer_transmits env _ fun _ => rfl)
  rw [playMove_eq, played, MatchState.playMove_targetBoard]
  split
  next sunk =>
    left
    have finished := finishMatch_keepsTurns lib env (KeepsTurns.refl
      (server.movePlayed env matchId game game.currentTurnPlayerId target)) matchId
      (game.playMove env.now game.currentTurnPlayerId target).1 game.currentTurnPlayerId .normal
      "All ships destroyed"
    refine ⟨told.trans finished.net, ?_⟩
    intro other current known
    by_cases same : matchId = other
    · subst same
      have gone : ((server.movePlayed env matchId game game.currentTurnPlayerId target).finishMatch
          lib env matchId (game.playMove env.now game.currentTurnPlayerId target).1
          game.currentTurnPlayerId .normal "All ships destroyed").getMatch matchId = none :=
        (Table.lookup_erase _ matchId matchId).trans (if_pos rfl)
      rw [gone] at known
      cases known
    · have moved := finished.games other current known
      rwa [movePlayed_getMatch, if_neg same] at moved
  next afloat =>
    right
    have moved := movePlayed_getMatch env matchId game game.currentTurnPlayerId target server
    rw [played] at moved
    obtain ⟨kept, clock⟩ := MatchState.playMove_clock env.now afloat
    refine ⟨?_, ⟨_, ?_, kept.trans limit, ?_⟩, ?_⟩
    · exact (told.mono fun _ silent => announces_of_noTurnUpdate silent matchId env.now).trans
        (sendTurnUpdate_announces env matchId ..)
    · exact (moved matchId).trans (if_pos rfl)
    · refine clock.imp And.right ?_
      rintro ⟨hit, same⟩
      refine ⟨?_, game, found, same⟩
      rw [same, ← limit]
      exact inTime hit afloat
    · intro other current different known
      exact ((moved other).trans (if_neg different)).symm.trans known

theorem handleMove_turns (good : server.WellFormed) (fit : TurnsFit env.now server)
    (token : Text) (matchId : MatchId) (target : Coordinate)
    (inTime : server.lateHit env token matchId target = false) :
    server.KeepsTurns (server.handleMove lib env token matchId target) ∨
      Retimes matchId env.now server (server.handleMove lib env token matchId target) := by
  have checked := validated_keepsTurns env server token
  unfold handleMove
  dsimp only
  split
  · exact Or.inl checked
  split
  · exact Or.inl checked
  next game found =>
    split
    · exact Or.inl checked
    next turn =>
      rw [ne_eq, not_not] at turn
      rw [← turn]
      have fine := good.of_keepsMatches (keeps_validated env server token) rfl
      refine (playMove_turns lib env fine (turnsFit_of_keepsTurns fit checked) found target ?_).imp
        checked.trans checked.retimes
      intro hit afloat
      have active : server.getMatch matchId = some game := found
      have user : server.sessionUser env token = game.currentTurnPlayerId := turn.symm
      simpa [lateHit, active, user, hit, afloat] using inTime

def hitsInTime (server : Server) (event : Event) : Bool :=
  match event.action with
  | .message conn token (.move matchId target) =>
      !(server.isLive conn && server.lateHit event.env token matchId target)
  | _ => true

theorem routeMessage_keepsTurns (conn : ConnId) (client : ClientConnection) (token : Text)
    {request : Request} (unplaced : request.duty ≠ .placing) (still : request.duty ≠ .moving) :
    server.KeepsTurns (server.routeMessage lib env conn client token request) := by
  cases authenticating : request.authenticates with
  | true => exact (routeMessage_aside lib env conn client token server authenticating).keepsTurns
  | false =>
      cases request with
      | ping => exact (KeepsTurns.refl server).sendOn env rfl _ conn
      | playerListRequest => exact (KeepsTurns.refl server).sendOn env rfl _ conn
      | challengeSend => exact handleChallengeSend_keepsTurns env client _ server
      | challengeResponse => exact handleChallengeResponse_keepsTurns env client _ server
      | resign matchId => exact handleResign_keepsTurns lib env token matchId server
      | drawOffer matchId => exact handleDrawOffer_keepsTurns env token matchId server
      | drawResponse matchId accepted =>
          exact handleDrawResponse_keepsTurns lib env token matchId accepted server
      | rematchRequest | rematchResponse => exact validated_keepsTurns env server token
      | unread => exact KeepsTurns.refl server
      | shipPlacement => exact absurd rfl unplaced
      | move => exact absurd rfl still
      | register | login | logout | validateSession => cases authenticating

theorem routeMessage_turns (good : server.WellFormed) (fit : TurnsFit env.now server)
    (conn : ConnId) (client : ClientConnection) (token : Text) (request : Request)
    (live : server.isLive conn = true)
    (inTime : server.hitsInTime ⟨env, .message conn token request⟩ = true) :
    server.KeepsTurns (server.routeMessage lib env conn client token request) ∨
      ∃ matchId, Retimes matchId env.now server
        (server.routeMessage lib env conn client token request) := by
  cases request with
  | shipPlacement matchId ships =>
      exact (handleShipPlacement_turns env token matchId ships client.socketFd server).imp_right
        (Exists.intro matchId)
  | move matchId target =>
      have hit : server.lateHit env token matchId target = false := by
        simpa [hitsInTime, live] using inTime
      exact (handleMove_turns lib env good fit token matchId target hit).imp_right
        (Exists.intro matchId)
  | _ => exact Or.inl (routeMessage_keepsTurns lib env conn client token nofun nofun)

theorem restarted_keepsTurns (server : Server) : server.KeepsTurns server.restarted := by
  refine ⟨⟨⟨[], by simp [restarted]⟩, ?_, ?_, id⟩, ?_⟩
  · intro fd conn found
    simp [restarted, Network.init] at found
  · intro conn fd found
    simp [restarted, Network.init, Network.socketFd] at found
  · intro matchId game found
    simp [restarted, init, getMatch] at found

theorem step_turnsFit (good : server.WellFormed) (event : Event)
    (fit : TurnsFit event.env.now server) (inTime : server.hitsInTime event = true) :
    TurnsFit event.env.now (server.step lib event) := by
  cases step_call lib server event with
  | idle _ stepped => rwa [stepped]
  | accepted fd _ _ stepped =>
      rw [stepped]
      exact ⟨fit.clock, fit.announced⟩
  | routed conn client token request acted known live stepped =>
      rw [stepped]
      have connected : server.isLive conn = true := by
        simp [isLive, known, live.1, live.2]
      obtain ⟨env, action⟩ := event
      obtain rfl : action = .message conn token request := acted
      rcases routeMessage_turns lib env good fit conn client token request connected inTime with
        kept | ⟨matchId, retimes⟩
      · exact turnsFit_of_keepsTurns fit kept
      · exact turnsFit_of_retimes fit retimes
  | receiveFailed conn _ stepped =>
      rw [stepped]
      exact ⟨fit.clock, fit.announced⟩
  | removed conn client _ _ _ stepped =>
      rw [stepped]
      have removed := turnsFit_of_keepsTurns fit
        (removeClient_removal lib event.env client.threadFd server).keepsTurns
      exact ⟨removed.clock, removed.announced⟩
  | swept _ stepped =>
      rw [stepped]
      exact turnsFit_of_keepsTurns fit (checkTurnTimeouts_keepsTurns lib event.env server)
  | restarted _ stepped =>
      rw [stepped]
      exact turnsFit_of_keepsTurns fit (restarted_keepsTurns server)

theorem turnsFit_init (now : Nat) : TurnsFit now init where
  clock := by simp [init, getMatch]
  announced := by simp [init, Network.init]

def ClockForward (events : List Event) : Prop :=
  events.Pairwise fun early late => early.env.now ≤ late.env.now

theorem after_turnsFit {events : List Event} (forward : ClockForward events)
    (inTime : Machine.Respects (step lib) (fun server event => server.hitsInTime event = true) init
      events) (now : Nat) (passed : ∀ event ∈ events, event.env.now ≤ now) :
    TurnsFit now (after lib events) := by
  induction events using List.reverseRecOn generalizing now with
  | nil => exact turnsFit_init now
  | append_singleton before event ih =>
      obtain ⟨forward, -, order⟩ := List.pairwise_append.mp forward
      have fit := ih forward inTime.of_append event.env.now fun early member =>
        order early member event (List.mem_singleton_self event)
      rw [after_concat]
      have stepped := step_turnsFit lib (after_wellFormed lib before) event fit
        (inTime before event (Machine.stepOf_last before event))
      exact stepped.mono (passed event (by simp))

def TimesOut (server : Server) (event : Event) (matchId : MatchId) (userId : UserId) : Prop :=
  event.action = .checkTurnTimeouts ∧ ∃ game, game.currentTurnPlayerId = userId ∧
    Concludes matchId game (game.opponent userId) .timeout server (server.step lib event)

/-- Nobody is timed out before the time is up that the last TURN_UPDATE announced. -/
def KeepsAnnouncedTime (events : List Event) : Prop :=
  ∀ before event, Machine.StepOf events before event → ∀ message matchId userId turnNumber timeLeft,
    (after lib before).net.lastTurnUpdate matchId = some message →
    message.payload = .turnUpdate matchId userId turnNumber timeLeft →
    ∀ sentAt, message.header.timestamp = some sentAt → event.env.now < sentAt + timeLeft →
      ¬(after lib before).TimesOut lib event matchId userId

theorem not_timedOut {game : MatchState} {now : Nat} (limit : game.turnTimeLimit = 60)
    (started : game.turnStartTime ≤ now) (left : now < game.turnStartTime + 60) :
    game.isTurnTimedOut now = false := by
  have since : secondsSince now game.turnStartTime = now - game.turnStartTime := by
    unfold secondsSince
    omega
  unfold MatchState.isTurnTimedOut
  split
  · rfl
  · rw [limit, since, decide_eq_false]
    omega

theorem keepsAnnouncedTime_of_hitsInTime {events : List Event} (forward : ClockForward events)
    (inTime : Machine.Respects (step lib) (fun server event => server.hitsInTime event = true) init
      events) : KeepsAnnouncedTime lib events := by
  rintro before event ⟨later, rfl⟩ message matchId userId turnNumber timeLeft last named sentAt
    stamped early ⟨swept, game, -, ended⟩
  obtain ⟨forward, -, order⟩ := List.pairwise_append.mp forward
  have fit := after_turnsFit lib forward inTime.of_append event.env.now fun old member =>
    order old member event List.mem_cons_self
  have member : message ∈ (after lib before).net.sent :=
    List.mem_of_mem_filter (List.mem_of_getLast? last)
  obtain ⟨rfl, time, sameTime, -, fits⟩ :=
    fit.announced message member matchId userId turnNumber timeLeft named
  obtain rfl := Option.some.inj (sameTime.symm.trans stamped)
  obtain ⟨limit, started⟩ := fit.clock matchId game ended.was
  have enough := fits game ended.was
  have running := not_timedOut limit started (show event.env.now < game.turnStartTime + 60 by omega)
  have swept' : (after lib before).step lib event =
      (after lib before).checkTurnTimeouts lib event.env := by simp only [step, swept]
  rw [swept'] at ended
  rcases checkTurnTimeouts_change lib event.env (after lib before) matchId with
    kept | ⟨late, timedOut, concludes⟩
  · have still := kept.game.trans ended.was
    rw [ended.gone] at still
    cases still
  · obtain rfl := Option.some.inj (ended.was.symm.trans concludes.was)
    rw [running] at timedOut
    cases timedOut

end Turns

end Server

namespace Script

open Server

def sweepAt (second : Nat) : Event := ⟨env second, .checkTurnTimeouts⟩

def hitAndSweep (hit swept : Nat) : List Event :=
  duel ++ [sends hit alice (.move 1 ⟨0, 0⟩), sweepAt swept]

theorem hitAndSweep_keepsAnnouncedTime : KeepsAnnouncedTime lib (hitAndSweep 44 63) := by
  refine keepsAnnouncedTime_of_hitsInTime lib ?_ ?_
  · unfold ClockForward
    decide +kernel
  · decide +kernel

/-- In second 49 Alice is told that 20 s are left, and she loses in second 64. -/
theorem not_keepsAnnouncedTime_lateHit :
    ClockForward (hitAndSweep 49 64) ∧ ¬KeepsAnnouncedTime lib (hitAndSweep 49 64) := by
  refine ⟨by unfold ClockForward; decide +kernel, ?_⟩
  intro keeps
  let before := duel ++ [sends 49 alice (.move 1 ⟨0, 0⟩)]
  have told : (after lib before).net.lastTurnUpdate 1 = some ⟨bob - 1, ⟨.turnUpdate, some 16,
      some (start + 49)⟩, .turnUpdate 1 alice 1 20⟩ := by decide +kernel
  have running : ((after lib before).getMatch 1).map (fun game =>
      (game.currentTurnPlayerId, game.opponent alice)) = some (alice, bob) := by decide +kernel
  obtain ⟨game, active, seats⟩ := Option.map_eq_some_iff.mp running
  obtain ⟨turn, opponent⟩ := Prod.mk.inj seats
  have gone : ((after lib before).step lib (sweepAt 64)).getMatch 1 = none := by decide +kernel
  have ended : ((after lib before).step lib (sweepAt 64)).endings 1 =
      (after lib before).endings 1 ++ [(bob, .timeout)] := by decide +kernel
  refine keeps before (sweepAt 64) ⟨[], by simp [hitAndSweep, before]⟩ _ 1 alice 1 20 told rfl _ rfl
    (by decide) ⟨rfl, game, turn, active, gone, ?_⟩
  rw [opponent]
  exact ended

end Script

end Battleship
