import Battleship.ChallengeFacts
import Battleship.MatchSteps

/-! One step of the server: it keeps the invariant, and for every match it is
one of a few changes. Results about runs are derived from these two facts. -/

namespace Battleship

open Decimal (Text)

namespace Server

section Challenges

variable (env : Env) (server : Server)

theorem keeps_sendChallenge (challengerId : UserId) (request : ChallengeRequest) :
    server.KeepsMatches (server.sendChallenge env challengerId request) := by
  unfold sendChallenge
  split
  · exact (KeepsMatches.refl server).tellPlayer env rfl _ _
  · exact ((KeepsMatches.refl server).withManager _).tellPlayer env rfl _ _

theorem sendChallenge_wellFormed {server : Server} (good : server.WellFormed)
    (challengerId : UserId) (request : ChallengeRequest) :
    (server.sendChallenge env challengerId request).WellFormed := by
  have kept := keeps_sendChallenge env server challengerId request
  obtain ⟨db, grows⟩ := kept.db.keeps good.db
  refine ⟨db, kept.games ▸ good.games.grows good.db grows, ?_⟩
  unfold sendChallenge
  split
  · exact good.challenges
  next passed =>
    intro challengeId challenge found
    have lookup := (server.manager.insertChallenge_lookup ..).symm.trans found
    split at lookup
    · obtain rfl := Option.some.inj lookup
      exact validateChallenge_distinct passed
    · exact good.challenges challengeId challenge lookup

theorem keeps_announceMatch {server later : Server} (kept : server.KeepsMatches later)
    (challenge : PendingChallenge) (matchId : MatchId) :
    server.KeepsMatches (later.announceMatch env challenge matchId) := by
  unfold announceMatch
  dsimp only
  exact (((kept.tellPlayer env rfl _ _).tellPlayer env rfl _ _).updatePlayerStatus env
    _ _).updatePlayerStatus env _ _

theorem keeps_acceptChallenge {server later : Server} (kept : server.KeepsMatches later)
    {challenge : PendingChallenge} (distinct : challenge.challengerId ≠ challenge.targetId) :
    server.KeepsMatches (later.acceptChallenge env challenge) := by
  have created := kept.withDb (Database.kept_createMatch env.now distinct)
  unfold acceptChallenge
  dsimp only
  split
  · exact keeps_announceMatch env created challenge _
  · exact created.tellPlayer env rfl _ _

theorem acceptChallenge_manager (challenge : PendingChallenge) :
    (server.acceptChallenge env challenge).manager = server.manager := by
  unfold acceptChallenge
  dsimp only
  split <;> rfl

theorem keeps_respondToChallenge {server : Server} (good : server.WellFormed)
    (responderId : UserId) (response : ChallengeResponse) :
    server.KeepsMatches (server.respondToChallenge env responderId response) := by
  unfold respondToChallenge
  dsimp only
  split
  · exact KeepsMatches.refl server
  · exact (KeepsMatches.refl server).tellPlayer env rfl _ _
  next challenge taken =>
    have removed := (KeepsMatches.refl server).withManager
      (server.manager.takeChallenge responderId response.challengeId).1
    split
    · exact keeps_acceptChallenge env removed
        (good.challenges _ challenge (ChallengeManager.takeChallenge_taken taken).1)
    · exact removed.tellPlayer env rfl _ _

theorem respondToChallenge_wellFormed {server : Server} (good : server.WellFormed)
    (responderId : UserId) (response : ChallengeResponse) :
    (server.respondToChallenge env responderId response).WellFormed := by
  have kept := keeps_respondToChallenge env good responderId response
  obtain ⟨db, grows⟩ := kept.db.keeps good.db
  refine ⟨db, kept.games ▸ good.games.grows good.db grows, ?_⟩
  intro challengeId challenge found
  refine good.challenges challengeId challenge ?_
  unfold respondToChallenge at found
  dsimp only at found
  split at found
  · exact found
  · exact found
  · split at found
    · rw [acceptChallenge_manager] at found
      exact ChallengeManager.takeChallenge_narrows _ _ _ challengeId challenge found
    · exact ChallengeManager.takeChallenge_narrows _ _ _ challengeId challenge found

end Challenges

section Steps

variable (lib : Externals)

def Handles (server : Server) (event : Event) (token : Text) (request : Request) : Prop :=
  ∃ conn client, event.action = .message conn token request ∧
    server.net.connections[conn]? = some client ∧ client.serving = true ∧
    client.socketFd.isSome = true

def CompletesPlacement (server : Server) (event : Event) (matchId : MatchId) : Prop :=
  ∃ token ships, server.Handles event token (.shipPlacement matchId ships) ∧
    server.AcceptsPlacement event.env token matchId ships ∧
    server.Completes matchId (server.sessionUser event.env token)

def Cause (server : Server) (event : Event) (matchId : MatchId) (game : MatchState)
    (winnerId : UserId) : MatchEndReason → Prop
  | .normal => ∃ token target, server.Handles event token (.move matchId target) ∧
      server.sessionUser event.env token = winnerId ∧ winnerId = game.currentTurnPlayerId
  | .resign => ∃ token, server.Handles event token (.resign matchId) ∧
      server.sessionUser event.env token ≠ 0 ∧
      winnerId = game.opponent (server.sessionUser event.env token)
  | .drawAgreed => winnerId = 0 ∧ ∃ token,
      server.Handles event token (.drawResponse matchId true) ∧
      server.sessionUser event.env token ≠ 0
  | .timeout => event.action = .checkTurnTimeouts ∧ game.isTurnTimedOut event.env.now = true ∧
      winnerId = game.opponent game.currentTurnPlayerId
  | .disconnect => ∃ conn userId, event.action = .removeClient conn ∧
      (game.player1Id = userId ∨ game.player2Id = userId) ∧ winnerId = game.opponent userId

inductive MatchChange (server : Server) (event : Event) (matchId : MatchId) (later : Server) : Prop
  | untouched (kept : Untouched matchId server later)
  | restarted (restart : event.action = .restart) (quiet : Quiet matchId server later)
      (gone : later.getMatch matchId = none)
  | activated (completes : server.CompletesPlacement event matchId)
      (quiet : Quiet matchId server later) (running : (later.getMatch matchId).isSome = true)
  | moved (was : (server.getMatch matchId).isSome = true) (quiet : Quiet matchId server later)
      (running : (later.getMatch matchId).isSome = true)
  | concluded (game : MatchState) (winnerId : UserId) (reason : MatchEndReason)
      (cause : server.Cause event matchId game winnerId reason)
      (done : Concludes matchId game winnerId reason server later)

theorem KeepsMatches.change {server later : Server} (kept : server.KeepsMatches later)
    (event : Event) (matchId : MatchId) : MatchChange server event matchId later :=
  .untouched (kept.untouched matchId)

theorem removeClient_eq (env : Env) {server : Server} {fd : Fd} {conn : ConnId}
    {client : ClientConnection} (found : server.net.clients[fd]? = some conn)
    (known : server.net.connections[conn]? = some client)
    (authenticated : client.authenticated = true) :
    ∃ erased, erased = { server with
        net := { server.net with clients := server.net.clients.erase fd } } ∧
      server.removeClient lib env fd =
        { (erased.handlePlayerDisconnect lib env client.userId).removePlayer env client.userId with
          net := (((erased.handlePlayerDisconnect lib env client.userId).removePlayer env
            client.userId).net).disconnect conn } := by
  refine ⟨_, rfl, ?_⟩
  unfold removeClient
  simp only [found, known, authenticated, if_true]

theorem removeClient_change (env : Env) (server : Server) (fd : Fd) (matchId : MatchId) :
    Untouched matchId server (server.removeClient lib env fd) ∨
      ∃ game userId, (game.player1Id = userId ∨ game.player2Id = userId) ∧
        Concludes matchId game (game.opponent userId) .disconnect server
          (server.removeClient lib env fd) := by
  cases found : server.net.clients[fd]? with
  | none =>
      left
      simp only [removeClient, found]
      exact Untouched.refl matchId server
  | some conn =>
      have erased : server.KeepsMatches { server with
          net := { server.net with clients := server.net.clients.erase fd } } :=
        (KeepsMatches.refl server).withNet (Network.erase_transmits server.net fd)
      cases known : server.net.connections[conn]? with
      | none =>
          left
          simp only [removeClient, found, known]
          exact erased.untouched matchId
      | some client =>
          cases authenticated : client.authenticated with
          | false =>
              left
              simp only [removeClient, found, known, authenticated, Bool.false_eq_true, if_false]
              exact (erased.untouched matchId).trans ⟨⟨rfl, rfl⟩, rfl⟩
          | true =>
              obtain ⟨start, rfl, shape⟩ := removeClient_eq lib env found known authenticated
              have ending (before : Server) : before.KeepsMatches
                  { before.removePlayer env client.userId with
                    net := ((before.removePlayer env client.userId).net).disconnect conn } :=
                ((KeepsMatches.refl before).removePlayer env client.userId).withNet
                  (Network.disconnect_transmits _ conn)
              rw [shape]
              rcases handlePlayerDisconnect_change lib env client.userId _ matchId with
                ⟨kept, _⟩ | ⟨game, seated, done⟩
              · exact Or.inl (((erased.untouched matchId).trans kept).trans
                  ((ending _).untouched matchId))
              · exact Or.inr ⟨game, client.userId, seated, ((erased.untouched matchId).concludes
                  done).untouched ((ending _).untouched matchId)⟩

theorem removeClient_wellFormed (env : Env) {server : Server} (good : server.WellFormed) (fd : Fd) :
    (server.removeClient lib env fd).WellFormed := by
  unfold removeClient
  split
  · exact good
  have erased : ({ server with
      net := { server.net with clients := server.net.clients.erase fd } } : Server).WellFormed :=
    ⟨good.db, good.games, good.challenges⟩
  dsimp only
  split
  · exact erased
  next client known =>
    split
    · have ended := handlePlayerDisconnect_wellFormed lib env client.userId erased
      exact ⟨ended.db, ended.games, ended.challenges⟩
    · exact ⟨good.db, good.games, good.challenges⟩

theorem routeMessage_wellFormed (env : Env) {server : Server} (good : server.WellFormed)
    (conn : ConnId) (client : ClientConnection) (token : Text) (request : Request) :
    (server.routeMessage lib env conn client token request).WellFormed := by
  cases request with
  | ping => exact good.of_keepsMatches ((KeepsMatches.refl server).sendOn env rfl _ conn) rfl
  | register username password displayName =>
      exact good.of_aside (handleRegister_aside lib env server conn ..)
  | login username password => exact good.of_aside (handleLogin_aside lib env server conn ..)
  | logout sessionToken => exact good.of_aside (handleLogout_aside env server conn client ..)
  | validateSession sessionToken =>
      exact good.of_aside (handleValidateSession_aside env server conn sessionToken)
  | playerListRequest => exact good.of_keepsMatches (keeps_playerListRequest env server conn) rfl
  | challengeSend targetUserId timeLimit randomPlacement =>
      simp only [routeMessage, handleChallengeSend]
      split
      · exact sendChallenge_wellFormed env good _ _
      · exact good
  | challengeResponse challengeId accepted =>
      simp only [routeMessage, handleChallengeResponse]
      split
      · exact respondToChallenge_wellFormed env good _ _
      · exact good
  | shipPlacement matchId ships => exact handleShipPlacement_wellFormed env good token matchId ships _
  | move matchId target => exact handleMove_wellFormed lib env good token matchId target
  | resign matchId => exact handleResign_wellFormed lib env good token matchId
  | drawOffer matchId =>
      refine good.of_keepsMatches (keeps_drawOffer env server token matchId) ?_
      simp only [routeMessage, handleDrawOffer]
      split
      · rfl
      split <;> rfl
  | drawResponse matchId accepted =>
      exact handleDrawResponse_wellFormed lib env good token matchId accepted
  | rematchRequest previousMatchId =>
      exact good.of_keepsMatches (keeps_validated env server token) rfl
  | rematchResponse previousMatchId accepted =>
      exact good.of_keepsMatches (keeps_validated env server token) rfl
  | unread type => exact good

theorem step_wellFormed (server : Server) (event : Event) (good : server.WellFormed) :
    (server.step lib event).WellFormed := by
  cases step_call lib server event with
  | idle _ stepped => rwa [stepped]
  | accepted fd _ _ stepped =>
      rw [stepped]
      exact ⟨good.db, good.games, good.challenges⟩
  | routed conn client token request _ _ _ stepped =>
      rw [stepped]
      exact routeMessage_wellFormed lib event.env good conn client token request
  | receiveFailed conn _ stepped =>
      rw [stepped]
      exact ⟨good.db, good.games, good.challenges⟩
  | removed conn client _ _ _ stepped =>
      rw [stepped]
      have removed := removeClient_wellFormed lib event.env good client.threadFd
      exact ⟨removed.db, removed.games, removed.challenges⟩
  | swept _ stepped =>
      rw [stepped]
      exact checkTurnTimeouts_wellFormed lib event.env good
  | restarted _ stepped =>
      rw [stepped]
      exact ⟨good.db, gamesHold_none _, by simp [restarted, init]⟩

theorem Reachable.wellFormed {server : Server} (reachable : server.Reachable lib) :
    server.WellFormed :=
  reachable.induction lib wellFormed_init (step_wellFormed lib)

theorem routeMessage_change {server : Server} (good : server.WellFormed) {event : Event}
    {conn : ConnId} {client : ClientConnection} {token : Text} {request : Request}
    (handled : server.Handles event token request) (matchId : MatchId) :
    MatchChange server event matchId
      (server.routeMessage lib event.env conn client token request) := by
  cases request with
  | ping => exact ((KeepsMatches.refl server).sendOn event.env rfl _ conn).change event matchId
  | register username password displayName =>
      have aside := handleRegister_aside lib event.env server conn username password displayName
      exact aside.keepsMatches.change event matchId
  | login username password =>
      have aside := handleLogin_aside lib event.env server conn username password
      exact aside.keepsMatches.change event matchId
  | logout sessionToken =>
      have aside := handleLogout_aside event.env server conn client sessionToken
      exact aside.keepsMatches.change event matchId
  | validateSession sessionToken =>
      have aside := handleValidateSession_aside event.env server conn sessionToken
      exact aside.keepsMatches.change event matchId
  | playerListRequest => exact (keeps_playerListRequest event.env server conn).change event matchId
  | challengeSend targetUserId timeLimit randomPlacement =>
      simp only [routeMessage, handleChallengeSend]
      split
      · exact (keeps_sendChallenge event.env server _ _).change event matchId
      · exact (KeepsMatches.refl server).change event matchId
  | challengeResponse challengeId accepted =>
      simp only [routeMessage, handleChallengeResponse]
      split
      · exact (keeps_respondToChallenge event.env good _ _).change event matchId
      · exact (KeepsMatches.refl server).change event matchId
  | shipPlacement named ships =>
      rcases handleShipPlacement_change event.env good token named ships client.socketFd matchId with
        kept | ⟨rfl, accepted, complete, quiet, running⟩
      · exact .untouched kept
      · exact .activated ⟨token, ships, handled, accepted, complete⟩ quiet running
  | move named target =>
      rcases handleMove_change lib event.env server token named target matchId with
        kept | ⟨rfl, _, game, found, turn, ⟨quiet, running⟩ | done⟩
      · exact .untouched kept
      · exact .moved (by rw [found]; rfl) quiet running
      · exact .concluded game _ .normal ⟨token, target, handled, rfl, turn⟩ done
  | resign named =>
      rcases handleResign_change lib event.env server token named matchId with
        kept | ⟨rfl, valid, game, done⟩
      · exact .untouched kept
      · exact .concluded game _ .resign ⟨token, handled, valid, rfl⟩ done
  | drawOffer named => exact (keeps_drawOffer event.env server token named).change event matchId
  | drawResponse named accepted =>
      rcases handleDrawResponse_change lib event.env server token named accepted matchId with
        kept | ⟨rfl, rfl, valid, game, done⟩
      · exact .untouched kept
      · exact .concluded game 0 .drawAgreed ⟨rfl, token, handled, valid⟩ done
  | rematchRequest previousMatchId =>
      exact (keeps_validated event.env server token).change event matchId
  | rematchResponse previousMatchId accepted =>
      exact (keeps_validated event.env server token).change event matchId
  | unread type => exact (KeepsMatches.refl server).change event matchId

/-- Every step is one of the changes of each match. -/
theorem step_change {server : Server} (good : server.WellFormed) (event : Event)
    (matchId : MatchId) : MatchChange server event matchId (server.step lib event) := by
  cases step_call lib server event with
  | idle _ stepped =>
      rw [stepped]
      exact (KeepsMatches.refl server).change event matchId
  | accepted fd _ _ stepped =>
      rw [stepped]
      exact .untouched ⟨⟨rfl, rfl⟩, rfl⟩
  | routed conn client token request acted known live stepped =>
      rw [stepped]
      exact routeMessage_change lib good ⟨conn, client, acted, known, live.1, live.2⟩ matchId
  | receiveFailed conn _ stepped =>
      rw [stepped]
      exact .untouched ⟨⟨rfl, rfl⟩, rfl⟩
  | removed conn client acted _ _ stepped =>
      rw [stepped]
      have stopped (before : Server) : Untouched matchId before (before.stopServing conn) :=
        ⟨⟨rfl, rfl⟩, rfl⟩
      rcases removeClient_change lib event.env server client.threadFd matchId with
        kept | ⟨game, userId, seated, done⟩
      · exact .untouched (kept.trans (stopped _))
      · exact .concluded game _ .disconnect ⟨conn, userId, acted, seated, rfl⟩
          (done.untouched (stopped _))
  | swept acted stepped =>
      rw [stepped]
      rcases checkTurnTimeouts_change lib event.env server matchId with kept | ⟨game, late, done⟩
      · exact .untouched kept
      · exact .concluded game _ .timeout ⟨acted, late, rfl⟩ done
  | restarted acted stepped =>
      rw [stepped]
      refine .restarted acted ⟨rfl, rfl⟩ ?_
      simp [getMatch, restarted, init]

end Steps

end Server

end Battleship
