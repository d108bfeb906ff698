import Battleship.People

/-! The lengths in the headers the server sends. All sending sites but two assign
the length of the payload; the two refuse a challenge request, and the length of
their header is whatever was in memory. -/

namespace Battleship

open Decimal (Text)

def Sent.Framed (call : Sent) : Prop := call.header.length = some call.payload.size

theorem framed_stamped (env : Env) (conn : ConnId) (type : MessageType) (payload : Payload) :
    (⟨conn, stampedHeader env type payload, payload⟩ : Sent).Framed := rfl

theorem not_framed_bare (conn : ConnId) (type : MessageType) (payload : Payload) :
    ¬(⟨conn, bareHeader type, payload⟩ : Sent).Framed := by
  simp [Sent.Framed, bareHeader]

namespace Network

def CallsFramed (net later : Network) : Prop :=
  ∃ added, later.calls = net.calls ++ added ∧ ∀ call ∈ added, call.Framed

theorem CallsFramed.refl (net : Network) : net.CallsFramed net := ⟨[], by simp, by simp⟩

theorem CallsFramed.trans {first second third : Network} (early : first.CallsFramed second)
    (late : second.CallsFramed third) : first.CallsFramed third := by
  obtain ⟨added, split, framed⟩ := early
  obtain ⟨added', split', framed'⟩ := late
  refine ⟨added ++ added', by rw [split', split, List.append_assoc], ?_⟩
  intro call member
  rcases List.mem_append.mp member with old | new
  · exact framed call old
  · exact framed' call new

variable (env : Env) (header : MessageHeader) (payload : Payload)

theorem sendMessage_calls (conn : ConnId) (net : Network) :
    (net.sendMessage env header payload conn).calls = net.calls ++ [⟨conn, header, payload⟩] := by
  simp only [sendMessage]
  split
  · rfl
  split <;> rfl

/-- A call for a header without a length is not framed, and nothing makes up for it. -/
theorem not_callsFramed_of_call {net later : Network} {call : Sent}
    (calls : later.calls = net.calls ++ [call]) (unframed : ¬call.Framed) :
    ¬net.CallsFramed later := by
  rintro ⟨added, split, framed⟩
  rw [calls] at split
  have same : [call] = added := List.append_cancel_left split
  exact unframed (framed call (by simp [← same]))

theorem Sends.callsFramed {env : Env} {net later : Network} (sends : Sends env net later) :
    net.CallsFramed later := by
  induction sends with
  | refl => exact .refl net
  | tail _ one framed =>
      obtain ⟨type, payload, conn⟩ := one
      exact framed.trans ⟨_, sendMessage_calls env _ payload conn _, by simp [framed_stamped]⟩

theorem Closes.callsFramed {net later : Network} (closes : Closes net later) :
    net.CallsFramed later := by
  induction closes with
  | refl => exact .refl net
  | tail _ one framed => cases one <;> exact framed

end Network

namespace Server

abbrev CallsFramed (server later : Server) : Prop := server.net.CallsFramed later.net

theorem CallsFramed.refl (server : Server) : server.CallsFramed server := Network.CallsFramed.refl _

theorem Routine.callsFramed {env : Env} {server later : Server}
    (routine : Routine env server later) : server.CallsFramed later := by
  induction routine with
  | refl => exact CallsFramed.refl server
  | tail _ act framed =>
      cases act with
      | store db manager games journal => exact framed
      | sends sends => exact framed.trans sends.callsFramed
      | status userId present => exact framed

section Auth

variable (lib : Externals) (env : Env) (server : Server) (conn : ConnId)

theorem Presents.callsFramed {env : Env} {conn : ConnId} {userId : UserId} {server later : Server}
    (presents : Presents env conn userId server later) : server.CallsFramed later := by
  obtain ⟨db, token, data, -, -, -, -, routine⟩ := presents
  exact routine.callsFramed

theorem handleLogin_calls (username password : Text) :
    server.CallsFramed (server.handleLogin lib env conn username password) := by
  cases login : server.loginUser lib env username password with
  | none => exact (handleLogin_refused lib env conn server login).callsFramed
  | some userId => exact (handleLogin_presents lib env conn server login).callsFramed

theorem handleLogout_calls (client : ClientConnection) (token : Text) :
    server.CallsFramed (server.handleLogout env conn client token) := by
  have framed := (handleLogout_routine env conn server client token).callsFramed
  split at framed <;> exact framed

theorem handleValidateSession_calls (token : Text) :
    server.CallsFramed (server.handleValidateSession env conn token) := by
  cases validated : server.validatedUser env token with
  | none => exact (handleValidateSession_refused env conn server validated).callsFramed
  | some userId => exact (handleValidateSession_presents env conn server validated).callsFramed

end Auth

theorem Removal.callsFramed {lib : Externals} {env : Env} {fd : Fd} {server later : Server}
    {user : Option UserId} (removal : Removal lib env fd server user later) :
    server.CallsFramed later := by
  cases removal with
  | nobody closes => exact closes.callsFramed
  | @user net last userId closes _ closed =>
      have ended := (handlePlayerDisconnect_work lib env (.refl { server with net := net })
        userId).routine.callsFramed
      have removed := (removePlayer_work env userId
        ({ server with net := net }.handlePlayerDisconnect lib env userId)).routine.callsFramed
      exact ((closes.callsFramed.trans ended).trans removed).trans closed.callsFramed

/-- The request is refused with a header whose length nobody assigns, and the
player is there to be told. -/
def RefusedBare (server : Server) (userId : UserId) : Request → Prop
  | .challengeSend targetUserId _ _ =>
      server.isPlayerOnline userId = true ∧
        (server.validateChallenge userId targetUserId).isSome = true
  | .challengeResponse challengeId _ =>
      server.isPlayerOnline userId = true ∧ server.manager.challenges[challengeId]? = none
  | _ => False

def SendsBare (server : Server) (event : Event) : Prop :=
  ∃ (conn : ConnId) (token : Text) (request : Request) (client : ClientConnection),
    event.action = .message conn token request ∧ server.net.connections[conn]? = some client ∧
      client.serving = true ∧ client.socketFd.isSome = true ∧ client.authenticated = true ∧
      server.RefusedBare client.userId request

instance (server : Server) (userId : UserId) :
    (request : Request) → Decidable (server.RefusedBare userId request)
  | .challengeSend .. | .challengeResponse .. => inferInstanceAs (Decidable (_ ∧ _))
  | .ping | .register .. | .login .. | .logout .. | .validateSession .. | .playerListRequest
  | .shipPlacement .. | .move .. | .resign .. | .drawOffer .. | .drawResponse ..
  | .rematchRequest .. | .rematchResponse .. | .unread .. => instDecidableFalse

instance (server : Server) (event : Event) : Decidable (server.SendsBare event) :=
  match acted : event.action with
  | .message conn token request =>
      match known : server.net.connections[conn]? with
      | some client =>
          decidable_of_iff (client.serving = true ∧ client.socketFd.isSome = true ∧
              client.authenticated = true ∧ server.RefusedBare client.userId request) <| by
            constructor
            · exact fun bare => ⟨conn, token, request, client, acted, known, bare⟩
            · rintro ⟨_, _, _, _, same, found, bare⟩
              obtain ⟨rfl, rfl, rfl⟩ := Action.message.inj (acted.symm.trans same)
              obtain rfl := Option.some.inj (known.symm.trans found)
              exact bare
      | none => .isFalse <| by
          rintro ⟨_, _, _, _, same, found, -⟩
          obtain ⟨rfl, rfl, rfl⟩ := Action.message.inj (acted.symm.trans same)
          cases known.symm.trans found
  | .accept _ | .receiveFailed _ | .removeClient _ | .checkTurnTimeouts | .restart =>
      .isFalse <| by
        rintro ⟨_, _, _, _, same, -⟩
        cases acted.symm.trans same

section Refusals

variable (env : Env) (server : Server) {userId : UserId} {type : MessageType} {payload : Payload}

theorem tellPlayer_bare_iff :
    server.CallsFramed (server.tellPlayer env (bareHeader type) payload userId) ↔
      server.isPlayerOnline userId = false := by
  simp only [tellPlayer, getClientConnection, isPlayerOnline, CallsFramed]
  cases server.players[userId]? with
  | none => simpa using Network.CallsFramed.refl server.net
  | some data =>
      simpa using Network.not_callsFramed_of_call
        (Network.sendMessage_calls env (bareHeader type) payload data.client server.net)
        (not_framed_bare data.client type payload)

theorem handleChallengeSend_framed_iff (client : ClientConnection) (request : ChallengeRequest) :
    server.CallsFramed (server.handleChallengeSend env client request) ↔
      ¬(client.authenticated = true ∧ server.RefusedBare client.userId
        (.challengeSend request.targetUserId request.timeLimit request.randomPlacement)) := by
  unfold handleChallengeSend RefusedBare
  split
  case isFalse anonymous => simp [anonymous, Network.CallsFramed.refl]
  case isTrue authenticated =>
      unfold sendChallenge
      split
      case h_1 error refused => simp [authenticated, refused, tellPlayer_bare_iff]
      case h_2 accepted =>
          simp only [authenticated, accepted, Option.isSome_none, Bool.false_eq_true, and_false,
            not_false_eq_true, iff_true]
          exact (((Work.refl server).withManager _).tellPlayer rfl ..).routine.callsFramed

theorem takeChallenge_unknown_iff (manager : ChallengeManager) (responderId : UserId)
    (challengeId : ChallengeId) :
    (manager.takeChallenge responderId challengeId).2 = .unknown ↔
      manager.challenges[challengeId]? = none := by
  unfold ChallengeManager.takeChallenge
  split
  case h_1 missing => simp only [missing]
  case h_2 found => split <;> simp only [found, reduceCtorEq]

theorem handleChallengeResponse_framed_iff (client : ClientConnection)
    (response : ChallengeResponse) :
    server.CallsFramed (server.handleChallengeResponse env client response) ↔
      ¬(client.authenticated = true ∧ server.RefusedBare client.userId
        (.challengeResponse response.challengeId response.accepted)) := by
  have missing := takeChallenge_unknown_iff server.manager client.userId response.challengeId
  simp only [handleChallengeResponse, RefusedBare, ← missing]
  split
  case isFalse anonymous => simp [anonymous, Network.CallsFramed.refl]
  case isTrue authenticated =>
      unfold respondToChallenge
      dsimp only
      split
      case h_1 wrong =>
          simp only [wrong, reduceCtorEq, and_false, not_false_eq_true, iff_true]
          exact CallsFramed.refl server
      case h_2 unknown => simp [authenticated, unknown, tellPlayer_bare_iff]
      case h_3 challenge taken =>
          simp only [taken, reduceCtorEq, and_false, not_false_eq_true, iff_true]
          split
          · exact (acceptChallenge_work env challenge
              ((Work.refl server).withManager _)).routine.callsFramed
          · exact (notifyChallenger_work env challenge
              ((Work.refl server).withManager _) ..).routine.callsFramed

end Refusals

theorem routeMessage_framed_iff (lib : Externals) (env : Env) (conn : ConnId)
    (client : ClientConnection) (token : Text) (request : Request) (server : Server) :
    server.CallsFramed (server.routeMessage lib env conn client token request) ↔
      ¬(client.authenticated = true ∧ server.RefusedBare client.userId request) := by
  have plain (other : request.duty ≠ .pairing) (authenticates : request.authenticates = false) :
      server.CallsFramed (server.routeMessage lib env conn client token request) :=
    ((routeMessage_work lib env conn client token server authenticates).unpairing
      other).routine.callsFramed
  cases request with
  | challengeSend targetUserId timeLimit randomPlacement =>
      exact handleChallengeSend_framed_iff env server client
        ⟨targetUserId, timeLimit, randomPlacement⟩
  | challengeResponse challengeId accepted =>
      exact handleChallengeResponse_framed_iff env server client ⟨challengeId, accepted⟩
  | register username password displayName =>
      exact iff_of_true (handleRegister_routine lib env conn server ..).callsFramed And.right
  | login username password =>
      exact iff_of_true (handleLogin_calls lib env server conn ..) And.right
  | logout sessionToken =>
      exact iff_of_true (handleLogout_calls env server conn ..) And.right
  | validateSession sessionToken =>
      exact iff_of_true (handleValidateSession_calls env server conn ..) And.right
  | _ => exact iff_of_true (plain nofun rfl) And.right

theorem step_callsFramed (lib : Externals) {server : Server} {event : Event}
    (measured : ¬server.SendsBare event) : server.CallsFramed (server.step lib event) := by
  have same := CallsFramed.refl server
  cases step_call lib server event with
  | idle _ stepped => rwa [stepped]
  | accepted fd _ _ stepped => rwa [stepped]
  | routed conn client token request acted known live stepped =>
      rw [stepped, routeMessage_framed_iff]
      rintro ⟨authenticated, refused⟩
      exact measured ⟨conn, token, request, client, acted, known, live.1, live.2, authenticated,
        refused⟩
  | receiveFailed conn _ stepped => rwa [stepped]
  | removed conn client _ _ _ stepped =>
      rw [stepped]
      exact (removeClient_removal lib event.env client.threadFd server).callsFramed
  | swept _ stepped =>
      rw [stepped]
      exact (checkTurnTimeouts_work lib event.env (.refl server)).routine.callsFramed
  | restarted _ stepped => rwa [stepped]

/-- The server keeps its clients in step with every event but a challenge request
that it refuses to a player who is online. -/
theorem step_callsFramed_iff (lib : Externals) (server : Server) (event : Event) :
    server.CallsFramed (server.step lib event) ↔ ¬server.SendsBare event := by
  refine ⟨?_, step_callsFramed lib⟩
  rintro framed ⟨conn, token, request, client, acted, known, serving, socket, authenticated,
    refused⟩
  simp only [Server.step, acted, known, serving, socket, and_self, if_true] at framed
  exact (routeMessage_framed_iff lib _ conn client token request server).mp framed
    ⟨authenticated, refused⟩

open Script in
/-- Alice answers a challenge that is not there. -/
theorem not_callsFramed_unknownChallenge : ¬∀ (lib : Externals) (server : Server) (event : Event),
    server.Reachable lib → server.CallsFramed (server.step lib event) := by
  intro all
  have framed := all lib (after lib lobby) (sends 2 alice (.challengeResponse 7 true))
    (after_reachable lib lobby)
  refine Network.not_callsFramed_of_call ?_ (not_framed_bare 0 .challengeResponse
    (.challengeResult 7 false 0 "Challenge not found or expired".toList)) framed
  decide +kernel

end Server

end Battleship
