import Battleship.AuthHandling
import Battleship.ChallengeHandling
import Battleship.GameplayHandling
import Battleship.Library.Machine

/-! The server as a machine: each step handles one event to its end. Handlers
hold `handlers_mutex_`, so messages never overlap; the sweep and the removal of
a client run on threads of their own and are taken here as steps of their own. -/

namespace Battleship

open Decimal (Text)

inductive Action
  | accept (fd : Fd)
  | message (conn : ConnId) (token : Text) (request : Request)
  | receiveFailed (conn : ConnId)
  | removeClient (conn : ConnId)
  | checkTurnTimeouts
  | restart

structure Event where
  env : Env
  action : Action

namespace Server

variable (lib : Externals)

def descriptorFree (server : Server) (fd : Fd) : Bool :=
  server.net.connections.toList.all fun entry => entry.2.socketFd ≠ some fd

def acceptConnection (fd : Fd) (server : Server) : Server :=
  let net := server.net
  let client : ClientConnection := {
    socketFd := some fd
    authenticated := false
    userId := 0
    sessionToken := []
    threadFd := fd
    serving := true }
  { server with
    net := { net with
      clients := net.clients.insert fd net.nextConn
      connections := net.connections.insert net.nextConn client
      nextConn := net.nextConn + 1 } }

def handlePlayerListRequest (env : Env) (conn : ConnId) (server : Server) : Server :=
  let payload := .playerListResponse (server.getOnlinePlayers.take 100)
  server.sendOn env (stampedHeader env .playerList payload) payload conn

def routeMessage (env : Env) (conn : ConnId) (client : ClientConnection) (token : Text)
    (request : Request) (server : Server) : Server :=
  match request with
  | .ping => server.sendOn env (stampedHeader env .pong .none) .none conn
  | .register username password displayName =>
      server.handleRegister lib env conn username password displayName
  | .login username password => server.handleLogin lib env conn username password
  | .logout sessionToken => server.handleLogout env conn client sessionToken
  | .validateSession sessionToken => server.handleValidateSession env conn sessionToken
  | .playerListRequest => server.handlePlayerListRequest env conn
  | .challengeSend targetUserId timeLimit randomPlacement =>
      server.handleChallengeSend env client ⟨targetUserId, timeLimit, randomPlacement⟩
  | .challengeResponse challengeId accepted =>
      server.handleChallengeResponse env client ⟨challengeId, accepted⟩
  | .shipPlacement matchId ships =>
      server.handleShipPlacement env token matchId ships client.socketFd
  | .move matchId target => server.handleMove lib env token matchId target
  | .resign matchId => server.handleResign lib env token matchId
  | .drawOffer matchId => server.handleDrawOffer env token matchId
  | .drawResponse matchId accepted => server.handleDrawResponse lib env token matchId accepted
  | .rematchRequest _ => server.handleRematchRequest env token
  | .rematchResponse _ _ => server.handleRematchResponse env token
  | .unread _ => server

def removeClient (env : Env) (fd : Fd) (server : Server) : Server :=
  match server.net.clients[fd]? with
  | none => server
  | some conn =>
      let server := { server with
        net := { server.net with clients := server.net.clients.erase fd } }
      match server.net.connections[conn]? with
      | none => server
      | some client =>
          let server :=
            if client.authenticated then
              (server.handlePlayerDisconnect lib env client.userId).removePlayer env client.userId
            else server
          { server with net := server.net.disconnect conn }

def stopServing (conn : ConnId) (server : Server) : Server :=
  { server with
    net := { server.net with
      connections := server.net.connections.modify conn fun client =>
        { client with serving := false } } }

def restarted (server : Server) : Server :=
  { Server.init with
    db := server.db
    net := { Network.init with
      nextConn := server.net.nextConn
      sent := server.net.sent
      calls := server.net.calls }
    journal := server.journal }

/-- An event that cannot happen in a state leaves it unchanged. -/
def step (server : Server) (event : Event) : Server :=
  match event.action with
  | .accept fd => if server.descriptorFree fd then server.acceptConnection fd else server
  | .message conn token request =>
      match server.net.connections[conn]? with
      | none => server
      | some client =>
          if client.serving ∧ client.socketFd.isSome then
            server.routeMessage lib event.env conn client token request
          else server
  | .receiveFailed conn => { server with net := server.net.disconnect conn }
  | .removeClient conn =>
      match server.net.connections[conn]? with
      | none => server
      | some client =>
          if client.serving ∧ client.socketFd.isNone then
            (server.removeClient lib event.env client.threadFd).stopServing conn
          else server
  | .checkTurnTimeouts => server.checkTurnTimeouts lib event.env
  | .restart => server.restarted

inductive StepCall (server : Server) (event : Event) (later : Server) : Prop
  | idle (running : event.action ≠ .restart) (stepped : later = server)
  | accepted (fd : Fd) (acted : event.action = .accept fd) (free : server.descriptorFree fd = true)
      (stepped : later = server.acceptConnection fd)
  | routed (conn : ConnId) (client : ClientConnection) (token : Text) (request : Request)
      (acted : event.action = .message conn token request)
      (known : server.net.connections[conn]? = some client)
      (live : client.serving ∧ client.socketFd.isSome)
      (stepped : later = server.routeMessage lib event.env conn client token request)
  | receiveFailed (conn : ConnId) (acted : event.action = .receiveFailed conn)
      (stepped : later = { server with net := server.net.disconnect conn })
  | removed (conn : ConnId) (client : ClientConnection) (acted : event.action = .removeClient conn)
      (known : server.net.connections[conn]? = some client)
      (closed : client.serving ∧ client.socketFd.isNone)
      (stepped : later = (server.removeClient lib event.env client.threadFd).stopServing conn)
  | swept (acted : event.action = .checkTurnTimeouts)
      (stepped : later = server.checkTurnTimeouts lib event.env)
  | restarted (acted : event.action = .restart) (stepped : later = server.restarted)

theorem step_call (server : Server) (event : Event) :
    StepCall lib server event (server.step lib event) := by
  unfold step
  cases acted : event.action with
  | accept fd =>
      dsimp only
      split
      next free => exact .accepted fd acted free rfl
      · exact .idle (by simp [acted]) rfl
  | message conn token request =>
      dsimp only
      split
      · exact .idle (by simp [acted]) rfl
      next client known =>
        split
        next live => exact .routed conn client token request acted known live rfl
        · exact .idle (by simp [acted]) rfl
  | receiveFailed conn => exact .receiveFailed conn acted rfl
  | removeClient conn =>
      dsimp only
      split
      · exact .idle (by simp [acted]) rfl
      next client known =>
        split
        next closed => exact .removed conn client acted known closed rfl
        · exact .idle (by simp [acted]) rfl
  | checkTurnTimeouts => exact .swept acted rfl
  | restart => exact .restarted acted rfl

def Reachable (server : Server) : Prop :=
  ∃ events, server = Machine.exec (step lib) init events

theorem Reachable.step {server : Server} (reachable : server.Reachable lib) (event : Event) :
    (server.step lib event).Reachable lib := by
  obtain ⟨events, rfl⟩ := reachable
  exact ⟨events ++ [event], by simp⟩

theorem Reachable.induction {motive : Server → Prop} (initial : motive init)
    (preserved : ∀ server event, motive server → motive (Server.step lib server event))
    {server : Server} (reachable : server.Reachable lib) : motive server := by
  obtain ⟨events, rfl⟩ := reachable
  exact Machine.invariant (Server.step lib) initial preserved events

end Server

end Battleship
