import Mathlib.Logic.Function.Basic
import Mathlib.Logic.Relation
import Battleship.Routine

/-! Who is there: the connections the server lists, the user each of them is
authenticated as, and the connection the player manager has for a user. A step
of the server changes this in one of five ways; all that is routine leaves it as
it is. -/

namespace Battleship

open Decimal (Text)

def ClientConnection.user (client : ClientConnection) : Option UserId :=
  if client.authenticated then some client.userId else none

@[ext] structure People where
  clients : Fd → Option ConnId
  nextConn : ConnId
  threadFd : ConnId → Option Fd
  userOn : ConnId → Option UserId
  entry : UserId → Option ConnId

inductive PeopleChange
  | none
  | accept (fd : Fd)
  | appear (conn : ConnId) (userId : UserId)
  | logout (conn : ConnId) (userId : UserId)
  | remove (fd : Fd)
  | restart
deriving DecidableEq

namespace People

def init : People := ⟨fun _ => none, 0, fun _ => none, fun _ => none, fun _ => none⟩

def change (people : People) : PeopleChange → People
  | .none => people
  | .accept fd => { people with
      clients := Function.update people.clients fd (some people.nextConn)
      nextConn := people.nextConn + 1
      threadFd := Function.update people.threadFd people.nextConn (some fd)
      userOn := Function.update people.userOn people.nextConn none }
  | .appear conn userId => { people with
      userOn := Function.update people.userOn conn (some userId)
      entry := Function.update people.entry userId (some conn) }
  | .logout _ userId => { people with entry := Function.update people.entry userId none }
  | .remove fd => { people with
      clients := Function.update people.clients fd none
      entry := fun userId =>
        if (people.clients fd).bind people.userOn = some userId then none
        else people.entry userId }
  | .restart => { init with nextConn := people.nextConn }

def unlist (people : People) (fd : Fd) : People :=
  { people with clients := Function.update people.clients fd none }

end People

def Network.userOn (net : Network) (conn : ConnId) : Option UserId :=
  net.connections[conn]?.bind ClientConnection.user

def Network.threadFd (net : Network) (conn : ConnId) : Option Fd :=
  net.connections[conn]?.map ClientConnection.threadFd

namespace Network

/-- Entries of `clients_` go, and descriptors are given up. -/
inductive ClosesOne (net : Network) : Network → Prop
  | unlist (fd : Fd) : ClosesOne net { net with clients := net.clients.erase fd }
  | disconnect (conn : ConnId) : ClosesOne net (net.disconnect conn)

def Closes : Network → Network → Prop := Relation.ReflTransGen ClosesOne

theorem Closes.transmits {Allowed : Sent → Prop} {net later : Network}
    (closes : Closes net later) : net.Transmits Allowed later := by
  induction closes with
  | refl => exact Transmits.refl net
  | tail _ one silent =>
      cases one with
      | unlist fd => exact silent.trans (erase_transmits _ fd)
      | disconnect conn => exact silent.trans (disconnect_transmits _ conn)

structure SameClients (net later : Network) : Prop where
  clients : later.clients = net.clients
  nextConn : later.nextConn = net.nextConn
  userOn : later.userOn = net.userOn
  threadFd : later.threadFd = net.threadFd

theorem SameClients.refl (net : Network) : net.SameClients net := ⟨rfl, rfl, rfl, rfl⟩

theorem SameClients.trans {first second third : Network} (early : first.SameClients second)
    (late : second.SameClients third) : first.SameClients third :=
  ⟨late.clients.trans early.clients, late.nextConn.trans early.nextConn,
    late.userOn.trans early.userOn, late.threadFd.trans early.threadFd⟩

variable (net : Network)

theorem modify_sameClients (conn : ConnId) {change : ClientConnection → ClientConnection}
    (user : ∀ client, (change client).user = client.user)
    (threadFd : ∀ client, (change client).threadFd = client.threadFd) :
    net.SameClients { net with connections := net.connections.modify conn change } := by
  refine ⟨rfl, rfl, funext fun other => ?_, funext fun other => ?_⟩
  · simp only [userOn, Table.lookup_modify]
    split
    · cases net.connections[other]? <;> simp [user]
    · rfl
  · simp only [Network.threadFd, Table.lookup_modify]
    split
    · cases net.connections[other]? <;> simp [threadFd]
    · rfl

theorem disconnect_sameClients (conn : ConnId) : net.SameClients (net.disconnect conn) :=
  net.modify_sameClients conn (fun _ => rfl) fun _ => rfl

theorem sendMessage_sameClients (env : Env) (header : MessageHeader) (payload : Payload)
    (conn : ConnId) : net.SameClients (net.sendMessage env header payload conn) := by
  have called : net.SameClients (net.called ⟨conn, header, payload⟩) := ⟨rfl, rfl, rfl, rfl⟩
  simp only [sendMessage]
  split
  · exact called
  split
  · exact called.trans (disconnect_sameClients _ conn)
  · exact ⟨rfl, rfl, rfl, rfl⟩

theorem Sends.sameClients {env : Env} {net later : Network} (sends : Sends env net later) :
    net.SameClients later := by
  induction sends with
  | refl => exact .refl net
  | @tail middle _ _ one same =>
      obtain ⟨type, payload, conn⟩ := one
      exact same.trans (middle.sendMessage_sameClients env _ payload conn)

theorem setAuthenticated_userOn {conn : ConnId} {client : ClientConnection}
    (known : net.connections[conn]? = some client) (userId : UserId) (token : Text) :
    (net.setAuthenticated conn userId token).userOn =
      Function.update net.userOn conn (some userId) := by
  have changed := Table.read_modify net.connections (Option.bind · ClientConnection.user) conn
    fun client => { client with authenticated := true, userId := userId, sessionToken := token }
  rw [known] at changed
  exact changed

theorem setAuthenticated_threadFd (conn : ConnId) (userId : UserId) (token : Text) :
    (net.setAuthenticated conn userId token).threadFd = net.threadFd := by
  funext other
  simp only [setAuthenticated, threadFd, Table.lookup_modify]
  split
  · cases net.connections[other]? <;> simp
  · rfl

end Network

namespace Server

def people (server : Server) : People where
  clients := fun fd => server.net.clients[fd]?
  nextConn := server.net.nextConn
  threadFd := server.net.threadFd
  userOn := server.net.userOn
  entry := server.getClientConnection

variable (lib : Externals)

def requestChange (env : Env) (conn : ConnId) (client : ClientConnection) (request : Request)
    (server : Server) : PeopleChange :=
  match request with
  | .login username password =>
      match server.loginUser lib env username password with
      | none => .none
      | some userId => .appear conn userId
  | .validateSession token =>
      match server.validatedUser env token with
      | none => .none
      | some userId => .appear conn userId
  | .logout token =>
      if server.logoutUser env client token > 0 then
        .logout conn (server.logoutUser env client token)
      else .none
  | _ => .none

def peopleChange (server : Server) (event : Event) : PeopleChange :=
  match event.action with
  | .accept fd => if server.descriptorFree fd then .accept fd else .none
  | .message conn _ request =>
      match server.net.connections[conn]? with
      | none => .none
      | some client =>
          if client.serving ∧ client.socketFd.isSome then
            server.requestChange lib event.env conn client request
          else .none
  | .removeClient conn =>
      match server.net.connections[conn]? with
      | none => .none
      | some client =>
          if client.serving ∧ client.socketFd.isNone then .remove client.threadFd else .none
  | .restart => .restart
  | .receiveFailed _ => .none
  | .checkTurnTimeouts => .none

theorem people_of_same {server later : Server} (same : server.net.SameClients later.net)
    (entry : later.getClientConnection = server.getClientConnection) :
    later.people = server.people := by
  simp only [people, same.clients, same.nextConn, same.userOn, same.threadFd, entry]

theorem Routine.people {env : Env} {server later : Server} (routine : Routine env server later) :
    later.people = server.people := by
  induction routine with
  | refl => rfl
  | @tail middle _ _ act same =>
      rw [← same]
      cases act with
      | store db manager games journal => rfl
      | sends sends => exact people_of_same sends.sameClients rfl
      | status userId present =>
          refine people_of_same (.refl _) (funext fun other => ?_)
          simp only [getClientConnection, Table.lookup_modify]
          split
          · cases middle.players[other]? <;> simp
          · rfl

theorem Presents.people {env : Env} {conn : ConnId} {userId : UserId} {server later : Server}
    (presents : Presents env conn userId server later) {client : ClientConnection}
    (known : server.net.connections[conn]? = some client) :
    later.people = server.people.change (.appear conn userId) := by
  obtain ⟨db, token, data, -, rfl, -, -, routine⟩ := presents
  rw [routine.people]
  apply People.ext
  · rfl
  · rfl
  · exact server.net.setAuthenticated_threadFd data.client userId token
  · exact server.net.setAuthenticated_userOn known userId token
  · exact Table.read_insert server.players (Option.map PlayerData.client) userId data

theorem erase_people (server : Server) (userId : UserId) :
    ({ server with players := server.players.erase userId } : Server).people =
      { server.people with entry := Function.update server.people.entry userId none } := by
  apply People.ext <;> try rfl
  exact Table.read_erase server.players (Option.map PlayerData.client) userId

theorem tellPlayer_people (env : Env) (header : MessageHeader) (payload : Payload)
    (userId : UserId) (server : Server) :
    (server.tellPlayer env header payload userId).people = server.people := by
  refine people_of_same ?_ rfl
  simp only [tellPlayer]
  split
  · exact .refl _
  · exact server.net.sendMessage_sameClients env header payload _

inductive Answered (env : Env) (conn : ConnId) (server : Server) : PeopleChange → Server → Prop
  | routine {later : Server} (kept : Routine env server later) :
      Answered env conn server .none later
  | refusal (payload : Payload) (userId : UserId) : Answered env conn server .none
      (server.tellPlayer env (bareHeader .challengeResponse) payload userId)
  | appears {userId : UserId} {later : Server} (presents : Presents env conn userId server later) :
      Answered env conn server (.appear conn userId) later
  | leaves {userId : UserId} {later : Server}
      (kept : Routine env { server with players := server.players.erase userId } later) :
      Answered env conn server (.logout conn userId) later

theorem HandlerWork.answered {duty : Duty} {env : Env} {server later : Server}
    (work : HandlerWork duty env server later) (conn : ConnId) :
    Answered env conn server .none later := by
  cases work with
  | work kept => exact .routine kept.routine
  | refusal pairs other userId => exact .refusal _ userId

section Requests

variable (env : Env) (conn : ConnId) {server : Server} {client : ClientConnection}

theorem routeMessage_answered (token : Text) (request : Request) :
    Answered env conn server (server.requestChange lib env conn client request)
      (server.routeMessage lib env conn client token request) := by
  by_cases plain : request.authenticates = false
  · have nobody : server.requestChange lib env conn client request = .none := by
      cases request <;> first | rfl | cases plain
    rw [nobody]
    exact (routeMessage_work lib env conn client token server plain).answered conn
  cases request with
  | register username password displayName => exact .routine (handleRegister_routine ..)
  | login username password =>
      simp only [requestChange]
      cases login : server.loginUser lib env username password with
      | none => exact .routine (handleLogin_refused lib env conn server login)
      | some userId => exact .appears (handleLogin_presents lib env conn server login)
  | logout sessionToken =>
      have kept := handleLogout_routine env conn server client sessionToken
      simp only [requestChange]
      split at kept
      next someone =>
        rw [if_pos someone]
        exact .leaves kept
      next nobody =>
        rw [if_neg nobody]
        exact .routine kept
  | validateSession sessionToken =>
      simp only [requestChange]
      cases validated : server.validatedUser env sessionToken with
      | none => exact .routine (handleValidateSession_refused env conn server validated)
      | some userId => exact .appears (handleValidateSession_presents env conn server validated)
  | _ => exact absurd rfl plain

theorem Answered.people {env : Env} {change : PeopleChange} {later : Server}
    (answered : Answered env conn server change later)
    (known : server.net.connections[conn]? = some client) :
    later.people = server.people.change change := by
  cases answered with
  | routine kept => exact kept.people
  | refusal payload userId => exact tellPlayer_people ..
  | appears presents => exact presents.people known
  | leaves kept => exact kept.people.trans (erase_people server _)

theorem routeMessage_people (known : server.net.connections[conn]? = some client) (token : Text)
    (request : Request) : (server.routeMessage lib env conn client token request).people =
      server.people.change (server.requestChange lib env conn client request) :=
  (routeMessage_answered lib env conn token request).people conn known

end Requests

theorem acceptConnection_people (fd : Fd) (server : Server) :
    (server.acceptConnection fd).people = server.people.change (.accept fd) := by
  apply People.ext
  · exact Table.read_insert server.net.clients id fd server.net.nextConn
  · rfl
  · exact Table.read_insert server.net.connections (Option.map ClientConnection.threadFd) ..
  · exact Table.read_insert server.net.connections (Option.bind · ClientConnection.user) ..
  · rfl

theorem erase_clients_people (fd : Fd) (server : Server) :
    ({ server with net := { server.net with clients := server.net.clients.erase fd } }
      : Server).people = server.people.unlist fd := by
  apply People.ext <;> try rfl
  exact Table.read_erase server.net.clients id fd

theorem disconnect_people (conn : ConnId) (server : Server) :
    ({ server with net := server.net.disconnect conn } : Server).people = server.people :=
  people_of_same (server.net.disconnect_sameClients conn) rfl

theorem restarted_people (server : Server) :
    server.restarted.people = server.people.change .restart := by
  apply People.ext <;> rfl

def dismiss (env : Env) (userId : UserId) (server : Server) : Server :=
  (server.handlePlayerDisconnect lib env userId).removePlayer env userId

/-- What the removal of a client comes to: its entry goes, and the user of the connection, if
there is one, leaves the matches and the players. -/
inductive Removal (env : Env) (fd : Fd) (server : Server) : Option UserId → Server → Prop
  | nobody {net : Network} (closes : server.net.Closes net)
      (people : Server.people { server with net := net } = server.people.unlist fd) :
      Removal env fd server .none { server with net := net }
  | user {net last : Network} {userId : UserId}
      (closes : server.net.Closes net)
      (people : Server.people { server with net := net } = server.people.unlist fd)
      (closed : (dismiss lib env userId { server with net := net }).net.Closes last)
      (same : Server.people { dismiss lib env userId { server with net := net } with net := last } =
        (dismiss lib env userId { server with net := net }).people) :
      Removal env fd server (some userId)
        { dismiss lib env userId { server with net := net } with net := last }

theorem removeClient_removal (env : Env) (fd : Fd) (server : Server) :
    Removal lib env fd server ((server.people.clients fd).bind server.people.userOn)
      (server.removeClient lib env fd) := by
  have listed : server.people.clients fd = server.net.clients[fd]? := rfl
  have unlisted := erase_clients_people fd server
  have erased : server.net.Closes _ := Relation.ReflTransGen.single (.unlist fd)
  unfold removeClient
  split
  next missing =>
    have nobody : server.people.clients fd = none := listed.trans missing
    have same : server.people.unlist fd = server.people := by
      rw [People.unlist, ← nobody, Function.update_eq_self]
    rw [nobody]
    exact .nobody Relation.ReflTransGen.refl same.symm
  next conn found =>
    have user : (server.people.clients fd).bind server.people.userOn = server.net.userOn conn := by
      rw [listed, found]
      rfl
    rw [user]
    dsimp only
    split
    next missing =>
      rw [show server.net.userOn conn = none by simp [Network.userOn, missing]]
      exact .nobody erased unlisted
    next client known =>
      have known : server.net.userOn conn = client.user := by rw [Network.userOn, known]; rfl
      rw [known, ClientConnection.user]
      split
      next authenticated =>
        exact .user erased unlisted (Relation.ReflTransGen.single (.disconnect conn))
          (disconnect_people conn _)
      next anonymous =>
        exact .nobody (erased.tail (.disconnect conn)) ((disconnect_people conn _).trans unlisted)

theorem dismiss_people (env : Env) (userId : UserId) (server : Server) :
    (server.dismiss lib env userId).people =
      { server.people with entry := Function.update server.people.entry userId none } := by
  have ended := (handlePlayerDisconnect_work lib env (Work.refl server) userId).routine.people
  have removed := (removePlayer_work env userId
    (server.handlePlayerDisconnect lib env userId)).routine.people
  rw [erase_people, ended] at removed
  exact removed

theorem removeClient_people (env : Env) (fd : Fd) (server : Server) :
    (server.removeClient lib env fd).people = server.people.change (.remove fd) := by
  have removal := removeClient_removal lib env fd server
  rw [People.change]
  generalize server.removeClient lib env fd = later at removal ⊢
  generalize (server.people.clients fd).bind server.people.userOn = user at removal ⊢
  cases removal with
  | nobody closes unlisted =>
      simp only [unlisted, reduceCtorEq, if_false]
      rfl
  | @user net last userId closes unlisted closed same =>
      rw [same, dismiss_people, unlisted]
      refine People.ext rfl rfl rfl rfl (funext fun other => ?_)
      simp only [People.unlist, Function.update_apply, Option.some.injEq, eq_comm (a := other)]

theorem stopServing_people (conn : ConnId) (server : Server) :
    (server.stopServing conn).people = server.people :=
  people_of_same (server.net.modify_sameClients conn (fun _ => rfl) fun _ => rfl) rfl

/-- The server keeps its people as `PeopleChange` says. -/
theorem step_people (server : Server) (event : Event) :
    (server.step lib event).people = server.people.change (server.peopleChange lib event) := by
  obtain ⟨env, action⟩ := event
  cases action with
  | accept fd =>
      simp only [step, peopleChange]
      split
      · exact acceptConnection_people fd server
      · rfl
  | message conn token request =>
      simp only [step, peopleChange]
      cases known : server.net.connections[conn]? with
      | none => rfl
      | some client =>
          dsimp only
          split
          · exact routeMessage_people lib env conn known token request
          · rfl
  | receiveFailed conn => exact disconnect_people conn server
  | removeClient conn =>
      simp only [step, peopleChange]
      cases server.net.connections[conn]? with
      | none => rfl
      | some client =>
          dsimp only
          split
          · rw [stopServing_people, removeClient_people]
          · rfl
  | checkTurnTimeouts => exact (checkTurnTimeouts_work lib env (.refl server)).routine.people
  | restart => exact restarted_people server

end Server

end Battleship
