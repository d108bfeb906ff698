import Battleship.Connections
import Battleship.PendingChallenges

/-! The connected clients are the ones that the server finds under their descriptors, so
what is sent to the descriptor of a client is sent on its connection. -/

namespace Battleship

namespace Server

def Listed (server : Server) : Prop :=
  ∀ (conn : ConnId) (fd : Fd), server.net.socketFd conn = some fd →
    server.net.clients[fd]? = some conn

variable {server later : Server}

theorem Listed.of_transmits {allowed : Sent → Prop} (listed : server.Listed)
    (transmits : server.net.Transmits allowed later.net)
    (clients : later.people.clients = server.people.clients) : later.Listed := by
  intro conn fd socket
  exact (congrFun clients fd).trans (listed conn fd (transmits.sockets conn fd socket))

theorem acceptConnection_listed (listed : server.Listed) {fd : Fd}
    (free : server.descriptorFree fd = true) : (server.acceptConnection fd).Listed := by
  have unused := descriptorFree_unused free
  intro conn other socket
  simp only [acceptConnection, Network.socketFd, Table.lookup_insert] at socket ⊢
  split at socket
  next same =>
    simp only [Option.bind_some, Option.some.injEq] at socket
    rw [if_pos socket, same]
  next old =>
    have different : fd ≠ other := by
      rintro rfl
      exact unused conn socket
    rw [if_neg different]
    exact listed conn other socket

theorem disconnect_socketFd (net : Network) (conn : ConnId) :
    (net.disconnect conn).socketFd conn = none := by
  rw [Network.disconnect, Network.socketFd_modify, if_pos rfl]
  cases net.connections[conn]? <;> rfl

variable (lib : Externals)

theorem removeClient_closes (env : Env) {fd : Fd} {conn : ConnId}
    (found : server.net.clients[fd]? = some conn) :
    (server.removeClient lib env fd).net.socketFd conn = none := by
  unfold removeClient
  rw [found]
  dsimp only
  split
  next missing => simp [Network.socketFd, missing]
  next client known => exact disconnect_socketFd _ conn

theorem removeClient_listed (good : server.WellFormed) (listed : server.Listed) (env : Env)
    (fd : Fd) : (server.removeClient lib env fd).Listed := by
  have clients := congrArg People.clients (removeClient_people lib env fd server)
  intro conn other socket
  have found := listed conn other
    ((removeClient_edits lib env good fd).transmits.sockets conn other socket)
  refine (congrFun clients other).trans ?_
  simp only [People.change, Function.update_apply]
  split
  next same =>
    subst same
    rw [removeClient_closes lib env found] at socket
    cases socket
  next different => exact found

theorem requestChange_clients (env : Env) (conn : ConnId) (client : ClientConnection)
    (request : Request) (people : People) :
    (people.change (server.requestChange lib env conn client request)).clients =
      people.clients := by
  rcases server.requestChange_cases lib env conn client request with
    none | ⟨userId, appears, -⟩ | ⟨userId, leaves⟩
  · rw [none]
    rfl
  · rw [appears]
    rfl
  · rw [leaves]
    rfl

theorem step_listed (good : server.WellFormed) (listed : server.Listed) (event : Event) :
    (server.step lib event).Listed := by
  cases step_call lib server event with
  | idle _ stepped => rwa [stepped]
  | accepted fd _ free stepped =>
      rw [stepped]
      exact acceptConnection_listed listed free
  | routed conn client token request _ known _ stepped =>
      rw [stepped]
      refine listed.of_transmits
        (routeMessage_edits lib event.env good conn client token request).transmits ?_
      rw [routeMessage_people lib event.env conn known]
      exact requestChange_clients ..
  | receiveFailed conn _ stepped =>
      rw [stepped]
      have closed : server.net.Transmits (fun _ => True) (server.net.disconnect conn) :=
        Network.disconnect_transmits server.net conn
      exact listed.of_transmits closed (congrArg People.clients (disconnect_people conn server))
  | removed conn client _ _ _ stepped =>
      rw [stepped]
      let removed := server.removeClient lib event.env client.threadFd
      have stopped : removed.net.Transmits (fun _ => True) (removed.stopServing conn).net :=
        Network.modify_transmits _ conn fun _ _ socket => socket
      refine (removeClient_listed lib good listed event.env client.threadFd).of_transmits stopped ?_
      rw [stopServing_people]
  | swept _ stepped =>
      rw [stepped]
      exact listed.of_transmits (checkTurnTimeouts_edits lib event.env good).transmits
        (congrArg People.clients (checkTurnTimeouts_work lib event.env (.refl server)).routine.people)
  | restarted _ stepped =>
      rw [stepped]
      intro conn fd socket
      simp [Server.restarted, Network.init, Network.socketFd] at socket

theorem after_listed (events : List Event) : (after lib events).Listed := by
  have both : (after lib events).WellFormed ∧ (after lib events).Listed := by
    refine Machine.invariant (step lib) (motive := fun server => server.WellFormed ∧ server.Listed)
      ⟨wellFormed_init, ?_⟩ ?_ events
    · intro conn fd socket
      simp [init, Network.init, Network.socketFd] at socket
    · exact fun server event held => ⟨step_wellFormed lib server event held.1,
        step_listed lib held.1 held.2 event⟩
  exact both.2

end Server

end Battleship
