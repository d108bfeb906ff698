import Battleship.ServerEdits

/-! Who a message reaches. Every step but the acceptance of a connection only
sends messages and gives descriptors up, so the server never finds a connection
under the descriptor of another one. -/

namespace Battleship

open Decimal (Text)

namespace Network

def OwnDescriptors (net : Network) : Prop :=
  ∀ (conn found : ConnId) (fd : Fd), net.socketFd conn = some fd → net.clients[fd]? = some found →
    found = conn

theorem Transmits.ownDescriptors {allowed : Sent → Prop} {net later : Network}
    (transmits : net.Transmits allowed later) (own : net.OwnDescriptors) : later.OwnDescriptors :=
  fun conn found fd socket client =>
    own conn found fd (transmits.sockets conn fd socket) (transmits.clients fd found client)

section Delivery

variable (env : Env)

def Delivers (net : Network) (conn : ConnId) : Prop :=
  ∃ fd, net.socketFd conn = some fd ∧ net.clients[fd]? = some conn ∧ conn ∉ env.broken

variable {env} {net : Network} {conn : ConnId} {header : MessageHeader} {payload : Payload}

theorem Transmits.delivers {allowed : Sent → Prop} {later : Network}
    (transmits : net.Transmits allowed later) (delivers : later.Delivers env conn) :
    net.Delivers env conn := by
  obtain ⟨fd, socket, client, fine⟩ := delivers
  exact ⟨fd, transmits.sockets conn fd socket, transmits.clients fd conn client, fine⟩

theorem sendToClient_delivered (delivers : net.Delivers env conn) :
    (net.sendToClient env header payload (net.socketFd conn)).sent =
      net.sent ++ [⟨conn, header, payload⟩] := by
  obtain ⟨fd, socket, client, fine⟩ := delivers
  simp only [sendToClient, socket, Option.bind_some, client, sendMessage, called_socketFd, fine,
    if_false]
  rfl

theorem sendToClient_undelivered (own : net.OwnDescriptors) (lost : ¬net.Delivers env conn) :
    net.Transmits (fun _ => False) (net.sendToClient env header payload (net.socketFd conn)) := by
  unfold sendToClient
  split
  · exact Transmits.refl net
  next found client =>
    obtain ⟨fd, socket, listed⟩ := Option.bind_eq_some_iff.mp client
    obtain rfl := own conn found fd socket listed
    simp only [sendMessage, called_socketFd, socket]
    split
    · exact (called_transmits net _).trans (disconnect_transmits _ found)
    next fine => exact absurd ⟨fd, socket, listed, fine⟩ lost

theorem Delivers.sendMessage (delivers : net.Delivers env conn) (header : MessageHeader)
    (payload : Payload) (other : ConnId) :
    (net.sendMessage env header payload other).Delivers env conn := by
  simp only [Network.sendMessage]
  split
  · exact delivers
  split
  next failing =>
    obtain ⟨fd, socket, client, fine⟩ := delivers
    have different : other ≠ conn := fun same => fine (same ▸ failing)
    exact ⟨fd, (socketFd_modify ..).trans ((if_neg different).trans socket), client, fine⟩
  · exact delivers

theorem Delivers.sendToClient (delivers : net.Delivers env conn) (header : MessageHeader)
    (payload : Payload) (fd : Option Fd) :
    (net.sendToClient env header payload fd).Delivers env conn := by
  unfold Network.sendToClient
  split
  · exact delivers
  · exact delivers.sendMessage header payload _

end Delivery

end Network

namespace Server

section Delivery

variable (env : Env)

def Reaches (server : Server) (userId : UserId) : Prop :=
  ∃ conn, server.getClientConnection userId = some conn ∧ server.net.Delivers env conn

variable {env} {server : Server} {userId : UserId} {header : MessageHeader} {payload : Payload}

theorem sendToPlayer_reached {conn : ConnId} (client : server.getClientConnection userId = some conn)
    (delivers : server.net.Delivers env conn) :
    (server.sendToPlayer env header payload userId).net.sent =
      server.net.sent ++ [⟨conn, header, payload⟩] := by
  simp only [sendToPlayer, client, Network.sendToClient_delivered delivers]

theorem sendToPlayer_unreached (header : MessageHeader) (payload : Payload)
    (own : server.net.OwnDescriptors) (lost : ¬server.Reaches env userId) :
    server.net.Transmits (fun _ => False) (server.sendToPlayer env header payload userId).net := by
  simp only [sendToPlayer]
  split
  · exact Network.Transmits.refl _
  next conn client =>
    exact Network.sendToClient_undelivered own fun delivers => lost ⟨conn, client, delivers⟩

theorem Reaches.sendToPlayer (reaches : server.Reaches env userId) (header : MessageHeader)
    (payload : Payload) (other : UserId) :
    (server.sendToPlayer env header payload other).Reaches env userId := by
  obtain ⟨conn, client, delivers⟩ := reaches
  refine ⟨conn, client, ?_⟩
  simp only [Server.sendToPlayer]
  split
  · exact delivers
  · exact delivers.sendToClient header payload _

theorem Reaches.of_transmits {allowed : Sent → Prop} {later : Server}
    (transmits : server.net.Transmits allowed later.net) (players : later.players = server.players)
    (reaches : later.Reaches env userId) : server.Reaches env userId := by
  obtain ⟨conn, client, delivers⟩ := reaches
  simp only [getClientConnection, players] at client
  exact ⟨conn, client, transmits.delivers delivers⟩

end Delivery

theorem Edit.transmits {env : Env} {server later : Server} (edit : Edit env server later) :
    server.net.Transmits (fun _ => True) later.net := by
  cases edit with
  | quiet kept => exact kept.net.mono fun _ _ => trivial
  | games games => exact Network.Transmits.refl _
  | sends transmits => exact transmits
  | announced matchId winnerId reason => exact Network.Transmits.refl _
  | rated matchId known newElo => exact Network.Transmits.refl _
  | recorded found winner => exact Network.Transmits.refl _

theorem Edits.transmits {env : Env} {server later : Server} (edits : Edits env server later) :
    server.net.Transmits (fun _ => True) later.net := by
  induction edits with
  | refl => exact Network.Transmits.refl _
  | tail _ edit early => exact early.trans edit.transmits

theorem descriptorFree_unused {server : Server} {fd : Fd} (free : server.descriptorFree fd = true)
    (conn : ConnId) : server.net.socketFd conn ≠ some fd := by
  intro socket
  obtain ⟨client, known, connected⟩ := Option.bind_eq_some_iff.mp socket
  simp only [descriptorFree, List.all_eq_true, decide_eq_true_eq] at free
  exact free (conn, client) (Std.ExtTreeMap.mem_toList_iff_getElem?_eq_some.mpr known) connected

theorem acceptConnection_ownDescriptors {server : Server} (own : server.net.OwnDescriptors) {fd : Fd}
    (free : server.descriptorFree fd = true) : (server.acceptConnection fd).net.OwnDescriptors := by
  have unused := descriptorFree_unused free
  intro conn found other socket client
  simp only [acceptConnection, Network.socketFd, Table.lookup_insert] at socket client
  split at client
  next same =>
    subst same
    split at socket
    next new => exact (Option.some.inj client).symm.trans new
    · exact absurd socket (unused conn)
  next different =>
    split at socket
    · simp only [Option.bind_some, Option.some.injEq] at socket
      exact absurd socket different
    · exact own conn found other socket client

theorem step_ownDescriptors (lib : Externals) {server : Server} (good : server.WellFormed)
    (event : Event) (own : server.net.OwnDescriptors) :
    (server.step lib event).net.OwnDescriptors := by
  cases step_shape lib good event with
  | edited edits => exact edits.transmits.ownDescriptors own
  | accepted free opened =>
      rw [opened]
      exact acceptConnection_ownDescriptors own free
  | restarted fresh =>
      intro conn found fd socket
      simp [fresh, restarted, Network.init, Network.socketFd] at socket

theorem Reachable.ownDescriptors {lib : Externals} {server : Server}
    (reachable : server.Reachable lib) : server.net.OwnDescriptors := by
  have both : server.WellFormed ∧ server.net.OwnDescriptors := by
    refine reachable.induction lib (motive := fun server => server.WellFormed ∧
      server.net.OwnDescriptors) ⟨wellFormed_init, ?_⟩ ?_
    · intro conn found fd socket
      simp [init, Network.init, Network.socketFd] at socket
    · exact fun server event held => ⟨step_wellFormed lib server event held.1,
        step_ownDescriptors lib held.1 event held.2⟩
  exact both.2

end Server

end Battleship
