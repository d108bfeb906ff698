import Battleship.DatabaseFacts
import Battleship.ServerStep

/-! What the sends and the handlers outside a match leave alone. Sending touches
the network only, and only `sendMatchEnd` sends the end of a match. -/

namespace Battleship

open Decimal (Text)

namespace Network

structure Transmits (allowed : Sent → Prop) (net later : Network) : Prop where
  sent : ∃ added, later.sent = net.sent ++ added ∧ ∀ message ∈ added, allowed message
  clients : ∀ (fd : Fd) (conn : ConnId), later.clients[fd]? = some conn →
    net.clients[fd]? = some conn
  sockets : ∀ (conn : ConnId) (fd : Fd), later.socketFd conn = some fd →
    net.socketFd conn = some fd
  logged : net.sent ⊆ net.calls → later.sent ⊆ later.calls

def matchEnds (net : Network) (matchId : MatchId) : List Sent :=
  net.sent.filter fun message => message.payload.endedMatch? = some matchId

section Transmits

variable {allowed : Sent → Prop}

theorem Transmits.refl (net : Network) : net.Transmits allowed net :=
  ⟨⟨[], by simp⟩, fun _ _ found => found, fun _ _ found => found, id⟩

theorem Transmits.trans {first second third : Network} (early : first.Transmits allowed second)
    (late : second.Transmits allowed third) : first.Transmits allowed third := by
  obtain ⟨added, split, permitted⟩ := early.sent
  obtain ⟨added', split', permitted'⟩ := late.sent
  refine ⟨⟨added ++ added', by rw [split', split, List.append_assoc], ?_⟩, ?_, ?_,
    late.logged ∘ early.logged⟩
  · intro message member
    rcases List.mem_append.mp member with old | new
    · exact permitted message old
    · exact permitted' message new
  · exact fun fd conn found => early.clients fd conn (late.clients fd conn found)
  · exact fun conn fd found => early.sockets conn fd (late.sockets conn fd found)

theorem Transmits.mono {wider : Sent → Prop} {net later : Network}
    (transmits : net.Transmits allowed later) (weaker : ∀ message, allowed message → wider message) :
    net.Transmits wider later := by
  obtain ⟨added, split, permitted⟩ := transmits.sent
  exact ⟨⟨added, split, fun message member => weaker message (permitted message member)⟩,
    transmits.clients, transmits.sockets, transmits.logged⟩

theorem Transmits.filter {net later : Network} (transmits : net.Transmits allowed later)
    {test : Sent → Bool} (refused : ∀ message, allowed message → test message = false) :
    later.sent.filter test = net.sent.filter test := by
  obtain ⟨added, split, permitted⟩ := transmits.sent
  have none : added.filter test = [] := by
    rw [List.filter_eq_nil_iff]
    intro message member
    simp [refused message (permitted message member)]
  rw [split, List.filter_append, none, List.append_nil]

theorem Transmits.matchEnds {net later : Network} {matchId : MatchId}
    (transmits : net.Transmits (fun message => message.payload.endedMatch? ≠ some matchId) later) :
    later.matchEnds matchId = net.matchEnds matchId :=
  transmits.filter fun _ other => decide_eq_false other

theorem socketFd_modify (net : Network) (conn other : ConnId)
    (change : ClientConnection → ClientConnection) :
    { net with connections := net.connections.modify conn change }.socketFd other =
      if conn = other then (net.connections[other]?.map change).bind ClientConnection.socketFd
      else net.socketFd other := by
  simp only [socketFd, Table.lookup_modify]
  split <;> rfl

theorem modify_transmits (net : Network) (conn : ConnId)
    {change : ClientConnection → ClientConnection}
    (narrows : ∀ client fd, (change client).socketFd = some fd → client.socketFd = some fd) :
    net.Transmits allowed { net with connections := net.connections.modify conn change } := by
  refine ⟨⟨[], by simp⟩, fun _ _ found => found, ?_, id⟩
  intro other fd found
  rw [socketFd_modify] at found
  split at found
  · obtain ⟨client, known, open_⟩ := Option.bind_eq_some_iff.mp found
    obtain ⟨old, knownOld, rfl⟩ := Option.map_eq_some_iff.mp known
    exact Option.bind_eq_some_iff.mpr ⟨old, knownOld, narrows old fd open_⟩
  · exact found

theorem disconnect_transmits (net : Network) (conn : ConnId) :
    net.Transmits allowed (net.disconnect conn) :=
  modify_transmits net conn (by simp)

theorem setAuthenticated_transmits (net : Network) (conn : ConnId) (userId : UserId)
    (token : Text) : net.Transmits allowed (net.setAuthenticated conn userId token) :=
  modify_transmits net conn (by simp)

theorem erase_transmits (net : Network) (fd : Fd) :
    net.Transmits allowed { net with clients := net.clients.erase fd } := by
  refine ⟨⟨[], by simp⟩, ?_, fun _ _ found => found, id⟩
  intro other conn found
  simp only [Table.lookup_erase] at found
  split at found
  · simp at found
  · exact found

@[simp] theorem called_socketFd (net : Network) (call : Sent) (conn : ConnId) :
    (net.called call).socketFd conn = net.socketFd conn := rfl

theorem called_transmits (net : Network) (call : Sent) : net.Transmits allowed (net.called call) :=
  ⟨⟨[], by simp [called]⟩, fun _ _ found => found, fun _ _ found => found,
    fun logged => List.Subset.trans logged (List.subset_append_left ..)⟩

variable (env : Env) {header : MessageHeader} {payload : Payload}

theorem sendMessage_transmits (net : Network) {conn : ConnId}
    (permitted : allowed ⟨conn, header, payload⟩) :
    net.Transmits allowed (net.sendMessage env header payload conn) := by
  have called : net.Transmits allowed (net.called ⟨conn, header, payload⟩) :=
    called_transmits net _
  simp only [sendMessage]
  split
  · exact called
  split
  · exact called.trans (disconnect_transmits _ conn)
  · refine ⟨⟨[⟨conn, header, payload⟩], rfl, by simpa using permitted⟩, fun _ _ found => found,
      fun _ _ found => found, fun logged => ?_⟩
    exact List.append_subset.mpr ⟨called.logged logged, List.subset_append_right ..⟩

theorem sendToClient_transmits (net : Network) {fd : Option Fd}
    (permitted : ∀ conn, (fd.bind fun fd => net.clients[fd]?) = some conn →
      allowed ⟨conn, header, payload⟩) :
    net.Transmits allowed (net.sendToClient env header payload fd) := by
  unfold sendToClient
  split
  · exact Transmits.refl net
  next conn found => exact sendMessage_transmits env net (permitted conn found)

theorem broadcast_transmits (net : Network) (permitted : ∀ conn, allowed ⟨conn, header, payload⟩) :
    net.Transmits allowed (net.broadcast env header payload) := by
  unfold broadcast
  refine List.foldlRecOn (motive := fun later => net.Transmits allowed later) _ _
    (Transmits.refl net) ?_
  exact fun later transmits entry _ =>
    transmits.trans (sendMessage_transmits env later (permitted entry.2))

end Transmits

end Network

namespace Server

section Sends

variable (env : Env) {allowed : Sent → Prop} {header : MessageHeader} {payload : Payload}
  (server : Server)

theorem sendOn_transmits {conn : ConnId} (permitted : allowed ⟨conn, header, payload⟩) :
    server.net.Transmits allowed (server.sendOn env header payload conn).net :=
  Network.sendMessage_transmits env server.net permitted

theorem sendToClient_transmits {fd : Option Fd}
    (permitted : ∀ conn, (fd.bind fun fd => server.net.clients[fd]?) = some conn →
      allowed ⟨conn, header, payload⟩) :
    server.net.Transmits allowed (server.sendToClient env header payload fd).net :=
  Network.sendToClient_transmits env server.net permitted

theorem tellPlayer_transmits {userId : UserId} (permitted : ∀ conn, allowed ⟨conn, header, payload⟩) :
    server.net.Transmits allowed (server.tellPlayer env header payload userId).net := by
  simp only [tellPlayer]
  split
  · exact Network.Transmits.refl _
  · exact Network.sendMessage_transmits env server.net (permitted _)

theorem sendToPlayer_transmits {userId : UserId}
    (permitted : ∀ conn, allowed ⟨conn, header, payload⟩) :
    server.net.Transmits allowed (server.sendToPlayer env header payload userId).net := by
  simp only [sendToPlayer]
  split
  · exact Network.Transmits.refl _
  · exact Network.sendToClient_transmits env server.net fun conn _ => permitted conn

section StatusUpdates

variable (permitted : ∀ conn header userId status displayName eloRating,
  allowed ⟨conn, header, .playerStatusUpdate userId status displayName eloRating⟩)

include permitted

theorem broadcastPlayerStatusUpdate_transmits (userId : UserId) (status : PlayerStatus) :
    server.net.Transmits allowed (server.broadcastPlayerStatusUpdate env userId status).net := by
  refine Network.broadcast_transmits env server.net fun conn => ?_
  unfold statusUpdate
  split <;> exact permitted ..

theorem addPlayer_transmits (conn : ConnId) (userId : UserId) (username displayName : Text)
    (eloRating : Int) :
    server.net.Transmits allowed
      (server.addPlayer env conn userId username displayName eloRating).net :=
  broadcastPlayerStatusUpdate_transmits env { server with
    players := server.players.insert userId ⟨username, displayName, eloRating, .available, conn⟩ }
    permitted userId .available

theorem broadcastIf_transmits (online : Bool) (userId : UserId) (status : PlayerStatus) :
    server.net.Transmits allowed (server.broadcastIf env online userId status).net := by
  simp only [broadcastIf]
  split
  · exact broadcastPlayerStatusUpdate_transmits env server permitted ..
  · exact Network.Transmits.refl _

theorem removePlayer_transmits (userId : UserId) :
    server.net.Transmits allowed (server.removePlayer env userId).net :=
  broadcastIf_transmits env { server with players := server.players.erase userId } permitted ..

theorem updatePlayerStatus_transmits (userId : UserId) (status : PlayerStatus) :
    server.net.Transmits allowed (server.updatePlayerStatus env userId status).net :=
  broadcastIf_transmits env { server with
    players := server.players.modify userId fun data => { data with status := status } }
    permitted ..

end StatusUpdates

end Sends

def NoMatchEnd (message : Sent) : Prop := message.payload.endedMatch? = none

theorem matchEnds_of_noMatchEnd {server later : Server}
    (transmits : server.net.Transmits NoMatchEnd later.net) (matchId : MatchId) :
    later.net.matchEnds matchId = server.net.matchEnds matchId :=
  (transmits.mono fun message none => by simp only [NoMatchEnd] at none; simp [none]).matchEnds

/-- A change that concerns no match: games and the record of endings stay, no
ending is announced, and ratings and match rows stay. -/
structure KeepsMatches (server later : Server) : Prop where
  games : later.games = server.games
  journal : later.journal = server.journal
  net : server.net.Transmits NoMatchEnd later.net
  db : server.db.Kept later.db

theorem KeepsMatches.refl (server : Server) : server.KeepsMatches server :=
  ⟨rfl, rfl, Network.Transmits.refl _, Database.Kept.refl _⟩

theorem KeepsMatches.trans {first second third : Server} (early : first.KeepsMatches second)
    (late : second.KeepsMatches third) : first.KeepsMatches third :=
  ⟨late.games.trans early.games, late.journal.trans early.journal, early.net.trans late.net,
    early.db.trans late.db⟩

namespace KeepsMatches

variable (env : Env) {server later : Server} (kept : server.KeepsMatches later)

include kept

theorem matchEnds (matchId : MatchId) : later.net.matchEnds matchId = server.net.matchEnds matchId :=
  matchEnds_of_noMatchEnd kept.net matchId

theorem withDb {db : Database} (keeps : later.db.Kept db) :
    server.KeepsMatches { later with db := db } :=
  kept.trans ⟨rfl, rfl, Network.Transmits.refl _, keeps⟩

theorem withNet {net : Network} (transmits : later.net.Transmits NoMatchEnd net) :
    server.KeepsMatches { later with net := net } :=
  kept.trans ⟨rfl, rfl, transmits, Database.Kept.refl _⟩

theorem withManager (manager : ChallengeManager) :
    server.KeepsMatches { later with manager := manager } :=
  kept.trans ⟨rfl, rfl, Network.Transmits.refl _, Database.Kept.refl _⟩

theorem sendOn {payload : Payload} (other : payload.endedMatch? = none) (header : MessageHeader)
    (conn : ConnId) : server.KeepsMatches (later.sendOn env header payload conn) :=
  kept.withNet (sendOn_transmits env later other)

theorem tellPlayer {payload : Payload} (other : payload.endedMatch? = none) (header : MessageHeader)
    (userId : UserId) : server.KeepsMatches (later.tellPlayer env header payload userId) :=
  kept.withNet (tellPlayer_transmits env later fun _ => other)

theorem sendToPlayer {payload : Payload} (other : payload.endedMatch? = none)
    (header : MessageHeader) (userId : UserId) :
    server.KeepsMatches (later.sendToPlayer env header payload userId) :=
  kept.withNet (sendToPlayer_transmits env later fun _ => other)

theorem sendToClient {payload : Payload} (other : payload.endedMatch? = none)
    (header : MessageHeader) (fd : Option Fd) :
    server.KeepsMatches (later.sendToClient env header payload fd) :=
  kept.withNet (sendToClient_transmits env later fun _ _ => other)

theorem addPlayer (conn : ConnId) (userId : UserId) (username displayName : Text)
    (eloRating : Int) :
    server.KeepsMatches (later.addPlayer env conn userId username displayName eloRating) :=
  kept.trans ⟨rfl, rfl, addPlayer_transmits env later (fun _ _ _ _ _ _ => rfl) ..,
    Database.Kept.refl _⟩

theorem removePlayer (userId : UserId) : server.KeepsMatches (later.removePlayer env userId) :=
  kept.trans ⟨rfl, rfl, removePlayer_transmits env later (fun _ _ _ _ _ _ => rfl) ..,
    Database.Kept.refl _⟩

theorem updatePlayerStatus (userId : UserId) (status : PlayerStatus) :
    server.KeepsMatches (later.updatePlayerStatus env userId status) :=
  kept.trans ⟨rfl, rfl, updatePlayerStatus_transmits env later (fun _ _ _ _ _ _ => rfl) ..,
    Database.Kept.refl _⟩

end KeepsMatches

def Clerical (message : Sent) : Prop :=
  match message.payload with
  | .registerResponse .. | .loginResponse .. | .logoutResponse .. | .sessionValidateResponse ..
  | .playerStatusUpdate .. => True
  | _ => False

structure Aside (server later : Server) : Prop where
  manager : later.manager = server.manager
  games : later.games = server.games
  journal : later.journal = server.journal
  net : server.net.Transmits Clerical later.net
  db : server.db.Kept later.db
  tables : server.db.Aside later.db

theorem Aside.keepsMatches {server later : Server} (aside : server.Aside later) :
    server.KeepsMatches later := by
  refine ⟨aside.games, aside.journal, aside.net.mono ?_, aside.db⟩
  rintro ⟨conn, header, payload⟩ clerical
  cases payload <;> first | rfl | exact clerical.elim

namespace Aside

theorem refl (server : Server) : server.Aside server :=
  ⟨rfl, rfl, rfl, Network.Transmits.refl _, Database.Kept.refl _, Database.Aside.refl _⟩

variable (env : Env) {server later : Server} (aside : server.Aside later)

include aside

theorem withDb {db : Database} (keeps : later.db.Kept db) (tables : later.db.Aside db) :
    server.Aside { later with db := db } :=
  ⟨aside.manager, aside.games, aside.journal, aside.net, aside.db.trans keeps,
    aside.tables.trans tables⟩

theorem withNet {net : Network} (transmits : later.net.Transmits Clerical net) :
    server.Aside { later with net := net } :=
  ⟨aside.manager, aside.games, aside.journal, aside.net.trans transmits, aside.db, aside.tables⟩

theorem sendOn {header : MessageHeader} {payload : Payload} {conn : ConnId}
    (clerical : Clerical ⟨conn, header, payload⟩) :
    server.Aside (later.sendOn env header payload conn) :=
  aside.withNet (sendOn_transmits env later clerical)

theorem addPlayer (conn : ConnId) (userId : UserId) (username displayName : Text)
    (eloRating : Int) :
    server.Aside (later.addPlayer env conn userId username displayName eloRating) :=
  ⟨aside.manager, aside.games, aside.journal,
    aside.net.trans (addPlayer_transmits env later (fun _ _ _ _ _ _ => trivial) ..), aside.db,
    aside.tables⟩

theorem removePlayer (userId : UserId) : server.Aside (later.removePlayer env userId) :=
  ⟨aside.manager, aside.games, aside.journal,
    aside.net.trans (removePlayer_transmits env later (fun _ _ _ _ _ _ => trivial) ..), aside.db,
    aside.tables⟩

end Aside

section Auth

variable (lib : Externals) (env : Env) (server : Server) (conn : ConnId)

theorem handleRegister_aside (username password displayName : Text) :
    server.Aside (server.handleRegister lib env conn username password displayName) := by
  have same := Aside.refl server
  unfold handleRegister
  split
  · exact same.sendOn env trivial
  have created := same.withDb (Database.kept_createUser env.now username
    (PasswordHash.hashPassword lib env.salt password) displayName) (Database.createUser_aside ..)
  dsimp only
  split <;> exact created.sendOn env trivial

theorem handleLogin_aside (username password : Text) :
    server.Aside (server.handleLogin lib env conn username password) := by
  have same := Aside.refl server
  unfold handleLogin
  split
  · exact same.sendOn env trivial
  next userId user found =>
    split
    · exact same.sendOn env trivial
    have created := same.withDb (Database.kept_createSession env.now userId
      (generateSessionToken env userId) 24) (Database.createSession_aside ..)
    dsimp only
    split
    · have updated := created.withDb (Database.kept_updateLastLogin env.now userId) ⟨rfl, rfl, rfl⟩
      have authenticated := updated.withNet (Network.setAuthenticated_transmits server.net conn userId
        (generateSessionToken env userId))
      refine (authenticated.sendOn env ?_).addPlayer env ..
      exact trivial
    · exact created.sendOn env trivial

theorem handleLogout_aside (client : ClientConnection) (token : Text) :
    server.Aside (server.handleLogout env conn client token) := by
  have checked := (Aside.refl server).withDb (Database.kept_validateSession env.now token)
    (Database.validateSession_aside ..)
  have deleted := checked.withDb (Database.kept_deleteSession token) ⟨rfl, rfl, rfl⟩
  unfold handleLogout
  dsimp only
  refine Aside.sendOn env ?_ trivial
  generalize (if (server.db.validateSession env.now token).2 = 0 then client.userId
    else (server.db.validateSession env.now token).2) = userId
  split
  · exact deleted.removePlayer env userId
  · exact deleted

theorem handleValidateSession_aside (token : Text) :
    server.Aside (server.handleValidateSession env conn token) := by
  have checked := (Aside.refl server).withDb (Database.kept_validateSession env.now token)
    (Database.validateSession_aside ..)
  unfold handleValidateSession
  dsimp only
  split
  · exact checked.sendOn env trivial
  split
  · exact checked.sendOn env trivial
  · have authenticated := checked.withNet (Network.setAuthenticated_transmits server.net conn
      (server.db.validateSession env.now token).2 token)
    refine (authenticated.sendOn env ?_).addPlayer env ..
    exact trivial

theorem keeps_playerListRequest : server.KeepsMatches (server.handlePlayerListRequest env conn) :=
  (KeepsMatches.refl server).sendOn env rfl _ conn

end Auth

end Server

end Battleship
