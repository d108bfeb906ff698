import Battleship.People
import Battleship.SessionStore

/-! Who has signed in. A login and the validation of a session authenticate a
connection and are answered on it, a registration adds credentials, a logout deletes
a session; whatever else the server does leaves all of this alone, but for sessions
that have expired. -/

namespace Battleship

open Decimal (Text)

/-- The user and the token that the connection has been authenticated with. -/
def ClientConnection.account (client : ClientConnection) : Option (UserId × Text) :=
  if client.authenticated then some (client.userId, client.sessionToken) else none

def Network.account (net : Network) (conn : ConnId) : Option (UserId × Text) :=
  net.connections[conn]?.bind ClientConnection.account

namespace Network

variable (env : Env) (header : MessageHeader) (payload : Payload) (net : Network)

theorem disconnect_account (conn : ConnId) : (net.disconnect conn).account = net.account := by
  funext other
  simp only [account, disconnect, Table.lookup_modify]
  split
  · cases net.connections[other]? <;> rfl
  · rfl

theorem setAuthenticated_account {conn : ConnId} {client : ClientConnection}
    (known : net.connections[conn]? = some client) (userId : UserId) (token : Text) :
    (net.setAuthenticated conn userId token).account =
      Function.update net.account conn (some (userId, token)) := by
  have changed := Table.read_modify net.connections (Option.bind · ClientConnection.account) conn
    fun client => { client with authenticated := true, userId := userId, sessionToken := token }
  rw [known] at changed
  exact changed

theorem sendMessage_account (conn : ConnId) :
    (net.sendMessage env header payload conn).account = net.account := by
  simp only [sendMessage]
  split
  · rfl
  split
  · exact disconnect_account (net.called ⟨conn, header, payload⟩) conn
  · rfl

theorem Tells.transmits {env : Env} {net later : Network} (tells : Tells env net later) :
    net.Transmits NotSignIn later := by
  induction tells with
  | refl => exact Transmits.refl net
  | tail _ one sent =>
      obtain ⟨type, other, conn⟩ := one
      exact sent.trans (sendMessage_transmits env _ other)

theorem Tells.account {env : Env} {net later : Network} (tells : Tells env net later) :
    later.account = net.account := by
  induction tells with
  | refl => rfl
  | tail _ one same =>
      obtain ⟨type, other, conn⟩ := one
      exact (sendMessage_account ..).trans same

theorem Closes.account {net later : Network} (closes : Closes net later) :
    later.account = net.account := by
  induction closes with
  | refl => rfl
  | tail _ one same =>
      cases one with
      | unlist fd => exact same
      | disconnect conn => exact (disconnect_account _ conn).trans same

theorem broadcast_account : (net.broadcast env header payload).account = net.account :=
  List.foldlRecOn (motive := fun later : Network => later.account = net.account) _ _ rfl
    fun later same entry _ => (sendMessage_account env header payload later entry.2).trans same

end Network

namespace Server

/-- Nobody has signed in or out, and no credentials were added. -/
structure Ordinary (now : Nat) (server later : Server) : Prop where
  sent : server.net.Transmits NotSignIn later.net
  account : later.net.account = server.net.account
  db : server.db.Leaves now later.db

namespace Ordinary

theorem refl (now : Nat) (server : Server) : server.Ordinary now server :=
  ⟨Network.Transmits.refl _, rfl, Database.Leaves.refl now _⟩

theorem trans {now : Nat} {first second third : Server} (early : first.Ordinary now second)
    (late : second.Ordinary now third) : first.Ordinary now third :=
  ⟨early.sent.trans late.sent, late.account.trans early.account, early.db.trans late.db⟩

end Ordinary

theorem Work.ordinary {duty : Duty} {env : Env} {server later : Server}
    (work : Work duty env server later) : server.Ordinary env.now later := by
  induction work with
  | refl => exact Ordinary.refl env.now server
  | tail _ act kept =>
      refine kept.trans ?_
      cases act with
      | statement made => exact ⟨Network.Transmits.refl _, rfl, made.leaves⟩
      | createMatch allowed player1Id player2Id =>
          exact ⟨Network.Transmits.refl _, rfl, Database.createMatch_leaves ..⟩
      | tells tells => exact ⟨tells.transmits, tells.account, Database.Leaves.refl _ _⟩
      | manager | games | setMatch | removeMatch | journal | status =>
          exact ⟨Network.Transmits.refl _, rfl, Database.Leaves.refl _ _⟩

namespace Ordinary

variable {env : Env} {server later : Server} (kept : server.Ordinary env.now later)

include kept

theorem withNet {net : Network} (sent : later.net.Transmits NotSignIn net)
    (account : net.account = later.net.account) :
    server.Ordinary env.now { later with net := net } :=
  kept.trans ⟨sent, account, Database.Leaves.refl _ _⟩

theorem withDb {db : Database} (leaves : later.db.Leaves env.now db) :
    server.Ordinary env.now { later with db := db } :=
  kept.trans ⟨Network.Transmits.refl _, rfl, leaves⟩

section Sending

variable {payload : Payload} (other : payload.signsIn? = none) (header : MessageHeader)

include other

theorem sendOn (conn : ConnId) : server.Ordinary env.now (later.sendOn env header payload conn) :=
  kept.withNet (sendOn_transmits env later other) (Network.sendMessage_account ..)

theorem tellPlayer (userId : UserId) :
    server.Ordinary env.now (later.tellPlayer env header payload userId) := by
  refine kept.withNet (tellPlayer_transmits env later fun _ => other) ?_
  split
  · rfl
  · exact Network.sendMessage_account ..

end Sending

theorem removePlayer (userId : UserId) :
    server.Ordinary env.now (later.removePlayer env userId) := by
  have erased : server.Ordinary env.now { later with players := later.players.erase userId } :=
    ⟨kept.sent, kept.account, kept.db⟩
  exact erased.trans (removePlayer_work env userId later).ordinary

end Ordinary

theorem HandlerWork.ordinary {duty : Duty} {env : Env} {server later : Server}
    (work : HandlerWork duty env server later) : server.Ordinary env.now later := by
  cases work with
  | work kept => exact kept.ordinary
  | refusal pairs other userId => exact (Ordinary.refl env.now server).tellPlayer other _ userId

theorem Removal.ordinary {lib : Externals} {env : Env} {fd : Fd} {server later : Server}
    {user : Option UserId} (removal : Removal lib env fd server user later) :
    server.Ordinary env.now later := by
  have same := Ordinary.refl env.now server
  cases removal with
  | nobody closes => exact same.withNet closes.transmits closes.account
  | @user net last userId closes _ closed =>
      have ended := (same.withNet closes.transmits closes.account).trans
        (handlePlayerDisconnect_work lib env (.refl _) userId).ordinary
      exact (ended.removePlayer userId).withNet closed.transmits closed.account

/-- What a response says about the account: a login gives the token, as far as it fits its
field; the validation of a session gives the name of the user only. -/
def Attests (userId : UserId) (token : Text) : Payload → Prop
  | .loginResponse true shown shownToken .. => shown = userId ∧ shownToken = safeStrCopy 64 token
  | .sessionValidateResponse true shown shownName .. =>
      shown = userId ∧ ∃ username, shownName = safeStrCopy 32 username
  | _ => True

/-- If it signs its receiver in, it does so on the connection and as the account. -/
def SignsInOn (conn : ConnId) (userId : UserId) (token : Text) (message : Sent) : Prop :=
  NotSignIn message ∨ message.conn = conn ∧ Attests userId token message.payload

structure SignsIn (conn : ConnId) (userId : UserId) (token : Text) (server later : Server) :
    Prop where
  sent : server.net.Transmits (SignsInOn conn userId token) later.net
  account : later.net.account = Function.update server.net.account conn (some (userId, token))

/-- The event is a login with the password of the user, who gets the token. -/
def LogsIn (lib : Externals) (server : Server) (event : Event) (userId : UserId) (token : Text) :
    Prop :=
  ∃ header username password user, server.Handles event header (.login username password) ∧
    server.db.getUserByUsername username = some (userId, user) ∧
    PasswordHash.verifyPassword lib password user.passwordHash = true ∧
    token = generateSessionToken event.env userId

theorem LogsIn.hasUser {lib : Externals} {server : Server} {event : Event} {userId : UserId}
    {token : Text} (login : server.LogsIn lib event userId token) : server.db.HasUser userId := by
  obtain ⟨header, username, password, user, -, found, -⟩ := login
  have member := List.mem_of_find?_eq_some (show server.db.users.toList.find? _ = _ from found)
  rw [Std.ExtTreeMap.mem_toList_iff_getElem?_eq_some] at member
  simp [Database.HasUser, member]

inductive SignStep (lib : Externals) (event : Event) (server later : Server) : Prop
  | ordinary (kept : server.Ordinary event.env.now later)
  | registered (username passwordHash displayName : Text)
      (sent : server.net.Transmits NotSignIn later.net)
      (account : later.net.account = server.net.account)
      (db : later.db =
        (server.db.createUser event.env.now username passwordHash displayName).1)
  | loggedIn (conn : ConnId) (userId : UserId)
      (login : server.LogsIn lib event userId (generateSessionToken event.env userId))
      (signs : SignsIn conn userId (generateSessionToken event.env userId) server later)
      (db : Database.Leaves event.env.now (server.db.createSession event.env.now userId
        (generateSessionToken event.env userId) 24).1 later.db)
  | validated (conn : ConnId) (token : Text) (session : Session)
      (found : server.db.getSessionByToken token = some session)
      (signs : SignsIn conn session.userId token server later)
      (db : server.db.Leaves event.env.now later.db)
  | loggedOut (conn : ConnId) (header token : Text)
      (acted : event.action = .message conn header (.logout token))
      (sent : server.net.Transmits NotSignIn later.net)
      (account : later.net.account = server.net.account)
      (db : Database.Leaves event.env.now
        ((server.db.validateSession event.env.now token).1.deleteSession token) later.db)
  | connected (sent : later.net.sent = server.net.sent)
      (account : ∀ conn, later.net.account conn = server.net.account conn ∨
        later.net.account conn = none)
      (db : later.db = server.db)

section Requests

variable (lib : Externals) (env : Env) (conn : ConnId) {server : Server}

theorem SignsIn.present {client : ClientConnection}
    (known : server.net.connections[conn]? = some client) {signed : Server} {userId : UserId}
    {token : Text} (net : signed.net = server.net.setAuthenticated conn userId token)
    {response : Payload} (attests : Attests userId token response) (username displayName : Text)
    (eloRating : Int) :
    SignsIn conn userId token server ((signed.sendResponse env conn response).addPlayer env conn
      userId username displayName eloRating) := by
  constructor
  · have authenticated : server.net.Transmits (SignsInOn conn userId token) signed.net :=
      net ▸ Network.setAuthenticated_transmits ..
    have answered : signed.net.Transmits (SignsInOn conn userId token)
        (signed.sendResponse env conn response).net :=
      sendOn_transmits env signed (Or.inr ⟨rfl, attests⟩)
    refine (authenticated.trans answered).trans ?_
    exact addPlayer_transmits env _ (fun _ _ _ _ _ _ => Or.inl rfl) ..
  · rw [← Network.setAuthenticated_account server.net known, ← net]
    exact (Network.broadcast_account ..).trans (Network.sendMessage_account ..)

theorem handleRegister_signs (event : Event) (username password displayName : Text) :
    SignStep lib event server
      (server.handleRegister lib event.env conn username password displayName) := by
  unfold handleRegister
  split
  · exact .ordinary ((Ordinary.refl _ server).sendOn rfl _ conn)
  dsimp only
  split <;>
    exact .registered username _ displayName (sendOn_transmits event.env _ rfl)
      (Network.sendMessage_account ..) rfl

theorem handleLogin_signs (event : Event) (kept : server.db.SessionsKept)
    {client : ClientConnection} (known : server.net.connections[conn]? = some client)
    {header username password : Text}
    (handled : server.Handles event header (.login username password)) :
    SignStep lib event server (server.handleLogin lib event.env conn username password) := by
  have same := Ordinary.refl event.env.now server
  unfold handleLogin
  split
  · exact .ordinary (same.sendOn rfl _ conn)
  next userId user found =>
    split
    · exact .ordinary (same.sendOn rfl _ conn)
    next verified =>
      have login : server.LogsIn lib event userId (generateSessionToken event.env userId) :=
        ⟨header, username, password, user, handled, found, by simpa using verified, rfl⟩
      dsimp only
      split
      next created =>
        refine .loggedIn conn userId login (.present event.env conn known rfl ?_ ..) ?_
        · exact ⟨rfl, rfl⟩
        · exact Database.updateLastLogin_leaves event.env.now _ userId
      next refused =>
        have unchanged : (server.db.createSession event.env.now userId
            (generateSessionToken event.env userId) 24).1 = server.db := by
          rw [Database.createSession_eq] at refused ⊢
          split
          next free =>
            rw [if_pos free] at refused
            exact absurd kept.nextSession refused
          · rfl
        rw [unchanged]
        exact .ordinary (same.sendOn rfl _ conn)

theorem handleLogout_deletes (server : Server) (client : ClientConnection) (token : Text) :
    Ordinary env.now
      { server with db := (server.db.validateSession env.now token).1.deleteSession token }
      (server.handleLogout env conn client token) := by
  unfold handleLogout
  dsimp only
  refine Ordinary.sendOn ?_ rfl _ conn
  generalize (if (server.db.validateSession env.now token).2 = 0 then client.userId
    else (server.db.validateSession env.now token).2) = userId
  split
  · exact (Ordinary.refl _ _).removePlayer userId
  · exact Ordinary.refl _ _

theorem handleValidateSession_signs (event : Event) {client : ClientConnection}
    (known : server.net.connections[conn]? = some client) (token : Text) :
    SignStep lib event server (server.handleValidateSession event.env conn token) := by
  have leaves := Database.validateSession_leaves event.env.now server.db token
  have checked := (Ordinary.refl event.env.now server).withDb leaves
  unfold handleValidateSession
  dsimp only
  split
  · exact .ordinary (checked.sendOn rfl _ conn)
  next valid =>
    split
    · exact .ordinary (checked.sendOn rfl _ conn)
    next user _ =>
      have row : ∃ session, server.db.getSessionByToken token = some session ∧
          (server.db.validateSession event.env.now token).2 = session.userId := by
        unfold Database.validateSession at valid ⊢
        cases found : server.db.getSessionByToken token with
        | none => simp [found] at valid
        | some session =>
            simp only [found] at valid ⊢
            split at valid
            · exact absurd rfl valid
            next unexpired => exact ⟨session, rfl, by rw [if_neg unexpired]⟩
      obtain ⟨session, found, same⟩ := row
      rw [same]
      refine .validated conn token session found (.present event.env conn known rfl ?_ ..) leaves
      exact ⟨rfl, user.username, rfl⟩

theorem routeMessage_signs (event : Event) (kept : server.db.SessionsKept)
    {client : ClientConnection} (known : server.net.connections[conn]? = some client)
    {token : Text} {request : Request} (acted : event.action = .message conn token request)
    (handled : server.Handles event token request) :
    SignStep lib event server (server.routeMessage lib event.env conn client token request) := by
  cases request with
  | login username password => exact handleLogin_signs lib conn event kept known handled
  | validateSession sessionToken =>
      exact handleValidateSession_signs lib conn event known sessionToken
  | logout sessionToken =>
      have deleted := handleLogout_deletes event.env conn server client sessionToken
      exact .loggedOut conn token sessionToken acted deleted.sent deleted.account deleted.db
  | register username password displayName =>
      exact handleRegister_signs lib conn event username password displayName
  | _ => exact .ordinary (routeMessage_work lib event.env conn client token server rfl).ordinary

end Requests

theorem acceptConnection_account (fd : Fd) (server : Server) (conn : ConnId) :
    (server.acceptConnection fd).net.account conn = server.net.account conn ∨
      (server.acceptConnection fd).net.account conn = none := by
  simp only [Network.account, acceptConnection, Table.lookup_insert]
  split
  · exact Or.inr rfl
  · exact Or.inl rfl

theorem stopServing_account (conn : ConnId) (server : Server) :
    (server.stopServing conn).net.account = server.net.account := by
  funext other
  simp only [Network.account, stopServing, Table.lookup_modify]
  split
  · cases server.net.connections[other]? <;> rfl
  · rfl

theorem step_signs (lib : Externals) {server : Server} (kept : server.db.SessionsKept)
    (event : Event) : SignStep lib event server (server.step lib event) := by
  have same := Ordinary.refl event.env.now server
  cases step_call lib server event with
  | idle _ stepped =>
      rw [stepped]
      exact .ordinary same
  | accepted fd _ _ stepped =>
      rw [stepped]
      exact .connected rfl (acceptConnection_account fd server) rfl
  | routed conn client token request acted known live stepped =>
      rw [stepped]
      exact routeMessage_signs lib conn event kept known acted ⟨conn, client, acted, known, live⟩
  | receiveFailed conn _ stepped =>
      rw [stepped]
      exact .ordinary (same.withNet (Network.disconnect_transmits server.net conn)
        (Network.disconnect_account server.net conn))
  | removed conn client _ _ _ stepped =>
      rw [stepped]
      have removed := (removeClient_removal lib event.env client.threadFd server).ordinary
      exact .ordinary (removed.withNet (Network.modify_transmits _ conn (by simp))
        (stopServing_account conn _))
  | swept _ stepped =>
      rw [stepped]
      exact .ordinary (checkTurnTimeouts_work lib event.env (.refl server)).ordinary
  | restarted _ stepped =>
      rw [stepped]
      exact .connected rfl (fun _ => Or.inr rfl) rfl

def HoldsSession (server : Server) (userId : UserId) (token : Text) : Prop :=
  ∃ session ∈ server.db.sessions, session.userId = userId ∧ session.sessionToken = token

/-- A connection is authenticated as the user and with the token, or a session has them. -/
def Signed (server : Server) (userId : UserId) (token : Text) : Prop :=
  (∃ conn, server.net.account conn = some (userId, token)) ∨ server.HoldsSession userId token

/-- Accounts and sessions are old, or new by a login. -/
structure Sourced (lib : Externals) (server : Server) (event : Event) (later : Server) : Prop where
  accounts : ∀ conn userId token, later.net.account conn = some (userId, token) →
    server.Signed userId token ∨ server.LogsIn lib event userId token
  sessions : ∀ session ∈ later.db.sessions, session ∈ server.db.sessions ∨
    server.LogsIn lib event session.userId session.sessionToken ∧
      session.expiresAt = event.env.now + 24 * 3600

section Sources

variable {lib : Externals} {server later : Server} {event : Event}

theorem Sourced.of_kept (account : later.net.account = server.net.account)
    (sessions : later.db.sessions ⊆ server.db.sessions) : Sourced lib server event later :=
  ⟨fun conn _ _ known => .inl (.inl ⟨conn, account ▸ known⟩),
    fun _ member => .inl (sessions member)⟩

/-- A connection is authenticated as the account of a login or of a session. -/
theorem SignsIn.accounts {conn : ConnId} {userId : UserId} {token : Text}
    (signs : SignsIn conn userId token server later)
    (source : server.Signed userId token ∨ server.LogsIn lib event userId token) :
    ∀ other shown shownToken, later.net.account other = some (shown, shownToken) →
      server.Signed shown shownToken ∨ server.LogsIn lib event shown shownToken := by
  intro other shown shownToken known
  rw [signs.account, Function.update_apply] at known
  split at known
  · obtain ⟨rfl, rfl⟩ := Prod.mk.inj (Option.some.inj known)
    exact source
  · exact .inl (.inl ⟨other, known⟩)

theorem SignStep.sourced (signs : SignStep lib event server later) :
    Sourced lib server event later := by
  cases signs with
  | ordinary ordinary => exact .of_kept ordinary.account ordinary.db.sessions.subset
  | registered username passwordHash displayName _ account db =>
      refine .of_kept account ?_
      rw [db, Database.createUser]
      split <;> exact List.Subset.refl _
  | loggedIn conn userId login signs db =>
      refine ⟨signs.accounts (.inr login), fun session member => ?_⟩
      have created := db.sessions.subset member
      rw [Database.createSession_eq] at created
      split at created
      · rcases List.mem_append.mp created with old | new
        · exact .inl old
        · obtain rfl := List.mem_singleton.mp new
          exact .inr ⟨login, by simp⟩
      · exact .inl created
  | validated conn token session found signs db =>
      have held : server.HoldsSession session.userId token :=
        ⟨session, List.mem_of_find?_eq_some found, rfl, Database.getSessionByToken_token found⟩
      exact ⟨signs.accounts (.inl (.inr held)), fun _ member => .inl (db.sessions.subset member)⟩
  | loggedOut conn header token _ _ account db =>
      have checked := Database.validateSession_leaves event.env.now server.db token
      exact .of_kept account fun session member =>
        checked.sessions.subset (List.mem_of_mem_filter (db.sessions.subset member))
  | connected _ account db =>
      refine ⟨fun conn userId token known => ?_, fun session member => .inl (db ▸ member)⟩
      rcases account conn with same | gone
      · exact .inl (.inl ⟨conn, same ▸ known⟩)
      · rw [gone] at known
        cases known

end Sources

end Server

end Battleship
