import Battleship.ResponseRouting
import Battleship.SessionTokens

/-! A client with the server behind it: connections that come and go, requests and
responses under way, and what the client takes for the token of its session. -/

namespace Battleship

open Decimal (Text)

/-- `receive_thread_`; one that has ended still has to be joined. -/
inductive ReceiveThread
  | none | running | ended
deriving DecidableEq

/-- A message on its way to the client, and whom the server has authenticated the
connection as; that is not part of the message. -/
structure Delivery where
  type : MessageType
  payload : Payload
  account : Option (UserId × Text)

structure Link where
  client : ClientNetwork
  thread : ReceiveThread
  conn : Option ConnId
  calls : Nat
  requests : List (Text × Request)
  responses : List Delivery
  /-- The account that goes with the last response the client has signed in with. -/
  account : Option (UserId × Text)
  server : Server

namespace Payload

def grantsLogin : Payload → Bool
  | loginResponse true .. => true
  | _ => false

def grantsSession : Payload → Bool
  | sessionValidateResponse true .. => true
  | _ => false

end Payload

def ClientNetwork.carriedToken (client : ClientNetwork) : Text := safeStrCopy 64 client.sessionToken

def ApiCall.headerToken (client : ClientNetwork) : ApiCall → Text
  | registerUser .. | loginUser .. | logoutUser | validateSession _ => []
  | requestPlayerList | sendChallenge .. | sendShipPlacement .. => client.carriedToken

def Request.isAct : Request → Bool
  | .challengeResponse .. | .move .. | .resign _ | .drawOffer _ | .drawResponse .. => true
  | _ => false

namespace Link

variable (lib : Externals)

inductive Event
  | connect (env : Env) (fd : Option Fd)
  | disconnect
  | lose
  | call (call : ApiCall) (given sent : Bool)
  | act (request : Request) (sent : Bool)
  | serve (env : Env)
  | receive
  | outside (event : Battleship.Event)

def init : Link where
  client := { Exchange.init.client with status := .disconnected }
  thread := .none
  conn := none
  calls := 0
  requests := []
  responses := []
  account := none
  server := Server.init

def delivered (conn : ConnId) (server later : Server) : List Delivery :=
  ((later.net.sent.drop server.net.sent.length).filter fun message => message.conn = conn).map
    fun message => ⟨message.header.type, message.payload, later.net.account conn⟩

def advance (event : Battleship.Event) (link : Link) : Link :=
  if link.server.Genuine event then
    let later := link.server.step lib event
    { link with
      server := later
      responses := link.responses ++
        link.conn.toList.flatMap fun conn => delivered conn link.server later }
  else link

/-- `fd` is the descriptor that the server gets for the connection, `none` when
`connectSocket` fails. A thread cannot be started in the place of one that has not
been joined: there the program ends, and so does the run. -/
def connect (env : Env) (fd : Option Fd) (link : Link) : Link :=
  if link.client.isConnected then link
  else
    match fd with
    | none => { link with client := { link.client with status := .errorState } }
    | some fd =>
        if link.thread = .none ∧ link.server.descriptorFree fd ∧
            link.server.Genuine ⟨env, .accept fd⟩ then
          { link.advance lib ⟨env, .accept fd⟩ with
            client := { link.client with status := .connected }
            thread := .running
            conn := some link.server.net.nextConn
            requests := []
            responses := [] }
        else link

def disconnect (link : Link) : Link :=
  if !link.client.isConnected ∧ link.client.status ≠ .connecting then link
  else
    { link with
      client := { link.client with
        status := .disconnected
        userId := 0
        sessionToken := []
        displayName := []
        eloRating := 0
        pendingRequest := .none }
      thread := .none
      conn := none
      requests := []
      responses := [] }

def lose (link : Link) : Link :=
  if link.thread = .running then
    { link with client := { link.client with status := .errorState }, thread := .ended }
  else link

def call (call : ApiCall) (given sent : Bool) (link : Link) : Link :=
  let issued := call.issue sent ⟨link.calls + 1, given⟩ link.client
  { link with
    client := issued.1
    calls := link.calls + 1
    requests := link.requests ++
      (issued.2.map fun request => (call.headerToken link.client, request)).toList }

def act (request : Request) (sent : Bool) (link : Link) : Link :=
  if link.client.isAuthenticated ∧ request.isAct ∧ sent then
    { link with requests := link.requests ++ [(link.client.carriedToken, request)] }
  else link

def serve (env : Env) (link : Link) : Link :=
  match link.conn, link.requests with
  | some conn, (token, request) :: requests =>
      { link with requests }.advance lib ⟨env, .message conn token request⟩
  | _, _ => link

def LogsIn (link : Link) (delivery : Delivery) : Prop :=
  delivery.type = .authResponse ∧ link.client.pendingRequest = .login ∧
    delivery.payload.grantsLogin = true

def Resumes (link : Link) (delivery : Delivery) : Prop :=
  delivery.type = .authResponse ∧ link.client.pendingRequest = .validateSession ∧
    delivery.payload.grantsSession = true

instance (link : Link) (delivery : Delivery) : Decidable (link.LogsIn delivery) :=
  inferInstanceAs (Decidable (_ ∧ _))

instance (link : Link) (delivery : Delivery) : Decidable (link.Resumes delivery) :=
  inferInstanceAs (Decidable (_ ∧ _))

def arriving (link : Link) : Option Delivery :=
  if link.thread = .running then link.responses.head? else none

def receive (link : Link) : Link :=
  match link.arriving with
  | none => link
  | some delivery =>
      { link with
        client := link.client.receiveMessage delivery.type delivery.payload
        responses := link.responses.tail
        account :=
          if link.LogsIn delivery ∨ link.Resumes delivery then delivery.account else link.account }

def outside (event : Battleship.Event) (link : Link) : Link :=
  match event.action with
  | .message conn _ _ => if link.conn = some conn then link else link.advance lib event
  | _ => link.advance lib event

def step (link : Link) : Event → Link
  | .connect env fd => link.connect lib env fd
  | .disconnect => link.disconnect
  | .lose => link.lose
  | .call call given sent => link.call call given sent
  | .act request sent => link.act request sent
  | .serve env => link.serve lib env
  | .receive => link.receive
  | .outside event => link.outside lib event

abbrev after (events : List Event) : Link := Machine.exec (step lib) init events

def MapsTo (server : Server) (token : Text) (userId : UserId) : Prop :=
  ∀ now session, server.db.getSessionByToken token = some session →
    session.isExpired now = false → (server.db.validateSession now token).2 = userId

/-- An authenticated client has the token that the server has authenticated its user with. -/
def Faithful (link : Link) : Prop :=
  link.client.status = .authenticated →
    link.account = some (link.client.userId, link.client.sessionToken) ∧
      MapsTo link.server link.client.carriedToken link.client.userId

end Link

namespace ClientNetwork

structure SameIdentity (client later : ClientNetwork) : Prop where
  status : later.status = .authenticated → client.status = .authenticated
  userId : later.status = .authenticated → later.userId = client.userId
  sessionToken : later.status = .authenticated → later.sessionToken = client.sessionToken

theorem SameIdentity.of_same {client later : ClientNetwork} (status : later.status = client.status)
    (userId : later.userId = client.userId) (sessionToken : later.sessionToken = client.sessionToken) :
    client.SameIdentity later :=
  ⟨fun signedIn => status ▸ signedIn, fun _ => userId, fun _ => sessionToken⟩

theorem SameIdentity.of_other {client later : ClientNetwork} (other : later.status ≠ .authenticated) :
    client.SameIdentity later :=
  ⟨fun signedIn => absurd signedIn other, fun signedIn => absurd signedIn other,
    fun signedIn => absurd signedIn other⟩

variable (client : ClientNetwork)

theorem request_sameIdentity (sent : Bool) (callback : Callback) (kind : PendingRequest)
    (permitted : Bool) (refused failed : Reply) (message : Request) :
    client.SameIdentity
      (client.request sent callback kind permitted refused failed message).1 := by
  unfold request
  split
  · exact .of_same rfl rfl rfl
  · dsimp only
    split <;> exact .of_same rfl rfl rfl

theorem signIn_sameIdentity {payload : Payload} (refused : payload.grantsLogin = false) :
    client.SameIdentity (client.signIn payload) := by
  unfold signIn
  split
  · cases refused
  · exact .of_same rfl rfl rfl

theorem resume_sameIdentity {payload : Payload} (refused : payload.grantsSession = false) :
    client.SameIdentity (client.resume payload) := by
  unfold resume
  split
  · cases refused
  · exact .of_same rfl rfl rfl

theorem signOut_sameIdentity (payload : Payload) : client.SameIdentity (client.signOut payload) := by
  unfold signOut
  split
  · exact .of_other (by simp)
  · exact .of_same rfl rfl rfl

end ClientNetwork

namespace Link

variable (lib : Externals)

theorem receiveMessage_sameIdentity {link : Link} {delivery : Delivery}
    (noLogin : ¬link.LogsIn delivery) (noSession : ¬link.Resumes delivery) :
    link.client.SameIdentity (link.client.receiveMessage delivery.type delivery.payload) := by
  obtain ⟨type, payload, account⟩ := delivery
  let idle : ClientNetwork := { link.client with pendingRequest := .none }
  have told {read : ClientNetwork} (same : idle.SameIdentity read) (callback : Callback)
      (reply : Reply) : link.client.SameIdentity (read.notify callback reply) :=
    ⟨same.status, same.userId, same.sessionToken⟩
  unfold ClientNetwork.receiveMessage
  split
  next auth =>
    obtain rfl : type = .authResponse := auth
    unfold ClientNetwork.handleAuthResponse
    dsimp only
    split
    · exact .of_same rfl rfl rfl
    next pending =>
      have refused : payload.grantsLogin = false := by simpa [LogsIn, pending] using noLogin
      exact told (idle.signIn_sameIdentity refused) _ _
    · exact told (idle.signOut_sameIdentity payload) _ _
    next pending =>
      have refused : payload.grantsSession = false := by simpa [Resumes, pending] using noSession
      exact told (idle.resume_sameIdentity refused) _ _
    · exact .of_same rfl rfl rfl
  · unfold ClientNetwork.handlePlayerListResponse
    split <;> exact .of_same rfl rfl rfl
  · unfold ClientNetwork.handleShipPlacementAck
    split <;> exact .of_same rfl rfl rfl
  · exact .of_same rfl rfl rfl

theorem LogsIn.client {link : Link} {delivery : Delivery} (logsIn : link.LogsIn delivery) :
    ∃ userId token displayName eloRating errorMessage,
      delivery.payload = .loginResponse true userId token displayName eloRating errorMessage ∧
      (link.client.receiveMessage delivery.type delivery.payload).userId = userId ∧
      (link.client.receiveMessage delivery.type delivery.payload).sessionToken = token := by
  obtain ⟨type, payload, account⟩ := delivery
  obtain ⟨rfl, pending, granted⟩ := logsIn
  simp only [ClientNetwork.receiveMessage, ClientNetwork.handleAuthResponse, pending]
  cases payload with
  | loginResponse success userId token displayName eloRating errorMessage =>
      cases success with
      | false => cases granted
      | true => exact ⟨userId, token, displayName, eloRating, errorMessage, rfl, rfl, rfl⟩
  | _ => cases granted

theorem Resumes.client {link : Link} {delivery : Delivery} (resumes : link.Resumes delivery) :
    ∃ userId username displayName eloRating errorMessage,
      delivery.payload =
        .sessionValidateResponse true userId username displayName eloRating errorMessage ∧
      (link.client.receiveMessage delivery.type delivery.payload).status = .authenticated ∧
      (link.client.receiveMessage delivery.type delivery.payload).sessionToken = username := by
  obtain ⟨type, payload, account⟩ := delivery
  obtain ⟨rfl, pending, granted⟩ := resumes
  simp only [ClientNetwork.receiveMessage, ClientNetwork.handleAuthResponse, pending]
  cases payload with
  | sessionValidateResponse valid userId username displayName eloRating errorMessage =>
      cases valid with
      | false => cases granted
      | true => exact ⟨userId, username, displayName, eloRating, errorMessage, rfl, rfl, rfl⟩
  | _ => cases granted

def Unresumed (link : Link) (event : Event) : Prop :=
  event = .receive → ∀ delivery ∈ link.arriving, ¬link.Resumes delivery

def Attested (delivery : Delivery) : Prop :=
  delivery.payload.signsIn? = none ∨ ∃ userId token, delivery.account = some (userId, token) ∧
    IssuedTo userId token ∧ Server.Attests userId token delivery.payload

theorem Attested.granted {delivery : Delivery} (attested : Attested delivery)
    (granted : delivery.payload.grantsLogin = true ∨ delivery.payload.grantsSession = true) :
    ∃ userId token, delivery.account = some (userId, token) ∧
      IssuedTo userId token ∧ Server.Attests userId token delivery.payload := by
  refine attested.resolve_left fun silent => ?_
  cases payload : delivery.payload with
  | loginResponse success =>
      cases success with
      | true => simp [payload, Payload.signsIn?] at silent
      | false => simp [payload, Payload.grantsLogin, Payload.grantsSession] at granted
  | sessionValidateResponse valid =>
      cases valid with
      | true => simp [payload, Payload.signsIn?] at silent
      | false => simp [payload, Payload.grantsLogin, Payload.grantsSession] at granted
  | _ => simp [payload, Payload.grantsLogin, Payload.grantsSession] at granted

inductive Unread : Link → Link → Prop
  | apart {link later : Link} (server : later.server = link.server)
      (responses : ∀ delivery ∈ later.responses, delivery ∈ link.responses)
      (account : later.account = link.account) (client : link.client.SameIdentity later.client) :
      Unread link later
  | advance (link : Link) (event : Battleship.Event) : Unread link (link.advance lib event)
  | trans {first second third : Link} (early : Unread first second) (late : Unread second third) :
      Unread first third

theorem Unread.of_client {link later : Link} (server : later.server = link.server)
    (responses : later.responses = link.responses) (account : later.account = link.account)
    (client : later.client = link.client) : Unread lib link later :=
  .apart server (fun _ member => responses ▸ member) account (client ▸ .of_same rfl rfl rfl)

theorem step_unread (link : Link) {event : Event} (other : event ≠ .receive) :
    Unread lib link (link.step lib event) := by
  have unchanged : Unread lib link link := .of_client lib rfl rfl rfl rfl
  cases event with
  | receive => exact absurd rfl other
  | connect env fd =>
      simp only [step, connect]
      split
      · exact unchanged
      split
      · exact .apart rfl (fun _ member => member) rfl (.of_other (by simp))
      next fd =>
        split
        · exact (Unread.advance link ⟨env, .accept fd⟩).trans
            (.apart rfl (by simp) rfl (.of_other (by simp)))
        · exact unchanged
  | disconnect =>
      simp only [step, disconnect]
      split
      · exact unchanged
      · exact .apart rfl (by simp) rfl (.of_other (by simp))
  | lose =>
      simp only [step, lose]
      split
      · exact .apart rfl (fun _ member => member) rfl (.of_other (by simp))
      · exact unchanged
  | call call given sent =>
      obtain ⟨refused, failed, message, shape⟩ :=
        Exchange.request_eq call sent ⟨link.calls + 1, given⟩ link.client
      refine .apart rfl (fun _ member => member) rfl ?_
      change link.client.SameIdentity (call.issue sent ⟨link.calls + 1, given⟩ link.client).1
      rw [shape]
      exact link.client.request_sameIdentity ..
  | act request sent =>
      simp only [step, act]
      split
      · exact .of_client lib rfl rfl rfl rfl
      · exact unchanged
  | serve env =>
      simp only [step, serve]
      split
      next conn token request requests _ _ =>
        have taken : Unread lib link { link with requests } := .of_client lib rfl rfl rfl rfl
        exact taken.trans (.advance _ _)
      · exact unchanged
  | outside event =>
      simp only [step, outside]
      split
      · split
        · exact unchanged
        · exact .advance link event
      · exact .advance link event

structure Sound (link : Link) : Prop where
  server : link.server.Reachable lib
  issues : link.server.Issues
  responses : ∀ delivery ∈ link.responses, Attested delivery
  account : ∀ userId token, link.account = some (userId, token) → IssuedTo userId token

section Invariant

variable {lib}

theorem sound_init : Sound lib init where
  server := ⟨[], rfl⟩
  issues := ⟨by simp [init, Server.init, Database.initializeSchema],
    fun _ _ _ known => by cases known⟩
  responses := by simp [init]
  account := by simp [init]

theorem delivered_attested {conn : ConnId} {event : Battleship.Event} {server later : Server}
    (signs : Server.SignStep lib event server later) (issues : later.Issues) :
    ∀ delivery ∈ delivered conn server later, Attested delivery := by
  obtain ⟨added, split, attests⟩ := signs.attests
  intro delivery member
  rw [delivered, split, List.drop_left] at member
  obtain ⟨message, sent, rfl⟩ := List.mem_map.mp member
  obtain ⟨new, here⟩ := List.mem_filter.mp sent
  obtain rfl : message.conn = conn := of_decide_eq_true here
  refine (attests message new).imp_right ?_
  rintro ⟨userId, token, known, attested⟩
  exact ⟨userId, token, known, issues.accounts _ userId token known, attested⟩

theorem advance_sound {link : Link} (sound : Sound lib link) (event : Battleship.Event) :
    Sound lib (link.advance lib event) := by
  unfold advance
  split
  next genuine =>
    have signs := Server.step_signs lib sound.server.sessionsKept event
    have issues := signs.issues sound.server.wellFormed genuine sound.issues
    refine ⟨sound.server.step lib event, issues, ?_, sound.account⟩
    intro delivery member
    rcases List.mem_append.mp member with old | new
    · exact sound.responses delivery old
    · obtain ⟨conn, _, sent⟩ := List.mem_flatMap.mp new
      exact delivered_attested signs issues delivery sent
  · exact sound

theorem mem_of_arriving {link : Link} {delivery : Delivery}
    (arrived : link.arriving = some delivery) : delivery ∈ link.responses := by
  unfold arriving at arrived
  split at arrived
  · exact List.mem_of_head? arrived
  · cases arrived

theorem receive_sound {link : Link} (sound : Sound lib link) : Sound lib link.receive := by
  unfold receive
  split
  · exact sound
  next delivery arrived =>
    refine ⟨sound.server, sound.issues,
      fun other member => sound.responses other (List.mem_of_mem_tail member), ?_⟩
    dsimp only
    split
    next taken =>
      intro userId token known
      obtain ⟨shown, shownToken, account, issued, _⟩ :=
        (sound.responses delivery (mem_of_arriving arrived)).granted
          (taken.imp (fun logsIn => logsIn.2.2) fun resumes => resumes.2.2)
      obtain ⟨rfl, rfl⟩ := Prod.mk.inj (Option.some.inj (account.symm.trans known))
      exact issued
    · exact sound.account

theorem Unread.sound {link later : Link} (unread : Unread lib link later)
    (sound : Sound lib link) : Sound lib later := by
  induction unread with
  | apart server responses account client =>
      exact ⟨server ▸ sound.server, server ▸ sound.issues,
        fun delivery member => sound.responses delivery (responses delivery member),
        account ▸ sound.account⟩
  | advance link event => exact advance_sound sound event
  | trans _ _ early late => exact late (early sound)

theorem step_sound (link : Link) (event : Event) (sound : Sound lib link) :
    Sound lib (link.step lib event) := by
  by_cases receives : event = .receive
  · subst receives
    exact receive_sound sound
  · exact (step_unread lib link receives).sound sound

theorem Sound.mapsTo {link : Link} (sound : Sound lib link) {userId : UserId} {token : Text}
    (account : link.account = some (userId, token)) :
    MapsTo link.server (safeStrCopy 64 token) userId := by
  intro now session found unexpired
  have issued := sound.account userId token account
  rw [issued.safeStrCopy] at found ⊢
  have row := sound.issues.sessions session
    (List.mem_of_find?_eq_some (show link.server.db.sessions.find? _ = _ from found))
  rw [Database.getSessionByToken_token found] at row
  simp [Database.validateSession, found, unexpired, row.user issued]

def Known (link : Link) : Prop :=
  link.client.status = .authenticated →
    link.account = some (link.client.userId, link.client.sessionToken)

theorem Sound.faithful_iff_known {link : Link} (sound : Sound lib link) : Faithful link ↔ Known link :=
  ⟨fun faithful signedIn => (faithful signedIn).1,
    fun known signedIn => ⟨known signedIn, sound.mapsTo (known signedIn)⟩⟩

theorem Known.of_sameIdentity {link later : Link} (known : Known link)
    (same : link.client.SameIdentity later.client) (account : later.account = link.account) :
    Known later := by
  intro signedIn
  rw [account, known (same.status signedIn), same.userId signedIn, same.sessionToken signedIn]

theorem Unread.known {link later : Link} (unread : Unread lib link later) (known : Known link) :
    Known later := by
  induction unread with
  | apart server responses account client => exact known.of_sameIdentity client account
  | advance link event =>
      unfold Link.advance
      split <;> exact known
  | trans _ _ early late => exact late (early known)

theorem receive_known_iff {link : Link} (sound : Sound lib link) (known : Known link) :
    Known link.receive ↔ ∀ delivery ∈ link.arriving, ¬link.Resumes delivery := by
  unfold receive
  cases arrived : link.arriving with
  | none => simpa using known
  | some delivery =>
      have attested := sound.responses delivery (mem_of_arriving arrived)
      simp only [Option.mem_some_iff, forall_eq']
      by_cases resumes : link.Resumes delivery
      · refine iff_of_false (fun known => ?_) (not_not_intro resumes)
        obtain ⟨userId, username, _, _, _, payload, signedIn, kept⟩ := resumes.client
        obtain ⟨account, token, given, issued, attests⟩ := attested.granted (Or.inr resumes.2.2)
        rw [payload] at attests
        obtain ⟨-, name, rfl⟩ := attests
        have said := known signedIn
        dsimp only at said
        rw [if_pos (Or.inr resumes), given, kept, Option.some.injEq, Prod.mk.injEq] at said
        have long := issued.long
        rw [said.2, safeStrCopy, List.length_take] at long
        omega
      by_cases logsIn : link.LogsIn delivery
      · refine iff_of_true (fun _ => ?_) resumes
        obtain ⟨userId, shown, _, _, _, payload, user, kept⟩ := logsIn.client
        obtain ⟨account, token, given, issued, attests⟩ := attested.granted (Or.inl logsIn.2.2)
        rw [payload] at attests
        obtain ⟨rfl, rfl⟩ := attests
        dsimp only
        rw [if_pos (Or.inl logsIn), given, user, kept, issued.safeStrCopy]
      · refine iff_of_true ?_ resumes
        refine known.of_sameIdentity (receiveMessage_sameIdentity logsIn resumes) ?_
        exact if_neg (not_or.mpr ⟨logsIn, resumes⟩)

end Invariant

/-- The client has been faithful all along exactly when it has never taken a response for
the validation of its session. -/
theorem faithful_iff (events : List Event) :
    (∀ early, early <+: events → Faithful (after lib early)) ↔
      Machine.Respects (step lib) Unresumed init events := by
  refine Machine.always_iff_respects (step lib) (Sound lib) sound_init step_sound
    (fun signedIn => by cases signedIn) ?_ events
  intro link event sound faithful
  have known := sound.faithful_iff_known.mp faithful
  rw [(step_sound link event sound).faithful_iff_known]
  by_cases receives : event = .receive
  · subst receives
    refine (receive_known_iff sound known).trans ?_
    simp [Unresumed]
  · exact iff_of_true ((step_unread lib link receives).known known) fun same => absurd same receives

end Link

namespace Script

open Link

def autoLogin : List Link.Event := [
  .connect (env 0) (some 5),
  .call (.registerUser "alice".toList "alice-pw".toList "Alice".toList) true true,
  .serve (env 0), .receive,
  .call (.loginUser "alice".toList "alice-pw".toList) true true,
  .serve (env 1), .receive,
  .disconnect,
  .connect (env 2) (some 6),
  .call (.validateSession (token alice)) true true,
  .serve (env 3), .receive]

/-- The server has authenticated her with the token, and she has her name in its place. -/
theorem not_faithful_autoLogin :
    ¬∀ early, early <+: autoLogin → Faithful (Link.after lib early) := by
  intro always
  have signedIn : (Link.after lib autoLogin).client.status = .authenticated := by decide +kernel
  have known := (always autoLogin (List.prefix_refl _) signedIn).1
  have account : (Link.after lib autoLogin).account = some (alice, token alice) := by
    decide +kernel
  have kept : (Link.after lib autoLogin).client.sessionToken = "alice".toList := by decide +kernel
  rw [account, kept, Option.some.injEq, Prod.mk.injEq] at known
  exact absurd known.2 (by decide)

end Script

end Battleship
