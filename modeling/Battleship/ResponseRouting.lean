import Battleship.ClientNetwork
import Battleship.Library.Machine

/-! Requests of one client and the responses of the server to them. A response is
handled as that of the request which caused it exactly when no other call has been
made in between: each call takes the record of what is pending from the one before. -/

namespace Battleship

open Decimal (Text)

inductive ApiCall
  | registerUser (username password displayName : Text)
  | loginUser (username password : Text)
  | logoutUser
  | validateSession (sessionToken : Text)
  | requestPlayerList
  | sendChallenge (targetUserId : UserId) (timeLimit : Nat) (randomPlacement : Bool)
  | sendShipPlacement (matchId : MatchId) (ships : Vector Ship numShips)

namespace PendingRequest

/-- The message type of the response; the server has none of its own for a challenge. -/
def responseType? : PendingRequest → Option MessageType
  | register | login | logout | validateSession => some .authResponse
  | playerList => some .playerList
  | shipPlacement => some .shipPlacement
  | none | sendChallenge => Option.none

def respondedBy : PendingRequest → Payload → Bool
  | register, .registerResponse .. => true
  | login, .loginResponse .. => true
  | logout, .logoutResponse _ => true
  | validateSession, .sessionValidateResponse .. => true
  | playerList, .playerListResponse _ => true
  | shipPlacement, .shipPlacementAck .. => true
  | _, _ => false

def reply? : PendingRequest → Payload → Option Reply
  | register, payload => some (ClientNetwork.registerReply payload)
  | login, payload => some (ClientNetwork.loginReply payload)
  | logout, payload => some (ClientNetwork.logoutReply payload)
  | validateSession, payload => some (ClientNetwork.validateSessionReply payload)
  | playerList, payload => some (ClientNetwork.playerListReply payload)
  | shipPlacement, payload => some (ClientNetwork.shipPlacementReply payload)
  | none, _ | sendChallenge, _ => Option.none

end PendingRequest

def Reply.kind : Reply → PendingRequest
  | register .. => .register
  | login .. => .login
  | logout _ => .logout
  | validateSession .. => .validateSession
  | playerList .. => .playerList
  | sendChallenge .. => .sendChallenge
  | shipPlacement .. => .shipPlacement

theorem PendingRequest.reply?_kind {kind : PendingRequest} {payload : Payload} {reply : Reply}
    (read : kind.reply? payload = some reply) : reply.kind = kind := by
  cases kind <;> cases read <;> cases payload <;> rfl

theorem PendingRequest.reply?_of_type {kind : PendingRequest} {type : MessageType}
    (typed : kind.responseType? = some type) (payload : Payload) :
    ∃ reply, kind.reply? payload = some reply := by
  cases kind with
  | none => cases typed
  | sendChallenge => cases typed
  | _ => exact ⟨_, rfl⟩

namespace ApiCall

def kind : ApiCall → PendingRequest
  | registerUser .. => .register
  | loginUser .. => .login
  | logoutUser => .logout
  | validateSession _ => .validateSession
  | requestPlayerList => .playerList
  | sendChallenge .. => .sendChallenge
  | sendShipPlacement .. => .shipPlacement

def permitted (client : ClientNetwork) : ApiCall → Bool
  | registerUser .. | loginUser .. | validateSession _ => client.isConnected
  | logoutUser | requestPlayerList | sendChallenge .. | sendShipPlacement .. =>
      client.isAuthenticated

def issue (sent : Bool) (callback : Callback) (client : ClientNetwork) :
    ApiCall → ClientNetwork × Option Request
  | registerUser username password displayName =>
      client.registerUser sent callback username password displayName
  | loginUser username password => client.loginUser sent callback username password
  | logoutUser => client.logoutUser sent callback
  | validateSession sessionToken => client.validateSession sent callback sessionToken
  | requestPlayerList => client.requestPlayerList sent callback
  | sendChallenge targetUserId timeLimit randomPlacement =>
      client.sendChallenge sent callback targetUserId timeLimit randomPlacement
  | sendShipPlacement matchId ships => client.sendShipPlacement sent callback matchId ships

end ApiCall

structure Issued where
  callback : Callback
  call : ApiCall
  request : Request

structure Response where
  issued : Issued
  type : MessageType
  payload : Payload

structure Exchange where
  client : ClientNetwork
  calls : Nat
  latest : Nat
  requests : List Issued
  responses : List Response

namespace Exchange

/-- The server answers its oldest request; `none` when it sends no response. -/
inductive Event
  | call (call : ApiCall) (given sent : Bool)
  | serve (payload : Option Payload)
  | receive

def init : Exchange where
  client := {
    status := .connected
    userId := 0
    sessionToken := []
    displayName := []
    eloRating := 0
    callbacks := fun _ => ⟨0, false⟩
    pendingRequest := .none
    replies := [] }
  calls := 0
  latest := 0
  requests := []
  responses := []

def issue (call : ApiCall) (given sent : Bool) (exchange : Exchange) : Exchange :=
  let callback : Callback := ⟨exchange.calls + 1, given⟩
  let issued := call.issue sent callback exchange.client
  { exchange with
    client := issued.1
    calls := exchange.calls + 1
    latest := if call.permitted exchange.client then exchange.calls + 1 else exchange.latest
    requests := exchange.requests ++ (issued.2.map (Issued.mk callback call)).toList }

def serve (payload : Option Payload) (exchange : Exchange) : Exchange :=
  match exchange.requests with
  | [] => exchange
  | issued :: requests =>
      match issued.call.kind.responseType?, payload with
      | some type, some payload =>
          if issued.call.kind.respondedBy payload then
            { exchange with
              requests
              responses := exchange.responses ++ [⟨issued, type, payload⟩] }
          else exchange
      | _, _ => { exchange with requests }

def receive (exchange : Exchange) : Exchange :=
  match exchange.responses with
  | [] => exchange
  | response :: responses =>
      { exchange with
        client := exchange.client.receiveMessage response.type response.payload
        responses }

def step (exchange : Exchange) : Event → Exchange
  | .call call given sent => exchange.issue call given sent
  | .serve payload => exchange.serve payload
  | .receive => exchange.receive

abbrev after (events : List Event) : Exchange := Machine.exec step init events

/-- The response is read as the response type of its request, and goes to the
callback of that request and nowhere else. -/
def Delivers (exchange : Exchange) (response : Response) : Prop :=
  ∃ reply, response.issued.call.kind.reply? response.payload = some reply ∧
    (exchange.client.receiveMessage response.type response.payload).replies =
      exchange.client.replies ++ [(response.issued.callback, reply)]

def DeliversAll (events : List Event) : Prop :=
  ∀ before, Machine.StepOf events before .receive →
    ∀ response ∈ (after before).responses.head?, (after before).Delivers response

def Alone (exchange : Exchange) (event : Event) : Prop :=
  event = .receive →
    ∀ response ∈ exchange.responses.head?, response.issued.callback.call = exchange.latest

section Delivery

variable (type : MessageType) (payload : Payload) (client : ClientNetwork)

/-- The record of what is pending is used up, or it stays. -/
theorem receiveMessage_slot :
    (client.receiveMessage type payload).callbacks = client.callbacks ∧
      ((client.receiveMessage type payload).pendingRequest = .none ∨
        (client.receiveMessage type payload).pendingRequest = client.pendingRequest) := by
  let idle : ClientNetwork := { client with pendingRequest := .none }
  have signIn := ClientNetwork.signIn_sameSlot payload idle
  have signOut := ClientNetwork.signOut_sameSlot payload idle
  have resume := ClientNetwork.resume_sameSlot payload idle
  unfold ClientNetwork.receiveMessage
  split
  · unfold ClientNetwork.handleAuthResponse
    dsimp only
    split
    · exact ⟨rfl, .inl rfl⟩
    · exact ⟨signIn.callbacks, .inl signIn.pendingRequest⟩
    · exact ⟨signOut.callbacks, .inl signOut.pendingRequest⟩
    · exact ⟨resume.callbacks, .inl resume.pendingRequest⟩
    · exact ⟨rfl, .inl rfl⟩
  · unfold ClientNetwork.handlePlayerListResponse
    split
    · exact ⟨rfl, .inr rfl⟩
    · exact ⟨rfl, .inl rfl⟩
  · unfold ClientNetwork.handleShipPlacementAck
    split
    · exact ⟨rfl, .inl rfl⟩
    · exact ⟨rfl, .inr rfl⟩
  · exact ⟨rfl, .inr rfl⟩

/-- A message is read by the request that is pending, if that has its type. -/
theorem receiveMessage_replies : (client.receiveMessage type payload).replies =
    client.replies ++ (if client.pendingRequest.responseType? = some type then
      (client.pendingRequest.reply? payload).toList.map
        (client.callbacks client.pendingRequest, ·)
    else []) := by
  let idle : ClientNetwork := { client with pendingRequest := .none }
  have signIn := (ClientNetwork.signIn_sameSlot payload idle).replies
  have signOut := (ClientNetwork.signOut_sameSlot payload idle).replies
  have resume := (ClientNetwork.resume_sameSlot payload idle).replies
  unfold ClientNetwork.receiveMessage
  split
  · unfold ClientNetwork.handleAuthResponse ClientNetwork.notify
    cases pending : client.pendingRequest <;>
      simp [PendingRequest.responseType?, PendingRequest.reply?, signIn, signOut, resume, idle]
  · unfold ClientNetwork.handlePlayerListResponse ClientNetwork.notify
    cases pending : client.pendingRequest <;>
      simp [PendingRequest.responseType?, PendingRequest.reply?]
  · unfold ClientNetwork.handleShipPlacementAck ClientNetwork.notify
    cases pending : client.pendingRequest <;>
      simp [PendingRequest.responseType?, PendingRequest.reply?]
  next other1 other2 other3 =>
    cases pending : client.pendingRequest <;>
      simp [PendingRequest.responseType?, Ne.symm other1, Ne.symm other2, Ne.symm other3]

theorem delivers_iff (exchange : Exchange) {response : Response}
    (typed : response.issued.call.kind.responseType? = some response.type) :
    exchange.Delivers response ↔
      exchange.client.pendingRequest = response.issued.call.kind ∧
        exchange.client.callbacks response.issued.call.kind = response.issued.callback := by
  unfold Delivers
  rw [receiveMessage_replies]
  constructor
  · rintro ⟨reply, read, told⟩
    have same := List.append_cancel_left told
    split at same
    · cases taken : exchange.client.pendingRequest.reply? response.payload with
      | none => simp [taken] at same
      | some reply' =>
          simp only [taken, Option.toList_some, List.map_cons, List.map_nil, List.cons.injEq,
            Prod.mk.injEq, and_true] at same
          obtain ⟨slot, rfl⟩ := same
          have kind := (PendingRequest.reply?_kind taken).symm.trans (PendingRequest.reply?_kind read)
          exact ⟨kind, kind ▸ slot⟩
    · simp at same
  · rintro ⟨pending, slot⟩
    obtain ⟨reply, read⟩ := PendingRequest.reply?_of_type typed response.payload
    refine ⟨reply, read, ?_⟩
    rw [pending, if_pos typed, read, slot]
    rfl

end Delivery

section Runs

def outstanding (exchange : Exchange) : List Issued :=
  exchange.responses.map Response.issued ++ exchange.requests

inductive Change (exchange : Exchange) (event : Event) (later : Exchange) : Prop
  | passed (callbacks : later.client.callbacks = exchange.client.callbacks)
      (pending : later.client.pendingRequest = exchange.client.pendingRequest)
      (latest : later.latest = exchange.latest) (calls : exchange.calls ≤ later.calls)
      (fewer : later.outstanding.Sublist exchange.outstanding)
  | failed (pending : later.client.pendingRequest = .none)
      (latest : later.latest = exchange.calls + 1) (calls : later.calls = exchange.calls + 1)
      (same : later.outstanding = exchange.outstanding)
  | sent (issued : Issued) (number : issued.callback.call = exchange.calls + 1)
      (pending : later.client.pendingRequest = issued.call.kind)
      (slot : later.client.callbacks issued.call.kind = issued.callback)
      (latest : later.latest = exchange.calls + 1) (calls : later.calls = exchange.calls + 1)
      (added : later.outstanding = exchange.outstanding ++ [issued])
  | received (response : Response) (receives : event = .receive)
      (arrives : exchange.responses.head? = some response)
      (callbacks : later.client.callbacks = exchange.client.callbacks)
      (pending : later.client.pendingRequest = .none ∨
        later.client.pendingRequest = exchange.client.pendingRequest)
      (latest : later.latest = exchange.latest) (calls : exchange.calls ≤ later.calls)
      (taken : exchange.outstanding = response.issued :: later.outstanding)

theorem Change.refl (exchange : Exchange) (event : Event) : Change exchange event exchange :=
  .passed rfl rfl rfl (le_refl _) (List.Sublist.refl _)

theorem request_eq (call : ApiCall) (sent : Bool) (callback : Callback) (client : ClientNetwork) :
    ∃ refused failed message, call.issue sent callback client =
      client.request sent callback call.kind (call.permitted client) refused failed message := by
  cases call <;> exact ⟨_, _, _, rfl⟩

theorem issue_change (call : ApiCall) (given sent : Bool) (exchange : Exchange) :
    Change exchange (.call call given sent) (exchange.issue call given sent) := by
  obtain ⟨refused, failed, message, shape⟩ :=
    request_eq call sent ⟨exchange.calls + 1, given⟩ exchange.client
  unfold issue
  dsimp only
  rw [shape]
  unfold ClientNetwork.request
  cases permitted : call.permitted exchange.client with
  | false =>
      refine .passed rfl rfl rfl (Nat.le_succ _) ?_
      simp [outstanding]
  | true =>
      cases sent with
      | false =>
          refine .failed rfl rfl rfl ?_
          simp [outstanding]
      | true =>
          refine .sent ⟨⟨exchange.calls + 1, given⟩, call, message⟩ rfl rfl ?_ rfl rfl ?_
          · exact Function.update_self ..
          · simp [outstanding]

theorem serve_change (payload : Option Payload) (exchange : Exchange) :
    Change exchange (.serve payload) (exchange.serve payload) := by
  unfold serve
  split
  · exact .refl exchange _
  next issued requests waiting =>
    split
    · split
      · refine .passed rfl rfl rfl (le_refl _) ?_
        simp [outstanding, waiting]
      · exact .refl exchange _
    · refine .passed rfl rfl rfl (le_refl _) ?_
      simp [outstanding, waiting]

theorem receive_change (exchange : Exchange) : Change exchange .receive exchange.receive := by
  unfold receive
  split
  · exact .refl exchange _
  next response responses arriving =>
    obtain ⟨callbacks, pending⟩ :=
      receiveMessage_slot response.type response.payload exchange.client
    refine .received response rfl (by rw [arriving]; rfl) callbacks pending rfl (le_refl _) ?_
    simp [outstanding, arriving]

theorem step_change (exchange : Exchange) (event : Event) :
    Change exchange event (exchange.step event) := by
  cases event with
  | call call given sent => exact issue_change call given sent exchange
  | serve payload => exact serve_change payload exchange
  | receive => exact receive_change exchange

structure Sound (exchange : Exchange) : Prop where
  slot : exchange.client.pendingRequest ≠ .none →
    (exchange.client.callbacks exchange.client.pendingRequest).call = exchange.latest
  bound : exchange.latest ≤ exchange.calls
  known : ∀ issued ∈ exchange.outstanding, issued.callback.call ≤ exchange.latest
  ordered : exchange.outstanding.Pairwise fun early late => early.callback.call < late.callback.call

def Waiting (exchange : Exchange) : Prop :=
  ∀ issued ∈ exchange.outstanding, issued.callback.call = exchange.latest →
    exchange.client.pendingRequest = issued.call.kind ∧
      exchange.client.callbacks issued.call.kind = issued.callback

variable {exchange later : Exchange} {event : Event}

theorem Sound.older (sound : exchange.Sound) :
    ∀ issued ∈ exchange.outstanding, issued.callback.call < exchange.calls + 1 :=
  fun issued member => Nat.lt_succ_of_le ((sound.known issued member).trans sound.bound)

theorem Sound.change (sound : exchange.Sound) (change : Change exchange event later) :
    later.Sound := by
  cases change with
  | passed callbacks pending latest calls fewer =>
      refine ⟨?_, ?_, ?_, sound.ordered.sublist fewer⟩
      · rw [callbacks, pending, latest]
        exact sound.slot
      · rw [latest]
        exact sound.bound.trans calls
      · rw [latest]
        exact fun issued member => sound.known issued (fewer.subset member)
  | failed pending latest calls same =>
      refine ⟨fun waiting => absurd pending waiting, by rw [latest, calls], ?_, same ▸ sound.ordered⟩
      rw [latest, same]
      exact fun issued member => (sound.older issued member).le
  | sent issued number pending slot latest calls added =>
      refine ⟨fun _ => by rw [pending, slot, number, latest], by rw [latest, calls], ?_, ?_⟩
      · rw [added, latest]
        intro other member
        rcases List.mem_append.mp member with old | new
        · exact (sound.older other old).le
        · rw [List.mem_singleton.mp new, number]
      · rw [added]
        refine List.pairwise_append.mpr ⟨sound.ordered, List.pairwise_singleton .., ?_⟩
        intro early old late new
        rw [List.mem_singleton.mp new, number]
        exact sound.older early old
  | received response receives arrives callbacks pending latest calls taken =>
      have known := sound.known
      have ordered := sound.ordered
      rw [taken] at known ordered
      refine ⟨?_, latest ▸ sound.bound.trans calls, ?_, ordered.of_cons⟩
      · rcases pending with idle | same
        · exact fun waiting => absurd idle waiting
        · rw [callbacks, same, latest]
          exact sound.slot
      · rw [latest]
        exact fun issued member => known issued (List.mem_cons_of_mem _ member)

theorem Waiting.change (waiting : exchange.Waiting) (sound : exchange.Sound)
    (change : Change exchange event later) (alone : exchange.Alone event) : later.Waiting := by
  cases change with
  | passed callbacks pending latest calls fewer =>
      intro issued member newest
      rw [callbacks, pending]
      exact waiting issued (fewer.subset member) (newest.trans latest)
  | failed pending latest calls same =>
      intro issued member newest
      have older := sound.older issued (same ▸ member)
      omega
  | sent issued number pending slot latest calls added =>
      intro other member newest
      rw [added] at member
      rcases List.mem_append.mp member with old | new
      · have older := sound.older other old
        omega
      · obtain rfl := List.mem_singleton.mp new
        exact ⟨pending, slot⟩
  | received response receives arrives callbacks pending latest calls taken =>
      intro issued member newest
      -- the response was to the last call, so nothing that is newer is outstanding
      have last := alone receives response arrives
      have known := sound.known
      have ordered := sound.ordered
      rw [taken] at known ordered
      have after := List.rel_of_pairwise_cons ordered member
      have bound := known issued (List.mem_cons_of_mem _ member)
      omega

def Typed (exchange : Exchange) : Prop :=
  ∀ response ∈ exchange.responses,
    response.issued.call.kind.responseType? = some response.type

theorem step_typed (typed : exchange.Typed) (event : Event) : (exchange.step event).Typed := by
  cases event with
  | call call given sent => exact typed
  | serve payload =>
      unfold step serve
      dsimp only
      split
      · exact typed
      next issued requests waiting =>
        split
        next type payload named =>
          split
          · intro response member
            rcases List.mem_append.mp member with old | new
            · exact typed response old
            · rw [List.mem_singleton.mp new]
              exact named
          · exact typed
        · exact typed
  | receive =>
      unfold step receive
      dsimp only
      split
      · exact typed
      next response responses arriving =>
        exact fun other member => typed other (arriving ▸ List.mem_cons_of_mem _ member)

theorem sound_init : init.Sound := by
  constructor <;> simp [init, outstanding]

theorem after_sound (events : List Event) : (after events).Sound :=
  Machine.invariant step sound_init (fun exchange event sound =>
    sound.change (step_change exchange event)) events

theorem after_typed (events : List Event) : (after events).Typed := by
  have typed_init : init.Typed := by simp [Typed, init]
  exact Machine.invariant step typed_init (fun _ event typed => step_typed typed event) events

theorem after_waiting (events : List Event) (alone : Machine.Respects step Alone init events) :
    (after events).Waiting := by
  have kept (exchange : Exchange) (event : Event) (permitted : Alone exchange event)
      (both : exchange.Sound ∧ exchange.Waiting) :
      (step exchange event).Sound ∧ (step exchange event).Waiting :=
    ⟨both.1.change (step_change exchange event),
      both.2.change both.1 (step_change exchange event) permitted⟩
  exact (Machine.invariant_of_respects step
    (motive := fun exchange => exchange.Sound ∧ exchange.Waiting)
    ⟨sound_init, by simp [Waiting, init, outstanding]⟩ kept events alone).2

/-- The responses of a run are delivered exactly when each of them is received
before the client takes up another call. -/
theorem deliversAll_iff (events : List Event) :
    DeliversAll events ↔ Machine.Respects step Alone init events := by
  constructor
  · rintro delivers before event taken rfl response arrives
    have member : response ∈ (after before).responses := List.mem_of_head? arrives
    obtain ⟨pending, slot⟩ := (delivers_iff _ (after_typed before response member)).mp
      (delivers before taken response arrives)
    have typed := after_typed before response member
    have busy : (after before).client.pendingRequest ≠ .none := by
      rintro idle
      rw [← pending, idle] at typed
      cases typed
    have newest := (after_sound before).slot busy
    rwa [pending, slot] at newest
  · intro alone before taken response arrives
    have member : response ∈ (after before).responses := List.mem_of_head? arrives
    have earlier : Machine.Respects step Alone init before := by
      obtain ⟨rest, rfl⟩ := taken
      exact alone.of_append
    have outstanding : response.issued ∈ (after before).outstanding :=
      List.mem_append_left _ (List.mem_map_of_mem member)
    exact (delivers_iff _ (after_typed before response member)).mpr
      (after_waiting before earlier response.issued outstanding
        (alone before .receive taken rfl response arrives))

end Runs

section Overlap

def alice : Text := "alice".toList

def overlapping : List Event := [
  .call (.registerUser alice "alice-pw".toList alice) true true,
  .call (.loginUser alice "alice-pw".toList) true true,
  .serve (some (.registerResponse true 1 []))]

theorem not_deliversAll_overlapping : ¬DeliversAll (overlapping ++ [.receive]) := by
  intro delivers
  have arrives : (after overlapping).responses.head?.isSome = true := by decide
  obtain ⟨response, arrives⟩ := Option.isSome_iff_exists.mp arrives
  have member : response ∈ (after overlapping).responses := List.mem_of_head? arrives
  obtain ⟨pending, _⟩ := (delivers_iff _ (after_typed overlapping response member)).mp
    (delivers overlapping (Machine.stepOf_last ..) response arrives)
  obtain rfl := Option.some.inj arrives
  exact absurd pending (by decide)

example : (after (overlapping ++ [.receive])).client.replies =
    [(⟨2, true⟩, .login false 0 [] 0 [] ClientNetwork.invalidResponse)] := by decide

end Overlap

end Exchange

end Battleship
