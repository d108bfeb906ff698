import Battleship.RequestBytes
import Battleship.ResponseRouting
import Battleship.Transfer

/-! From a call of the client to the handlers of the server. A call writes header and
struct with one `send` each, whatever part of them the kernel takes; the server reads frames
off the stream, in the pieces in which it arrives. -/

namespace Battleship.RequestDelivery

open Decimal (Text)
open RequestBytes Structs
open Wire (Byte Message)

inductive Api
  | issue (call : ApiCall)
  | respondToChallenge (challengeId : ChallengeId) (accept : Bool)
  | sendMove (matchId : MatchId) (row col : Int)
  | sendResign (matchId : MatchId)
  | sendDrawOffer (matchId : MatchId)
  | sendDrawResponse (matchId : MatchId) (accept : Bool)

namespace Api

def carriesToken : Api → Bool
  | issue (.registerUser ..) | issue (.loginUser ..) | issue .logoutUser
  | issue (.validateSession _) => false
  | _ => true

def respond (client : ClientNetwork) (request : Request) : Option Request :=
  if client.isAuthenticated then some request else none

def request? (client : ClientNetwork) : Api → Option Request
  | issue call => (call.issue true ⟨0, true⟩ client).2
  | respondToChallenge challengeId accept => respond client (.challengeResponse challengeId accept)
  -- a coordinate is an `int` up to here
  | sendMove matchId row col => respond client (.move matchId ⟨.ofInt row, .ofInt col⟩)
  | sendResign matchId => respond client (.resign matchId)
  | sendDrawOffer matchId => respond client (.drawOffer matchId)
  | sendDrawResponse matchId accept => respond client (.drawResponse matchId accept)

def InRange : Api → Prop
  | issue (.registerUser username password displayName) =>
      Plain username ∧ Plain password ∧ Plain displayName
  | issue (.loginUser username password) => Plain username ∧ Plain password
  | issue (.validateSession sessionToken) => Plain sessionToken
  | issue (.sendChallenge targetUserId timeLimit _) =>
      targetUserId < 2 ^ 32 ∧ timeLimit < 2 ^ 32
  | issue (.sendShipPlacement matchId _) | sendMove matchId _ _ | sendResign matchId
  | sendDrawOffer matchId | sendDrawResponse matchId _ => matchId < 2 ^ 32
  | issue .logoutUser | issue .requestPlayerList | respondToChallenge _ _ => True

end Api

/-- A call, with the client at the time and how many bytes the kernel takes of the header and
of the struct; none where `send` fails. -/
structure Call where
  api : Api
  client : ClientNetwork
  timestamp : UInt64
  headerTaken : Option Nat
  payloadTaken : Option Nat

def send (bytes : List Byte) : Option Nat → List Byte × Bool
  | none => ([], false)
  | some count => (bytes.take count, decide (bytes.length ≤ count))

namespace Call

variable (call : Call) (request : Request)

def token : Text := if call.api.carriesToken then safeStrCopy 64 call.client.sessionToken else []

def header : Wire.MessageHeader where
  type := (typeOf request).code
  length := .ofNat (serialize request).length
  timestamp := call.timestamp
  sessionToken := ⟨(chars64.encode call.token).toArray, by
    rw [List.size_toArray, Layout.length_encode]
    rfl⟩

def message : Message := ⟨call.header request, serialize request⟩

def sendMessage : List Byte × Bool :=
  let headed := send (call.header request).bytes call.headerTaken
  if !headed.2 then (headed.1, false)
  else if 0 < (call.header request).length.toNat ∧ serialize request ≠ [] then
    let sent := send (serialize request) call.payloadTaken
    (headed.1 ++ sent.1, sent.2)
  else headed

def run : List Byte × Bool :=
  match call.api.request? call.client with
  | none => ([], false)
  | some request => call.sendMessage request

def Torn : Prop := call.run.2 = false ∧ call.run.1 ≠ []

instance : Decidable call.Torn := inferInstanceAs (Decidable (_ ∧ _))

def asked : Option (Text × Request) :=
  (call.api.request? call.client).map fun request => (call.token, request)

structure InRange : Prop where
  api : call.api.InRange
  session : Plain call.client.sessionToken

end Call

def stream (calls : List Call) : List Byte := calls.flatMap fun call => call.run.1

def sent (calls : List Call) : List Call := calls.filter fun call => call.run.2

def received (message : Message) : Option (Text × Request) :=
  (MessageType.ofCode message.header.type).map fun type =>
    (chars64.decode message.header.sessionToken.toList,
      readRequest type message.payload)

section Frames

variable {call : Call} {request : Request}

theorem Call.InRange.token_fits (inRange : call.InRange) :
    chars64.Fits call.token := by
  unfold Call.token
  split
  · exact inRange.session.fits_safeStrCopy (by decide)
  · exact (by decide : Plain []).fits _ (by decide)

theorem Api.request_eq_of_respond {client : ClientNetwork} {asked : Request}
    (request? : respond client asked = some request) : asked = request := by
  unfold respond at request?
  split at request?
  · exact Option.some.inj request?
  · cases request?

theorem request_eq_of_issue {client : ClientNetwork} {callback : Callback}
    {kind : PendingRequest} {permitted : Bool} {refused failed : Reply} {asked : Request}
    (request? : (client.request true callback kind permitted refused failed asked).2 =
      some request) : asked = request := by
  unfold ClientNetwork.request at request?
  split at request?
  · cases request?
  · exact Option.some.inj request?

theorem Call.InRange.fits (inRange : call.InRange)
    (request? : call.api.request? call.client = some request) : Fits request := by
  obtain ⟨api, session⟩ := inRange
  cases known : call.api with
  | issue issued =>
      rw [known] at api request?
      cases issued with
      | registerUser username password displayName =>
          obtain rfl := request_eq_of_issue request?
          obtain ⟨name, secret, shown⟩ := api
          exact ⟨name.fits_safeStrCopy _, secret.fits_safeStrCopy _, shown.fits_safeStrCopy _,
            (by decide : Plain []).fits _ (by decide)⟩
      | loginUser username password =>
          obtain rfl := request_eq_of_issue request?
          exact ⟨api.1.fits_safeStrCopy _, api.2.fits_safeStrCopy _⟩
      | logoutUser =>
          obtain rfl := request_eq_of_issue request?
          exact session.fits_safeStrCopy _
      | validateSession sessionToken =>
          obtain rfl := request_eq_of_issue request?
          exact Plain.fits_safeStrCopy api _
      | requestPlayerList =>
          obtain rfl := request_eq_of_issue request?
          trivial
      | sendChallenge targetUserId timeLimit randomPlacement =>
          obtain rfl := request_eq_of_issue request?
          exact ⟨api.1, api.2, trivial⟩
      | sendShipPlacement matchId ships =>
          obtain rfl := request_eq_of_issue request?
          exact ⟨api, fun index => ship_fits ships[index], trivial⟩
  | respondToChallenge challengeId accept =>
      rw [known] at request?
      obtain rfl := Api.request_eq_of_respond request?
      exact ⟨uint32_fits challengeId, trivial⟩
  | sendMove matchId row col =>
      rw [known] at api request?
      obtain rfl := Api.request_eq_of_respond request?
      exact ⟨api, coordinate_fits _⟩
  | sendResign matchId | sendDrawOffer matchId =>
      rw [known] at api request?
      obtain rfl := Api.request_eq_of_respond request?
      exact api
  | sendDrawResponse matchId accept =>
      rw [known] at api request?
      obtain rfl := Api.request_eq_of_respond request?
      exact ⟨api, trivial⟩

theorem length_serialize (request : Request) : (serialize request).length ≤ 288 := by
  cases request <;> simp only [serialize, Layout.length_encode] <;> decide

theorem Call.header_length (call : Call) (request : Request) :
    (call.header request).length.toNat = (serialize request).length :=
  UInt32.toNat_ofNat_of_lt' (lt_of_le_of_lt (length_serialize request) (by decide))

theorem Call.framed (call : Call) (request : Request) : (call.message request).Framed where
  exact := call.header_length request
  short := (length_serialize request).trans (by decide)

/-- What the server makes of the frame of a call. -/
theorem Call.InRange.received (inRange : call.InRange)
    (request? : call.api.request? call.client = some request) :
    received (call.message request) = call.asked := by
  have token := Layout.decode_encode_self _ inRange.token_fits
  have read := readRequest_serialize (inRange.fits request?)
  rw [Call.asked, request?, RequestDelivery.received, Call.message, Call.header]
  simp only [MessageType.ofCode_code, Option.map_some]
  rw [read]
  exact congrArg (fun text => some (text, request)) token

end Frames

section Streams

theorem send_all {bytes : List Byte} {taken : Option Nat} (all : (send bytes taken).2 = true) :
    (send bytes taken).1 = bytes := by
  cases taken with
  | none => cases all
  | some count => exact List.take_of_length_le (of_decide_eq_true all)

theorem Call.sendMessage_all {call : Call} {request : Request}
    (all : (call.sendMessage request).2 = true) :
    (call.sendMessage request).1 = (call.message request).bytes := by
  unfold Call.sendMessage at all ⊢
  dsimp only at all ⊢
  split at all
  · cases all
  next headed =>
    have head := send_all (by simpa using headed)
    split at all
    · rw [if_neg headed, if_pos ‹_›, head, send_all all]
      rfl
    next bare =>
      have empty : serialize request = [] := by
        by_contra present
        refine bare ⟨?_, present⟩
        rw [call.header_length]
        exact List.length_pos_iff.mpr present
      rw [if_neg headed, if_neg bare, head, Message.bytes, Call.message, empty, List.append_nil]

/-- The frame of a call that does not fail is on the stream as a whole. -/
theorem Call.run_all {call : Call} (all : call.run.2 = true) :
    ∃ request, call.api.request? call.client = some request ∧
      call.run.1 = (call.message request).bytes := by
  unfold Call.run at all ⊢
  split at all
  · cases all
  next request request? =>
    rw [request?]
    exact ⟨request, rfl, Call.sendMessage_all all⟩

/-- Without a torn frame the stream is made of the frames of the calls that do not fail, and
they say what was asked for. -/
theorem stream_of_untorn {calls : List Call} (inRange : ∀ call ∈ calls, call.InRange)
    (untorn : ∀ call ∈ calls, ¬call.Torn) :
    ∃ messages : List Message, stream calls = messages.flatMap Message.bytes ∧
      (∀ message ∈ messages, message.Framed) ∧
      messages.map received = (sent calls).map Call.asked := by
  induction calls with
  | nil => exact ⟨[], rfl, by simp, rfl⟩
  | cons call calls ih =>
      obtain ⟨messages, split, framed, reads⟩ := ih
        (fun other member => inRange other (by simp [member]))
        (fun other member => untorn other (by simp [member]))
      have whole := untorn call (by simp)
      rw [stream, List.flatMap_cons, ← stream, split, sent, List.filter_cons]
      by_cases all : call.run.2 = true
      · obtain ⟨request, request?, bytes⟩ := Call.run_all all
        refine ⟨call.message request :: messages, ?_, ?_, ?_⟩
        · rw [bytes, List.flatMap_cons]
        · exact List.forall_mem_cons.mpr ⟨call.framed request, framed⟩
        · rw [if_pos all, List.map_cons, List.map_cons, reads, sent,
            (inRange call (by simp)).received request?]
      · have nothing : call.run.1 = [] := by
          by_contra part
          exact whole ⟨by simpa using all, part⟩
        rw [if_neg all, nothing]
        exact ⟨messages, rfl, framed, reads⟩

theorem decode_nil : Wire.frames.decode [] = none := rfl

end Streams

/-- Up to the first torn frame, the server reads what the calls of the client asked for that
did not fail: each with its token and in order, however the stream is cut on its way. -/
theorem requests_delivered {early : List Call} (inRange : ∀ call ∈ early, call.InRange)
    (untorn : ∀ call ∈ early, ¬call.Torn) (late : List Call) {server : Wire.ClientConnection}
    (receiving : server.Receiving) (arrives : server.incoming = stream (early ++ late)) :
    (∀ count ≤ (sent early).length,
      (server.receiveMessages count).1.map received = ((sent early).take count).map Call.asked) ∧
    (late = [] → ∀ count > (sent early).length,
      (server.receiveMessages count).1.map received = (sent early).map Call.asked ∧
        (server.receiveMessages count).2.connected = false) := by
  obtain ⟨messages, split, framed, reads⟩ := stream_of_untorn inRange untorn
  have many : messages.length = (sent early).length := by
    simpa using congrArg List.length reads
  rw [stream, List.flatMap_append, ← stream, ← stream, split] at arrives
  constructor
  · intro count few
    have read := (Wire.ClientConnection.receiveMessages_readUpTo receiving count).1
    have front := Framing.readUpTo_sent Wire.frames framed (stream late) (few.trans_eq many.symm)
    rw [arrives] at read
    rw [read, show Message.bytes = Wire.frames.encode from rfl, front, List.map_take, reads,
      List.map_take]
  · rintro rfl count more
    obtain ⟨read, ended⟩ := Wire.ClientConnection.receiveMessages_readUpTo receiving count
    have all := Framing.readUpTo_broken Wire.frames framed decode_nil (many.trans_lt more)
    rw [arrives, show stream [] = [] from rfl, show Message.bytes = Wire.frames.encode from rfl,
      all] at read ended
    rw [read]
    exact ⟨reads, ended⟩

def connected : ClientNetwork where
  status := .connected
  userId := 0
  sessionToken := []
  displayName := []
  eloRating := 0
  callbacks := fun _ => ⟨0, false⟩
  pendingRequest := .none
  replies := []

def signedIn : ClientNetwork :=
  { connected with status := .authenticated, sessionToken := "token".toList }

def calls : List Call :=
  [⟨.issue (.loginUser "alice".toList "alice-pw".toList), connected, 7, some 77, some 96⟩,
    ⟨.sendResign 1, connected, 8, some 77, some 4⟩,
    ⟨.sendDrawOffer 1, signedIn, 9, none, none⟩,
    ⟨.sendDrawResponse 1 true, signedIn, 9, some 77, some 5⟩]

def torn : Call := ⟨.sendMove 1 2 3, signedIn, 9, some 77, none⟩

theorem requests_delivered_calls :
    torn.Torn ∧
    (Wire.ClientConnection.receiveMessages 2 ⟨5, true, [], [.received 70, .interrupted,
      .received 3], [], stream (calls ++ [torn])⟩).1.map received =
        [some ([], .login "alice".toList "alice-pw".toList),
          some ("token".toList, .drawResponse 1 true)] := by
  have inRange : ∀ call ∈ calls, call.InRange := by
    simp only [calls, List.forall_mem_cons, List.not_mem_nil, false_imp_iff, implies_true, and_true]
    have one : 1 < 2 ^ 32 := by decide
    have plain : Plain "token".toList := by decide
    exact ⟨⟨⟨by decide, by decide⟩, by decide⟩, ⟨one, by decide⟩, ⟨one, plain⟩, ⟨one, plain⟩⟩
  have untorn : ∀ call ∈ calls, ¬call.Torn := by decide +kernel
  have passes : Wire.ClientConnection.Receiving ⟨5, true, [], [.received 70, .interrupted,
      .received 3], [], stream (calls ++ [torn])⟩ :=
    ⟨rfl, by decide, by simp [Wire.RecvResult.Passes]⟩
  have delivered := (requests_delivered inRange untorn [torn] passes rfl).1 2 (by decide +kernel)
  refine ⟨by decide +kernel, delivered.trans ?_⟩
  decide +kernel

end Battleship.RequestDelivery
