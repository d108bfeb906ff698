import Battleship.ChallengeFacts
import Battleship.Presence
import Battleship.ServerRuns

/-! What is left of an authentication after a logout. The session and the entry of the
player manager are deleted, but the connection still passes for its user, and a
challenge is sent and answered on behalf of the user of the connection. -/

namespace Battleship

open Decimal (Text)

theorem validateChallenge_eq_none_iff (server : Server) (challengerId targetId : UserId) :
    server.validateChallenge challengerId targetId = none ↔
      server.getPlayerStatus challengerId = .available ∧
        server.getPlayerStatus targetId = .available ∧ challengerId ≠ targetId := by
  have online (available : server.getPlayerStatus targetId = .available) :
      server.isPlayerOnline targetId = true := by
    unfold Server.getPlayerStatus at available
    cases known : server.players[targetId]? <;> simp_all [Server.isPlayerOnline]
  unfold Server.validateChallenge Battleship.validateChallenge
  constructor
  · intro passed
    repeat' split at passed
    all_goals simp_all
  · rintro ⟨challenger, target, distinct⟩
    simp [online target, challenger, target, distinct]

def Request.IsChallenge : Request → Prop
  | .challengeSend .. | .challengeResponse .. => True
  | _ => False

namespace Server

def Receives (server : Server) (event : Event) (conn : ConnId) (request : Request) : Prop :=
  ∃ token client, event.action = .message conn token request ∧
    server.net.connections[conn]? = some client ∧ client.serving = true ∧
    client.socketFd.isSome = true

variable (lib : Externals)

/-- The last authentication on the connection, of `who`, has been followed by a logout. -/
def LoggedOut (events : List Event) (conn : ConnId) (who : Option UserId) : Prop :=
  Machine.Since (step lib)
    (fun server event => (∃ token, server.Receives event conn (.logout token)) ∧
      server.net.userOn conn = who)
    (fun server event => event.action ≠ .restart ∧
      ∀ userId, server.peopleChange lib event ≠ .appear conn userId) init events

structure SameRecords (server later : Server) : Prop where
  manager : later.manager = server.manager
  matchRows : later.db.matchRows = server.db.matchRows
  statuses : ∀ userId, later.getPlayerStatus userId = server.getPlayerStatus userId

def ActsFor (server : Server) (userId : UserId) : Request → Prop
  | .challengeSend targetUserId _ _ => server.getPlayerStatus userId = .available ∧
      server.getPlayerStatus targetUserId = .available ∧ userId ≠ targetUserId
  | .challengeResponse challengeId _ => ∃ challenge : PendingChallenge,
      server.manager.challenges[challengeId]? = some challenge ∧ challenge.targetId = userId
  | _ => False

def Silent (events : List Event) : Prop :=
  ∀ before event conn who request, Machine.StepOf events before event →
    LoggedOut lib before conn who → (after lib before).Receives event conn request →
    request.IsChallenge → (after lib before).SameRecords ((after lib before).step lib event)

section Connections

variable {events : List Event} {conn : ConnId} {who : Option UserId}

theorem Receives.logout_change {server : Server} {event : Event} {token : Text}
    (receives : server.Receives event conn (.logout token)) :
    server.peopleChange lib event = .none ∨
      ∃ userId, server.peopleChange lib event = .logout conn userId := by
  obtain ⟨sent, client, acted, known, serving, connected⟩ := receives
  simp only [peopleChange, acted, known, serving, connected, and_self, if_true, requestChange]
  split
  · exact Or.inr ⟨_, rfl⟩
  · exact Or.inl rfl

theorem userOn_change {people : People} (sound : people.Sound) {change : PeopleChange}
    (running : change ≠ .restart) (here : (people.threadFd conn).isSome = true)
    (other : ∀ userId, change ≠ .appear conn userId) :
    (people.change change).userOn conn = people.userOn conn ∧
      ((people.change change).threadFd conn).isSome = true := by
  cases change with
  | none | logout | remove => exact ⟨rfl, here⟩
  | restart => exact absurd rfl running
  | accept fd =>
      have different : conn ≠ people.nextConn := Nat.ne_of_lt (sound.known conn here)
      simp only [People.change, Function.update_of_ne different]
      exact ⟨trivial, here⟩
  | appear shown userId =>
      have different : conn ≠ shown := by
        rintro rfl
        exact other userId rfl
      simp only [People.change, Function.update_of_ne different]
      exact ⟨trivial, here⟩

theorem peopleChange_ne_restart {server : Server} {event : Event}
    (running : event.action ≠ .restart) : server.peopleChange lib event ≠ .restart := by
  obtain ⟨env, action⟩ := event
  cases action with
  | restart => exact absurd rfl running
  | accept fd =>
      simp only [peopleChange]
      split <;> simp
  | message conn token request =>
      simp only [peopleChange, requestChange]
      repeat' split
      all_goals simp
  | removeClient conn =>
      simp only [peopleChange]
      repeat' split
      all_goals simp
  | receiveFailed | checkTurnTimeouts => simp [peopleChange]

theorem LoggedOut.userOn (out : LoggedOut lib events conn who) :
    (after lib events).net.userOn conn = who := by
  have sound (before : List Event) : (after lib before).people.Sound :=
    Machine.invariant (step lib) (motive := fun server => server.people.Sound)
      (people_init ▸ People.sound_init) (after_people_sound lib) before
  have both : (after lib events).net.userOn conn = who ∧
      ((after lib events).net.threadFd conn).isSome = true := by
    induction out with
    | @marked before event now =>
        obtain ⟨⟨token, receives⟩, user⟩ := now
        have change := receives.logout_change lib
        obtain ⟨_, client, _, known, _⟩ := receives
        have here : ((after lib before).people.threadFd conn).isSome = true := by
          simp [people, Network.threadFd, known]
        have running : (after lib before).peopleChange lib event ≠ .restart := by
          rcases change with same | ⟨userId, same⟩ <;> simp [same]
        have other (userId : UserId) :
            (after lib before).peopleChange lib event ≠ .appear conn userId := by
          rcases change with same | ⟨userId, same⟩ <;> simp [same]
        have kept := userOn_change (sound before) running here other
        rw [← step_people, ← after_concat] at kept
        exact ⟨kept.1.trans user, kept.2⟩
    | @kept before event _ held ih =>
        have kept := userOn_change (sound before) (peopleChange_ne_restart lib held.1) ih.2 held.2
        rw [← step_people, ← after_concat] at kept
        exact ⟨kept.1.trans ih.1, kept.2⟩
  exact both.1

end Connections

section Challenges

variable {server : Server} (env : Env)

theorem tellPlayer_sameRecords (header : MessageHeader) (payload : Payload) (userId : UserId)
    (server : Server) : server.SameRecords (server.tellPlayer env header payload userId) :=
  ⟨rfl, rfl, fun _ => rfl⟩

theorem sendChallenge_sameRecords_iff (userId : UserId) (request : ChallengeRequest) :
    server.SameRecords (server.sendChallenge env userId request) ↔
      ¬server.ActsFor userId
        (.challengeSend request.targetUserId request.timeLimit request.randomPlacement) := by
  rw [ActsFor, ← validateChallenge_eq_none_iff]
  unfold sendChallenge
  cases server.validateChallenge userId request.targetUserId with
  | some error => exact iff_of_true (tellPlayer_sameRecords ..) (by simp)
  | none =>
      refine iff_of_false (fun same => ?_) (by simp)
      have number : server.manager.nextChallengeId + 1 = server.manager.nextChallengeId :=
        congrArg ChallengeManager.nextChallengeId same.manager
      simp at number

theorem respondToChallenge_sameRecords_iff (userId : UserId) (response : ChallengeResponse) :
    server.SameRecords (server.respondToChallenge env userId response) ↔
      ¬server.ActsFor userId (.challengeResponse response.challengeId response.accepted) := by
  cases pending : server.manager.challenges[response.challengeId]? with
  | none =>
      simp only [respondToChallenge, ChallengeManager.takeChallenge, pending]
      exact iff_of_true (tellPlayer_sameRecords ..) (by simp [ActsFor, pending])
  | some challenge =>
      by_cases mine : challenge.targetId = userId
      · subst mine
        have taken := ChallengeManager.takeChallenge_of_pending pending
        have erased : (server.respondToChallenge env challenge.targetId response).manager.challenges =
            server.manager.challenges.erase response.challengeId := by
          unfold respondToChallenge
          rw [taken]
          dsimp only
          split
          · rw [acceptChallenge_manager]
          · rfl
        refine iff_of_false (fun same => ?_) (not_not_intro ⟨challenge, pending, rfl⟩)
        rw [← same.manager, erased, Table.lookup_erase, if_pos rfl] at pending
        cases pending
      · simp only [respondToChallenge, ChallengeManager.takeChallenge, pending, ne_eq, mine,
          not_false_eq_true, if_true]
        exact iff_of_true ⟨rfl, rfl, fun _ => rfl⟩ (by simpa [ActsFor, pending] using mine)

variable {event : Event} {conn : ConnId} {who : Option UserId} {request : Request}

theorem Receives.sameRecords_iff (receives : server.Receives event conn request)
    (user : server.net.userOn conn = who) (challenge : request.IsChallenge) :
    server.SameRecords (server.step lib event) ↔
      ∀ userId, who = some userId → ¬server.ActsFor userId request := by
  obtain ⟨token, client, acted, known, serving, connected⟩ := receives
  obtain rfl : client.user = who := by simpa [Network.userOn, known] using user
  simp only [step, acted, known, serving, connected, and_self, if_true]
  cases request with
  | challengeSend targetUserId timeLimit randomPlacement =>
      simp only [routeMessage, handleChallengeSend, ClientConnection.user]
      split
      · simpa using sendChallenge_sameRecords_iff event.env client.userId
          ⟨targetUserId, timeLimit, randomPlacement⟩
      · exact iff_of_true ⟨rfl, rfl, fun _ => rfl⟩ (by simp)
  | challengeResponse challengeId accepted =>
      simp only [routeMessage, handleChallengeResponse, ClientConnection.user]
      split
      · simpa using respondToChallenge_sameRecords_iff event.env client.userId
          ⟨challengeId, accepted⟩
      · exact iff_of_true ⟨rfl, rfl, fun _ => rfl⟩ (by simp)
  | _ => exact challenge.elim

end Challenges

theorem ActsFor.isChallenge {server : Server} {userId : UserId} {request : Request}
    (acts : server.ActsFor userId request) : request.IsChallenge := by
  cases request with
  | challengeSend | challengeResponse => trivial
  | _ => exact acts.elim

/-- Challenges on logged out connections leave no trace exactly when each of them comes
from a user who could neither send it nor is the one to answer it. -/
theorem silent_iff (events : List Event) : Silent lib events ↔
    ∀ before event conn userId request, Machine.StepOf events before event →
      LoggedOut lib before conn (some userId) → (after lib before).Receives event conn request →
      ¬(after lib before).ActsFor userId request := by
  constructor
  · intro silent before event conn userId request taken out receives acts
    have same := silent before event conn _ request taken out receives acts.isChallenge
    exact (receives.sameRecords_iff lib (out.userOn lib) acts.isChallenge).mp same userId rfl acts
  · intro idle before event conn who request taken out receives challenge
    refine (receives.sameRecords_iff lib (out.userOn lib) challenge).mpr ?_
    rintro userId rfl
    exact idle before event conn userId request taken out receives

end Server

namespace Script

open Server

def bobChallenged : List Event := lobby ++ [sends 2 alice (.challengeSend bob 60 false)]

def bobOut : List Event := bobChallenged ++ [sends 3 bob (.logout (token bob))]

def bobConnected : ClientConnection where
  socketFd := some 6
  authenticated := true
  userId := bob
  sessionToken := token bob
  threadFd := 6
  serving := true

/-- Bob has logged out, and accepts the challenge all the same: a match is created. -/
theorem not_silent_bobOut :
    ¬Silent lib (bobOut ++ [sends 4 bob (.challengeResponse 1 true)]) := by
  intro silent
  have out : LoggedOut lib bobOut 1 (some bob) := by
    have known : (after lib bobChallenged).net.connections[1]? = some bobConnected := by
      decide +kernel
    have user : (after lib bobChallenged).net.userOn 1 = some bob := by decide +kernel
    exact .marked ⟨⟨token bob, token bob, bobConnected, rfl, known, rfl, rfl⟩, user⟩
  have known : (after lib bobOut).net.connections[1]? = some bobConnected := by decide +kernel
  have same := silent bobOut _ 1 _ (.challengeResponse 1 true) ⟨[], rfl⟩ out
    ⟨token bob, bobConnected, rfl, known, rfl, rfl⟩ trivial
  have unmatched : (after lib bobOut).db.matchRows[1]?.isSome = false := by decide +kernel
  have created : ((after lib bobOut).step lib
    (sends 4 bob (.challengeResponse 1 true))).db.matchRows[1]?.isSome = true := by decide +kernel
  rw [same.matchRows, unmatched] at created
  cases created

end Script

end Battleship
