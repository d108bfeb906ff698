import Battleship.ClientScreens
import Battleship.RequestDelivery

/-! The dialogs that ask whether a challenge is accepted. While one is open the main loop goes
on, so that another can come over it. The number of the challenge is no part of a dialog: it
is kept once, at the current screen and beside it. -/

namespace Battleship.ChallengeDialogs

open ClientScreens (UIScreen)
open RequestDelivery (Api)

inductive DialogResponse
  | accept | reject | closed
deriving DecidableEq

/-- A challenge with how many were shown up to it, which the source does not count, or a
dialog of another kind with the screen that it leads to. -/
inductive Dialog
  | challenge (challengeId : ChallengeId) (number : Nat)
  | other (next : Option UIScreen)

structure Client where
  network : ClientNetwork
  /-- The lobby was created, which sets the callback for challenges. -/
  subscribed : Bool
  /-- The `challenge_id` of `current_screen`, 0 where none is set. -/
  screenChallengeId : ChallengeId
  pendingChallengeId : ChallengeId
  dialogs : List Dialog
  shown : Nat

inductive Event
  | challengeReceived (challengerId : UserId) (challengeId : ChallengeId)
  | openDialog (next : Option UIScreen)
  | close (response : DialogResponse)
  | showScreen (screen : UIScreen)
  | network (network : ClientNetwork)

namespace Client

variable (client : Client)

def showScreen (screen : UIScreen) : Client :=
  { client with
    subscribed := client.subscribed || screen = .lobby
    screenChallengeId := 0 }

def onChallengeReceived (challengerId : UserId) (challengeId : ChallengeId) : Client :=
  if client.network.userId = challengerId then client
  else
    { client with
      screenChallengeId := challengeId
      pendingChallengeId := challengeId
      dialogs := .challenge challengeId (client.shown + 1) :: client.dialogs
      shown := client.shown + 1 }

def challengeId : ChallengeId :=
  if client.screenChallengeId = 0 then client.pendingChallengeId else client.screenChallengeId

def challengeClosed : Client :=
  if client.challengeId = 0 then client
  else { client with screenChallengeId := 0, pendingChallengeId := 0 }

def response (response : DialogResponse) : Option Api :=
  if client.challengeId = 0 then none
  else some (.respondToChallenge client.challengeId (response = .accept))

def close : Client :=
  match client.dialogs with
  | [] => client
  | .challenge .. :: below => { client with dialogs := below }.challengeClosed
  | .other none :: below => { client with dialogs := below }
  | .other (some next) :: below => { client with dialogs := below }.showScreen next

end Client

def step (client : Client) : Event → Client
  | .challengeReceived challengerId challengeId =>
      if client.subscribed then client.onChallengeReceived challengerId challengeId else client
  | .openDialog next => { client with dialogs := .other next :: client.dialogs }
  | .close _ => client.close
  | .showScreen screen => client.showScreen screen
  | .network network => { client with network := network }

def sends (client : Client) : Event → Option Request
  | .close response =>
      match client.dialogs with
      | .challenge .. :: _ => (client.response response).bind (·.request? client.network)
      | _ => none
  | _ => none

def answer (client : Client) : Event → Option Request
  | .close response =>
      match client.dialogs with
      | .challenge challengeId _ :: _ =>
          (Api.respondToChallenge challengeId (response = .accept)).request? client.network
      | _ => none
  | _ => none

def AnswersLast (client : Client) (event : Event) : Prop :=
  match event, client.dialogs with
  | .close _, .challenge challengeId number :: _ =>
      client.network.isAuthenticated = true → challengeId ≠ 0 ∧ number = client.shown
  | _, _ => True

def start (network : ClientNetwork) : Client where
  network := network
  subscribed := false
  screenChallengeId := 0
  pendingChallengeId := 0
  dialogs := []
  shown := 0

section Invariant

def topChallenge : List Dialog → Option (ChallengeId × Nat)
  | [] => none
  | .challenge challengeId number :: _ => some (challengeId, number)
  | .other _ :: below => topChallenge below

def numbers : List Dialog → List Nat
  | [] => []
  | .challenge _ number :: below => number :: numbers below
  | .other _ :: below => numbers below

def lastOpen (shown : Nat) (dialogs : List Dialog) : ChallengeId :=
  match topChallenge dialogs with
  | some (challengeId, number) => if number = shown then challengeId else 0
  | none => 0

/-- The number that is kept is that of the challenge that was shown last, as long as it has
not been answered. -/
structure Sound (client : Client) : Prop where
  pending : client.pendingChallengeId = lastOpen client.shown client.dialogs
  screen : client.screenChallengeId = 0 ∨ client.screenChallengeId = client.pendingChallengeId
  order : ((client.shown + 1) :: numbers client.dialogs).Pairwise (· > ·)

variable {client : Client}

theorem mem_numbers_of_top {dialogs : List Dialog} {challengeId : ChallengeId} {number : Nat}
    (top : topChallenge dialogs = some (challengeId, number)) : number ∈ numbers dialogs := by
  induction dialogs with
  | nil => cases top
  | cons dialog below ih =>
      cases dialog with
      | challenge =>
          cases top
          exact List.mem_cons_self
      | other next => exact ih top

theorem lastOpen_eq_zero {shown : Nat} {dialogs : List Dialog} (answered : shown ∉ numbers dialogs) :
    lastOpen shown dialogs = 0 := by
  unfold lastOpen
  split
  next challengeId number top =>
    rw [if_neg]
    rintro rfl
    exact answered (mem_numbers_of_top top)
  · rfl

/-- Both places of the number lead to the same challenge. -/
theorem Sound.challengeId_eq (sound : Sound client) :
    client.challengeId = client.pendingChallengeId := by
  rw [Client.challengeId]
  split
  next => rfl
  next set => exact sound.screen.resolve_left set

theorem Sound.showScreen (sound : Sound client) (screen : UIScreen) :
    Sound (client.showScreen screen) :=
  ⟨sound.pending, .inl rfl, sound.order⟩

theorem Sound.onChallengeReceived (sound : Sound client) (challengerId : UserId)
    (challengeId : ChallengeId) : Sound (client.onChallengeReceived challengerId challengeId) := by
  unfold Client.onChallengeReceived
  split
  · exact sound
  refine ⟨?_, .inr rfl, ?_⟩
  · simp [lastOpen, topChallenge]
  · have newest : client.shown + 1 + 1 > client.shown + 1 := Nat.lt_succ_self _
    refine List.pairwise_cons.mpr ⟨fun number member => ?_, sound.order⟩
    rcases List.mem_cons.mp member with rfl | older
    · exact newest
    · exact (List.rel_of_pairwise_cons sound.order older).trans newest

/-- Below the challenge on top there is none that could have been shown last. -/
theorem Sound.below {challengeId : ChallengeId} {number : Nat} {below : List Dialog}
    (sound : Sound client) (top : client.dialogs = .challenge challengeId number :: below) :
    client.shown ∉ numbers below ∧ ((client.shown + 1) :: numbers below).Pairwise (· > ·) := by
  have order := sound.order
  rw [top, numbers] at order
  have recent := List.rel_of_pairwise_cons order List.mem_cons_self
  constructor
  · intro member
    have older := List.rel_of_pairwise_cons order.of_cons member
    omega
  · exact order.sublist ((List.sublist_cons_self number _).cons_cons _)

theorem Sound.close (sound : Sound client) : Sound client.close := by
  unfold Client.close
  split
  · exact sound
  next challengeId number below top =>
    obtain ⟨answered, order⟩ := sound.below top
    have none := lastOpen_eq_zero answered
    unfold Client.challengeClosed
    split
    next absent =>
      have zero : client.pendingChallengeId = 0 := sound.challengeId_eq.symm.trans absent
      exact ⟨zero.trans none.symm, sound.screen, order⟩
    next => exact ⟨none.symm, .inl rfl, order⟩
  all_goals
    next top =>
      have pending := sound.pending
      have order := sound.order
      rw [top] at pending order
      first
        | exact ⟨pending, sound.screen, order⟩
        | exact ⟨pending, .inl rfl, order⟩

theorem step_sound (event : Event) (sound : Sound client) : Sound (step client event) := by
  cases event with
  | challengeReceived challengerId challengeId =>
      rw [step]
      split
      · exact sound.onChallengeReceived challengerId challengeId
      · exact sound
  | openDialog next => exact ⟨sound.pending, sound.screen, sound.order⟩
  | close response => exact sound.close
  | showScreen screen => exact sound.showScreen screen
  | network network => exact ⟨sound.pending, sound.screen, sound.order⟩

theorem start_sound (network : ClientNetwork) : Sound (start network) :=
  ⟨rfl, .inl rfl, by simp [start, numbers]⟩

end Invariant

section Answers

variable {client : Client}

/-- A number other than 0 is kept exactly for the challenge that was shown last. -/
theorem Sound.pending_top {challengeId : ChallengeId} {number : Nat} {below : List Dialog}
    (sound : Sound client) (top : client.dialogs = .challenge challengeId number :: below) :
    client.pendingChallengeId = if number = client.shown then challengeId else 0 := by
  rw [sound.pending, top]
  rfl

theorem Sound.sends_eq (sound : Sound client) {event : Event}
    (answers : AnswersLast client event) : sends client event = answer client event := by
  cases event with
  | close response =>
      rw [sends, answer]
      cases top : client.dialogs with
      | nil => rfl
      | cons dialog below =>
          cases dialog with
          | other next => rfl
          | challenge challengeId number =>
              dsimp only
              simp only [AnswersLast, top] at answers
              rw [Client.response, sound.challengeId_eq, sound.pending_top top]
              by_cases authenticated : client.network.isAuthenticated = true
              · obtain ⟨nonzero, last⟩ := answers authenticated
                rw [if_pos last, if_neg nonzero]
                rfl
              · have silent (asked : ChallengeId) : (Api.respondToChallenge asked
                    (response = .accept)).request? client.network = none := if_neg authenticated
                rw [silent]
                generalize (if number = client.shown then challengeId else 0) = asked
                by_cases absent : asked = 0
                · rw [if_pos absent]
                  rfl
                · rw [if_neg absent]
                  exact silent asked
  | _ => rfl

theorem Sound.sends_none (sound : Sound client) {event : Event}
    (covered : ¬AnswersLast client event) :
    sends client event = none ∧ answer client event ≠ none := by
  cases event with
  | close response =>
      cases top : client.dialogs with
      | nil => exact absurd (by simp [AnswersLast, top]) covered
      | cons dialog below =>
          cases dialog with
          | other next => exact absurd (by simp [AnswersLast, top]) covered
          | challenge challengeId number =>
              simp only [AnswersLast, top] at covered
              obtain ⟨authenticated, other⟩ := Classical.not_imp.mp covered
              have none : client.challengeId = 0 := by
                rw [sound.challengeId_eq, sound.pending_top top]
                split
                next last => exact not_not.mp fun nonzero => other ⟨nonzero, last⟩
                · rfl
              constructor
              · simp only [sends, top, Client.response, none, if_true]
                rfl
              · simp only [answer, top]
                exact fun unsent => Option.some_ne_none _ ((if_pos authenticated).symm.trans unsent)
  | _ => exact absurd trivial covered

/-- No answer goes to another challenge than the one on view. Those are lost that answer a
challenge after a newer one was shown over it, and no others. -/
theorem responses_answers (network : ClientNetwork) (events : List Event) :
    (Machine.outputs step sends (start network) events).Sublist
        (Machine.outputs step answer (start network) events) ∧
      (Machine.outputs step sends (start network) events =
          Machine.outputs step answer (start network) events ↔
        Machine.Respects step AnswersLast (start network) events) :=
  Machine.outputs_sublist_iff step (fun _ event sound => step_sound event sound)
    (fun _ _ sound answers => sound.sends_eq answers)
    (fun _ _ sound covered => sound.sends_none covered) _ (start_sound network) events

/-- Both challenges are accepted, and the server hears of the one that came over the other. -/
example : Machine.outputs step sends (start { RequestDelivery.signedIn with userId := 3 })
    [.showScreen .lobby, .challengeReceived 1 7, .challengeReceived 2 8, .close .accept,
      .close .accept] = [.challengeResponse 8 true] := by decide

end Answers

end Battleship.ChallengeDialogs
