import Battleship.People

/-! When the entries of the player manager agree with the connections: a user is
online as long as a listed connection presents that user, and an entry refers to
a listed connection. For both, the steps that keep it are told apart from those
that break it. -/

namespace Battleship

open Decimal (Text)

namespace People

def Listed (people : People) (conn : ConnId) : Prop := ∃ fd, people.clients fd = some conn

def PointersListed (people : People) : Prop :=
  ∀ userId conn, people.entry userId = some conn → people.Listed conn

structure Sound (people : People) : Prop where
  threadFd : ∀ fd conn, people.clients fd = some conn → people.threadFd conn = some fd
  known : ∀ conn, (people.threadFd conn).isSome = true → conn < people.nextConn

def KeepsPointers (people : People) : PeopleChange → Prop
  | .accept fd => ∀ conn userId, people.clients fd = some conn →
      people.entry userId ≠ some conn
  | .appear conn _ => people.Listed conn
  | .remove fd => ∀ conn userId, people.clients fd = some conn →
      people.entry userId = some conn → people.userOn conn = some userId
  | .none | .logout _ _ | .restart => True

theorem sound_init : init.Sound := ⟨by simp [init], by simp [init]⟩

section Steps

variable {people : People} (sound : people.Sound)

include sound

theorem Sound.listed_once {fd other : Fd} {conn : ConnId}
    (first : people.clients fd = some conn)
    (second : people.clients other = some conn) : fd = other := by
  have same := (sound.threadFd fd conn first).symm.trans (sound.threadFd other conn second)
  exact Option.some.inj same

theorem Sound.not_listed_next : ¬people.Listed people.nextConn := by
  rintro ⟨fd, found⟩
  have here := sound.threadFd fd _ found
  exact absurd (sound.known _ (by rw [here, Option.isSome_some])) (Nat.lt_irrefl _)

theorem Sound.listed_accept (fd : Fd) (conn : ConnId) :
    (people.change (.accept fd)).Listed conn ↔
      conn = people.nextConn ∨
        people.Listed conn ∧ people.clients fd ≠ some conn := by
  simp only [Listed, change]
  constructor
  · rintro ⟨other, found⟩
    by_cases same : other = fd
    · subst same
      left
      simpa using found.symm
    · rw [Function.update_of_ne same] at found
      exact Or.inr ⟨⟨other, found⟩, fun displaced => same (sound.listed_once found displaced)⟩
  · rintro (rfl | ⟨⟨other, found⟩, kept⟩)
    · exact ⟨fd, by simp⟩
    · have different : other ≠ fd := by
        rintro rfl
        exact kept found
      exact ⟨other, by rw [Function.update_of_ne different, found]⟩

theorem Sound.listed_remove (fd : Fd) (conn : ConnId) :
    (people.change (.remove fd)).Listed conn ↔
      people.Listed conn ∧ people.clients fd ≠ some conn := by
  simp only [Listed, change]
  constructor
  · rintro ⟨other, found⟩
    by_cases same : other = fd
    · simp [same] at found
    · rw [Function.update_of_ne same] at found
      exact ⟨⟨other, found⟩, fun removed => same (sound.listed_once found removed)⟩
  · rintro ⟨⟨other, found⟩, kept⟩
    have different : other ≠ fd := by
      rintro rfl
      exact kept found
    exact ⟨other, by rw [Function.update_of_ne different, found]⟩

theorem Sound.change (change : PeopleChange) : (people.change change).Sound := by
  cases change with
  | none | appear | logout => exact ⟨sound.threadFd, sound.known⟩
  | restart => exact ⟨by simp [People.change, init], by simp [People.change, init]⟩
  | accept fd =>
      constructor
      · intro other conn found
        simp only [People.change] at found ⊢
        by_cases same : other = fd
        · subst same
          obtain rfl : people.nextConn = conn := by simpa using found
          simp
        · rw [Function.update_of_ne same] at found
          have different : conn ≠ people.nextConn := by
            rintro rfl
            exact sound.not_listed_next ⟨other, found⟩
          rw [Function.update_of_ne different]
          exact sound.threadFd other conn found
      · intro conn known
        simp only [People.change] at known ⊢
        by_cases same : conn = people.nextConn
        · exact same ▸ Nat.lt_succ_self _
        · rw [Function.update_of_ne same] at known
          exact Nat.lt_succ_of_lt (sound.known conn known)
  | remove fd =>
      refine ⟨?_, sound.known⟩
      intro other conn found
      simp only [People.change] at found
      by_cases same : other = fd
      · simp [same] at found
      · rw [Function.update_of_ne same] at found
        exact sound.threadFd other conn found

omit sound in
theorem entry_appear (conn : ConnId) (userId shown : UserId) :
    (people.change (.appear conn userId)).entry shown =
      if shown = userId then some conn else people.entry shown := by
  simp [change, Function.update_apply]

theorem Sound.pointersListed_accept (pointers : people.PointersListed) (fd : Fd) :
    (people.change (.accept fd)).PointersListed ↔ people.KeepsPointers (.accept fd) := by
  constructor
  · intro later conn userId displaced entry
    rcases (sound.listed_accept fd conn).mp (later userId conn entry) with rfl | ⟨_, kept⟩
    · exact sound.not_listed_next ⟨fd, displaced⟩
    · exact kept displaced
  · intro keeps userId conn entry
    exact (sound.listed_accept fd conn).mpr
      (Or.inr ⟨pointers userId conn entry, fun displaced => keeps conn userId displaced entry⟩)

omit sound in
theorem pointersListed_appear (pointers : people.PointersListed) (conn : ConnId)
    (userId : UserId) : (people.change (.appear conn userId)).PointersListed ↔
      people.KeepsPointers (.appear conn userId) := by
  constructor
  · exact fun later => later userId conn (by rw [entry_appear, if_pos rfl])
  · intro listed shown other entry
    rw [entry_appear] at entry
    split_ifs at entry
    · exact Option.some.inj entry ▸ listed
    · exact pointers shown other entry

omit sound in
theorem pointersListed_logout (pointers : people.PointersListed) (conn : ConnId)
    (userId : UserId) : (people.change (.logout conn userId)).PointersListed := by
  intro shown other entry
  simp only [change, Function.update_apply] at entry
  split_ifs at entry
  exact pointers shown other entry

theorem Sound.pointersListed_remove (pointers : people.PointersListed) (fd : Fd) :
    (people.change (.remove fd)).PointersListed ↔ people.KeepsPointers (.remove fd) := by
  constructor
  · intro later conn userId removed entry
    by_contra other
    have kept : (people.change (.remove fd)).entry userId = some conn := by
      simp only [People.change, removed, Option.bind_some, if_neg other]
      exact entry
    exact ((sound.listed_remove fd conn).mp (later userId conn kept)).2 removed
  · intro keeps userId conn entry
    simp only [People.change] at entry
    split at entry
    case isTrue => cases entry
    case isFalse kept =>
        refine (sound.listed_remove fd conn).mpr ⟨pointers userId conn entry, ?_⟩
        intro removed
        exact kept (by rw [removed, Option.bind_some, keeps conn userId removed entry])

theorem Sound.pointersListed_change (pointers : people.PointersListed) (change : PeopleChange) :
    (people.change change).PointersListed ↔ people.KeepsPointers change := by
  cases change with
  | none => exact iff_of_true pointers trivial
  | accept fd => exact sound.pointersListed_accept pointers fd
  | appear conn userId => exact pointersListed_appear pointers conn userId
  | logout conn userId => exact iff_of_true (pointersListed_logout pointers conn userId) trivial
  | remove fd => exact sound.pointersListed_remove pointers fd
  | restart =>
      refine iff_of_true ?_ trivial
      simp [PointersListed, People.change, People.init]

end Steps

end People

/-- `presents` is the user of the last authentication on a connection, unless that
user has logged out on it since. -/
structure Presence where
  people : People
  presents : ConnId → Option UserId

namespace Presence

def init : Presence := ⟨People.init, fun _ => none⟩

def present (presents : ConnId → Option UserId) : PeopleChange → ConnId → Option UserId
  | .appear conn userId => Function.update presents conn (some userId)
  | .logout conn userId =>
      if presents conn = some userId then Function.update presents conn none else presents
  | _ => presents

def change (presence : Presence) (change : PeopleChange) : Presence :=
  ⟨presence.people.change change, present presence.presents change⟩

def Shown (presence : Presence) (userId : UserId) : Prop :=
  ∃ conn, presence.people.Listed conn ∧ presence.presents conn = some userId

def Elsewhere (presence : Presence) (conn : ConnId) (userId : UserId) : Prop :=
  ∃ other, other ≠ conn ∧ presence.people.Listed other ∧ presence.presents other = some userId

def OnlineMatches (presence : Presence) : Prop :=
  ∀ userId, (presence.people.entry userId).isSome = true ↔ presence.Shown userId

structure Sound (presence : Presence) : Prop where
  people : presence.people.Sound
  presented : ∀ conn, (presence.presents conn).isSome = true → conn < presence.people.nextConn
  user : ∀ conn userId, presence.people.Listed conn → presence.presents conn = some userId →
    presence.people.userOn conn = some userId

def Valid (presence : Presence) : PeopleChange → Prop
  | .appear conn _ => (presence.people.threadFd conn).isSome = true
  | _ => True

def KeepsOnline (presence : Presence) : PeopleChange → Prop
  | .accept fd => ∀ conn userId, presence.people.clients fd = some conn →
      presence.presents conn = some userId → presence.Elsewhere conn userId
  | .appear conn userId =>
      (presence.people.Listed conn ∨ presence.Elsewhere conn userId) ∧
      ∀ other, other ≠ userId → presence.people.Listed conn → presence.presents conn = some other →
        presence.Elsewhere conn other
  | .logout conn userId => ¬presence.Elsewhere conn userId
  | .remove fd => ∀ conn userId, presence.people.clients fd = some conn →
      presence.people.userOn conn = some userId → ¬presence.Elsewhere conn userId
  | .none | .restart => True

theorem shown_iff (presence : Presence) (conn : ConnId) (userId : UserId) :
    presence.Shown userId ↔
      (presence.people.Listed conn ∧ presence.presents conn = some userId) ∨
        presence.Elsewhere conn userId := by
  constructor
  · rintro ⟨shown, listed, presents⟩
    by_cases same : shown = conn
    · exact Or.inl ⟨same ▸ listed, same ▸ presents⟩
    · exact Or.inr ⟨shown, same, listed, presents⟩
  · rintro (⟨listed, presents⟩ | ⟨other, _, listed, presents⟩)
    · exact ⟨conn, listed, presents⟩
    · exact ⟨other, listed, presents⟩

section Steps

variable {presence : Presence} (sound : presence.Sound)

include sound

theorem Sound.change {change : PeopleChange} (valid : presence.Valid change) :
    (presence.change change).Sound := by
  have people := sound.people.change change
  cases change with
  | none => exact sound
  | restart =>
      exact ⟨people, sound.presented, by
        simp [Presence.change, People.change, People.init, People.Listed]⟩
  | accept fd =>
      refine ⟨people, fun conn presents => Nat.lt_succ_of_lt (sound.presented conn presents), ?_⟩
      intro conn userId listed presents
      have different : conn ≠ presence.people.nextConn := by
        rintro rfl
        exact absurd (sound.presented _ (Option.isSome_of_eq_some presents)) (Nat.lt_irrefl _)
      obtain ⟨listed, _⟩ := ((sound.people.listed_accept fd conn).mp listed).resolve_left different
      simp only [Presence.change, People.change, Function.update_of_ne different]
      exact sound.user conn userId listed presents
  | appear conn userId =>
      refine ⟨people, ?_, ?_⟩
      · intro other presents
        simp only [Presence.change, present] at presents
        by_cases same : other = conn
        · exact same ▸ sound.people.known conn valid
        · rw [Function.update_of_ne same] at presents
          exact sound.presented other presents
      · intro other shown listed presents
        simp only [Presence.change, present, People.change] at presents ⊢
        by_cases same : other = conn
        · subst same
          simpa using presents
        · rw [Function.update_of_ne same] at presents ⊢
          exact sound.user other shown listed presents
  | logout conn userId =>
      have fewer : ∀ other shown, (presence.change (.logout conn userId)).presents other = some shown →
          presence.presents other = some shown := by
        intro other shown presents
        simp only [Presence.change, present] at presents
        split at presents
        · by_cases same : other = conn
          · simp [same] at presents
          · rwa [Function.update_of_ne same] at presents
        · exact presents
      refine ⟨people, ?_, ?_⟩
      · intro other presents
        obtain ⟨shown, presents⟩ := Option.isSome_iff_exists.mp presents
        exact sound.presented other (by rw [fewer other shown presents, Option.isSome_some])
      · exact fun other shown listed presents =>
          sound.user other shown listed (fewer other shown presents)
  | remove fd =>
      exact ⟨people, sound.presented, fun conn userId listed presents =>
        sound.user conn userId ((sound.people.listed_remove fd conn).mp listed).1 presents⟩

theorem shown_accept (fd : Fd) (userId : UserId) :
    (presence.change (.accept fd)).Shown userId ↔
      ∃ conn, presence.people.Listed conn ∧ presence.people.clients fd ≠ some conn ∧
        presence.presents conn = some userId := by
  constructor
  · rintro ⟨conn, listed, presents⟩
    rcases (sound.people.listed_accept fd conn).mp listed with rfl | ⟨listed, kept⟩
    · have below := sound.presented _ (Option.isSome_of_eq_some presents)
      exact absurd below (Nat.lt_irrefl _)
    · exact ⟨conn, listed, kept, presents⟩
  · rintro ⟨conn, listed, kept, presents⟩
    exact ⟨conn, (sound.people.listed_accept fd conn).mpr (Or.inr ⟨listed, kept⟩), presents⟩

theorem onlineMatches_accept (matches' : presence.OnlineMatches) (fd : Fd) :
    (presence.change (.accept fd)).OnlineMatches ↔ presence.KeepsOnline (.accept fd) := by
  constructor
  · intro later conn userId displaced presents
    have shown : presence.Shown userId := ⟨conn, ⟨fd, displaced⟩, presents⟩
    obtain ⟨other, listed, kept, alsoPresents⟩ :=
      (shown_accept sound fd userId).mp ((later userId).mp ((matches' userId).mpr shown))
    refine ⟨other, ?_, listed, alsoPresents⟩
    rintro rfl
    exact kept displaced
  · intro keeps userId
    refine (matches' userId).trans ?_
    rw [shown_accept sound]
    constructor
    · rintro ⟨conn, listed, presents⟩
      by_cases displaced : presence.people.clients fd = some conn
      · obtain ⟨other, apart, listed, presents⟩ := keeps conn userId displaced presents
        refine ⟨other, listed, ?_, presents⟩
        intro same
        exact apart (Option.some.inj (same.symm.trans displaced))
      · exact ⟨conn, listed, displaced, presents⟩
    · rintro ⟨conn, listed, _, presents⟩
      exact ⟨conn, listed, presents⟩

omit sound in
theorem shown_appear (conn : ConnId) (userId shown : UserId) :
    (presence.change (.appear conn userId)).Shown shown ↔
      (presence.people.Listed conn ∧ shown = userId) ∨ presence.Elsewhere conn shown := by
  rw [shown_iff _ conn]
  have same : (presence.change (.appear conn userId)).presents conn = some shown ↔
      shown = userId := by
    simp only [change, present, Function.update_self, Option.some.injEq]
    exact eq_comm
  refine or_congr (and_congr_right fun _ => same) (exists_congr fun other => ?_)
  refine and_congr_right fun apart => and_congr_right fun _ => ?_
  simp only [change, present, Function.update_of_ne apart]

omit sound in
theorem onlineMatches_appear (matches' : presence.OnlineMatches) (conn : ConnId) (userId : UserId) :
    (presence.change (.appear conn userId)).OnlineMatches ↔
      presence.KeepsOnline (.appear conn userId) := by
  have entry (shown : UserId) : ((presence.change (.appear conn userId)).people.entry shown).isSome =
      true ↔ shown = userId ∨ presence.Shown shown := by
    rw [← matches' shown]
    simp only [change, People.change, Function.update_apply]
    by_cases same : shown = userId <;> simp [same]
  simp only [OnlineMatches, entry, shown_appear, KeepsOnline]
  constructor
  · intro later
    refine ⟨by simpa using (later userId).mp (Or.inl rfl), ?_⟩
    intro other different listed presents
    exact ((later other).mp (Or.inr ⟨conn, listed, presents⟩)).resolve_left fun now =>
      different now.2
  · rintro ⟨shown, others⟩ other
    rw [shown_iff presence conn other]
    by_cases same : other = userId
    · subst same
      simpa using shown
    · simp only [same, false_or, and_false]
      refine ⟨?_, Or.inr⟩
      rintro (⟨listed, presents⟩ | elsewhere)
      · exact others other same listed presents
      · exact elsewhere

omit sound in
theorem elsewhere_logout (conn : ConnId) (userId shown : UserId) :
    (presence.change (.logout conn userId)).Elsewhere conn shown ↔
      presence.Elsewhere conn shown := by
  refine exists_congr fun other => and_congr_right fun apart => and_congr_right fun _ => ?_
  simp only [change, present]
  split
  · rw [Function.update_of_ne apart]
  · rfl

omit sound in
theorem presents_logout (conn : ConnId) (userId shown : UserId) :
    (presence.change (.logout conn userId)).presents conn = some shown ↔
      shown ≠ userId ∧ presence.presents conn = some shown := by
  simp only [change, present]
  split
  case isTrue presented => simp [presented, eq_comm]
  case isFalse other =>
      refine ⟨fun presents => ⟨?_, presents⟩, And.right⟩
      rintro rfl
      exact other presents

omit sound in
theorem onlineMatches_logout (matches' : presence.OnlineMatches) (conn : ConnId) (userId : UserId) :
    (presence.change (.logout conn userId)).OnlineMatches ↔
      presence.KeepsOnline (.logout conn userId) := by
  have entry (shown : UserId) : ((presence.change (.logout conn userId)).people.entry shown).isSome =
      true ↔ shown ≠ userId ∧ presence.Shown shown := by
    rw [← matches' shown]
    simp only [change, People.change, Function.update_apply]
    by_cases same : shown = userId <;> simp [same]
  simp only [OnlineMatches, entry, KeepsOnline]
  simp only [shown_iff (presence.change _) conn, shown_iff presence conn, elsewhere_logout,
    presents_logout]
  constructor
  · intro later elsewhere
    exact ((later userId).mpr (Or.inr elsewhere)).1 rfl
  · intro alone shown
    by_cases same : shown = userId
    · subst same
      simp [alone]
    · simp only [same, ne_eq, not_false_eq_true, true_and]
      rfl

theorem shown_remove (fd : Fd) (userId : UserId) :
    (presence.change (.remove fd)).Shown userId ↔
      ∃ conn, presence.people.Listed conn ∧ presence.people.clients fd ≠ some conn ∧
        presence.presents conn = some userId := by
  refine exists_congr fun conn => ?_
  rw [show (presence.change (.remove fd)).people.Listed conn ↔ _ from
    sound.people.listed_remove fd conn, and_assoc]
  rfl

theorem onlineMatches_remove (matches' : presence.OnlineMatches) (fd : Fd) :
    (presence.change (.remove fd)).OnlineMatches ↔ presence.KeepsOnline (.remove fd) := by
  have entry (userId : UserId) : ((presence.change (.remove fd)).people.entry userId).isSome = true ↔
      (presence.people.clients fd).bind presence.people.userOn ≠ some userId ∧
        presence.Shown userId := by
    rw [← matches' userId]
    simp only [change, People.change]
    split <;> simp_all
  simp only [OnlineMatches, entry, shown_remove sound, KeepsOnline]
  cases removed : presence.people.clients fd with
  | none => simp [Shown]
  | some conn =>
      simp only [Option.bind_some, Option.some.injEq]
      constructor
      · rintro later _ userId rfl user ⟨other, apart, listed, presents⟩
        have kept : some conn ≠ some other := fun same => apart (Option.some.inj same).symm
        exact ((later userId).mpr ⟨other, listed, kept, presents⟩).1 user
      · intro alone userId
        constructor
        · rintro ⟨other, shown, listed, presents⟩
          refine ⟨shown, listed, ?_, presents⟩
          intro same
          obtain rfl := Option.some.inj same
          exact other (sound.user _ userId listed presents)
        · rintro ⟨shown, listed, kept, presents⟩
          have apart : shown ≠ conn := fun same => kept (congrArg some same.symm)
          exact ⟨fun user => alone conn userId rfl user ⟨shown, apart, listed, presents⟩,
            shown, listed, presents⟩

theorem onlineMatches_change (matches' : presence.OnlineMatches) (change : PeopleChange) :
    (presence.change change).OnlineMatches ↔ presence.KeepsOnline change := by
  cases change with
  | none => exact iff_of_true matches' trivial
  | accept fd => exact onlineMatches_accept sound matches' fd
  | appear conn userId => exact onlineMatches_appear matches' conn userId
  | logout conn userId => exact onlineMatches_logout matches' conn userId
  | remove fd => exact onlineMatches_remove sound matches' fd
  | restart =>
      refine iff_of_true ?_ trivial
      simp [OnlineMatches, Shown, People.Listed, Presence.change, People.change, People.init]

end Steps

theorem sound_init : init.Sound :=
  ⟨People.sound_init, by simp [init], by simp [init]⟩

end Presence

namespace Server

def Lists (server : Server) (conn : ConnId) : Prop := ∃ fd : Fd, server.net.clients[fd]? = some conn

def PointersListed (server : Server) : Prop :=
  ∀ userId conn, server.getClientConnection userId = some conn → server.Lists conn

structure Attended where
  server : Server
  presents : ConnId → Option UserId

namespace Attended

variable (lib : Externals)

def init : Attended := ⟨Server.init, fun _ => none⟩

def step (attended : Attended) (event : Event) : Attended :=
  ⟨attended.server.step lib event,
    Presence.present attended.presents (attended.server.peopleChange lib event)⟩

abbrev ran (events : List Event) : Attended := Machine.exec (step lib) init events

def presence (attended : Attended) : Presence := ⟨attended.server.people, attended.presents⟩

def OnlineMatches (attended : Attended) : Prop :=
  ∀ userId, attended.server.isPlayerOnline userId = true ↔
    ∃ conn, attended.server.Lists conn ∧ attended.presents conn = some userId

theorem ran_server (events : List Event) : (ran lib events).server = after lib events := by
  induction events using List.reverseRecOn with
  | nil => rfl
  | append_singleton before event ih =>
      rw [ran, Machine.exec_append, Machine.exec_cons, Machine.exec_nil, after_concat]
      exact congrArg (fun server => server.step lib event) ih

theorem step_presence (attended : Attended) (event : Event) :
    (attended.step lib event).presence =
      attended.presence.change (attended.server.peopleChange lib event) := by
  simp only [presence, step, step_people, Presence.change]

theorem onlineMatches_iff (attended : Attended) :
    attended.OnlineMatches ↔ attended.presence.OnlineMatches := by
  refine forall_congr' fun userId => ?_
  have online : attended.server.isPlayerOnline userId =
      (attended.server.getClientConnection userId).isSome := by
    simp [isPlayerOnline, getClientConnection]
  rw [online]
  rfl

end Attended

section Changes

variable (lib : Externals)

theorem peopleChange_valid (server : Server) (presents : ConnId → Option UserId) (event : Event) :
    (⟨server.people, presents⟩ : Presence).Valid (server.peopleChange lib event) := by
  obtain ⟨env, action⟩ := event
  cases action with
  | message conn token request =>
      simp only [peopleChange]
      cases known : server.net.connections[conn]? with
      | none => trivial
      | some client =>
          have here : (server.people.threadFd conn).isSome = true := by
            simp [people, Network.threadFd, known]
          dsimp only
          split
          · cases request with
            | login username password =>
                simp only [requestChange]
                split
                · trivial
                · exact here
            | validateSession token =>
                simp only [requestChange]
                split
                · trivial
                · exact here
            | logout token =>
                simp only [requestChange]
                split <;> trivial
            | _ => trivial
          · trivial
  | accept fd =>
      simp only [peopleChange]
      split <;> trivial
  | removeClient conn =>
      simp only [peopleChange]
      split
      · trivial
      split <;> trivial
  | _ => trivial

theorem people_init : Server.init.people = People.init := by
  apply People.ext <;> rfl

theorem after_people_sound (server : Server) (event : Event) (sound : server.people.Sound) :
    (server.step lib event).people.Sound := by
  rw [step_people]
  exact sound.change _

end Changes

theorem online_iff_presented (lib : Externals) (events : List Event) :
    (∀ early, early <+: events → (Attended.ran lib early).OnlineMatches) ↔
      Machine.Respects (Attended.step lib) (fun attended event =>
        attended.presence.KeepsOnline (attended.server.peopleChange lib event))
        Attended.init events := by
  apply Machine.always_iff_respects (Attended.step lib)
    (fun attended => attended.presence.Sound)
  · have start : Attended.init.presence = Presence.init := by
      simp only [Attended.presence, Attended.init, people_init, Presence.init]
    exact start ▸ Presence.sound_init
  · intro attended event sound
    rw [Attended.step_presence]
    exact sound.change (peopleChange_valid lib attended.server attended.presents event)
  · simp [Attended.OnlineMatches, Attended.init, isPlayerOnline, Lists, Server.init, Network.init]
  · intro attended event sound holds
    rw [Attended.onlineMatches_iff] at holds ⊢
    rw [Attended.step_presence]
    exact Presence.onlineMatches_change sound holds _

section Reconnected

open Script

def secondClosed : List Event := [
  ⟨env 0, .accept 5⟩, ⟨env 0, .accept 6⟩,
  sends 0 alice (.register "alice".toList "alice-pw".toList "Alice".toList),
  sends 1 alice (.login "alice".toList "alice-pw".toList),
  ⟨env 2, .message 1 [] (.validateSession (token alice))⟩,
  ⟨env 3, .receiveFailed 1⟩, ⟨env 3, .removeClient 1⟩]

theorem not_onlineMatches_secondClosed : ¬∀ (lib : Externals) (events : List Event),
    (Attended.ran lib events).OnlineMatches := by
  intro all
  have offline : (Attended.ran lib secondClosed).server.isPlayerOnline alice = false := by
    decide +kernel
  have listed : (Attended.ran lib secondClosed).server.net.clients[5]? = some 0 := by
    decide +kernel
  have presents : (Attended.ran lib secondClosed).presents 0 = some alice := by decide +kernel
  have online := (all lib secondClosed alice).mpr ⟨0, ⟨5, listed⟩, presents⟩
  simp [offline] at online

end Reconnected

theorem pointersListed_iff (lib : Externals) (events : List Event) :
    (∀ early, early <+: events → (after lib early).PointersListed) ↔
      Machine.Respects (Server.step lib) (fun server event =>
        server.people.KeepsPointers (server.peopleChange lib event)) Server.init events := by
  apply Machine.always_iff_respects (Server.step lib) (fun server => server.people.Sound)
  · exact people_init ▸ People.sound_init
  · exact fun server event sound => after_people_sound lib server event sound
  · simp [PointersListed, getClientConnection, Server.init]
  · intro server event sound holds
    have decided := sound.pointersListed_change holds (server.peopleChange lib event)
    rw [← step_people] at decided
    exact decided

section Reused

open Script

def sharedClosed : List Event := [
  ⟨env 0, .accept 5⟩,
  ⟨env 0, .message 0 [] (.register "alice".toList "alice-pw".toList "Alice".toList)⟩,
  ⟨env 0, .message 0 [] (.register "bob".toList "bob-pw".toList "Bob".toList)⟩,
  ⟨env 1, .message 0 [] (.login "alice".toList "alice-pw".toList)⟩,
  ⟨env 1, .message 0 [] (.login "bob".toList "bob-pw".toList)⟩,
  ⟨env 2, .receiveFailed 0⟩, ⟨env 2, .removeClient 0⟩]

theorem not_pointersListed_sharedClosed : ¬∀ (lib : Externals) (server : Server),
    server.Reachable lib → server.PointersListed := by
  intro all
  have entry : (after lib sharedClosed).getClientConnection alice = some 0 := by decide +kernel
  obtain ⟨fd, listed⟩ := all lib _ (after_reachable lib sharedClosed) alice 0 entry
  have sound : (after lib sharedClosed).people.Sound :=
    Machine.invariant (Server.step lib) (people_init ▸ People.sound_init)
      (after_people_sound lib) sharedClosed
  have thread : (after lib sharedClosed).people.threadFd 0 = some 5 := by decide +kernel
  obtain rfl : 5 = fd := Option.some.inj (thread.symm.trans (sound.threadFd fd 0 listed))
  have closed : (after lib sharedClosed).net.clients[5]? = none := by decide +kernel
  simp [closed] at listed

end Reused

end Server

end Battleship
