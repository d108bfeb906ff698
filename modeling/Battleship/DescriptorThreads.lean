import Battleship.Presence

/-! The accept thread and the handler threads, split where another thread can
come between: between `accept` and the entry in `clients_`, before a handler
thread looks its client up, and within `removeClient`. A descriptor is handed out
again as soon as its socket is closed. -/

namespace Battleship

open Decimal (Text)

/-- Where a handler thread is; `served` is the connection it serves, and
`removed` the one that `removeClient` found. -/
inductive HandlerPhase
  | starting
  | serving (served : ConnId)
  | leaving (served : ConnId)
  | erased (served removed : ConnId)
  | ending (served removed : ConnId) (userId : UserId)
  | departing (served removed : ConnId) (userId : UserId)
  | closing (served removed : ConnId)
  | ended (served : ConnId)
  | notFound
deriving DecidableEq

structure HandlerThread where
  clientFd : Fd
  phase : HandlerPhase
deriving DecidableEq

/-- The server and its threads, each under the connection it was started for.
`removals` has the served and the removed connection of each `removeClient`;
`disconnected` and `departed` the users for whom a thread has called
`handlePlayerDisconnect` and `removePlayer`. -/
structure ClientThreads where
  server : Server
  accepted : Option Fd
  threads : ConnId → Option HandlerThread
  removals : List (ConnId × ConnId)
  disconnected : List (ConnId × UserId)
  departed : List (ConnId × UserId)

inductive ThreadStep
  | accept (fd : Fd)
  | insertClient
  | findClient (thread : ConnId)
  | routeMessage (thread : ConnId) (env : Env) (token : Text) (request : Request)
  | closeSocket (conn : ConnId)
  | leaveLoop (thread : ConnId)
  | eraseClient (thread : ConnId)
  | readUser (thread : ConnId)
  | handlePlayerDisconnect (thread : ConnId) (env : Env)
  | removePlayer (thread : ConnId) (env : Env)
  | disconnect (thread : ConnId)
  | checkTurnTimeouts (env : Env)

namespace ClientThreads

variable (lib : Externals)

def init : ClientThreads := ⟨Server.init, none, fun _ => none, [], [], []⟩

def enter (state : ClientThreads) (thread : ConnId) (clientFd : Fd) (phase : HandlerPhase) :
    ClientThreads :=
  { state with threads := Function.update state.threads thread (some ⟨clientFd, phase⟩) }

def withServer (state : ClientThreads) (server : Server) : ClientThreads :=
  { state with server := server }

def step (state : ClientThreads) : ThreadStep → ClientThreads
  | .accept fd =>
      if state.accepted.isNone && state.server.descriptorFree fd then
        { state with accepted := some fd }
      else state
  | .insertClient =>
      match state.accepted with
      | none => state
      | some fd =>
          { state with
            server := state.server.acceptConnection fd
            accepted := none }.enter state.server.net.nextConn fd .starting
  | .findClient thread =>
      match state.threads thread with
      | some ⟨fd, .starting⟩ =>
          match state.server.net.clients[fd]? with
          | none => state.enter thread fd .notFound
          | some conn => state.enter thread fd (.serving conn)
      | _ => state
  | .routeMessage thread env token request =>
      match state.threads thread with
      | some ⟨_, .serving conn⟩ =>
          match state.server.net.connections[conn]? with
          | none => state
          | some client =>
              if client.socketFd.isSome then
                state.withServer (state.server.routeMessage lib env conn client token request)
              else state
      | _ => state
  | .closeSocket conn =>
      state.withServer { state.server with net := state.server.net.disconnect conn }
  | .leaveLoop thread =>
      match state.threads thread with
      | some ⟨fd, .serving conn⟩ =>
          if (state.server.net.socketFd conn).isNone then state.enter thread fd (.leaving conn)
          else state
      | _ => state
  | .eraseClient thread =>
      match state.threads thread with
      | some ⟨fd, .leaving served⟩ =>
          match state.server.net.clients[fd]? with
          | none => state.enter thread fd (.ended served)
          | some removed =>
              { state with
                server := { state.server with
                  net := { state.server.net with clients := state.server.net.clients.erase fd } }
                removals := state.removals ++ [(served, removed)] }.enter thread fd
                  (.erased served removed)
      | _ => state
  | .readUser thread =>
      match state.threads thread with
      | some ⟨fd, .erased served removed⟩ =>
          match state.server.net.userOn removed with
          | none => state.enter thread fd (.closing served removed)
          | some userId => state.enter thread fd (.ending served removed userId)
      | _ => state
  | .handlePlayerDisconnect thread env =>
      match state.threads thread with
      | some ⟨fd, .ending served removed userId⟩ =>
          { state with
            server := state.server.handlePlayerDisconnect lib env userId
            disconnected := state.disconnected ++ [(served, userId)] }.enter thread fd
              (.departing served removed userId)
      | _ => state
  | .removePlayer thread env =>
      match state.threads thread with
      | some ⟨fd, .departing served removed userId⟩ =>
          { state with
            server := state.server.removePlayer env userId
            departed := state.departed ++ [(served, userId)] }.enter thread fd
              (.closing served removed)
      | _ => state
  | .disconnect thread =>
      match state.threads thread with
      | some ⟨fd, .closing served removed⟩ =>
          (state.withServer { state.server with
            net := state.server.net.disconnect removed }).enter thread fd (.ended served)
      | _ => state
  | .checkTurnTimeouts env => state.withServer (state.server.checkTurnTimeouts lib env)

abbrev ran (steps : List ThreadStep) : ClientThreads := Machine.exec (step lib) init steps

def Handled (state : ClientThreads) (served : ConnId) : Prop :=
  ∀ userId, state.server.net.userOn served = some userId →
    (served, userId) ∈ state.disconnected ∧ (served, userId) ∈ state.departed

structure RemovesOwn (state : ClientThreads) : Prop where
  own : ∀ served removed, (served, removed) ∈ state.removals → removed = served
  handled : ∀ thread fd served, state.threads thread = some ⟨fd, .ended served⟩ →
    state.Handled served

def InsertsFree (state : ClientThreads) : ThreadStep → Prop
  | .insertClient => ∀ fd, state.accepted = some fd → state.server.net.clients[fd]? = none
  | _ => True

instance (state : ClientThreads) : ∀ step, Decidable (state.InsertsFree step)
  | .insertClient =>
      inferInstanceAs (Decidable (∀ fd ∈ state.accepted, state.server.net.clients[fd]? = none))
  | .accept _ | .findClient _ | .routeMessage _ _ _ _ | .closeSocket _ | .leaveLoop _
  | .eraseClient _ | .readUser _ | .handlePlayerDisconnect _ _ | .removePlayer _ _ | .disconnect _
  | .checkTurnTimeouts _ => isTrue trivial

end ClientThreads

def HandlerPhase.Early : HandlerPhase → Prop
  | starting | serving _ | leaving _ => True
  | _ => False

namespace ClientThreads

variable (lib : Externals)

def Fine (state : ClientThreads) (conn : ConnId) (thread : HandlerThread) : Prop :=
  match thread.phase with
  | .starting => state.server.people.clients thread.clientFd = some conn
  | .serving served | .leaving served =>
      served = conn ∧ state.server.people.clients thread.clientFd = some conn
  | .erased served removed => served = conn ∧ removed = conn
  | .ending served removed userId =>
      served = conn ∧ removed = conn ∧ state.server.people.userOn conn = some userId
  | .departing served removed userId =>
      served = conn ∧ removed = conn ∧ state.server.people.userOn conn = some userId ∧
        (conn, userId) ∈ state.disconnected
  | .closing served removed => served = conn ∧ removed = conn ∧ state.Handled conn
  | .ended served => served = conn ∧ state.Handled conn
  | .notFound => False

structure Sound (state : ClientThreads) : Prop where
  known : ∀ conn thread, state.threads conn = some thread → conn < state.server.people.nextConn
  listed : ∀ fd conn, state.server.people.clients fd = some conn →
    ∃ phase : HandlerPhase, state.threads conn = some ⟨fd, phase⟩ ∧ phase.Early
  fine : ∀ conn thread, state.threads conn = some thread → state.Fine conn thread
  own : ∀ served removed, (served, removed) ∈ state.removals → removed = served

theorem sound_init : init.Sound where
  known := by simp [init]
  listed := by simp [init, Server.people_init, People.init]
  fine := by simp [init]
  own := by simp [init]

theorem Sound.removesOwn {state : ClientThreads} (sound : state.Sound) : state.RemovesOwn where
  own := sound.own
  handled := by
    intro thread fd served found
    obtain ⟨rfl, handled⟩ : served = thread ∧ state.Handled thread := sound.fine thread _ found
    exact handled

section Steps

variable {state later : ClientThreads} {conn : ConnId} {thread : HandlerThread}

theorem Fine.mono (fine : state.Fine conn thread)
    (listed : state.server.people.clients thread.clientFd = some conn →
      later.server.people.clients thread.clientFd = some conn)
    (user : ¬thread.phase.Early → later.server.people.userOn conn = state.server.people.userOn conn)
    (disconnected : state.disconnected ⊆ later.disconnected)
    (departed : state.departed ⊆ later.departed) : later.Fine conn thread := by
  obtain ⟨fd, phase⟩ := thread
  have handled (handled : state.Handled conn) (done : ¬phase.Early) : later.Handled conn := by
    intro userId presents
    have before : state.server.people.userOn conn = some userId := (user done).symm.trans presents
    exact ⟨disconnected (handled userId before).1, departed (handled userId before).2⟩
  cases phase with
  | starting => exact listed fine
  | serving served => exact ⟨fine.1, listed fine.2⟩
  | leaving served => exact ⟨fine.1, listed fine.2⟩
  | erased served removed => exact fine
  | ending served removed userId => exact ⟨fine.1, fine.2.1, (user id).trans fine.2.2⟩
  | departing served removed userId =>
      exact ⟨fine.1, fine.2.1, (user id).trans fine.2.2.1, disconnected fine.2.2.2⟩
  | closing served removed => exact ⟨fine.1, fine.2.1, handled fine.2.2 id⟩
  | ended served => exact ⟨fine.1, handled fine.2 id⟩
  | notFound => exact fine

variable (sound : state.Sound)

include sound

theorem Sound.withServer {server : Server}
    (clients : server.people.clients = state.server.people.clients)
    (nextConn : server.people.nextConn = state.server.people.nextConn)
    (user : ∀ conn thread, state.threads conn = some thread → ¬thread.phase.Early →
      server.people.userOn conn = state.server.people.userOn conn) :
    (state.withServer server).Sound where
  known := fun conn thread found => by
    simpa only [ClientThreads.withServer, nextConn] using sound.known conn thread found
  listed := fun fd conn found => by
    simp only [ClientThreads.withServer, clients] at found ⊢
    exact sound.listed fd conn found
  fine := fun conn thread found =>
    (sound.fine conn thread found).mono (by simp only [ClientThreads.withServer, clients]; exact id)
      (user conn thread found) (List.Subset.refl _) (List.Subset.refl _)
  own := sound.own

theorem Sound.advance {fd : Fd} {phase next : HandlerPhase}
    (was : state.threads conn = some ⟨fd, phase⟩)
    (threads : later.threads = Function.update state.threads conn (some ⟨fd, next⟩))
    (clients : later.server.people.clients = state.server.people.clients)
    (nextConn : later.server.people.nextConn = state.server.people.nextConn)
    (userOn : later.server.people.userOn = state.server.people.userOn)
    (disconnected : state.disconnected ⊆ later.disconnected)
    (departed : state.departed ⊆ later.departed)
    (removals : later.removals = state.removals) (early : phase.Early → next.Early)
    (mine : later.Fine conn ⟨fd, next⟩) : later.Sound := by
  refine ⟨?_, ?_, ?_, removals ▸ sound.own⟩
  · intro other thread found
    rw [nextConn]
    rw [threads, Function.update_apply] at found
    split_ifs at found with same
    · exact same ▸ sound.known conn _ was
    · exact sound.known other thread found
  · intro otherFd other found
    rw [clients] at found
    obtain ⟨before, running, stage⟩ := sound.listed otherFd other found
    by_cases same : other = conn
    · subst same
      obtain ⟨rfl, rfl⟩ : fd = otherFd ∧ phase = before := by
        simpa [was] using running
      exact ⟨next, by rw [threads, Function.update_self], early stage⟩
    · exact ⟨before, by rw [threads, Function.update_of_ne same, running], stage⟩
  · intro other thread found
    rw [threads, Function.update_apply] at found
    split_ifs at found with same
    · subst same
      exact Option.some.inj found ▸ mine
    · exact (sound.fine other thread found).mono (by rw [clients]; exact id)
        (fun _ => by rw [userOn]) disconnected departed

theorem Sound.insertClient (free : state.InsertsFree .insertClient) :
    (state.step lib .insertClient).Sound := by
  simp only [step]
  cases accepted : state.accepted with
  | none => exact sound
  | some fd =>
      have nobody : state.server.people.clients fd = none := free fd accepted
      have people := Server.acceptConnection_people fd state.server
      refine ⟨?_, ?_, ?_, sound.own⟩
      · intro conn thread found
        have nextConn : (state.server.acceptConnection fd).people.nextConn =
            state.server.people.nextConn + 1 := congrArg People.nextConn people
        simp only [enter, Function.update_apply] at found ⊢
        rw [nextConn]
        split_ifs at found with same
        · exact same ▸ Nat.lt_succ_self _
        · exact Nat.lt_succ_of_lt (sound.known conn thread found)
      · intro other conn found
        simp only [enter, people, People.change, Function.update_apply] at found ⊢
        split_ifs at found with same
        · obtain rfl := Option.some.inj found
          exact ⟨.starting, by rw [same]; exact if_pos rfl, trivial⟩
        · obtain ⟨phase, running, early⟩ := sound.listed other conn found
          have different : conn ≠ state.server.net.nextConn :=
            Nat.ne_of_lt (sound.known conn _ running)
          exact ⟨phase, by rw [if_neg different, running], early⟩
      · intro conn thread found
        simp only [enter, Function.update_apply] at found
        split_ifs at found with same
        · subst same
          obtain rfl := Option.some.inj found
          have listed : (state.server.acceptConnection fd).people.clients fd =
              some state.server.people.nextConn := by
            rw [people]
            exact Function.update_self ..
          exact listed
        · refine (sound.fine conn thread found).mono ?_ ?_ (List.Subset.refl _)
            (List.Subset.refl _)
          · intro listed
            have different : thread.clientFd ≠ fd := by
              rintro rfl
              simp [nobody] at listed
            simp only [enter, people, People.change, Function.update_of_ne different, listed]
          · intro _
            simp only [enter, people, People.change]
            exact Function.update_of_ne same ..

theorem Sound.findClient (thread : ConnId) : (state.step lib (.findClient thread)).Sound := by
  simp only [step]
  split
  case h_1 fd running =>
      have listed : state.server.net.clients[fd]? = some thread := sound.fine thread _ running
      simp only [listed]
      exact sound.advance running rfl rfl rfl rfl (List.Subset.refl _) (List.Subset.refl _) rfl
        (fun _ => trivial) ⟨rfl, listed⟩
  case h_2 => exact sound

omit sound in
theorem requestChange_calm (env : Env) (conn : ConnId) (client : ClientConnection)
    (request : Request) (server : Server) :
    let people := server.people.change (server.requestChange lib env conn client request)
    people.clients = server.people.clients ∧ people.nextConn = server.people.nextConn ∧
      ∀ other, other ≠ conn → people.userOn other = server.people.userOn other := by
  have appears (userId : UserId) (other : ConnId) (apart : other ≠ conn) :
      (server.people.change (.appear conn userId)).userOn other = server.people.userOn other :=
    Function.update_of_ne apart ..
  cases request with
  | login username password =>
      simp only [Server.requestChange]
      split
      · exact ⟨rfl, rfl, fun _ _ => rfl⟩
      · exact ⟨rfl, rfl, appears _⟩
  | validateSession token =>
      simp only [Server.requestChange]
      split
      · exact ⟨rfl, rfl, fun _ _ => rfl⟩
      · exact ⟨rfl, rfl, appears _⟩
  | logout token =>
      simp only [Server.requestChange]
      split <;> exact ⟨rfl, rfl, fun _ _ => rfl⟩
  | _ => exact ⟨rfl, rfl, fun _ _ => rfl⟩

theorem Sound.routeMessage (thread : ConnId) (env : Env) (token : Text) (request : Request) :
    (state.step lib (.routeMessage thread env token request)).Sound := by
  simp only [step]
  split
  case h_1 fd conn running =>
      split
      · exact sound
      next client known =>
        split
        case isTrue =>
            have people := Server.routeMessage_people lib env conn known token request
            obtain ⟨clients, nextConn, others⟩ :=
              requestChange_calm lib env conn client request state.server
            refine sound.withServer (by rw [people, clients]) (by rw [people, nextConn]) ?_
            intro other otherThread found past
            rw [people]
            apply others
            -- a thread past its loop is not the one that serves the connection
            rintro rfl
            obtain ⟨rfl, _⟩ : other = thread ∧ _ := sound.fine thread _ running
            obtain rfl := Option.some.inj (found.symm.trans running)
            exact past trivial
        case isFalse => exact sound
  case h_2 => exact sound

theorem Sound.leaveLoop (thread : ConnId) : (state.step lib (.leaveLoop thread)).Sound := by
  simp only [step]
  split
  case h_1 fd conn running =>
      split
      · exact sound.advance running rfl rfl rfl rfl (List.Subset.refl _) (List.Subset.refl _) rfl
          (fun _ => trivial) (sound.fine thread _ running)
      · exact sound
  case h_2 => exact sound

theorem Sound.eraseClient (thread : ConnId) : (state.step lib (.eraseClient thread)).Sound := by
  simp only [step]
  split
  case h_1 fd served running =>
      obtain ⟨rfl, listed⟩ : served = thread ∧ state.server.people.clients fd = some thread :=
        sound.fine thread _ running
      have found : state.server.net.clients[fd]? = some served := listed
      have people := Server.erase_clients_people fd state.server
      rw [People.unlist] at people
      simp only [found]
      refine ⟨?_, ?_, ?_, ?_⟩
      · intro conn other running'
        simp only [enter, Function.update_apply] at running'
        split_ifs at running' with same
        · exact same ▸ sound.known served _ running
        · exact sound.known conn other running'
      · intro otherFd conn listed'
        simp only [enter, people, Function.update_apply] at listed' ⊢
        split_ifs at listed' with same
        obtain ⟨phase, running', early⟩ := sound.listed otherFd conn listed'
        have different : conn ≠ served := by
          rintro rfl
          obtain ⟨rfl, _⟩ : fd = otherFd ∧ _ := by simpa [running] using running'
          exact same rfl
        exact ⟨phase, by rw [if_neg different, running'], early⟩
      · intro conn other running'
        simp only [enter, Function.update_apply] at running'
        split_ifs at running' with same
        · subst same
          obtain rfl := Option.some.inj running'
          exact ⟨rfl, rfl⟩
        · refine (sound.fine conn other running').mono ?_ (fun _ => ?_) (List.Subset.refl _)
            (List.Subset.refl _)
          · intro elsewhere
            have different : other.clientFd ≠ fd := by
              rintro rfl
              exact same (Option.some.inj (elsewhere.symm.trans listed))
            simp only [enter, people, Function.update_of_ne different, elsewhere]
          · simp only [enter, people]
      · intro first second member
        rcases List.mem_append.mp member with old | new
        · exact sound.own first second old
        · obtain ⟨rfl, rfl⟩ : first = served ∧ second = served := by simpa using new
          rfl
  case h_2 => exact sound

theorem Sound.readUser (thread : ConnId) : (state.step lib (.readUser thread)).Sound := by
  simp only [step]
  split
  case h_1 fd served removed running =>
      obtain ⟨rfl, rfl⟩ : served = thread ∧ removed = thread := sound.fine thread _ running
      split
      next anonymous =>
        refine sound.advance running rfl rfl rfl rfl (List.Subset.refl _) (List.Subset.refl _) rfl
          id ⟨rfl, rfl, ?_⟩
        intro userId presents
        cases anonymous.symm.trans presents
      next userId presents =>
        exact sound.advance running rfl rfl rfl rfl (List.Subset.refl _) (List.Subset.refl _) rfl
          id ⟨rfl, rfl, presents⟩
  case h_2 => exact sound

theorem Sound.handlePlayerDisconnect (thread : ConnId) (env : Env) :
    (state.step lib (.handlePlayerDisconnect thread env)).Sound := by
  simp only [step]
  split
  case h_1 fd served removed userId running =>
      obtain ⟨rfl, rfl, presents⟩ : served = thread ∧ removed = thread ∧
          state.server.people.userOn thread = some userId := sound.fine thread _ running
      have people := (Server.handlePlayerDisconnect_work lib env
        (.refl state.server) userId).routine.people
      refine sound.advance running rfl (congrArg People.clients people)
        (congrArg People.nextConn people) (congrArg People.userOn people)
        (List.subset_append_left _ _) (List.Subset.refl _) rfl id ⟨rfl, rfl, ?_, ?_⟩
      · exact (congrFun (congrArg People.userOn people) _).trans presents
      · exact List.mem_append_right _ (List.mem_singleton_self _)
  case h_2 => exact sound

theorem Sound.removePlayer (thread : ConnId) (env : Env) :
    (state.step lib (.removePlayer thread env)).Sound := by
  simp only [step]
  split
  case h_1 fd served removed userId running =>
      obtain ⟨rfl, rfl, presents, disconnected⟩ : served = thread ∧ removed = thread ∧
          state.server.people.userOn thread = some userId ∧
            (thread, userId) ∈ state.disconnected := sound.fine thread _ running
      have people := (Server.removePlayer_work env userId state.server).routine.people.trans
        (Server.erase_people state.server userId)
      have userOn : (state.server.removePlayer env userId).people.userOn =
          state.server.people.userOn := by rw [people]
      refine sound.advance running rfl (by simp only [enter, people]) (by simp only [enter, people])
        userOn (List.Subset.refl _) (List.subset_append_left _ _) rfl id ⟨rfl, rfl, ?_⟩
      intro shown later
      have before : state.server.people.userOn removed = some shown :=
        (congrFun userOn removed).symm.trans later
      obtain rfl := Option.some.inj (presents.symm.trans before)
      exact ⟨disconnected, List.mem_append_right _ (List.mem_singleton_self _)⟩
  case h_2 => exact sound

theorem Sound.disconnect (thread : ConnId) : (state.step lib (.disconnect thread)).Sound := by
  simp only [step]
  split
  case h_1 fd served removed running =>
      obtain ⟨rfl, rfl, handled⟩ : served = thread ∧ removed = thread ∧ state.Handled thread :=
        sound.fine thread _ running
      have people := Server.disconnect_people removed state.server
      refine sound.advance running rfl (congrArg People.clients people)
        (congrArg People.nextConn people) (congrArg People.userOn people) (List.Subset.refl _)
        (List.Subset.refl _) rfl id ⟨rfl, ?_⟩
      intro userId later
      exact handled userId ((congrFun (congrArg People.userOn people) removed).symm.trans later)
  case h_2 => exact sound

end Steps

theorem step_sound {state : ClientThreads} (sound : state.Sound) {step : ThreadStep}
    (free : state.InsertsFree step) : (state.step lib step).Sound := by
  cases step with
  | accept fd =>
      simp only [ClientThreads.step]
      split
      · exact ⟨sound.known, sound.listed, sound.fine, sound.own⟩
      · exact sound
  | insertClient => exact sound.insertClient lib free
  | findClient thread => exact sound.findClient lib thread
  | routeMessage thread env token request => exact sound.routeMessage lib thread env token request
  | closeSocket conn =>
      have people := Server.disconnect_people conn state.server
      exact sound.withServer (by rw [people]) (by rw [people]) fun _ _ _ _ => by rw [people]
  | leaveLoop thread => exact sound.leaveLoop lib thread
  | eraseClient thread => exact sound.eraseClient lib thread
  | readUser thread => exact sound.readUser lib thread
  | handlePlayerDisconnect thread env => exact sound.handlePlayerDisconnect lib thread env
  | removePlayer thread env => exact sound.removePlayer lib thread env
  | disconnect thread => exact sound.disconnect lib thread
  | checkTurnTimeouts env =>
      have people := (Server.checkTurnTimeouts_work lib env (.refl state.server)).routine.people
      exact sound.withServer (by rw [people]) (by rw [people]) fun _ _ _ _ => by rw [people]

/-- As long as connections are entered under free descriptors, every thread removes
its own connection, with all that is due to its user. -/
theorem removesOwn_of_insertsFree (steps : List ThreadStep)
    (free : Machine.Respects (step lib) InsertsFree init steps) : (ran lib steps).RemovesOwn :=
  (Machine.invariant_of_respects (step lib) (motive := Sound) sound_init
    (fun _ _ free sound => step_sound lib sound free) steps free).removesOwn

section Runs

open Script

def aliceClosed : List ThreadStep := [
  .accept 5, .insertClient, .findClient 0,
  .routeMessage 0 (env 0) [] (.register "alice".toList "alice-pw".toList "Alice".toList),
  .routeMessage 0 (env 1) [] (.login "alice".toList "alice-pw".toList),
  .closeSocket 0]

def reusedEarly : List ThreadStep := aliceClosed ++ [
  .accept 5, .insertClient, .leaveLoop 0, .eraseClient 0]

def reusedLate : List ThreadStep := aliceClosed ++ [
  .leaveLoop 0, .eraseClient 0, .readUser 0, .accept 5, .insertClient,
  .handlePlayerDisconnect 0 (env 2), .removePlayer 0 (env 2), .disconnect 0]

theorem reusedLate_removesOwn : (ran Script.lib reusedLate).RemovesOwn :=
  removesOwn_of_insertsFree Script.lib reusedLate (by decide +kernel)

theorem not_removesOwn_reusedEarly :
    ¬∀ (lib : Externals) (steps : List ThreadStep), (ran lib steps).RemovesOwn := by
  intro all
  have removed : (0, 1) ∈ (ran Script.lib reusedEarly).removals := by decide +kernel
  exact absurd ((all Script.lib reusedEarly).own 0 1 removed) (by decide)

end Runs

section Whole

variable (env : Env) {state : ClientThreads}

theorem disconnect_missing {net : Network} {conn : ConnId}
    (missing : net.connections[conn]? = none) : net.disconnect conn = net := by
  simp only [Network.disconnect, Table.modify_absent missing]

theorem acceptConnection_steps {fd : Fd} (idle : state.accepted = none)
    (free : state.server.descriptorFree fd = true) :
    (Machine.exec (step lib) state [.accept fd, .insertClient]).server =
      state.server.acceptConnection fd := by
  simp [step, idle, free, enter]

def removal (thread : ConnId) (env : Env) : List ThreadStep := [
  .eraseClient thread, .readUser thread, .handlePlayerDisconnect thread env,
  .removePlayer thread env, .disconnect thread]

theorem removeClient_steps {thread served : ConnId} {fd : Fd}
    (leaving : state.threads thread = some ⟨fd, .leaving served⟩) :
    (Machine.exec (step lib) state (removal thread env)).server =
      state.server.removeClient lib env fd := by
  unfold Server.removeClient
  cases found : state.server.net.clients[fd]? with
  | none => simp [removal, step, leaving, found, enter]
  | some conn =>
      let net := { state.server.net with clients := state.server.net.clients.erase fd }
      cases known : state.server.net.connections[conn]? with
      | none =>
          have nobody : net.userOn conn = none := by simp [net, Network.userOn, known]
          have closed : net.disconnect conn = net := disconnect_missing known
          simp only [net] at nobody closed
          simp [removal, step, leaving, found, enter, withServer, nobody, closed, known]
      | some client =>
          cases authenticated : client.authenticated with
          | true =>
              have someone : net.userOn conn = some client.userId := by
                simp [net, Network.userOn, known, ClientConnection.user, authenticated]
              simp only [net] at someone
              simp [removal, step, leaving, found, enter, withServer, someone, known, authenticated]
          | false =>
              have nobody : net.userOn conn = none := by
                simp [net, Network.userOn, known, ClientConnection.user, authenticated]
              simp only [net] at nobody
              simp [removal, step, leaving, found, enter, withServer, nobody, known, authenticated]

end Whole

end ClientThreads

end Battleship
