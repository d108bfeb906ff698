import Battleship.Availability
import Battleship.People
import Battleship.ServerEdits

/-! What becomes of a pending challenge. Only a response of its target takes it
from the manager of a running server: it stays there when its time is up and
when one of its users leaves. -/

namespace Battleship

open Decimal (Text)

namespace Server

structure Unpaired (server later : Server) : Prop where
  manager : later.manager = server.manager
  rows : later.db.hasMatch = server.db.hasMatch

theorem Unpaired.refl (server : Server) : Unpaired server server := ⟨rfl, rfl⟩

theorem Unpaired.trans {first second third : Server} (early : Unpaired first second)
    (late : Unpaired second third) : Unpaired first third :=
  ⟨late.manager.trans early.manager, late.rows.trans early.rows⟩

theorem Unpaired.of_aside {server later : Server} (aside : server.Aside later) :
    Unpaired server later :=
  ⟨aside.manager, Database.hasMatch_of_rows aside.tables.matchRows⟩

theorem Work.unpaired {duty : Duty} {env : Env} {server later : Server}
    (work : Work duty env server later) (other : duty ≠ .pairing) : Unpaired server later := by
  induction work with
  | refl => exact .refl server
  | tail _ act unpaired =>
      refine unpaired.trans ?_
      cases act with
      | statement made => exact ⟨rfl, made.hasMatch⟩
      | createMatch pairs | manager pairs => exact absurd pairs other
      | games | setMatch | removeMatch | journal | tells | status => exact ⟨rfl, rfl⟩

theorem routeMessage_unpaired (lib : Externals) (env : Env) (conn : ConnId)
    (client : ClientConnection) (token : Text) {request : Request} (server : Server)
    (other : request.duty ≠ .pairing) :
    Unpaired server (server.routeMessage lib env conn client token request) := by
  cases plain : request.authenticates with
  | false =>
      exact ((routeMessage_work lib env conn client token server plain).unpairing other).unpaired
        other
  | true => exact .of_aside (routeMessage_aside lib env conn client token server plain)

theorem Removal.unpaired {lib : Externals} {env : Env} {fd : Fd} {server later : Server}
    {user : Option UserId} (removal : Removal lib env fd server user later) :
    Unpaired server later := by
  cases removal with
  | nobody => exact ⟨rfl, rfl⟩
  | @user net last userId =>
      have ended := (handlePlayerDisconnect_work lib env (.refl { server with net := net })
        userId).unpaired (by decide)
      exact ⟨ended.manager, ended.rows⟩

def Answers (server : Server) (event : Event) (response : ChallengeResponse)
    (challenge : PendingChallenge) : Prop :=
  ∃ conn token client,
    event.action = .message conn token (.challengeResponse response.challengeId response.accepted) ∧
    server.net.connections[conn]? = some client ∧ client.serving = true ∧
    client.socketFd.isSome = true ∧ client.authenticated = true ∧
    server.manager.challenges[response.challengeId]? = some challenge ∧
    challenge.targetId = client.userId

def NewMatch (server later : Server) (matchId : MatchId) (row : Match) : Prop :=
  server.db.hasMatch matchId = false ∧ later.db.matchRows[matchId]? = some row

inductive ChallengeChange (lib : Externals) (server : Server) (event : Event) (later : Server) : Prop
  | unpaired (unpaired : Unpaired server later)
  | restarted (restart : event.action = .restart) (empty : later.manager = ⟨∅, 1⟩)
      (rows : later.db.hasMatch = server.db.hasMatch)
  | sent (challengerId : UserId) (request : ChallengeRequest)
      (passed : server.validateChallenge challengerId request.targetUserId = none)
      (manager : later.manager =
        (server.manager.insertChallenge event.env.now challengerId request).1)
      (rows : later.db.hasMatch = server.db.hasMatch)
      (people : server.peopleChange lib event = .none)
  | declined (narrows : server.manager.Narrows later.manager)
      (rows : later.db.hasMatch = server.db.hasMatch)
      (people : server.peopleChange lib event = .none)
  | accepted (response : ChallengeResponse) (challenge : PendingChallenge)
      (answers : server.Answers event response challenge) (accepting : response.accepted = true)
      (narrows : server.manager.Narrows later.manager)
      (pairs : Pairs server event.env challenge later)
      (people : server.peopleChange lib event = .none)

section Steps

variable (lib : Externals) {server : Server}

theorem respondToChallenge_manager (env : Env) (responderId : UserId) (response : ChallengeResponse)
    (server : Server) : (server.respondToChallenge env responderId response).manager =
      (server.manager.takeChallenge responderId response.challengeId).1 := by
  unfold respondToChallenge
  dsimp only
  split
  next refused =>
    exact (ChallengeManager.takeChallenge_kept (by simp [refused])).symm
  next missing =>
    have kept := @ChallengeManager.takeChallenge_kept server.manager responderId
      response.challengeId (by simp [missing])
    exact kept.symm
  · split
    · exact acceptChallenge_manager ..
    · rfl

theorem handleChallengeSend_change {event : Event} {client : ClientConnection}
    {request : ChallengeRequest} (people : server.peopleChange lib event = .none) :
    ChallengeChange lib server event (server.handleChallengeSend event.env client request) := by
  unfold handleChallengeSend
  split
  · have rows := (server.sendChallenge_idles event.env client.userId request).rows
    unfold sendChallenge at rows ⊢
    split
    · exact .unpaired ⟨rfl, rfl⟩
    next passed => exact .sent client.userId request passed rfl rfl people
  · exact .unpaired (.refl server)

theorem handleChallengeResponse_change (good : server.WellFormed) {event : Event} {conn : ConnId}
    {client : ClientConnection} {token : Text} (response : ChallengeResponse)
    (acted : event.action =
      .message conn token (.challengeResponse response.challengeId response.accepted))
    (known : server.net.connections[conn]? = some client)
    (live : client.serving = true ∧ client.socketFd.isSome = true)
    (people : server.peopleChange lib event = .none) :
    ChallengeChange lib server event (server.handleChallengeResponse event.env client response) := by
  unfold handleChallengeResponse
  split
  next authenticated =>
    have narrows := server.manager.takeChallenge_narrows client.userId response.challengeId
    rw [← respondToChallenge_manager event.env] at narrows
    by_cases accepts : ∃ challenge,
        server.Accepts ⟨event.env, .respondToChallenge client.userId response⟩ challenge
    · obtain ⟨challenge, accepts⟩ := accepts
      have pairs := respondToChallenge_pairs good rfl accepts
      obtain ⟨given, same, accepting, pending, _⟩ := accepts
      obtain ⟨target, rfl⟩ := Operation.respondToChallenge.inj same
      exact .accepted response challenge ⟨conn, token, client, acted, known, live.1, live.2,
        authenticated, pending, target.symm⟩ accepting narrows pairs people
    · have idles := respondToChallenge_idles event.env client.userId response rfl
        (not_exists.mp accepts)
      exact .declined narrows (Database.hasMatch_of_rows idles.rows) people
  · exact .unpaired (.refl server)

theorem routeMessage_challenges (good : server.WellFormed) {event : Event} {conn : ConnId}
    {client : ClientConnection} {token : Text} {request : Request}
    (acted : event.action = .message conn token request)
    (known : server.net.connections[conn]? = some client)
    (live : client.serving = true ∧ client.socketFd.isSome = true) :
    ChallengeChange lib server event
      (server.routeMessage lib event.env conn client token request) := by
  cases request with
  | challengeSend targetUserId timeLimit randomPlacement =>
      exact handleChallengeSend_change lib (by simp [peopleChange, acted, known, requestChange])
  | challengeResponse challengeId accepted =>
      have people : server.peopleChange lib event = .none := by
        simp [peopleChange, acted, known, requestChange]
      exact handleChallengeResponse_change lib good ⟨challengeId, accepted⟩ acted known live people
  | _ =>
      exact .unpaired (routeMessage_unpaired lib event.env conn client token server
        (by simp [Request.duty]))

theorem step_challenges (good : server.WellFormed) (event : Event) :
    ChallengeChange lib server event (server.step lib event) := by
  cases step_call lib server event with
  | idle _ stepped =>
      rw [stepped]
      exact .unpaired (.refl server)
  | accepted fd _ _ stepped =>
      rw [stepped]
      exact .unpaired ⟨rfl, rfl⟩
  | routed conn client token request acted known live stepped =>
      rw [stepped]
      exact routeMessage_challenges lib good acted known live
  | receiveFailed conn _ stepped =>
      rw [stepped]
      exact .unpaired ⟨rfl, rfl⟩
  | removed conn client _ _ _ stepped =>
      rw [stepped]
      have removed := (removeClient_removal lib event.env client.threadFd server).unpaired
      exact .unpaired ⟨removed.manager, removed.rows⟩
  | swept _ stepped =>
      rw [stepped]
      exact .unpaired ((checkTurnTimeouts_work lib event.env (.refl server)).unpaired (by decide))
  | restarted acted stepped =>
      rw [stepped]
      exact .restarted acted rfl rfl

end Steps

/-! ### Users of pending challenges -/

structure KnownUsers (server : Server) : Prop where
  online : ∀ userId, server.isPlayerOnline userId = true → server.db.HasUser userId
  pending : ∀ (challengeId : ChallengeId) (challenge : PendingChallenge),
    server.manager.challenges[challengeId]? = some challenge →
    server.db.HasUser challenge.challengerId ∧ server.db.HasUser challenge.targetId

section Users

variable (lib : Externals) {server : Server}

theorem isPlayerOnline_eq (server : Server) (userId : UserId) :
    server.isPlayerOnline userId = (server.people.entry userId).isSome := by
  simp [isPlayerOnline, people, getClientConnection]

theorem validateChallenge_online {challengerId targetId : UserId}
    (passed : server.validateChallenge challengerId targetId = none) :
    server.isPlayerOnline challengerId = true ∧ server.isPlayerOnline targetId = true := by
  unfold validateChallenge Battleship.validateChallenge at passed
  by_cases target : server.isPlayerOnline targetId = true
  · refine ⟨?_, target⟩
    by_contra offline
    have status : server.getPlayerStatus challengerId = .offline := by
      simp only [isPlayerOnline, Option.isSome_iff_ne_none, not_not] at offline
      simp [getPlayerStatus, offline]
    simp only [target, Bool.not_true, Bool.false_eq_true, if_false, status, ne_eq, reduceCtorEq,
      not_false_eq_true, if_true] at passed
    repeat' split at passed
    all_goals simp at passed
  · simp [target] at passed

theorem step_grows (good : server.WellFormed) (event : Event) :
    server.db.Grows (server.step lib event).db := by
  cases step_shape lib good event with
  | edited edits => exact (edits.db_sound.keeps good.db).2
  | accepted _ opened => exact opened ▸ Database.Grows.refl _
  | restarted fresh => exact fresh ▸ Database.Grows.refl _

theorem loginUser_hasUser {env : Env} {username password : Text} {userId : UserId}
    (login : server.loginUser lib env username password = some userId) :
    server.db.HasUser userId := by
  unfold loginUser at login
  cases found : server.db.getUserByUsername username with
  | none => simp [found] at login
  | some entry =>
      have listed : entry ∈ server.db.users.toList := List.mem_of_find?_eq_some found
      have known := Std.ExtTreeMap.mem_toList_iff_getElem?_eq_some.mp listed
      simp only [found, Option.ite_none_right_eq_some, Option.some.injEq] at login
      obtain ⟨_, rfl⟩ := login
      simp [Database.HasUser, known]

theorem validatedUser_hasUser (good : server.WellFormed) {env : Env} {token : Text}
    {userId : UserId} (validated : server.validatedUser env token = some userId) :
    server.db.HasUser userId := by
  simp only [validatedUser, Option.ite_none_left_eq_some, Option.map_eq_some_iff] at validated
  obtain ⟨valid, _, _, rfl⟩ := validated
  exact good.db.validateSession_user valid

theorem requestChange_cases (env : Env) (conn : ConnId) (client : ClientConnection)
    (request : Request) : server.requestChange lib env conn client request = .none ∨
      (∃ userId, server.requestChange lib env conn client request = .appear conn userId ∧
        ((∃ username password, server.loginUser lib env username password = some userId) ∨
          ∃ token, server.validatedUser env token = some userId)) ∨
      ∃ userId, server.requestChange lib env conn client request = .logout conn userId := by
  cases request with
  | login username password =>
      cases login : server.loginUser lib env username password with
      | none => simp [requestChange, login]
      | some userId =>
          exact .inr (.inl ⟨userId, by simp [requestChange, login], .inl ⟨_, _, login⟩⟩)
  | validateSession token =>
      cases validated : server.validatedUser env token with
      | none => simp [requestChange, validated]
      | some userId =>
          exact .inr (.inl ⟨userId, by simp [requestChange, validated], .inr ⟨_, validated⟩⟩)
  | logout token =>
      simp only [requestChange]
      split <;> simp
  | _ => exact .inl rfl

/-- The people change by a request, by an accepted or a removed connection, or with
the process. -/
theorem peopleChange_cases (event : Event) : server.peopleChange lib event = .none ∨
    (∃ conn client request, server.peopleChange lib event =
      server.requestChange lib event.env conn client request) ∨
    (∃ fd, server.peopleChange lib event = .accept fd) ∨
    (∃ fd, server.peopleChange lib event = .remove fd) ∨
    (event.action = .restart ∧ server.peopleChange lib event = .restart) := by
  unfold peopleChange
  cases event.action with
  | accept fd =>
      dsimp only
      split <;> simp
  | message conn token request =>
      dsimp only
      split
      · exact .inl rfl
      next client _ =>
        split
        · exact .inr (.inl ⟨conn, client, request, rfl⟩)
        · exact .inl rfl
  | removeClient conn =>
      dsimp only
      split
      · exact .inl rfl
      · split <;> simp
  | receiveFailed | checkTurnTimeouts => exact .inl rfl
  | restart => simp

theorem appear_hasUser (good : server.WellFormed) {event : Event} {conn : ConnId} {userId : UserId}
    (appears : server.peopleChange lib event = .appear conn userId) : server.db.HasUser userId := by
  rcases server.peopleChange_cases lib event with
    none | ⟨conn', client, request, same⟩ | ⟨fd, same⟩ | ⟨fd, same⟩ | ⟨_, same⟩
  · simp [none] at appears
  · rw [appears] at same
    rcases server.requestChange_cases lib event.env conn' client request with
      none | ⟨found, change, login | validated⟩ | ⟨found, change⟩
    · simp [none] at same
    · obtain ⟨username, password, login⟩ := login
      simp only [change, PeopleChange.appear.injEq] at same
      exact same.2 ▸ loginUser_hasUser lib login
    · obtain ⟨token, validated⟩ := validated
      simp only [change, PeopleChange.appear.injEq] at same
      exact same.2 ▸ validatedUser_hasUser good validated
    · simp [change] at same
  · simp [same] at appears
  · simp [same] at appears
  · simp [same] at appears

theorem restarts_of_peopleChange {event : Event} (restarts : server.peopleChange lib event = .restart) :
    event.action = .restart := by
  rcases server.peopleChange_cases lib event with
    none | ⟨conn, client, request, same⟩ | ⟨fd, same⟩ | ⟨fd, same⟩ | ⟨acted, _⟩
  · simp [none] at restarts
  · rw [restarts] at same
    rcases server.requestChange_cases lib event.env conn client request with
      none | ⟨found, change, _⟩ | ⟨found, change⟩
    · simp [none] at same
    · simp [change] at same
    · simp [change] at same
  · simp [same] at restarts
  · simp [same] at restarts
  · exact acted

theorem step_knownUsers (good : server.WellFormed) (known : server.KnownUsers) (event : Event) :
    (server.step lib event).KnownUsers := by
  have grows := step_grows lib good event
  constructor
  · intro userId online
    rw [isPlayerOnline_eq, step_people] at online
    have before : (server.people.entry userId).isSome = true → server.db.HasUser userId :=
      fun entry => known.online userId (by rw [isPlayerOnline_eq, entry])
    apply grows.hasUser
    cases change : server.peopleChange lib event with
    | none | accept fd => exact before (by simpa [change, People.change] using online)
    | appear conn appeared =>
        by_cases same : appeared = userId
        · exact same ▸ appear_hasUser lib good change
        · refine before ?_
          simpa [change, People.change, Function.update_apply, Ne.symm same] using online
    | logout conn removed =>
        refine before ?_
        simp only [change, People.change, Function.update_apply] at online
        split at online
        · simp at online
        · exact online
    | remove fd =>
        refine before ?_
        simp only [change, People.change] at online
        split at online
        · simp at online
        · exact online
    | restart => simp [change, People.change, People.init] at online
  · intro challengeId challenge found
    have kept : server.manager.challenges[challengeId]? = some challenge →
        (server.step lib event).db.HasUser challenge.challengerId ∧
          (server.step lib event).db.HasUser challenge.targetId := by
      intro pending
      obtain ⟨challenger, target⟩ := known.pending challengeId challenge pending
      exact ⟨grows.hasUser challenger, grows.hasUser target⟩
    cases step_challenges lib good event with
    | unpaired unpaired => exact kept (unpaired.manager ▸ found)
    | restarted _ empty _ => simp [empty] at found
    | sent challengerId request passed manager _ _ =>
        rw [manager, ChallengeManager.insertChallenge_lookup] at found
        split at found
        · obtain rfl := Option.some.inj found
          obtain ⟨challenger, target⟩ := validateChallenge_online passed
          exact ⟨grows.hasUser (known.online _ challenger), grows.hasUser (known.online _ target)⟩
        · exact kept found
    | declined narrows _ _ => exact kept (narrows challengeId challenge found)
    | accepted _ _ _ _ narrows _ _ => exact kept (narrows challengeId challenge found)

theorem after_knownUsers (events : List Event) : (after lib events).KnownUsers := by
  have both : (after lib events).WellFormed ∧ (after lib events).KnownUsers := by
    refine Machine.invariant (step lib) (motive := fun server =>
      server.WellFormed ∧ server.KnownUsers) ⟨wellFormed_init, ?_⟩ ?_ events
    · constructor <;> simp [init, isPlayerOnline]
    · exact fun server event both => ⟨step_wellFormed lib server event both.1,
        step_knownUsers lib both.1 both.2 event⟩
  exact both.2

end Users

end Server

end Battleship
