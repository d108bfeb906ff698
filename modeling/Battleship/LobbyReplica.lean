import Battleship.People
import Battleship.StatusThreads

/-! The player list of a client in the lobby. A list response replaces the rows at once,
while the status updates wait in the queue of the main loop, so that a list may overtake
updates that were sent before it. -/

namespace Battleship

open Decimal (Text)
open Machine

def getStatusText : PlayerStatus → String
  | .available => "Available"
  | .inGame => "In Game"
  | .busy => "Busy"
  | .online => "Online"
  | .offline => "Offline"

structure LobbyRow where
  userId : UserId
  displayName : Text
  eloRating : Int
  status : PlayerStatus
  statusText : String

structure PlayerStatusUpdate where
  userId : UserId
  status : PlayerStatus
  displayName : Text
  eloRating : Int

def refreshed (players : List PlayerInfo) : List LobbyRow :=
  players.map fun player =>
    ⟨player.userId, player.displayName, player.eloRating, player.status, getStatusText player.status⟩

def updatePlayerStatus (update : PlayerStatusUpdate) : List LobbyRow → List LobbyRow
  | [] =>
      if update.status = .offline then []
      else [⟨update.userId, update.displayName, update.eloRating, update.status,
        getStatusText update.status⟩]
  | row :: rest =>
      if row.userId = update.userId then
        if update.status = .offline then rest
        else { row with
          status := update.status
          statusText := getStatusText update.status
          eloRating := update.eloRating } :: rest
      else row :: updatePlayerStatus update rest

/-- The players of the server, the messages under way to the client, the updates in the
queue of its main loop, and the rows of its list. -/
structure Lobby where
  players : Table UserId PlayerData
  underWay : List Payload
  queue : List PlayerStatusUpdate
  rows : List LobbyRow
  listed : Bool

inductive LobbyEvent
  | operate (operation : PlayerOperation)
  | playerListRequest
  | receive (accepted : Bool)
  | idle

def onlinePlayers (players : Table UserId PlayerData) : List PlayerInfo :=
  players.toList.map fun entry => Server.playerInfo entry.1 entry.2

theorem handlePlayerListRequest_eq (env : Env) (conn : ConnId) (server : Server) :
    let payload := .playerListResponse ((onlinePlayers server.players).take 100)
    server.handlePlayerListRequest env conn =
      server.sendOn env (stampedHeader env .playerList payload) payload conn := rfl

namespace Lobby

def opened (players : Table UserId PlayerData) (rows : List LobbyRow) : Lobby :=
  ⟨players, [], [], rows, false⟩

def receive (accepted : Bool) (lobby : Lobby) : Lobby :=
  match lobby.underWay with
  | [] => lobby
  | .playerStatusUpdate userId status displayName eloRating :: rest =>
      { lobby with
        underWay := rest
        queue := lobby.queue ++ [⟨userId, status, displayName, eloRating⟩] }
  | .playerListResponse players :: rest =>
      if accepted then { lobby with underWay := rest, rows := refreshed players, listed := true }
      else { lobby with underWay := rest }
  | _ :: rest => { lobby with underWay := rest }

def step (lobby : Lobby) : LobbyEvent → Lobby
  | .operate operation =>
      match operation.change lobby.players with
      | none => lobby
      | some (players, status) =>
          { lobby with
            players := players
            underWay := lobby.underWay ++ [Server.statusUpdate players operation.userId status] }
  | .playerListRequest =>
      { lobby with
        underWay := lobby.underWay ++ [.playerListResponse ((onlinePlayers lobby.players).take 100)] }
  | .receive accepted => lobby.receive accepted
  | .idle =>
      match lobby.queue with
      | [] => lobby
      | update :: rest => { lobby with queue := rest, rows := updatePlayerStatus update lobby.rows }

def Permits (lobby : Lobby) : LobbyEvent → Prop
  | .operate (.updatePlayerStatus _ status) => status ≠ .offline
  | .playerListRequest => lobby.players.size ≤ 100
  | _ => True

end Lobby

section Rows

def shown (rows : List LobbyRow) (userId : UserId) : List (PlayerStatus × Int) :=
  (rows.filter fun row => row.userId = userId).map fun row => (row.status, row.eloRating)

def online (players : Table UserId PlayerData) (userId : UserId) : Option (PlayerStatus × Int) :=
  players[userId]?.map fun data => (data.status, data.eloRating)

def PlayerStatusUpdate.shows (update : PlayerStatusUpdate) : Option (PlayerStatus × Int) :=
  if update.status = .offline then none else some (update.status, update.eloRating)

variable (update : PlayerStatusUpdate) {rows : List LobbyRow}

theorem shown_cons (row : LobbyRow) (rows : List LobbyRow) (userId : UserId) :
    shown (row :: rows) userId =
      if row.userId = userId then (row.status, row.eloRating) :: shown rows userId
      else shown rows userId := by
  by_cases here : row.userId = userId <;> simp [shown, here]

theorem shown_eq_nil {userId : UserId} (absent : userId ∉ rows.map LobbyRow.userId) :
    shown rows userId = [] := by
  rw [shown, List.map_eq_nil_iff, List.filter_eq_nil_iff]
  intro row member same
  exact absent (List.mem_map.mpr ⟨row, member, of_decide_eq_true same⟩)

theorem updatePlayerStatus_userIds (rows : List LobbyRow) :
    (updatePlayerStatus update rows).map LobbyRow.userId =
      if update.status = .offline then (rows.map LobbyRow.userId).erase update.userId
      else if update.userId ∈ rows.map LobbyRow.userId then rows.map LobbyRow.userId
      else rows.map LobbyRow.userId ++ [update.userId] := by
  induction rows with
  | nil => by_cases gone : update.status = .offline <;> simp [updatePlayerStatus, gone]
  | cons row rest ih =>
      rw [updatePlayerStatus]
      by_cases here : row.userId = update.userId
      · by_cases gone : update.status = .offline <;> simp [here, gone]
      · rw [if_neg here, List.map_cons, ih]
        by_cases gone : update.status = .offline
        · simp [here, gone]
        · by_cases later : update.userId ∈ rest.map LobbyRow.userId
          · simp only [gone, later, if_true, if_false, List.map_cons, List.mem_cons, or_true]
          · simp only [gone, later, if_false, List.map_cons, List.mem_cons, or_false,
              Ne.symm here, List.cons_append]

theorem updatePlayerStatus_nodup (distinct : (rows.map LobbyRow.userId).Nodup) :
    ((updatePlayerStatus update rows).map LobbyRow.userId).Nodup := by
  rw [updatePlayerStatus_userIds]
  split
  · exact distinct.erase _
  split
  · exact distinct
  next absent => exact (List.concat_eq_append ▸ distinct.concat absent)

theorem shown_updatePlayerStatus (distinct : (rows.map LobbyRow.userId).Nodup) (userId : UserId) :
    shown (updatePlayerStatus update rows) userId =
      if userId = update.userId then update.shows.toList else shown rows userId := by
  induction rows with
  | nil =>
      by_cases gone : update.status = .offline
      · simp [updatePlayerStatus, PlayerStatusUpdate.shows, gone, shown]
      · simp only [updatePlayerStatus, PlayerStatusUpdate.shows, gone, if_false, shown_cons]
        by_cases same : userId = update.userId
        · simp [same, shown]
        · simp [same, Ne.symm same, shown]
  | cons row rest ih =>
      rw [List.map_cons, List.nodup_cons] at distinct
      rw [updatePlayerStatus]
      by_cases here : row.userId = update.userId
      · have alone : shown rest update.userId = [] := shown_eq_nil (here ▸ distinct.1)
        rw [if_pos here]
        by_cases same : userId = update.userId
        · subst same
          by_cases gone : update.status = .offline
          · simp [PlayerStatusUpdate.shows, gone, alone]
          · simp [PlayerStatusUpdate.shows, gone, shown_cons, here, alone]
        · by_cases gone : update.status = .offline
          · simp [gone, same, shown_cons, here, Ne.symm same]
          · simp [gone, same, shown_cons, here, Ne.symm same]
      · rw [if_neg here, shown_cons, shown_cons, ih distinct.2]
        by_cases same : userId = update.userId
        · subst same
          simp [here]
        · simp [same]

theorem refreshed_nodup (players : Table UserId PlayerData) :
    ((refreshed (onlinePlayers players)).map LobbyRow.userId).Nodup := by
  have keys := Table.keysWhere_nodup players fun _ => true
  simpa [refreshed, onlinePlayers, Table.keysWhere, Server.playerInfo, Function.comp_def] using keys

theorem shown_refreshed (players : Table UserId PlayerData) (userId : UserId) :
    shown (refreshed (onlinePlayers players)) userId = (online players userId).toList := by
  simp only [shown, refreshed, onlinePlayers, List.map_map, List.filter_map]
  change (players.toList.filter fun entry => entry.1 = userId).map _ = _
  rw [Table.filter_toList_key, online]
  cases players[userId]? <;> rfl

end Rows

def foresee (seen : UserId → Option (PlayerStatus × Int)) (update : PlayerStatusUpdate) :
    UserId → Option (PlayerStatus × Int) :=
  Function.update seen update.userId update.shows

/-- The messages tell of the way from `seen` to `last`, and each list among them gives
what was to be seen when it was sent. -/
inductive Tells : (UserId → Option (PlayerStatus × Int)) → List Payload →
    (UserId → Option (PlayerStatus × Int)) → Prop
  | done (seen : UserId → Option (PlayerStatus × Int)) : Tells seen [] seen
  | update {seen last : UserId → Option (PlayerStatus × Int)} {rest : List Payload}
      {userId : UserId} {status : PlayerStatus} {displayName : Text} {eloRating : Int}
      (later : Tells (foresee seen ⟨userId, status, displayName, eloRating⟩) rest last) :
      Tells seen (.playerStatusUpdate userId status displayName eloRating :: rest) last
  | list {seen last : UserId → Option (PlayerStatus × Int)} {rest : List Payload}
      {players : List PlayerInfo} (distinct : ((refreshed players).map LobbyRow.userId).Nodup)
      (same : ∀ userId, shown (refreshed players) userId = (seen userId).toList)
      (later : Tells seen rest last) : Tells seen (.playerListResponse players :: rest) last

theorem Tells.append {seen middle last : UserId → Option (PlayerStatus × Int)}
    {first second : List Payload} (early : Tells seen first middle)
    (late : Tells middle second last) : Tells seen (first ++ second) last := by
  induction early with
  | done => exact late
  | update _ ih => exact .update (ih late)
  | list distinct same _ ih => exact .list distinct same (ih late)

theorem foresee_online {players later : Table UserId PlayerData} {update : PlayerStatusUpdate}
    (shows : update.shows = online later update.userId)
    (others : ∀ {other}, other ≠ update.userId → later[other]? = players[other]?) :
    foresee (online players) update = online later := by
  funext userId
  rw [foresee, Function.update_apply]
  split
  next same => rw [same, shows]
  next different => rw [online, online, others different]

/-- An operation is told by the update that it broadcasts. -/
theorem tells_statusUpdate {players later : Table UserId PlayerData} {status : PlayerStatus}
    {operation : PlayerOperation} (changed : operation.change players = some (later, status))
    (present : ∀ userId status, operation = .updatePlayerStatus userId status → status ≠ .offline) :
    Tells (online players) [Server.statusUpdate later operation.userId status] (online later) := by
  have others {other : UserId} (different : other ≠ operation.userId) :
      later[other]? = players[other]? := PlayerOperation.change_others changed different
  have current := PlayerOperation.change_status changed
  unfold Server.statusUpdate
  cases known : later[operation.userId]? with
  | none =>
      have foreseen : foresee (online players) ⟨operation.userId, .offline, [], 1000⟩ =
          online later := foresee_online (by simp [PlayerStatusUpdate.shows, online, known]) others
      exact .update (foreseen ▸ .done _)
  | some data =>
      have stays : status ≠ .offline := by
        rcases PlayerOperation.change_cases changed with
          ⟨_, _, rfl, _⟩ | ⟨_, rfl⟩ | ⟨asked, _, _⟩
        · simp
        · simp at known
        · exact present _ _ asked
      have same : data.status = status := by simpa [statusIn, known] using current
      have foreseen : foresee (online players) ⟨operation.userId, status,
          safeStrCopy 64 data.displayName, data.eloRating⟩ = online later :=
        foresee_online (by simp [PlayerStatusUpdate.shows, stays, online, known, same]) others
      exact .update (foreseen ▸ .done _)

namespace Lobby

/-- The way of the invariant: `seen` is what the client sees when the main loop is about to
take the first update of its queue, except of users whom an update in it is about. -/
structure Follows (lobby : Lobby) (seen : UserId → Option (PlayerStatus × Int)) : Prop where
  tells : Tells (lobby.queue.foldl foresee seen) lobby.underWay (online lobby.players)
  distinct : lobby.listed = true → (lobby.rows.map LobbyRow.userId).Nodup
  same : lobby.listed = true → ∀ userId, (∃ update ∈ lobby.queue, update.userId = userId) ∨
    shown lobby.rows userId = (seen userId).toList

theorem opened_follows (players : Table UserId PlayerData) (rows : List LobbyRow) :
    (opened players rows).Follows (online players) :=
  ⟨.done _, by simp [opened], by simp [opened]⟩

theorem foldl_foresee_other {queue : List PlayerStatusUpdate} {userId : UserId}
    (other : ∀ update ∈ queue, update.userId ≠ userId)
    (seen : UserId → Option (PlayerStatus × Int)) :
    queue.foldl foresee seen userId = seen userId := by
  induction queue generalizing seen with
  | nil => rfl
  | cons update rest ih =>
      rw [List.foldl_cons, ih fun later member => other later (List.mem_cons_of_mem _ member)]
      exact Function.update_of_ne (Ne.symm (other update (by simp))) _ _

section Follows

variable {lobby : Lobby} {seen : UserId → Option (PlayerStatus × Int)}
  (follows : lobby.Follows seen)

include follows

theorem Follows.receive (accepted : Bool) : (lobby.receive accepted).Follows seen := by
  obtain ⟨tells, distinct, same⟩ := follows
  unfold Lobby.receive
  split
  · exact ⟨tells, distinct, same⟩
  next userId status displayName eloRating rest underWay =>
    rw [underWay] at tells
    cases tells with
    | update later =>
        refine ⟨by simpa using later, distinct, fun listed other => ?_⟩
        refine (same listed other).imp_left ?_
        rintro ⟨update, member, about⟩
        exact ⟨update, List.mem_append_left _ member, about⟩
  next players rest underWay =>
    rw [underWay] at tells
    cases tells with
    | list apart agrees later =>
        split
        · refine ⟨later, fun _ => apart, fun _ userId => ?_⟩
          -- what waits in the queue is about these users or is not seen in the list
          by_cases waiting : ∃ update ∈ lobby.queue, update.userId = userId
          · exact Or.inl waiting
          · refine Or.inr ((agrees userId).trans ?_)
            rw [foldl_foresee_other]
            exact fun update member about => waiting ⟨update, member, about⟩
        · exact ⟨later, distinct, same⟩
  next message rest notUpdate notList underWay =>
    rw [underWay] at tells
    cases tells with
    | update => exact (notUpdate _ _ _ _ rfl).elim
    | list => exact (notList _ rfl).elim

/-- The main loop takes the first update of its queue. -/
theorem Follows.taken {update : PlayerStatusUpdate} {rest : List PlayerStatusUpdate}
    (queue : lobby.queue = update :: rest) :
    { lobby with queue := rest, rows := updatePlayerStatus update lobby.rows }.Follows
      (foresee seen update) := by
  obtain ⟨tells, distinct, same⟩ := follows
  rw [queue] at tells same
  refine ⟨tells, fun listed => updatePlayerStatus_nodup update (distinct listed),
    fun listed userId => ?_⟩
  dsimp only
  rw [shown_updatePlayerStatus update (distinct listed), foresee, Function.update_apply]
  by_cases here : userId = update.userId
  · simp [here]
  · rw [if_neg here, if_neg here]
    refine (same listed userId).imp_left ?_
    rintro ⟨later, member, about⟩
    refine ⟨later, (List.mem_cons.mp member).resolve_left ?_, about⟩
    rintro rfl
    exact here about.symm

theorem step_follows {event : LobbyEvent} (permitted : lobby.Permits event) :
    ∃ later, (lobby.step event).Follows later := by
  cases event with
  | operate operation =>
      simp only [step]
      split
      · exact ⟨seen, follows⟩
      next players status changed =>
        refine ⟨seen, follows.tells.append (tells_statusUpdate changed ?_), follows.distinct,
          follows.same⟩
        rintro userId status rfl
        exact permitted
  | playerListRequest =>
      have few : lobby.players.size ≤ 100 := permitted
      have whole : (onlinePlayers lobby.players).take 100 = onlinePlayers lobby.players := by
        apply List.take_of_length_le
        simpa [onlinePlayers, Std.ExtTreeMap.length_toList] using few
      simp only [step, whole]
      refine ⟨seen, follows.tells.append (.list ?_ ?_ (.done _)), follows.distinct, follows.same⟩
      · exact refreshed_nodup lobby.players
      · exact shown_refreshed lobby.players
  | receive accepted => exact ⟨seen, follows.receive accepted⟩
  | idle =>
      simp only [step]
      split
      · exact ⟨seen, follows⟩
      next update rest queue => exact ⟨foresee seen update, follows.taken queue⟩

end Follows

def Mirrors (rows : List LobbyRow) (players : Table UserId PlayerData) : Prop :=
  ∀ userId, shown rows userId = (online players userId).toList

/-- Once a list has been accepted, and all messages have been received and applied, the
client shows the players of the server. -/
theorem mirrors_of_drained (players : Table UserId PlayerData) (rows : List LobbyRow)
    {events : List LobbyEvent} (permitted : Respects step Permits (opened players rows) events) :
    let lobby := exec step (opened players rows) events
    lobby.listed = true → lobby.underWay = [] → lobby.queue = [] →
      Mirrors lobby.rows lobby.players := by
  intro lobby listed received drained userId
  obtain ⟨seen, tells, -, same⟩ : ∃ seen, lobby.Follows seen :=
    invariant_of_respects step (motive := fun lobby => ∃ seen, lobby.Follows seen)
      ⟨_, opened_follows players rows⟩
      (fun _ _ allowed current => current.elim fun _ follows => step_follows follows allowed)
      events permitted
  rw [received, drained] at tells
  cases tells with
  | done =>
      refine ((same listed userId).resolve_left ?_)
      simp [drained]

def overtaking : List LobbyEvent := [
  .operate (.addPlayer 0 1 [] [] 1000), .operate (.updatePlayerStatus 1 .inGame),
  .playerListRequest, .receive true, .receive true, .receive true, .idle, .idle]

theorem overtaking_mirrors :
    Mirrors (exec step (opened ∅ []) overtaking).rows (exec step (opened ∅ []) overtaking).players := by
  have permitted : Respects step Permits (opened ∅ []) overtaking := by
    simp only [overtaking, respects_cons, respects_nil, Permits]
    decide +kernel
  exact mirrors_of_drained ∅ [] permitted (by decide +kernel) (by decide +kernel) (by rfl)

end Lobby

namespace Server

def Operates (server later : Server) : Prop :=
  ∃ operations : List PlayerOperation,
    (∀ operation ∈ operations, ∀ lobby : Lobby, lobby.Permits (.operate operation)) ∧
    ∀ lobby : Lobby, lobby.players = server.players →
      (exec Lobby.step lobby (operations.map .operate)).players = later.players

namespace Operates

variable {server later : Server}

theorem of_players (players : later.players = server.players) : Operates server later :=
  ⟨[], by simp, fun _ same => same.trans players.symm⟩

theorem trans {first second third : Server} (early : Operates first second)
    (late : Operates second third) : Operates first third := by
  obtain ⟨before, permitted, changed⟩ := early
  obtain ⟨after, permitted', changed'⟩ := late
  refine ⟨before ++ after, List.forall_mem_append.mpr ⟨permitted, permitted'⟩, ?_⟩
  intro lobby same
  rw [List.map_append, exec_append]
  exact changed' _ (changed lobby same)

/-- One operation; where there is nobody to change it changes nothing. -/
theorem of_operation (operation : PlayerOperation)
    (permitted : ∀ lobby : Lobby, lobby.Permits (.operate operation))
    (changed : ((operation.change server.players).map Prod.fst).getD server.players =
      later.players) : Operates server later := by
  refine ⟨[operation], by simpa using permitted, fun lobby same => ?_⟩
  rw [← changed, ← same]
  simp only [List.map_cons, List.map_nil, exec_cons, exec_nil, Lobby.step]
  cases operation.change lobby.players <;> rfl

theorem erase (server : Server) (userId : UserId) :
    Operates server { server with players := server.players.erase userId } := by
  refine of_operation (.removePlayer userId) (fun _ => trivial) ?_
  simp only [PlayerOperation.change]
  split
  · rfl
  next absent =>
    exact (Table.erase_absent (by simpa using absent)).symm

end Operates

variable {env : Env} {server later : Server}

/-- No handler gives the status of a player who is offline. -/
theorem Routine.operates (routine : Routine env server later) : Operates server later := by
  induction routine with
  | refl => exact .of_players rfl
  | @tail middle _ _ act operates =>
      refine operates.trans ?_
      cases act with
      | store | sends => exact .of_players rfl
      | @status userId status present =>
          refine .of_operation (.updatePlayerStatus userId status) (fun _ => present) ?_
          simp only [PlayerOperation.change]
          split
          · rfl
          next absent => exact (Table.modify_absent (by simpa using absent) _).symm

theorem Answered.operates {conn : ConnId} {change : PeopleChange}
    (answered : Answered env conn server change later) : Operates server later := by
  cases answered with
  | routine kept => exact kept.operates
  | refusal payload userId => exact .of_players rfl
  | @appears userId _ presents =>
      obtain ⟨db, token, data, -, -, available, -, routine⟩ := presents
      refine .trans (.of_operation (.addPlayer data.client userId data.username data.displayName
        data.eloRating) (fun _ => trivial) ?_) routine.operates
      simp only [PlayerOperation.change, ← available]
      rfl
  | @leaves userId _ kept => exact (Operates.erase server userId).trans kept.operates

theorem Removal.operates {lib : Externals} {fd : Fd} {user : Option UserId}
    (removal : Removal lib env fd server user later) : Operates server later := by
  cases removal with
  | nobody => exact .of_players rfl
  | @user net last userId =>
      have ended := (handlePlayerDisconnect_work lib env (.refl { server with net := net })
        userId).routine.operates
      have listed : Operates server { server with net := net } := .of_players rfl
      have erased := (listed.trans ended).trans (.erase _ userId)
      exact erased.trans (.of_players rfl)

/-- The server itself keeps to what a lobby permits of the operations. -/
theorem step_operates (lib : Externals) {event : Event} (running : event.action ≠ .restart) :
    Operates server (server.step lib event) := by
  cases step_call lib server event with
  | idle _ stepped => exact .of_players (by rw [stepped])
  | accepted fd _ _ stepped => exact .of_players (by rw [stepped]; rfl)
  | routed conn client token request _ _ _ stepped =>
      rw [stepped]
      exact (routeMessage_answered lib event.env conn token request).operates
  | receiveFailed conn _ stepped => exact .of_players (by rw [stepped])
  | removed conn client _ _ _ stepped =>
      rw [stepped]
      have removed := (removeClient_removal lib event.env client.threadFd server).operates
      exact removed.trans (.of_players rfl)
  | swept _ stepped =>
      rw [stepped]
      exact (checkTurnTimeouts_work lib event.env (.refl server)).routine.operates
  | restarted acted => exact absurd acted running

end Server

end Battleship
