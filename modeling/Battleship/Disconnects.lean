import Battleship.ServerRuns

/-! The removal of a client. It goes over the active matches, so a match of the
user that waits for placements, or that was lost in a restart, is not concluded. -/

namespace Battleship

open Decimal (Text)

namespace Database

def WonBy (db : Database) (matchId : MatchId) (winnerId : UserId) : Prop :=
  ∃ row : Match, db.matchRows[matchId]? = some row ∧ row.status = .completed ∧
    row.winnerId = winnerId

variable {db : Database} (now : Nat) {matchId : MatchId} {winnerId : UserId}

theorem endMatch_wonBy {row : Match} (found : db.matchRows[matchId]? = some row)
    (known : db.HasUser winnerId) : (db.endMatch now matchId winnerId).WonBy matchId winnerId := by
  have present : (db.users[winnerId]?).isNone = false := by simpa [HasUser] using known
  unfold endMatch
  simp only [present, Bool.false_eq_true, if_false]
  exact ⟨_, (Table.lookup_modify ..).trans (by rw [if_pos rfl, found]; rfl), rfl, rfl⟩

theorem WonBy.endMatch (won : db.WonBy matchId winnerId) {other : MatchId}
    (different : other ≠ matchId) (userId : UserId) :
    (db.endMatch now other userId).WonBy matchId winnerId := by
  unfold Database.endMatch
  split
  · exact won
  · obtain ⟨row, found, rest⟩ := won
    exact ⟨row, (Table.lookup_modify ..).trans ((if_neg different).trans found), rest⟩

end Database

namespace Server

def Released (server : Server) (userId : UserId) : Prop :=
  ∀ data, server.players[userId]? = some data → data.status = .available

structure Settled (matchId : MatchId) (winnerId : UserId) (server : Server) : Prop where
  won : server.db.WonBy matchId winnerId
  released : server.Released winnerId

structure WonByDisconnect (matchId : MatchId) (winnerId : UserId) (server : Server) : Prop extends
    Settled matchId winnerId server where
  inactive : server.getMatch matchId = none
  endings : server.endings matchId = [(winnerId, .disconnect)]

theorem Released.status {server : Server} {userId : UserId} (released : server.Released userId)
    (online : server.isPlayerOnline userId = true) : server.getPlayerStatus userId = .available := by
  obtain ⟨data, found⟩ := Option.isSome_iff_exists.mp online
  simp only [getPlayerStatus, found]
  exact released data found

theorem updatePlayerStatus_players (env : Env) (userId : UserId) (status : PlayerStatus)
    (server : Server) : (server.updatePlayerStatus env userId status).players =
      server.players.modify userId fun data => { data with status := status } := rfl

theorem updatePlayerStatus_released (env : Env) (userId : UserId) (server : Server) :
    (server.updatePlayerStatus env userId .available).Released userId := by
  intro data found
  rw [updatePlayerStatus_players, Table.lookup_modify, if_pos rfl] at found
  obtain ⟨old, _, rfl⟩ := Option.map_eq_some_iff.mp found
  rfl

theorem Released.updatePlayerStatus {server : Server} {userId : UserId}
    (released : server.Released userId) (env : Env) (other : UserId) :
    (server.updatePlayerStatus env other .available).Released userId := by
  intro data found
  rw [updatePlayerStatus_players, Table.lookup_modify] at found
  split at found
  · obtain ⟨old, _, rfl⟩ := Option.map_eq_some_iff.mp found
    rfl
  · exact released data found

section Abandon

variable (lib : Externals) (env : Env) (userId : UserId) {server : Server} {matchId : MatchId}
  {winnerId : UserId}

theorem abandonMatch_released (another : MatchId) (released : server.Released winnerId) :
    (server.abandonMatch lib env userId another).Released winnerId := by
  cases was : server.getMatch another with
  | none => rwa [abandonMatch_of_none lib env userId server was]
  | some game =>
      obtain ⟨duration, shape⟩ := abandonMatch_of_some lib env userId server was
      rw [shape]
      exact Released.updatePlayerStatus (fun data found => released data found) env _

theorem abandonMatch_wonBy {another : MatchId} (different : another ≠ matchId)
    (won : server.db.WonBy matchId winnerId) :
    (server.abandonMatch lib env userId another).db.WonBy matchId winnerId := by
  cases was : server.getMatch another with
  | none => rwa [abandonMatch_of_none lib env userId server was]
  | some game =>
      obtain ⟨duration, shape⟩ := abandonMatch_of_some lib env userId server was
      rw [shape]
      exact won.endMatch env.now different _

theorem abandonMatch_settles (good : server.WellFormed) {game : MatchState}
    (was : server.getMatch matchId = some game) :
    Settled matchId (game.opponent userId) (server.abandonMatch lib env userId matchId) := by
  obtain ⟨row, found, player1, player2⟩ := (good.games.active matchId game was).row
  obtain ⟨_, known1, known2⟩ := good.db.players matchId row found
  have known : server.db.HasUser (game.opponent userId) := by
    rcases game.opponent_seat userId with seat | seat
    · rwa [seat, player1]
    · rwa [seat, player2]
  obtain ⟨duration, shape⟩ := abandonMatch_of_some lib env userId server was
  rw [shape]
  exact ⟨Database.endMatch_wonBy env.now found known, updatePlayerStatus_released env _ _⟩

theorem foldl_abandonMatch_settles {game : MatchState} : ∀ (matchIds : List MatchId)
    (server : Server), server.WellFormed → server.getMatch matchId = some game →
    matchId ∈ matchIds → matchIds.Nodup →
    Settled matchId (game.opponent userId) (matchIds.foldl
      (fun server matchId => server.abandonMatch lib env userId matchId) server) := by
  intro matchIds
  induction matchIds with
  | nil => simp
  | cons head rest ih =>
      intro server good was member distinct
      obtain ⟨notInRest, restDistinct⟩ := List.nodup_cons.mp distinct
      rw [List.foldl_cons]
      rcases List.mem_cons.mp member with rfl | inRest
      · refine List.foldlRecOn (motive := Settled matchId (game.opponent userId)) rest _
          (abandonMatch_settles lib env userId good was) ?_
        rintro later ⟨won, released⟩ another inRest
        have different : another ≠ matchId := fun same => notInRest (same ▸ inRest)
        exact ⟨abandonMatch_wonBy lib env userId different won,
          abandonMatch_released lib env userId another released⟩
      · have different : head ≠ matchId := fun same => notInRest (same ▸ inRest)
        have kept := abandonMatch_untouched lib env userId server different
        exact ih _ (abandonMatch_wellFormed lib env userId server head good)
          (kept.game.trans was) inRest restDistinct

theorem handlePlayerDisconnect_settles (good : server.WellFormed) {game : MatchState}
    (was : server.getMatch matchId = some game)
    (seated : game.player1Id = userId ∨ game.player2Id = userId) :
    Settled matchId (game.opponent userId) (server.handlePlayerDisconnect lib env userId) := by
  refine foldl_abandonMatch_settles lib env userId _ server good was ?_ (Table.keysWhere_nodup ..)
  exact Table.mem_keysWhere.mpr ⟨game, was, by simpa using seated⟩

end Abandon

section RemoveClient

variable (lib : Externals) (env : Env)

def DisconnectConcludes (server : Server) (fd : Fd) (userId : UserId) : Prop :=
  ∀ (matchId : MatchId) (row : Match), server.db.matchRows[matchId]? = some row →
    row.Seats userId → server.endings matchId = [] →
    WonByDisconnect matchId (row.other userId) (server.removeClient lib env fd)

/-- Every match of the user that has not ended is active: none waits for
placements, and none was lost in a restart. -/
def UnendedMatchesActive (server : Server) (userId : UserId) : Prop :=
  ∀ (matchId : MatchId) (row : Match), server.db.matchRows[matchId]? = some row →
    row.Seats userId → server.endings matchId = [] → (server.getMatch matchId).isSome = true

variable {lib} {server : Server} {fd : Fd} {conn : ConnId} {client : ClientConnection}

theorem removeClient_wonByDisconnect (good : server.WellFormed)
    (found : server.net.clients[fd]? = some conn)
    (known : server.net.connections[conn]? = some client)
    (authenticated : client.authenticated = true) {matchId : MatchId} {row : Match}
    (stored : server.db.matchRows[matchId]? = some row) (seated : row.Seats client.userId)
    (running : server.endings matchId = []) {game : MatchState}
    (active : server.getMatch matchId = some game) :
    WonByDisconnect matchId (row.other client.userId) (server.removeClient lib env fd) := by
  obtain ⟨same, sameStored, player1, player2⟩ := (good.games.active matchId game active).row
  obtain rfl := Option.some.inj (stored.symm.trans sameStored)
  obtain ⟨distinct, _⟩ := good.db.players matchId row stored
  have opponent : game.opponent client.userId = row.other client.userId := by
    rw [MatchState.opponent, Match.other, player1, player2]
  have inSeat : game.player1Id = client.userId ∨ game.player2Id = client.userId := by
    rwa [player1, player2]
  obtain ⟨erased, rfl, shape⟩ := removeClient_eq lib env found known authenticated
  have erasedGood : ({ server with
      net := { server.net with clients := server.net.clients.erase fd } } : Server).WellFormed :=
    ⟨good.db, good.games, good.challenges⟩
  have settled := handlePlayerDisconnect_settles lib env client.userId erasedGood active inSeat
  rcases handlePlayerDisconnect_change lib env client.userId { server with
      net := { server.net with clients := server.net.clients.erase fd } } matchId with
    ⟨_, absent⟩ | ⟨game', _, done⟩
  · exact absurd inSeat (absent game active)
  obtain rfl := Option.some.inj (done.was.symm.trans active)
  rw [opponent] at settled done
  rw [shape]
  refine ⟨⟨settled.won, ?_⟩, done.gone, ?_⟩
  · intro data online
    exact settled.released data
      ((Table.lookup_erase_ne _ (Match.other_ne distinct _).symm).symm.trans online)
  · exact done.endings.trans (congrArg (· ++ _) running)

theorem removeClient_concludes_iff (reachable : server.Reachable lib)
    (found : server.net.clients[fd]? = some conn)
    (known : server.net.connections[conn]? = some client)
    (authenticated : client.authenticated = true) :
    DisconnectConcludes lib env server fd client.userId ↔
      server.UnendedMatchesActive client.userId := by
  constructor
  · intro concludes matchId row stored seated running
    have ended := (concludes matchId row stored seated running).endings
    rcases removeClient_change lib env server fd matchId with kept | ⟨game, _, _, done⟩
    · rw [kept.toQuiet.endings, running] at ended
      simp at ended
    · rw [done.was]
      rfl
  · intro active matchId row stored seated running
    obtain ⟨game, was⟩ := Option.isSome_iff_exists.mp (active matchId row stored seated running)
    exact removeClient_wonByDisconnect env reachable.wellFormed found known authenticated stored
      seated running was

end RemoveClient

end Server

namespace Script

open Server

def bobGone : List Event := paired ++ [⟨env 4, .receiveFailed 1⟩]

def bobClient : ClientConnection where
  socketFd := none
  authenticated := true
  userId := bob
  sessionToken := token bob
  threadFd := 6
  serving := true

theorem bobGone_clients : (after lib bobGone).net.clients[6]? = some 1 := by decide +kernel

theorem bobGone_connections : (after lib bobGone).net.connections[1]? = some bobClient := by
  decide +kernel

theorem bobGone_concludes_iff : DisconnectConcludes lib (env 5) (after lib bobGone) 6 bob ↔
    (after lib bobGone).UnendedMatchesActive bob :=
  removeClient_concludes_iff (env 5) (after_reachable lib bobGone) bobGone_clients
    bobGone_connections rfl

/-- Alice is left in a match that is never concluded. -/
theorem bobGone_leaves_alice : (after lib bobGone).Reachable lib ∧
    (after lib bobGone).net.clients[6]? = some 1 ∧
    (after lib bobGone).net.connections[1]? = some bobClient ∧
    ¬DisconnectConcludes lib (env 5) (after lib bobGone) 6 bob ∧
    ((after lib bobGone).removeClient lib (env 5) 6).isPlayerOnline alice = true ∧
    ((after lib bobGone).removeClient lib (env 5) 6).getPlayerStatus alice = .inGame := by
  refine ⟨after_reachable lib bobGone, bobGone_clients, bobGone_connections, ?_, by decide +kernel,
    by decide +kernel⟩
  intro concludes
  have stored : (after lib bobGone).db.matchRows[1]? =
      some ⟨alice, bob, 0, .waiting, start + 3, 0⟩ := by decide +kernel
  have running : (after lib bobGone).endings 1 = [] := by decide +kernel
  have kept : ((after lib bobGone).removeClient lib (env 5) 6).endings 1 = [] := by decide +kernel
  have ended := (concludes 1 _ stored (Or.inr rfl) running).endings
  rw [kept] at ended
  simp at ended

end Script

end Battleship
