import Battleship.MatchEndings

/-! The two sweeps over the active matches. Each collects the ids of the matches that it ends
and then ends them one by one; nothing else is touched. -/

namespace Battleship

open Decimal (Text)

namespace Server

structure KeptMatch (matchId : MatchId) (server later : Server) : Prop extends
    Untouched matchId server later where
  ready : later.games.readyPlayers[matchId]? = server.games.readyPlayers[matchId]?
  row : later.db.matchRows[matchId]? = server.db.matchRows[matchId]?

structure Ended (matchId : MatchId) (game : MatchState) (winnerId : UserId)
    (reason : MatchEndReason) (server later : Server) : Prop extends
    Concludes matchId game winnerId reason server later where
  unready : later.games.readyPlayers[matchId]? = none
  won : later.db.WonBy matchId winnerId

theorem KeptMatch.refl (matchId : MatchId) (server : Server) : KeptMatch matchId server server :=
  ⟨.refl matchId server, rfl, rfl⟩

theorem KeptMatch.trans {matchId : MatchId} {first second third : Server}
    (early : KeptMatch matchId first second) (late : KeptMatch matchId second third) :
    KeptMatch matchId first third :=
  ⟨early.toUntouched.trans late.toUntouched, late.ready.trans early.ready,
    late.row.trans early.row⟩

section Ended

variable {matchId : MatchId} {game : MatchState} {winnerId : UserId} {reason : MatchEndReason}
  {first second third : Server}

theorem KeptMatch.ended (early : KeptMatch matchId first second)
    (late : Ended matchId game winnerId reason second third) :
    Ended matchId game winnerId reason first third :=
  ⟨early.toUntouched.concludes late.toConcludes, late.unready, late.won⟩

theorem Ended.kept (early : Ended matchId game winnerId reason first second)
    (late : KeptMatch matchId second third) : Ended matchId game winnerId reason first third := by
  refine ⟨early.toConcludes.untouched late.toUntouched, late.ready.trans early.unready, ?_⟩
  obtain ⟨row, found, rest⟩ := early.won
  exact ⟨row, late.row.trans found, rest⟩

end Ended

structure EndsOne (matchId : MatchId) (game : MatchState) (winnerId : UserId)
    (reason : MatchEndReason) (server later : Server) : Prop where
  ended : Ended matchId game winnerId reason server later
  others : ∀ other, other ≠ matchId → KeptMatch other server later
  users : ∀ userId : UserId, ¬game.Seats userId → later.db.users[userId]? = server.db.users[userId]?

section One

variable (lib : Externals) (env : Env) {server : Server} {matchId : MatchId} {game : MatchState}

theorem matchRows_endMatch (db : Database) (now : Nat) {matchId other : MatchId}
    (different : other ≠ matchId) (winnerId : UserId) :
    (db.endMatch now matchId winnerId).matchRows[other]? = db.matchRows[other]? := by
  unfold Database.endMatch
  split
  · rfl
  · exact (Table.lookup_modify ..).trans (if_neg different.symm)

theorem users_rated (db : Database) (game : MatchState) (newElo1 newElo2 : Int) {userId : UserId}
    (outside : ¬game.Seats userId) :
    ((db.updateEloRating game.player1Id newElo1).updateEloRating game.player2Id
      newElo2).users[userId]? = db.users[userId]? := by
  obtain ⟨not1, not2⟩ := not_or.mp outside
  exact ((Table.lookup_modify ..).trans (if_neg (Ne.symm not2))).trans
    ((Table.lookup_modify ..).trans (if_neg (Ne.symm not1)))

theorem Concludes.endsOne {winnerId : UserId} {reason : MatchEndReason} {later : Server}
    (concludes : Concludes matchId game winnerId reason server later)
    (untouched : ∀ other, other ≠ matchId → Untouched other server later)
    (ready : later.games.readyPlayers = server.games.readyPlayers.erase matchId)
    (won : later.db.WonBy matchId winnerId)
    (rows : ∀ other, other ≠ matchId → later.db.matchRows[other]? = server.db.matchRows[other]?)
    (users : ∀ userId : UserId, ¬game.Seats userId →
      later.db.users[userId]? = server.db.users[userId]?) :
    EndsOne matchId game winnerId reason server later := by
  refine ⟨⟨concludes, ?_, won⟩, fun other different =>
    ⟨untouched other different, ?_, rows other different⟩, users⟩
  · rw [ready, Table.lookup_erase, if_pos rfl]
  · rw [ready, Table.lookup_erase_ne _ different.symm]

theorem timeOutMatch_endsOne (good : server.WellFormed)
    (was : server.getMatch matchId = some game) :
    EndsOne matchId game (game.opponent game.currentTurnPlayerId) .timeout server
      (server.timeOutMatch lib env matchId) := by
  have stored := (good.games.active matchId game was).stored good.db
  obtain ⟨row, found⟩ := stored.row
  let winnerId := game.opponent game.currentTurnPlayerId
  let rated := (server.db.updateEloRating game.player1Id (server.ratings lib game.player1Id
    game.player2Id winnerId).1).updateEloRating game.player2Id (server.ratings lib game.player1Id
      game.player2Id winnerId).2
  have shape : server.timeOutMatch lib env matchId = server.finishMatch lib env matchId game
      winnerId .timeout "Turn time limit exceeded" := by
    simp only [timeOutMatch, was, winnerId]
  have db : (server.timeOutMatch lib env matchId).db = rated.endMatch env.now matchId winnerId := by
    rw [shape]
    rfl
  have rows : rated.matchRows = server.db.matchRows := rfl
  refine (timeOutMatch_concludes lib env server was).endsOne (fun other different =>
    timeOutMatch_untouched lib env server (Ne.symm different)) ?_ ?_ ?_ ?_
  · rw [shape]
    rfl
  · rw [db]
    refine Database.endMatch_wonBy env.now (by rw [rows]; exact found) ?_
    exact Database.hasUser_modify .. |>.mpr (Database.hasUser_modify .. |>.mpr (stored.opponent _))
  · intro other different
    rw [db, matchRows_endMatch _ _ different, rows]
  · intro userId outside
    rw [db, Database.endMatch_users, users_rated _ _ _ _ outside]

theorem abandonMatch_endsOne (good : server.WellFormed)
    (was : server.getMatch matchId = some game) (userId : UserId) :
    EndsOne matchId game (game.opponent userId) .disconnect server
      (server.abandonMatch lib env userId matchId) := by
  have stored := (good.games.active matchId game was).stored good.db
  obtain ⟨row, found⟩ := stored.row
  let winnerId := game.opponent userId
  let recorded := server.endMatch env matchId winnerId
  let rated := (recorded.db.updateEloRating game.player1Id (recorded.ratings lib game.player1Id
    game.player2Id winnerId).1).updateEloRating game.player2Id (recorded.ratings lib game.player1Id
      game.player2Id winnerId).2
  obtain ⟨duration, shape⟩ := abandonMatch_of_some lib env userId server was
  have db : (server.abandonMatch lib env userId matchId).db = rated := by
    rw [shape]
    rfl
  have rows : rated.matchRows = (server.db.endMatch env.now matchId winnerId).matchRows := rfl
  refine (abandonMatch_concludes lib env userId server was).endsOne (fun other different =>
    abandonMatch_untouched lib env userId server (Ne.symm different)) ?_ ?_ ?_ ?_
  · rw [shape]
    rfl
  · rw [db, Database.WonBy, rows]
    exact Database.endMatch_wonBy env.now found (stored.opponent userId)
  · intro other different
    rw [db, rows, matchRows_endMatch _ _ different]
  · intro other outside
    rw [db, users_rated _ _ _ _ outside]
    exact congrArg (fun users => users[other]?) (Database.endMatch_users ..)

end One

/-- Every chosen match is ended, with one of its players losing to the other, and nothing that
belongs to another match or to a user outside the chosen ones is touched. -/
structure SweepsExactly (chosen : MatchState → Prop) (loser : MatchState → UserId)
    (reason : MatchEndReason) (server later : Server) : Prop where
  ended : ∀ matchId game, server.getMatch matchId = some game → chosen game →
    game.Seats (loser game) ∧ ∃ winnerId, game.Seats winnerId ∧ winnerId ≠ loser game ∧
      Ended matchId game winnerId reason server later
  others : ∀ matchId, (∀ game, server.getMatch matchId = some game → ¬chosen game) →
    KeptMatch matchId server later
  users : ∀ userId, (∀ matchId game, server.getMatch matchId = some game → chosen game →
    ¬game.Seats userId) → later.db.users[userId]? = server.db.users[userId]?

section Sweep

variable {body : Server → MatchId → Server} {loser : MatchState → UserId} {reason : MatchEndReason}

theorem foldl_endsOne
    (good : ∀ server matchId, server.WellFormed → (body server matchId).WellFormed)
    (ends : ∀ (server : Server) matchId game, server.WellFormed →
      server.getMatch matchId = some game →
        EndsOne matchId game (game.opponent (loser game)) reason server (body server matchId)) :
    ∀ matchIds : List MatchId, matchIds.Nodup → ∀ server : Server, server.WellFormed →
      (∀ matchId ∈ matchIds, (server.getMatch matchId).isSome = true) →
      (∀ matchId ∈ matchIds, ∀ game, server.getMatch matchId = some game →
        Ended matchId game (game.opponent (loser game)) reason server
          (matchIds.foldl body server)) ∧
      (∀ matchId, matchId ∉ matchIds → KeptMatch matchId server (matchIds.foldl body server)) ∧
      ∀ userId : UserId, (∀ matchId ∈ matchIds, ∀ game, server.getMatch matchId = some game →
        ¬game.Seats userId) →
          (matchIds.foldl body server).db.users[userId]? = server.db.users[userId]? := by
  intro matchIds
  induction matchIds with
  | nil => exact fun _ server _ _ => ⟨by simp, fun _ _ => .refl .., fun _ _ => rfl⟩
  | cons head rest ih =>
      intro distinct server fine active
      obtain ⟨notInRest, restDistinct⟩ := List.nodup_cons.mp distinct
      obtain ⟨first, was⟩ := Option.isSome_iff_exists.mp (active head List.mem_cons_self)
      have one := ends server head first fine was
      have apart {matchId : MatchId} (inRest : matchId ∈ rest) : matchId ≠ head :=
        fun same => notInRest (same ▸ inRest)
      have still {matchId : MatchId} (inRest : matchId ∈ rest) :
          (body server head).getMatch matchId = server.getMatch matchId :=
        (one.others matchId (apart inRest)).game
      obtain ⟨ended, kept, users⟩ := ih restDistinct (body server head) (good server head fine)
        fun matchId inRest => by rw [still inRest]; exact active matchId (List.mem_cons_of_mem _ inRest)
      rw [List.foldl_cons]
      refine ⟨?_, ?_, ?_⟩
      · intro matchId member game found
        rcases List.mem_cons.mp member with rfl | inRest
        · obtain rfl := Option.some.inj (was.symm.trans found)
          exact one.ended.kept (kept matchId notInRest)
        · exact (one.others matchId (apart inRest)).ended
            (ended matchId inRest game ((still inRest).trans found))
      · intro matchId absent
        obtain ⟨different, notLater⟩ := not_or.mp (mt List.mem_cons.mpr absent)
        exact (one.others matchId different).trans (kept matchId notLater)
      · intro userId outside
        rw [users userId, one.users userId (outside head List.mem_cons_self first was)]
        intro matchId inRest game found
        exact outside matchId (List.mem_cons_of_mem _ inRest) game ((still inRest).symm.trans found)

theorem sweep_exactly {server : Server} (fine : server.WellFormed) {test : MatchState → Bool}
    {chosen : MatchState → Prop}
    (decides : ∀ matchId game, server.getMatch matchId = some game →
      (test game = true ↔ chosen game))
    (seated : ∀ matchId game, server.getMatch matchId = some game → chosen game →
      game.Seats (loser game))
    (good : ∀ server matchId, server.WellFormed → (body server matchId).WellFormed)
    (ends : ∀ (server : Server) matchId game, server.WellFormed →
      server.getMatch matchId = some game →
        EndsOne matchId game (game.opponent (loser game)) reason server (body server matchId)) :
    SweepsExactly chosen loser reason server
      ((server.games.activeMatches.keysWhere test).foldl body server) := by
  have listed (matchId : MatchId) : matchId ∈ server.games.activeMatches.keysWhere test ↔
      ∃ game, server.getMatch matchId = some game ∧ chosen game := by
    rw [Table.mem_keysWhere]
    exact exists_congr fun game => and_congr_right fun found => decides matchId game found
  obtain ⟨ended, kept, users⟩ := foldl_endsOne good ends
    (server.games.activeMatches.keysWhere test) (Table.keysWhere_nodup ..) server fine
    fun matchId member => by
      obtain ⟨game, found, -⟩ := (listed matchId).mp member
      rw [found]
      rfl
  refine ⟨?_, ?_, ?_⟩
  · intro matchId game found is_chosen
    have distinct := ((fine.games.active matchId game found).underway fine.db).distinct
    have seat := seated matchId game found is_chosen
    have different : game.opponent (loser game) ≠ loser game := fun same =>
      MatchState.opponent_iff distinct (loser game) (by rw [same])
    exact ⟨seat, game.opponent (loser game), game.opponent_seat _, different,
      ended matchId ((listed matchId).mpr ⟨game, found, is_chosen⟩) game found⟩
  · intro matchId not_chosen
    refine kept matchId fun member => ?_
    obtain ⟨game, found, is_chosen⟩ := (listed matchId).mp member
    exact not_chosen game found is_chosen
  · intro userId outside
    refine users userId fun matchId member game found => ?_
    obtain ⟨same, active, is_chosen⟩ := (listed matchId).mp member
    obtain rfl := Option.some.inj (active.symm.trans found)
    exact outside matchId same found is_chosen

end Sweep

def StartedBy (now : Nat) (server : Server) : Prop :=
  ∀ matchId game, server.getMatch matchId = some game → game.turnStartTime ≤ now

/-- The match is being played and its turn began at least the time limit ago; `0` is the start
of a turn that has not begun. -/
def Overdue (now : Nat) (game : MatchState) : Prop :=
  game.isActive = true ∧ game.isPaused = false ∧ game.turnStartTime ≠ 0 ∧
    game.turnStartTime + game.turnTimeLimit ≤ now

section Exact

variable (lib : Externals) (env : Env) {server : Server}

theorem isTurnTimedOut_iff {now : Nat} (bounded : now < 2 ^ 64) {game : MatchState}
    (started : game.turnStartTime ≤ now) :
    game.isTurnTimedOut now = true ↔ Overdue now game := by
  have since : secondsSince now game.turnStartTime = now - game.turnStartTime := by
    rw [secondsSince]
    omega
  unfold MatchState.isTurnTimedOut Overdue
  rw [since]
  split
  next idle =>
    refine iff_of_false (by simp) ?_
    rintro ⟨active, unpaused, begun, -⟩
    simp [active, unpaused, begun] at idle
  next running =>
    simp only [Bool.or_eq_true, Bool.not_eq_true', decide_eq_true_eq, not_or,
      Bool.not_eq_false, Bool.not_eq_true] at running
    obtain ⟨⟨active, unpaused⟩, begun⟩ := running
    simp only [active, unpaused, ne_eq, begun, not_false_eq_true, true_and, decide_eq_true_eq]
    omega

theorem checkTurnTimeouts_exactly (fine : server.WellFormed) (started : StartedBy env.now server)
    (bounded : env.now < 2 ^ 64) :
    SweepsExactly (Overdue env.now) MatchState.currentTurnPlayerId .timeout server
      (server.checkTurnTimeouts lib env) := by
  refine sweep_exactly fine ?_ ?_ (timeOutMatch_wellFormed lib env) ?_
  · exact fun matchId game found => isTurnTimedOut_iff bounded (started matchId game found)
  · exact fun matchId game found _ => (fine.games.active matchId game found).turn
  · exact fun _ _ _ good was => timeOutMatch_endsOne lib env good was

theorem handlePlayerDisconnect_exactly (fine : server.WellFormed) (userId : UserId) :
    SweepsExactly (fun game => game.Seats userId) (fun _ => userId) .disconnect server
      (server.handlePlayerDisconnect lib env userId) := by
  refine sweep_exactly fine ?_ ?_
    (fun server matchId => abandonMatch_wellFormed lib env userId server matchId) ?_
  · intro matchId game _
    rw [decide_eq_true_iff]
    exact or_congr eq_comm eq_comm
  · exact fun _ _ _ seated => seated
  · exact fun _ _ _ good was => abandonMatch_endsOne lib env good was userId

end Exact

section Runs

variable (lib : Externals)

theorem step_startedBy {server : Server} (good : server.WellFormed) (event : Event)
    (started : StartedBy event.env.now server) :
    StartedBy event.env.now (server.step lib event) := by
  intro matchId game running
  rcases step_moved lib server event with unmoved | ⟨other, before, target, moves⟩
  · rcases unmoved.games matchId game running with kept | ⟨-, begun⟩
    · exact started matchId game kept
    · exact begun.le
  · have done := moves.done lib good
    by_cases here : matchId = other
    · subst here
      obtain ⟨rfl, afloat⟩ := done.played game running
      have found := moves.choose_spec.2.2.2
      have fine := good.games.active matchId before found
      rw [ActiveMatch.processMove fine] at afloat ⊢
      rw [MatchState.playMove_targetBoard] at afloat
      have clock := MatchState.playMove_clock event.env.now (ne_true_of_eq_false afloat)
      rcases clock.2 with ⟨-, begun⟩ | ⟨-, same⟩
      · exact begun.le
      · exact same.trans_le (started matchId before found)
    · rw [done.others matchId here] at running
      exact started matchId game running

theorem after_startedBy {events : List Event} (forward : ClockForward events) (now : Nat)
    (passed : ∀ event ∈ events, event.env.now ≤ now) : StartedBy now (after lib events) := by
  induction events using List.reverseRecOn generalizing now with
  | nil =>
      intro matchId game found
      simp [getMatch, init] at found
  | append_singleton before event ih =>
      obtain ⟨forward, -, order⟩ := List.pairwise_append.mp forward
      have started := ih forward event.env.now fun early member =>
        order early member event (List.mem_singleton_self event)
      rw [after_concat]
      intro matchId game found
      have stepped := step_startedBy lib (after_wellFormed lib before) event started
      exact (stepped matchId game found).trans (passed event (by simp))

/-- At any time in a run whose clock does not go back, both sweeps are exact. -/
theorem sweeps_exactly {events : List Event} {env : Env}
    (forward : ClockForward (events ++ [⟨env, .checkTurnTimeouts⟩])) (bounded : env.now < 2 ^ 64) :
    SweepsExactly (Overdue env.now) MatchState.currentTurnPlayerId .timeout (after lib events)
      ((after lib events).checkTurnTimeouts lib env) ∧
    ∀ userId, SweepsExactly (fun game => game.Seats userId) (fun _ => userId) .disconnect
      (after lib events) ((after lib events).handlePlayerDisconnect lib env userId) := by
  have good := after_wellFormed lib events
  obtain ⟨forward, -, order⟩ := List.pairwise_append.mp forward
  have started := after_startedBy lib forward env.now fun event member =>
    order event member ⟨env, .checkTurnTimeouts⟩ (List.mem_singleton_self _)
  exact ⟨checkTurnTimeouts_exactly lib env good started bounded,
    handlePlayerDisconnect_exactly lib env good⟩

end Runs

end Server

namespace Script

open Server

/-- Alice's first turn has lasted its 60 seconds. -/
theorem duel_sweeps_exactly :
    SweepsExactly (Overdue (start + 64)) MatchState.currentTurnPlayerId .timeout (after lib duel)
      ((after lib duel).checkTurnTimeouts lib (env 64)) ∧
    ∀ userId, SweepsExactly (fun game => game.Seats userId) (fun _ => userId) .disconnect
      (after lib duel) ((after lib duel).handlePlayerDisconnect lib (env 64) userId) := by
  refine @sweeps_exactly lib duel (env 64) ?_ (by decide +kernel)
  unfold ClockForward
  decide +kernel

end Script

end Battleship
