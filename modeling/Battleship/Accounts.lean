import Battleship.MatchConclusion
import Battleship.ServerEdits

/-! The ratings and results on record are the replay of the journal: nothing
changes them but what was done on account of a match, and that is done only when
a match is concluded. -/

namespace Battleship

open Decimal (Text)

/-- The rating of each user, and the winner and status of each match. -/
@[ext] structure Accounts where
  ratings : UserId → Int
  results : MatchId → UserId × MatchStatus

namespace Accounts

def opening : Accounts := ⟨fun _ => 1000, fun _ => (0, .waiting)⟩

/-- A draw is recorded with the winner `0`, and that leaves no trace. -/
def post (accounts : Accounts) : MatchEffect → Accounts
  | .concluded _ _ _ => accounts
  | .eloUpdated _ userId newElo =>
      { accounts with ratings := Function.update accounts.ratings userId newElo }
  | .recorded matchId winnerId =>
      if winnerId = 0 then accounts
      else
        { accounts with
          results := Function.update accounts.results matchId (winnerId, .completed) }

def posted (journal : List MatchEffect) : Accounts := Machine.exec post opening journal

theorem post_results_other {accounts : Accounts} {effect : MatchEffect} {matchId : MatchId}
    (other : effect.matchId ≠ matchId) : (accounts.post effect).results matchId =
      accounts.results matchId := by
  cases effect with
  | concluded named winnerId reason => rfl
  | eloUpdated named userId newElo => rfl
  | recorded named winnerId =>
      simp only [post]
      split
      · rfl
      · exact Function.update_of_ne (Ne.symm other) ..

theorem post_results_congr {first second : Accounts} {matchId : MatchId} (effect : MatchEffect)
    (same : first.results matchId = second.results matchId) :
    (first.post effect).results matchId = (second.post effect).results matchId := by
  cases effect with
  | concluded named winnerId reason => exact same
  | eloUpdated named userId newElo => exact same
  | recorded named winnerId =>
      simp only [post]
      split
      · exact same
      · simp only [Function.update_apply, same]

theorem posted_results (journal : List MatchEffect) (matchId : MatchId) :
    (posted journal).results matchId =
      (posted (journal.filter fun effect => effect.matchId = matchId)).results matchId :=
  Machine.exec_filter post (fun accounts => accounts.results matchId)
    (fun _ _ other => post_results_other (by simpa using other))
    (fun _ _ effect same => post_results_congr effect same) opening journal

end Accounts

namespace Server

def accounts (server : Server) : Accounts := ⟨server.db.rating, server.db.result⟩

def Posts (server later : Server) : Prop :=
  ∃ added, later.journal = server.journal ++ added ∧
    later.accounts = Machine.exec Accounts.post server.accounts added

theorem Posts.of_same {server later : Server} (journal : later.journal = server.journal)
    (accounts : later.accounts = server.accounts) : server.Posts later :=
  ⟨[], by rw [journal, List.append_nil], accounts⟩

theorem Posts.trans {first second third : Server} (early : first.Posts second)
    (late : second.Posts third) : first.Posts third := by
  obtain ⟨added, journal, moved⟩ := early
  obtain ⟨added', journal', moved'⟩ := late
  exact ⟨added ++ added', by rw [journal', journal, List.append_assoc],
    by rw [moved', moved, Machine.exec_append]⟩

theorem Edit.posts {env : Env} {server later : Server} (good : server.db.WellFormed)
    (edit : Edit env server later) : server.Posts later := by
  cases edit with
  | quiet kept =>
      have retains := kept.db.retains good
      exact .of_same kept.journal (Accounts.ext retains.ratings retains.results)
  | games games => exact .of_same rfl rfl
  | sends transmits => exact .of_same rfl rfl
  | announced matchId winnerId reason => exact ⟨_, rfl, rfl⟩
  | rated matchId known newElo =>
      exact ⟨_, rfl, Accounts.ext (Database.updateEloRating_rating known newElo) rfl⟩
  | recorded found winner =>
      refine ⟨_, rfl, ?_⟩
      rcases winner with rfl | known
      · have unknown : ¬server.db.HasUser 0 := fun known => absurd (good.users 0 known).1 (by simp)
        simp only [accounts, endMatch, Database.endMatch_unknown _ _ unknown]
        rfl
      · have positive := (good.users _ known).1
        simp only [Machine.exec_cons, Machine.exec_nil, Accounts.post, if_neg (Nat.ne_of_gt positive)]
        exact Accounts.ext (Database.endMatch_rating ..) (Database.endMatch_result _ found known)

theorem Edits.posts {env : Env} {server later : Server} (good : server.db.WellFormed)
    (edits : Edits env server later) : server.Posts later := by
  induction edits with
  | refl => exact .of_same rfl rfl
  | @tail middle _ early edit posts =>
      have fine := ((show Edits env server middle from early).db_sound.keeps good).1
      exact posts.trans (edit.posts fine)

variable (lib : Externals)

theorem step_posts {server : Server} (good : server.WellFormed) (event : Event) :
    server.Posts (server.step lib event) := by
  cases step_shape lib good event with
  | edited edits => exact edits.posts good.db
  | accepted _ opened => exact .of_same (by rw [opened]; rfl) (by rw [opened]; rfl)
  | restarted fresh => exact .of_same (by rw [fresh]; rfl) (by rw [fresh]; rfl)

variable {lib}

/-- In every reachable state the ratings and results are those of the journal. -/
theorem Reachable.accounts_eq {server : Server} (reachable : server.Reachable lib) :
    server.accounts = Accounts.posted server.journal := by
  have both : server.WellFormed ∧ server.accounts = Accounts.posted server.journal := by
    refine reachable.induction lib (motive := fun server => server.WellFormed ∧
      server.accounts = Accounts.posted server.journal) ⟨wellFormed_init, ?_⟩ ?_
    · apply Accounts.ext
      · funext userId
        simp [accounts, init, Database.initializeSchema, Database.rating, Accounts.posted,
          Accounts.opening]
      · funext matchId
        simp [accounts, init, Database.initializeSchema, Database.result, Accounts.posted,
          Accounts.opening]
    · rintro server event ⟨good, held⟩
      obtain ⟨added, journal, moved⟩ := step_posts lib good event
      refine ⟨step_wellFormed lib server event good, ?_⟩
      rw [moved, journal, held, Accounts.posted, Accounts.posted, Machine.exec_append]
  exact both.2

theorem Reachable.result_eq {server : Server} (reachable : server.Reachable lib)
    (matchId : MatchId) :
    server.db.result matchId = (Accounts.posted (server.effectsOf matchId)).results matchId := by
  have replayed := congrArg (fun accounts => accounts.results matchId) reachable.accounts_eq
  exact replayed.trans (Accounts.posted_results server.journal matchId)

theorem Quiet.result {server later : Server} {matchId : MatchId} (quiet : Quiet matchId server later)
    (reachable : server.Reachable lib) (reached : later.Reachable lib) :
    later.db.result matchId = server.db.result matchId := by
  rw [reached.result_eq, reachable.result_eq, quiet.effects]

theorem step_concludes {server : Server} (good : server.WellFormed) {event : Event}
    {matchId : MatchId} (unquiet : ¬Quiet matchId server (server.step lib event)) :
    ∃ game winnerId reason, Concludes matchId game winnerId reason server (server.step lib event) := by
  cases step_change lib good event matchId with
  | untouched kept => exact absurd kept.toQuiet unquiet
  | restarted _ quiet _ => exact absurd quiet unquiet
  | activated _ quiet _ => exact absurd quiet unquiet
  | moved _ quiet _ => exact absurd quiet unquiet
  | concluded game winnerId reason _ done => exact ⟨game, winnerId, reason, done⟩

/-- The result of a match changes only in a step that concludes the match. -/
theorem step_result_change {server : Server} (reachable : server.Reachable lib) {event : Event}
    {matchId : MatchId}
    (changed : (server.step lib event).db.result matchId ≠ server.db.result matchId) :
    ∃ game winnerId reason, Concludes matchId game winnerId reason server (server.step lib event) :=
  step_concludes reachable.wellFormed fun quiet =>
    changed (quiet.result reachable (reachable.step lib event))

/-- A rating changes only in a step that concludes a match. -/
theorem step_rating_change {server : Server} (good : server.WellFormed) {event : Event}
    {userId : UserId} (changed : (server.step lib event).db.rating userId ≠ server.db.rating userId) :
    ∃ matchId game winnerId reason,
      Concludes matchId game winnerId reason server (server.step lib event) := by
  obtain ⟨added, journal, moved⟩ := step_posts lib good event
  cases added with
  | nil => exact absurd (congrArg (fun accounts => accounts.ratings userId) moved) changed
  | cons effect rest =>
      refine ⟨effect.matchId, step_concludes good fun quiet => ?_⟩
      have same := quiet.effects
      rw [effectsOf, journal, List.filter_append, effectsOf, List.append_right_eq_self,
        List.filter_eq_nil_iff] at same
      simpa using same effect (by simp)

/-- Once a match is concluded and not started again, its result is final. -/
theorem NeverRestarted.result_final {before between : List Event} {matchId : MatchId}
    (never : NeverRestarted lib (before ++ between) matchId)
    (ended : (after lib before).endings matchId ≠ []) :
    (after lib (before ++ between)).db.result matchId = (after lib before).db.result matchId :=
  (never.stays_quiet ended).2.result (after_reachable lib before)
    (after_reachable lib (before ++ between))

end Server

end Battleship
