import Battleship.CachedRatings
import Battleship.EloRatings
import Battleship.Library.Totals

/-! Ratings over whole runs, with the arithmetic of the formula taken as exact and one event
handled after the other. A match moves points from one of its players to the other, so that the
average stays at 1000, and the matches of a user bound the rating of that user. -/

namespace Battleship

namespace Elo

open Rounding

theorem computeElo_draw_bounds (ra rb : Int) :
    ra - 15 ≤ computeElo ra rb .draw ∧ computeElo ra rb .draw ≤ ra + 15 := by
  have pos := expectedScore_pos ra rb
  have below := expectedScore_lt_one ra rb
  apply roundAway_mem
  · simp only [GameResult.score]
    push_cast
    linarith
  · simp only [GameResult.score]
    push_cast
    linarith

def mostWon (winnerId userId : UserId) : Int :=
  if winnerId = 0 then 15 else if winnerId = userId then 30 else 0

def mostLost (winnerId userId : UserId) : Int :=
  if winnerId = 0 then 15 else if winnerId = userId then 0 else 30

theorem mostWon_nonneg (winnerId userId : UserId) : 0 ≤ mostWon winnerId userId := by
  unfold mostWon
  split_ifs <;> omega

theorem mostLost_nonneg (winnerId userId : UserId) : 0 ≤ mostLost winnerId userId := by
  unfold mostLost
  split_ifs <;> omega

end Elo

open Elo

namespace Server

variable (lib : Externals)

/-- The first player's bounds and the second's: a winner who is not one of the two changes
nothing. -/
theorem newElos_bounds {player1Id player2Id : UserId} (distinct : player1Id ≠ player2Id)
    (winnerId : UserId) (old1 old2 : Int) :
    let new := newElos lib.exact player1Id player2Id winnerId old1 old2
    (old1 - mostLost winnerId player1Id ≤ new.1 ∧ new.1 ≤ old1 + mostWon winnerId player1Id) ∧
      (old2 - mostLost winnerId player2Id ≤ new.2 ∧ new.2 ≤ old2 + mostWon winnerId player2Id) := by
  intro new
  by_cases drawn : winnerId = 0
  · have draw1 := computeElo_draw_bounds old1 old2
    have draw2 := computeElo_draw_bounds old2 old1
    simp only [new, newElos, if_pos drawn, Externals.exact, mostLost, mostWon]
    exact ⟨draw1, draw2⟩
  by_cases first : winnerId = player1Id
  · have win := computeElo_win old1 old2
    have loss := computeElo_loss old2 old1
    have other : winnerId ≠ player2Id := fun same => distinct (first.symm.trans same)
    simp only [new, newElos, if_neg drawn, if_pos first, if_neg other, Externals.exact, mostLost,
      mostWon]
    omega
  by_cases second : winnerId = player2Id
  · have loss := computeElo_loss old1 old2
    have win := computeElo_win old2 old1
    simp only [new, newElos, if_neg drawn, if_neg first, if_pos second, Externals.exact, mostLost,
      mostWon]
    omega
  · have lost1 := mostLost_nonneg winnerId player1Id
    have lost2 := mostLost_nonneg winnerId player2Id
    have won1 := mostWon_nonneg winnerId player1Id
    have won2 := mostWon_nonneg winnerId player2Id
    simp only [new, newElos, if_neg drawn, if_neg first, if_neg second]
    omega

end Server

namespace Verdict

variable (verdict : Verdict) (userId : UserId)

def Seats : Prop := userId = verdict.game.player1Id ∨ userId = verdict.game.player2Id

instance : Decidable (verdict.Seats userId) := inferInstanceAs (Decidable (_ ∨ _))

def Fair : Prop := verdict.game.player1Id ≠ verdict.game.player2Id

def won (verdicts : List Verdict) (userId : UserId) : Int :=
  ((verdicts.filter fun verdict => verdict.Seats userId).map fun verdict =>
    mostWon verdict.winnerId userId).sum

def lost (verdicts : List Verdict) (userId : UserId) : Int :=
  ((verdicts.filter fun verdict => verdict.Seats userId).map fun verdict =>
    mostLost verdict.winnerId userId).sum

def players : List UserId := [verdict.game.player1Id, verdict.game.player2Id]

end Verdict

section Rate

variable (lib : Externals) {verdict : Verdict} (fair : verdict.Fair) (ratings : UserId → Int)

include fair

/-- A match brings its winner at most 30 points and takes at most 30 from its loser, a draw moves
at most 15, and other users keep their rating. -/
theorem rate_bounds (userId : UserId) :
    ratings userId - Verdict.lost [verdict] userId ≤ lib.exact.rate ratings verdict userId ∧
      lib.exact.rate ratings verdict userId ≤ ratings userId + Verdict.won [verdict] userId := by
  obtain ⟨bounds1, bounds2⟩ := Server.newElos_bounds lib fair verdict.winnerId
    (ratings verdict.game.player1Id) (ratings verdict.game.player2Id)
  by_cases seated : verdict.Seats userId
  case neg =>
    have outside := not_or.mp seated
    rw [Externals.rate, Function.update_of_ne outside.2, Function.update_of_ne outside.1]
    simp [Verdict.lost, Verdict.won, seated]
  simp only [Verdict.lost, Verdict.won, List.filter_cons, seated, decide_true, if_true,
    List.filter_nil, List.map_cons, List.map_nil, List.sum_cons, List.sum_nil, add_zero]
  rcases seated with rfl | rfl
  · rwa [Externals.rate, Function.update_of_ne fair, Function.update_self]
  · rwa [Externals.rate, Function.update_self]

end Rate

section Rates

variable (lib : Externals)

theorem rates_bounds (userId : UserId) (verdicts : List Verdict)
    (fair : ∀ verdict ∈ verdicts, verdict.Fair) (ratings : UserId → Int) :
    ratings userId - Verdict.lost verdicts userId ≤ verdicts.foldl lib.exact.rate ratings userId ∧
      verdicts.foldl lib.exact.rate ratings userId ≤
        ratings userId + Verdict.won verdicts userId := by
  induction verdicts generalizing ratings with
  | nil => simp [Verdict.lost, Verdict.won]
  | cons verdict rest ih =>
      rw [List.forall_mem_cons] at fair
      have first := rate_bounds lib fair.1 ratings userId
      have others := ih fair.2 (lib.exact.rate ratings verdict)
      have lost : Verdict.lost (verdict :: rest) userId =
          Verdict.lost [verdict] userId + Verdict.lost rest userId := by
        simp only [Verdict.lost, List.filter_cons]
        split <;> simp
      have won : Verdict.won (verdict :: rest) userId =
          Verdict.won [verdict] userId + Verdict.won rest userId := by
        simp only [Verdict.won, List.filter_cons]
        split <;> simp
      rw [List.foldl_cons, lost, won]
      omega

end Rates

namespace Server

variable (lib : Externals)

def history : Server → List Event → List Verdict
  | _, [] => []
  | server, event :: events => server.verdicts event ++ history (server.step lib event) events

section Games

variable {server : Server} {verdict : Verdict}

theorem getMatch_of_sweptVerdicts {test : MatchState → Bool} {loser : MatchState → UserId}
    (member : verdict ∈ server.sweptVerdicts test loser) :
    ∃ matchId, server.getMatch matchId = some verdict.game := by
  obtain ⟨game, found, rfl⟩ := List.mem_map.mp member
  obtain ⟨matchId, _, was⟩ := List.mem_filterMap.mp found
  exact ⟨matchId, was⟩

theorem getMatch_of_requestVerdicts {env : Env} {token : Decimal.Text} {request : Request}
    (member : verdict ∈ server.requestVerdicts env token request) :
    ∃ matchId, server.getMatch matchId = some verdict.game := by
  have running {matchId : MatchId} {winner : MatchState → UserId}
      (member : verdict ∈ (server.getMatch matchId).toList.map fun game => ⟨game, winner game⟩) :
      ∃ matchId, server.getMatch matchId = some verdict.game := by
    obtain ⟨game, found, rfl⟩ := List.mem_map.mp member
    exact ⟨matchId, Option.mem_toList.mp found⟩
  cases request with
  | move matchId target =>
      simp only [requestVerdicts] at member
      split_ifs at member with wins
      · exact running member
      · simp at member
  | resign matchId =>
      simp only [requestVerdicts] at member
      split_ifs at member with absent
      · simp at member
      · exact running member
  | drawResponse matchId accepted =>
      simp only [requestVerdicts] at member
      split_ifs at member with agreed
      · exact running member
      · simp at member
  | _ => simp [requestVerdicts] at member

/-- Only running matches are ended. -/
theorem getMatch_of_verdicts {event : Event} (member : verdict ∈ server.verdicts event) :
    ∃ matchId, server.getMatch matchId = some verdict.game := by
  obtain ⟨env, action⟩ := event
  cases action with
  | message conn token request =>
      simp only [verdicts] at member
      split_ifs at member with live
      · exact getMatch_of_requestVerdicts member
      · simp at member
  | removeClient conn =>
      simp only [verdicts] at member
      split at member
      · simp at member
      split_ifs at member with closed
      · simp only [removedVerdicts] at member
        split at member
        · simp at member
        split_ifs at member with authenticated
        · exact getMatch_of_sweptVerdicts member
        · simp at member
      · simp at member
  | checkTurnTimeouts => exact getMatch_of_sweptVerdicts member
  | _ => simp [verdicts] at member

theorem fair_of_verdicts (good : server.WellFormed) {event : Event}
    (member : verdict ∈ server.verdicts event) : verdict.Fair := by
  obtain ⟨matchId, found⟩ := getMatch_of_verdicts member
  obtain ⟨row, stored, same1, same2⟩ := (good.games.active matchId verdict.game found).row
  rw [Verdict.Fair, same1, same2]
  exact (good.db.players matchId row stored).1

end Games

theorem history_fair {server : Server} (good : server.WellFormed) (events : List Event) :
    ∀ verdict ∈ server.history lib events, verdict.Fair := by
  induction events generalizing server with
  | nil => simp [history]
  | cons event rest ih =>
      intro verdict member
      rcases List.mem_append.mp member with now | later
      · exact fair_of_verdicts good now
      · exact ih (step_wellFormed lib server event good) verdict later

/-- The ratings after a run are those before it, changed by each match that it ended. -/
theorem exec_rating {server : Server} (good : server.WellFormed) (events : List Event) :
    (Machine.exec (step lib) server events).db.rating =
      (server.history lib events).foldl lib.rate server.db.rating := by
  induction events generalizing server with
  | nil => rfl
  | cons event rest ih =>
      rw [Machine.exec_cons, ih (step_wellFormed lib server event good), step_rating lib good,
        history, List.foldl_append]

theorem after_rating (events : List Event) : (after lib events).db.rating =
    (init.history lib events).foldl lib.rate fun _ => 1000 :=
  exec_rating lib wellFormed_init events

/-- What a user has won and lost bounds the rating. -/
theorem rating_bounded (events : List Event) (userId : UserId) :
    let verdicts := init.history lib.exact events
    let rating := (after lib.exact events).db.rating userId
    1000 - Verdict.lost verdicts userId ≤ rating ∧ rating ≤ 1000 + Verdict.won verdicts userId := by
  intro verdicts rating
  have bounds := rates_bounds lib userId verdicts (history_fair lib.exact wellFormed_init events)
    fun _ => 1000
  rwa [← after_rating lib.exact events] at bounds

end Server

end Battleship
