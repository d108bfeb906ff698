import Battleship.DatabaseFacts
import Battleship.GameplayHandling
import Battleship.Library.Rounding
import Mathlib.Analysis.SpecialFunctions.Pow.Real

/-! The rating formula over the real numbers. The new ratings of the two players are
rounded one by one; no difference of ratings gives a half, so none is lost. -/

namespace Battleship

open Rounding

def GameResult.score : GameResult → ℚ
  | .win => 1
  | .loss => 0
  | .draw => 1 / 2

namespace Elo

noncomputable def expectedScore (ra rb : Int) : ℝ :=
  1 / (1 + 10 ^ (((rb - ra : Int) : ℝ) / 400))

/-- `computeElo` without rounding errors, with its default factor of 30. -/
noncomputable def computeElo (ra rb : Int) (result : GameResult) : Int :=
  roundAway ((ra : ℝ) + 30 * (result.score - expectedScore ra rb))

theorem expectedScore_pos (ra rb : Int) : 0 < expectedScore ra rb := by
  have odds : (0 : ℝ) < 10 ^ (((rb - ra : Int) : ℝ) / 400) := Real.rpow_pos_of_pos (by norm_num) _
  unfold expectedScore
  positivity

theorem expectedScore_add (ra rb : Int) : expectedScore ra rb + expectedScore rb ra = 1 := by
  have odds : (0 : ℝ) < 10 ^ (((rb - ra : Int) : ℝ) / 400) := Real.rpow_pos_of_pos (by norm_num) _
  have flip : ((ra - rb : Int) : ℝ) / 400 = -(((rb - ra : Int) : ℝ) / 400) := by
    push_cast
    ring
  unfold expectedScore
  rw [flip, Real.rpow_neg (by norm_num)]
  field_simp
  ring

theorem expectedScore_lt_one (ra rb : Int) : expectedScore ra rb < 1 := by
  have sum := expectedScore_add ra rb
  have other := expectedScore_pos rb ra
  linarith

theorem expectedScore_le_half {ra rb : Int} (lower : ra ≤ rb) : expectedScore ra rb ≤ 1 / 2 := by
  have favours : (1 : ℝ) ≤ 10 ^ (((rb - ra : Int) : ℝ) / 400) := by
    apply Real.one_le_rpow (by norm_num)
    have difference : (0 : ℝ) ≤ ((rb - ra : Int) : ℝ) := by exact_mod_cast Int.sub_nonneg.mpr lower
    positivity
  unfold expectedScore
  exact one_div_le_one_div_of_le (by norm_num) (by linarith)

/-- A quotient of odd numbers with a power of ten among its powers is no proper power of
ten's roots: the factors of two do not cancel. -/
theorem exponent_eq_zero {u : ℝ} {root : ℕ} {exponent j k : ℤ} (oddTop : Odd j) (oddBottom : Odd k)
    (quotient : u * k = j) (power : u ^ root = 10 ^ exponent) : exponent = 0 := by
  have raised : (10 : ℝ) ^ exponent * (k : ℝ) ^ root = (j : ℝ) ^ root := by
    rw [← power, ← mul_pow, quotient]
  obtain ⟨n, rfl | rfl⟩ := exponent.eq_nat_or_neg
  · cases n with
    | zero => rfl
    | succ n =>
        have whole : (10 : ℤ) ^ (n + 1) * k ^ root = j ^ root := by
          rw [zpow_natCast] at raised
          exact_mod_cast raised
        have odd := oddTop.pow (n := root)
        rw [← whole, pow_succ, Int.odd_mul, Int.odd_mul] at odd
        exact absurd odd.1.2 (by decide)
  · cases n with
    | zero => rfl
    | succ n =>
        have whole : k ^ root = (10 : ℤ) ^ (n + 1) * j ^ root := by
          rw [zpow_neg, zpow_natCast, inv_mul_eq_iff_eq_mul₀ (by positivity)] at raised
          exact_mod_cast raised
        have odd := oddBottom.pow (n := root)
        rw [whole, pow_succ, Int.odd_mul, Int.odd_mul] at odd
        exact absurd odd.1.2 (by decide)

/-- No difference of ratings gives a half. -/
theorem expectedScore_not_halfway (ra rb : Int) : ¬Halfway (30 * expectedScore ra rb) := by
  rintro ⟨n, half⟩
  have odds : (0 : ℝ) < 10 ^ (((rb - ra : Int) : ℝ) / 400) := Real.rpow_pos_of_pos (by norm_num) _
  set u : ℝ := 10 ^ (((rb - ra : Int) : ℝ) / 400) with u_eq
  have product : expectedScore ra rb * (1 + u) = 1 := by
    unfold expectedScore
    rw [← u_eq]
    exact one_div_mul_cancel (by positivity)
  have quotient : u * ((2 * n + 1 : ℤ) : ℝ) = ((60 - (2 * n + 1) : ℤ) : ℝ) := by
    push_cast
    linear_combination 60 * product - (2 + 2 * u) * half
  have power : u ^ 400 = 10 ^ (rb - ra) := by
    have difference : ((rb - ra : Int) : ℝ) / 400 * ((400 : ℕ) : ℝ) = ((rb - ra : Int) : ℝ) := by
      push_cast
      ring
    rw [u_eq, ← Real.rpow_natCast, ← Real.rpow_mul (by norm_num), difference, Real.rpow_intCast]
  have bottom : Odd (2 * n + 1) := ⟨n, rfl⟩
  have top : Odd (60 - (2 * n + 1)) := ⟨29 - n, by ring⟩
  have equal := exponent_eq_zero top bottom quotient power
  rw [equal] at u_eq
  have one : u = 1 := by simpa using u_eq
  rw [one, one_mul] at quotient
  have same : (2 * n + 1 : ℤ) = 60 - (2 * n + 1) := by exact_mod_cast quotient
  omega

theorem gain_not_halfway (ra rb : Int) (result : GameResult) :
    ¬Halfway (30 * (result.score - expectedScore ra rb)) := by
  have whole : ∃ points : ℤ, 30 * (result.score : ℝ) = points := by
    cases result with
    | win => exact ⟨30, by norm_num [GameResult.score]⟩
    | loss => exact ⟨0, by norm_num [GameResult.score]⟩
    | draw => exact ⟨15, by norm_num [GameResult.score]⟩
  obtain ⟨points, same⟩ := whole
  rw [mul_sub, same, sub_eq_add_neg, halfway_intCast_add, halfway_neg]
  exact expectedScore_not_halfway ra rb

theorem computeElo_exchange (ra rb : Int) {result other : GameResult}
    (scores : (result.score : ℝ) + other.score = 1) :
    computeElo ra rb result + computeElo rb ra other = ra + rb := by
  have opposite : 30 * (other.score - expectedScore rb ra) =
      -(30 * (result.score - expectedScore ra rb)) := by
    have sum := expectedScore_add ra rb
    linear_combination 30 * scores - 30 * sum
  unfold computeElo
  rw [opposite, ← sub_eq_add_neg]
  exact roundAway_exchange (gain_not_halfway ra rb result) ra rb

theorem computeElo_win (ra rb : Int) :
    ra ≤ computeElo ra rb .win ∧ computeElo ra rb .win ≤ ra + 30 := by
  have pos := expectedScore_pos ra rb
  have below := expectedScore_lt_one ra rb
  apply roundAway_mem
  · simp only [GameResult.score]
    push_cast
    linarith
  · simp only [GameResult.score]
    push_cast
    linarith

theorem computeElo_loss (ra rb : Int) :
    ra - 30 ≤ computeElo ra rb .loss ∧ computeElo ra rb .loss ≤ ra := by
  have pos := expectedScore_pos ra rb
  have below := expectedScore_lt_one ra rb
  apply roundAway_mem
  · simp only [GameResult.score]
    push_cast
    linarith
  · simp only [GameResult.score]
    push_cast
    linarith

theorem computeElo_draw {ra rb : Int} (lower : ra ≤ rb) : ra ≤ computeElo ra rb .draw := by
  have half := expectedScore_le_half lower
  refine (@roundAway_mem _ _ _ _ _ _ ra (ra + 15) ?_ ?_).1
  · simp only [GameResult.score]
    push_cast
    linarith
  · have pos := expectedScore_pos ra rb
    simp only [GameResult.score]
    push_cast
    linarith

structure FairChanges (player1Id player2Id winnerId : UserId) (old1 old2 change1 change2 : Int) :
    Prop where
  sum : change1 + change2 = 0
  player1Wins : winnerId ≠ 0 → winnerId = player1Id →
    (0 ≤ change1 ∧ change1 ≤ 30) ∧ (-30 ≤ change2 ∧ change2 ≤ 0)
  player2Wins : winnerId ≠ 0 → winnerId ≠ player1Id → winnerId = player2Id →
    (-30 ≤ change1 ∧ change1 ≤ 0) ∧ (0 ≤ change2 ∧ change2 ≤ 30)
  draw : winnerId = 0 → (old1 ≤ old2 → 0 ≤ change1) ∧ (old2 ≤ old1 → 0 ≤ change2)

end Elo

noncomputable def Externals.exact (lib : Externals) : Externals :=
  { lib with computeElo := Elo.computeElo }

namespace Server

open Elo

variable (lib : Externals) (env : Env)

theorem newElos_fair (player1Id player2Id winnerId : UserId) (old1 old2 : Int) :
    FairChanges player1Id player2Id winnerId old1 old2
      ((newElos lib.exact player1Id player2Id winnerId old1 old2).1 - old1)
      ((newElos lib.exact player1Id player2Id winnerId old1 old2).2 - old2) := by
  have drawn := @computeElo_exchange old1 old2 .draw .draw (by norm_num [GameResult.score])
  have won := @computeElo_exchange old1 old2 .win .loss (by norm_num [GameResult.score])
  have lost := @computeElo_exchange old1 old2 .loss .win (by norm_num [GameResult.score])
  have win1 := computeElo_win old1 old2
  have win2 := computeElo_win old2 old1
  have loss1 := computeElo_loss old1 old2
  have loss2 := computeElo_loss old2 old1
  by_cases none : winnerId = 0
  · simp only [newElos, if_pos none, Externals.exact]
    refine ⟨by omega, fun some => absurd none some, fun some => absurd none some, ?_⟩
    refine fun _ => ⟨?_, ?_⟩
    · intro lower
      have := computeElo_draw lower
      omega
    · intro lower
      have := computeElo_draw lower
      omega
  by_cases first : winnerId = player1Id
  · simp only [newElos, if_neg none, if_pos first, Externals.exact]
    refine ⟨by omega, fun _ _ => ⟨by omega, by omega⟩, fun _ other => absurd first other,
      fun drawn => absurd drawn none⟩
  by_cases second : winnerId = player2Id
  · simp only [newElos, if_neg none, if_neg first, if_pos second, Externals.exact]
    exact ⟨by omega, fun _ other => absurd other first, fun _ _ _ => ⟨by omega, by omega⟩,
      fun drawn => absurd drawn none⟩
  · simp only [newElos, if_neg none, if_neg first, if_neg second]
    exact ⟨by omega, fun _ other => absurd other first, fun _ _ other => absurd other second,
      fun drawn => absurd drawn none⟩

def endMessage (matchId : MatchId) (winnerId : UserId) (reason : MatchEndReason)
    (reasonText : String) (totalMoves : Int) (duration : Nat) (playerId : UserId)
    (change newElo : Int) : Payload :=
  .matchEnd matchId (announcedResult winnerId playerId) winnerId reason change newElo totalMoves
    duration (reasonText.toList.take 127)

/-- Both players are told the same two changes that are stored, and these are fair. -/
theorem sendMatchEnd_fair (server : Server) (matchId : MatchId) (player1Id player2Id winnerId : UserId)
    (reason : MatchEndReason) (reasonText : String) (totalMoves : Int) (duration : Nat) :
    ∃ change1 change2,
      FairChanges player1Id player2Id winnerId (server.oldElo player1Id) (server.oldElo player2Id)
        change1 change2 ∧
      (let new1 := server.oldElo player1Id + change1
       let new2 := server.oldElo player2Id + change2
       let tell := endMessage matchId winnerId reason reasonText totalMoves duration
       let later := server.sendMatchEnd lib.exact env matchId player1Id player2Id winnerId reason
        reasonText totalMoves duration
       later = (server
          |>.announceEnd matchId winnerId reason
          |>.updateEloRating matchId player1Id new1
          |>.updateEloRating matchId player2Id new2
          |>.sendToPlayer env (stampedHeader env .matchEnd (tell player1Id change1 new1))
            (tell player1Id change1 new1) player1Id
          |>.sendToPlayer env (stampedHeader env .matchEnd (tell player2Id change2 new2))
            (tell player2Id change2 new2) player2Id) ∧
        (server.db.HasUser player1Id → server.db.HasUser player2Id → player1Id ≠ player2Id →
          later.db.rating player1Id = new1 ∧ later.db.rating player2Id = new2)) := by
  refine ⟨_, _, newElos_fair lib player1Id player2Id winnerId _ _, ?_⟩
  simp only [add_sub_cancel]
  refine ⟨rfl, ?_⟩
  intro known1 known2 different
  let new := newElos lib.exact player1Id player2Id winnerId (server.oldElo player1Id)
    (server.oldElo player2Id)
  have stored := Database.updateEloRating_twice known1 known2 new.1 new.2
  constructor
  · refine (congrFun stored player1Id).trans ?_
    rw [Function.update_of_ne different, Function.update_self]
  · refine (congrFun stored player2Id).trans ?_
    rw [Function.update_self]

end Server

end Battleship
