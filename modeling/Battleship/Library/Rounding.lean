import Mathlib.Algebra.Order.Round
import Mathlib.Tactic.Linarith
import Mathlib.Tactic.Ring

/-! Rounding to the nearest integer, halves away from zero, as the standard mathematics
library does it. Off the halves it is the rounding of Mathlib, and only there do two
numbers with an integer sum keep it when each of them is rounded. -/

namespace Rounding

variable {K : Type*} [Field K] [LinearOrder K] [IsStrictOrderedRing K] [FloorRing K]

/-- `std::round`. -/
def roundAway (x : K) : ℤ := if 0 ≤ x then ⌊x + 1 / 2⌋ else ⌈x - 1 / 2⌉

def Halfway (x : K) : Prop := ∃ n : ℤ, x = n + 1 / 2

theorem roundAway_intCast (n : ℤ) : roundAway (n : K) = n := by
  unfold roundAway
  split
  · rw [Int.floor_eq_iff]
    constructor <;> linarith
  · rw [Int.ceil_eq_iff]
    constructor <;> linarith

theorem roundAway_mono {x y : K} (le : x ≤ y) : roundAway x ≤ roundAway y := by
  unfold roundAway
  split
  next left =>
    rw [if_pos (left.trans le)]
    exact Int.floor_mono (by linarith)
  next left =>
    split
    next right =>
      have below : ⌈x - 1 / 2⌉ ≤ 0 := Int.ceil_le.mpr (by push_cast; linarith)
      exact below.trans (Int.floor_nonneg.mpr (by linarith))
    next => exact Int.ceil_mono (by linarith)

theorem roundAway_mem {x : K} {low high : ℤ} (above : (low : K) ≤ x) (below : x ≤ high) :
    low ≤ roundAway x ∧ roundAway x ≤ high := by
  constructor
  · rw [← roundAway_intCast (K := K) low]
    exact roundAway_mono above
  · rw [← roundAway_intCast (K := K) high]
    exact roundAway_mono below

theorem ceil_sub_half {x : K} (off : ¬Halfway x) : ⌈x - 1 / 2⌉ = round x := by
  have lower := Int.floor_le (x + 1 / 2)
  have upper := Int.lt_floor_add_one (x + 1 / 2)
  have strict : (⌊x + 1 / 2⌋ : K) ≠ x + 1 / 2 := by
    intro same
    refine off ⟨⌊x + 1 / 2⌋ - 1, ?_⟩
    push_cast
    linarith
  have below := lt_of_le_of_ne lower strict
  rw [round_eq, Int.ceil_eq_iff]
  constructor <;> linarith

theorem roundAway_eq_round {x : K} (off : ¬Halfway x) : roundAway x = round x := by
  unfold roundAway
  split
  · exact (round_eq x).symm
  · exact ceil_sub_half off

theorem round_neg {x : K} (off : ¬Halfway x) : round (-x) = -round x := by
  have flip : -x + 1 / 2 = -(x - 1 / 2) := by ring
  rw [round_eq, flip, Int.floor_neg, ceil_sub_half off]

theorem halfway_intCast_add {x : K} (n : ℤ) : Halfway (n + x) ↔ Halfway x := by
  constructor
  · rintro ⟨m, same⟩
    refine ⟨m - n, ?_⟩
    push_cast
    linarith
  · rintro ⟨m, same⟩
    refine ⟨n + m, ?_⟩
    push_cast
    linarith

theorem halfway_neg {x : K} : Halfway (-x) ↔ Halfway x := by
  constructor
  · rintro ⟨m, same⟩
    refine ⟨-m - 1, ?_⟩
    push_cast
    linarith
  · rintro ⟨m, same⟩
    refine ⟨-m - 1, ?_⟩
    push_cast
    linarith

/-- What one of two numbers gains and the other loses is kept when both are rounded. -/
theorem roundAway_exchange {x : K} (off : ¬Halfway x) (m n : ℤ) :
    roundAway ((m : K) + x) + roundAway ((n : K) - x) = m + n := by
  have gains : roundAway ((m : K) + x) = m + round x := by
    rw [roundAway_eq_round fun half => off ((halfway_intCast_add m).mp half), round_intCast_add]
  have loses : roundAway ((n : K) - x) = n - round x := by
    have opposite : ¬Halfway ((n : K) + -x) :=
      fun half => off (halfway_neg.mp ((halfway_intCast_add n).mp half))
    rw [sub_eq_add_neg, roundAway_eq_round opposite, round_intCast_add, round_neg off,
      ← sub_eq_add_neg]
  rw [gains, loses]
  omega

end Rounding
