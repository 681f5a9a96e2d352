import Mathlib.Analysis.Real.Sqrt

namespace NormalScore

/-!
# Distances in standard deviations

A score is a distance together with the square of the deviation it is measured
in, both rational.  Its value is real, and two scores compare as the signed
squares of their values do, which are rational again.
-/

structure Score where
  distance : ℚ
  square : ℚ
  deriving DecidableEq

def signedSquare {Scalar : Type*} [Ring Scalar] [Lattice Scalar]
    (value : Scalar) : Scalar :=
  value * |value|

theorem strictMono_signedSquare : StrictMono (signedSquare : ℝ → ℝ) := by
  intro first second less
  unfold signedSquare
  rcases le_or_gt 0 first with nonnegative | negative
  · rw [abs_of_nonneg nonnegative, abs_of_pos (nonnegative.trans_lt less)]
    exact mul_self_lt_mul_self nonnegative less
  · rw [abs_of_neg negative]
    rcases le_or_gt 0 second with above | below
    · rw [abs_of_nonneg above]
      have product := mul_pos_of_neg_of_neg negative negative
      have square := mul_self_nonneg second
      rw [mul_neg]
      exact (neg_neg_of_pos product).trans_le square
    · have reversed := mul_self_lt_mul_self (neg_nonneg.mpr below.le) (neg_lt_neg less)
      rw [neg_mul_neg, neg_mul_neg] at reversed
      rw [abs_of_neg below, mul_neg, mul_neg]
      exact neg_lt_neg reversed

namespace Score

noncomputable def value (score : Score) : ℝ := score.distance / Real.sqrt score.square

variable {first second : Score}

theorem signedSquare_value (positive : 0 < first.square) :
    signedSquare first.value = ((signedSquare first.distance / first.square : ℚ) : ℝ) := by
  have square : (0 : ℝ) < first.square := Rat.cast_pos.mpr positive
  unfold signedSquare value
  rw [abs_div, abs_of_nonneg (Real.sqrt_nonneg _), div_mul_div_comm, Real.mul_self_sqrt square.le]
  push_cast
  rfl

/-- Scores compare as the signed squares of their distances do, each times
the other's square. -/
theorem value_lt_iff (firstPositive : 0 < first.square) (secondPositive : 0 < second.square) :
    first.value < second.value ↔
      signedSquare first.distance * second.square <
        signedSquare second.distance * first.square := by
  rw [← strictMono_signedSquare.lt_iff_lt, signedSquare_value firstPositive,
    signedSquare_value secondPositive, Rat.cast_lt,
    div_lt_div_iff₀ firstPositive secondPositive]

theorem value_eq_iff (firstPositive : 0 < first.square) (secondPositive : 0 < second.square) :
    first.value = second.value ↔
      signedSquare first.distance * second.square =
        signedSquare second.distance * first.square := by
  rw [← strictMono_signedSquare.injective.eq_iff,
    signedSquare_value firstPositive, signedSquare_value secondPositive,
    Rat.cast_inj, div_eq_div_iff firstPositive.ne' secondPositive.ne']

/-- The probability that a normal quantity lies above a threshold, by the
score of the threshold. -/
noncomputable def probabilityAbove
    (cdf : ℝ → ℝ)
    (score : Score) : ℝ :=
  1 - cdf score.value

variable {cdf : ℝ → ℝ}

theorem probabilityAbove_eq_iff (increasing : StrictMono cdf)
    (firstPositive : 0 < first.square) (secondPositive : 0 < second.square) :
    first.probabilityAbove cdf = second.probabilityAbove cdf ↔
      signedSquare first.distance * second.square =
        signedSquare second.distance * first.square := by
  unfold probabilityAbove
  rw [sub_right_inj, increasing.injective.eq_iff, value_eq_iff firstPositive secondPositive]

theorem value_max (distance : ℚ) (square : ℚ) {least : ℚ} (nonnegative : 0 ≤ least) :
    (Score.mk distance (max square (least * least))).value =
      distance / max (Real.sqrt square) least := by
  unfold value
  have root : Real.sqrt ((least * least : ℚ) : ℝ) = least := by
    rw [Rat.cast_mul]
    exact Real.sqrt_mul_self (Rat.cast_nonneg.mpr nonnegative)
  rw [Rat.cast_max, Real.sqrt_monotone.map_max, root]

end Score

end NormalScore
