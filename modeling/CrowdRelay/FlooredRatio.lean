import Mathlib.Algebra.Order.Field.Rat
import Mathlib.Algebra.Order.Ring.Int
import Mathlib.Algebra.Order.Field.Basic
import Mathlib.Data.Int.Cast.Lemmas

namespace FlooredRatio

/-!
# Ratios that are rounded down

The integer quotient of two counts is their ratio rounded down.  Whether one
ratio is at most another shows in the cross products, and rounding down keeps
that, also where both numerators are capped.
-/

variable {first second : Int} {firstCount secondCount : Int}

section

variable (firstPositive : 0 < firstCount)
include firstPositive

theorem ratio_le_iff_cross (secondPositive : 0 < secondCount) :
    (first : ℚ) / firstCount ≤ second / secondCount ↔
      first * secondCount ≤ second * firstCount := by
  rw [div_le_div_iff₀ (Int.cast_pos.mpr firstPositive) (Int.cast_pos.mpr secondPositive)]
  exact_mod_cast Iff.rfl

theorem ratio_lt_iff_cross (secondPositive : 0 < secondCount) :
    (first : ℚ) / firstCount < second / secondCount ↔
      first * secondCount < second * firstCount := by
  rw [← not_le, ← not_le, ratio_le_iff_cross secondPositive firstPositive]

theorem ratio_eq_iff_cross (secondPositive : 0 < secondCount) :
    (first : ℚ) / firstCount = second / secondCount ↔
      first * secondCount = second * firstCount := by
  rw [le_antisymm_iff, le_antisymm_iff, ratio_le_iff_cross firstPositive secondPositive,
    ratio_le_iff_cross secondPositive firstPositive]

theorem ediv_le_ediv_of_cross (secondPositive : 0 < secondCount)
    (cross : first * secondCount ≤ second * firstCount) :
    first / firstCount ≤ second / secondCount := by
  rw [Int.le_ediv_iff_mul_le secondPositive]
  have below : first / firstCount * firstCount ≤ first := Int.ediv_mul_le first firstPositive.ne'
  have scaled : first / firstCount * firstCount * secondCount ≤ first * secondCount :=
    mul_le_mul_of_nonneg_right below secondPositive.le
  have chained : first / firstCount * secondCount * firstCount ≤ second * firstCount := by
    rw [mul_right_comm]
    exact scaled.trans cross
  exact le_of_mul_le_mul_right chained firstPositive

theorem ediv_eq_ediv_of_cross (secondPositive : 0 < secondCount)
    (cross : first * secondCount = second * firstCount) :
    first / firstCount = second / secondCount :=
  le_antisymm (ediv_le_ediv_of_cross firstPositive secondPositive cross.le)
    (ediv_le_ediv_of_cross secondPositive firstPositive cross.ge)

end

theorem capped_cross (secondPositive : 0 < secondCount)
    (smaller : secondCount ≤ firstCount) {cap : Int} (capNonnegative : 0 ≤ cap)
    (cross : first * secondCount ≤ second * firstCount) :
    min cap first * secondCount ≤ min cap second * firstCount := by
  rcases le_total cap second with capped | exact
  · rw [min_eq_left capped]
    exact (mul_le_mul_of_nonneg_right (min_le_left cap first) secondPositive.le).trans
        (mul_le_mul_of_nonneg_left smaller capNonnegative)
  · rw [min_eq_right exact]
    exact (mul_le_mul_of_nonneg_right (min_le_right cap first) secondPositive.le).trans cross

theorem ediv_le_ratio (positive : 0 < firstCount) :
    ((first / firstCount : Int) : ℚ) ≤ (first : ℚ) / firstCount := by
  rw [le_div_iff₀ (Int.cast_pos.mpr positive)]
  exact_mod_cast Int.ediv_mul_le first positive.ne'

theorem ratio_lt_ediv_add_one (positive : 0 < firstCount) :
    (first : ℚ) / firstCount < ((first / firstCount : Int) : ℚ) + 1 := by
  rw [div_lt_iff₀ (Int.cast_pos.mpr positive)]
  exact_mod_cast Int.lt_ediv_add_one_mul_self first positive

end FlooredRatio
