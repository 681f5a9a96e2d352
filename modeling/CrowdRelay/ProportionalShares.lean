import Mathlib.Algebra.BigOperators.Group.List.Lemmas
import Mathlib.Algebra.BigOperators.Ring.List
import Mathlib.Algebra.Order.BigOperators.Group.List
import Mathlib.Algebra.Order.Field.Basic
import Mathlib.Data.List.Basic

namespace ProportionalShares

/-!
# Shares in proportion to weights

An amount is shared out in proportion to weights that are not negative, and
the share of the whole that is given out is the mean of some grades between
zero and one.
-/

variable {Number : Type} [numberField : Field Number] [numberOrder : LinearOrder Number]
  [orderedField : IsStrictOrderedRing Number]

omit orderedField in
theorem sum_positive {weights : List Number} (nonnegative : ∀ weight ∈ weights, 0 ≤ weight) :
    (weights.filter fun weight => decide (0 < weight)).sum =
      weights.sum := by
  induction weights with
  | nil => rfl
  | cons weight rest inductionHypothesis =>
    have restSame := inductionHypothesis fun other member =>
        nonnegative other (List.mem_cons_of_mem _ member)
    rw [List.sum_cons, ← restSame]
    rcases lt_or_eq_of_le (nonnegative weight (List.mem_cons_self ..)) with
      positive | zero
    · rw [List.filter_cons_of_pos (by simpa using positive), List.sum_cons]
    · rw [List.filter_cons_of_neg (by simp [← zero]), ← zero, zero_add]

omit numberOrder orderedField in
/-- Shares of a total in proportion to the weights add up to the part of the
total that is shared. -/
theorem sum_shares (weights : List Number) (total : weights.sum ≠ 0) (part : Number) :
    (weights.map fun weight => weight / weights.sum * part).sum = part := by
  have factored :
      (weights.map fun weight => weight / weights.sum * part) =
        weights.map fun weight => weight * (part / weights.sum) := by
    refine List.map_congr_left ?_
    intro weight _
    rw [div_mul_eq_mul_div, mul_div_assoc]
  rw [factored, List.sum_map_mul_right, List.map_id']
  exact mul_div_cancel₀ part total

/--
When weights change by bounded factors, so do the shares: the factors of the
weight and of the total multiply.
-/
theorem share_bounds {Item : Type} {items : List Item} {weight other : Item → Number}
    {low high : Number} (lowPositive : 0 < low) (nonnegative : ∀ item ∈ items, 0 ≤ weight item)
    (bounded : ∀ item ∈ items, low * weight item ≤ other item ∧ other item ≤ high * weight item)
    {item : Item}
    (isItem : item ∈ items) :
    low / high * (weight item / (items.map weight).sum) ≤ other item / (items.map other).sum ∧
      other item / (items.map other).sum ≤ high / low * (weight item / (items.map weight).sum) := by
  have lowTotal : low * (items.map weight).sum ≤ (items.map other).sum := by
    rw [← List.sum_map_mul_left]
    exact List.sum_le_sum fun other isOther => (bounded other isOther).1
  have highTotal : (items.map other).sum ≤ high * (items.map weight).sum := by
    rw [← List.sum_map_mul_left]
    exact List.sum_le_sum fun other isOther => (bounded other isOther).2
  have ownNonnegative := nonnegative item isItem
  have ownBounded := bounded item isItem
  rcases ownNonnegative.eq_or_lt with nothing | something
  · have otherNothing : other item = 0 := by
      rw [← nothing, mul_zero, mul_zero] at ownBounded
      exact le_antisymm ownBounded.2 ownBounded.1
    simp [← nothing, otherNothing]
  · have total : 0 < (items.map weight).sum := something.trans_le
        (List.single_le_sum
          (by
            intro value isValue
            obtain ⟨one, isOne, rfl⟩ := List.mem_map.mp isValue
            exact nonnegative one isOne)
          _ (List.mem_map_of_mem isItem))
    have lowProduct : 0 < low * (items.map weight).sum := mul_pos lowPositive total
    have otherTotal : 0 < (items.map other).sum := lowProduct.trans_le lowTotal
    have otherNonnegative : 0 ≤ other item := (mul_pos lowPositive something).le.trans ownBounded.1
    constructor
    · rw [div_mul_div_comm]
      exact div_le_div₀ otherNonnegative ownBounded.1 otherTotal highTotal
    · rw [div_mul_div_comm]
      exact div_le_div₀ (otherNonnegative.trans ownBounded.2) ownBounded.2 lowProduct lowTotal

section Mean

variable {values : List Number}

/-- The mean of some numbers, zero when there are none. -/
def mean (values : List Number) : Number :=
  if values.isEmpty then 0 else values.sum / values.length

theorem sum_le_length (atMostOne : ∀ value ∈ values, value ≤ 1) : values.sum ≤ values.length := by
  induction values with
  | nil => simp
  | cons value rest inductionHypothesis =>
    have restBounded := inductionHypothesis fun other member =>
        atMostOne other (List.mem_cons_of_mem _ member)
    have here := atMostOne value (List.mem_cons_self ..)
    rw [List.sum_cons, List.length_cons, Nat.cast_succ, add_comm]
    exact add_le_add restBounded here

theorem sum_eq_length_iff (atMostOne : ∀ value ∈ values, value ≤ 1) :
    values.sum = values.length ↔ ∀ value ∈ values, value = 1 := by
  induction values with
  | nil => simp
  | cons value rest inductionHypothesis =>
    have restAtMostOne := fun other member =>
      atMostOne other (List.mem_cons_of_mem _ member)
    have restBounded := sum_le_length restAtMostOne
    have here := atMostOne value (List.mem_cons_self ..)
    rw [List.sum_cons, List.length_cons, Nat.cast_succ, List.forall_mem_cons,
      ← inductionHypothesis restAtMostOne]
    constructor
    · intro whole
      have valueIsOne : value = 1 := by
        refine le_antisymm here (le_of_not_gt fun less => ?_)
        have strict := add_lt_add_of_lt_of_le less restBounded
        rw [whole, add_comm] at strict
        exact lt_irrefl _ strict
      refine ⟨valueIsOne, ?_⟩
      rw [valueIsOne, add_comm] at whole
      exact add_right_cancel whole
    · rintro ⟨isOne, restIsLength⟩
      rw [isOne, restIsLength, add_comm]

theorem length_pos_of_not_empty (notEmpty : ¬ values.isEmpty = true) :
    (0 : Number) < values.length := by
  have counted : 0 < values.length := by
    rw [List.length_pos_iff]
    intro none
    exact notEmpty (by rw [none]; rfl)
  exact_mod_cast counted

theorem mean_nonneg (nonnegative : ∀ value ∈ values, 0 ≤ value) : 0 ≤ mean values := by
  unfold mean
  split
  case isTrue => exact le_refl 0
  case isFalse notEmpty =>
    exact div_nonneg (List.sum_nonneg nonnegative) (le_of_lt (length_pos_of_not_empty notEmpty))

theorem mean_le_one (atMostOne : ∀ value ∈ values, value ≤ 1) : mean values ≤ 1 := by
  unfold mean
  split
  case isTrue => exact zero_le_one
  case isFalse notEmpty =>
    rw [div_le_one (length_pos_of_not_empty notEmpty)]
    exact sum_le_length atMostOne

theorem mean_eq_one_iff (someValue : values ≠ []) (atMostOne : ∀ value ∈ values, value ≤ 1) :
    mean values = 1 ↔ ∀ value ∈ values, value = 1 := by
  have notEmpty : ¬ values.isEmpty = true := by
    simpa using someValue
  unfold mean
  rw [if_neg notEmpty, div_eq_one_iff_eq (ne_of_gt (length_pos_of_not_empty notEmpty)),
    sum_eq_length_iff atMostOne]

theorem mean_lt_mean_cons_one (someValue : values ≠ []) (atMostOne : ∀ value ∈ values, value ≤ 1)
    (notCertain : ¬ ∀ value ∈ values, value = 1) :
    mean values < mean (1 :: values) := by
  have notEmpty : ¬ values.isEmpty = true := by
    simpa using someValue
  have counted : (0 : Number) < values.length := length_pos_of_not_empty notEmpty
  have short : values.sum < values.length := lt_of_le_of_ne (sum_le_length atMostOne)
      fun whole => notCertain ((sum_eq_length_iff atMostOne).mp whole)
  have grownEmpty : ¬ (1 :: values).isEmpty = true := Bool.false_ne_true
  rw [mean, mean, if_neg notEmpty, if_neg grownEmpty, List.sum_cons,
    List.length_cons, Nat.cast_succ,
    div_lt_div_iff₀ counted (counted.trans (lt_add_one _)), mul_add, add_mul,
    mul_one, one_mul, add_comm]
  exact add_lt_add_left short _

end Mean

end ProportionalShares
