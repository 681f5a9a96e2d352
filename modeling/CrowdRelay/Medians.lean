import Mathlib.Algebra.Ring.Parity
import Mathlib.Data.List.Sort

namespace Medians

/-!
# Medians

The middle of a list in its order, or what two middle values average to.  How
two values are averaged is left open.
-/

section Middle

variable {Value : Type} (average : Value → Value → Value) (lower upper : List Value)

def middle (sorted : List Value) : Option Value :=
  if sorted.length % 2 = 1 then
    sorted[sorted.length / 2]?
  else
    sorted[sorted.length / 2 - 1]?.bind fun lower =>
      sorted[sorted.length / 2]?.map fun upper => average lower upper

variable {average}

theorem middle_odd (value : Value) (balanced : lower.length = upper.length) :
    middle average (lower ++ value :: upper) = some value := by
  have length : (lower ++ value :: upper).length = 2 * lower.length + 1 := by
    rw [List.length_append, List.length_cons, ← balanced]
    omega
  rw [middle, length, if_pos (by omega), show (2 * lower.length + 1) / 2 = lower.length by omega]
  simp

theorem middle_even (left right : Value) (balanced : lower.length = upper.length) :
    middle average (lower ++ left :: right :: upper) = some (average left right) := by
  have length : (lower ++ left :: right :: upper).length = 2 * (lower.length + 1) := by
    rw [List.length_append, List.length_cons, List.length_cons, ← balanced]
    omega
  rw [middle, length, if_neg (by omega),
    show 2 * (lower.length + 1) / 2 = lower.length + 1 by omega,
    Nat.add_sub_cancel]
  simp

/-- A list that is not empty has a middle, of one value or of two. -/
theorem exists_middle {sorted : List Value} (hasOne : sorted ≠ []) :
    (∃ lower value upper, sorted = lower ++ value :: upper ∧ lower.length = upper.length) ∨
    ∃ lower left right upper,
      sorted = lower ++ left :: right :: upper ∧ lower.length = upper.length := by
  have positive := List.length_pos_iff.mpr hasOne
  obtain ⟨half, isEven | isOdd⟩ := Nat.even_or_odd' sorted.length
  · right
    have front : (sorted.take (half - 1)).length = half - 1 := by
      rw [List.length_take]
      omega
    have behind : (sorted.drop (half - 1)).length = half + 1 := by
      rw [List.length_drop]
      omega
    have whole := List.take_append_drop (half - 1) sorted
    match rest : sorted.drop (half - 1), behind with
    | left :: right :: upper, behind =>
      rw [rest] at whole
      refine ⟨sorted.take (half - 1), left, right, upper, whole.symm, ?_⟩
      rw [front]
      simp only [List.length_cons] at behind
      omega
    | [_], behind =>
      simp only [List.length_singleton] at behind
      omega
  · left
    have front : (sorted.take half).length = half := by
      rw [List.length_take]
      omega
    have behind : (sorted.drop half).length = half + 1 := by
      rw [List.length_drop]
      omega
    have whole := List.take_append_drop half sorted
    match rest : sorted.drop half, behind with
    | value :: upper, behind =>
      rw [rest] at whole
      refine ⟨sorted.take half, value, upper, whole.symm, ?_⟩
      rw [front]
      simp only [List.length_cons] at behind
      omega

end Middle

variable {Value : Type} [LinearOrder Value] (average : Value → Value → Value)

def median (values : List Value) : Option Value := middle average (values.insertionSort (· ≤ ·))

/-- A value stands in the middle of the values put in order. -/
inductive IsMedian (values : List Value) (value : Value) : Prop where
  | odd
      (lower upper : List Value)
      (inOrder : (lower ++ value :: upper).Pairwise (· ≤ ·))
      (isValues : (lower ++ value :: upper).Perm values)
      (balanced : lower.length = upper.length)
  | even
      (lower upper : List Value)
      (left right : Value)
      (inOrder : (lower ++ left :: right :: upper).Pairwise (· ≤ ·))
      (isValues : (lower ++ left :: right :: upper).Perm values)
      (balanced : lower.length = upper.length)
      (isAverage : value = average left right)

variable {average}

theorem insertionSort_eq_of_perm {values others : List Value} (same : values.Perm others) :
    values.insertionSort (· ≤ ·) = others.insertionSort (· ≤ ·) :=
  (((List.perm_insertionSort _ values).trans same).trans
    (List.perm_insertionSort _ others).symm).eq_of_pairwise'
    (List.pairwise_insertionSort _ values)
    (List.pairwise_insertionSort _ others)

theorem median_eq_of_perm {values others : List Value} (same : values.Perm others) :
    median average values = median average others := by
  rw [median, median, insertionSort_eq_of_perm same]

variable (average) in
theorem exists_median {values : List Value} (hasOne : values ≠ []) :
    ∃ value, median average values = some value := by
  have sortedHasOne : values.insertionSort (· ≤ ·) ≠ [] := by
    intro nothing
    have isValues := List.perm_insertionSort (· ≤ ·) values
    rw [nothing] at isValues
    exact hasOne isValues.symm.eq_nil
  obtain ⟨lower, value, upper, shape, balanced⟩ |
      ⟨lower, left, right, upper, shape, balanced⟩ := exists_middle sortedHasOne
  · exact ⟨value, by rw [median, shape, middle_odd lower upper value balanced]⟩
  · exact ⟨average left right, by
      rw [median, shape, middle_even lower upper left right balanced]⟩

theorem median_eq_some_iff {values : List Value} {value : Value} :
    median average values = some value ↔ IsMedian average values value := by
  constructor
  · intro isMiddle
    have inOrder := List.pairwise_insertionSort (· ≤ ·) values
    have isValues := List.perm_insertionSort (· ≤ ·) values
    rw [median] at isMiddle
    generalize values.insertionSort (· ≤ ·) = sorted at *
    have hasOne : sorted ≠ [] := by
      rintro rfl
      cases isMiddle
    obtain ⟨lower, middleValue, upper, rfl, balanced⟩ |
        ⟨lower, left, right, upper, rfl, balanced⟩ := exists_middle hasOne
    · rw [middle_odd lower upper middleValue balanced] at isMiddle
      cases isMiddle
      exact IsMedian.odd lower upper inOrder isValues balanced
    · rw [middle_even lower upper left right balanced] at isMiddle
      cases isMiddle
      exact IsMedian.even lower upper left right inOrder isValues balanced rfl
  · rintro (⟨lower, upper, inOrder, isValues, balanced⟩ |
      ⟨lower, upper, left, right, inOrder, isValues, balanced, rfl⟩)
    · rw [← median_eq_of_perm isValues, median, inOrder.insertionSort_eq,
        middle_odd lower upper value balanced]
    · rw [← median_eq_of_perm isValues, median, inOrder.insertionSort_eq,
        middle_even lower upper left right balanced]

theorem median_map {Image : Type} [LinearOrder Image]
    {imageAverage : Image → Image → Image} {carry : Value → Image}
    (keepsOrder : ∀ one other, one ≤ other ↔ carry one ≤ carry other)
    (keepsAverage : ∀ one other, imageAverage (carry one) (carry other) = carry (average one other))
    (values : List Value) :
    median imageAverage (values.map carry) = (median average values).map carry := by
  have sorted :
      (values.map carry).insertionSort (· ≤ ·) = (values.insertionSort (· ≤ ·)).map carry :=
    (List.map_insertionSort _ _ carry values fun one _ other _ => keepsOrder one other).symm
  rw [median, median, sorted, middle, middle, List.length_map]
  split
  · rw [List.getElem?_map]
  · rw [List.getElem?_map, List.getElem?_map]
    cases (values.insertionSort (· ≤ ·))[(values.insertionSort (· ≤ ·)).length / 2 - 1]? with
    | none => rfl
    | some lower =>
      cases (values.insertionSort (· ≤ ·))[(values.insertionSort (· ≤ ·)).length / 2]? with
      | none => rfl
      | some upper => exact congrArg some (keepsAverage lower upper)

end Medians
