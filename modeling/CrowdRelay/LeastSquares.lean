import Mathlib.Algebra.BigOperators.Ring.List
import Mathlib.Algebra.Order.Field.Basic
import Mathlib.Tactic.FieldSimp
import Mathlib.Tactic.Ring

namespace LeastSquares

/-!
# A line through observations

The moments of a list of items are computed in one pass, from sums of products,
or in two passes, from sums of products of what is left of the means.  Both
give the same.
-/

variable {Number : Type} [Field Number] [LinearOrder Number] [IsStrictOrderedRing Number]
  {Item : Type}

def total (measure : Item → Number) (items : List Item) : Number := (items.map measure).sum

def mean (measure : Item → Number) (items : List Item) : Number :=
  total measure items / items.length

/-- The mean of the products of what is left of the means, in two passes. -/
def covariance (first second : Item → Number) (items : List Item) : Number :=
  mean
    (fun item =>
      (first item - mean first items) * (second item - mean second items))
    items

section Totals

variable (measure : Item → Number)

omit [LinearOrder Number] [IsStrictOrderedRing Number]

@[simp] theorem total_nil (measure : Item → Number) : total measure [] = 0 := rfl

@[simp] theorem total_cons (item : Item) (rest : List Item) :
    total measure (item :: rest) = measure item + total measure rest :=
  List.sum_cons

theorem total_concat (items : List Item) (item : Item) :
    total measure (items ++ [item]) = total measure items + measure item := by
  rw [total, List.map_append, List.sum_append, List.map_singleton, List.sum_singleton]
  rfl

theorem total_sub_mul_sub (first second : Item → Number) (left right : Number) (items : List Item) :
    total (fun item => (first item - left) * (second item - right)) items =
      total (fun item => first item * second item) items -
          left * total second items - right * total first items +
        left * right * items.length := by
  induction items with
  | nil => simp
  | cons item rest inductionHypothesis =>
    rw [total_cons, inductionHypothesis, total_cons, total_cons, total_cons,
      List.length_cons, Nat.cast_succ]
    ring

end Totals

theorem length_ne_zero {items : List Item} (someItem : items ≠ []) : (items.length : Number) ≠ 0 :=
  Nat.cast_ne_zero.mpr (List.length_pos_iff.mpr someItem).ne'

theorem mean_concat (measure : Item → Number) (items : List Item) (item : Item) :
    mean measure (items ++ [item]) = mean measure items *
          (1 - 1 / ((items.length + 1 : Nat) : Number)) +
        measure item * (1 / ((items.length + 1 : Nat) : Number)) := by
  have grown : ((items.length + 1 : Nat) : Number) ≠ 0 :=
    Nat.cast_ne_zero.mpr items.length.succ_ne_zero
  rw [mean, mean, total_concat, List.length_append, List.length_singleton]
  by_cases someItem : items = []
  · subst someItem
    simp
  · have counted := @length_ne_zero Number _ _ _ _ _ someItem
    rw [Nat.cast_succ] at grown ⊢
    field_simp
    ring

theorem covariance_eq (first second : Item → Number) {items : List Item} (someItem : items ≠ []) :
    covariance first second items =
      mean (fun item => first item * second item) items - mean first items * mean second items := by
  have counted := @length_ne_zero Number _ _ _ _ _ someItem
  rw [covariance, mean, total_sub_mul_sub]
  simp only [mean]
  field_simp
  ring

end LeastSquares
