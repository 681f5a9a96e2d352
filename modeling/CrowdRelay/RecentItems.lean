import Mathlib.Data.List.Induction
import Mathlib.Order.MinMax

namespace RecentItems

/-!
# A buffer that keeps the most recent items

A full buffer drops its oldest item before it takes a new one, so it always
holds the end of everything it was given.
-/

variable {Item : Type}

/-- A buffer of some capacity with one more item at its end. -/
def push (capacity : Nat) (buffer : List Item) (item : Item) : List Item :=
  (if capacity ≤ buffer.length then buffer.drop 1 else buffer) ++ [item]

/-- The items at the end of a list, as many as the capacity allows. -/
def mostRecent (capacity : Nat) (items : List Item) : List Item :=
  items.drop (items.length - capacity)

theorem length_mostRecent (capacity : Nat) (items : List Item) :
    (mostRecent capacity items).length = min items.length capacity := by
  rw [mostRecent, List.length_drop]
  omega

variable {capacity : Nat}

theorem mostRecent_of_length_le {items : List Item} (fits : items.length ≤ capacity) :
    mostRecent capacity items = items := by
  rw [mostRecent, Nat.sub_eq_zero_of_le fits, List.drop_zero]

theorem push_mostRecent (positive : 0 < capacity) (items : List Item) (item : Item) :
    push capacity (mostRecent capacity items) item = mostRecent capacity (items ++ [item]) := by
  rw [push, length_mostRecent]
  by_cases full : capacity ≤ items.length
  · have oneMore : items.length + 1 - capacity = items.length - capacity + 1 :=
      Nat.sub_add_comm full
    rw [if_pos (le_min full le_rfl), mostRecent, mostRecent, List.drop_drop,
      List.length_append, List.length_singleton, oneMore,
      List.drop_append_of_le_length (by omega)]
  · have room := not_le.mp full
    have notFull : ¬ capacity ≤ min items.length capacity := by
      rw [min_eq_left (le_of_lt room)]
      exact full
    rw [if_neg notFull, mostRecent_of_length_le (le_of_lt room), mostRecent_of_length_le]
    rw [List.length_append, List.length_singleton]
    exact room

theorem foldl_push (positive : 0 < capacity) (items : List Item) :
    items.foldl (push capacity) [] = mostRecent capacity items := by
  induction items using List.reverseRecOn with
  | nil =>
    rw [mostRecent_of_length_le (Nat.zero_le _)]
    rfl
  | append_singleton items item inductionHypothesis =>
    rw [List.foldl_append, inductionHypothesis]
    exact push_mostRecent positive items item

end RecentItems
