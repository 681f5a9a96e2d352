import Mathlib.Data.List.Infix

namespace Streak

/-!
# The run of equal items a history ends in

A counter that is raised by one kind of item and reset by every other kind
counts the length of the run the history ends in.  Comparing it with a
threshold is asking whether the last so many items were all of that kind.
-/

variable {Item : Type} [DecidableEq Item]

/-- One more item of the marked kind, or the end of the run. -/
def extend (mark : Item) (run : Nat) (item : Item) : Nat := if item = mark then run + 1 else 0

/-- The length of the run of marked items a history ends in. -/
def trailing (mark : Item) (history : List Item) : Nat := history.foldl (extend mark) 0

@[simp] theorem trailing_nil (mark : Item) : trailing mark [] = 0 := rfl

variable (mark : Item)

theorem trailing_concat (history : List Item) (item : Item) :
    trailing mark (history ++ [item]) = if item = mark then trailing mark history + 1 else 0 := by
  rw [trailing, List.foldl_append]
  rfl

/-- The last `count` items are all marked exactly when the run is that long. -/
theorem replicate_suffix_iff (count : Nat) (history : List Item) :
    List.replicate count mark <:+ history ↔ count ≤ trailing mark history := by
  induction history using List.reverseRecOn generalizing count with
  | nil =>
    cases count with
    | zero => simp
    | succ fewer => simp [List.replicate_succ]
  | append_singleton earlier item inductionHypothesis =>
    rw [trailing_concat]
    cases count with
    | zero => simp
    | succ fewer =>
      rw [List.replicate_succ', List.suffix_concat_iff]
      by_cases marked : item = mark
      · subst marked
        rw [if_pos rfl, Nat.add_le_add_iff_right, ← inductionHypothesis fewer]
        simp
      · rw [if_neg marked]
        constructor
        · rintro (isEmpty | ⟨rest, shape, -⟩)
          · simp at isEmpty
          · have sameLast := List.append_inj_right' shape rfl
            exact absurd (List.singleton_inj.mp sameLast).symm marked
        · intro impossible
          omega

end Streak
