import Mathlib.Data.List.Nodup

namespace FirstWaiting

/-!
# A list worked off in its order

Of a list the first entry that still waits is taken, and then no longer waits.
Working so through the list takes the waiting entries in their order.
-/

variable {Entry : Type} {entries : List Entry}

theorem find?_eq_some_of_imp {weak strong : Entry → Bool}
    (implies : ∀ entry, strong entry = true → weak entry = true) {entry : Entry}
    (found : entries.find? weak = some entry) (meets : strong entry = true) :
    entries.find? strong = some entry := by
  obtain ⟨_, before, after, isList, earlier⟩ := List.find?_eq_some_iff_append.mp found
  refine List.find?_eq_some_iff_append.mpr ⟨meets, before, after, isList, fun other isEarlier => ?_⟩
  have unmet := earlier other isEarlier
  rw [Bool.not_eq_true'] at unmet ⊢
  refine Bool.eq_false_iff.mpr fun strongOther => ?_
  rw [implies other strongOther] at unmet
  cases unmet

variable [DecidableEq Entry]

theorem filter_eq_cons {waits : Entry → Bool} (distinct : entries.Nodup) {first : Entry}
    (found : entries.find? waits = some first) :
    entries.filter waits = first :: entries.filter fun entry => waits entry && entry ≠ first := by
  have isHead : (entries.filter waits).head? = some first := by
    rw [List.head?_filter, found]
  obtain ⟨rest, shape⟩ := List.head?_eq_some_iff.mp isHead
  have notAgain : first ∉ rest := by
    have distinctWaiting := distinct.filter waits
    rw [shape] at distinctWaiting
    exact (List.nodup_cons.mp distinctWaiting).1
  have behind : (entries.filter fun entry => waits entry && entry ≠ first) = rest := by
    have inTurn :
        (entries.filter fun entry => waits entry && entry ≠ first) =
          (entries.filter waits).filter (· ≠ first) := by
      rw [List.filter_filter]
      exact List.filter_congr fun entry _ => Bool.and_comm _ _
    rw [inTurn, shape, List.filter_cons_of_neg (by simp)]
    exact List.filter_eq_self.mpr fun entry isThere => by
      rw [decide_eq_true_eq]
      rintro rfl
      exact notAgain isThere
  rw [behind, shape]

end FirstWaiting
