import Mathlib.Data.List.Sort
import Mathlib.Order.Lattice

namespace RankedPrefix

/-!
# The first places of a ranking

Items are ranked by a key.  Whether an item is among the first places of the
ranking depends only on its standing, the number of items with a smaller key,
so it does not depend on the order the items came in, and an item whose key
gets smaller never loses its place.
-/

variable {Item Key : Type} [keyOrder : LinearOrder Key] (key : Item → Key)

/-- The items in the order of their keys, no two of which are equal. -/
def Ranked (items : List Item) : Prop := items.Pairwise fun one other => key one < key other

/-- How many items have a smaller key. -/
def standing (items : List Item) (item : Item) : Nat :=
  items.countP fun other => decide (key other < key item)

section Ranking

variable {key}

theorem standing_perm {items others : List Item} (same : items.Perm others) (item : Item) :
    standing key items item = standing key others item :=
  same.countP_eq _

theorem Ranked.sublist {items others : List Item} (ranked : Ranked key items)
    (part : others.Sublist items) :
    Ranked key others :=
  List.Pairwise.sublist part ranked

theorem Ranked.of_sorted {items : List Item}
    (sorted : items.Pairwise fun one other => key one ≤ key other)
    (different : (items.map key).Nodup) :
    Ranked key items := by
  have apart : items.Pairwise fun one other => key one ≠ key other := List.pairwise_map.mp different
  refine (sorted.and apart).imp ?_
  rintro one other ⟨ordered, unequal⟩
  exact lt_of_le_of_ne ordered unequal

theorem ranked_insertionSort {before : Item → Item → Prop} [DecidableRel before]
    (byKey : ∀ left right, before left right ↔ key left ≤ key right) {items : List Item}
    (different : (items.map key).Nodup) :
    Ranked key (items.insertionSort before) := by
  have total : Std.Total before := by
    refine ⟨fun left right => ?_⟩
    rw [byKey, byKey]
    exact le_total (key left) (key right)
  have transitive : IsTrans Item before := by
    refine ⟨fun left middle right first second => ?_⟩
    rw [byKey] at first second ⊢
    exact le_trans first second
  have sorted :
      (items.insertionSort before).Pairwise fun left right =>
        key left ≤ key right := by
    refine (List.pairwise_insertionSort before items).imp ?_
    intro left right ordered
    exact (byKey left right).mp ordered
  have sameKeys := (List.perm_insertionSort before items).map key
  exact Ranked.of_sorted sorted (sameKeys.nodup_iff.mpr different)

theorem Ranked.eq_of_perm {items others : List Item} (same : items.Perm others)
    (ranked : Ranked key items) (otherRanked : Ranked key others) :
    items = others := by
  refine List.Perm.eq_of_pairwise ?_ ranked otherRanked same
  intro one other _ _ before after
  exact (lt_asymm before after).elim

/-- The first places go to the items of a small standing. -/
theorem Ranked.mem_take_iff {items : List Item} (ranked : Ranked key items) (places : Nat)
    (item : Item) :
    item ∈ items.take places ↔ item ∈ items ∧ standing key items item < places := by
  induction items generalizing places with
  | nil => simp
  | cons first rest inductionHypothesis =>
    obtain ⟨firstBefore, restRanked⟩ := List.pairwise_cons.mp ranked
    cases places with
    | zero => simp
    | succ places =>
      rw [List.take_succ_cons, List.mem_cons, List.mem_cons, inductionHypothesis restRanked]
      by_cases isFirst : item = first
      · subst isFirst
        -- nothing stands before the first item
        have alone : standing key (item :: rest) item = 0 := by
          unfold standing
          rw [List.countP_eq_zero]
          intro other member smaller
          have less := of_decide_eq_true smaller
          rcases List.mem_cons.mp member with same | later
          · exact lt_irrefl _ (same ▸ less)
          · exact lt_asymm less (firstBefore other later)
        simp [alone]
      · have counted (later : item ∈ rest) :
            standing key (first :: rest) item = standing key rest item + 1 := by
          unfold standing
          rw [List.countP_cons_of_pos (by simpa using firstBefore item later)]
        constructor
        · rintro (same | ⟨later, placed⟩)
          · exact (isFirst same).elim
          · exact ⟨Or.inr later, by rw [counted later]; omega⟩
        · rintro ⟨same | later, placed⟩
          · exact (isFirst same).elim
          · rw [counted later] at placed
            exact Or.inr ⟨later, by omega⟩

theorem standing_le_of_earlier {item raised : Item} (earlier : key raised ≤ key item)
    (before after : List Item) :
    standing key (before ++ raised :: after) raised ≤
      standing key (before ++ item :: after) item := by
  have grows (others : List Item) : standing key others raised ≤ standing key others item := by
    refine List.countP_mono_left ?_
    intro other _ smaller
    exact decide_eq_true (lt_of_lt_of_le (of_decide_eq_true smaller) earlier)
  have beforeGrows := grows before
  have afterGrows := grows after
  unfold standing at beforeGrows afterGrows ⊢
  simp only [List.countP_append, List.countP_cons, lt_irrefl,
    decide_false, Bool.false_eq_true, if_false, Nat.add_zero]
  omega

/-- In a ranking of its own, an item whose key gets no larger keeps a place
among the first ones. -/
theorem mem_take_of_earlier {item raised : Item}
    {before after ranking raisedRanking : List Item} (earlier : key raised ≤ key item)
    (ranked : Ranked key ranking) (same : ranking.Perm (before ++ item :: after))
    (raisedRanked : Ranked key raisedRanking)
    (raisedSame : raisedRanking.Perm (before ++ raised :: after)) {places : Nat}
    (placed : item ∈ ranking.take places) :
    raised ∈ raisedRanking.take places := by
  have standing := ((ranked.mem_take_iff places item).mp placed).2
  refine (raisedRanked.mem_take_iff places raised).mpr ⟨?_, ?_⟩
  · exact raisedSame.mem_iff.mpr (by simp)
  · rw [standing_perm same] at standing
    rw [standing_perm raisedSame]
    exact lt_of_le_of_lt (standing_le_of_earlier earlier before after) standing

end Ranking

end RankedPrefix
