import Mathlib.Order.Lattice
import CrowdRelay.StampOrder

namespace StableRanking

/-!
# Descending ranks and ties

A stable sort by descending value leaves items of one value in the order they
arrived in.  So the ranking forgets that order while no two different items
have the same value, and two items of one value bring it back.
-/

variable {Item Value : Type} [LinearOrder Value]

/-- The items by descending value, equals in their order of arrival. -/
def descending (value : Item → Value) (items : List Item) : List Item :=
  items.insertionSort fun one other => value other ≤ value one

/-- No two different items have the same value. -/
def Untied (value : Item → Value) (items : List Item) : Prop :=
  ∀ one ∈ items, ∀ other ∈ items, value one = value other → one = other

section Sorted

variable {value : Item → Value}

theorem below_total (value : Item → Value) :
    Std.Total fun one other : Item => value other ≤ value one :=
  ⟨fun one other => le_total (value other) (value one)⟩

theorem below_trans (value : Item → Value) :
    IsTrans Item fun one other => value other ≤ value one :=
  ⟨fun _ _ _ first second => second.trans first⟩

theorem descending_perm (value : Item → Value) (items : List Item) :
    (descending value items).Perm items :=
  List.perm_insertionSort _ items

theorem descending_pairwise (value : Item → Value) (items : List Item) :
    (descending value items).Pairwise fun one other =>
      value other ≤ value one := by
  have isTotal := below_total value
  have isTrans := below_trans value
  exact List.pairwise_insertionSort _ items

theorem descending_eq_of_perm {items others : List Item} (untied : Untied value items)
    (same : items.Perm others) :
    descending value items = descending value others := by
  refine List.Perm.eq_of_pairwise ?_ (descending_pairwise value items)
    (descending_pairwise value others)
    ((descending_perm value items).trans (same.trans (descending_perm value others).symm))
  intro one other oneIn otherIn below above
  have oneMember := (descending_perm value items).mem_iff.mp oneIn
  have otherMember := same.mem_iff.mpr ((descending_perm value others).mem_iff.mp otherIn)
  exact untied one oneMember other otherMember (le_antisymm above below)

theorem filter_descending (items : List Item) (rank : Value) :
    (descending value items).filter (fun item => value item = rank) =
      items.filter fun item => value item = rank :=
  Watermark.filter_inStampOrder
    (fun item => OrderDual.toDual (value item)) items (OrderDual.toDual rank)

theorem descending_descending (items : List Item) :
    descending value (descending value items) = descending value items := by
  have isTotal := below_total value
  have isTrans := below_trans value
  exact (descending_pairwise value items).insertionSort_eq

end Sorted

section Ties

variable {value : Item → Value} {one other : Item} {rest : List Item} {items : List Item}

omit [LinearOrder Value] in
theorem not_both_orders {items : List Item} (distinct : items.Nodup)
    (oneFirst : [one, other].Sublist items)
    (otherFirst : [other, one].Sublist items) : False := by
  induction items with
  | nil => cases oneFirst
  | cons first items inductionHypothesis =>
    obtain ⟨firstOnce, restDistinct⟩ := List.nodup_cons.mp distinct
    cases oneFirst with
    | cons _ oneLater =>
      cases otherFirst with
      | cons _ otherLater =>
        exact inductionHypothesis restDistinct oneLater otherLater
      | cons_cons _ _ => exact firstOnce (oneLater.mem (by simp))
    | cons_cons _ otherLater =>
      cases otherFirst with
      | cons _ later => exact firstOnce (later.mem (by simp))
      | cons_cons _ _ => exact firstOnce (otherLater.mem (by simp))

theorem descending_keeps (ranked : value other ≤ value one) (first : [one, other].Sublist items) :
    [one, other].Sublist (descending value items) := by
  have isTotal := below_total value
  have isTrans := below_trans value
  exact List.pair_sublist_insertionSort ranked first

theorem descending_ne_of_tie (distinct : (one :: other :: rest).Nodup)
    (tied : value one = value other) :
    descending value (one :: other :: rest) ≠ descending value (other :: one :: rest) := by
  intro same
  have oneFirst : [one, other].Sublist (descending value (one :: other :: rest)) :=
    descending_keeps tied.ge (by simp)
  have otherFirst : [other, one].Sublist (descending value (other :: one :: rest)) :=
    descending_keeps tied.le (by simp)
  rw [← same] at otherFirst
  exact not_both_orders ((descending_perm value _).nodup_iff.mpr distinct) oneFirst otherFirst

theorem exists_front (oneIn : one ∈ items) (otherIn : other ∈ items) (different : one ≠ other) :
    ∃ rest, items.Perm (one :: other :: rest) := by
  classical
  have remains : other ∈ items.erase one := (List.mem_erase_of_ne (Ne.symm different)).mpr otherIn
  exact ⟨(items.erase one).erase other,
    (List.perm_cons_erase oneIn).trans ((List.perm_cons_erase remains).cons one)⟩

end Ties

end StableRanking
