import Mathlib.Data.List.Enum
import CrowdRelay.Extremes
import CrowdRelay.GreedySelection

namespace NearestNext

open Extremes GreedySelection

/-!
# On to the nearest remaining item

Items are put in a chain, from each on to the nearest of those that remain.
Where several are equally near, the first one in the list of the remaining is
taken, and the gap it leaves is filled with the last one, so which of them
comes next depends on what was taken before.
-/

variable {Item Distance Name : Type}

section Chains

variable [LinearOrder Distance] [LinearOrder Name] (distance : Item → Item → Distance)

def firstNearest (last : Item) (remaining : List Item) : Option (Item × Nat) :=
  minBy
    (fun left right =>
      compare (distance last left.1) (distance last right.1))
    remaining.zipIdx

/-- From an item always on to the first of the nearest remaining ones. -/
def chain : Nat → Item → List Item → List Item
  | 0, _, _ => []
  | hops + 1, last, remaining =>
    match firstNearest distance last remaining with
    | none => []
    | some (next, index) => next :: chain hops next (swapRemove remaining index)

variable (name : Item → Name)

/-- Nearer, or equally near with the smaller name. -/
def ComesBefore (last one other : Item) : Prop :=
  distance last one < distance last other ∨
    distance last one = distance last other ∧ name one < name other

/-- Each item comes before all later ones, seen from the one before it. -/
def FollowsNearest : Item → List Item → Prop
  | _, [] => True
  | last, next :: later =>
    (∀ other ∈ later, ComesBefore distance name last next other) ∧ FollowsNearest next later

instance (last one other : Item) : Decidable (ComesBefore distance name last one other) :=
  inferInstanceAs (Decidable (_ ∨ _))

instance decidableFollowsNearest :
    ∀ (last : Item) (items : List Item), Decidable (FollowsNearest distance name last items)
  | _, [] => .isTrue trivial
  | _, next :: later => @instDecidableAnd _ _ _ (decidableFollowsNearest next later)

/-- Wherever the chain comes, the first of the nearest remaining items has the
smallest name of the nearest. -/
def TiesFall : Nat → Item → List Item → Prop
  | 0, _, _ => True
  | hops + 1, last, remaining =>
    match firstNearest distance last remaining with
    | none => True
    | some (next, index) =>
      (∀ other ∈ remaining,
          distance last other = distance last next → name next ≤ name other) ∧
        TiesFall hops next (swapRemove remaining index)

end Chains

section Laws

variable [LinearOrder Distance] [LinearOrder Name] {distance : Item → Item → Distance}
  {name : Item → Name} {last next : Item} {remaining : List Item} {index : Nat} (hops : Nat)

theorem firstNearest_eq_none_iff :
    firstNearest distance last remaining = none ↔ remaining = [] := by
  rw [firstNearest, minBy_eq_none_iff, List.zipIdx_eq_nil_iff]

theorem firstNearest_eq_some (found : firstNearest distance last remaining = some (next, index)) :
    remaining[index]? = some next ∧
      ∀ other ∈ remaining, distance last next ≤ distance last other := by
  have byKey :
      ∀ left right : Item × Nat,
        compare (distance last left.1) (distance last right.1) =
          compare ((distance last ∘ Prod.fst) left)
            ((distance last ∘ Prod.fst) right) := fun _ _ => rfl
  obtain ⟨isItem, nearest⟩ := minBy_eq_some byKey found
  refine ⟨List.mem_zipIdx_iff_getElem?.mp isItem, ?_⟩
  intro other isOther
  obtain ⟨place, found⟩ := List.getElem?_of_mem isOther
  exact nearest (other, place) (List.mem_zipIdx_iff_getElem?.mpr found)

theorem chain_perm (enough : hops = remaining.length) :
    (chain distance hops last remaining).Perm remaining := by
  induction hops generalizing last remaining with
  | zero =>
    rw [List.length_eq_zero_iff.mp enough.symm]
    exact List.Perm.refl _
  | succ hops inductionHypothesis =>
    cases found : firstNearest distance last remaining with
    | none =>
      rw [firstNearest_eq_none_iff] at found
      subst found
      cases enough
    | some chosen =>
      obtain ⟨next, index⟩ := chosen
      obtain ⟨isNext, _⟩ := firstNearest_eq_some found
      have fewer : hops = (swapRemove remaining index).length := by
        rw [length_swapRemove]
        omega
      simp only [chain, found]
      exact ((inductionHypothesis fewer).cons next).trans (perm_cons_swapRemove isNext).symm

/-- Of different names the nearest item comes before the others exactly when
it has the smallest name of the nearest. -/
theorem comesBefore_iff (different : ∀ other ∈ remaining, name next ≠ name other)
    (nearest : ∀ other ∈ remaining, distance last next ≤ distance last other) :
    (∀ other ∈ remaining, ComesBefore distance name last next other) ↔
      ∀ other ∈ remaining, distance last other = distance last next → name next ≤ name other := by
  constructor
  · intro before other isOther equallyNear
    rcases before other isOther with nearer | ⟨_, smaller⟩
    · exact absurd equallyNear nearer.ne'
    · exact smaller.le
  · intro ties other isOther
    rcases (nearest other isOther).lt_or_eq with nearer | equallyNear
    · exact Or.inl nearer
    · exact Or.inr ⟨equallyNear,
        (ties other isOther equallyNear.symm).lt_of_ne (different other isOther)⟩

/-- The chain follows distance and name exactly when its ties fall so. -/
theorem followsNearest_chain_iff (hops : Nat) (enough : hops = remaining.length)
    (distinct : (remaining.map name).Nodup) :
    FollowsNearest distance name last (chain distance hops last remaining) ↔
      TiesFall distance name hops last remaining := by
  induction hops generalizing last remaining with
  | zero => exact Iff.rfl
  | succ hops inductionHypothesis =>
    cases found : firstNearest distance last remaining with
    | none =>
      simp only [chain, TiesFall, found]
      exact Iff.rfl
    | some chosen =>
      obtain ⟨next, index⟩ := chosen
      obtain ⟨isNext, nearest⟩ := firstNearest_eq_some found
      have same := perm_cons_swapRemove isNext
      have fewer : hops = (swapRemove remaining index).length := by
        rw [length_swapRemove]
        omega
      have restDistinct := (same.map name).nodup_iff.mp distinct
      rw [List.map_cons, List.nodup_cons] at restDistinct
      obtain ⟨onlyNext, othersDistinct⟩ := restDistinct
      have taken :
          ∀ other,
            other ∈ chain distance hops next (swapRemove remaining index) ↔
              other ∈ swapRemove remaining index := fun _ =>
        (chain_perm hops fewer).mem_iff
      have before := @comesBefore_iff _ _ _ _ _ distance name last next (swapRemove remaining index)
          (fun other isOther sameName =>
            onlyNext (sameName ▸ List.mem_map_of_mem isOther))
          (fun other isOther =>
            nearest other (same.mem_iff.mpr (List.mem_cons_of_mem _ isOther)))
      simp only [chain, TiesFall, found, FollowsNearest, taken]
      rw [inductionHypothesis fewer othersDistinct, before]
      apply and_congr_left
      intro _
      simp only [same.mem_iff, List.mem_cons, forall_eq_or_imp]
      exact ⟨fun ties => ⟨fun _ => le_rfl, ties⟩, fun ties => ties.2⟩

end Laws

end NearestNext
