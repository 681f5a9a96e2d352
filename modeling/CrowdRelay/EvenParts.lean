import Mathlib.Algebra.BigOperators.Group.List.Lemmas
import Mathlib.Algebra.Ring.Int.Defs
import Mathlib.Data.Nat.Cast.Basic
import Mathlib.Data.List.Range
import Mathlib.Order.Lattice

namespace EvenParts

/-!
# An amount taken from several holdings in even parts

An amount is divided into even parts, the first of them one larger where it
does not divide.  Each part is taken from a holding of its own and no holding
falls below zero, so what is left adds up to the holdings less the amount only
where every holding can give its part.
-/

/-- The part in one place of an amount that is divided into so many parts. -/
def evenPart (amount : Int) (count place : Nat) : Int :=
  amount / count + if (place : Int) < amount % count then 1 else 0

theorem evenPart_nonneg {amount : Int} (nonnegative : 0 ≤ amount) (count place : Nat) :
    0 ≤ evenPart amount count place := by
  have quotient : 0 ≤ amount / (count : Int) :=
    Int.ediv_nonneg nonnegative (Int.natCast_nonneg count)
  unfold evenPart
  split <;> omega

theorem sum_range_below {bound : Int} (nonnegative : 0 ≤ bound) (count : Nat) :
    ((List.range count).map fun place : Nat =>
        if (place : Int) < bound then (1 : Int) else 0).sum =
      min bound count := by
  induction count with
  | zero => simpa using nonnegative
  | succ count inductionHypothesis =>
    rw [List.range_succ, List.map_append, List.sum_append, inductionHypothesis]
    simp only [List.map_cons, List.map_nil, List.sum_cons, List.sum_nil]
    push_cast
    split <;> omega

theorem sum_evenPart (amount : Int) {count : Nat} (positive : 0 < count) :
    ((List.range count).map (evenPart amount count)).sum = amount := by
  have divisor : (0 : Int) < count := Int.natCast_pos.mpr positive
  have remainder : 0 ≤ amount % (count : Int) := Int.emod_nonneg amount divisor.ne'
  have small : amount % (count : Int) < count := Int.emod_lt_of_pos amount divisor
  have split :
      ((List.range count).map (evenPart amount count)).sum =
        ((List.range count).map fun _ => amount / (count : Int)).sum +
          ((List.range count).map fun place : Nat =>
            if (place : Int) < amount % count then (1 : Int) else 0).sum :=
    List.sum_map_add
  have divided := Int.mul_ediv_add_emod amount count
  rw [split, sum_range_below remainder, List.map_const', List.sum_replicate,
    List.length_range, nsmul_eq_mul, min_eq_left small.le]
  exact divided

section Taking

/-- What is left of a holding when a part is taken from it. -/
def left (pair : Int × Int) : Int := max 0 (pair.1 - pair.2)

def withParts (part : Nat → Int) (start : Nat)
    (holdings : List Int) : List (Int × Int) :=
  (holdings.zipIdx start).map (Prod.map id part)

variable {part : Nat → Int} {start : Nat}

@[simp] theorem withParts_nil : withParts part start [] = [] := rfl

@[simp] theorem withParts_cons (holding : Int) (rest : List Int) :
    withParts part start (holding :: rest) =
      (holding, part start) :: withParts part (start + 1) rest :=
  rfl

theorem map_fst_withParts (holdings : List Int) :
    (withParts part start holdings).map Prod.fst = holdings := by
  induction holdings generalizing start with
  | nil => rfl
  | cons holding rest inductionHypothesis =>
    rw [withParts_cons, List.map_cons, inductionHypothesis]

theorem map_snd_withParts (holdings : List Int) :
    (withParts part start holdings).map Prod.snd =
      (List.range' start holdings.length).map part := by
  induction holdings generalizing start with
  | nil => rfl
  | cons holding rest inductionHypothesis =>
    rw [withParts_cons, List.map_cons, inductionHypothesis,
      List.length_cons, List.range'_succ, List.map_cons]

theorem forall_withParts_iff {holds : Int × Int → Prop} {holdings : List Int} :
    (∀ pair ∈ withParts part start holdings, holds pair) ↔
      ∀ place, ∀ inside : place < holdings.length,
        holds (holdings[place], part (start + place)) := by
  rw [List.forall_mem_iff_forall_getElem]
  simp [withParts, Prod.map]

theorem sum_sub_le_sum_left (pairs : List (Int × Int)) :
    (pairs.map Prod.fst).sum - (pairs.map Prod.snd).sum ≤ (pairs.map left).sum := by
  induction pairs with
  | nil => simp
  | cons pair rest inductionHypothesis =>
    simp only [List.map_cons, List.sum_cons, left]
    omega

/-- Everything that is taken is lost exactly where no part is larger than the
holding it is taken from. -/
theorem sum_left_eq_iff {pairs : List (Int × Int)} :
    (pairs.map left).sum = (pairs.map Prod.fst).sum - (pairs.map Prod.snd).sum ↔
      ∀ pair ∈ pairs, pair.2 ≤ pair.1 := by
  induction pairs with
  | nil => simp
  | cons pair rest inductionHypothesis =>
    have bound := sum_sub_le_sum_left rest
    rw [List.forall_mem_cons, ← inductionHypothesis]
    simp only [List.map_cons, List.sum_cons, left]
    omega

/-- The holdings give up the whole amount and keep a floor exactly where each
holds its part above the floor. -/
theorem whole_above_floor_iff {floor : Int} (floorNonnegative : 0 ≤ floor)
    {pairs : List (Int × Int)} (nonnegative : ∀ pair ∈ pairs, 0 ≤ pair.1) :
    ((pairs.map left).sum = (pairs.map Prod.fst).sum - (pairs.map Prod.snd).sum ∧
        ∀ pair ∈ pairs, min pair.1 floor ≤ left pair) ↔
      ∀ pair ∈ pairs, pair.2 ≤ pair.1 - min pair.1 floor := by
  rw [sum_left_eq_iff]
  constructor
  · rintro ⟨given, kept⟩ pair member
    have here := given pair member
    have above := kept pair member
    unfold left at above
    omega
  · intro fits
    refine ⟨fun pair member => ?_, fun pair member => ?_⟩
    · have here := fits pair member
      have holding := nonnegative pair member
      omega
    · have here := fits pair member
      unfold left
      omega

end Taking

end EvenParts
