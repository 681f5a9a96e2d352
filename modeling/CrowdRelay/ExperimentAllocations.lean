import Mathlib.Algebra.Order.BigOperators.Group.List
import CrowdRelay.EvenParts
import CrowdRelay.Experimentation

namespace CrowdRelay.Experimentation

open MachineInt Ranged EvenParts

/-!
# What a reallocation does to the shares

The shift is bounded by what all losers together hold above their reserve, and
then it is spread evenly over them.  It keeps the experiment whole exactly
where every single loser holds its part above the reserve.
-/

def loserShares (winner : Uuid)
    (active : List ExperimentVariantSnapshot) : List Int :=
  (active.filter fun variant => variant.variantId ≠ winner).map
    fun variant => variant.allocationBasisPoints.val

/-- The most a shift may come to: what the losers hold above the reserve. -/
def headroom (shares : List Int) : Int := (shares.map fun share => max 0 (share - 500)).sum

/--
Every loser holds its even part of the shift above the smaller of its share and
the reserve.  The winner holds `current`.
-/
def EvenPartsFit (current : Int) (step : U16)
    (shares : List Int) : Prop :=
  ∀ place, ∀ inside : place < shares.length,
    evenPart
        (min step.val (min (headroom shares) (10000 - current)))
        shares.length
        place ≤
      shares[place] - min shares[place] 500

instance decidableEvenPartsFit
    (current : Int)
    (step : U16)
    (shares : List Int) : Decidable (EvenPartsFit current step shares) :=
  inferInstanceAs (Decidable (∀ place, ∀ _ : place < shares.length, _ ≤ _))

/-- What a reallocation may make of one variant's share. -/
structure ShareMove
    (winner : Uuid)
    (step : U16)
    (variant : ExperimentVariantSnapshot)
    (allocation : Uuid × U16) : Prop where
  named : allocation.1 = variant.variantId
  bounded :
    variant.variantId = winner →
      allocation.2.val ≤ variant.allocationBasisPoints.val + step.val
  noMore :
    variant.variantId ≠ winner →
      allocation.2 ≤ variant.allocationBasisPoints
  reserved :
    variant.variantId ≠ winner →
      min variant.allocationBasisPoints.val 500 ≤ allocation.2.val

/-- What shares add up to. -/
def granted (allocations : List (Uuid × U16)) : Int :=
  (allocations.map fun allocation => allocation.2.val).sum

structure WholeReallocation
    (winner : Uuid)
    (step : U16)
    (active : List ExperimentVariantSnapshot)
    (allocations : List (Uuid × U16)) : Prop where
  moves : List.Forall₂ (ShareMove winner step) active allocations
  whole : granted allocations = 10000

section Losers

variable (share : U16)

theorem val_saturatingSub_take {take : Int} (nonnegative : 0 ≤ take) :
    (share.saturatingSub ((tryFrom take).getD share)).val = left (share.val, take) := by
  have lower := share.lower
  have upper := share.upper
  rw [val_saturatingSub]
  unfold left
  cases converted : (tryFrom take : Option U16) with
  | none =>
    have outside : ¬ (0 ≤ take ∧ take ≤ 65535) := by
      rw [← tryFrom_isSome_iff, converted]
      simp
    simp only [Option.getD_none]
    omega
  | some part =>
    have same : part.val = take := tryFrom_eq_some_iff.mp converted
    simp only [Option.getD_some, same]
    omega

theorem val_getD_shifted {shift : Int} (nonnegative : 0 ≤ shift)
    (room : share.val + shift ≤ 10000) :
    ((tryFrom (share.val + shift) : Option U16).getD 10000).val = share.val + shift := by
  have lower := share.lower
  cases converted : (tryFrom (share.val + shift) : Option U16) with
  | none =>
    have outside : ¬ (0 ≤ share.val + shift ∧ share.val + shift ≤ 65535) := by
      rw [← tryFrom_isSome_iff, converted]
      simp
    omega
  | some sum => exact tryFrom_eq_some_iff.mp converted

end Losers

section Shift

variable {winner : Uuid} {active : List ExperimentVariantSnapshot} {shift : Int}
  {part : Nat → Int} {step : U16} {variant : ExperimentVariantSnapshot}

@[simp] theorem loserShares_nil : loserShares winner [] = [] := rfl

theorem loserShares_cons_winner (isWinner : variant.variantId = winner)
    (rest : List ExperimentVariantSnapshot) :
    loserShares winner (variant :: rest) = loserShares winner rest := by
  unfold loserShares
  rw [List.filter_cons_of_neg (by simpa using isWinner)]

theorem loserShares_cons_loser (isLoser : variant.variantId ≠ winner)
    (rest : List ExperimentVariantSnapshot) :
    loserShares winner (variant :: rest) =
      variant.allocationBasisPoints.val :: loserShares winner rest := by
  unfold loserShares
  rw [List.filter_cons_of_pos (by simpa using isLoser), List.map_cons]

theorem loserShares_nonneg : ∀ share ∈ loserShares winner active, 0 ≤ share := by
  intro share member
  obtain ⟨variant, _, rfl⟩ := List.mem_map.mp member
  exact variant.allocationBasisPoints.lower

/-- What the winner holds, once for every variant of its id. -/
def winnerShares (winner : Uuid)
    (active : List ExperimentVariantSnapshot) : List Int :=
  (active.filter fun variant => variant.variantId = winner).map
    fun variant => variant.allocationBasisPoints.val

theorem allocated_eq_add :
    allocated active = (winnerShares winner active).sum + (loserShares winner active).sum := by
  induction active with
  | nil => rfl
  | cons variant rest inductionHypothesis =>
    have summed :
        allocated (variant :: rest) = variant.allocationBasisPoints.val + allocated rest :=
      List.sum_cons
    rw [summed, inductionHypothesis]
    by_cases isWinner : variant.variantId = winner
    · rw [loserShares_cons_winner isWinner]
      unfold winnerShares
      rw [List.filter_cons_of_pos (by simpa using isWinner), List.map_cons, List.sum_cons]
      omega
    · rw [loserShares_cons_loser isWinner, List.sum_cons]
      unfold winnerShares
      rw [List.filter_cons_of_neg (by simpa using isWinner)]
      omega

/-- With the places of the losers counted from `start`, the shares a shift
hands out are those of the winner and what is left to each loser. -/
theorem granted_shiftFrom (nonnegative : 0 ≤ shift) (losers : Nat)
    (room :
      ∀ variant ∈ active, variant.variantId = winner →
        variant.allocationBasisPoints.val + shift ≤ 10000)
    (start : Nat) :
    granted (shiftFrom winner shift (shift / losers) (shift % losers) start active) =
      ((winnerShares winner active).map fun share => share + shift).sum +
        ((withParts (evenPart shift losers) start (loserShares winner active)).map left).sum := by
  induction active generalizing start with
  | nil => rfl
  | cons variant rest inductionHypothesis =>
    have later := inductionHypothesis fun other member =>
        room other (List.mem_cons_of_mem _ member)
    unfold shiftFrom
    by_cases isWinner : variant.variantId = winner
    · rw [if_pos isWinner, loserShares_cons_winner isWinner]
      unfold winnerShares
      rw [List.filter_cons_of_pos (by simpa using isWinner)]
      have here := val_getD_shifted variant.allocationBasisPoints nonnegative
          (room variant List.mem_cons_self isWinner)
      have others := later start
      unfold granted winnerShares at others
      unfold granted
      simp only [List.map_cons, List.sum_cons, here, others]
      omega
    · rw [if_neg isWinner, loserShares_cons_loser isWinner]
      unfold winnerShares
      rw [List.filter_cons_of_neg (by simpa using isWinner)]
      have here := val_saturatingSub_take variant.allocationBasisPoints
          (evenPart_nonneg nonnegative losers start)
      have others := later (start + 1)
      unfold granted winnerShares at others
      unfold granted
      simp only [List.map_cons, List.sum_cons, withParts_cons]
      rw [others, ← here]
      unfold evenPart
      omega

/-- Every share moves as it may exactly where every loser keeps its reserve. -/
theorem moves_shiftFrom_iff (nonnegative : 0 ≤ shift) (withinStep : shift ≤ step.val) (losers : Nat)
    (room :
      ∀ variant ∈ active, variant.variantId = winner →
        variant.allocationBasisPoints.val + shift ≤ 10000)
    (start : Nat) :
    List.Forall₂ (ShareMove winner step) active
        (shiftFrom winner shift (shift / losers) (shift % losers) start active) ↔
      ∀ pair ∈ withParts (evenPart shift losers) start (loserShares winner active),
        min pair.1 500 ≤ left pair := by
  induction active generalizing start with
  | nil => simp [shiftFrom]
  | cons variant rest inductionHypothesis =>
    have later := inductionHypothesis fun other member =>
        room other (List.mem_cons_of_mem _ member)
    unfold shiftFrom
    by_cases isWinner : variant.variantId = winner
    · rw [if_pos isWinner, loserShares_cons_winner isWinner,
        List.forall₂_cons, later start, and_iff_right]
      have here := val_getD_shifted variant.allocationBasisPoints nonnegative
          (room variant List.mem_cons_self isWinner)
      exact
        { named := rfl
          bounded := fun _ => by rw [here]; omega
          noMore := fun isLoser => (isLoser isWinner).elim
          reserved := fun isLoser => (isLoser isWinner).elim }
    · rw [if_neg isWinner, loserShares_cons_loser isWinner,
        List.forall₂_cons, later (start + 1), withParts_cons,
        List.forall_mem_cons]
      refine and_congr_left fun _ => ?_
      have part := evenPart_nonneg nonnegative losers start
      have here := val_saturatingSub_take variant.allocationBasisPoints part
      have lower := variant.allocationBasisPoints.lower
      rw [← here]
      constructor
      · intro moved
        exact moved.reserved isWinner
      · intro kept
        refine
          { named := rfl
            bounded := fun same => (isWinner same).elim
            noMore := fun _ => ?_
            reserved := fun _ => kept }
        rw [le_iff_val]
        refine here.trans_le ?_
        unfold left
        omega

end Shift

section Whole

variable {active : List ExperimentVariantSnapshot} {winner : ExperimentVariantSnapshot}
  (distinct : (active.map ExperimentVariantSnapshot.variantId).Nodup) (member : winner ∈ active)

include distinct in
theorem eq_of_variantId_eq {one other : ExperimentVariantSnapshot}
    (oneMember : one ∈ active) (otherMember : other ∈ active)
    (same : one.variantId = other.variantId) :
    one = other :=
  List.inj_on_of_nodup_map distinct oneMember otherMember same

include distinct member in
theorem winnerShares_eq :
    winnerShares winner.variantId active = [winner.allocationBasisPoints.val] := by
  have alone :
      active.filter (fun variant => variant.variantId = winner.variantId) =
        active.filter (· = winner) := by
    refine List.filter_congr fun variant listed => ?_
    rw [decide_eq_decide]
    exact ⟨eq_of_variantId_eq distinct listed member, congrArg ExperimentVariantSnapshot.variantId⟩
  have once : active.count winner = 1 := List.count_eq_one_of_mem distinct.of_map member
  have counted : active.filter (· = winner) = [winner] := by
    rw [List.filter_eq, once]
    rfl
  unfold winnerShares
  rw [alone, counted]
  rfl

include distinct member in
theorem length_loserShares : (loserShares winner.variantId active).length = active.length - 1 := by
  have divided := @List.length_eq_length_filter_add _ active
      fun variant => decide (variant.variantId = winner.variantId)
  have one := congrArg List.length (winnerShares_eq distinct member)
  unfold winnerShares at one
  rw [List.length_map] at one
  unfold loserShares
  rw [List.length_map]
  simp only [ne_eq, decide_not, List.length_singleton] at one ⊢
  omega

include distinct member in
theorem find_winner :
    active.find? (fun variant => variant.variantId = winner.variantId) = some winner := by
  cases found : active.find? fun variant => variant.variantId = winner.variantId with
  | none =>
    have absent := List.find?_eq_none.mp found winner member
    simp at absent
  | some other =>
    have same := List.find?_some found
    rw [decide_eq_true_eq] at same
    rw [eq_of_variantId_eq distinct (List.mem_of_find?_eq_some found) member same]

theorem available_eq_headroom (named : Uuid) :
    ((active.filter fun variant => variant.variantId ≠ named).map
        fun variant =>
          (variant.allocationBasisPoints.saturatingSub 500).val).sum =
      headroom (loserShares named active) := by
  unfold headroom loserShares
  rw [List.map_map]
  congr 1
  refine List.map_congr_left fun variant _ => ?_
  have upper := variant.allocationBasisPoints.upper
  have reserve : (500 : U16).val = 500 := rfl
  rw [val_saturatingSub, reserve, Function.comp_apply]
  omega

theorem headroom_nonneg (shares : List Int) : 0 ≤ headroom shares := by
  refine List.sum_nonneg ?_
  intro room member
  obtain ⟨share, _, rfl⟩ := List.mem_map.mp member
  exact le_max_left _ _

/-- How much moves from the losers to the winner in all. -/
def shiftSize (winner : ExperimentVariantSnapshot) (step : U16)
    (active : List ExperimentVariantSnapshot) : Int :=
  min step.val
    (min (headroom (loserShares winner.variantId active))
      (10000 - winner.allocationBasisPoints.val))

/-- What every loser holds, next to what it gives up. -/
def lossParts (winner : ExperimentVariantSnapshot) (step : U16)
    (active : List ExperimentVariantSnapshot) : List (Int × Int) :=
  withParts (evenPart (shiftSize winner step active) (active.length - 1)) 0
    (loserShares winner.variantId active)

variable {step : U16}

include distinct member in
theorem winner_add_losers (whole : allocated active = 10000) :
    winner.allocationBasisPoints.val + (loserShares winner.variantId active).sum =
      10000 := by
  rw [← whole, @allocated_eq_add winner.variantId active,
    winnerShares_eq distinct member, List.sum_singleton]

include distinct member in
theorem shiftSize_bounds (whole : allocated active = 10000) :
    0 ≤ shiftSize winner step active ∧
      shiftSize winner step active ≤ step.val ∧
      winner.allocationBasisPoints.val + shiftSize winner step active ≤ 10000 := by
  have shares := winner_add_losers distinct member whole
  have losers : 0 ≤ (loserShares winner.variantId active).sum := List.sum_nonneg loserShares_nonneg
  have room := headroom_nonneg (loserShares winner.variantId active)
  have lower := step.lower
  unfold shiftSize
  omega

include distinct member in
theorem winner_has_room (whole : allocated active = 10000) :
    ∀ variant ∈ active, variant.variantId = winner.variantId →
      variant.allocationBasisPoints.val + shiftSize winner step active ≤ 10000 := by
  intro variant listed isWinner
  rw [eq_of_variantId_eq distinct listed member isWinner]
  exact (shiftSize_bounds distinct member whole).2.2

include distinct member in
theorem shiftAllocation_eq_shiftFrom (several : 2 ≤ active.length)
    (whole : allocated active = 10000) :
    shiftAllocation winner.variantId active step =
      shiftFrom winner.variantId (shiftSize winner step active)
        (shiftSize winner step active / (active.length - 1 : Nat))
        (shiftSize winner step active % (active.length - 1 : Nat)) 0
        active := by
  have bounds := @shiftSize_bounds _ _ distinct member step whole
  have bound :
      max 0 (10000 - winner.allocationBasisPoints.val) = 10000 - winner.allocationBasisPoints.val :=
    max_eq_right (by omega)
  unfold shiftAllocation
  rw [if_neg (by omega), find_winner distinct member, available_eq_headroom, Option.elim_some]
  dsimp only
  rw [bound, min_assoc, ← shiftSize]

include distinct member in
theorem sum_lossParts (several : 2 ≤ active.length) :
    ((lossParts winner step active).map Prod.snd).sum = shiftSize winner step active := by
  rw [lossParts, map_snd_withParts, length_loserShares distinct member, ← List.range_eq_range']
  exact sum_evenPart _ (by omega)

theorem lossParts_nonneg : ∀ pair ∈ lossParts winner step active, 0 ≤ pair.1 := by
  intro pair listed
  have inShares : pair.1 ∈ (lossParts winner step active).map Prod.fst := List.mem_map_of_mem listed
  rw [lossParts, map_fst_withParts] at inShares
  exact loserShares_nonneg _ inShares

include distinct member in
theorem evenPartsFit_iff_lossParts :
    EvenPartsFit winner.allocationBasisPoints.val step (loserShares winner.variantId active) ↔
      ∀ pair ∈ lossParts winner step active, pair.2 ≤ pair.1 - min pair.1 500 := by
  unfold EvenPartsFit
  rw [lossParts, shiftSize, ← length_loserShares distinct member, forall_withParts_iff]
  simp only [Nat.zero_add]

include distinct member in
/-- A shift keeps the experiment whole exactly where the even parts fit. -/
theorem shiftAllocation_whole_iff (several : 2 ≤ active.length)
    (whole : allocated active = 10000) (step : U16) :
    WholeReallocation winner.variantId step active (shiftAllocation winner.variantId active step) ↔
      EvenPartsFit winner.allocationBasisPoints.val step (loserShares winner.variantId active) := by
  obtain ⟨nonnegative, withinStep, _⟩ := @shiftSize_bounds _ _ distinct member step whole
  have room := @winner_has_room _ _ distinct member step whole
  have shares := winner_add_losers distinct member whole
  have shifted := @shiftAllocation_eq_shiftFrom _ _ distinct member step several whole
  have handedOut :
      granted (shiftAllocation winner.variantId active step) =
        winner.allocationBasisPoints.val + shiftSize winner step active +
          ((lossParts winner step active).map left).sum := by
    rw [shifted, granted_shiftFrom nonnegative _ room, winnerShares_eq distinct member, lossParts]
    simp
  have moves := moves_shiftFrom_iff nonnegative withinStep (active.length - 1) room 0
  rw [← lossParts] at moves
  rw [evenPartsFit_iff_lossParts distinct member,
    ← whole_above_floor_iff (by decide) lossParts_nonneg,
    sum_lossParts distinct member several]
  have holdings :
      ((lossParts winner step active).map Prod.fst).sum =
        (loserShares winner.variantId active).sum := by
    rw [lossParts, map_fst_withParts]
  rw [holdings]
  constructor
  · rintro ⟨moved, sum⟩
    rw [shifted] at moved
    exact ⟨by omega, moves.mp moved⟩
  · rintro ⟨sum, kept⟩
    refine ⟨?_, by omega⟩
    rw [shifted]
    exact moves.mpr kept

end Whole

end CrowdRelay.Experimentation
