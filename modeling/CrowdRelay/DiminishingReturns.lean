import Mathlib.Algebra.Order.BigOperators.Group.List
import Mathlib.Tactic.Positivity
import CrowdRelay.PortfolioLedger

namespace CrowdRelay

open MachineInt GreedySelection

/-!
# Diminishing returns of the portfolio

Every factor the portfolio takes off a candidate lies between zero and one and
shrinks with what is already selected.  So a candidate that is still worth
taking was worth no less before, and a greedy selection adds less and less.
-/

/-- The share of a candidate's value the portfolio leaves. -/
def AdjustmentInputs.factor (inputs : AdjustmentInputs) : ℚ :=
  max (1 - inputs.overlapPenalty * inputs.audienceCount) 0
    * powi inputs.fatigueDecay inputs.audienceCount
    * inputs.bridgeFactor
    * powi inputs.fairnessDecay inputs.actDispatches.val.toNat

theorem MarginalAdjustments.marginalY30_eq (intrinsicY30 : ℚ) (inputs : AdjustmentInputs) :
    (MarginalAdjustments.apply intrinsicY30 inputs).marginalY30 = intrinsicY30 * inputs.factor := by
  simp only [MarginalAdjustments.apply, AdjustmentInputs.factor, mul_assoc]

/-- Coefficients that only take value off, and a threshold that asks for
some. -/
structure PortfolioConfig.Moderate (config : PortfolioConfig) : Prop where
  overlapNonneg : 0 ≤ config.audienceOverlapPenalty
  fatigueNonneg : 0 ≤ config.fatigueDecay
  fatigueLeOne : config.fatigueDecay ≤ 1
  fairnessNonneg : 0 ≤ config.fairnessDecay
  fairnessLeOne : config.fairnessDecay ≤ 1
  thresholdPos : 0 < config.minMarginalValue

section Factors

variable {base : ℚ} {fewer more : Nat}

theorem powi_nonneg (nonneg : 0 ≤ base) (exponent : Nat) : 0 ≤ powi base exponent :=
  pow_nonneg nonneg _

theorem powi_le_one (nonneg : 0 ≤ base) (leOne : base ≤ 1) (exponent : Nat) :
    powi base exponent ≤ 1 :=
  pow_le_one₀ nonneg leOne

theorem powi_anti (nonneg : 0 ≤ base) (leOne : base ≤ 1) (grown : fewer ≤ more) :
    powi base more ≤ powi base fewer :=
  pow_le_pow_of_le_one nonneg leOne (min_le_min_right _ grown)

theorem bridgePenalty_pos (candidate : PortfolioCandidate) : 0 < candidate.bridgePenalty := by
  unfold PortfolioCandidate.bridgePenalty
  split_ifs <;> norm_num

theorem bridgePenalty_le_one (candidate : PortfolioCandidate) : candidate.bridgePenalty ≤ 1 := by
  unfold PortfolioCandidate.bridgePenalty
  split_ifs <;> norm_num

end Factors

namespace AdjustmentInputs

variable {one other : AdjustmentInputs}

/-- Coefficients between zero and one. -/
structure Moderate (inputs : AdjustmentInputs) : Prop where
  overlapNonneg : 0 ≤ inputs.overlapPenalty
  fatigueNonneg : 0 ≤ inputs.fatigueDecay
  fatigueLeOne : inputs.fatigueDecay ≤ 1
  bridgeNonneg : 0 ≤ inputs.bridgeFactor
  bridgeLeOne : inputs.bridgeFactor ≤ 1
  fairnessNonneg : 0 ≤ inputs.fairnessDecay
  fairnessLeOne : inputs.fairnessDecay ≤ 1

theorem Moderate.factor_nonneg (moderate : one.Moderate) : 0 ≤ one.factor := by
  have fatigue := powi_nonneg moderate.fatigueNonneg one.audienceCount
  have fairness := powi_nonneg moderate.fairnessNonneg one.actDispatches.val.toNat
  have overlap : 0 ≤ max (1 - one.overlapPenalty * one.audienceCount) 0 := le_max_right _ _
  have bridge := moderate.bridgeNonneg
  unfold factor
  positivity

theorem Moderate.factor_le_one (moderate : one.Moderate) : one.factor ≤ 1 := by
  have fatigue := powi_nonneg moderate.fatigueNonneg one.audienceCount
  have fairness := powi_nonneg moderate.fairnessNonneg one.actDispatches.val.toNat
  have charged : 0 ≤ one.overlapPenalty * one.audienceCount :=
    mul_nonneg moderate.overlapNonneg (Nat.cast_nonneg _)
  have overlap : max (1 - one.overlapPenalty * one.audienceCount) 0 ≤ 1 :=
    max_le (by linarith) zero_le_one
  unfold factor
  refine mul_le_one₀ (mul_le_one₀ (mul_le_one₀ overlap fatigue ?_)
    moderate.bridgeNonneg moderate.bridgeLeOne) fairness ?_
  · exact powi_le_one moderate.fatigueNonneg moderate.fatigueLeOne _
  · exact powi_le_one moderate.fairnessNonneg moderate.fairnessLeOne _

/-- The share shrinks with the audience and with the act's dispatches. -/
theorem Moderate.factor_anti (moderate : one.Moderate)
    (sameOverlap : other.overlapPenalty = one.overlapPenalty)
    (sameFatigue : other.fatigueDecay = one.fatigueDecay)
    (sameBridge : other.bridgeFactor = one.bridgeFactor)
    (sameFairness : other.fairnessDecay = one.fairnessDecay)
    (moreAudience : one.audienceCount ≤ other.audienceCount)
    (moreDispatches : one.actDispatches ≤ other.actDispatches) :
    other.factor ≤ one.factor := by
  have dispatches : one.actDispatches.val.toNat ≤ other.actDispatches.val.toNat :=
    Int.toNat_le_toNat (Ranged.le_iff_val.mp moreDispatches)
  have overlap :
      max (1 - one.overlapPenalty * other.audienceCount) 0 ≤
        max (1 - one.overlapPenalty * one.audienceCount) 0 := by
    refine max_le_max_right 0 (sub_le_sub_left ?_ 1)
    exact mul_le_mul_of_nonneg_left (Nat.cast_le.mpr moreAudience) moderate.overlapNonneg
  have fatigue := powi_anti moderate.fatigueNonneg moderate.fatigueLeOne moreAudience
  have fairness := powi_anti moderate.fairnessNonneg moderate.fairnessLeOne dispatches
  have overlapNonneg : 0 ≤ max (1 - one.overlapPenalty * one.audienceCount) 0 := le_max_right _ _
  have fatigueNonneg := powi_nonneg moderate.fatigueNonneg other.audienceCount
  have fatigueNonneg' := powi_nonneg moderate.fatigueNonneg one.audienceCount
  have fairnessNonneg := powi_nonneg moderate.fairnessNonneg other.actDispatches.val.toNat
  have bridgeNonneg := moderate.bridgeNonneg
  unfold factor
  rw [sameOverlap, sameFatigue, sameBridge, sameFairness]
  gcongr

end AdjustmentInputs

namespace PortfolioOptimizer

variable {optimizer : PortfolioOptimizer} {taken more : Multiset PortfolioCandidate}
  {candidate : PortfolioCandidate}

/-- What a candidate's adjustments are computed from. -/
def inputsBeside (optimizer : PortfolioOptimizer) (taken : Multiset PortfolioCandidate)
    (candidate : PortfolioCandidate) : AdjustmentInputs where
  audienceCount := taken.countP fun other => other.audienceKey = candidate.audienceKey
  overlapPenalty := optimizer.config.audienceOverlapPenalty
  fatigueDecay := optimizer.config.fatigueDecay
  bridgeFactor := candidate.bridgePenalty
  actDispatches :=
    (optimizer.actPast candidate).saturatingAdd
      (Ranged.wrap (taken.countP fun other => other.act = candidate.act : Nat))
  fairnessDecay := optimizer.config.fairnessDecay

theorem marginal_beside :
    (optimizer.adjustmentsBeside taken candidate).marginalY30 =
      candidate.total * (optimizer.inputsBeside taken candidate).factor :=
  MarginalAdjustments.marginalY30_eq _ _

theorem moderate_beside (moderate : optimizer.config.Moderate) :
    (optimizer.inputsBeside taken candidate).Moderate where
  overlapNonneg := moderate.overlapNonneg
  fatigueNonneg := moderate.fatigueNonneg
  fatigueLeOne := moderate.fatigueLeOne
  bridgeNonneg := (bridgePenalty_pos candidate).le
  bridgeLeOne := bridgePenalty_le_one candidate
  fairnessNonneg := moderate.fairnessNonneg
  fairnessLeOne := moderate.fairnessLeOne

section

variable (moderate : optimizer.config.Moderate)
include moderate

theorem total_pos_of_marginal_pos
    (positive : 0 < (optimizer.adjustmentsBeside taken candidate).marginalY30) :
    0 < candidate.total := by
  rw [marginal_beside] at positive
  exact pos_of_mul_pos_left positive (moderate_beside moderate).factor_nonneg

theorem marginal_le_total
    (positive : 0 < (optimizer.adjustmentsBeside taken candidate).marginalY30) :
    (optimizer.adjustmentsBeside taken candidate).marginalY30 ≤
      candidate.total := by
  have worth := total_pos_of_marginal_pos moderate positive
  rw [marginal_beside]
  exact mul_le_of_le_one_right worth.le (moderate_beside moderate).factor_le_one

theorem marginal_anti (grown : taken ≤ more) (short : (more.card : Int) ≤ 4294967295)
    (positive : 0 < (optimizer.adjustmentsBeside more candidate).marginalY30) :
    (optimizer.adjustmentsBeside more candidate).marginalY30 ≤
      (optimizer.adjustmentsBeside taken candidate).marginalY30 := by
  have worth := total_pos_of_marginal_pos moderate positive
  have audience := Multiset.countP_le_of_le
      (fun other => other.audienceKey = candidate.audienceKey) grown
  have act := Multiset.countP_le_of_le (fun other => other.act = candidate.act) grown
  have counted := Multiset.countP_le_card (fun other => other.act = candidate.act) more
  have dispatches :
      (optimizer.inputsBeside taken candidate).actDispatches ≤
        (optimizer.inputsBeside more candidate).actDispatches := by
    rw [Ranged.le_iff_val]
    simp only [inputsBeside, Ranged.val_saturatingAdd]
    rw [Ranged.val_wrap_of_fits (by omega) (by omega),
      Ranged.val_wrap_of_fits (by omega) (by omega)]
    omega
  rw [marginal_beside, marginal_beside]
  refine mul_le_mul_of_nonneg_left ?_ worth.le
  exact (moderate_beside moderate).factor_anti rfl rfl rfl rfl audience dispatches

end

variable {count : Nat}

/-- A round takes a candidate at the threshold, or one of positive value in
one of the places that are to be filled. -/
theorem worthTaking_iff (short : (count : Int) ≤ 4294967295) (marginal : ℚ) :
    optimizer.worthTaking count marginal = true ↔
      optimizer.config.minMarginalValue ≤ marginal ∨
        ((count : Int) < optimizer.config.minDispatches.val ∧ 0 < marginal) := by
  have index : (Ranged.wrap (count : Int) : U32).val = count :=
    Ranged.val_wrap_of_fits (Int.natCast_nonneg count) short
  rw [worthTaking, Bool.or_eq_true, Bool.and_eq_true, decide_eq_true_eq,
    decide_eq_true_eq, decide_eq_true_eq, Ranged.lt_iff_val, index]

theorem marginal_pos_of_worthTaking (moderate : optimizer.config.Moderate) {marginal : ℚ}
    (worth : optimizer.worthTaking count marginal = true) :
    0 < marginal := by
  rw [worthTaking, Bool.or_eq_true, Bool.and_eq_true, decide_eq_true_eq,
    decide_eq_true_eq, decide_eq_true_eq] at worth
  rcases worth with enough | ⟨-, positive⟩
  · exact moderate.thresholdPos.trans_le enough
  · exact positive

theorem Eligible.card_le (isEligible : optimizer.Eligible more candidate) :
    (more.card : Int) ≤ 4294967295 :=
  isEligible.slotLeft.le.trans optimizer.totalSlotLimit.upper

theorem Eligible.of_le (noBudget : optimizer.config.costBudget ≤ 0) (grown : taken ≤ more)
    (isEligible : optimizer.Eligible more candidate) :
    optimizer.Eligible taken candidate := by
  have fewer := Multiset.card_le_card grown
  refine ⟨?_, ?_, ?_, ?_⟩
  · have slotLeft := isEligible.slotLeft
    omega
  · exact fun hasBudget => absurd hasBudget (not_lt.mpr noBudget)
  · intro full
    obtain ⟨experimental, extra⟩ := isEligible.extraSlot (by omega)
    exact ⟨experimental, by omega⟩
  · exact fun base isBase beyond =>
      isEligible.provenSlot base isBase (by omega)

theorem rules_diminishing (moderate : optimizer.config.Moderate)
    (noBudget : optimizer.config.costBudget ≤ 0) :
    Diminishing optimizer.rules where
  eligible_of_le grown isEligible := isEligible.of_le noBudget grown
  marginal_le grown isEligible isWorthwhile := marginal_anti moderate grown isEligible.card_le
      (marginal_pos_of_worthTaking moderate isWorthwhile)

/-- The marginal values that candidates are taken with, one after another. -/
def marginals (optimizer : PortfolioOptimizer)
    (selected : List PortfolioCandidate) : List ℚ :=
  replay optimizer.rules.marginal 0 selected

theorem getElem?_marginals (optimizer : PortfolioOptimizer)
    (selected : List PortfolioCandidate) (index : Nat) :
    (optimizer.marginals selected)[index]? = selected[index]?.map fun candidate =>
        (optimizer.adjustmentsBeside (selected.take index : List PortfolioCandidate)
          candidate).marginalY30 := by
  rw [marginals, getElem?_replay]
  simp only [add_zero, rules]

theorem marginals_dispatched (optimizer : PortfolioOptimizer) (picked : List PortfolioCandidate) :
    optimizer.marginals (picked.map PortfolioCandidate.dispatched) =
      optimizer.marginals picked := by
  refine List.ext_getElem? fun index => ?_
  rw [getElem?_marginals, getElem?_marginals, List.getElem?_map, Option.map_map, ← List.map_take]
  congr 1
  funext candidate
  exact congrArg MarginalAdjustments.marginalY30
    (adjustmentsBeside_dispatched optimizer _ candidate)

theorem sum_marginals_le (moderate : optimizer.config.Moderate) {picked : List PortfolioCandidate}
    (positive : ∀ value ∈ optimizer.marginals picked, 0 < value) :
    (optimizer.marginals picked).sum ≤ (picked.map PortfolioCandidate.total).sum := by
  refine List.Forall₂.sum_le_sum ?_
  refine List.forall₂_iff_get.mpr ⟨by simp [marginals], ?_⟩
  intro index inMarginals inTotals
  have inRange : index < picked.length := by
    rw [List.length_map] at inTotals
    exact inTotals
  have isValue := getElem?_marginals optimizer picked index
  rw [List.getElem?_eq_getElem inMarginals, List.getElem?_eq_getElem inRange,
    Option.map_some] at isValue
  injection isValue with isValue
  have worth := positive _ (List.getElem_mem inMarginals)
  rw [List.get_eq_getElem, List.get_eq_getElem, List.getElem_map, isValue]
  rw [isValue] at worth
  exact marginal_le_total moderate worth

/-- The portfolio has diminishing returns: the marginal values its candidates
are taken with never increase, each reaches the threshold unless its place was
to be filled, and their sum, which is what is expected of the portfolio, is no
more than what its candidates are worth on their own. -/
theorem portfolio_returns_diminish
    (optimizer : PortfolioOptimizer)
    (candidates : List PortfolioCandidate)
    (moderate : optimizer.config.Moderate)
    (noBudget : optimizer.config.costBudget ≤ 0) :
    (optimizer.marginals (optimizer.select candidates).selected).Pairwise
        (fun earlier later => later ≤ earlier) ∧
      (∀ (index : Nat) (value : ℚ),
        (optimizer.marginals
            (optimizer.select candidates).selected)[index]? = some value →
        optimizer.config.minMarginalValue ≤ value ∨
          ((index : Int) < optimizer.config.minDispatches.val ∧ 0 < value)) ∧
      (optimizer.select candidates).totalExpectedFans =
        (optimizer.marginals (optimizer.select candidates).selected).sum ∧
      (optimizer.select candidates).totalExpectedFans ≤
        ((optimizer.select candidates).selected.map
          PortfolioCandidate.total).sum := by
  obtain ⟨last, reason, run, -, -, outcome⟩ := optimizer.exists_ending candidates
  have books := books_of_run run
  have worthAt :
      ∀ (index : Nat) (value : ℚ),
        (optimizer.marginals last.picked)[index]? = some value →
        optimizer.worthTaking index value = true ∧ (index : Int) ≤ 4294967295 := by
    intro index value isValue
    rw [getElem?_marginals, Option.map_eq_some_iff] at isValue
    obtain ⟨candidate, isAt, rfl⟩ := isValue
    obtain ⟨isEligible, isIndex⟩ := outcome.tracks.placed.eligible_at isAt
    have worth := (books.greedy _ _ _ (split_of_getElem? isAt)).2.1
    have short := isEligible.card_le
    simp only [rules, Multiset.coe_card, isIndex] at worth
    rw [Multiset.coe_card, isIndex] at short
    exact ⟨worth, short⟩
  have fans :
      (optimizer.select candidates).totalExpectedFans = (optimizer.marginals last.picked).sum := by
    rw [outcome.expectedFans, books.summed, map_replay]
    rfl
  rw [outcome.selected, marginals_dispatched, List.map_map]
  refine ⟨?_, ?_, fans, ?_⟩
  · exact books.greedy.replay_descending
      (rules_diminishing moderate noBudget)
  · intro index value isValue
    obtain ⟨worth, short⟩ := worthAt index value isValue
    exact (worthTaking_iff short value).mp worth
  · rw [fans]
    refine sum_marginals_le moderate fun value isMember => ?_
    obtain ⟨index, isValue⟩ := List.mem_iff_getElem?.mp isMember
    exact marginal_pos_of_worthTaking moderate (worthAt index value isValue).1

/-- Three posts to two communities, with the default coefficients. -/
theorem three_posts_returns_diminish :
    (openSlots.marginals
          (openSlots.select
            [communityPost "black" 5, communityPost "doom" 4,
              communityPost "black" 3]).selected).Pairwise
        (fun earlier later => later ≤ earlier) ∧
      (∀ (index : Nat) (value : ℚ),
        (openSlots.marginals
            (openSlots.select
              [communityPost "black" 5, communityPost "doom" 4,
                communityPost "black" 3]).selected)[index]? = some value →
        openSlots.config.minMarginalValue ≤ value ∨
          ((index : Int) < openSlots.config.minDispatches.val ∧ 0 < value)) ∧
      (openSlots.select
          [communityPost "black" 5, communityPost "doom" 4,
            communityPost "black" 3]).totalExpectedFans =
        (openSlots.marginals
          (openSlots.select
            [communityPost "black" 5, communityPost "doom" 4,
              communityPost "black" 3]).selected).sum ∧
      (openSlots.select
          [communityPost "black" 5, communityPost "doom" 4,
            communityPost "black" 3]).totalExpectedFans ≤
        ((openSlots.select
            [communityPost "black" 5, communityPost "doom" 4, communityPost "black" 3]).selected.map
          PortfolioCandidate.total).sum :=
  portfolio_returns_diminish openSlots
    [communityPost "black" 5, communityPost "doom" 4, communityPost "black" 3]
    ⟨by decide +kernel, by decide +kernel, by decide +kernel,
      by decide +kernel, by decide +kernel, by decide +kernel⟩
    (by decide +kernel)

end PortfolioOptimizer

end CrowdRelay
