import Mathlib.Algebra.Order.Field.Basic
import Mathlib.Order.Monotone.Basic
import Mathlib.Tactic.Linarith
import Mathlib.Tactic.NormNum
import Mathlib.Tactic.Positivity
import Mathlib.Tactic.Ring
import CrowdRelay.Portfolio

namespace CrowdRelay

open MachineInt

/-!
# The noise discount

An effect that is less likely real than not is discounted by the probability
that it is noise.  The discount scales the effect, so a loss becomes smaller by
it: a gain is marked down, a loss is marked up.  The numbers are read as exact
rationals.
-/

namespace DecisionValue

/-- What the causal model predicts of a dispatch. -/
structure TreatmentAwareStats where
  expectedFans : ℚ
  treatmentEffect : ℚ
  treatmentStd : ℚ
  predictStd : ℚ
  confidence : U32
  treatmentConfidence : U32
  useTreatmentEffect : Bool
  treatmentEffectY30 : ℚ
  treatmentStdY30 : ℚ
  treatmentConfidenceY30 : U32
  usesY30 : Bool
  pMeaningfulEffect : ℚ
  bridgeIsReliable : Bool
  deriving DecidableEq

/-- The fans a dispatch is ranked on. -/
def TreatmentAwareStats.expectedY30 (stats : TreatmentAwareStats) : ℚ :=
  if stats.useTreatmentEffect then
    if stats.usesY30 then stats.treatmentEffectY30 else stats.treatmentEffect
  else
    stats.expectedFans

variable (stats : TreatmentAwareStats)

def fromStats (resourceCostUnits : ℚ)
    (decisionMode : DecisionMode) : DecisionValue where
  expectedIncrementalY30 := stats.expectedY30
  uncertainty :=
    if !stats.useTreatmentEffect then
      stats.predictStd
    else if stats.usesY30 then
      stats.treatmentStdY30
    else
      stats.treatmentStd
  estimationRegime :=
    if stats.useTreatmentEffect then
      if stats.usesY30 then .y30Direct else .y14Bridged
    else
      .outcomeModel
  sampleSize :=
    if !stats.useTreatmentEffect then
      stats.confidence
    else if stats.usesY30 then
      stats.treatmentConfidenceY30
    else
      stats.treatmentConfidence
  bridgeIsReliable := stats.bridgeIsReliable
  resourceCostUnits := resourceCostUnits
  pragmaticValue := stats.expectedY30
  riskPenalty :=
    if stats.pMeaningfulEffect < 1 / 2 then
      some (-(1 - stats.pMeaningfulEffect) * stats.expectedY30)
    else
      none
  opportunityCost := 0
  economicValueFans := none
  harmFans := none
  uncertaintyPenalty := none
  decisionMode := decisionMode

/-- A strictly increasing function into the interval from zero to one. -/
structure Cdf where
  below : ℚ → ℚ
  increasing : StrictMono below
  positive : ∀ score, 0 < below score
  belowOne : ∀ score, below score < 1

variable (cdf : Cdf) (threshold deviation effect : ℚ)

/-- The probability that an effect exceeds a threshold. -/
def Cdf.probabilityAbove : ℚ := 1 - cdf.below ((threshold - effect) / deviation)

def TreatmentAwareStats.ofEffect : TreatmentAwareStats :=
  { stats with
    treatmentEffect := effect
    treatmentEffectY30 := if stats.usesY30 then effect else stats.treatmentEffectY30
    pMeaningfulEffect := cdf.probabilityAbove threshold deviation effect }

structure LaterTerms where
  opportunityCost : ℚ
  economicValueFans : Option ℚ
  harmFans : Option ℚ
  uncertaintyPenalty : Option ℚ

def withTerms (value : DecisionValue) (terms : LaterTerms) : DecisionValue :=
  { value with
    opportunityCost := terms.opportunityCost
    economicValueFans := terms.economicValueFans
    harmFans := terms.harmFans
    uncertaintyPenalty := terms.uncertaintyPenalty }

/-- A dispatch that is to be valued, all but its treatment effect. -/
structure Valuation where
  cdf : Cdf
  threshold : ℚ
  deviation : ℚ
  stats : TreatmentAwareStats
  resourceCostUnits : ℚ
  decisionMode : DecisionMode
  terms : LaterTerms

namespace Valuation

def statsOf (valuation : Valuation) (effect : ℚ) : TreatmentAwareStats :=
  valuation.stats.ofEffect valuation.cdf valuation.threshold valuation.deviation effect

def value (valuation : Valuation) (effect : ℚ) : DecisionValue :=
  (fromStats (valuation.statsOf effect) valuation.resourceCostUnits
      valuation.decisionMode).withTerms
    valuation.terms

structure Discounts (valuation : Valuation) (effect : ℚ) : Prop where
  penalty :
    ∀ penalty ∈ (valuation.value effect).riskPenalty, penalty ≤ 0
  total_le :
    (valuation.value effect).total ≤
      { valuation.value effect with riskPenalty := none }.total
  neverSmaller :
    ∀ larger, effect ≤ larger →
      (valuation.value effect).total ≤ (valuation.value larger).total

/-- What a valuation comes to before the later terms. -/
def intrinsic (valuation : Valuation) (effect : ℚ) : ℚ :=
  let stats := valuation.statsOf effect
  if stats.pMeaningfulEffect < 1 / 2 then
    stats.pMeaningfulEffect * stats.expectedY30
  else
    stats.expectedY30

section Laws

variable {valuation : Valuation} {effect larger : ℚ}

theorem riskPenalty_value :
    (valuation.value effect).riskPenalty =
      if (valuation.statsOf effect).pMeaningfulEffect < 1 / 2 then
        some
          (-(1 - (valuation.statsOf effect).pMeaningfulEffect) *
            (valuation.statsOf effect).expectedY30)
      else
        none :=
  rfl

theorem probability_pos : 0 < (valuation.statsOf effect).pMeaningfulEffect :=
  sub_pos.mpr (valuation.cdf.belowOne _)

theorem probability_lt_one : (valuation.statsOf effect).pMeaningfulEffect < 1 :=
  sub_lt_self _ (valuation.cdf.positive _)

theorem probability_mono (spread : 0 < valuation.deviation) (grows : effect ≤ larger) :
    (valuation.statsOf effect).pMeaningfulEffect ≤
      (valuation.statsOf larger).pMeaningfulEffect := by
  refine sub_le_sub_left ?_ 1
  refine valuation.cdf.increasing.monotone ?_
  exact div_le_div_of_nonneg_right (sub_le_sub_left grows _) spread.le

theorem expectedY30_mono (grows : effect ≤ larger) :
    (valuation.statsOf effect).expectedY30 ≤ (valuation.statsOf larger).expectedY30 := by
  unfold statsOf TreatmentAwareStats.ofEffect TreatmentAwareStats.expectedY30
  by_cases ranked : valuation.stats.useTreatmentEffect = true
  · by_cases durable : valuation.stats.usesY30 = true
    · simpa [ranked, durable] using grows
    · simpa [ranked, durable] using grows
  · simp [ranked]

theorem total_value :
    (valuation.value effect).total = valuation.intrinsic effect + valuation.terms.opportunityCost +
        valuation.terms.economicValueFans.getD 0 +
        valuation.terms.harmFans.getD 0 +
        valuation.terms.uncertaintyPenalty.getD 0 := by
  have penalized :
      (valuation.statsOf effect).expectedY30 + (valuation.value effect).riskPenalty.getD 0 =
        valuation.intrinsic effect := by
    rw [riskPenalty_value, intrinsic]
    split
    · rw [Option.getD_some]
      ring
    · rw [Option.getD_none, add_zero]
  rw [← penalized]
  rfl

theorem total_value_unpenalized :
    { valuation.value effect with riskPenalty := none }.total =
      (valuation.statsOf effect).expectedY30 + valuation.terms.opportunityCost +
        valuation.terms.economicValueFans.getD 0 +
        valuation.terms.harmFans.getD 0 +
        valuation.terms.uncertaintyPenalty.getD 0 := by
  have unpenalized :
      (valuation.statsOf effect).expectedY30 + (none : Option ℚ).getD 0 =
        (valuation.statsOf effect).expectedY30 :=
    add_zero _
  rw [← unpenalized]
  rfl

theorem intrinsic_le
    (sound :
      0 ≤ (valuation.statsOf effect).expectedY30 ∨
        1 / 2 ≤ (valuation.statsOf effect).pMeaningfulEffect) :
    valuation.intrinsic effect ≤ (valuation.statsOf effect).expectedY30 := by
  rw [intrinsic]
  split
  case isTrue unlikely =>
    have gain := sound.resolve_right (not_le.mpr unlikely)
    exact mul_le_of_le_one_left gain probability_lt_one.le
  case isFalse => exact le_rfl

theorem intrinsic_mono (spread : 0 < valuation.deviation)
    (sound :
      0 ≤ (valuation.statsOf effect).expectedY30 ∨
        1 / 2 ≤ (valuation.statsOf effect).pMeaningfulEffect)
    (grows : effect ≤ larger) :
    valuation.intrinsic effect ≤ valuation.intrinsic larger := by
  have likelier := probability_mono spread grows
  have more := @expectedY30_mono valuation _ _ grows
  by_cases unlikely : (valuation.statsOf larger).pMeaningfulEffect < 1 / 2
  · -- Both are discounted, so the smaller effect is no loss.
    have smallerUnlikely := likelier.trans_lt unlikely
    have gain := sound.resolve_right (not_le.mpr smallerUnlikely)
    rw [intrinsic, intrinsic, if_pos unlikely, if_pos smallerUnlikely]
    exact mul_le_mul likelier more gain probability_pos.le
  · have whole : valuation.intrinsic larger = (valuation.statsOf larger).expectedY30 :=
      if_neg unlikely
    rw [whole]
    exact (intrinsic_le sound).trans more

/--
The noise discount is a discount exactly where what is ranked on is no loss, or
is more likely real than not.
-/
theorem discounts_iff (spread : 0 < valuation.deviation) :
    valuation.Discounts effect ↔
      0 ≤ (valuation.statsOf effect).expectedY30 ∨
        1 / 2 ≤ (valuation.statsOf effect).pMeaningfulEffect := by
  constructor
  · intro law
    by_contra neither
    rw [not_or, not_le, not_le] at neither
    obtain ⟨loss, unlikely⟩ := neither
    have penalized := law.penalty
    rw [riskPenalty_value, if_pos unlikely] at penalized
    have sign := penalized _ rfl
    have gained :
        0 <
          -(1 - (valuation.statsOf effect).pMeaningfulEffect) *
            (valuation.statsOf effect).expectedY30 :=
      mul_pos_of_neg_of_neg
        (neg_neg_of_pos (sub_pos.mpr probability_lt_one)) loss
    exact absurd sign (not_le.mpr gained)
  · intro sound
    refine ⟨?_, ?_, ?_⟩
    · intro penalty isPenalty
      rw [riskPenalty_value] at isPenalty
      split at isPenalty
      case isTrue unlikely =>
        cases isPenalty
        have gain := sound.resolve_right (not_le.mpr unlikely)
        exact mul_nonpos_of_nonpos_of_nonneg
          (neg_nonpos.mpr (sub_nonneg.mpr probability_lt_one.le)) gain
      case isFalse =>
        cases isPenalty
    · rw [total_value, total_value_unpenalized]
      simpa using intrinsic_le sound
    · intro larger grows
      rw [total_value, total_value]
      simpa using intrinsic_mono spread sound grows

end Laws

/-- What is left above a score that is not negative. -/
def tail (score : ℚ) : ℚ := 1 / (2 * (1 + score) ^ 2)

theorem tail_pos {score : ℚ} (nonnegative : 0 ≤ score) : 0 < tail score := by
  unfold tail
  positivity

theorem tail_lt {score higher : ℚ} (nonnegative : 0 ≤ score) (less : score < higher) :
    tail higher < tail score := by
  have base : 0 < 1 + score := by positivity
  have squares : (1 + score) ^ 2 < (1 + higher) ^ 2 :=
    pow_lt_pow_left₀ (add_lt_add_right less 1) base.le two_ne_zero
  exact one_div_lt_one_div_of_lt (mul_pos two_pos (pow_pos base 2))
      (mul_lt_mul_of_pos_left squares two_pos)

theorem tail_zero : tail 0 = 1 / 2 := by
  norm_num [tail]

theorem tail_le_half {score : ℚ} (nonnegative : 0 ≤ score) : tail score ≤ 1 / 2 := by
  rcases nonnegative.eq_or_lt with isZero | positive
  · rw [← isZero, tail_zero]
  · rw [← tail_zero]
    exact (tail_lt le_rfl positive).le

def squareTailed : Cdf where
  below score := if 0 ≤ score then 1 - tail score else tail (-score)
  increasing := by
    intro score higher less
    by_cases scoreAbove : 0 ≤ score
    · have higherAbove : 0 ≤ higher := scoreAbove.trans less.le
      simp only [if_pos scoreAbove, if_pos higherAbove]
      exact sub_lt_sub_left (tail_lt scoreAbove less) 1
    · have scoreBelow : 0 < -score := neg_pos.mpr (not_le.mp scoreAbove)
      by_cases higherAbove : 0 ≤ higher
      · simp only [if_neg scoreAbove, if_pos higherAbove]
        have first := tail_lt le_rfl scoreBelow
        have second := tail_le_half higherAbove
        rw [tail_zero] at first
        linarith
      · have higherBelow : 0 < -higher := neg_pos.mpr (not_le.mp higherAbove)
        simp only [if_neg scoreAbove, if_neg higherAbove]
        exact tail_lt higherBelow.le (neg_lt_neg less)
  positive score := by
    by_cases above : 0 ≤ score
    · have half := tail_le_half above
      simp only [if_pos above]
      linarith
    · simp only [if_neg above]
      exact tail_pos (neg_pos.mpr (not_le.mp above)).le
  belowOne score := by
    by_cases above : 0 ≤ score
    · simp only [if_pos above]
      exact sub_lt_self 1 (tail_pos above)
    · have half := tail_le_half (neg_pos.mpr (not_le.mp above)).le
      simp only [if_neg above]
      linarith

def durableDispatch : Valuation where
  cdf := squareTailed
  threshold := 1
  deviation := 1
  stats :=
    { expectedFans := 0
      treatmentEffect := 0
      treatmentStd := 1
      predictStd := 1
      confidence := 10
      treatmentConfidence := 10
      useTreatmentEffect := true
      treatmentEffectY30 := 0
      treatmentStdY30 := 1
      treatmentConfidenceY30 := 10
      usesY30 := true
      pMeaningfulEffect := 1
      bridgeIsReliable := true }
  resourceCostUnits := 1
  decisionMode := .exploit
  terms := ⟨0, none, none, none⟩

theorem durableDispatch_discounts_iff :
    durableDispatch.Discounts 3 ↔
      0 ≤ (durableDispatch.statsOf 3).expectedY30 ∨
        1 / 2 ≤ (durableDispatch.statsOf 3).pMeaningfulEffect :=
  discounts_iff (by decide +kernel)

/--
A loss of ten fans carries a penalty of almost ten fans to its credit, and
ranks above a loss of one.
-/
theorem greaterLoss_ranksHigher :
    (durableDispatch.value (-10)).riskPenalty = some (1435 / 144) ∧
      (durableDispatch.value (-1)).total = -(1 / 18) ∧
      (durableDispatch.value (-10)).total = -(5 / 144) ∧
      ¬ durableDispatch.Discounts (-10) := by
  have penalty : (durableDispatch.value (-10)).riskPenalty = some (1435 / 144) := by
    decide +kernel
  have smaller : (durableDispatch.value (-1)).total = -(1 / 18) := by
    decide +kernel
  have greater : (durableDispatch.value (-10)).total = -(5 / 144) := by
    decide +kernel
  refine ⟨penalty, smaller, greater, ?_⟩
  intro law
  have kept := law.neverSmaller (-1) (by decide +kernel)
  rw [smaller, greater] at kept
  exact absurd kept (by decide +kernel)

end Valuation

end DecisionValue

end CrowdRelay
