import Mathlib.Algebra.Order.Ring.Rat
import Mathlib.Data.Rat.Cast.Order
import Mathlib.Tactic.Linarith
import Mathlib.Tactic.Ring
import CrowdRelay.ActionPayload
import CrowdRelay.ProportionalShares

namespace CrowdRelay

open ProportionalShares

/-!
# The credit ledger

When a fan outcome is observed, its credit is shared among the actions that
could have produced it, in proportion to observable facts and a bounded nudge
of the model's prior.  Amounts are exact rationals.
-/

/-- The maximum influence the model posterior has on the allocation. -/
def boundedPriorWeight : ℚ := 1 / 5

structure FanOutcome where
  observedIncrementalFans : ℚ
  durableFans30d : Option ℚ
  deriving DecidableEq

structure ActionExposure where
  actionId : Uuid
  exposureDelivered : Bool
  temporalProximity : ℚ
  audienceMatch : ℚ
  attributionConfidence : ℚ
  treatmentEffectPrior : ℚ
  deriving DecidableEq

inductive AttributionMethod where
  | proportional
  deriving Repr, DecidableEq

structure CreditEntry where
  actionId : Uuid
  creditWeight : ℚ
  creditedIncrementalY14 : ℚ
  creditedIncrementalY30 : Option ℚ
  attributionConfidence : ℚ
  isCausalEvidence : Bool
  deriving DecidableEq

structure AttributionResult where
  credits : List CreditEntry
  unattributed : ℚ
  method : AttributionMethod
  deriving DecidableEq

/-- A function that squashes the numbers into the interval from -1 to 1. -/
abbrev Squash := ℚ → { value : ℚ // -1 ≤ value ∧ value ≤ 1 }

section Allocation

variable (tanh : Squash)

/-- The raw weight of an action: facts first, the prior as a nudge. -/
def ActionExposure.weight (action : ActionExposure) : ℚ :=
  if action.exposureDelivered then
    let observable := action.temporalProximity * action.audienceMatch * action.attributionConfidence
    let priorNudge := 1 + boundedPriorWeight * (tanh action.treatmentEffectPrior).val
    observable * priorNudge
  else
    0

variable (outcome : FanOutcome)

def creditEntry (totalAttributionMass normalized : ℚ)
    (action : ActionExposure) : CreditEntry where
  actionId := action.actionId
  creditWeight := normalized * totalAttributionMass
  creditedIncrementalY14 := normalized * totalAttributionMass * outcome.observedIncrementalFans
  creditedIncrementalY30 := outcome.durableFans30d.map (normalized * totalAttributionMass * ·)
  attributionConfidence := action.attributionConfidence
  isCausalEvidence := false

/-- Where the loop over the actions stands. -/
structure CreditProgress where
  credits : List CreditEntry
  totalCreditedY14 : ℚ

def creditStep (totalWeight totalAttributionMass : ℚ) (progress : CreditProgress)
    (weighted : ActionExposure × ℚ) : CreditProgress :=
  if weighted.2 ≤ 0 then
    progress
  else
    let entry := creditEntry outcome totalAttributionMass (weighted.2 / totalWeight) weighted.1
    {
      credits := progress.credits ++ [entry]
      totalCreditedY14 := progress.totalCreditedY14 + entry.creditedIncrementalY14
    }

def allocate
    (competingActions : List ActionExposure) : AttributionResult :=
  let weights := competingActions.map (ActionExposure.weight tanh)
  let totalWeight := weights.sum
  if totalWeight ≤ 0 then
    {
      credits := []
      unattributed := outcome.observedIncrementalFans
      method := .proportional
    }
  else
    let positiveActions :=
      ((competingActions.zip weights).filter fun weighted => decide (0 < weighted.2)).map Prod.fst
    let meanConfidence := mean (positiveActions.map ActionExposure.attributionConfidence)
    let totalAttributionMass := min meanConfidence 1
    let credited :=
      (competingActions.zip weights).foldl
        (creditStep outcome totalWeight totalAttributionMass) ⟨[], 0⟩
    {
      credits := credited.credits
      unattributed := max (outcome.observedIncrementalFans - credited.totalCreditedY14) 0
      method := .proportional
    }

end Allocation

/-!
## Credit is conserved

The credited fans are the attributed part of the observed ones.  What is left
is kept as the unattributed residual, unless fans were lost: the last step of
the allocation has no negative residual.
-/

structure ActionExposure.Graded (action : ActionExposure) : Prop where
  proximity : 0 ≤ action.temporalProximity ∧ action.temporalProximity ≤ 1
  audience : 0 ≤ action.audienceMatch ∧ action.audienceMatch ≤ 1
  confidence :
    0 ≤ action.attributionConfidence ∧ action.attributionConfidence ≤ 1

/-- An action that was delivered, and matches on every fact. -/
def ActionExposure.Counts (action : ActionExposure) : Prop :=
  action.exposureDelivered = true ∧ 0 < action.temporalProximity ∧
    0 < action.audienceMatch ∧ 0 < action.attributionConfidence

variable {tanh : Squash}

section Weights

variable {action : ActionExposure}

theorem priorNudge_pos (prior : ℚ) : 0 < 1 + boundedPriorWeight * (tanh prior).val := by
  have bounded := (tanh prior).property.1
  unfold boundedPriorWeight
  linarith

theorem weight_nonneg (graded : action.Graded) : 0 ≤ action.weight tanh := by
  obtain ⟨⟨proximity, _⟩, ⟨audience, _⟩, ⟨confidence, _⟩⟩ := graded
  unfold ActionExposure.weight
  split
  case isTrue =>
    exact mul_nonneg (mul_nonneg (mul_nonneg proximity audience) confidence)
      (le_of_lt (priorNudge_pos _))
  case isFalse => exact le_refl 0

theorem weight_pos_iff (graded : action.Graded) : 0 < action.weight tanh ↔ action.Counts := by
  obtain ⟨⟨proximity, _⟩, ⟨audience, _⟩, ⟨confidence, _⟩⟩ := graded
  unfold ActionExposure.weight ActionExposure.Counts
  split
  case isTrue delivered =>
    rw [mul_pos_iff_of_pos_right (priorNudge_pos _)]
    constructor
    · intro positive
      have facts :
          action.temporalProximity ≠ 0 ∧ action.audienceMatch ≠ 0 ∧
            action.attributionConfidence ≠ 0 := by
        refine ⟨?_, ?_, ?_⟩ <;> intro zero <;> rw [zero] at positive <;>
          simp at positive
      exact ⟨delivered, lt_of_le_of_ne proximity facts.1.symm,
        lt_of_le_of_ne audience facts.2.1.symm,
        lt_of_le_of_ne confidence facts.2.2.symm⟩
    · rintro ⟨_, near, matched, sure⟩
      exact mul_pos (mul_pos near matched) sure
  case isFalse notDelivered =>
    constructor
    · intro impossible
      exact (lt_irrefl 0 impossible).elim
    · rintro ⟨delivered, _⟩
      exact (notDelivered delivered).elim

end Weights

section Allocation

variable {outcome : FanOutcome} {actions : List ActionExposure}

def positiveActions (tanh : Squash)
    (actions : List ActionExposure) : List ActionExposure :=
  actions.filter fun action => decide (0 < action.weight tanh)

theorem zip_weights :
    actions.zip (actions.map (ActionExposure.weight tanh)) =
      actions.map fun action => (action, action.weight tanh) := by
  induction actions with
  | nil => rfl
  | cons action rest inductionHypothesis => simp [inductionHypothesis]

theorem positiveActions_eq :
    ((actions.zip (actions.map (ActionExposure.weight tanh))).filter
        fun weighted => decide (0 < weighted.2)).map Prod.fst =
      positiveActions tanh actions := by
  rw [zip_weights, List.filter_map, List.map_map]
  exact List.map_id _

/-- The loop credits the actions of positive weight, in their order. -/
theorem foldl_creditStep (total mass : ℚ) (progress : CreditProgress) :
    (actions.map fun action => (action, action.weight tanh)).foldl
        (creditStep outcome total mass) progress =
      {
        credits := progress.credits ++ (positiveActions tanh actions).map fun action =>
              creditEntry outcome mass (action.weight tanh / total) action
        totalCreditedY14 := progress.totalCreditedY14 +
            ((positiveActions tanh actions).map fun action =>
              action.weight tanh / total * mass * outcome.observedIncrementalFans).sum
      } := by
  induction actions generalizing progress with
  | nil => simp [positiveActions]
  | cons action rest inductionHypothesis =>
    rw [List.map_cons, List.foldl_cons, inductionHypothesis]
    by_cases positive : 0 < action.weight tanh
    · have kept : positiveActions tanh (action :: rest) = action :: positiveActions tanh rest := by
        simp [positiveActions, positive]
      simp [creditStep, not_le_of_gt positive, kept, creditEntry, add_assoc]
    · have skipped : positiveActions tanh (action :: rest) = positiveActions tanh rest := by
        simp [positiveActions, positive]
      simp [creditStep, le_of_not_gt positive, skipped]

def attributionMass (tanh : Squash)
    (actions : List ActionExposure) : ℚ :=
  min
    (mean ((positiveActions tanh actions).map ActionExposure.attributionConfidence))
    1

def totalWeight (tanh : Squash) (actions : List ActionExposure) : ℚ :=
  (actions.map (ActionExposure.weight tanh)).sum

theorem allocate_of_no_weight (none : totalWeight tanh actions ≤ 0) :
    allocate tanh outcome actions = ⟨[], outcome.observedIncrementalFans, .proportional⟩ := by
  unfold allocate
  exact if_pos none

theorem allocate_of_weight (some : ¬ totalWeight tanh actions ≤ 0) :
    allocate tanh outcome actions =
      {
        credits := (positiveActions tanh actions).map fun action =>
            creditEntry outcome (attributionMass tanh actions)
              (action.weight tanh / totalWeight tanh actions) action
        unattributed := max
            (outcome.observedIncrementalFans -
              ((positiveActions tanh actions).map fun action =>
                action.weight tanh / totalWeight tanh actions *
                  attributionMass tanh actions * outcome.observedIncrementalFans).sum)
            0
        method := .proportional
      } := by
  have someWeight : ¬ (actions.map (ActionExposure.weight tanh)).sum ≤ 0 := some
  simp only [allocate, if_neg someWeight, positiveActions_eq]
  rw [zip_weights, foldl_creditStep]
  simp [attributionMass, totalWeight]

theorem sum_positive_weights (tanh : Squash) (graded : ∀ action ∈ actions, action.Graded) :
    ((positiveActions tanh actions).map (ActionExposure.weight tanh)).sum =
      totalWeight tanh actions := by
  have nonnegative : ∀ weight ∈ actions.map (ActionExposure.weight tanh), 0 ≤ weight := by
    intro weight member
    obtain ⟨action, isAction, isWeight⟩ := List.mem_map.mp member
    rw [← isWeight]
    exact weight_nonneg (graded action isAction)
  have positives := sum_positive nonnegative
  rw [List.filter_map] at positives
  exact positives

theorem sum_creditWeights (graded : ∀ action ∈ actions, action.Graded)
    (some : totalWeight tanh actions ≠ 0) (part : ℚ) :
    ((positiveActions tanh actions).map fun action =>
      action.weight tanh / totalWeight tanh actions * part).sum = part := by
  have positives := sum_positive_weights tanh graded
  have shared := sum_shares ((positiveActions tanh actions).map (ActionExposure.weight tanh))
      (by rw [positives]; exact some) part
  rw [positives, List.map_map] at shared
  exact shared

theorem confidence_of_positive (graded : ∀ action ∈ actions, action.Graded) {confidence : ℚ}
    (member :
      confidence ∈ (positiveActions tanh actions).map ActionExposure.attributionConfidence) :
    0 ≤ confidence ∧ confidence ≤ 1 := by
  obtain ⟨action, isPositive, isConfidence⟩ := List.mem_map.mp member
  rw [← isConfidence]
  exact (graded action (List.mem_of_mem_filter isPositive)).confidence

theorem attributionMass_nonneg (tanh : Squash) (graded : ∀ action ∈ actions, action.Graded) :
    0 ≤ attributionMass tanh actions :=
  le_min (mean_nonneg fun _ member => (confidence_of_positive graded member).1) zero_le_one

theorem attributionMass_le_one (tanh : Squash) (actions : List ActionExposure) :
    attributionMass tanh actions ≤ 1 :=
  min_le_right _ _

theorem attributionMass_eq_one_iff (graded : ∀ action ∈ actions, action.Graded)
    (some : positiveActions tanh actions ≠ []) :
    attributionMass tanh actions = 1 ↔
      ∀ action ∈ actions, action.Counts → action.attributionConfidence = 1 := by
  have atMostOne :
      ∀ confidence ∈
        (positiveActions tanh actions).map ActionExposure.attributionConfidence, confidence ≤ 1 :=
    fun _ member => (confidence_of_positive graded member).2
  unfold attributionMass
  rw [min_eq_left (mean_le_one atMostOne), mean_eq_one_iff (by simpa using some) atMostOne]
  constructor
  · intro certain action member counts
    refine certain _ (List.mem_map_of_mem ?_)
    refine List.mem_filter.mpr ⟨member, ?_⟩
    exact decide_eq_true ((weight_pos_iff (graded action member)).mpr counts)
  · intro certain confidence member
    obtain ⟨action, isPositive, isConfidence⟩ := List.mem_map.mp member
    obtain ⟨isAction, positive⟩ := List.mem_filter.mp isPositive
    rw [← isConfidence]
    exact certain action isAction
      ((weight_pos_iff (graded action isAction)).mp (of_decide_eq_true positive))

structure CreditConserved
    (outcome : FanOutcome)
    (actions : List ActionExposure)
    (result : AttributionResult) : Prop where
  conserved :
    (result.credits.map CreditEntry.creditedIncrementalY14).sum +
        result.unattributed =
      outcome.observedIncrementalFans
  nonnegative : ∀ credit ∈ result.credits, 0 ≤ credit.creditWeight
  atMostOne : (result.credits.map CreditEntry.creditWeight).sum ≤ 1
  /-- credit goes to delivered actions, at most one entry for each -/
  delivered :
    (result.credits.map CreditEntry.actionId).Sublist
      ((actions.filter ActionExposure.exposureDelivered).map
        ActionExposure.actionId)
  /-- both horizons are shared by the same weights -/
  proportions :
    ∀ credit ∈ result.credits,
      credit.creditedIncrementalY14 =
          credit.creditWeight * outcome.observedIncrementalFans ∧
        credit.creditedIncrementalY30 =
          outcome.durableFans30d.map (credit.creditWeight * ·)

theorem delivered_of_positive {action : ActionExposure} (positive : 0 < action.weight tanh) :
    action.exposureDelivered = true := by
  by_contra notDelivered
  simp [ActionExposure.weight, notDelivered] at positive

theorem positiveActions_sublist :
    (positiveActions tanh actions).Sublist (actions.filter ActionExposure.exposureDelivered) := by
  have stricter :
      positiveActions tanh actions = (actions.filter ActionExposure.exposureDelivered).filter
          fun action => decide (0 < action.weight tanh) := by
    rw [List.filter_filter]
    refine List.filter_congr ?_
    intro action _
    by_cases positive : 0 < action.weight tanh
    · simp [positive, delivered_of_positive positive]
    · simp [positive]
  rw [stricter]
  exact List.filter_sublist

theorem no_weight_iff (graded : ∀ action ∈ actions, action.Graded) :
    totalWeight tanh actions ≤ 0 ↔ positiveActions tanh actions = [] := by
  constructor
  · intro none
    refine List.filter_eq_nil_iff.mpr ?_
    intro action member positive
    have part := List.single_le_sum (l := actions.map (ActionExposure.weight tanh))
        (by
          intro weight isWeight
          obtain ⟨other, isAction, same⟩ := List.mem_map.mp isWeight
          rw [← same]
          exact weight_nonneg (graded other isAction))
        _ (List.mem_map_of_mem member)
    exact absurd (of_decide_eq_true positive) (not_lt_of_ge (part.trans none))
  · intro none
    rw [← sum_positive_weights tanh graded, none]
    exact le_refl 0

theorem sum_credited (graded : ∀ action ∈ actions, action.Graded)
    (some : ¬ totalWeight tanh actions ≤ 0) :
    ((positiveActions tanh actions).map fun action =>
        action.weight tanh / totalWeight tanh actions *
          attributionMass tanh actions * outcome.observedIncrementalFans).sum =
      attributionMass tanh actions * outcome.observedIncrementalFans := by
  have nonzero : totalWeight tanh actions ≠ 0 := fun zero => some (le_of_eq zero)
  rw [← sum_creditWeights graded nonzero
    (attributionMass tanh actions * outcome.observedIncrementalFans)]
  simp only [mul_assoc]

theorem residual_kept_iff {mass observed : ℚ} (massAtMostOne : mass ≤ 1) :
    mass * observed + max (observed - mass * observed) 0 = observed ↔ 0 ≤ observed ∨ mass = 1 := by
  constructor
  · intro whole
    by_contra neither
    rw [not_or, not_le] at neither
    obtain ⟨loss, uncertain⟩ := neither
    have part : mass < 1 := lt_of_le_of_ne massAtMostOne uncertain
    have dropped : observed - mass * observed < 0 := by
      have negative : (1 - mass) * observed < 0 := mul_neg_of_pos_of_neg (sub_pos.mpr part) loss
      linarith
    rw [max_eq_right (le_of_lt dropped), add_zero] at whole
    linarith
  · rintro (gain | certain)
    · have kept : 0 ≤ observed - mass * observed := by
        have nonnegative : 0 ≤ (1 - mass) * observed :=
          mul_nonneg (sub_nonneg.mpr massAtMostOne) gain
        linarith
      rw [max_eq_left kept, add_sub_cancel]
    · rw [certain, one_mul, sub_self, max_self, add_zero]

/-- Credit is conserved exactly where fans were gained, or nobody counts, or
everybody who counts is certain: an uncertain share of a loss is dropped. -/
theorem credit_conserved_iff
    (tanh : Squash)
    (outcome : FanOutcome)
    (actions : List ActionExposure)
    (graded : ∀ action ∈ actions, action.Graded) :
    CreditConserved outcome actions (allocate tanh outcome actions) ↔
      0 ≤ outcome.observedIncrementalFans ∨
        ∀ action ∈ actions, action.Counts → action.attributionConfidence = 1 := by
  by_cases none : totalWeight tanh actions ≤ 0
  · have noPositive := (no_weight_iff graded).mp none
    have nobody :
        ∀ action ∈ actions, action.Counts → action.attributionConfidence = 1 := by
      intro action member counts
      have positive : 0 < action.weight tanh := (weight_pos_iff (graded action member)).mpr counts
      have listed : action ∈ positiveActions tanh actions :=
        List.mem_filter.mpr ⟨member, decide_eq_true positive⟩
      rw [noPositive] at listed
      cases listed
    rw [allocate_of_no_weight none]
    constructor
    · intro _
      exact Or.inr nobody
    · intro _
      refine ⟨?_, ?_, ?_, ?_, ?_⟩ <;> simp
  · have nonzero : totalWeight tanh actions ≠ 0 :=
      fun zero => none (le_of_eq zero)
    have somePositive : positiveActions tanh actions ≠ [] :=
      fun empty => none ((no_weight_iff graded).mpr empty)
    have massNonnegative := attributionMass_nonneg tanh graded
    have massAtMostOne := attributionMass_le_one tanh actions
    have credited := @sum_credited tanh outcome actions graded none
    rw [allocate_of_weight none, credited, ← attributionMass_eq_one_iff graded somePositive]
    have sumOfCredits :
        (((positiveActions tanh actions).map fun action =>
            creditEntry outcome (attributionMass tanh actions)
              (action.weight tanh / totalWeight tanh actions) action).map
            CreditEntry.creditedIncrementalY14).sum =
          attributionMass tanh actions * outcome.observedIncrementalFans := by
      rw [List.map_map, ← credited]
      rfl
    constructor
    · intro holds
      have whole := holds.conserved
      simp only [sumOfCredits] at whole
      exact (residual_kept_iff massAtMostOne).mp whole
    · intro condition
      refine ⟨?_, ?_, ?_, ?_, ?_⟩
      · simp only [sumOfCredits]
        exact (residual_kept_iff massAtMostOne).mpr condition
      · intro credit member
        obtain ⟨action, isPositive, isCredit⟩ := List.mem_map.mp member
        have positive := of_decide_eq_true (List.mem_filter.mp isPositive).2
        rw [← isCredit]
        exact mul_nonneg
          (div_nonneg (le_of_lt positive) (le_of_lt (lt_of_not_ge none)))
          massNonnegative
      · have sumOfWeights := sum_creditWeights graded nonzero (attributionMass tanh actions)
        simp only [List.map_map]
        exact le_trans (le_of_eq sumOfWeights) massAtMostOne
      · simp only [List.map_map]
        exact positiveActions_sublist.map ActionExposure.actionId
      · intro credit member
        obtain ⟨action, _, isCredit⟩ := List.mem_map.mp member
        rw [← isCredit]
        exact ⟨rfl, rfl⟩

end Allocation

def noPrior : Squash := fun _ => ⟨0, by decide +kernel⟩

/-- Ten fans fewer than expected. -/
def quietLoss : FanOutcome where
  observedIncrementalFans := -10
  durableFans30d := some (-4)

/-- A delivered action, in the attribution of which there is some doubt. -/
def halfSure : ActionExposure where
  actionId := 7
  exposureDelivered := true
  temporalProximity := 1
  audienceMatch := 1
  attributionConfidence := 1 / 2
  treatmentEffectPrior := 0

theorem halfSure_graded : ∀ action ∈ [halfSure], action.Graded := by
  intro action member
  rw [List.mem_singleton.mp member]
  exact ⟨by decide +kernel, by decide +kernel, by decide +kernel⟩

theorem quiet_loss_conserved_iff :
    CreditConserved quietLoss [halfSure]
        (allocate noPrior quietLoss [halfSure]) ↔
      0 ≤ quietLoss.observedIncrementalFans ∨
        ∀ action ∈ [halfSure], action.Counts → action.attributionConfidence = 1 :=
  credit_conserved_iff noPrior quietLoss [halfSure] halfSure_graded

/-- Half of the loss is credited, and the other half is in no residual. -/
theorem uncertain_loss_is_dropped :
    (∀ action ∈ [halfSure], action.Graded) ∧
      ((allocate noPrior quietLoss [halfSure]).credits.map
          CreditEntry.creditedIncrementalY14).sum = -5 ∧
      (allocate noPrior quietLoss [halfSure]).unattributed = 0 ∧
      ¬ CreditConserved quietLoss [halfSure]
        (allocate noPrior quietLoss [halfSure]) := by
  have credited :
      ((allocate noPrior quietLoss [halfSure]).credits.map
        CreditEntry.creditedIncrementalY14).sum = -5 := by
    decide +kernel
  have residual : (allocate noPrior quietLoss [halfSure]).unattributed = 0 := by
    decide +kernel
  refine ⟨halfSure_graded, credited, residual, ?_⟩
  intro holds
  have whole := holds.conserved
  rw [credited, residual] at whole
  revert whole
  decide +kernel

end CrowdRelay
