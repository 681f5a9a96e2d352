import Mathlib.Data.Rat.Floor
import CrowdRelay.HierarchicalPosterior
import CrowdRelay.Y14Y30Bridge
import CrowdRelay.NormalScore

namespace CrowdRelay

open MachineInt Ranged PrecisionWeighted

/-!
# Treatment effects, and when they are ranked on

A treatment effect moves with every estimate of it.  Apart from that a
template earns confidence by the quality of its evidence, and from enough
confidence on, the effect is what the brain ranks by: the durable effect where
it is known, else the fourteen-day effect carried across the bridge.
-/

structure TreatmentEffectPosterior (Scalar : Type) where
  effects : HierarchicalPosterior Scalar
  effectiveObservations : String → Option ℚ

structure EffectObservation (Scalar : Type) where
  templateId : String
  subredditType : Option String
  targetKey : Option String
  observedTau : Scalar
  observationVariance : Scalar
  quality : EvidenceQuality
  deriving DecidableEq

/-- What rounding may have taken off a sum of weights. -/
def massEpsilon : ℚ := 1 / 1000000000

def wholeObservations (mass : ℚ) : U32 := saturate ⌊max mass 0 + massEpsilon⌋

def EvidenceQuality.weight (quality : EvidenceQuality) : ℚ := quality.baseWeight

namespace TreatmentEffectPosterior

section Updates

variable {Scalar : Type} [Add Scalar] [Mul Scalar] [Div Scalar] [Zero Scalar] [One Scalar]
  [LE Scalar] [DecidableLE Scalar] [FiniteTest Scalar]

/-- No effect, until evidence proves otherwise. -/
def new (priorMean priorVariance : Scalar) :
    TreatmentEffectPosterior Scalar where
  effects := .new (NormalPosterior.prior priorMean priorVariance)
  effectiveObservations _ := none

variable (posterior : TreatmentEffectPosterior Scalar)

/-- Moves the estimate, and adds the weight of the quality. -/
def updateWithQuality (observed : EffectObservation Scalar) :
    TreatmentEffectPosterior Scalar where
  effects :=
    posterior.effects.updateSignedWithTarget (some observed.templateId)
      observed.subredditType observed.targetKey observed.observedTau
      observed.observationVariance
  effectiveObservations other :=
    if other = observed.templateId then
      some ((posterior.effectiveObservations observed.templateId).getD 0 + observed.quality.weight)
    else
      posterior.effectiveObservations other

variable (templateId : String)

/-- The confidence in a template, in whole observations. -/
def confidence : U32 := wholeObservations ((posterior.effectiveObservations templateId).getD 0)

/-- The raw number of observations, for reports. -/
def observationCount : Nat := posterior.effects.confidence templateId

end Updates

end TreatmentEffectPosterior

open NormalScore

/-!
## The effect that is ranked on

The durable effect is ranked on where it is known.  Where only the fourteen-day
effect is, it is carried across the bridge, with the bridge's own uncertainty.
A standard deviation is kept as its square.
-/

def leastDeviation : ℚ := 1 / 10

def leastSquare : ℚ := leastDeviation * leastDeviation

/-- A template's effect with its deviation, squared, and its confidence. -/
structure EffectStats where
  tau : ℚ
  stdSquare : ℚ
  confidence : U32
  deriving DecidableEq

namespace TreatmentEffectPosterior

variable (posterior : TreatmentEffectPosterior ℚ) (templateId : String)

def predictStatsForTarget
    (subredditType targetKey : Option String) : EffectStats :=
  let predicted := posterior.effects.predictForTarget templateId subredditType targetKey
  { tau := predicted.1
    stdSquare := max predicted.2 leastSquare
    confidence := posterior.confidence templateId }

/-- The score of a template's effect against a threshold. -/
def pMeaningfulEffect (subredditType : Option String)
    (delta : ℚ) : Score :=
  let predicted := posterior.effects.predict templateId subredditType
  { distance := delta - predicted.1
    square := max predicted.2 leastSquare }

end TreatmentEffectPosterior

structure CausalModel where
  meaningfulEffectThreshold : ℚ
  treatmentEffects : TreatmentEffectPosterior ℚ
  treatmentEffectsY30 : TreatmentEffectPosterior ℚ
  bridge : Y14Y30Bridge

def priorVariance : ℚ := 4

def meaningfulEffectThresholdDefault : ℚ := 1

def minTreatmentConfidence : U32 := 5

structure TreatmentAwareStats where
  treatmentEffect : ℚ
  treatmentStdSquare : ℚ
  treatmentConfidence : U32
  useTreatmentEffect : Bool
  treatmentEffectY30 : ℚ
  treatmentStdY30Square : ℚ
  treatmentConfidenceY30 : U32
  usesY30 : Bool
  pMeaningful : Score
  bridgeConfidence : Nat
  bridgeIsReliable : Bool
  deriving DecidableEq

namespace CausalModel

def new : CausalModel where
  meaningfulEffectThreshold := meaningfulEffectThresholdDefault
  treatmentEffects := .new 0 priorVariance
  treatmentEffectsY30 := .new 0 priorVariance
  bridge := .new

variable (model : CausalModel) (observed : EffectObservation ℚ)

/-- Learns an estimate of a fourteen-day effect. -/
def updateTreatmentEffectForTarget : CausalModel :=
  { model with
    treatmentEffects := model.treatmentEffects.updateWithQuality observed }

/-- Learns an estimate of a durable effect. -/
def updateTreatmentEffectY30ForTarget : CausalModel :=
  { model with
    treatmentEffectsY30 := model.treatmentEffectsY30.updateWithQuality observed }

def updateBridge (pair : BridgePair) : CausalModel :=
  { model with bridge := model.bridge.update pair }

variable (templateId : String) (targetKey : Option String) (context : DispatchContext)

/-- The fourteen-day effect, the early signal. -/
def statsY14 : EffectStats :=
  model.treatmentEffects.predictStatsForTarget templateId context.subredditType targetKey

/-- The durable effect, which arrives later. -/
def statsY30 : EffectStats :=
  model.treatmentEffectsY30.predictStatsForTarget templateId context.subredditType targetKey

def y30Confident : Bool :=
  minTreatmentConfidence ≤ (model.statsY30 templateId targetKey context).confidence

def y14Confident : Bool :=
  minTreatmentConfidence ≤ (model.statsY14 templateId targetKey context).confidence

/-- The part of the statistics that the regimes differ in. -/
structure RankedEffect where
  effect : ℚ
  stdSquare : ℚ
  confidence : U32
  useTreatment : Bool
  usesY30 : Bool
  deriving DecidableEq

def rankedEffect : RankedEffect :=
  let y14 := model.statsY14 templateId targetKey context
  let y30 := model.statsY30 templateId targetKey context
  if model.y30Confident templateId targetKey context then
    { effect := y30.tau
      stdSquare := y30.stdSquare
      confidence := y30.confidence
      useTreatment := true
      usesY30 := true }
  else if model.y14Confident templateId targetKey context then
    -- The fourteen-day deviation is added as it is, whatever the slope.
    let bridged := model.bridge.predict y14.tau
    { effect := bridged.1
      stdSquare := y14.stdSquare + bridged.2
      confidence := y14.confidence
      useTreatment := true
      usesY30 := false }
  else
    { effect := y14.tau
      stdSquare := y14.stdSquare
      confidence := y14.confidence
      useTreatment := false
      usesY30 := false }

def meaningfulScore : Score :=
  let ranked := model.rankedEffect templateId targetKey context
  if ranked.usesY30 then
    model.treatmentEffectsY30.pMeaningfulEffect templateId
      context.subredditType model.meaningfulEffectThreshold
  else if ranked.useTreatment then
    { distance := model.meaningfulEffectThreshold - ranked.effect
      square := max ranked.stdSquare leastSquare }
  else
    model.treatmentEffects.pMeaningfulEffect templateId
      context.subredditType model.meaningfulEffectThreshold

def predictStatsWithTreatmentForTarget : TreatmentAwareStats :=
  let ranked := model.rankedEffect templateId targetKey context
  let y30 := model.statsY30 templateId targetKey context
  { treatmentEffect := ranked.effect
    treatmentStdSquare := ranked.stdSquare
    treatmentConfidence := ranked.confidence
    useTreatmentEffect := ranked.useTreatment
    treatmentEffectY30 := y30.tau
    treatmentStdY30Square := y30.stdSquare
    treatmentConfidenceY30 := y30.confidence
    usesY30 := ranked.usesY30
    pMeaningful := model.meaningfulScore templateId targetKey context
    bridgeConfidence := model.bridge.confidence
    bridgeIsReliable := minBridgeConfidence ≤ model.bridge.confidence }

/-! ## The uncertainty that is carried across -/

/-- Only the fourteen-day effect is known. -/
def Bridged : Prop :=
  model.y30Confident templateId targetKey context = false ∧
    model.y14Confident templateId targetKey context = true

/-- The reported deviation is at least that of the linear map of the
fourteen-day belief with the bridge's noise, so at least the scaled one. -/
structure CarriesUncertainty : Prop where
  variance :
    model.bridge.slope * model.bridge.slope *
          (model.statsY14 templateId targetKey context).stdSquare +
        (model.bridge.predict
          (model.statsY14 templateId targetKey context).tau).2 ≤
      (model.predictStatsWithTreatmentForTarget templateId targetKey
        context).treatmentStdSquare
  scaled :
    model.bridge.slope * model.bridge.slope *
        (model.statsY14 templateId targetKey context).stdSquare ≤
      (model.predictStatsWithTreatmentForTarget templateId targetKey
        context).treatmentStdSquare

variable {model templateId targetKey context}

theorem stdSquare_pos (posterior : TreatmentEffectPosterior ℚ) (templateId : String)
    (subredditType targetKey : Option String) :
    0 < (posterior.predictStatsForTarget templateId subredditType targetKey).stdSquare :=
  lt_max_of_lt_right (by decide +kernel)

theorem predict_variance_pos (bridge : Y14Y30Bridge) (y14 : ℚ) : 0 < (bridge.predict y14).2 :=
  lt_max_of_lt_right (by decide +kernel)

theorem treatmentStdSquare_bridged (bridged : model.Bridged templateId targetKey context) :
    (model.predictStatsWithTreatmentForTarget templateId targetKey context).treatmentStdSquare =
      (model.statsY14 templateId targetKey context).stdSquare +
        (model.bridge.predict (model.statsY14 templateId targetKey context).tau).2 := by
  unfold predictStatsWithTreatmentForTarget rankedEffect
  rw [bridged.1, bridged.2]
  rfl

/-- A slope between minus one and one is what the report allows for. -/
theorem carriesUncertainty_iff
    (bridged : model.Bridged templateId targetKey context) :
    model.CarriesUncertainty templateId targetKey context ↔
      |model.bridge.slope| ≤ 1 := by
  have spread : 0 < (model.statsY14 templateId targetKey context).stdSquare := stdSquare_pos _ _ _ _
  have noise := predict_variance_pos model.bridge
      (model.statsY14 templateId targetKey context).tau
  have slopes :
      model.bridge.slope * model.bridge.slope *
            (model.statsY14 templateId targetKey context).stdSquare ≤
          (model.statsY14 templateId targetKey context).stdSquare ↔
        |model.bridge.slope| ≤ 1 := by
    rw [mul_le_iff_le_one_left spread, abs_le_one_iff_mul_self_le_one]
  have reported := treatmentStdSquare_bridged bridged
  constructor
  · intro carries
    have variance := carries.variance
    rw [reported, add_le_add_iff_right] at variance
    exact slopes.mp variance
  · intro bounded
    have kept := slopes.mpr bounded
    exact
      { variance := by
          rw [reported]
          exact add_le_add_left kept _
        scaled := by
          rw [reported]
          exact kept.trans (le_add_of_nonneg_right noise.le) }

/-! ## A bridge steeper than one -/

def randomizedEffect (templateId : String) (targetKey : Option String)
    (tau : ℚ) : EffectObservation ℚ where
  templateId := templateId
  subredditType := none
  targetKey := targetKey
  observedTau := tau
  observationVariance := 1
  quality := .randomizedHoldout

/-- A steady context without an event. -/
def plainContext : DispatchContext where
  daysToEvent := none
  fanGrowthTrend := .steady
  subredditType := none
  postFormat := none
  timeOfDayBps := 0
  communityNoveltyBps := 0
  avgCommunityEngagementBps := 0

/-- Five randomized effects of two fans, and the pairs that were seen. -/
def fiveEffects (pairs : List BridgePair) : CausalModel :=
  let learned :=
    (List.replicate 5 (randomizedEffect "community-engager" none 2)).foldl
      updateTreatmentEffectForTarget new
  pairs.foldl updateBridge learned

/-- Half of a fortnight's fans stay. -/
theorem halfStay_carries :
    (fiveEffects [⟨4, 2⟩, ⟨8, 4⟩]).CarriesUncertainty "community-engager"
        none plainContext ↔
      |(fiveEffects [⟨4, 2⟩, ⟨8, 4⟩]).bridge.slope| ≤ 1 :=
  carriesUncertainty_iff ⟨by decide +kernel, by decide +kernel⟩

/-- Three times a fortnight's fans are there after a month. -/
theorem threefold_losesUncertainty :
    ¬ ∀ (model : CausalModel) (templateId : String)
        (targetKey : Option String) (context : DispatchContext),
        model.Bridged templateId targetKey context →
          model.CarriesUncertainty templateId targetKey context := by
  intro carries
  have carried := carries (fiveEffects [⟨4, 12⟩, ⟨8, 24⟩]) "community-engager" none
      plainContext ⟨by decide +kernel, by decide +kernel⟩
  have tooSmall :
      ¬ (fiveEffects [⟨4, 12⟩, ⟨8, 24⟩]).bridge.slope *
              (fiveEffects [⟨4, 12⟩, ⟨8, 24⟩]).bridge.slope *
            ((fiveEffects [⟨4, 12⟩, ⟨8, 24⟩]).statsY14 "community-engager"
              none plainContext).stdSquare +
          ((fiveEffects [⟨4, 12⟩, ⟨8, 24⟩]).bridge.predict
            ((fiveEffects [⟨4, 12⟩, ⟨8, 24⟩]).statsY14 "community-engager"
              none plainContext).tau).2 ≤
        ((fiveEffects [⟨4, 12⟩,
            ⟨8, 24⟩]).predictStatsWithTreatmentForTarget
          "community-engager" none plainContext).treatmentStdSquare := by
    decide +kernel
  exact tooSmall carried.variance

end CausalModel

end CrowdRelay
