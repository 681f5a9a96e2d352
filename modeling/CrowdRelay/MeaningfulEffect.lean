import CrowdRelay.TreatmentEffect

namespace CrowdRelay

open NormalScore PrecisionWeighted

/-!
# The probability of a meaningful effect

The probability is meant to be about the quantity that is ranked on.  The
durable regime reads it from the template alone, while the effect is the
target's: they agree where the target's own evidence leaves the score as it is.
-/

namespace CausalModel

variable (model : CausalModel) (templateId : String) (targetKey : Option String)
  (context : DispatchContext)

def rankedScore : Score where
  distance :=
    model.meaningfulEffectThreshold -
      (model.predictStatsWithTreatmentForTarget templateId targetKey context).treatmentEffect
  square :=
    max
      (model.predictStatsWithTreatmentForTarget templateId targetKey context).treatmentStdSquare
      leastSquare

/-- The standard deviation that is reported. -/
noncomputable def treatmentStd : ℝ :=
  Real.sqrt
    (model.predictStatsWithTreatmentForTarget templateId targetKey context).treatmentStdSquare

/-- The reported probability is that of the reported effect and deviation. -/
def MeaningfulIsRanked (cdf : ℝ → ℝ) : Prop :=
  (model.predictStatsWithTreatmentForTarget templateId targetKey
        context).pMeaningful.probabilityAbove cdf =
    1 -
      cdf
        (((model.meaningfulEffectThreshold -
              (model.predictStatsWithTreatmentForTarget templateId targetKey
                context).treatmentEffect :
              ℚ) :
            ℝ) /
          max (model.treatmentStd templateId targetKey context) leastDeviation)

/--
The target's own durable evidence leaves the template's score as it is: the
shrunken effect is as many of its deviations from the threshold as the
template's prediction is of its own.
-/
def TargetKeepsScore : Prop :=
  let byTemplate := model.treatmentEffectsY30.effects.predict templateId context.subredditType
  let forTarget :=
    model.treatmentEffectsY30.effects.predictForTarget templateId context.subredditType targetKey
  signedSquare (model.meaningfulEffectThreshold - byTemplate.1) *
      max forTarget.2 leastSquare =
    signedSquare (model.meaningfulEffectThreshold - forTarget.1) * max byTemplate.2 leastSquare

variable {model templateId targetKey context}

theorem leastSquare_pos : 0 < leastSquare := by
  decide +kernel

theorem meaningfulIsRanked_iff (cdf : ℝ → ℝ) :
    model.MeaningfulIsRanked templateId targetKey context cdf ↔
      (model.predictStatsWithTreatmentForTarget templateId targetKey
            context).pMeaningful.probabilityAbove cdf =
        (model.rankedScore templateId targetKey context).probabilityAbove
          cdf := by
  unfold MeaningfulIsRanked treatmentStd
  rw [← Score.value_max _ _ (by decide +kernel)]
  rfl

section Durable

variable (durable : model.y30Confident templateId targetKey context = true)

include durable

theorem rankedEffect_of_durable :
    model.rankedEffect templateId targetKey context =
      { effect := (model.statsY30 templateId targetKey context).tau
        stdSquare := (model.statsY30 templateId targetKey context).stdSquare
        confidence := (model.statsY30 templateId targetKey context).confidence
        useTreatment := true
        usesY30 := true } := by
  unfold rankedEffect
  rw [durable]
  rfl

theorem meaningfulScore_of_durable :
    model.meaningfulScore templateId targetKey context =
      model.treatmentEffectsY30.pMeaningfulEffect templateId
        context.subredditType model.meaningfulEffectThreshold := by
  unfold meaningfulScore
  rw [rankedEffect_of_durable durable]
  rfl

theorem rankedScore_of_durable :
    model.rankedScore templateId targetKey context =
      { distance :=
          model.meaningfulEffectThreshold -
            (model.treatmentEffectsY30.effects.predictForTarget templateId
              context.subredditType targetKey).1
        square := max
            (model.treatmentEffectsY30.effects.predictForTarget templateId
              context.subredditType targetKey).2
            leastSquare } := by
  unfold rankedScore predictStatsWithTreatmentForTarget
  rw [rankedEffect_of_durable durable]
  exact congrArg (Score.mk _) (max_eq_left (le_max_right _ _))

theorem probabilityAbove_durable {cdf : ℝ → ℝ} (increasing : StrictMono cdf) :
    (model.predictStatsWithTreatmentForTarget templateId targetKey
            context).pMeaningful.probabilityAbove cdf =
        (model.rankedScore templateId targetKey context).probabilityAbove cdf ↔
      model.TargetKeepsScore templateId targetKey context := by
  change (model.meaningfulScore templateId targetKey context).probabilityAbove cdf =
      _ ↔ _
  rw [meaningfulScore_of_durable durable, rankedScore_of_durable durable,
    Score.probabilityAbove_eq_iff increasing (lt_max_of_lt_right leastSquare_pos)
      (lt_max_of_lt_right leastSquare_pos)]
  rfl

end Durable

/-- Ten randomized durable effects: five of six fans at one target, then five
of no effect anywhere in particular. -/
def betterTarget : CausalModel :=
  (List.replicate 5
          (randomizedEffect "community-engager" (some "community:good") 6) ++
        List.replicate 5 (randomizedEffect "community-engager" none 0)).foldl
    updateTreatmentEffectY30ForTarget new

end CausalModel

end CrowdRelay
