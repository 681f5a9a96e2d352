import CrowdRelay.TreatmentEffect

namespace CrowdRelay

open MachineInt Ranged PrecisionWeighted

/-!
# What confidence is bought with

A posterior refuses an observation that is not a number or has no variance to
speak of; the weight of its evidence is added all the same.  Confidence is
earned where every observation was taken.
-/

/-- A floating-point number: an exact rational, or not a number. -/
inductive FloatReading where
  | finite (value : ℚ)
  | nonFinite
  deriving DecidableEq

namespace FloatReading

def lift (operation : ℚ → ℚ → FloatReading) : FloatReading → FloatReading → FloatReading
  | finite first, finite second => operation first second
  | _, _ => nonFinite

instance addition : Add FloatReading where
  add := lift fun first second => finite (first + second)

instance multiplication : Mul FloatReading where
  mul := lift fun first second => finite (first * second)

instance division : Div FloatReading where
  div := lift fun first second =>
    if second = 0 then nonFinite else finite (first / second)

instance zero : Zero FloatReading where
  zero := finite 0

instance one : One FloatReading where
  one := finite 1

/-- Comparisons with what is not a number are false. -/
def atMost : FloatReading → FloatReading → Bool
  | finite first, finite second => first ≤ second
  | _, _ => false

instance comparison : LE FloatReading where
  le first second := atMost first second = true

instance decidableComparison : DecidableLE FloatReading :=
  fun first second => inferInstanceAs (Decidable (atMost first second = true))

instance finiteTest : FiniteTest FloatReading where
  isFinite
    | finite _ => true
    | nonFinite => false

end FloatReading

section Counting

variable {Scalar : Type} [Add Scalar] [Mul Scalar] [Div Scalar] [Zero Scalar] [One Scalar]
  [LE Scalar] [DecidableLE Scalar] [FiniteTest Scalar] {posterior : TreatmentEffectPosterior Scalar}
  {observed : EffectObservation Scalar} {templateId : String}

def EffectObservation.accepted (observed : EffectObservation Scalar) : Bool :=
  NormalPosterior.acceptsSigned observed.observedTau observed.observationVariance

namespace NormalPosterior

theorem count_updateSigned (observation observationVariance : Scalar)
    (posterior : Estimate Scalar) :
    (updateSigned observation observationVariance posterior).count =
      if acceptsSigned observation observationVariance then
        posterior.count + 1
      else
        posterior.count := by
  unfold updateSigned
  cases acceptsSigned observation observationVariance <;> rfl

end NormalPosterior

namespace TreatmentEffectPosterior

theorem observationCount_updateWithQuality (posterior : TreatmentEffectPosterior Scalar)
    (observed : EffectObservation Scalar) (templateId : String) :
    (posterior.updateWithQuality observed).observationCount templateId =
      if templateId = observed.templateId ∧ observed.accepted = true then
        posterior.observationCount templateId + 1
      else
        posterior.observationCount templateId := by
  unfold observationCount HierarchicalPosterior.confidence updateWithQuality
    HierarchicalPosterior.updateSignedWithTarget
  dsimp only
  rw [HierarchicalPosterior.byTemplate_moveLevels]
  by_cases isTemplate : templateId = observed.templateId
  · subst isTemplate
    rw [if_pos rfl]
    simp only [Option.map_some, Option.getD_some, true_and, NormalPosterior.count_updateSigned]
    unfold EffectObservation.accepted
    cases posterior.effects.byTemplate observed.templateId <;> rfl
  · rw [if_neg fun same => isTemplate (Option.some.inj same).symm,
      if_neg fun both => isTemplate both.1]

/-- The mass of a template, counted in weights. -/
def mass (posterior : TreatmentEffectPosterior Scalar)
    (templateId : String) : ℚ :=
  (posterior.effectiveObservations templateId).getD 0

theorem mass_updateWithQuality (posterior : TreatmentEffectPosterior Scalar)
    (observed : EffectObservation Scalar) (templateId : String) :
    (posterior.updateWithQuality observed).mass templateId = posterior.mass templateId +
        if templateId = observed.templateId then
          observed.quality.weight
        else
          0 := by
  simp only [mass, updateWithQuality]
  split
  · rename_i isTemplate
    rw [isTemplate]
    rfl
  · rw [add_zero]

/-- The weights of the observations that a template's posterior took. -/
def absorbedMass (templateId : String) :
    TreatmentEffectPosterior Scalar → List (EffectObservation Scalar) → ℚ
  | _, [] => 0
  | posterior, observed :: rest =>
    (if posterior.observationCount templateId <
        (posterior.updateWithQuality observed).observationCount templateId then
      observed.quality.weight
    else
      0) +
      absorbedMass templateId (posterior.updateWithQuality observed) rest

theorem observationCount_le_foldl (updates : List (EffectObservation Scalar)) :
    posterior.observationCount templateId ≤
      (updates.foldl updateWithQuality posterior).observationCount
        templateId := by
  induction updates generalizing posterior with
  | nil => exact le_rfl
  | cons observed rest inductionHypothesis =>
    refine le_trans ?_ inductionHypothesis
    rw [observationCount_updateWithQuality]
    split
    · exact Nat.le_succ _
    · exact le_rfl

variable {updates : List (EffectObservation Scalar)}

theorem absorbedMass_of_observationCount
    (kept :
      (updates.foldl updateWithQuality posterior).observationCount templateId ≤
        posterior.observationCount templateId) :
    absorbedMass templateId posterior updates = 0 := by
  induction updates generalizing posterior with
  | nil => rfl
  | cons observed rest inductionHypothesis =>
    -- No step can have raised the count, which never falls again.
    have notRaised :
        (posterior.updateWithQuality observed).observationCount templateId ≤
          posterior.observationCount templateId :=
      (observationCount_le_foldl rest).trans kept
    have started :
        posterior.observationCount templateId ≤
          (posterior.updateWithQuality observed).observationCount
            templateId :=
      observationCount_le_foldl [observed]
    rw [absorbedMass, if_neg notRaised.not_gt, zero_add]
    exact inductionHypothesis (kept.trans started)

theorem mass_foldl_of_accepted
    (accepted : ∀ observed ∈ updates, observed.templateId = templateId → observed.accepted = true) :
    (updates.foldl updateWithQuality posterior).mass templateId =
      posterior.mass templateId + absorbedMass templateId posterior updates := by
  induction updates generalizing posterior with
  | nil => exact (add_zero _).symm
  | cons observed rest inductionHypothesis =>
    have now := accepted observed List.mem_cons_self
    have later := @inductionHypothesis (posterior.updateWithQuality observed)
        fun other member => accepted other (List.mem_cons_of_mem _ member)
    simp only [List.foldl_cons]
    rw [later, mass_updateWithQuality, absorbedMass, observationCount_updateWithQuality, add_assoc]
    congr 2
    by_cases isTemplate : templateId = observed.templateId
    · simp [isTemplate, now isTemplate.symm]
    · simp [isTemplate]

theorem absorbedMass_nonneg (updates : List (EffectObservation Scalar)) :
    0 ≤ absorbedMass templateId posterior updates := by
  induction updates generalizing posterior with
  | nil => exact le_rfl
  | cons observed rest inductionHypothesis =>
    refine add_nonneg ?_ inductionHypothesis
    split
    · exact observed.quality.baseWeight_pos.le
    · exact le_rfl

variable (priorMean priorVariance : Scalar)

/-- A run of updates, from no evidence at all. -/
def learn (updates : List (EffectObservation Scalar)) : TreatmentEffectPosterior Scalar :=
  updates.foldl updateWithQuality (new priorMean priorVariance)

/-- The mass that a run's posterior of a template really absorbed. -/
def absorbed (templateId : String)
    (updates : List (EffectObservation Scalar)) : ℚ :=
  absorbedMass templateId (new priorMean priorVariance) updates

/-- Confidence that nothing but absorbed observations bought. -/
structure ConfidenceEarned
    (priorMean priorVariance : Scalar)
    (templateId : String)
    (updates : List (EffectObservation Scalar)) : Prop where
  bounded :
    ((learn priorMean priorVariance updates).confidence templateId).val ≤
      ⌊absorbed priorMean priorVariance templateId updates + massEpsilon⌋
  empty :
    (learn priorMean priorVariance updates).observationCount templateId = 0 →
      (learn priorMean priorVariance updates).confidence templateId = 0
  switched :
    minTreatmentConfidence ≤
        (learn priorMean priorVariance updates).confidence templateId →
      minTreatmentConfidence ≤
        wholeObservations
          (absorbed priorMean priorVariance templateId updates)

variable {priorMean priorVariance : Scalar}

theorem mass_learn_of_accepted
    (accepted : ∀ observed ∈ updates, observed.templateId = templateId → observed.accepted = true) :
    (learn priorMean priorVariance updates).mass templateId =
      absorbed priorMean priorVariance templateId updates :=
  (mass_foldl_of_accepted accepted).trans (zero_add _)

theorem absorbed_of_observationCount
    (none : (learn priorMean priorVariance updates).observationCount templateId = 0) :
    absorbed priorMean priorVariance templateId updates = 0 :=
  absorbedMass_of_observationCount none.le

end TreatmentEffectPosterior

end Counting

theorem wholeObservations_le_floor {mass : ℚ} (nonneg : 0 ≤ mass) :
    (wholeObservations mass).val ≤ ⌊mass + massEpsilon⌋ := by
  have floorNonneg : 0 ≤ ⌊mass + massEpsilon⌋ :=
    Int.floor_nonneg.mpr (add_nonneg nonneg (by decide +kernel))
  rw [wholeObservations, val_saturate, max_eq_left nonneg]
  exact max_le floorNonneg (min_le_right _ _)

namespace TreatmentEffectPosterior

/-- Every state of a run whose observations are taken earned its confidence. -/
theorem confidenceEarned_of_accepted
    {priorMean priorVariance : FloatReading}
    {templateId : String}
    {updates visited : List (EffectObservation FloatReading)}
    (accepted :
      ∀ observed ∈ updates, observed.templateId = templateId → observed.accepted = true)
    (reached : visited <+: updates) :
    ConfidenceEarned priorMean priorVariance templateId visited := by
  have isAbsorbed :
      (learn priorMean priorVariance visited).confidence templateId =
        wholeObservations
          (absorbed priorMean priorVariance templateId visited) :=
    congrArg wholeObservations
      (mass_learn_of_accepted fun observed member =>
        accepted observed (reached.subset member))
  exact
    { bounded := by
        rw [isAbsorbed]
        exact wholeObservations_le_floor (absorbedMass_nonneg visited)
      empty := by
        intro none
        rw [isAbsorbed, absorbed_of_observationCount none]
        decide +kernel
      switched := by
        intro crosses
        rwa [isAbsorbed] at crosses }

/-- An estimate of the effect of a template on nobody in particular. -/
def floatEffect
    (tau : FloatReading) : EffectObservation FloatReading where
  templateId := "community-engager"
  subredditType := none
  targetKey := none
  observedTau := tau
  observationVariance := .finite 1
  quality := .randomizedHoldout

/-- Two fans more, as often as it takes. -/
theorem fiveNumbers_earned :
    ConfidenceEarned (.finite 0) (.finite 4) "community-engager"
      (List.replicate 5 (floatEffect (.finite 2))) :=
  confidenceEarned_of_accepted
    (fun observed member _ => by
      rw [List.eq_of_mem_replicate member]
      decide +kernel)
    List.prefix_rfl

/-- Five times no number at all, and the treatment effect is ranked on. -/
theorem fiveNonNumbers_unearned :
    ¬ ∀ (updates : List (EffectObservation FloatReading))
        (templateId : String),
        ConfidenceEarned (.finite 0) (.finite 4) templateId updates := by
  intro earned
  have ofNothing := earned (List.replicate 5 (floatEffect .nonFinite)) "community-engager"
  have noneHeld :
      (learn (.finite 0) (.finite 4)
        (List.replicate 5 (floatEffect .nonFinite))).observationCount
          "community-engager" = 0 := by
    decide +kernel
  have confident :
      (learn (.finite 0) (.finite 4)
        (List.replicate 5 (floatEffect .nonFinite))).confidence
          "community-engager" = minTreatmentConfidence := by
    decide +kernel
  have isZero := ofNothing.empty noneHeld
  rw [confident] at isZero
  exact absurd isZero (by decide)

end TreatmentEffectPosterior

end CrowdRelay
