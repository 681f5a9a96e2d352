import Mathlib.Algebra.BigOperators.Group.List.Basic
import Mathlib.Algebra.Order.Field.Basic
import Mathlib.Tactic.FieldSimp
import Mathlib.Tactic.Ring

namespace PrecisionWeighted

/-!
# Estimates weighted by precision

An estimate is a mean with a variance, and moves with every observation by
the precision of both.  Precisions add up, and so do the weighted means: the
order in which observations arrive does not matter.
-/

structure Estimate (Scalar : Type) where
  mean : Scalar
  variance : Scalar
  count : Nat
  deriving DecidableEq

/-- A value, and the variance it was observed with. -/
structure Observation (Scalar : Type) where
  value : Scalar
  variance : Scalar
  deriving DecidableEq

variable {Scalar : Type}

section Observing

variable [Field Scalar]

def Observation.precision (observation : Observation Scalar) : Scalar := 1 / observation.variance

def Observation.weight (observation : Observation Scalar) : Scalar :=
  observation.value * observation.precision

namespace Estimate

def precision (estimate : Estimate Scalar) : Scalar := 1 / estimate.variance

def weight (estimate : Estimate Scalar) : Scalar := estimate.mean * estimate.precision

/-- The conjugate update of a normal prior with one normal observation. -/
def observe (estimate : Estimate Scalar)
    (observation : Observation Scalar) : Estimate Scalar :=
  let postPrecision := estimate.precision + observation.precision
  { mean := (estimate.weight + observation.weight) / postPrecision
    variance := 1 / postPrecision
    count := estimate.count + 1 }

variable (estimate : Estimate Scalar) (observation : Observation Scalar)

@[simp] theorem count_observe : (estimate.observe observation).count = estimate.count + 1 := rfl

@[simp] theorem precision_observe :
    (estimate.observe observation).precision = estimate.precision + observation.precision :=
  one_div_one_div _

end Estimate

end Observing

/-! ## Observations of one variance -/

section OneVariance

variable [Field Scalar] (variance : Scalar) (values : List Scalar)

/-- Values, all observed with the same variance. -/
def observedWith (variance : Scalar)
    (values : List Scalar) : List (Observation Scalar) :=
  values.map fun value => ⟨value, variance⟩

/-- How many observations of a variance an estimate is worth. -/
def Estimate.strength (estimate : Estimate Scalar)
    (variance : Scalar) : Scalar :=
  variance * estimate.precision

theorem sum_precision_observedWith :
    ((observedWith variance values).map Observation.precision).sum =
      values.length * (1 / variance) := by
  induction values with
  | nil => simp [observedWith]
  | cons value rest inductionHypothesis =>
    simp only [observedWith, List.map_cons, List.sum_cons,
      List.length_cons, Nat.cast_succ] at inductionHypothesis ⊢
    rw [inductionHypothesis, Observation.precision]
    ring

theorem sum_weight_observedWith :
    ((observedWith variance values).map Observation.weight).sum = values.sum * (1 / variance) := by
  induction values with
  | nil => simp [observedWith]
  | cons value rest inductionHypothesis =>
    simp only [observedWith, List.map_cons, List.sum_cons] at inductionHypothesis ⊢
    rw [inductionHypothesis, Observation.weight, Observation.precision]
    ring

theorem observedWith_noisy [LinearOrder Scalar] {variance : Scalar} (noisy : 0 < variance)
    (values : List Scalar) :
    ∀ observation ∈ observedWith variance values, 0 < observation.variance := by
  intro observation member
  obtain ⟨value, _, rfl⟩ := List.mem_map.mp member
  exact noisy

end OneVariance

/-! ## Runs of observations -/

section Order

variable [Field Scalar] [LinearOrder Scalar] [IsStrictOrderedRing Scalar]
  {estimate : Estimate Scalar} {variance : Scalar}

namespace Estimate

theorem precision_pos (spread : 0 < estimate.variance) : 0 < estimate.precision :=
  one_div_pos.mpr spread

variable {observation : Observation Scalar}

section

variable (spread : 0 < estimate.variance)
include spread

theorem weight_observe (noisy : 0 < observation.variance) :
    (estimate.observe observation).weight = estimate.weight + observation.weight := by
  have positive : 0 < estimate.precision + observation.precision :=
    add_pos (precision_pos spread) (one_div_pos.mpr noisy)
  show _ / _ * (estimate.observe observation).precision = _
  rw [precision_observe]
  exact div_mul_cancel₀ _ positive.ne'

theorem variance_observe_pos (noisy : 0 < observation.variance) :
    0 < (estimate.observe observation).variance :=
  one_div_pos.mpr (add_pos (precision_pos spread) (one_div_pos.mpr noisy))

theorem eq_of_precision_eq {other : Estimate Scalar}
    (precisions : estimate.precision = other.precision)
    (weights : estimate.weight = other.weight) (counts : estimate.count = other.count) :
    estimate = other := by
  have positive : estimate.precision ≠ 0 := (precision_pos spread).ne'
  have variances : estimate.variance = other.variance := by
    calc
      estimate.variance = 1 / estimate.precision := (one_div_one_div _).symm
      _ = 1 / other.precision := by
        rw [precisions]
      _ = other.variance := one_div_one_div _
  have means : estimate.mean = other.mean := by
    refine mul_right_cancel₀ positive ?_
    calc
      estimate.mean * estimate.precision = other.weight := weights
      _ = other.mean * estimate.precision := by
        rw [precisions]
        rfl
  cases estimate
  cases other
  exact congr (congr (congrArg Estimate.mk means) variances) counts

end

end Estimate

/-- What a list of observations adds up to. -/
theorem foldl_observe {observations : List (Observation Scalar)} (spread : 0 < estimate.variance)
    (noisy : ∀ observation ∈ observations, 0 < observation.variance) :
    0 < (observations.foldl Estimate.observe estimate).variance ∧
      (observations.foldl Estimate.observe estimate).precision =
        estimate.precision + (observations.map Observation.precision).sum ∧
      (observations.foldl Estimate.observe estimate).weight =
        estimate.weight + (observations.map Observation.weight).sum ∧
      (observations.foldl Estimate.observe estimate).count =
        estimate.count + observations.length := by
  induction observations generalizing estimate with
  | nil =>
    refine ⟨spread, ?_, ?_, rfl⟩
    · exact (add_zero _).symm
    · exact (add_zero _).symm
  | cons first rest inductionHypothesis =>
    have firstNoisy := noisy first List.mem_cons_self
    obtain ⟨restSpread, precisions, weights, counts⟩ := inductionHypothesis
        (Estimate.variance_observe_pos spread firstNoisy)
        (fun observation inRest =>
          noisy observation (List.mem_cons_of_mem _ inRest))
    refine ⟨restSpread, ?_, ?_, ?_⟩
    · rw [List.foldl_cons, precisions, Estimate.precision_observe,
        List.map_cons, List.sum_cons, add_assoc]
    · rw [List.foldl_cons, weights,
        Estimate.weight_observe spread firstNoisy, List.map_cons,
        List.sum_cons, add_assoc]
    · rw [List.foldl_cons, counts, Estimate.count_observe,
        List.length_cons, Nat.add_assoc, Nat.add_comm 1]

theorem foldl_observe_perm {first second : List (Observation Scalar)}
    (permuted : first.Perm second) (spread : 0 < estimate.variance)
    (noisy : ∀ observation ∈ first, 0 < observation.variance) :
    first.foldl Estimate.observe estimate = second.foldl Estimate.observe estimate := by
  obtain ⟨firstSpread, precisions, weights, counts⟩ := foldl_observe spread noisy
  obtain ⟨_, secondPrecisions, secondWeights, secondCounts⟩ :=
    @foldl_observe _ _ _ _ estimate second spread
      fun observation member =>
        noisy observation (permuted.mem_iff.mpr member)
  refine Estimate.eq_of_precision_eq firstSpread ?_ ?_ ?_
  · rw [precisions, secondPrecisions, (permuted.map _).sum_eq]
  · rw [weights, secondWeights, (permuted.map _).sum_eq]
  · rw [counts, secondCounts, permuted.length_eq]

section

variable (spread : 0 < estimate.variance)
include spread

theorem Estimate.mean_eq_weight_div : estimate.mean = estimate.weight / estimate.precision :=
  (mul_div_cancel_right₀ _ (precision_pos spread).ne').symm

theorem Estimate.mean_observe_between {observation : Observation Scalar}
    {low high : Scalar} (noisy : 0 < observation.variance)
    (meanBetween : low ≤ estimate.mean ∧ estimate.mean ≤ high)
    (valueBetween : low ≤ observation.value ∧ observation.value ≤ high) :
    low ≤ (estimate.observe observation).mean ∧ (estimate.observe observation).mean ≤ high := by
  have ownPrecision : 0 ≤ estimate.precision := (precision_pos spread).le
  have newPrecision : 0 ≤ observation.precision := (one_div_pos.mpr noisy).le
  have positive : 0 < estimate.precision + observation.precision :=
    add_pos (precision_pos spread) (one_div_pos.mpr noisy)
  constructor
  · refine (le_div_iff₀ positive).mpr ?_
    rw [mul_add]
    exact add_le_add (mul_le_mul_of_nonneg_right meanBetween.1 ownPrecision)
        (mul_le_mul_of_nonneg_right valueBetween.1 newPrecision)
  · refine (div_le_iff₀ positive).mpr ?_
    rw [mul_add]
    exact add_le_add (mul_le_mul_of_nonneg_right meanBetween.2 ownPrecision)
        (mul_le_mul_of_nonneg_right valueBetween.2 newPrecision)

theorem strength_foldl_observe (noisy : 0 < variance) (values : List Scalar) :
    ((observedWith variance values).foldl Estimate.observe estimate).strength variance =
      estimate.strength variance + values.length := by
  obtain ⟨_, precisions, _, _⟩ := foldl_observe spread (observedWith_noisy noisy values)
  rw [Estimate.strength, precisions, sum_precision_observedWith, Estimate.strength]
  field_simp

theorem count_foldl_observe (noisy : 0 < variance) (values : List Scalar) :
    ((observedWith variance values).foldl Estimate.observe estimate).count =
      estimate.count + values.length := by
  obtain ⟨_, _, _, counts⟩ := foldl_observe spread (observedWith_noisy noisy values)
  rw [counts, observedWith, List.length_map]

/-- The mean is that of the values and of the estimate, as often as it is
worth. -/
theorem mean_foldl_observe (noisy : 0 < variance) (values : List Scalar) :
    ((observedWith variance values).foldl Estimate.observe estimate).mean =
      (estimate.strength variance * estimate.mean + values.sum) /
        (estimate.strength variance + values.length) := by
  obtain ⟨finalSpread, precisions, weights, _⟩ :=
    foldl_observe spread (observedWith_noisy noisy values)
  rw [Estimate.mean_eq_weight_div finalSpread, weights, precisions,
    sum_precision_observedWith, sum_weight_observedWith, Estimate.weight,
    Estimate.strength, ← mul_div_mul_left _ _ noisy.ne']
  congr 1
  · field_simp
  · field_simp

theorem mean_foldl_observe_sub_average {values : List Scalar} (noisy : 0 < variance)
    (observed : 0 < values.length) :
    ((observedWith variance values).foldl Estimate.observe estimate).mean -
        values.sum / values.length =
      estimate.strength variance / (estimate.strength variance + values.length) *
        (estimate.mean - values.sum / values.length) := by
  have countPos : (0 : Scalar) < values.length := Nat.cast_pos.mpr observed
  have strengthPos : 0 < estimate.strength variance := mul_pos noisy (Estimate.precision_pos spread)
  have totalPos := add_pos strengthPos countPos
  rw [mean_foldl_observe spread noisy]
  field_simp
  ring

end

end Order

end PrecisionWeighted
