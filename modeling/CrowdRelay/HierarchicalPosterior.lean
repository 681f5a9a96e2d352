import CrowdRelay.StrategyLearning

namespace CrowdRelay

open PrecisionWeighted

/-!
# Normal posteriors with partial pooling

One observation moves the posterior of everything, of its template, of its
kind of community and of its target.  A level that has no posterior yet starts
from what its parent believed before the observation.  The updates are stated
over any reading of the floating-point numbers.
-/

/-- The test of a floating-point number for being one. -/
class FiniteTest (Scalar : Type) where
  isFinite : Scalar → Bool

/-- Exact rationals are always finite. -/
instance finiteRationals : FiniteTest ℚ where
  isFinite _ := true

section Updates

variable {Scalar : Type} [Add Scalar] [Mul Scalar] [Div Scalar] [Zero Scalar] [One Scalar]
  [LT Scalar] [DecidableLT Scalar] [LE Scalar] [DecidableLE Scalar] [FiniteTest Scalar]

namespace NormalPosterior

def prior (mean variance : Scalar) : Estimate Scalar where
  mean := mean
  variance := variance
  count := 0

def conjugate (posterior : Estimate Scalar)
    (observation observationVariance : Scalar) : Estimate Scalar :=
  let priorPrecision := 1 / posterior.variance
  let obsPrecision := 1 / observationVariance
  let postPrecision := priorPrecision + obsPrecision
  { mean :=
      (posterior.mean * priorPrecision + observation * obsPrecision) / postPrecision
    variance := 1 / postPrecision
    count := posterior.count + 1 }

/-- What a signed update takes: a number, with a variance to speak of. -/
def acceptsSigned (observation observationVariance : Scalar) : Bool :=
  FiniteTest.isFinite observation && !decide (observationVariance ≤ 0)

/-- What a plain update takes is not negative either. -/
def accepts (observation observationVariance : Scalar) : Bool :=
  FiniteTest.isFinite observation && !decide (observation < 0) && !decide (observationVariance ≤ 0)

variable (observation observationVariance : Scalar)

def update
    (posterior : Estimate Scalar) : Estimate Scalar :=
  if !accepts observation observationVariance then
    posterior
  else
    conjugate posterior observation observationVariance

def updateSigned
    (posterior : Estimate Scalar) : Estimate Scalar :=
  if !acceptsSigned observation observationVariance then
    posterior
  else
    conjugate posterior observation observationVariance

end NormalPosterior

/-- The posteriors of one quantity, level by level. -/
structure HierarchicalPosterior (Scalar : Type) where
  global : Estimate Scalar
  byTemplate : String → Option (Estimate Scalar)
  bySubredditType : String → Option (Estimate Scalar)
  byTarget : String → Option (Estimate Scalar)

/-- Moves the entry of a key, which starts from the prior. -/
def moveEntry (table : String → Option (Estimate Scalar)) (key : Option String)
    (prior : Estimate Scalar) (move : Estimate Scalar → Estimate Scalar) :
    String → Option (Estimate Scalar) :=
  match key with
  | none => table
  | some key => fun other =>
    if other = key then some (move ((table key).getD prior)) else table other

namespace HierarchicalPosterior

def new (globalPrior : Estimate Scalar) : HierarchicalPosterior Scalar where
  global := globalPrior
  byTemplate _ := none
  bySubredditType _ := none
  byTarget _ := none

variable (posterior : HierarchicalPosterior Scalar)
  (templateId subredditType targetKey : Option String)

/-- Moves every level, from what its parent believed before. -/
def moveLevels (move : Estimate Scalar → Estimate Scalar) : HierarchicalPosterior Scalar :=
  let globalPrior := NormalPosterior.prior posterior.global.mean posterior.global.variance
  let targetPrior :=
    match subredditType.bind posterior.bySubredditType with
    | some parent => NormalPosterior.prior parent.mean parent.variance
    | none => globalPrior
  { global := move posterior.global
    byTemplate := moveEntry posterior.byTemplate templateId globalPrior move
    bySubredditType := moveEntry posterior.bySubredditType subredditType globalPrior move
    byTarget := moveEntry posterior.byTarget targetKey targetPrior move }

variable (observation observationVariance : Scalar)

def updateWithTarget : HierarchicalPosterior Scalar :=
  posterior.moveLevels templateId subredditType targetKey
    (NormalPosterior.update observation observationVariance)

def updateSignedWithTarget : HierarchicalPosterior Scalar :=
  posterior.moveLevels templateId subredditType targetKey
    (NormalPosterior.updateSigned observation observationVariance)

/-- How many observations a template's posterior holds. -/
def confidence
    (templateId : String) : Nat :=
  ((posterior.byTemplate templateId).map Estimate.count).getD 0

end HierarchicalPosterior

end Updates

variable {Scalar : Type}

theorem moveEntry_apply (table : String → Option (Estimate Scalar)) (key : Option String)
    (prior : Estimate Scalar) (move : Estimate Scalar → Estimate Scalar) (other : String) :
    moveEntry table key prior move other =
      if key = some other then
        some (move ((table other).getD prior))
      else
        table other := by
  cases key with
  | none => rfl
  | some key =>
    by_cases same : other = key
    · simp [moveEntry, same]
    · simp [moveEntry, same, Ne.symm same]

theorem HierarchicalPosterior.byTemplate_moveLevels [Zero Scalar] [One Scalar]
    (posterior : HierarchicalPosterior Scalar) (templateId subredditType targetKey : Option String)
    (move : Estimate Scalar → Estimate Scalar) (name : String) :
    (posterior.moveLevels templateId subredditType targetKey move).byTemplate name =
      if templateId = some name then
        some
          (move
            ((posterior.byTemplate name).getD
              (NormalPosterior.prior posterior.global.mean posterior.global.variance)))
      else
        posterior.byTemplate name :=
  moveEntry_apply _ _ _ _ _

/-! ## Predictions -/

/-- How many observations of its own weigh as much as the parent. -/
def shrinkageStrength : ℚ := 5

def varianceFloor : ℚ := 1 / 100

/-- A level's own posterior, shrunk toward what its parent predicts. -/
def shrinkToward (parent : ℚ × ℚ)
    (own : NormalPosterior) : ℚ × ℚ :=
  let weight := (own.count : ℚ) / (own.count + shrinkageStrength)
  (weight * own.mean + (1 - weight) * parent.1,
    max (weight * own.variance + (1 - weight) * parent.2) varianceFloor)

namespace HierarchicalPosterior

variable (posterior : HierarchicalPosterior ℚ) (templateId : String)

/-- What a template predicts for a kind of community, with its variance. -/
def predict
    (subredditType : Option String) : ℚ × ℚ :=
  let parent := (subredditType.bind posterior.bySubredditType).getD posterior.global
  match posterior.byTemplate templateId with
  | some own =>
    if 0 < own.count then
      shrinkToward (parent.mean, parent.variance) own
    else
      (parent.mean, max parent.variance varianceFloor)
  | none => (parent.mean, max parent.variance varianceFloor)

def predictForTarget
    (subredditType targetKey : Option String) : ℚ × ℚ :=
  let parent := posterior.predict templateId subredditType
  match targetKey.bind posterior.byTarget with
  | some own => if 0 < own.count then shrinkToward parent own else parent
  | none => parent

end HierarchicalPosterior

end CrowdRelay
