import Mathlib.Algebra.Order.Floor.Ring
import Mathlib.Data.Rat.Floor
import CrowdRelay.GrowthEvidence

namespace CrowdRelay

/-!
# Experiment designs and assignments

A design is made once for an intervention and a window; every unit is assigned
an arm under it.  Probabilities are exact rational numbers.
-/

inductive ExperimentStatus where
  | active
  | insufficientPower
  | completed
  deriving Repr, DecidableEq

structure ExperimentPolicy where
  randomizedHoldoutProbability : ℚ
  minEligibleUnitsForExperiment : Nat
  minExpectedControlUnits : Nat
  minExpectedTreatmentUnits : Nat
  deriving DecidableEq

def ExperimentPolicy.default : ExperimentPolicy where
  randomizedHoldoutProbability := 1 / 10
  minEligibleUnitsForExperiment := 10
  minExpectedControlUnits := 2
  minExpectedTreatmentUnits := 2

/-- The holdout of a cycle, kept between nothing and a tenth. -/
def ExperimentPolicy.holdoutProbability (policy : ExperimentPolicy) : ℚ :=
  max 0 (min (1 / 10) policy.randomizedHoldoutProbability)

structure ExperimentDesign where
  experimentUuid : Uuid
  assignmentRound : Nat
  interventionKey : String
  logicalCycleKey : String
  eligibleUnits : List String
  holdoutProbability : ℚ
  experimentStatus : ExperimentStatus
  expectedTreatmentCount : Option Nat
  expectedControlCount : Option Nat
  deriving DecidableEq

def expectedTreatment (eligible : Nat) (holdoutProbability : ℚ) : Nat :=
  ⌈(eligible : ℚ) * (1 - holdoutProbability)⌉.toNat

def expectedControl (eligible : Nat) (holdoutProbability : ℚ) : Nat :=
  ⌊(eligible : ℚ) * holdoutProbability⌋.toNat

variable (policy : ExperimentPolicy)

/-- Some arm or the whole is smaller than the policy asks for. -/
def underpowered (eligible : Nat)
    (holdoutProbability : ℚ) : Bool :=
  eligible < policy.minEligibleUnitsForExperiment ||
    expectedControl eligible holdoutProbability < policy.minExpectedControlUnits ||
    expectedTreatment eligible holdoutProbability < policy.minExpectedTreatmentUnits

variable (design : ExperimentDesign)

def ExperimentDesign.checkPower : ExperimentDesign :=
  { design with
    expectedTreatmentCount :=
      some (expectedTreatment design.eligibleUnits.length design.holdoutProbability)
    expectedControlCount :=
      some (expectedControl design.eligibleUnits.length design.holdoutProbability)
    experimentStatus :=
      if underpowered policy design.eligibleUnits.length
          design.holdoutProbability then
        .insufficientPower
      else
        .active }

/-- The holdout a unit is really rolled against. -/
def ExperimentDesign.effectiveHoldout
    (holdoutProbability : ℚ) : ℚ :=
  if design.experimentStatus = .insufficientPower then 0 else holdoutProbability

structure ExperimentAssignment where
  assignmentId : String
  experimentUuid : Uuid
  assignmentRound : Nat
  unitId : String
  arm : TreatmentAssignment
  propensity : ℚ
  intendedHoldoutProbability : ℚ
  intendedTemplateId : String
  actionId : Option Nat
  experimentStatus : ExperimentStatus
  executionStatus : ExecutionStatus
  deriving DecidableEq

namespace ExperimentAssignment

def initialStatus (arm : TreatmentAssignment)
    (actionId : Option Nat) : ExecutionStatus :=
  match arm, actionId with
  | .control, _ => .control
  | .treatment, some _ => .dispatched
  | .treatment, none => .withheld

/-- Propensity is the probability of the arm the unit received. -/
def fromDesignWithRealizedHoldout (design : ExperimentDesign) (unitId : String)
    (arm : TreatmentAssignment) (actionId : Option Nat)
    (realizedHoldoutProbability : ℚ) : ExperimentAssignment :=
  { assignmentId :=
      "asgn:" ++ uuidText design.experimentUuid ++ ":" ++
        toString design.assignmentRound ++ ":" ++ unitId
    experimentUuid := design.experimentUuid
    assignmentRound := design.assignmentRound
    unitId := unitId
    arm := arm
    propensity :=
      match arm with
      | .treatment => 1 - realizedHoldoutProbability
      | .control => realizedHoldoutProbability
    intendedHoldoutProbability := design.holdoutProbability
    intendedTemplateId := design.interventionKey
    actionId := actionId
    experimentStatus := design.experimentStatus
    executionStatus := initialStatus arm actionId }

end ExperimentAssignment

end CrowdRelay
