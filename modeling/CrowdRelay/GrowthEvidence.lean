import Mathlib.Algebra.Order.Ring.Rat
import Mathlib.Algebra.Order.Field.Basic
import CrowdRelay.ActionPayload
import CrowdRelay.LiveOpportunity

namespace CrowdRelay

open MachineInt

/-!
# Growth evidence

One record for one dispatch, or for one unit a dispatch was withheld from:
how it was assigned, what was measured of it, and when each measurement
became visible to the learners.  Amounts are exact rationals.
-/

/-- How the outcome was measured. -/
inductive EvidenceQuality where
  | randomizedHoldout
  | matchedQuasiExperiment
  | deterministicAttribution
  | modeledAttribution
  | prePost
  | observational
  deriving Repr, DecidableEq

namespace EvidenceQuality

def baseWeight : EvidenceQuality → ℚ
  | randomizedHoldout => 1
  | deterministicAttribution => 9 / 10
  | matchedQuasiExperiment => 7 / 10
  | modeledAttribution => 2 / 10
  | prePost => 3 / 10
  | observational => 1 / 10

/-- Lower quality scales the observation variance up. -/
def varianceMultiplier (quality : EvidenceQuality) : ℚ := 1 / quality.baseWeight

/-- The most a design without a measured control arm can claim. -/
def minQuasiExperimental : EvidenceQuality → EvidenceQuality
  | randomizedHoldout => matchedQuasiExperiment
  | other => other

/-- The weakest quality, whatever the design. -/
def minObservational (_quality : EvidenceQuality) : EvidenceQuality := observational

def asStr : EvidenceQuality → String
  | randomizedHoldout => "randomized_holdout"
  | matchedQuasiExperiment => "matched_quasi_experiment"
  | deterministicAttribution => "deterministic_attribution"
  | modeledAttribution => "modeled_attribution"
  | prePost => "pre_post"
  | observational => "observational"

theorem baseWeight_pos (quality : EvidenceQuality) : 0 < quality.baseWeight := by
  cases quality <;> decide +kernel

theorem varianceMultiplier_pos (quality : EvidenceQuality) : 0 < quality.varianceMultiplier :=
  one_div_pos.mpr quality.baseWeight_pos

end EvidenceQuality

inductive TreatmentAssignment where
  | treatment
  | control
  deriving Repr, DecidableEq

def TreatmentAssignment.isTreatment : TreatmentAssignment → Bool
  | treatment => true
  | control => false

/-- What became of an assignment. -/
inductive ExecutionStatus where
  | control
  | withheld
  | dispatched
  | executed
  | failed
  | unknown
  deriving Repr, DecidableEq

inductive CausalEstimand where
  | intentToTreat
  | perProtocol
  deriving Repr, DecidableEq

def CausalEstimand.includesInTreatmentEffect (estimand : CausalEstimand) (isTreatmentArm : Bool)
    (executionStatus : ExecutionStatus) : Bool :=
  match estimand with
  | intentToTreat => true
  | perProtocol =>
    if isTreatmentArm then executionStatus == .executed else true

/-- What the fan columns of a row count. -/
inductive OutcomeBasis where
  | attributed
  | workspaceWindow
  deriving Repr, DecidableEq

def OutcomeBasis.teachesPerAction : OutcomeBasis → Bool
  | attributed => true
  | workspaceWindow => false

inductive CreativeFamily where
  | story
  | riff
  | technical
  | identity
  | event
  deriving Repr, DecidableEq

inductive GrowthTrend where
  | accelerating
  | steady
  | decelerating
  | stagnant
  deriving Repr, DecidableEq

def GrowthTrend.asStr : GrowthTrend → String
  | accelerating => "accelerating"
  | steady => "steady"
  | decelerating => "decelerating"
  | stagnant => "stagnant"

structure DispatchContext where
  daysToEvent : Option U32
  fanGrowthTrend : GrowthTrend
  subredditType : Option String
  postFormat : Option String
  timeOfDayBps : U16
  communityNoveltyBps : U16
  avgCommunityEngagementBps : U16
  deriving DecidableEq

structure DecisionPosterior where
  meanY30 : ℚ
  stdY30 : ℚ
  deriving DecidableEq

/-- Secondary outcomes by metric key, in the order of the keys. -/
abbrev Metrics := List (String × ℚ)

structure GrowthEvidence where
  opportunityId : Option String
  actionId : Option Uuid
  timestamp : OffsetDateTime
  targetKey : Option String
  creativeFamily : Option CreativeFamily
  treatment : TreatmentAssignment
  executionStatus : Option ExecutionStatus
  observedFans : Option ℚ
  observedIncrementalFans : Option ℚ
  observedIncrementalFans3d : Option ℚ
  durableFans30d : Option ℚ
  predictedFans : ℚ
  predictedSignalInstalls : ℚ
  decisionPosterior : Option DecisionPosterior
  context : DispatchContext
  strategy : Option String
  evidenceQuality : EvidenceQuality
  experimentAssignmentId : Option String
  experimentUuid : Option Uuid
  finalContamination : Option ℚ
  resolvedAt : Option OffsetDateTime
  partialResolutionCount : Nat
  replayed3dAt : Option OffsetDateTime
  replayed14dAt : Option OffsetDateTime
  replayed30dAt : Option OffsetDateTime
  observedMetrics : Metrics
  outcomeBasis : OutcomeBasis
  deriving DecidableEq

/-- From this contamination on an assignment is no clean experiment. -/
def contaminationCeiling : ℚ := 1 / 10

/-- How much noisier a three-day reading is than a fourteen-day one. -/
def earlyEstimateVarianceMultiplier : ℚ := 4

namespace GrowthEvidence

/-- The fourteen-day reading, or the three-day one while there is none. -/
def incrementalFansForLearning (ev : GrowthEvidence) : Option (ℚ × ℚ) :=
  match ev.observedIncrementalFans with
  | some incremental => some (incremental, 1)
  | none =>
    ev.observedIncrementalFans3d.map fun incremental =>
      (incremental, earlyEstimateVarianceMultiplier)

/-- Some measurement has landed, but not all of them. -/
def isPartial (ev : GrowthEvidence) : Bool :=
  decide (0 < ev.partialResolutionCount) && ev.resolvedAt.isNone

def y30Outcome (ev : GrowthEvidence) : Option ℚ := ev.durableFans30d

/--
The quality a row has earned: a randomised unit is randomised evidence only
once its contamination is known to be low.
-/
def effectiveEvidenceQuality (ev : GrowthEvidence) : EvidenceQuality :=
  if ev.evidenceQuality ≠ .randomizedHoldout then
    ev.evidenceQuality
  else
    match ev.finalContamination with
    | some contamination =>
      if contamination < contaminationCeiling then .randomizedHoldout else .matchedQuasiExperiment
    | none => .matchedQuasiExperiment

end GrowthEvidence

end CrowdRelay
