import CrowdRelay.MachineInt

namespace CrowdRelay

open MachineInt

/-!
# What a record of outcomes says

The record one kind of play accumulates, the standing it is assessed as, and
the reach that standing grants.
-/

/-- What one measured outcome said about the success metric. -/
inductive EffectAssessment where
  | improved
  | neutral
  | worsened
  deriving Repr, DecidableEq

inductive RetirementReason where
  | repeatedlyWorsened
  | operatorRetired
  deriving Repr, DecidableEq

/-- What the measured record says about one kind of play. -/
inductive Standing where
  | untested (measured : U32)
  | weighted (basisPoints : U16) (measured : U32)
  | retired (reason : RetirementReason)
  deriving Repr, DecidableEq

namespace Standing

/-- Full reach when nothing holds the play back, zero when it is retired. -/
def weightBasisPoints : Standing → U16
  | .untested _ => 10000
  | .weighted basisPoints _ => basisPoints
  | .retired _ => 0

def isRetired : Standing → Bool
  | .retired _ => true
  | _ => false

end Standing

/-- Counts of what happened, so that a standing can be argued with. -/
structure OutcomeRecord where
  improved : U32
  neutral : U32
  worsened : U32
  insufficient : U32
  consecutiveWorsened : U32
  operatorRetired : Bool
  operatorFastApprovals : U32
  operatorSlowApprovals : U32
  operatorFastCancellations : U32
  operatorSlowCancellations : U32
  deriving Repr, DecidableEq

namespace OutcomeRecord

def default : OutcomeRecord where
  improved := 0
  neutral := 0
  worsened := 0
  insufficient := 0
  consecutiveWorsened := 0
  operatorRetired := false
  operatorFastApprovals := 0
  operatorSlowApprovals := 0
  operatorFastCancellations := 0
  operatorSlowCancellations := 0

/-- Outcomes that actually said something. -/
def measured (record : OutcomeRecord) : U32 :=
  (record.improved.saturatingAdd record.neutral).saturatingAdd record.worsened

variable (record : OutcomeRecord)

/-- Folds one settled outcome in; `none` is an unmeasurable claim. -/
def observe : Option EffectAssessment → OutcomeRecord
  | some .improved =>
    { record with
      improved := record.improved.saturatingAdd 1
      consecutiveWorsened := 0 }
  | some .neutral =>
    { record with
      neutral := record.neutral.saturatingAdd 1
      consecutiveWorsened := 0 }
  | some .worsened =>
    { record with
      worsened := record.worsened.saturatingAdd 1
      consecutiveWorsened := record.consecutiveWorsened.saturatingAdd 1 }
  | none =>
    { record with
      insufficient := record.insufficient.saturatingAdd 1 }

/-- Folds one operator verdict in; it never touches the run of failures. -/
def observeOperator
    (approved fast : Bool) : OutcomeRecord :=
  match approved, fast with
  | true, true =>
    { record with
      operatorFastApprovals := record.operatorFastApprovals.saturatingAdd 1 }
  | true, false =>
    { record with
      operatorSlowApprovals := record.operatorSlowApprovals.saturatingAdd 1 }
  | false, true =>
    { record with
      operatorFastCancellations := record.operatorFastCancellations.saturatingAdd 1 }
  | false, false =>
    { record with
      operatorSlowCancellations := record.operatorSlowCancellations.saturatingAdd 1 }

def operatorFeedbackCount (record : OutcomeRecord) : U32 :=
  ((record.operatorFastApprovals.saturatingAdd
      record.operatorSlowApprovals).saturatingAdd
    record.operatorFastCancellations).saturatingAdd record.operatorSlowCancellations

end OutcomeRecord

structure StandingPolicy where
  minimumMeasuredRecord : U32
  floorBasisPoints : U16
  retireAfterConsecutiveWorsened : U32
  deriving Repr, DecidableEq

namespace StandingPolicy

def default : StandingPolicy where
  minimumMeasuredRecord := 3
  floorBasisPoints := 2500
  retireAfterConsecutiveWorsened := 3

def agentDefaults : StandingPolicy where
  minimumMeasuredRecord := 2
  floorBasisPoints := 2000
  retireAfterConsecutiveWorsened := 3

/-- The length of the run of failures that retires a play: at least one. -/
def retirementThreshold (policy : StandingPolicy) : U32 :=
  max policy.retireAfterConsecutiveWorsened 1

end StandingPolicy

/-- Measured outcomes, with operator signals counted half. -/
def effectiveMeasured (record : OutcomeRecord) : U32 :=
  record.measured.saturatingAdd (record.operatorFeedbackCount.quotient 2)

/-- A 32-bit count as a 64-bit one. -/
def widen (count : U32) : U64 where
  val := count.val
  lower := count.lower
  upper := count.upper.trans (by decide)

/-- Centi-credit of the whole record, measured outcomes at twice the weight. -/
def totalCredit (record : OutcomeRecord) : U64 :=
  let measuredCredit :=
    (((widen record.improved).saturatingMul 2).saturatingAdd
      (widen record.neutral)).saturatingMul 100
  let operatorCredit :=
    (((widen record.operatorFastApprovals).saturatingMul 100).saturatingAdd
      ((widen record.operatorSlowApprovals).wrappingMul 50)).saturatingAdd
      ((widen record.operatorSlowCancellations).wrappingMul 25)
  measuredCredit.saturatingAdd operatorCredit

/-- The credit a record without a single failure would have. -/
def totalDenom (record : OutcomeRecord) : U64 :=
  ((widen record.measured).saturatingMul 200).saturatingAdd
    ((widen record.operatorFeedbackCount).wrappingMul 100)

/-- The share of its possible credit a record reaches. -/
def creditBasisPoints (record : OutcomeRecord) : U16 :=
  let basisPoints := ((totalCredit record).saturatingMul 10000).quotient (max (totalDenom record) 1)
  (Ranged.tryFrom (min basisPoints 10000).val).getD 10000

variable (record : OutcomeRecord) (policy : StandingPolicy)

def assessStanding : Standing :=
  if record.operatorRetired then
    .retired .operatorRetired
  else if policy.retirementThreshold ≤ record.consecutiveWorsened then
    .retired .repeatedlyWorsened
  else if effectiveMeasured record <
      max policy.minimumMeasuredRecord 1 then
    .untested (effectiveMeasured record)
  else
    .weighted
      (max (creditBasisPoints record) (min policy.floorBasisPoints 10000))
      (effectiveMeasured record)

/-- How many recipients one step of this play may reach, given its standing. -/
def effectiveRecipientCeiling (maxRecipientsPerStep : U32)
    (standing : Standing) : U32 :=
  if standing.isRetired then
    0
  else if maxRecipientsPerStep = 0 then
    0
  else
    let scaled :=
      ((widen maxRecipientsPerStep).saturatingMul
        (widenWeight standing.weightBasisPoints)).quotient 10000
    max ((Ranged.tryFrom scaled.val).getD maxRecipientsPerStep) 1
where
  widenWeight (weight : U16) : U64 := ⟨weight.val, weight.lower, weight.upper.trans (by decide)⟩

theorem creditBasisPoints_le (record : OutcomeRecord) : (creditBasisPoints record).val ≤ 10000 := by
  simp only [creditBasisPoints, Ranged.tryFrom]
  split
  · simp only [Option.getD_some, Ranged.val_min]
    exact min_le_right _ _
  · exact le_refl _

theorem weightBasisPoints_assessStanding_le :
    (assessStanding record policy).weightBasisPoints.val ≤ 10000 := by
  unfold assessStanding
  split
  · decide
  · split
    · decide
    · split
      · exact le_refl _
      · simp only [Standing.weightBasisPoints, Ranged.val_max,
          Ranged.val_min]
        exact max_le (creditBasisPoints_le record) (min_le_right _ _)

variable {record : OutcomeRecord} {policy : StandingPolicy}

theorem assessStanding_isRetired_iff :
    (assessStanding record policy).isRetired = true ↔
      record.operatorRetired = true ∨ policy.retirementThreshold ≤ record.consecutiveWorsened := by
  unfold assessStanding
  split
  · simp_all [Standing.isRetired]
  · split
    · simp_all [Standing.isRetired]
    · split <;> simp_all [Standing.isRetired]

theorem assessStanding_eq_repeatedlyWorsened_iff :
    assessStanding record policy = .retired .repeatedlyWorsened ↔
      record.operatorRetired = false ∧ policy.retirementThreshold ≤ record.consecutiveWorsened := by
  unfold assessStanding
  split
  · simp_all
  · split
    · simp_all
    · split <;> simp_all

end CrowdRelay
