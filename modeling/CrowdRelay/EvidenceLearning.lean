import CrowdRelay.EvidenceStore
import CrowdRelay.Machine
import CrowdRelay.Watermark

namespace CrowdRelay

open Machine

/-!
# Learning from the evidence as it comes in

A learner goes by one cursor.  It reads every row that has a stamp past the
cursor, learns from the horizons that are new to it, and moves the cursor to
the latest stamp it has read.
-/

namespace EvidenceRow

/-- Every point in time the row can be new since. -/
def stamps (row : EvidenceRow) : List OffsetDateTime :=
  [row.resolvedAt, row.replayed3dAt, row.replayed14dAt, row.replayed30dAt,
    row.lastPartialResolutionAt].filterMap id

def greatestStamp (row : EvidenceRow) : Option OffsetDateTime := row.stamps.max?

/-- Only rows of a known execution with some outcome reach the learner. -/
def learnable (row : EvidenceRow) : Bool :=
  (row.resolvedAt.isSome || decide (0 < row.partialResolutionCount)) &&
    row.executionStatus != some .unknown

/-- Whether a learner at the cursor reads the row. -/
def readAfter (row : EvidenceRow)
    (since : Option OffsetDateTime) : Bool :=
  row.learnable &&
    match since with
    | none => true
    | some cursor =>
      match row.greatestStamp with
      | some greatest => decide (cursor < greatest)
      | none => false

end EvidenceRow

namespace EvidenceStore

variable (store : EvidenceStore)

def loadGrowthEvidence
    (since : Option OffsetDateTime) : List EvidenceRow :=
  store.evidence.filter fun row => row.readAfter since

def loadControlArmEvidence
    (experiments : List Uuid) : List EvidenceRow :=
  store.evidence.filter fun row =>
    row.learnable && !row.treatment.isTreatment &&
      row.experimentUuid.any fun experiment => experiments.contains experiment

end EvidenceStore

/-- The latest stamp of the rows that were read. -/
def readCursor (rows : List EvidenceRow) : Option OffsetDateTime :=
  (rows.flatMap EvidenceRow.stamps).max?

/-- The cursor moves to what was read, and never back. -/
def advanceCursor (evidenceCursor : OffsetDateTime)
    (read : Option OffsetDateTime) : OffsetDateTime :=
  match read with
  | some latest => max evidenceCursor latest
  | none => evidenceCursor

variable (store : EvidenceStore)

/-- The control arms of the experiments a batch has treated rows of. -/
def deltaContrast
    (delta : List EvidenceRow) : List EvidenceRow :=
  store.loadControlArmEvidence
    ((delta.filter fun ev => ev.treatment.isTreatment).filterMap fun ev =>
      ev.experimentUuid)

/-- One reading of what is new since the cursor. -/
def deltaReplay
    (evidenceCursor : OffsetDateTime) : List RowReplay × OffsetDateTime :=
  let delta := store.loadGrowthEvidence (some evidenceCursor)
  let contrast := deltaContrast store delta
  (applyEvidenceToModelWithContrast
      (delta.map EvidenceRow.toGrowthEvidence)
      (contrast.map EvidenceRow.toGrowthEvidence)
      (some evidenceCursor),
    advanceCursor evidenceCursor (readCursor delta))

/-- The control means a replay measures its treated rows against. -/
def deltaMeans
    (evidenceCursor : OffsetDateTime) : Uuid → ControlMean :=
  let delta := store.loadGrowthEvidence (some evidenceCursor)
  contrastMeans
    (delta.map EvidenceRow.toGrowthEvidence)
    ((deltaContrast store delta).map EvidenceRow.toGrowthEvidence)

/-- Everything there is, learned from scratch. -/
def fullReplay (store : EvidenceStore) : List RowReplay :=
  applyEvidenceToModel ((store.loadGrowthEvidence none).map EvidenceRow.toGrowthEvidence)

/-- What happens to a workspace's evidence and to its learner. -/
inductive LearningAct where
  | claim (id : Uuid)
  | complete
      (id : Uuid)
      (attemptNumber : Nat)
      (observation : AutopilotMeasurementObservation)
      (harm : Option Metrics)
      (contamination : ℚ)
  | fail
      (id : Uuid)
      (attemptNumber : Nat)
      (retryable : Bool)
      (harm : Option Metrics)
  | replay

structure TimedAct where
  now : OffsetDateTime
  act : LearningAct

/-- The store, the learner's cursor and the time of the last event. -/
structure LearningState where
  store : EvidenceStore
  cursor : OffsetDateTime
  clock : OffsetDateTime

/-- The claim a worker holds on a measurement. -/
def EvidenceStore.claimed (id : Uuid)
    (attemptNumber : Nat) : Option ClaimedAutopilotMeasurement :=
  (store.measurements.find? fun row => row.id == id).map fun row =>
    { id := id
      actionId := row.actionId
      kind := row.kind
      attemptNumber := attemptNumber }

/-- What an event does to the store.  A lost claim leaves it as it is. -/
def EvidenceStore.apply
    (event : TimedAct) : EvidenceStore :=
  match event.act with
  | .claim id => store.claimMeasurement id
  | .complete id attemptNumber observation harm contamination =>
    match store.claimed id attemptNumber with
    | some measurement =>
      (store.completeMeasurementWithMetrics measurement observation harm
        contamination event.now).getD store
    | none => store
  | .fail id attemptNumber retryable harm =>
    match store.claimed id attemptNumber with
    | some measurement => store.failMeasurement measurement retryable harm event.now
    | none => store
  | .replay => store

/-- A learner reading a store that measurements keep writing to. -/
def learner : Transducer LearningState TimedAct (List RowReplay) where
  step state event :=
    match event.act with
    | .replay =>
      let replayed := deltaReplay state.store state.cursor
      ({ store := state.store
         cursor := replayed.2
         clock := event.now }, replayed.1)
    | _ =>
      ({ store := state.store.apply event
         cursor := state.cursor
         clock := event.now }, [])

end CrowdRelay
