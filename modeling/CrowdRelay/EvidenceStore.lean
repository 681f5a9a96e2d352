import CrowdRelay.EvidenceReplay

namespace CrowdRelay

/-!
# Measurements and the evidence they write

Every dispatch schedules measurements.  A measurement that completes writes
its own column of the evidence row; every attempt, failed ones included, then
refreshes the row's readiness: the stamp of its horizon, and `resolved_at`
once nothing is outstanding.
-/

inductive AutopilotMeasurementKind where
  | ticketRevenue72h
  | merchGrossProxy7d
  | promotionRoas7d
  | bookingReply7d
  | outreachReply7d
  | audienceTicketRevenue72h
  | showTicketRevenue7d
  | showGrowthSurfaceClicks7d
  | showGrowthAttributedTicketOrders7d
  | grassrootsActivationReplies14d
  | beaconOutreachReplyQuality14d
  | beaconOutreachUniqueVisitors14d
  | agentRunFanGrowth14d
  | incrementalFanGrowth14d
  | incrementalFanGrowth3d
  | agentRunSignalInstalls7d
  | agentRunCommunityEngagement7d
  | durableFanGrowth30d
  | scannerDiscoveryQuality14d
  | strategistInsightQuality14d
  | fanLifecycleEngagement7d
  | fanLifecycleActivation7d
  | agentRunFanGrowth3d
  | agentRunOutcomeQuality1h
  | scannerDiscoveryQuality1h
  | strategistInsightQuality1h
  | signalInstalls1d
  | bookingAgentReply30d
  | showAttendanceRate14d
  | releaseBoundAcquisition14d
  | releaseLinkClicks14d
  | releaseFanConversion14d
  | releaseChannelLift14d
  | campaignTicketConversion14d
  | campaignUnsubscribe7d
  | contentLinkClicks7d
  | contentFanAcquisition7d
  | artifactOutcome7d
  deriving Repr, DecidableEq

def AutopilotMeasurementKind.learnableMetricKey :
    AutopilotMeasurementKind → Option String
  | ticketRevenue72h => some "ticket_revenue_minor"
  | merchGrossProxy7d => some "merch_gross_minor"
  | promotionRoas7d => some "promotion_roas_bps"
  | bookingReply7d => some "booking_replies"
  | bookingAgentReply30d => some "booking_agent_replies"
  | outreachReply7d => some "outreach_replies"
  | audienceTicketRevenue72h => some "audience_ticket_revenue_minor"
  | showTicketRevenue7d => some "show_ticket_revenue_minor"
  | showGrowthSurfaceClicks7d => some "show_growth_clicks"
  | showGrowthAttributedTicketOrders7d => some "show_growth_ticket_orders"
  | showAttendanceRate14d => some "show_attendance_rate"
  | releaseBoundAcquisition14d => some "release_acquisitions"
  | releaseLinkClicks14d => some "release_link_clicks"
  | releaseFanConversion14d => some "release_fan_conversions"
  | releaseChannelLift14d => none
  | campaignTicketConversion14d => some "campaign_ticket_conversions"
  | campaignUnsubscribe7d => some "campaign_unsubscribe_rate"
  | contentLinkClicks7d => some "content_link_clicks"
  | contentFanAcquisition7d => some "content_fan_acquisitions"
  | artifactOutcome7d => some "artifact_posts"
  | grassrootsActivationReplies14d => some "activation_replies"
  | beaconOutreachReplyQuality14d => some "beacon_outreach_reply_quality"
  | beaconOutreachUniqueVisitors14d => some "beacon_outreach_unique_visitors"
  | agentRunCommunityEngagement7d => some "engagement_score"
  | fanLifecycleEngagement7d => some "lifecycle_engagement_events"
  | fanLifecycleActivation7d => some "lifecycle_deliberate_activation_v2"
  | scannerDiscoveryQuality14d => some "scanner_discoveries"
  | strategistInsightQuality14d => some "strategist_insights"
  | scannerDiscoveryQuality1h => some "scanner_discoveries_1h"
  | strategistInsightQuality1h => some "strategist_insights_1h"
  | agentRunOutcomeQuality1h => some "outcome_quality_1h"
  | agentRunFanGrowth14d => none
  | agentRunFanGrowth3d => none
  | incrementalFanGrowth14d => none
  | incrementalFanGrowth3d => none
  | durableFanGrowth30d => none
  | agentRunSignalInstalls7d => none
  | signalInstalls1d => none

inductive MeasurementStatus where
  | pending
  | processing
  | succeeded
  | failed
  deriving Repr, DecidableEq

/-- The measurement can still bring an outcome. -/
def MeasurementStatus.outstanding : MeasurementStatus → Bool
  | pending => true
  | processing => true
  | succeeded => false
  | failed => false

structure MeasurementRow where
  id : Uuid
  actionId : Uuid
  kind : AutopilotMeasurementKind
  status : MeasurementStatus
  attemptCount : Nat
  deriving Repr, DecidableEq

/--
A stored row: the evidence, with what its experiment assignment says of the
unit and with the cursor of the measurements that have no horizon.
-/
structure EvidenceRow extends GrowthEvidence where
  assignedAt : OffsetDateTime
  experimentKind : Option String
  unitIsTargetCommunity : Bool
  lastPartialResolutionAt : Option OffsetDateTime
  deriving DecidableEq

structure EvidenceStore where
  evidence : List EvidenceRow
  measurements : List MeasurementRow
  actionsDistinct : (evidence.filterMap fun row => row.actionId).Nodup

namespace EvidenceStore

variable (change : EvidenceRow → EvidenceRow)

theorem filterMap_actionId_map (keepsAction : ∀ row, (change row).actionId = row.actionId)
    (rows : List EvidenceRow) :
    ((rows.map change).filterMap fun row => row.actionId) =
      rows.filterMap fun row => row.actionId := by
  simp only [List.filterMap_map, Function.comp_def, keepsAction]

variable (store : EvidenceStore)

/-- Changes rows without changing which actions they are about. -/
def updateEvidence (keepsAction : ∀ row, (change row).actionId = row.actionId) :
    EvidenceStore where
  evidence := store.evidence.map change
  measurements := store.measurements
  actionsDistinct := by
    rw [filterMap_actionId_map change keepsAction]
    exact store.actionsDistinct

def row?
    (action : Uuid) : Option EvidenceRow :=
  store.evidence.find? fun row => row.actionId == some action

end EvidenceStore

/-- The stamps of a row a replay can be woken by. -/
inductive HorizonColumn where
  | replayed3dAt
  | replayed14dAt
  | replayed30dAt
  | lastPartialResolutionAt
  deriving Repr, DecidableEq

/-- The stamp a finished attempt of a kind sets. -/
def horizonColumn : AutopilotMeasurementKind → HorizonColumn
  | .agentRunFanGrowth3d => .replayed3dAt
  | .incrementalFanGrowth3d => .replayed3dAt
  | .agentRunFanGrowth14d => .replayed14dAt
  | .incrementalFanGrowth14d => .replayed14dAt
  | .durableFanGrowth30d => .replayed30dAt
  | _ => .lastPartialResolutionAt

namespace EvidenceRow

def stamp (row : EvidenceRow) : HorizonColumn → Option OffsetDateTime
  | .replayed3dAt => row.replayed3dAt
  | .replayed14dAt => row.replayed14dAt
  | .replayed30dAt => row.replayed30dAt
  | .lastPartialResolutionAt => row.lastPartialResolutionAt

variable (row : EvidenceRow)

def setStamp (column : HorizonColumn)
    (now : OffsetDateTime) : EvidenceRow :=
  let stamped := { row with lastPartialResolutionAt := some now }
  match column with
  | .replayed3dAt => { stamped with replayed3dAt := some now }
  | .replayed14dAt => { stamped with replayed14dAt := some now }
  | .replayed30dAt => { stamped with replayed30dAt := some now }
  | .lastPartialResolutionAt => stamped

/-- A stamp is set once, and never after the row has resolved. -/
def stampHorizon (kind : AutopilotMeasurementKind)
    (now : OffsetDateTime) : EvidenceRow :=
  let column := horizonColumn kind
  if row.resolvedAt.isNone && (row.stamp column).isNone then
    let stamped := row.setStamp column now
    { stamped with
      partialResolutionCount := row.partialResolutionCount + 1 }
  else
    row

end EvidenceRow

/-- The window after which a control unit's outcome is written. -/
def controlWindow : Int := 44 * 86400 * 1000000000

namespace EvidenceStore

variable (store : EvidenceStore) (action : Uuid)

/-- Some measurement of the action has not reached a terminal state. -/
def measurementsOutstanding : Bool :=
  store.measurements.any fun measurement =>
    measurement.actionId == action && measurement.status.outstanding

/-- A control unit of the row's experiment is still to be measured. -/
def controlArmPending (row : EvidenceRow)
    (now : OffsetDateTime) : Bool :=
  row.treatment.isTreatment && row.experimentUuid.isSome &&
    store.evidence.any fun control =>
      !control.treatment.isTreatment &&
        control.experimentUuid == row.experimentUuid &&
        control.experimentAssignmentId.isSome &&
        control.resolvedAt.isNone &&
        decide (now < control.assignedAt + controlWindow)

/-- The row resolves once no outcome its update needs is outstanding. -/
def resolveWhenReady (now : OffsetDateTime)
    (row : EvidenceRow) : EvidenceRow :=
  if row.resolvedAt.isNone && !store.measurementsOutstanding action &&
      !store.controlArmPending row now then
    { row with resolvedAt := some now }
  else
    row

def refreshRow (measurementKind : Option AutopilotMeasurementKind) (now : OffsetDateTime)
    (row : EvidenceRow) : EvidenceRow :=
  let stamped :=
    match measurementKind with
    | some kind => row.stampHorizon kind now
    | none => row
  store.resolveWhenReady action now stamped

end EvidenceStore

variable (row : EvidenceRow)

@[simp] theorem EvidenceRow.setStamp_actionId (column : HorizonColumn) (now : OffsetDateTime) :
    (row.setStamp column now).actionId = row.actionId := by
  cases column <;> rfl

@[simp] theorem EvidenceRow.stampHorizon_actionId (kind : AutopilotMeasurementKind)
    (now : OffsetDateTime) :
    (row.stampHorizon kind now).actionId = row.actionId := by
  simp only [EvidenceRow.stampHorizon]
  split
  · exact row.setStamp_actionId _ now
  · rfl

namespace EvidenceStore

variable (store : EvidenceStore) (action : Uuid)

@[simp] theorem resolveWhenReady_actionId (now : OffsetDateTime) (row : EvidenceRow) :
    (store.resolveWhenReady action now row).actionId = row.actionId := by
  simp only [resolveWhenReady]
  split <;> rfl

@[simp] theorem refreshRow_actionId (measurementKind : Option AutopilotMeasurementKind)
    (now : OffsetDateTime) (row : EvidenceRow) :
    (store.refreshRow action measurementKind now row).actionId =
      row.actionId := by
  cases measurementKind with
  | none => exact store.resolveWhenReady_actionId action now row
  | some kind => simp [refreshRow]

end EvidenceStore

/-- Sets a metric, keeping the keys in order. -/
def insertMetric (metricKey : String)
    (value : ℚ) : Metrics → Metrics
  | [] => [(metricKey, value)]
  | entry :: rest =>
    if metricKey = entry.1 then
      (metricKey, value) :: rest
    else if metricKey < entry.1 then
      (metricKey, value) :: entry :: rest
    else
      entry :: insertMetric metricKey value rest

/-- Adds a value to what is already recorded under the key. -/
def addMetric (metrics : Metrics) (metric : String × ℚ) : Metrics :=
  insertMetric metric.1 ((metrics.lookup metric.1).getD 0 + metric.2) metrics

def mergeHarmKeys (metrics harm : Metrics) : Metrics :=
  harm.foldl (fun merged entry => insertMetric entry.1 entry.2 merged) metrics

structure AutopilotMeasurementObservation where
  value : ℚ
  seriesLifts : List (String × ℚ)

structure ClaimedAutopilotMeasurement where
  id : Uuid
  actionId : Uuid
  kind : AutopilotMeasurementKind
  attemptNumber : Nat

namespace EvidenceRow

def measuredEvidenceQuality (row : EvidenceRow) : EvidenceQuality :=
  if row.experimentUuid.isSome &&
      row.experimentKind == some "randomized_holdout" then
    .randomizedHoldout
  else
    .observational

/-- Each kind writes its own column, and most columns are written once. -/
def recordOutcome (row : EvidenceRow) (kind : AutopilotMeasurementKind)
    (observedValue : ℚ) : EvidenceRow :=
  match kind with
  | .agentRunFanGrowth14d => { row with observedFans := some observedValue }
  | .agentRunFanGrowth3d =>
    { row with observedFans := row.observedFans.or (some observedValue) }
  | .incrementalFanGrowth14d =>
    if row.observedIncrementalFans.isNone then
      { row with
        observedIncrementalFans := some observedValue
        evidenceQuality := row.measuredEvidenceQuality }
    else
      row
  | .incrementalFanGrowth3d =>
    { row with
      observedIncrementalFans3d := row.observedIncrementalFans3d.or (some observedValue) }
  | .durableFanGrowth30d =>
    if row.durableFans30d.isNone then
      { row with
        durableFans30d := some observedValue
        evidenceQuality := row.measuredEvidenceQuality }
    else
      row
  | _ => row

/-- The metrics a completed measurement and its harm add to the row. -/
def recordMetrics (row : EvidenceRow) (kind : AutopilotMeasurementKind)
    (observation : AutopilotMeasurementObservation)
    (harm : Option Metrics) : EvidenceRow :=
  let metrics :=
    (kind.learnableMetricKey.map fun metricKey =>
      (metricKey, observation.value)).toList ++ observation.seriesLifts
  let merged := metrics.foldl addMetric row.observedMetrics
  { row with
    observedMetrics := (harm.map (mergeHarmKeys merged)).getD merged }

@[simp] theorem recordOutcome_actionId (row : EvidenceRow)
    (kind : AutopilotMeasurementKind) (observedValue : ℚ) :
    (row.recordOutcome kind observedValue).actionId = row.actionId := by
  cases kind <;> simp only [recordOutcome] <;> split <;> rfl

end EvidenceRow

/-- The kinds after which an experiment's cleanliness is established. -/
def settlesExperiment : AutopilotMeasurementKind → Bool
  | .agentRunFanGrowth14d => true
  | .incrementalFanGrowth14d => true
  | .durableFanGrowth30d => true
  | _ => false

namespace EvidenceStore

variable (store : EvidenceStore) (action : Uuid) (change : EvidenceRow → EvidenceRow)

def onAction
    (row : EvidenceRow) : EvidenceRow :=
  if row.actionId = some action then change row else row

theorem onAction_actionId {change : EvidenceRow → EvidenceRow}
    (keepsAction : ∀ row, (change row).actionId = row.actionId) (row : EvidenceRow) :
    (onAction action change row).actionId = row.actionId := by
  simp only [onAction]
  split
  · exact keepsAction row
  · rfl

def updateAction (keepsAction : ∀ row, (change row).actionId = row.actionId) :
    EvidenceStore :=
  store.updateEvidence (onAction action change) (onAction_actionId action keepsAction)

def refreshEvidenceReadiness (measurementKind : Option AutopilotMeasurementKind)
    (now : OffsetDateTime) : EvidenceStore :=
  store.updateAction action (store.refreshRow action measurementKind now)
    (store.refreshRow_actionId action measurementKind now)

def resolveControlRow (experiment : Uuid) (now : OffsetDateTime)
    (row : EvidenceRow) : EvidenceRow :=
  if !row.treatment.isTreatment && row.experimentUuid == some experiment &&
      row.experimentAssignmentId.isSome && row.unitIsTargetCommunity &&
      row.resolvedAt.isNone &&
      decide (row.assignedAt + controlWindow ≤ now) then
    { row with
      observedIncrementalFans := row.observedIncrementalFans.or (some 0)
      durableFans30d := row.durableFans30d.or (some 0)
      resolvedAt := some now }
  else
    row

variable (experiment : Uuid) (now : OffsetDateTime)

theorem resolveControlRow_actionId (row : EvidenceRow) :
    (resolveControlRow experiment now row).actionId = row.actionId := by
  simp only [resolveControlRow]
  split <;> rfl

/-- A unit nothing was done to gained no fans from it. -/
def resolveControlEvidence (experiment : Uuid)
    (now : OffsetDateTime) : EvidenceStore :=
  store.updateEvidence (resolveControlRow experiment now)
    (resolveControlRow_actionId experiment now)

def refreshTreatedRow (experiment : Uuid) (now : OffsetDateTime)
    (row : EvidenceRow) : EvidenceRow :=
  match row.actionId with
  | some action =>
    if row.treatment.isTreatment &&
        row.experimentUuid == some experiment &&
        row.resolvedAt.isNone then
      store.refreshRow action none now row
    else
      row
  | none => row

theorem refreshTreatedRow_actionId (row : EvidenceRow) :
    (store.refreshTreatedRow experiment now row).actionId =
      row.actionId := by
  simp only [refreshTreatedRow]
  split
  · split
    · exact store.refreshRow_actionId _ none now row
    · rfl
  · rfl

def refreshExperimentReadiness (experiment : Uuid)
    (now : OffsetDateTime) : EvidenceStore :=
  store.updateEvidence (store.refreshTreatedRow experiment now)
    (store.refreshTreatedRow_actionId experiment now)

variable (measurement : ClaimedAutopilotMeasurement)

def ownedMeasurement : Option MeasurementRow :=
  store.measurements.find? fun row =>
    row.id == measurement.id && row.status == .processing &&
      row.attemptCount == measurement.attemptNumber

def setStatus (id : Uuid)
    (status : MeasurementStatus) : EvidenceStore :=
  { store with
    measurements :=
      store.measurements.map fun row =>
        if row.id = id then { row with status := status } else row }

variable (contamination : ℚ)

def establishContamination
    (row : EvidenceRow) : EvidenceRow :=
  { row with
    finalContamination := row.finalContamination.or (some contamination) }

def settleExperiment
    (now : OffsetDateTime) : EvidenceStore :=
  match (store.row? measurement.actionId).bind fun row =>
      row.experimentUuid with
  | some experiment =>
    if settlesExperiment measurement.kind then
      let established :=
        store.updateAction measurement.actionId
          (establishContamination contamination) (fun _ => rfl)
      let resolved := established.resolveControlEvidence experiment now
      resolved.refreshExperimentReadiness experiment now
    else
      store
  | none => store

/-- `none` is a claim that was lost to another worker. -/
def completeMeasurementWithMetrics (observation : AutopilotMeasurementObservation)
    (harm : Option Metrics) (contamination : ℚ)
    (now : OffsetDateTime) : Option EvidenceStore :=
  match store.ownedMeasurement measurement with
  | none => none
  | some _ =>
    let succeeded := store.setStatus measurement.id .succeeded
    let recorded :=
      succeeded.updateAction measurement.actionId
        (fun row =>
          (row.recordOutcome measurement.kind observation.value).recordMetrics
            measurement.kind observation harm)
        (fun row =>
          row.recordOutcome_actionId measurement.kind observation.value)
    let settled := recorded.settleExperiment measurement contamination now
    some (settled.refreshEvidenceReadiness measurement.actionId (some measurement.kind) now)

def mergeHarm (action : Uuid) (harm : Metrics) : EvidenceStore :=
  store.updateAction action
    (fun row =>
      { row with
        observedMetrics := mergeHarmKeys row.observedMetrics harm })
    (fun _ => rfl)

/-- A terminal failure still leaves the harm it observed behind. -/
def returnMeasurement (status : MeasurementStatus)
    (harm : Option Metrics) : EvidenceStore :=
  let returned := store.setStatus measurement.id status
  match harm with
  | some keys =>
    if status = .failed then returned.mergeHarm measurement.actionId keys else returned
  | none => returned

/-- A measurement is retried until its third attempt. -/
def failMeasurement (retryable : Bool) (harm : Option Metrics)
    (now : OffsetDateTime) : EvidenceStore :=
  match store.ownedMeasurement measurement with
  | none => store
  | some row =>
    let status :=
      if retryable && decide (row.attemptCount < 3) then
        MeasurementStatus.pending
      else
        MeasurementStatus.failed
    (store.returnMeasurement measurement status harm).refreshEvidenceReadiness
      row.actionId (some row.kind) now

/-- A worker takes a pending measurement up, three times at most. -/
def claimMeasurement (id : Uuid) : EvidenceStore :=
  { store with
    measurements :=
      store.measurements.map fun row =>
        if row.id = id ∧ row.status = .pending ∧ row.attemptCount < 3 then
          { row with
            status := .processing
            attemptCount := row.attemptCount + 1 }
        else
          row }

end EvidenceStore

end CrowdRelay
