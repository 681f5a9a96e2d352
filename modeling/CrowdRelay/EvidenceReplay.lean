import Mathlib.Algebra.Order.Group.Abs
import CrowdRelay.GrowthEvidence
import CrowdRelay.Portfolio

namespace CrowdRelay

/-!
# Replaying evidence into the beliefs

A batch of evidence becomes a list of updates of the causal model.  Every row
updates the outcome model; only control rows form the contrast the treated
rows are measured against, and the contrast is earned for each horizon apart.
-/

/--
Whether a horizon carries an observation a learner at the checkpoint has not
learned from.
-/
def horizonIsNew
    (checkpoint horizon fallback : Option OffsetDateTime) : Bool :=
  match checkpoint, horizon.or fallback with
  | none, _ => true
  | some _, none => false
  | some cp, some ts => decide (cp < ts)

/-- The control arm's average outcome, `none` where no unit has one. -/
structure ControlMean where
  y14 : Option ℚ
  y30 : Option ℚ
  deriving DecidableEq

def average (outcomes : List ℚ) : Option ℚ :=
  if outcomes.length > 0 then some (outcomes.sum / outcomes.length) else none

/-- The control rows of an experiment that teach per action. -/
def controlArm (evidence : List GrowthEvidence)
    (experiment : Uuid) : List GrowthEvidence :=
  evidence.filter fun ev =>
    !ev.treatment.isTreatment && ev.outcomeBasis.teachesPerAction &&
      ev.experimentUuid == some experiment

def controlArmMeans (evidence : List GrowthEvidence)
    (experiment : Uuid) : ControlMean where
  y14 := average ((controlArm evidence experiment).filterMap GrowthEvidence.observedIncrementalFans)
  y30 := average ((controlArm evidence experiment).filterMap GrowthEvidence.y30Outcome)

structure DispatchPrediction where
  templateId : String
  expectedNewFans : ℚ
  expectedSignalInstalls : ℚ
  context : DispatchContext
  targetKey : Option String
  creativeFamily : Option CreativeFamily
  deriving DecidableEq

structure ContrastedOutcome where
  outcome : ℚ
  contrast : Option ℚ
  quality : EvidenceQuality
  deriving DecidableEq

namespace ContrastedOutcome

/-- The effect the posterior is updated with. -/
def tau (effect : ContrastedOutcome) : ℚ := effect.outcome - effect.contrast.getD 0

def observationVariance (effect : ContrastedOutcome) : ℚ :=
  2 * max |effect.tau| 1 * effect.quality.varianceMultiplier

end ContrastedOutcome

/--
One update of the causal model.  An effect is learned as its `tau`, its
`observationVariance` and its `quality`.
-/
inductive ModelUpdate where
  | metric
      (metricKey template : String)
      (targetKey : Option String)
      (observed observationVariance : ℚ)
      (quality : EvidenceQuality)
  | outcomeModel (prediction : DispatchPrediction) (rawFans : ℚ)
  | treatmentEffect
      (template : String)
      (subredditType targetKey : Option String)
      (effect : ContrastedOutcome)
  | familyEffect
      (family : CreativeFamily)
      (template : String)
      (subredditType targetKey : Option String)
      (effect : ContrastedOutcome)
  | treatmentEffectY30
      (template : String)
      (subredditType targetKey : Option String)
      (effect : ContrastedOutcome)
  | calibration
      (regime : EstimationRegime)
      (template : String)
      (predicted predictedStd observed : ℚ)
      (target : Option String)
      (evidenceQuality : String)
  | y30Interval (meanY30 stdY30 observed : ℚ)
  | bridge (y14 y30 : ℚ)
  deriving DecidableEq

/-- The part of an opportunity id before its first colon. -/
def extractTemplateFromOpportunity : Option String → String
  | some opportunityId => String.ofList (opportunityId.toList.takeWhile (· != ':'))
  | none => "unknown"

/-- A row some of whose measurements are still out counts as observational. -/
def learningQuality (ev : GrowthEvidence) : EvidenceQuality :=
  if ev.isPartial then ev.effectiveEvidenceQuality.minObservational else ev.effectiveEvidenceQuality

def earnedQualityFor (evidenceQuality : EvidenceQuality)
    (horizonContrast : Option ℚ) : EvidenceQuality :=
  if horizonContrast.isSome then evidenceQuality else evidenceQuality.minQuasiExperimental

section Rows

variable (checkpoint : Option OffsetDateTime) (ev : GrowthEvidence)

/-- The secondary metrics teach once, when the row resolves. -/
def metricUpdates : List ModelUpdate :=
  if ev.resolvedAt.isSome && horizonIsNew checkpoint ev.resolvedAt none then
    ev.observedMetrics.filterMap fun (metricKey, observed) =>
      if metricKey = "release_channel_lift" then
        none
      else
        let metricQuality :=
          if "release_channel_lift:".toList.isPrefixOf metricKey.toList then
            EvidenceQuality.observational
          else
            learningQuality ev
        some
          (.metric metricKey
            (extractTemplateFromOpportunity ev.opportunityId)
            ev.targetKey observed
            (2 * max |observed| 1 * metricQuality.varianceMultiplier)
            metricQuality)
  else
    []

/-- The raw count teaches with the latest reading of it. -/
def outcomeUpdates : List ModelUpdate :=
  let outcomeIsNew :=
    horizonIsNew checkpoint ev.replayed14dAt ev.resolvedAt ||
      (horizonIsNew checkpoint ev.replayed3dAt ev.resolvedAt && ev.replayed14dAt.isNone)
  if outcomeIsNew then
    match ev.observedFans with
    | some rawFans =>
      [.outcomeModel {
        templateId := extractTemplateFromOpportunity ev.opportunityId
        expectedNewFans := ev.predictedFans
        expectedSignalInstalls := ev.predictedSignalInstalls
        context := ev.context
        targetKey := ev.targetKey
        creativeFamily := ev.creativeFamily
      } rawFans]
    | none => []
  else
    []

/-- The contrast of the row's experiment, if it belongs to one. -/
def contrastOf (means : Uuid → ControlMean)
    (horizon : ControlMean → Option ℚ) : Option ℚ :=
  ev.experimentUuid.bind fun experiment => horizon (means experiment)

def contrastedOutcome (contrast : Option ℚ)
    (outcome : ℚ) : ContrastedOutcome where
  outcome := outcome
  contrast := contrast
  quality := earnedQualityFor (learningQuality ev) contrast

/-- What the fourteen-day outcome teaches. -/
def y14Updates (means : Uuid → ControlMean) : List ModelUpdate :=
  let template := extractTemplateFromOpportunity ev.opportunityId
  let subredditType := ev.context.subredditType
  if horizonIsNew checkpoint ev.replayed14dAt ev.resolvedAt then
    match ev.observedIncrementalFans with
    | some outcomeY14 =>
      let effect := contrastedOutcome ev (contrastOf ev means ControlMean.y14) outcomeY14
      [.treatmentEffect template subredditType ev.targetKey effect] ++
        (match ev.creativeFamily with
          | some family =>
            [.familyEffect family template subredditType ev.targetKey effect]
          | none => []) ++
        [.calibration .y14Bridged template ev.predictedFans 2 effect.tau
          subredditType effect.quality.asStr]
    | none => []
  else
    []

/-- What the durable outcome teaches. -/
def y30Updates (means : Uuid → ControlMean) : List ModelUpdate :=
  let template := extractTemplateFromOpportunity ev.opportunityId
  let subredditType := ev.context.subredditType
  if horizonIsNew checkpoint ev.replayed30dAt ev.resolvedAt then
    match ev.y30Outcome with
    | some outcomeY30 =>
      let effect := contrastedOutcome ev (contrastOf ev means ControlMean.y30) outcomeY30
      [.treatmentEffectY30 template subredditType ev.targetKey effect,
        .calibration .y30Direct template ev.predictedFans 2 effect.tau
          subredditType effect.quality.asStr] ++
        (match ev.decisionPosterior with
          | some posterior =>
            [.y30Interval posterior.meanY30 posterior.stdY30 effect.tau]
          | none => [])
    | none => []
  else
    []

/-- The later of the two horizons of the pair. -/
def pairCompletedAt : Option OffsetDateTime :=
  max (ev.replayed14dAt.or ev.resolvedAt) (ev.replayed30dAt.or ev.resolvedAt)

/-- A pair teaches the bridge when its last horizon arrives. -/
def bridgeUpdates (means : Uuid → ControlMean) : List ModelUpdate :=
  let y14Contrast := contrastOf ev means ControlMean.y14
  let y30Contrast := contrastOf ev means ControlMean.y30
  if horizonIsNew checkpoint (pairCompletedAt ev) none then
    match ev.observedIncrementalFans, ev.y30Outcome with
    | some y14, some y30 =>
      if y14Contrast.isSome == y30Contrast.isSome then
        [.bridge (y14 - y14Contrast.getD 0) (y30 - y30Contrast.getD 0)]
      else
        []
    | _, _ => []
  else
    []

/-- Everything one row of a batch teaches, in order. -/
def replayRow (means : Uuid → ControlMean) : List ModelUpdate :=
  let executionStatus :=
    ev.executionStatus.getD (if ev.treatment.isTreatment then .executed else .control)
  let contributesToTau :=
    CausalEstimand.intentToTreat.includesInTreatmentEffect ev.treatment.isTreatment executionStatus
  metricUpdates checkpoint ev ++
    if !ev.outcomeBasis.teachesPerAction then
      []
    else
      outcomeUpdates checkpoint ev ++
        if !contributesToTau then
          []
        else if !ev.treatment.isTreatment then
          []
        else
          y14Updates checkpoint ev means ++ y30Updates checkpoint ev means ++
            bridgeUpdates checkpoint ev means

end Rows

/-- Whether a row of the extra contrast is also in the batch. -/
def seenIn (evidence : List GrowthEvidence) (extra : GrowthEvidence) : Bool :=
  if extra.experimentAssignmentId.isSome then
    evidence.any fun seen =>
      seen.experimentAssignmentId == extra.experimentAssignmentId
  else
    evidence.any fun seen =>
      seen.experimentAssignmentId.isNone && seen.actionId == extra.actionId

/-- The control arms of a batch and of its extra contrast, each row once. -/
def contrastMeans
    (evidence extraContrast : List GrowthEvidence) : Uuid → ControlMean :=
  controlArmMeans (evidence ++ extraContrast.filter fun extra => !seenIn evidence extra)

structure RowReplay where
  row : GrowthEvidence
  updates : List ModelUpdate
  deriving DecidableEq

/--
Replays the evidence, contrasting it against the control arms in it and in the
extra contrast.  Only the evidence is learned from.
-/
def applyEvidenceToModelWithContrast (evidence extraContrast : List GrowthEvidence)
    (checkpoint : Option OffsetDateTime) : List RowReplay :=
  let controlMeans := contrastMeans evidence extraContrast
  evidence.map fun ev => ⟨ev, replayRow checkpoint ev controlMeans⟩

def applyEvidenceToModel (evidence : List GrowthEvidence) : List RowReplay :=
  applyEvidenceToModelWithContrast evidence [] none

end CrowdRelay
