import CrowdRelay.ActionPayload
import CrowdRelay.JsonValue
import CrowdRelay.Machine
import Mathlib.Data.Finset.Insert

namespace CrowdRelay

open MachineInt

/-!
# Persisting a candidate

The one gate every candidate passes through: class ceiling, volume envelope
and attention budget, in that order.  The repository is not modelled here; its
answer to each candidate is an input, so every statement below quantifies over
everything the store may do.
-/

structure DecisionCandidate where
  context : AutopilotContext
  subject : ActionSubject
  disposition : PolicyDisposition
  policySnapshot : JsonValue
  action : AutopilotActionPayload
  decisionKey : String
  actionIdempotencyKey : String

/-- What the store made of a candidate it accepted. -/
structure CandidatePersistence where
  decisionCreated : Bool
  actionCreated : Bool
  quotaThrottled : Bool
  actionId : Option Uuid
  deriving Repr, DecidableEq

inductive RepositoryError where
  | unavailable
  | notFound
  | conflict
  | conflictBecause (reason : String)
  | unexpected
  deriving Repr, DecidableEq

/-- A conflict means the candidate already exists or is in flight. -/
def RepositoryError.isConflict : RepositoryError → Bool
  | .conflict => true
  | .conflictBecause _ => true
  | _ => false

abbrev RepositoryAnswer := Except RepositoryError CandidatePersistence

/-- How far one context's candidates got down the funnel this cycle. -/
structure ContextCycleActivity where
  candidates : U32
  decisions : U32
  actions : U32
  throttled : U32
  deriving Repr, DecidableEq

structure AutopilotCycleReport where
  decisions : U32
  actionsEnqueued : U32
  actionsThrottled : U32
  actionsHeld : U32
  asksWithheld : U32
  actionsGated : U32
  contextActivity : AutopilotContext → Option ContextCycleActivity

namespace AutopilotCycleReport

def empty : AutopilotCycleReport where
  decisions := 0
  actionsEnqueued := 0
  actionsThrottled := 0
  actionsHeld := 0
  asksWithheld := 0
  actionsGated := 0
  contextActivity := fun _ => none

/-- Update the funnel entry for one context, created on first touch. -/
def updateContextStats (report : AutopilotCycleReport) (context : AutopilotContext)
    (change : ContextCycleActivity → ContextCycleActivity) :
    AutopilotCycleReport :=
  { report with
    contextActivity := fun query =>
      if query = context then
        some (change ((report.contextActivity context).getD ⟨0, 0, 0, 0⟩))
      else
        report.contextActivity query }

end AutopilotCycleReport

/-- The cycle-wide limits every candidate is measured against. -/
structure CycleLimits where
  ceilings : List (ActionClass × AutonomyLevel)
  envelope : GrowthEnvelope
  usage : EnvelopeUsage
  touchAges : Uuid → Option U32
  touchedThisCycle : Finset Uuid

namespace CycleLimits

variable (limits : CycleLimits)

/-- The configured ceiling; an absent row is the safest one. -/
def ceilingFor
    (actionClass : ActionClass) : AutonomyLevel :=
  (limits.ceilings.findSome? fun row =>
    if row.1 = actionClass then some row.2 else none).getD
    actionClass.safestCeiling

/--
Hours since the agent reached this subject; somebody this cycle already
reached was touched now, whatever the snapshot says.
-/
def hoursSinceSubjectTouched
    (subject : ActionSubject) : Option U32 :=
  if subject.uuid ∈ limits.touchedThisCycle then some 0 else limits.touchAges subject.uuid

/-- Spend the touch budgets of the class an action was created under. -/
def spendTouch : ActionClass → CycleLimits
  | .ownedAudience =>
    { limits with
      usage.ownedAudienceTouches7d := limits.usage.ownedAudienceTouches7d.saturatingAdd 1 }
  | .thirdParty =>
    { limits with
      usage.thirdPartyTouches7d := limits.usage.thirdPartyTouches7d.saturatingAdd 1
      usage.thirdPartyTouches24h := limits.usage.thirdPartyTouches24h.saturatingAdd 1 }
  | .firstPartyReversible => limits
  | .paid => limits

end CycleLimits

namespace DecisionCandidate

def actionClass (candidate : DecisionCandidate) : ActionClass := candidate.action.actionClass

/-- The candidate contacts the very person its subject names. -/
def outwardContact (candidate : DecisionCandidate) : Bool :=
  candidate.actionClass.isOutward && candidate.subject.isContactablePerson

end DecisionCandidate

variable (limits : CycleLimits) (candidate : DecisionCandidate)

def ceilingDisposition : PolicyDisposition :=
  clampDisposition candidate.disposition (limits.ceilingFor candidate.actionClass)

/-- The usage this candidate is measured against; only contacts have a cooldown. -/
def subjectUsage : EnvelopeUsage :=
  { limits.usage with
    hoursSinceSubjectTouched :=
      if candidate.outwardContact then limits.hoursSinceSubjectTouched candidate.subject else none }

/-- The envelope's verdict; a candidate already denied owes it nothing. -/
def envelopeVerdict : EnvelopeVerdict :=
  if ceilingDisposition limits candidate = .deny then
    .allow
  else
    checkEnvelope candidate.actionClass limits.envelope (subjectUsage limits candidate)

def envelopeDisposition : PolicyDisposition :=
  match envelopeVerdict limits candidate with
  | .allow => ceilingDisposition limits candidate
  | .hold block =>
    if block.mayOfferForApproval then
      clampDisposition (ceilingDisposition limits candidate) .requireApproval
    else
      clampDisposition (ceilingDisposition limits candidate) .recommend

/-- The one disposition that costs a person anything, with no room to ask. -/
def askWithheld : Bool :=
  envelopeDisposition limits candidate = .requireApproval &&
    !(checkAttention limits.envelope limits.usage).mayAsk

/-- The disposition after the attention budget: the one that is recorded. -/
def finalDisposition : PolicyDisposition :=
  if askWithheld limits candidate then
    clampDisposition (envelopeDisposition limits candidate) .recommend
  else
    envelopeDisposition limits candidate

/-- What held the decision below what its detector asked for, in limit order. -/
def heldBy : List String :=
  (if ceilingDisposition limits candidate ≠ candidate.disposition then
    ["class_ceiling:" ++ candidate.actionClass.asStr]
  else
    []) ++
  (match envelopeVerdict limits candidate with
  | .allow => []
  | .hold block => ["envelope:" ++ block.asStr]) ++
  (if askWithheld limits candidate then ["attention_budget"] else [])

def recordedCandidate : DecisionCandidate :=
  { candidate with
    disposition := finalDisposition limits candidate
    policySnapshot :=
      if heldBy limits candidate = [] then
        candidate.policySnapshot
      else
        candidate.policySnapshot.insert "held_by" (.array ((heldBy limits candidate).map .string)) }

variable (report : AutopilotCycleReport)

/-- The report after the gate has clamped, before the repository answers. -/
def reportClamps
    (candidate : DecisionCandidate) : AutopilotCycleReport :=
  let counted :=
    report.updateContextStats candidate.context fun stats =>
      { stats with candidates := stats.candidates.saturatingAdd 1 }
  { counted with
    actionsGated :=
      if ceilingDisposition limits candidate ≠ candidate.disposition then
        counted.actionsGated.saturatingAdd 1
      else
        counted.actionsGated
    actionsHeld :=
      if envelopeVerdict limits candidate = .allow then
        counted.actionsHeld
      else
        counted.actionsHeld.saturatingAdd 1
    asksWithheld :=
      if askWithheld limits candidate then
        counted.asksWithheld.saturatingAdd 1
      else
        counted.asksWithheld }

/-- The report after the repository accepted the candidate. -/
def reportPersisted (context : AutopilotContext)
    (persisted : CandidatePersistence) : AutopilotCycleReport :=
  let decided :=
    if persisted.decisionCreated then
      { report with
        decisions := report.decisions.saturatingAdd 1 }.updateContextStats
        context fun stats =>
          { stats with decisions := stats.decisions.saturatingAdd 1 }
    else
      report
  let enqueued :=
    if persisted.actionCreated then
      { decided with
        actionsEnqueued := decided.actionsEnqueued.saturatingAdd 1 }.updateContextStats
        context fun stats =>
          { stats with actions := stats.actions.saturatingAdd 1 }
    else
      decided
  if persisted.quotaThrottled then
    { enqueued with
      actionsThrottled := enqueued.actionsThrottled.saturatingAdd 1 }.updateContextStats
      context fun stats =>
        { stats with throttled := stats.throttled.saturatingAdd 1 }
  else
    enqueued

/--
The limits after an action was created: the contacted person is touched, the
class budgets and the attention budget are spent as they are used.
-/
def spendCreated
    (recorded : DecisionCandidate) : CycleLimits :=
  let touched :=
    if recorded.outwardContact then
      { limits with
        touchedThisCycle := insert recorded.subject.uuid limits.touchedThisCycle }
    else
      limits
  let spent := touched.spendTouch recorded.actionClass
  if recorded.disposition = .requireApproval then
    { spent with
      usage.approvalRequests7d := spent.usage.approvalRequests7d.saturatingAdd 1 }
  else
    spent

/-- One candidate's way through the gate: what was proposed, recorded, answered. -/
structure PersistEntry where
  candidate : DecisionCandidate
  recorded : DecisionCandidate
  answer : RepositoryAnswer

/-- What `persist` hands back to the arm that called it. -/
def PersistEntry.result
    (entry : PersistEntry) : Except RepositoryError (Option Uuid) :=
  match entry.answer with
  | .ok persisted => .ok persisted.actionId
  | .error failure => if failure.isConflict then .ok none else .error failure

/-- The limits and the report of a running cycle. -/
structure CycleState where
  limits : CycleLimits
  report : AutopilotCycleReport

/-- Pass one candidate through the gate and take the repository's answer. -/
def persist (state : CycleState) (candidate : DecisionCandidate)
    (answer : RepositoryAnswer) : CycleState × PersistEntry :=
  let recorded := recordedCandidate state.limits candidate
  let clamped := reportClamps state.limits state.report candidate
  match answer with
  | .error failure =>
    (⟨state.limits, clamped⟩, ⟨candidate, recorded, .error failure⟩)
  | .ok persisted =>
    (⟨if persisted.actionCreated then
        spendCreated state.limits recorded
      else
        state.limits,
      reportPersisted clamped recorded.context persisted⟩,
      ⟨candidate, recorded, .ok persisted⟩)

/--
A cycle feeds candidates through the gate one after another.  An error that is
no conflict aborts it.
-/
def cycle :
    Machine.Transducer CycleState (DecisionCandidate × RepositoryAnswer) PersistEntry where
  step state proposed := persist state proposed.1 proposed.2
  halts entry :=
    match entry.result with
    | .ok _ => false
    | .error _ => true

end CrowdRelay
