import CrowdRelay.ActionPayload
import CrowdRelay.JsonValue
import CrowdRelay.TextScan

namespace CrowdRelay

/-!
# The action ledger's resolution policy

What an external fact says about an action, and what that may change about
the action's state.  Both are pure: evidence is loaded by the callers.
-/

inductive ActionState where
  | planned
  | authorized
  | queued
  | running
  | succeeded
  | failed
  | unknown
  | reconciling
  | cancelled
  | revoked
  deriving Repr, DecidableEq

namespace ActionState

def isTerminal : ActionState → Bool
  | .failed | .cancelled | .revoked => true
  | _ => false

/-- The monotonic transition rules; a premature success may be corrected. -/
def canTransitionTo : ActionState → ActionState → Bool
  | .planned, .authorized
  | .planned, .cancelled
  | .planned, .revoked => true
  | .authorized, .queued
  | .authorized, .cancelled
  | .authorized, .revoked => true
  | .queued, .running
  | .queued, .cancelled
  | .queued, .failed => true
  | .running, .succeeded
  | .running, .failed
  | .running, .unknown
  | .running, .queued => true
  | .unknown, .reconciling
  | .unknown, .succeeded
  | .unknown, .failed => true
  | .reconciling, .succeeded
  | .reconciling, .failed
  | .reconciling, .unknown => true
  | .succeeded, .failed
  | .succeeded, .unknown => true
  | _, _ => false

end ActionState

/-- What a provider-specific adapter found out about a delivery. -/
inductive ProviderDeliveryState where
  | confirmed
  | definitiveFailure
  | confirmationLost
  | inFlight
  deriving Repr, DecidableEq

/-- Observed facts about an execution. -/
inductive ResolutionEvidence where
  | terminalReceipt (succeeded : Bool)
  | providerDelivery (state : ProviderDeliveryState)
  | noEvidence
  deriving Repr, DecidableEq

/-- What the external world said, before any policy is applied. -/
inductive ObservedResolution where
  | executed
  | failed
  | unknown
  deriving Repr, DecidableEq

/-- Whether a persisted success has external confirmation behind it. -/
inductive SuccessEvidence where
  | premature
  | providerConfirmed
  deriving Repr, DecidableEq

/-- What an observation may change about the current state. -/
inductive LegalTransition where
  | apply (target : ActionState)
  | noChange
  | conflict
  deriving Repr, DecidableEq

/-- Maps external facts to what happened; no evidence is never a failure. -/
def resolveObservation : ResolutionEvidence → ObservedResolution
  | .terminalReceipt true => .executed
  | .terminalReceipt false => .failed
  | .providerDelivery .confirmed => .executed
  | .providerDelivery .definitiveFailure => .failed
  | .providerDelivery .confirmationLost => .unknown
  | .providerDelivery .inFlight => .unknown
  | .noEvidence => .unknown

/-- The state-transition policy for one observation. -/
def legalTransition (current : ActionState) (observed : ObservedResolution)
    (successEvidence : SuccessEvidence) : LegalTransition :=
  match current, observed with
  | .succeeded, .executed =>
    match successEvidence with
    | .providerConfirmed => .noChange
    | .premature => .apply .succeeded
  | .succeeded, .failed =>
    match successEvidence with
    | .providerConfirmed => .conflict
    | .premature => .apply .failed
  | .succeeded, .unknown => .noChange
  | .failed, .executed => .conflict
  | .failed, .failed => .noChange
  | .failed, .unknown => .noChange
  | .cancelled, _ => .noChange
  | .revoked, _ => .noChange
  | .unknown, .executed => .apply .succeeded
  | .unknown, .failed => .apply .failed
  | .unknown, .unknown => .noChange
  | .reconciling, .executed => .apply .succeeded
  | .reconciling, .failed => .apply .failed
  | .reconciling, .unknown => .noChange
  | .running, .executed => .apply .succeeded
  | .running, .failed => .apply .failed
  | .running, .unknown => .apply .unknown
  | .planned, _ => .noChange
  | .authorized, _ => .noChange
  | .queued, _ => .noChange

/--
A status the resolution may apply: one the transition rules allow, or the
success an action already has, confirmed for the first time.
-/
def AppliesLegally (current target : ActionState) : Prop :=
  current.canTransitionTo target = true ∨ (current = .succeeded ∧ target = .succeeded)

theorem legalTransition_appliesLegally {current target : ActionState}
    {observed : ObservedResolution} {successEvidence : SuccessEvidence}
    (applies : legalTransition current observed successEvidence = .apply target) :
    AppliesLegally current target := by
  unfold AppliesLegally
  cases current <;> cases observed <;> cases successEvidence <;>
    simp only [legalTransition, LegalTransition.apply.injEq, reduceCtorEq] at applies <;>
    subst applies <;> decide

theorem legalTransition_of_terminal {current : ActionState}
    (terminal : current.isTerminal = true) (observed : ObservedResolution)
    (successEvidence : SuccessEvidence) (target : ActionState) :
    legalTransition current observed successEvidence ≠ .apply target := by
  cases current <;> cases observed <;>
    simp_all [legalTransition, ActionState.isTerminal]

theorem legalTransition_of_confirmed (observed : ObservedResolution) (target : ActionState) :
    legalTransition .succeeded observed .providerConfirmed ≠ .apply target := by
  cases observed <;> simp [legalTransition]

/-!
## How observations reach an action

The row of one action, the reports filed against it, and the three ways an
external fact reaches it: an executor's report, the reconciliation sweep over
unknown actions, and the sweep for receipts that never came.
-/

inductive ExecutorReportStatus where
  | accepted
  | executing
  | succeeded
  | failed
  deriving Repr, DecidableEq

def ExecutorReportStatus.isTerminal : ExecutorReportStatus → Bool
  | .succeeded | .failed => true
  | .accepted | .executing => false

structure RecordExecutionReport where
  receiptKey : String
  executorId : String
  status : ExecutorReportStatus
  claimToken : Option Uuid
  providerReference : Option String
  metadata : JsonValue

structure ExecutionReport where
  actionId : Uuid
  receiptKey : String
  executorId : String
  status : ExecutorReportStatus
  providerReference : Option String
  metadata : JsonValue

inductive ClaimStatus where
  | claimed
  | succeeded
  | failed
  deriving Repr, DecidableEq

structure ExecutionClaim where
  claimToken : Uuid
  status : ClaimStatus

/--
One action and what is stored about its execution.  A `state` of `none` is a
row whose status this build cannot read, a `payload` of `none` one it cannot
parse.
-/
structure LedgeredAction where
  actionId : Uuid
  printedId : String
  actionKind : String
  payload : Option AutopilotActionPayload
  state : Option ActionState
  emitted : Bool
  reports : List ExecutionReport
  claims : String → Option ExecutionClaim

def artifactRequestKind : String := "content.artifact.request"

/-- The three places an artifact's delivery can be named. -/
def artifactDeliveryKeys : List String := ["url", "surface", "reference"]

def artifactDeliveryField (metadata : JsonValue)
    (key : String) : Option JsonValue :=
  (metadata.get? "artifact_delivery").bind (JsonValue.get? key)

def artifactDelivered (metadata : JsonValue) : Bool :=
  artifactDeliveryKeys.any fun key =>
    match (artifactDeliveryField metadata key).bind JsonValue.asStr with
    | some value => !TextScan.isBlank value.toList
    | none => false

/-- The same question as the database asks it of a stored report. -/
def artifactDeliveryStored (metadata : JsonValue) : Bool :=
  artifactDeliveryKeys.any fun key =>
    match artifactDeliveryField metadata key with
    | none => false
    | some .null => false
    | some (.string value) => !(value.toList.all fun c => c = ' ')
    | some _ => true

namespace LedgeredAction

def requiresExecutor (action : LedgeredAction) : Bool :=
  match action.payload with
  | some payload => payloadRequiresExecutor payload
  | none => true

variable (action : LedgeredAction)

/-- A stored success with a provider reference, delivered where it must be. -/
def confirmedBy
    (report : ExecutionReport) : Bool :=
  report.actionId = action.actionId &&
    report.status = .succeeded &&
    report.providerReference.isSome &&
    (action.actionKind ≠ artifactRequestKind || artifactDeliveryStored report.metadata)

/--
Whether the persisted success has external confirmation.  The receipt being
decided on is already stored, so its own key is left out.
-/
def successEvidenceFor
    (leftOut : Option String) : SuccessEvidence :=
  if action.requiresExecutor = false then
    .providerConfirmed
  else if action.reports.any fun report =>
      action.confirmedBy report && leftOut ≠ some report.receiptKey then
    .providerConfirmed
  else
    .premature

def hasTerminalReport (action : LedgeredAction) : Bool :=
  action.reports.any fun report =>
    report.actionId = action.actionId && report.status.isTerminal

def hasReceipt (action : LedgeredAction) (receiptKey : String) : Bool :=
  action.reports.any fun report => report.receiptKey = receiptKey

end LedgeredAction

variable (action : LedgeredAction) (command : RecordExecutionReport)

/-- A success without a delivered artifact is filed as a failure. -/
def filedStatus : ExecutorReportStatus :=
  if command.status = .succeeded &&
      (action.actionKind = artifactRequestKind && !artifactDelivered command.metadata) then
    .failed
  else
    command.status

/-- A terminal report must carry the token of the claim its executor holds. -/
def claimRefuses : Bool :=
  (filedStatus action command).isTerminal &&
    match action.claims command.executorId with
    | some claim => command.claimToken ≠ some claim.claimToken
    | none => false

def storedReport : ExecutionReport where
  actionId := action.actionId
  receiptKey := command.receiptKey
  executorId := command.executorId
  status := filedStatus action command
  providerReference := command.providerReference
  metadata := command.metadata

/-- Close the executor's claim; a success is never downgraded by a failure. -/
def settleClaim : String → Option ExecutionClaim :=
  match action.claims command.executorId, filedStatus action command with
  | some claim, .succeeded =>
    fun executor =>
      if executor = command.executorId then
        some { claim with status := .succeeded }
      else
        action.claims executor
  | some claim, .failed =>
    if claim.status = .succeeded then
      action.claims
    else
      fun executor =>
        if executor = command.executorId then
          some { claim with status := .failed }
        else
          action.claims executor
  | _, _ => action.claims

/-- What one observation found and what it wrote. -/
structure LedgerEntry where
  current : Option ActionState
  applied : Option ActionState
  deriving Repr, DecidableEq

/-- Nothing moves. -/
def unchanged (action : LedgeredAction) : LedgeredAction × LedgerEntry :=
  (action, ⟨action.state, none⟩)

variable (evidence : ResolutionEvidence)

/-- Write what the resolver decided from the state it was decided from. -/
def applyResolution (successEvidence : SuccessEvidence) : LedgeredAction × LedgerEntry :=
  match action.state with
  | none => unchanged action
  | some current =>
    match legalTransition current (resolveObservation evidence) successEvidence with
    | .apply target =>
      ({ action with state := some target }, ⟨some current, some target⟩)
    | .noChange => unchanged action
    | .conflict => unchanged action

/--
File one executor report.  A report is stored once, under its key and only for
an emitted action; storing it again is a replay.  Only a terminal report is
put to the resolver.
-/
def recordExecutionReport : LedgeredAction × LedgerEntry :=
  if claimRefuses action command then
    unchanged action
  else if action.emitted && !action.hasReceipt command.receiptKey then
    let stored :=
      { action with
        reports := storedReport action command :: action.reports
        claims := settleClaim action command }
    match filedStatus action command with
    | .failed =>
      applyResolution stored (.terminalReceipt false)
        (stored.successEvidenceFor (some command.receiptKey))
    | .succeeded =>
      applyResolution stored (.terminalReceipt true)
        (stored.successEvidenceFor (some command.receiptKey))
    | .accepted => unchanged stored
    | .executing => unchanged stored
  else
    unchanged action

variable (succeeded : Bool)

/-- The report the sweep stands in for, when no terminal one is stored. -/
def synthesizedReport : ExecutionReport where
  actionId := action.actionId
  receiptKey := "reconcile:" ++ action.printedId
  executorId := "receipt_reconciliation"
  status := if succeeded then .succeeded else .failed
  providerReference := none
  metadata := .object [("synthesized", .bool true)]

/-- Resolve an unknown action and leave a terminal report behind. -/
def resolveAction : LedgeredAction × LedgerEntry :=
  let target : ActionState := if succeeded then .succeeded else .failed
  ({ action with
      state := some target
      reports :=
        if action.emitted && !action.hasTerminalReport &&
            !action.hasReceipt ("reconcile:" ++ action.printedId) then
          synthesizedReport action succeeded :: action.reports
        else
          action.reports },
    ⟨action.state, some target⟩)

/-- The reconciliation sweeps decide about unknown actions only. -/
def reconcile : LedgeredAction × LedgerEntry :=
  if action.state = some .unknown then
    match legalTransition .unknown (resolveObservation evidence) .premature with
    | .apply .succeeded => resolveAction action true
    | .apply .failed => resolveAction action false
    | _ => unchanged action
  else
    unchanged action

def operatorExecutorId : String := "operator-console"

def operatorClaimOpen (action : LedgeredAction) : Bool :=
  match action.claims operatorExecutorId with
  | some claim => claim.status = .claimed
  | none => false

/-- A payload that cannot be parsed is never reclassified. -/
def owesTerminalReceipt (action : LedgeredAction) : Bool :=
  match action.payload with
  | some payload => requiresTerminalReceipt payload
  | none => false

/-- A dispatched action whose receipt never came becomes unknown. -/
def detectReceiptGap : LedgeredAction × LedgerEntry :=
  if action.state = some .succeeded &&
      (action.emitted && !action.hasTerminalReport &&
        !operatorClaimOpen action && owesTerminalReceipt action) then
    ({ action with state := some .unknown }, ⟨action.state, some .unknown⟩)
  else
    unchanged action

/--
What can be observed about an action: an executor's report, what a sweep reads
off the provider's own tables, the absence of a receipt, or any other external
fact put to the same resolver.
-/
inductive ActionObservation where
  | report (command : RecordExecutionReport)
  | reconciliation (evidence : ResolutionEvidence)
  | receiptGap
  | fact (evidence : ResolutionEvidence)

def observeAction :
    ActionObservation → LedgeredAction × LedgerEntry
  | .report command => recordExecutionReport action command
  | .reconciliation evidence => reconcile action evidence
  | .receiptGap => detectReceiptGap action
  | .fact evidence =>
    applyResolution action evidence (action.successEvidenceFor none)

end CrowdRelay
