import CrowdRelay.OutboxStore
import CrowdRelay.Persist

namespace CrowdRelay

open KeyedTable

/-!
# The decision ledger

A proposal is persisted in one transaction: a decision row under the decision
key, and an action where its disposition asks for one.  The two inserts find
older rows by different keys.
-/

/-- Who answered the human gate before the action was written. -/
inductive ActionRelease where
  | boundedAuto
  | showLadder
  | standingGrant
  deriving Repr, DecidableEq

/-- A candidate with what the transaction reads off its payload. -/
structure LedgerCandidate extends DecisionCandidate where
  actionKind : String
  /-- The capability it needs, where an executor has to carry it out. -/
  capability : Option String
  /-- The counterparty that a standing grant would have to name. -/
  standingApprovalTarget : Option String

structure DecisionRow where
  id : Nat
  decisionKey : String
  context : AutopilotContext
  subject : ActionSubject
  disposition : PolicyDisposition
  policySnapshot : JsonValue

structure ActionRow where
  id : Nat
  decisionId : Nat
  context : AutopilotContext
  actionKind : String
  subject : ActionSubject
  idempotencyKey : String
  actionClass : ActionClass
  status : ActionStatus
  /-- The status and the approval that the insert wrote. -/
  insertedStatus : ActionStatus
  approvedBy : Option ActionRelease
  lastErrorKind : Option String
  createdAt : OffsetDateTime
  deriving Repr, DecidableEq

structure DecisionTables where
  decisions : List DecisionRow
  actions : List ActionRow

/-- What the transaction reads beside the two tables. -/
structure LedgerReads where
  now : OffsetDateTime
  registryActive : Bool
  advertised : List String
  /-- The quota of the context, where its policy is enabled. -/
  maxActions24h : Option Int
  ladderLive : Bool
  standingGrantLive : Bool
  lifecycleEpisodeAnswered : Bool
  deriving Repr, DecidableEq

inductive DecisionActionOutcome where
  | throttled
  | noAction (decisionCreated : Bool)
  | actionConflict
  | actionReady
      (decisionCreated : Bool)
      (actionId : Nat)
      (inserted : Bool)
  deriving Repr, DecidableEq

def welcomeV2Capability : String := "fan.lifecycle.welcome.v2"

/-- How many cards one proposal may mint while every one dies unanswered. -/
def maxApprovalAsks : Nat := 3

def ActionStatus.isInFlight : ActionStatus → Bool
  | .awaitingApproval | .queued | .processing => true
  | _ => false

def PolicyDisposition.createsAction : PolicyDisposition → Bool
  | .requireApproval | .autoExecute => true
  | _ => false

def ShowGrowthLever.isRelationshipSensitive : ShowGrowthLever → Bool
  | .partnerCrossPromo | .grassrootsSceneRelay | .socialProofRelay => true
  | _ => false

/-! ## The executor check -/

section Checks

variable (tables : DecisionTables) (reads : LedgerReads) (candidate : LedgerCandidate)

/-- The capability the proposal waits for, as no live executor has it. -/
def missingCapability : Option String :=
  candidate.capability.filter fun capability =>
    candidate.disposition.createsAction &&
      (capability = welcomeV2Capability || reads.registryActive) &&
      !reads.advertised.contains capability

def heldByNoExecutor (capability : String)
    (policySnapshot : JsonValue) : JsonValue :=
  let heldBy :=
    match policySnapshot.get? "held_by" with
    | some (.array items) => items
    | _ => []
  policySnapshot.insert "held_by" (.array (heldBy ++ [.string ("no_executor:" ++ capability)]))

/-- Work that nobody can perform is recorded as a recommendation. -/
def executorChecked : LedgerCandidate :=
  match missingCapability reads candidate with
  | some capability =>
    { candidate with
      disposition := .recommendOnly
      policySnapshot := heldByNoExecutor capability candidate.policySnapshot }
  | none => candidate

/-! ## The quota -/

def nanosPerDay : Int := 86400 * 1000000000

/-- The actions of the context and the class in the last day. -/
def actions24h : Nat :=
  tables.actions.countP fun action =>
    action.context = candidate.context &&
      action.actionClass = candidate.actionClass &&
      reads.now - nanosPerDay ≤ action.createdAt &&
      action.status ≠ .cancelled

def quotaHasRoom : Except RepositoryError Bool :=
  if candidate.disposition.createsAction then
    match reads.maxActions24h with
    | none => .error .conflict
    | some maximum => .ok ((actions24h tables reads candidate : Int) < maximum)
  else
    .ok true

/-! ## The status of a new action -/

/-- A live approval of the show's ladder is the human gate, answered. -/
def ladderAuthorized : Bool :=
  let relationshipSensitive :=
    match candidate.action with
    | .requestShowGrowth lever => lever.isRelationshipSensitive
    | _ => false
  let flagged :=
    match candidate.policySnapshot.get? "ladder_authorized" with
    | some (.bool true) => true
    | _ => false
  candidate.context = .showGrowth && !relationshipSensitive && flagged && reads.ladderLive

/-- An operator has answered for this counterparty already. -/
def standingAuthorized : Bool :=
  !ladderAuthorized reads candidate &&
    candidate.disposition = .requireApproval &&
    candidate.standingApprovalTarget.isSome &&
    reads.standingGrantLive

/-- The dead asks of the key, under every key the sweep gave them. -/
def lapsedAsks : Nat :=
  tables.actions.countP fun action =>
    action.lastErrorKind = some "approval_expired" &&
      (action.idempotencyKey = candidate.actionIdempotencyKey ||
        (candidate.actionIdempotencyKey ++ ":lapsed:").toList.isPrefixOf
          action.idempotencyKey.toList)

def reRaiseExhausted : Bool :=
  candidate.disposition = .requireApproval &&
    !ladderAuthorized reads candidate &&
    !standingAuthorized reads candidate &&
    maxApprovalAsks ≤ lapsedAsks tables candidate

def newActionStatus : Option ActionStatus :=
  if reRaiseExhausted tables reads candidate then
    none
  else
    match candidate.disposition with
    | .requireApproval =>
      if ladderAuthorized reads candidate ||
          standingAuthorized reads candidate then
        some .queued
      else
        some .awaitingApproval
    | .autoExecute => some .queued
    | .observeOnly | .recommendOnly | .deny => none

def newApproval : ActionRelease :=
  if candidate.disposition ≠ .requireApproval then
    .boundedAuto
  else if ladderAuthorized reads candidate then
    .showLadder
  else if standingAuthorized reads candidate then
    .standingGrant
  else
    .boundedAuto

/-! ## The two inserts -/

def newDecision : DecisionRow :=
  { id := tables.decisions.length
    decisionKey := candidate.decisionKey
    context := candidate.context
    subject := candidate.subject
    disposition := candidate.disposition
    policySnapshot := candidate.policySnapshot }

variable (decisionId : Nat)

def newAction
    (status : ActionStatus) : ActionRow :=
  { id := tables.actions.length
    decisionId := decisionId
    context := candidate.context
    actionKind := candidate.actionKind
    subject := candidate.subject
    idempotencyKey := candidate.actionIdempotencyKey
    actionClass := candidate.actionClass
    status := status
    insertedStatus := status
    approvedBy := if status = .queued then some (newApproval reads candidate) else none
    lastErrorKind := none
    createdAt := reads.now }

def sameKeyAction : Option ActionRow :=
  tables.actions.find? fun action =>
    action.idempotencyKey = candidate.actionIdempotencyKey

def inFlightAction : Option ActionRow :=
  tables.actions.find? fun action =>
    action.context = candidate.context &&
      action.actionKind = candidate.actionKind &&
      action.subject.uuid = candidate.subject.uuid &&
      action.status.isInFlight

def insertAction (decisionCreated : Bool)
    (status : ActionStatus) : DecisionTables × DecisionActionOutcome :=
  match sameKeyAction tables candidate, inFlightAction tables candidate with
  | none, none =>
    let action := newAction tables reads candidate decisionId status
    ({ tables with actions := tables.actions ++ [action] },
      .actionReady decisionCreated action.id true)
  | some existing, _ => (tables, .actionReady decisionCreated existing.id false)
  | none, some existing => (tables, .actionReady decisionCreated existing.id false)

/-- The transaction after the executor check. -/
def persistChecked : Except RepositoryError (DecisionTables × DecisionActionOutcome) :=
  match quotaHasRoom tables reads candidate with
  | .error failure => .error failure
  | .ok false => .ok (tables, .throttled)
  | .ok true =>
    let decided :=
      { tables with
        decisions :=
          insertUnlessPresent DecisionRow.decisionKey
            (newDecision tables candidate) tables.decisions }
    let decisionCreated :=
      decide (candidate.decisionKey ∉ tables.decisions.map DecisionRow.decisionKey)
    match
        decided.decisions.find? fun row =>
          row.decisionKey = candidate.decisionKey with
    | none => .error .notFound
    | some decision =>
      match newActionStatus tables reads candidate with
      | none => .ok (decided, .noAction decisionCreated)
      | some status =>
        if reads.lifecycleEpisodeAnswered then
          .ok (decided, .noAction decisionCreated)
        else
          .ok (insertAction decided reads candidate decision.id decisionCreated status)

def persistDecisionAndAction : Except RepositoryError (DecisionTables × DecisionActionOutcome) :=
  persistChecked tables reads (executorChecked reads candidate)

end Checks

/-! ## What one proposal does to the tables -/

section Specs

variable {tables after : DecisionTables} {reads : LedgerReads}
  {candidate : LedgerCandidate} {outcome : DecisionActionOutcome} {status : ActionStatus}

theorem createsAction_of_newActionStatus
    (inserts : newActionStatus tables reads candidate = some status) :
    candidate.disposition.createsAction = true := by
  unfold newActionStatus at inserts
  split at inserts
  · cases inserts
  · split at inserts <;> rename_i asked
    · rw [asked]
      rfl
    · rw [asked]
      rfl
    all_goals cases inserts

theorem released_of_queued (inserts : newActionStatus tables reads candidate = some .queued) :
    candidate.disposition = .autoExecute ∨
      newApproval reads candidate = .showLadder ∨
      newApproval reads candidate = .standingGrant := by
  unfold newActionStatus at inserts
  split at inserts
  · cases inserts
  · split at inserts <;> rename_i asked
    · right
      unfold newApproval
      rw [if_neg (fun other => other asked)]
      split at inserts
      · rename_i released
        by_cases ladder : ladderAuthorized reads candidate = true
        · rw [if_pos ladder]
          exact Or.inl rfl
        · have standing : standingAuthorized reads candidate = true :=
            (Bool.or_eq_true_iff.mp released).resolve_left ladder
          rw [if_neg ladder, if_pos standing]
          exact Or.inr rfl
      · cases inserts
    · exact Or.inl asked
    all_goals cases inserts

theorem requireApproval_of_awaiting
    (inserts : newActionStatus tables reads candidate = some .awaitingApproval) :
    candidate.disposition = .requireApproval := by
  unfold newActionStatus at inserts
  split at inserts
  · cases inserts
  · split at inserts <;> rename_i asked
    · exact asked
    all_goals cases inserts

theorem newActionStatus_cases (inserts : newActionStatus tables reads candidate = some status) :
    status = .queued ∨ status = .awaitingApproval := by
  unfold newActionStatus at inserts
  split at inserts
  · cases inserts
  · split at inserts
    · split at inserts <;> cases inserts
      · exact Or.inl rfl
      · exact Or.inr rfl
    · cases inserts
      exact Or.inl rfl
    all_goals cases inserts

/-- What an accepted proposal leaves in the tables. -/
structure Recorded
    (tables after : DecisionTables)
    (candidate : LedgerCandidate)
    (decision : DecisionRow) : Prop where
  decisions :
    after.decisions =
      insertUnlessPresent DecisionRow.decisionKey
        (newDecision tables candidate) tables.decisions
  found : decision ∈ after.decisions
  key : decision.decisionKey = candidate.decisionKey

/-- Everything a proposal can do: nothing, a row, or a row and an action. -/
theorem persistChecked_cases
    (persisted : persistChecked tables reads candidate = .ok (after, outcome)) :
    (after = tables ∧ outcome = .throttled) ∨
      ∃ decision,
        Recorded tables after candidate decision ∧
          ((after.actions = tables.actions ∧
              ∀ created id, outcome ≠ .actionReady created id true) ∨
            ∃ status,
              newActionStatus tables reads candidate = some status ∧
                after.actions =
                  tables.actions ++ [newAction tables reads candidate decision.id status] ∧
                outcome = .actionReady
                    (decide (candidate.decisionKey ∉ tables.decisions.map DecisionRow.decisionKey))
                    tables.actions.length true) := by
  unfold persistChecked at persisted
  split at persisted
  · cases persisted
  · cases persisted
    exact Or.inl ⟨rfl, rfl⟩
  · right
    dsimp only at persisted
    split at persisted
    · cases persisted
    · rename_i decision isFound
      have found := List.mem_of_find?_eq_some isFound
      have key := List.find?_some isFound
      refine ⟨decision, ?_⟩
      split at persisted
      · cases persisted
        exact ⟨⟨rfl, found, of_decide_eq_true key⟩, Or.inl ⟨rfl, nofun⟩⟩
      · rename_i status inserts
        split at persisted
        · cases persisted
          exact ⟨⟨rfl, found, of_decide_eq_true key⟩, Or.inl ⟨rfl, nofun⟩⟩
        · unfold insertAction at persisted
          split at persisted
          · cases persisted
            exact ⟨⟨rfl, found, of_decide_eq_true key⟩, Or.inr ⟨status, inserts, rfl, rfl⟩⟩
          all_goals
            cases persisted
            refine ⟨⟨rfl, found, of_decide_eq_true key⟩, Or.inl ⟨rfl, ?_⟩⟩
            intro created id same
            injection same with _ _ inserted
            cases inserted

end Specs

end CrowdRelay
