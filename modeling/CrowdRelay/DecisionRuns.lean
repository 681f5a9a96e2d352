import CrowdRelay.DecisionLedger

namespace CrowdRelay

open KeyedTable

/-!
# Actions and the decisions they hang off

Over any run of proposals, status moves and lapses, a decision row stays what
it was when its key was first recorded; an action hangs off the row of the key
it was proposed under, whatever that row says.
-/

inductive LedgerEvent where
  | propose
      (candidate : LedgerCandidate)
      (reads : LedgerReads)
  /-- An action in flight is approved, claimed, finished or cancelled. -/
  | moveAction
      (id : Nat)
      (status : ActionStatus)
  /-- An ask expires; its key is freed for the next one. -/
  | lapseAction (id : Nat)

variable (id : Nat) (status : ActionStatus) (action : ActionRow)

def movedAction : ActionRow :=
  if action.id = id && action.status.isInFlight then { action with status := status } else action

def lapsedAction : ActionRow :=
  if action.id = id && action.status = .awaitingApproval then
    { action with
      status := .cancelled
      lastErrorKind := some "approval_expired"
      idempotencyKey := action.idempotencyKey ++ ":lapsed:" ++ toString action.id }
  else
    action

namespace DecisionTables

def empty : DecisionTables :=
  { decisions := []
    actions := [] }

/-- A proposal that fails leaves nothing behind. -/
def apply (tables : DecisionTables) : LedgerEvent → DecisionTables
  | .propose candidate reads =>
    match persistDecisionAndAction tables reads candidate with
    | .ok (after, _) => after
    | .error _ => tables
  | .moveAction id status =>
    { tables with actions := tables.actions.map (movedAction id status) }
  | .lapseAction id =>
    { tables with actions := tables.actions.map (lapsedAction id) }

end DecisionTables

def ledgerAfter (run : List LedgerEvent) : DecisionTables := run.foldl DecisionTables.apply .empty

/-- What a reader would expect of the row behind an action. -/
def RowsExplain (tables : DecisionTables) : Prop :=
  ∀ action ∈ tables.actions,
    ∃ decision ∈ tables.decisions,
      decision.id = action.decisionId ∧
        decision.disposition.createsAction = true ∧
        (action.insertedStatus = .queued →
          decision.disposition = .autoExecute ∨
            action.approvedBy = some .showLadder ∨
            action.approvedBy = some .standingGrant)

/-- How an action came about, and what its decision row says of it. -/
structure CreatedBy
    (before : DecisionTables)
    (candidate : LedgerCandidate)
    (reads : LedgerReads)
    (action : ActionRow)
    (decision : DecisionRow) : Prop where
  hangs : decision.id = action.decisionId
  key : decision.decisionKey = candidate.decisionKey
  created :
    ∃ after decisionCreated,
      persistDecisionAndAction before reads candidate =
        .ok (after, .actionReady decisionCreated action.id true)
  proposed :
    (executorChecked reads candidate).disposition.createsAction = true
  queued :
    action.insertedStatus = .queued →
    (executorChecked reads candidate).disposition = .autoExecute ∨
      action.approvedBy = some .showLadder ∨
      action.approvedBy = some .standingGrant
  asked :
    action.insertedStatus ≠ .queued →
    action.insertedStatus = .awaitingApproval ∧
      (executorChecked reads candidate).disposition = .requireApproval
  /-- The first proposal under a key is the one its row tells of. -/
  first :
    candidate.decisionKey ∉ before.decisions.map DecisionRow.decisionKey →
    decision.disposition = (executorChecked reads candidate).disposition
  /-- A later proposal finds the row as it was. -/
  later :
    candidate.decisionKey ∈ before.decisions.map DecisionRow.decisionKey →
    decision ∈ before.decisions

/-! ## Steps -/

theorem movedAction_fields :
    (movedAction id status action).id = action.id ∧
      (movedAction id status action).decisionId = action.decisionId ∧
      (movedAction id status action).insertedStatus = action.insertedStatus ∧
      (movedAction id status action).approvedBy = action.approvedBy := by
  unfold movedAction
  split <;> exact ⟨rfl, rfl, rfl, rfl⟩

theorem lapsedAction_fields :
    (lapsedAction id action).id = action.id ∧
      (lapsedAction id action).decisionId = action.decisionId ∧
      (lapsedAction id action).insertedStatus = action.insertedStatus ∧
      (lapsedAction id action).approvedBy = action.approvedBy := by
  unfold lapsedAction
  split <;> exact ⟨rfl, rfl, rfl, rfl⟩

@[simp] theorem executorChecked_decisionKey (reads : LedgerReads) (candidate : LedgerCandidate) :
    (executorChecked reads candidate).decisionKey =
      candidate.decisionKey := by
  unfold executorChecked
  split <;> rfl

section Steps

variable {before : DecisionTables} {candidate : LedgerCandidate} {reads : LedgerReads}
  {action : ActionRow} {decision : DecisionRow}

theorem CreatedBy.of_fields (createdBy : CreatedBy before candidate reads action decision)
    {moved : ActionRow}
    (fields :
      moved.id = action.id ∧
        moved.decisionId = action.decisionId ∧
        moved.insertedStatus = action.insertedStatus ∧
        moved.approvedBy = action.approvedBy) :
    CreatedBy before candidate reads moved decision := by
  obtain ⟨sameId, sameDecision, sameStatus, sameApproval⟩ := fields
  exact
    { hangs := createdBy.hangs.trans sameDecision.symm
      key := createdBy.key
      created := by
        rw [sameId]
        exact createdBy.created
      proposed := createdBy.proposed
      queued := by
        rw [sameStatus, sameApproval]
        exact createdBy.queued
      asked := by
        rw [sameStatus]
        exact createdBy.asked
      first := createdBy.first
      later := createdBy.later }

theorem decisions_apply (event : LedgerEvent) :
    before.decisions ⊆ (before.apply event).decisions := by
  cases event with
  | propose candidate reads =>
    unfold DecisionTables.apply
    dsimp only
    split
    · rename_i after outcome persisted
      rcases persistChecked_cases persisted with
        ⟨rfl, _⟩ | ⟨_, recorded, _⟩
      · exact List.Subset.refl _
      · rw [recorded.decisions]
        exact subset_insertUnlessPresent
    · exact List.Subset.refl _
  | moveAction id status => exact List.Subset.refl _
  | lapseAction id => exact List.Subset.refl _

theorem unique_decisions_apply (unique : KeyedTable.Unique DecisionRow.decisionKey before.decisions)
    (event : LedgerEvent) :
    KeyedTable.Unique DecisionRow.decisionKey (before.apply event).decisions := by
  cases event with
  | propose candidate reads =>
    unfold DecisionTables.apply
    dsimp only
    split
    · rename_i after outcome persisted
      rcases persistChecked_cases persisted with
        ⟨rfl, _⟩ | ⟨_, recorded, _⟩
      · exact unique
      · rw [recorded.decisions]
        exact unique.insertUnlessPresent
    · exact unique
  | moveAction id status => exact unique
  | lapseAction id => exact unique

/-- A proposal either leaves the actions or adds one that it explains. -/
theorem createdBy_of_mem_propose
    (unique : KeyedTable.Unique DecisionRow.decisionKey before.decisions)
    (isAction : action ∈ (before.apply (.propose candidate reads)).actions) :
    action ∈ before.actions ∨
      ∃ decision ∈ (before.apply (.propose candidate reads)).decisions,
        CreatedBy before candidate reads action decision := by
  unfold DecisionTables.apply at isAction ⊢
  dsimp only at isAction ⊢
  split at isAction
  · rename_i after outcome persisted
    rcases persistChecked_cases persisted with
      ⟨rfl, _⟩ | ⟨decision, recorded, ⟨same, _⟩ | ⟨status, inserts, added, isReady⟩⟩
    · exact Or.inl isAction
    · rw [same] at isAction
      exact Or.inl isAction
    · rw [added] at isAction
      rcases List.mem_append.mp isAction with isOld | isNew
      · exact Or.inl isOld
      · right
        obtain rfl := List.mem_singleton.mp isNew
        have afterUnique : KeyedTable.Unique DecisionRow.decisionKey after.decisions := by
          rw [recorded.decisions]
          exact unique.insertUnlessPresent
        have key : decision.decisionKey = candidate.decisionKey :=
          recorded.key.trans (executorChecked_decisionKey reads candidate)
        refine ⟨decision, recorded.found, ?_⟩
        exact
          { hangs := rfl
            key := key
            created := ⟨after, _, persisted.trans (by rw [isReady]; rfl)⟩
            proposed := createsAction_of_newActionStatus inserts
            queued := by
              intro isQueued
              obtain rfl : status = .queued := isQueued
              rcases released_of_queued inserts with acts | ladder | grant
              · exact Or.inl acts
              · exact Or.inr (Or.inl (congrArg some ladder))
              · exact Or.inr (Or.inr (congrArg some grant))
            asked := by
              intro unqueued
              rcases newActionStatus_cases inserts with rfl | rfl
              · exact absurd rfl unqueued
              · exact ⟨rfl, requireApproval_of_awaiting inserts⟩
            first := by
              intro fresh
              rw [← executorChecked_decisionKey reads] at fresh
              have inserted :
                  newDecision before (executorChecked reads candidate) ∈ after.decisions := by
                rw [recorded.decisions, insertUnlessPresent_of_not_mem fresh]
                exact List.mem_append_right _ (List.mem_singleton.mpr rfl)
              have isDecision := afterUnique.eq_of_key_eq recorded.found inserted recorded.key
              rw [isDecision]
              rfl
            later := by
              intro present
              rw [← executorChecked_decisionKey reads] at present
              have found := recorded.found
              rw [recorded.decisions, insertUnlessPresent_of_mem present] at found
              exact found }
  · exact Or.inl isAction

end Steps

/-! ## Runs -/

theorem ledgerAfter_append_singleton (run : List LedgerEvent) (event : LedgerEvent) :
    ledgerAfter (run ++ [event]) = (ledgerAfter run).apply event :=
  List.foldl_append

theorem unique_decisions_ledgerAfter (run : List LedgerEvent) :
    KeyedTable.Unique DecisionRow.decisionKey (ledgerAfter run).decisions := by
  induction run using List.reverseRecOn with
  | nil => exact unique_nil
  | append_singleton rest event inductionHypothesis =>
    rw [ledgerAfter_append_singleton]
    exact unique_decisions_apply inductionHypothesis event

/-- Every action hangs off the row of the key it was proposed under. -/
theorem action_explained
    (run : List LedgerEvent) :
    KeyedTable.Unique DecisionRow.decisionKey (ledgerAfter run).decisions ∧
      ∀ action ∈ (ledgerAfter run).actions,
        ∃ earlier candidate reads later,
          run = earlier ++ .propose candidate reads :: later ∧
            ∃ decision ∈ (ledgerAfter run).decisions,
              CreatedBy (ledgerAfter earlier) candidate reads action
                decision := by
  refine ⟨unique_decisions_ledgerAfter run, ?_⟩
  induction run using List.reverseRecOn with
  | nil =>
    intro action absent
    cases absent
  | append_singleton rest event inductionHypothesis =>
    -- What was explained before the event is explained after it.
    have carried :
        ∀ action ∈ (ledgerAfter rest).actions,
          ∃ earlier candidate reads later,
            rest ++ [event] =
                earlier ++ .propose candidate reads :: later ∧
              ∃ decision ∈ ((ledgerAfter rest).apply event).decisions,
                CreatedBy (ledgerAfter earlier) candidate reads action
                  decision := by
      intro action isAction
      obtain ⟨earlier, candidate, reads, later, isRest, decision, isRow,
        createdBy⟩ := inductionHypothesis action isAction
      refine ⟨earlier, candidate, reads, later ++ [event], ?_, decision,
          decisions_apply event isRow, createdBy⟩
      rw [isRest, List.append_assoc, List.cons_append]
    rw [ledgerAfter_append_singleton]
    intro action isAction
    cases event with
    | propose candidate reads =>
      have unique := unique_decisions_ledgerAfter rest
      rcases createdBy_of_mem_propose unique isAction with
        isOld | ⟨decision, isRow, createdBy⟩
      · exact carried action isOld
      · exact ⟨rest, candidate, reads, [], rfl, decision, isRow, createdBy⟩
    | moveAction id status =>
      obtain ⟨old, isOld, rfl⟩ := List.mem_map.mp isAction
      obtain ⟨earlier, candidate, reads, later, isRun, decision, isRow,
        createdBy⟩ := carried old isOld
      exact ⟨earlier, candidate, reads, later, isRun, decision, isRow,
          createdBy.of_fields (movedAction_fields id status old)⟩
    | lapseAction id =>
      obtain ⟨old, isOld, rfl⟩ := List.mem_map.mp isAction
      obtain ⟨earlier, candidate, reads, later, isRun, decision, isRow,
        createdBy⟩ := carried old isOld
      exact ⟨earlier, candidate, reads, later, isRun, decision, isRow,
          createdBy.of_fields (lapsedAction_fields id old)⟩

/-- A beacon letter that may go out alone, once somebody can send it. -/
def beaconLetter : LedgerCandidate :=
  { context := .beacon
    subject := .beacon 7
    disposition := .autoExecute
    policySnapshot := .object []
    action := .requestBeaconOutreach
    decisionKey := "decision:beacon:7"
    actionIdempotencyKey := "action:beacon:7"
    actionKind := "beacon.outreach.request"
    capability := some "beacon.outreach"
    standingApprovalTarget := none }

def beaconReads (advertised : List String) : LedgerReads :=
  { now := 0
    registryActive := true
    advertised := advertised
    maxActions24h := some 10
    ladderLive := false
    standingGrantLive := false
    lifecycleEpisodeAnswered := false }

/-- The letter is proposed before and after an executor advertises it. -/
def heldThenQueued : List LedgerEvent :=
  [.propose beaconLetter (beaconReads []), .propose beaconLetter (beaconReads ["beacon.outreach"])]

/-- Held for want of an executor, then queued off the row that holds it. -/
theorem heldThenQueued_unexplained :
    ¬ ∀ run, RowsExplain (ledgerAfter run) := by
  intro explain
  obtain ⟨action, isAction⟩ : ∃ action, action ∈ (ledgerAfter heldThenQueued).actions :=
    List.exists_mem_of_length_pos (by decide +kernel)
  obtain ⟨decision, isRow, _, creates, _⟩ := explain heldThenQueued action isAction
  have recommends :
      (ledgerAfter heldThenQueued).decisions.map DecisionRow.disposition = [.recommendOnly] := by
    decide +kernel
  have listed :
      decision.disposition ∈
        (ledgerAfter heldThenQueued).decisions.map
          DecisionRow.disposition :=
    List.mem_map_of_mem isRow
  rw [recommends] at listed
  rw [List.mem_singleton.mp listed] at creates
  cases creates

end CrowdRelay
