import CrowdRelay.CeilingPaths

namespace CrowdRelay

open MachineInt Ranged

/-!
# Asks that are answered already

An operator answers for one counterparty with a standing grant, and for a
show's whole ladder with one approval.  The transaction reads both, and queues
what they answer; the attention budget is charged before it.
-/

/-- An operator's answer for one counterparty and one kind of action. -/
structure StandingApproval where
  actionKind : String
  targetKey : String
  actionClass : ActionClass
  revoked : Bool
  expiresAt : OffsetDateTime
  deriving Repr, DecidableEq

structure ShowLadderApproval where
  eventId : Uuid
  revoked : Bool
  deriving Repr, DecidableEq

structure ApprovalAnswers where
  standing : List StandingApproval
  ladders : List ShowLadderApproval
  deriving Repr, DecidableEq

variable (answers : ApprovalAnswers)

def ApprovalAnswers.standingGrantLive (now : OffsetDateTime)
    (candidate : LedgerCandidate) : Bool :=
  candidate.standingApprovalTarget.any fun targetKey =>
    answers.standing.any fun grant =>
      grant.actionKind = candidate.actionKind &&
        grant.targetKey = targetKey &&
        grant.actionClass = candidate.actionClass &&
        !grant.revoked && now < grant.expiresAt

def ApprovalAnswers.ladderLive
    (candidate : LedgerCandidate) : Bool :=
  answers.ladders.any fun ladder =>
    ladder.eventId = candidate.subject.uuid && !ladder.revoked

structure AnsweredEvent extends CycleEvent where
  answers : ApprovalAnswers

def AnsweredEvent.read (event : AnsweredEvent) : CycleEvent :=
  match event.proposal with
  | .detected candidate =>
    { event.toCycleEvent with
      reads :=
        { event.reads with
          ladderLive := event.answers.ladderLive candidate
          standingGrantLive := event.answers.standingGrantLive event.reads.now candidate } }
  | .agentRun _ => event.toCycleEvent

def answeredCycle (loaded : GrowthIntelligence) :
    Machine.Transducer LedgerCycle AnsweredEvent (Option ProposalEntry) where
  step := fun state event => ledgerStep loaded state event.read
  halts := (ledgerCycle loaded).halts

/-- A live answer covers the approval that the candidate would ask for. -/
def Answered (reads : LedgerReads) (candidate : LedgerCandidate) : Bool :=
  ladderAuthorized reads candidate ||
    candidate.standingApprovalTarget.isSome && reads.standingGrantLive

def CycleLimits.withEmptyQueue (limits : CycleLimits) : CycleLimits :=
  { limits with usage.approvalRequests7d := 0 }

def DecisionTables.awaitingCreated (tables : DecisionTables) : Nat :=
  tables.actions.countP fun action =>
    action.insertedStatus = .awaitingApproval

/-- How often the attention budget was charged. -/
def LedgerCycle.asksCharged (state : LedgerCycle) : Int :=
  state.cycle.limits.usage.approvalRequests7d.val

/--
An answered candidate is not lowered for want of attention, is not counted,
and is stored as an empty approval queue would have it stored.
-/
structure AnswerCostsNothing
    (loaded : GrowthIntelligence)
    (state : LedgerCycle)
    (event : CycleEvent)
    (candidate : LedgerCandidate) : Prop where
  notLowered :
    askWithheld state.cycle.limits candidate.toDecisionCandidate = false
  notCounted :
    (ledgerStep loaded state event).1.asksCharged = state.asksCharged
  stored :
    persistCandidate state.tables event
        (gatedCandidate state.cycle.limits candidate) =
      persistCandidate state.tables event
        (gatedCandidate state.cycle.limits.withEmptyQueue candidate)

/-- Answered questions cost no attention, and every charge is an ask. -/
structure AttentionIsAsked
    (loaded : GrowthIntelligence)
    (start : LedgerCycle)
    (events : List AnsweredEvent) : Prop where
  answersCostNothing :
    ∀ visit ∈ (answeredCycle loaded).visits start events,
    ∀ candidate,
      visit.2.proposal = .detected candidate →
      Answered visit.2.read.reads candidate = true →
      AnswerCostsNothing loaded visit.1 visit.2.read candidate
  chargedAsAwaiting :
    ((answeredCycle loaded).final start events).asksCharged -
        start.asksCharged =
      ((answeredCycle loaded).final start events).tables.awaitingCreated -
        start.tables.awaitingCreated

/-- The store has room for one more action, and none like it. -/
structure StoreTakes
    (tables : DecisionTables)
    (event : CycleEvent)
    (candidate : LedgerCandidate) : Prop where
  commits : event.failure = none
  performable : missingCapability event.reads candidate = none
  quota :
    ∃ maximum ∈ event.reads.maxActions24h,
      (actions24h tables event.reads candidate : Int) < maximum
  episodeOpen : event.reads.lifecycleEpisodeAnswered = false
  freshKey : sameKeyAction tables candidate = none
  idle : inFlightAction tables candidate = none

/--
An answered candidate comes to the attention budget as an ask only while there
is room, and then the store takes no action of it.
-/
def AnswerNotAsked (state : LedgerCycle) (event : CycleEvent) : Prop :=
  ∀ candidate,
    event.proposal = .detected candidate →
    Answered event.reads candidate = true →
    envelopeDisposition state.cycle.limits candidate.toDecisionCandidate = .requireApproval →
    (checkAttention state.cycle.limits.envelope
        state.cycle.limits.usage).mayAsk = true ∧
      ¬ StoreTakes state.tables event (gatedCandidate state.cycle.limits candidate)

/-! ## One transaction -/

section Transactions

variable {tables : DecisionTables} {event : CycleEvent} {candidate : LedgerCandidate}
  {status : ActionStatus}

def answerCreates : RepositoryAnswer → Bool
  | .ok persisted => persisted.actionCreated
  | .error _ => false

/-- What one transaction can do to the actions. -/
theorem persistCandidate_cases :
    (answerCreates (persistCandidate tables event candidate).2 = false ∧
        (persistCandidate tables event candidate).1.actions = tables.actions) ∨
      ∃ status decisionId,
        newActionStatus tables event.reads (executorChecked event.reads candidate) = some status ∧
          answerCreates (persistCandidate tables event candidate).2 = true ∧
          (persistCandidate tables event candidate).1.actions = tables.actions ++
              [newAction tables event.reads (executorChecked event.reads candidate) decisionId
                status] := by
  unfold persistCandidate
  split
  · exact Or.inl ⟨rfl, rfl⟩
  · split
    · exact Or.inl ⟨rfl, rfl⟩
    · rename_i after outcome isPersisted
      rcases persistChecked_cases isPersisted with
        ⟨rfl, rfl⟩ | ⟨decision, _, ⟨same, notInserted⟩ | ⟨status, inserts, appended, rfl⟩⟩
      · exact Or.inl ⟨rfl, rfl⟩
      · refine Or.inl ⟨?_, same⟩
        cases outcome with
        | actionReady decisionCreated actionId inserted =>
          cases inserted with
          | true => exact absurd rfl (notInserted decisionCreated actionId)
          | false => rfl
        | throttled => rfl
        | noAction decisionCreated => rfl
        | actionConflict => rfl
      · exact Or.inr ⟨status, decision.id, inserts, rfl, appended⟩

section

variable (asks : candidate.disposition = .requireApproval)
include asks

theorem answered_iff :
    Answered event.reads candidate = true ↔
      (ladderAuthorized event.reads candidate ||
        standingAuthorized event.reads candidate) = true := by
  unfold Answered standingAuthorized
  rw [asks]
  cases ladderAuthorized event.reads candidate <;> simp

theorem newActionStatus_of_answered (answered : Answered event.reads candidate = true) :
    newActionStatus tables event.reads candidate = some .queued := by
  have released := (answered_iff asks).mp answered
  have notExhausted : reRaiseExhausted tables event.reads candidate = false := by
    unfold reRaiseExhausted
    rcases Bool.or_eq_true_iff.mp released with ladder | standing
    · simp [ladder]
    · simp [standing]
  unfold newActionStatus
  rw [notExhausted, if_neg Bool.false_ne_true, asks]
  exact if_pos released

theorem newActionStatus_of_not_answered (open_ : Answered event.reads candidate = false)
    (inserts : newActionStatus tables event.reads candidate = some status) :
    status = .awaitingApproval := by
  have notReleased :
      ¬ (ladderAuthorized event.reads candidate ||
          standingAuthorized event.reads candidate) = true := by
    rw [← answered_iff asks, open_]
    exact Bool.false_ne_true
  unfold newActionStatus at inserts
  split at inserts
  · cases inserts
  · rw [asks] at inserts
    simp only at inserts
    exact (Option.some.inj inserts).symm

end

theorem executorChecked_of_performable
    (performable : missingCapability event.reads candidate = none) :
    executorChecked event.reads candidate = candidate := by
  unfold executorChecked
  rw [performable]

theorem executorChecked_of_creates
    (creates : (executorChecked event.reads candidate).disposition.createsAction = true) :
    executorChecked event.reads candidate = candidate := by
  unfold executorChecked at creates ⊢
  split at creates
  · cases creates
  · rfl

theorem quotaHasRoom_iff (creates : candidate.disposition.createsAction = true) :
    quotaHasRoom tables event.reads candidate = .ok true ↔
      ∃ maximum ∈ event.reads.maxActions24h,
        (actions24h tables event.reads candidate : Int) < maximum := by
  unfold quotaHasRoom
  rw [if_pos creates]
  cases event.reads.maxActions24h with
  | none => simp
  | some maximum => simp

theorem insertAction_creates_iff {decisionId : Nat} {decisionCreated : Bool} :
    (persistenceOf
        (insertAction tables event.reads candidate decisionId decisionCreated
          status).2).actionCreated = true ↔
      sameKeyAction tables candidate = none ∧ inFlightAction tables candidate = none := by
  unfold insertAction
  split
  · rename_i freshKey idle
    simp [persistenceOf, freshKey, idle]
  · rename_i taken
    simp [persistenceOf, taken]
  · rename_i existing freshKey busy
    simp [persistenceOf, busy]

theorem find?_newDecision_isSome :
    ((KeyedTable.insertUnlessPresent DecisionRow.decisionKey
        (newDecision tables candidate) tables.decisions).find? fun row =>
      row.decisionKey = candidate.decisionKey).isSome = true := by
  have present :
      (newDecision tables candidate).decisionKey ∈
        (KeyedTable.insertUnlessPresent DecisionRow.decisionKey
          (newDecision tables candidate) tables.decisions).map
          DecisionRow.decisionKey :=
    KeyedTable.key_mem_insertUnlessPresent
  obtain ⟨row, member, isKey⟩ := List.mem_map.mp present
  rw [List.find?_isSome]
  exact ⟨row, member, decide_eq_true isKey⟩

theorem answerCreates_iff_storeTakes (asks : candidate.disposition = .requireApproval)
    (answered : Answered event.reads candidate = true) :
    answerCreates (persistCandidate tables event candidate).2 = true ↔
      StoreTakes tables event candidate := by
  have creates : candidate.disposition.createsAction = true := by
    rw [asks]
    rfl
  obtain ⟨found, isFound⟩ :=
    Option.isSome_iff_exists.mp (@find?_newDecision_isSome tables candidate)
  constructor
  · intro created
    have performable : missingCapability event.reads candidate = none := by
      rcases @persistCandidate_cases tables event candidate with
        ⟨notCreated, _⟩ | ⟨status, decisionId, inserts, _⟩
      · rw [notCreated] at created
        cases created
      · have acts := createsAction_of_newActionStatus inserts
        unfold executorChecked at acts
        split at acts
        · cases acts
        · assumption
    unfold persistCandidate persistDecisionAndAction persistChecked at created
    rw [executorChecked_of_performable performable] at created
    cases commits : event.failure with
    | some failure =>
      rw [commits] at created
      cases created
    | none =>
      rw [commits] at created
      cases room : quotaHasRoom tables event.reads candidate with
      | error failure =>
        rw [room] at created
        cases created
      | ok roomy =>
        cases roomy with
        | false =>
          rw [room] at created
          cases created
        | true =>
          simp only [room, isFound, newActionStatus_of_answered asks answered] at created
          cases episode : event.reads.lifecycleEpisodeAnswered with
          | true =>
            simp only [episode, if_true] at created
            cases created
          | false =>
            simp only [episode, Bool.false_eq_true, if_false] at created
            obtain ⟨freshKey, idle⟩ := insertAction_creates_iff.mp created
            exact
              { commits := commits
                performable := performable
                quota := (quotaHasRoom_iff creates).mp room
                episodeOpen := episode
                freshKey := freshKey
                idle := idle }
  · intro takes
    unfold persistCandidate persistDecisionAndAction persistChecked
    rw [takes.commits, executorChecked_of_performable takes.performable,
      (quotaHasRoom_iff creates).mpr takes.quota]
    simp only [isFound, newActionStatus_of_answered asks answered,
      takes.episodeOpen, Bool.false_eq_true, if_false, answerCreates]
    exact insertAction_creates_iff.mpr ⟨takes.freshKey, takes.idle⟩

theorem awaitingCreated_persistCandidate
    (inserts :
      newActionStatus tables event.reads (executorChecked event.reads candidate) = some status) :
    (persistCandidate tables event candidate).1.awaitingCreated = tables.awaitingCreated +
        if answerCreates (persistCandidate tables event candidate).2 = true ∧
            status = .awaitingApproval then
          1
        else
          0 := by
  unfold DecisionTables.awaitingCreated
  rcases @persistCandidate_cases tables event candidate with
    ⟨notCreated, same⟩ | ⟨other, decisionId, isOther, created, appended⟩
  · rw [notCreated, same,
      if_neg fun both => Bool.false_ne_true both.1]
    rfl
  · rw [inserts] at isOther
    cases isOther
    rw [appended, created, List.countP_append, List.countP_singleton]
    by_cases awaits : status = .awaitingApproval
    · simp [newAction, awaits]
    · simp [newAction, awaits]

theorem not_answerCreates_of_none
    (none_ : newActionStatus tables event.reads (executorChecked event.reads candidate) = none) :
    answerCreates (persistCandidate tables event candidate).2 = false ∧
      (persistCandidate tables event candidate).1.awaitingCreated = tables.awaitingCreated := by
  rcases @persistCandidate_cases tables event candidate with
    ⟨notCreated, same⟩ | ⟨status, decisionId, isStatus, _⟩
  · refine ⟨notCreated, ?_⟩
    unfold DecisionTables.awaitingCreated
    rw [same]
  · rw [none_] at isStatus
    cases isStatus

end Transactions

/-! ## The gate before it -/

section Gate

variable {limits : CycleLimits} {reads : LedgerReads} {candidate : LedgerCandidate}
  {decision : DecisionCandidate}

theorem answered_gatedCandidate :
    Answered reads (gatedCandidate limits candidate) = Answered reads candidate := by
  have sameFlag :
      (gatedCandidate limits candidate).policySnapshot.get? "ladder_authorized" =
        candidate.policySnapshot.get? "ladder_authorized" := by
    simp only [gatedCandidate, recordedCandidate]
    split
    · rfl
    · exact JsonValue.get?_insert_of_ne (by decide) _ _
  unfold Answered ladderAuthorized
  rw [sameFlag]
  rfl

theorem envelopeDisposition_withEmptyQueue (decision : DecisionCandidate) :
    envelopeDisposition limits.withEmptyQueue decision = envelopeDisposition limits decision :=
  rfl

theorem askWithheld_withEmptyQueue (notWithheld : askWithheld limits decision = false) :
    askWithheld limits.withEmptyQueue decision = false := by
  unfold askWithheld at notWithheld ⊢
  rw [envelopeDisposition_withEmptyQueue]
  rw [Bool.and_eq_false_iff] at notWithheld ⊢
  refine notWithheld.imp id fun hasRoom => ?_
  rw [Bool.not_eq_false', checkAttention_mayAsk_iff] at hasRoom ⊢
  exact lt_of_le_of_lt limits.usage.approvalRequests7d.lower hasRoom

theorem gatedCandidate_withEmptyQueue
    (notWithheld : askWithheld limits candidate.toDecisionCandidate = false) :
    gatedCandidate limits.withEmptyQueue candidate = gatedCandidate limits candidate := by
  have alsoNot := askWithheld_withEmptyQueue notWithheld
  have sameDisposition :
      finalDisposition limits.withEmptyQueue candidate.toDecisionCandidate =
        finalDisposition limits candidate.toDecisionCandidate := by
    unfold finalDisposition
    rw [notWithheld, alsoNot]
    rfl
  have sameHolds :
      heldBy limits.withEmptyQueue candidate.toDecisionCandidate =
        heldBy limits candidate.toDecisionCandidate := by
    unfold heldBy
    rw [notWithheld, alsoNot]
    rfl
  unfold gatedCandidate recordedCandidate
  rw [sameDisposition, sameHolds]

theorem finalDisposition_of_not_withheld (notWithheld : askWithheld limits decision = false) :
    finalDisposition limits decision = envelopeDisposition limits decision := by
  unfold finalDisposition
  rw [notWithheld, if_neg Bool.false_ne_true]

theorem envelopeDisposition_of_final_requireApproval
    (asks : finalDisposition limits decision = .requireApproval) :
    envelopeDisposition limits decision = .requireApproval ∧
      askWithheld limits decision = false := by
  unfold finalDisposition at asks
  split at asks
  · have lowered := reach_clampDisposition_le_ceiling
        (envelopeDisposition limits decision) .recommend
    rw [asks] at lowered
    exact absurd lowered (by decide)
  · rename_i notWithheld
    exact ⟨asks, Bool.eq_false_iff.mpr notWithheld⟩

end Gate

/-! ## One event of the cycle -/

section Steps

variable {loaded : GrowthIntelligence} {state : LedgerCycle} {event : CycleEvent}
  {candidate : LedgerCandidate}

theorem asksCharged_ledgerStep_detected (detected : event.proposal = .detected candidate) :
    (ledgerStep loaded state event).1.asksCharged = state.asksCharged +
        if answerCreates
              (persistCandidate state.tables event
                (gatedCandidate state.cycle.limits candidate)).2 = true ∧
            finalDisposition state.cycle.limits candidate.toDecisionCandidate =
              .requireApproval then
          1
        else
          0 := by
  have created :
      (cycle.step state.cycle
          (candidate.toDecisionCandidate,
            (persistCandidate state.tables event
              (gatedCandidate state.cycle.limits candidate)).2)).2.created =
        answerCreates
          (persistCandidate state.tables event
            (gatedCandidate state.cycle.limits candidate)).2 := by
    cases (persistCandidate state.tables event
      (gatedCandidate state.cycle.limits candidate)).2 <;> rfl
  unfold LedgerCycle.asksCharged ledgerStep
  rw [detected]
  simp only [cycle_step_limits, created]
  by_cases creates :
      answerCreates
        (persistCandidate state.tables event (gatedCandidate state.cycle.limits candidate)).2 = true
  · rw [if_pos creates, spendCreated_approvalRequests,
      recordedCandidate_disposition]
    simp only [creates, true_and]
    split
    · rename_i asks
      exact val_increment_of_lt (mayAsk_of_requireApproval asks)
    · exact (Int.add_zero _).symm
  · rw [if_neg creates, if_neg fun both => creates both.1, Int.add_zero]

theorem tables_ledgerStep_detected (detected : event.proposal = .detected candidate) :
    (ledgerStep loaded state event).1.tables =
      (persistCandidate state.tables event (gatedCandidate state.cycle.limits candidate)).1 := by
  unfold ledgerStep
  rw [detected]

theorem asks_ledgerStep_agentRun {request : AgentRunRequest}
    (isRun : event.proposal = .agentRun request) :
    (ledgerStep loaded state event).1.asksCharged = state.asksCharged ∧
      (ledgerStep loaded state event).1.tables.awaitingCreated = state.tables.awaitingCreated := by
  unfold ledgerStep
  rw [isRun]
  dsimp only
  split
  · exact ⟨rfl, rfl⟩
  · rename_i candidate isCandidate
    refine ⟨rfl, ?_⟩
    have internal : ∃ mapped, candidate.disposition = internalWorkDisposition mapped := by
      unfold agentRunCandidate? at isCandidate
      dsimp only at isCandidate
      split at isCandidate
      · cases isCandidate
      · cases isCandidate
        exact ⟨_, rfl⟩
    cases inserts :
        newActionStatus state.tables event.reads (executorChecked event.reads candidate) with
    | none => exact (not_answerCreates_of_none inserts).2
    | some status =>
      dsimp only
      rw [awaitingCreated_persistCandidate inserts, if_neg, Nat.add_zero]
      rintro ⟨_, rfl⟩
      have asks := requireApproval_of_awaiting inserts
      rw [executorChecked_of_creates (createsAction_of_newActionStatus inserts)] at asks
      obtain ⟨mapped, isMapped⟩ := internal
      rw [isMapped] at asks
      cases mapped <;> cases asks

/-- Where no answered candidate is asked about, every charge is an ask. -/
theorem asks_ledgerStep (notAsked : AnswerNotAsked state event) :
    (ledgerStep loaded state event).1.asksCharged - state.asksCharged =
      (ledgerStep loaded state event).1.tables.awaitingCreated -
        state.tables.awaitingCreated := by
  cases proposal : event.proposal with
  | agentRun request =>
    obtain ⟨charged, awaiting⟩ := @asks_ledgerStep_agentRun loaded state event request proposal
    rw [charged, awaiting]
    omega
  | detected candidate =>
    rw [asksCharged_ledgerStep_detected proposal, tables_ledgerStep_detected proposal]
    cases inserts :
        newActionStatus state.tables event.reads
          (executorChecked event.reads (gatedCandidate state.cycle.limits candidate)) with
    | none =>
      obtain ⟨notCreated, same⟩ := not_answerCreates_of_none inserts
      rw [notCreated, same, if_neg fun both => Bool.false_ne_true both.1]
      omega
    | some status =>
      rw [awaitingCreated_persistCandidate inserts]
      by_cases created :
          answerCreates
            (persistCandidate state.tables event
              (gatedCandidate state.cycle.limits candidate)).2 = true
      · have sameAsk :
            finalDisposition state.cycle.limits candidate.toDecisionCandidate = .requireApproval ↔
              status = .awaitingApproval := by
          rw [executorChecked_of_creates (createsAction_of_newActionStatus inserts)] at inserts
          refine ⟨fun asks => ?_, fun awaits => ?_⟩
          · refine newActionStatus_of_not_answered asks ?_ inserts
            refine Bool.eq_false_iff.mpr fun answered => ?_
            have known := answered
            rw [answered_gatedCandidate] at known
            exact (notAsked candidate proposal known
                  (envelopeDisposition_of_final_requireApproval asks).1).2
                ((answerCreates_iff_storeTakes asks answered).mp created)
          · rw [awaits] at inserts
            exact requireApproval_of_awaiting inserts
        simp only [created, true_and, sameAsk]
        split <;> omega
      · rw [if_neg fun both => created both.1,
          if_neg fun both => created both.1]
        omega

theorem answerCostsNothing_iff (detected : event.proposal = .detected candidate)
    (answered : Answered event.reads candidate = true) :
    AnswerCostsNothing loaded state event candidate ↔
      (envelopeDisposition state.cycle.limits candidate.toDecisionCandidate = .requireApproval →
        (checkAttention state.cycle.limits.envelope state.cycle.limits.usage).mayAsk = true ∧
          ¬ StoreTakes state.tables event (gatedCandidate state.cycle.limits candidate)) := by
  have known : Answered event.reads (gatedCandidate state.cycle.limits candidate) = true := by
    rw [answered_gatedCandidate]
    exact answered
  constructor
  · intro free asks
    have notLowered := free.notLowered
    have hasRoom :
        (checkAttention state.cycle.limits.envelope state.cycle.limits.usage).mayAsk = true := by
      simpa [askWithheld, asks] using notLowered
    have final : (gatedCandidate state.cycle.limits candidate).disposition = .requireApproval :=
      (finalDisposition_of_not_withheld notLowered).trans asks
    refine ⟨hasRoom, fun takes => ?_⟩
    have counted := free.notCounted
    rw [asksCharged_ledgerStep_detected detected,
      if_pos ⟨(answerCreates_iff_storeTakes final known).mpr takes, final⟩]
      at counted
    omega
  · intro notAsked
    have notLowered : askWithheld state.cycle.limits candidate.toDecisionCandidate = false := by
      by_cases asks :
          envelopeDisposition state.cycle.limits candidate.toDecisionCandidate = .requireApproval
      · simp [askWithheld, (notAsked asks).1]
      · simp [askWithheld, asks]
    refine
      { notLowered := notLowered
        notCounted := ?_
        stored := by rw [gatedCandidate_withEmptyQueue notLowered] }
    rw [asksCharged_ledgerStep_detected detected, if_neg, Int.add_zero]
    rintro ⟨created, final⟩
    have asks := (envelopeDisposition_of_final_requireApproval final).1
    exact (notAsked asks).2 ((answerCreates_iff_storeTakes final known).mp created)

end Steps

/-- Answered questions cost no attention exactly where none is asked about. -/
theorem attentionIsAsked_iff
    (loaded : GrowthIntelligence)
    (start : LedgerCycle)
    (events : List AnsweredEvent) :
    AttentionIsAsked loaded start events ↔
      ∀ visit ∈ (answeredCycle loaded).visits start events,
        AnswerNotAsked visit.1 visit.2.read := by
  have read_proposal :
      ∀ event : AnsweredEvent, event.read.proposal = event.proposal := by
    intro event
    unfold AnsweredEvent.read
    split <;> rfl
  constructor
  · intro asked visit member candidate detected answered
    exact (answerCostsNothing_iff detected answered).mp
        (asked.answersCostNothing visit member candidate
          ((read_proposal visit.2).symm.trans detected) answered)
  · intro notAsked
    refine
      { answersCostNothing := fun visit member candidate detected answered =>
          (answerCostsNothing_iff ((read_proposal visit.2).trans detected)
              answered).mpr
            (notAsked visit member candidate
              ((read_proposal visit.2).trans detected) answered)
        chargedAsAwaiting := ?_ }
    have conserved :
        ∀ (state : LedgerCycle) (event : AnsweredEvent),
          AnswerNotAsked state event.read →
          state.asksCharged - start.asksCharged =
            state.tables.awaitingCreated - start.tables.awaitingCreated →
          ((answeredCycle loaded).step state event).1.asksCharged -
              start.asksCharged =
            ((answeredCycle loaded).step state event).1.tables.awaitingCreated -
              start.tables.awaitingCreated := by
      intro state event permitted sofar
      have step := @asks_ledgerStep loaded state event.read permitted
      simp only [answeredCycle]
      omega
    exact ((answeredCycle loaded).final_invariant_of_visits conserved
        (by omega) notAsked).1

/-! ## Two letters under one grant each -/

def oneQuestionCycle : LedgerCycle where
  cycle :=
    { limits :=
        { ceilings := [(.thirdParty, .requireApproval)]
          envelope :=
            { GrowthEnvelope.default with
              agentEnabled := true
              dryRun := false
              weeklyApprovalRequests := 1 }
          usage := ⟨0, 0, 0, none, 0⟩
          touchAges := fun _ => none
          touchedThisCycle := ∅ }
      report := .empty }
  tables :=
    { decisions := []
      actions := [] }

/-- A letter to a beacon whose letters the operator has approved for good. -/
def grantedLetter (beacon : Uuid) (key : String) : AnsweredEvent where
  proposal :=
    .detected
      { context := .beacon
        subject := .beacon beacon
        disposition := .requireApproval
        policySnapshot := .object []
        action := .requestBeaconOutreach
        decisionKey := "decision:" ++ key
        actionIdempotencyKey := "action:" ++ key
        actionKind := "beacon.outreach.request"
        capability := none
        standingApprovalTarget := some key }
  reads :=
    { now := 0
      registryActive := false
      advertised := []
      maxActions24h := some 10
      ladderLive := false
      standingGrantLive := false
      lifecycleEpisodeAnswered := false }
  failure := none
  answers :=
    { standing :=
        [{ actionKind := "beacon.outreach.request"
           targetKey := key
           actionClass := .thirdParty
           revoked := false
           expiresAt := 100 }]
      ladders := [] }

/--
The first letter is queued and charged as a question nobody is asked; the
second, as well answered, becomes a recommendation for want of attention.
-/
theorem grantedLetters_costAttention :
    (((answeredCycle provenGrowthIntelligence).final oneQuestionCycle
          [grantedLetter 1 "first", grantedLetter 2 "second"]).tables.actions.map
        fun action => action.insertedStatus) =
        [.queued] ∧
      ((answeredCycle provenGrowthIntelligence).final oneQuestionCycle
          [grantedLetter 1 "first", grantedLetter 2 "second"]).asksCharged =
        1 ∧
      ¬ AttentionIsAsked provenGrowthIntelligence oneQuestionCycle
          [grantedLetter 1 "first", grantedLetter 2 "second"] := by
  refine ⟨by decide +kernel, by decide +kernel, fun asked => ?_⟩
  have charged := asked.chargedAsAwaiting
  exact absurd charged (by decide +kernel)

end CrowdRelay
