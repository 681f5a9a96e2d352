import CrowdRelay.AutonomyFunnel
import CrowdRelay.DecisionLedger
import CrowdRelay.FanLifecycle

namespace CrowdRelay

open MachineInt

/-!
# The ways into the ledger

Every arm of a cycle hands its candidates to the gate, save one: the
growth-intelligence arm persists its agent runs itself.  Both ways end in the
same transaction.
-/

/-- What a context has learned, and what it may still spend learning. -/
structure ContextEvidence where
  observations : Int
  bootstrapSpent : Int
  bootstrapCap : Int
  deriving Repr, DecidableEq

def rateFloor : Int := 20

/-- The disposition, with unattended work held below the evidence floor. -/
def dispositionWithEvidence (level : AutonomyLevel)
    (confidence minimumConfidence : Confidence) (evidence : ContextEvidence)
    (floor : Int) : PolicyDisposition :=
  let granted := disposition level confidence minimumConfidence
  if floor ≤ evidence.observations then
    granted
  else
    match granted with
    | .autoExecute =>
      if evidence.bootstrapSpent < evidence.bootstrapCap then .autoExecute else .requireApproval
    | other => other

def internalWorkDisposition : PolicyDisposition → PolicyDisposition
  | .requireApproval | .autoExecute => .autoExecute
  | other => other

/-- Which part of the growth-intelligence arm asks for a run. -/
inductive AgentRunOrigin where
  | template
  | targetCommunity
  | supplyRecovery
  | idleExploration
  deriving Repr, DecidableEq

structure AgentRunRequest where
  origin : AgentRunOrigin
  subject : ActionSubject
  policySnapshot : JsonValue
  decisionKey : String
  actionIdempotencyKey : String

/-- What the arm loaded of its context. -/
structure GrowthIntelligence where
  policy : AutopilotPolicy
  evidence : ContextEvidence

section AgentRuns

variable (loaded : GrowthIntelligence)

def agentRunDisposition (origin : AgentRunOrigin) : PolicyDisposition :=
  internalWorkDisposition
    (match origin with
    | .idleExploration =>
      disposition loaded.policy.autonomyLevel 10000 loaded.policy.minimumConfidence
    | _ =>
      dispositionWithEvidence loaded.policy.autonomyLevel 10000
        loaded.policy.minimumConfidence loaded.evidence rateFloor)

/-- The candidate; a recovery is dropped unless it may act alone. -/
def agentRunCandidate? (request : AgentRunRequest) : Option LedgerCandidate :=
  let disposition := agentRunDisposition loaded request.origin
  if request.origin = .supplyRecovery && disposition ≠ .autoExecute then
    none
  else
    some
      { context := loaded.policy.context
        subject := request.subject
        disposition := disposition
        policySnapshot := request.policySnapshot
        action := .requestAgentRun
        decisionKey := request.decisionKey
        actionIdempotencyKey := request.actionIdempotencyKey
        actionKind := "agent.run.request"
        capability := none
        standingApprovalTarget := none }

end AgentRuns

/-- What an arm puts forward, and by which way. -/
inductive CycleProposal where
  | detected (candidate : LedgerCandidate)
  | agentRun (request : AgentRunRequest)

/-- A proposal, what its transaction reads, and whether that fails. -/
structure CycleEvent where
  proposal : CycleProposal
  reads : LedgerReads
  failure : Option RepositoryError

/-- A running cycle and the tables it writes to. -/
structure LedgerCycle where
  cycle : CycleState
  tables : DecisionTables

/-- What was handed to the repository, by which way, and its answer. -/
structure ProposalEntry where
  recorded : DecisionCandidate
  isAgentRun : Bool
  answer : RepositoryAnswer

def persistenceOf : DecisionActionOutcome → CandidatePersistence
  | .throttled =>
    { decisionCreated := false
      actionCreated := false
      quotaThrottled := true
      actionId := none }
  | .actionConflict =>
    { decisionCreated := true
      actionCreated := false
      quotaThrottled := false
      actionId := none }
  | .noAction decisionCreated =>
    { decisionCreated := decisionCreated
      actionCreated := false
      quotaThrottled := false
      actionId := none }
  | .actionReady decisionCreated actionId inserted =>
    { decisionCreated := decisionCreated
      actionCreated := inserted
      quotaThrottled := false
      actionId := some (BitVec.ofNat 128 actionId) }

/-- The transaction; whatever fails in it takes all of it back. -/
def persistCandidate (tables : DecisionTables) (event : CycleEvent)
    (candidate : LedgerCandidate) : DecisionTables × RepositoryAnswer :=
  match event.failure with
  | some failure => (tables, .error failure)
  | none =>
    match persistDecisionAndAction tables event.reads candidate with
    | .error failure => (tables, .error failure)
    | .ok (after, outcome) => (after, .ok (persistenceOf outcome))

/-- The candidate as the gate hands it to the repository. -/
def gatedCandidate (limits : CycleLimits)
    (candidate : LedgerCandidate) : LedgerCandidate :=
  { candidate with
    toDecisionCandidate := recordedCandidate limits candidate.toDecisionCandidate }

variable (loaded : GrowthIntelligence)

def ledgerStep (state : LedgerCycle)
    (event : CycleEvent) : LedgerCycle × Option ProposalEntry :=
  match event.proposal with
  | .detected candidate =>
    let stored := persistCandidate state.tables event (gatedCandidate state.cycle.limits candidate)
    let passed := cycle.step state.cycle (candidate.toDecisionCandidate, stored.2)
    ({ cycle := passed.1
       tables := stored.1 },
      some
        { recorded := passed.2.recorded
          isAgentRun := false
          answer := stored.2 })
  | .agentRun request =>
    match agentRunCandidate? loaded request with
    | none => (state, none)
    | some candidate =>
      let stored := persistCandidate state.tables event candidate
      ({ state with tables := stored.1 },
        some
          { recorded := candidate.toDecisionCandidate
            isAgentRun := true
            answer := stored.2 })

/-- An answer that is no conflict aborts the cycle. -/
def ProposalEntry.aborts (entry : ProposalEntry) : Bool :=
  match entry.answer with
  | .ok _ => false
  | .error failure => !failure.isConflict

def ledgerCycle :
    Machine.Transducer LedgerCycle CycleEvent (Option ProposalEntry) where
  step := ledgerStep loaded
  halts entry := entry.any ProposalEntry.aborts

/-- An action was created for this candidate. -/
def ProposalEntry.created (entry : ProposalEntry) : Bool :=
  match entry.answer with
  | .ok persisted => persisted.actionCreated
  | .error _ => false

section Ceilings

variable (limits : CycleLimits)

/-- The recorded disposition reaches no further than the class may. -/
def ProposalEntry.UnderCeiling (entry : ProposalEntry) : Prop :=
  reach entry.recorded.disposition ≤ reach (limits.ceilingFor entry.recorded.actionClass).allowed

def CeilingsRespected (entries : List (Option ProposalEntry)) : Prop :=
  ∀ entry,
    some entry ∈ entries →
    entry.created = true →
    entry.UnderCeiling limits

/-- Agent runs become actions only where the class may act alone. -/
def AgentRunsLicensed (entries : List (Option ProposalEntry)) : Prop :=
  ∀ entry,
    some entry ∈ entries →
    entry.isAgentRun = true →
    entry.created = true →
    limits.ceilingFor .firstPartyReversible = .boundedAuto

end Ceilings

/-! ## One proposal -/

section Steps

variable {loaded : GrowthIntelligence} {state : LedgerCycle} {event : CycleEvent}

theorem createsAction_of_created {tables : DecisionTables} {candidate : LedgerCandidate}
    {persisted : CandidatePersistence}
    (answered : (persistCandidate tables event candidate).2 = .ok persisted)
    (created : persisted.actionCreated = true) :
    (executorChecked event.reads candidate).disposition.createsAction =
      true := by
  unfold persistCandidate at answered
  split at answered
  · cases answered
  · split at answered
    · cases answered
    · rename_i after outcome isPersisted
      cases answered
      rcases persistChecked_cases isPersisted with
        ⟨_, rfl⟩ | ⟨decision, _, ⟨_, notInserted⟩ | ⟨status, inserts, _⟩⟩
      · cases created
      · cases outcome with
        | actionReady decisionCreated actionId inserted =>
          obtain rfl : inserted = true := created
          exact absurd rfl (notInserted decisionCreated actionId)
        | throttled => cases created
        | noAction decisionCreated => cases created
        | actionConflict => cases created
      · exact createsAction_of_newActionStatus inserts

theorem autoExecute_of_createsAction {mapped : PolicyDisposition}
    (creates : (internalWorkDisposition mapped).createsAction = true) :
    internalWorkDisposition mapped = .autoExecute := by
  cases mapped with
  | requireApproval => rfl
  | autoExecute => rfl
  | observeOnly => cases creates
  | recommendOnly => cases creates
  | deny => cases creates

/-- What the gate lets through, and what an agent run is recorded with. -/
structure ProposalEntry.Told
    (limits : CycleLimits)
    (entry : ProposalEntry) : Prop where
  gated : entry.isAgentRun = false → entry.UnderCeiling limits
  agentRun :
    entry.isAgentRun = true →
    entry.created = true →
    entry.recorded.disposition = .autoExecute ∧
      entry.recorded.actionClass = .firstPartyReversible

theorem ledgerStep_sameConfiguration {start : CycleLimits}
    (same : start.SameConfiguration state.cycle.limits) :
    start.SameConfiguration (ledgerStep loaded state event).1.cycle.limits := by
  unfold ledgerStep
  split
  · exact cycle_step_sameConfiguration _ _ same
  · split
    · exact same
    · exact same

theorem ledgerStep_told {start : CycleLimits}
    (same : start.SameConfiguration state.cycle.limits) {entry : ProposalEntry}
    (reported : (ledgerStep loaded state event).2 = some entry) :
    entry.Told start := by
  unfold ledgerStep at reported
  split at reported
  · rename_i candidate _
    cases reported
    refine ⟨fun _ => ?_, nofun⟩
    have lowered := (cycle_step_lowered state.cycle
        (candidate.toDecisionCandidate,
          (persistCandidate state.tables event (gatedCandidate state.cycle.limits candidate)).2)
        same).belowCeiling
    unfold ProposalEntry.UnderCeiling
    rw [cycle_step_candidate] at lowered
    rw [cycle_step_recorded] at lowered ⊢
    exact lowered
  · rename_i request _
    split at reported
    · cases reported
    · rename_i candidate isCandidate
      cases reported
      refine ⟨nofun, fun _ created => ?_⟩
      unfold ProposalEntry.created at created
      dsimp only at created
      split at created
      · rename_i persisted answered
        have creates := createsAction_of_created answered created
        unfold agentRunCandidate? at isCandidate
        dsimp only at isCandidate
        split at isCandidate
        · cases isCandidate
        · cases isCandidate
          exact ⟨autoExecute_of_createsAction creates, rfl⟩
      · cases created

end Steps

/-! ## A whole cycle -/

theorem told_of_mem_log {loaded : GrowthIntelligence} {start : LedgerCycle}
    {events : List CycleEvent} {entry : ProposalEntry}
    (member : some entry ∈ (ledgerCycle loaded).log start events) :
    entry.Told start.cycle.limits := by
  have told := @Machine.Transducer.forall_mem_log _ _ _ (ledgerCycle loaded)
      (fun state => start.cycle.limits.SameConfiguration state.cycle.limits)
      (fun output =>
        ∀ entry, output = some entry → entry.Told start.cycle.limits)
      (fun state event same =>
        @ledgerStep_sameConfiguration loaded state event _ same)
      (fun state event same entry reported =>
        ledgerStep_told same reported)
      start ⟨rfl, rfl, rfl⟩ events
  exact told (some entry) member entry rfl

theorem boundedAuto_of_autoExecute_allowed {ceiling : AutonomyLevel}
    (allowed : reach .autoExecute ≤ reach ceiling.allowed) :
    ceiling = .boundedAuto := by
  cases ceiling <;> first | rfl | exact absurd allowed (by decide)

/-- The ceilings hold exactly where the agent runs are licensed. -/
theorem ceilingsRespected_iff
    (loaded : GrowthIntelligence)
    (start : LedgerCycle)
    (events : List CycleEvent) :
    CeilingsRespected start.cycle.limits
        ((ledgerCycle loaded).log start events) ↔
      AgentRunsLicensed start.cycle.limits
        ((ledgerCycle loaded).log start events) := by
  constructor
  · intro respected entry member isAgentRun created
    obtain ⟨executes, actionClass⟩ := (told_of_mem_log member).agentRun isAgentRun created
    have under := respected entry member created
    unfold ProposalEntry.UnderCeiling at under
    rw [executes, actionClass] at under
    exact boundedAuto_of_autoExecute_allowed under
  · intro licensed entry member created
    cases isAgentRun : entry.isAgentRun with
    | false =>
      exact (told_of_mem_log member).gated isAgentRun
    | true =>
      obtain ⟨executes, actionClass⟩ := (told_of_mem_log member).agentRun isAgentRun created
      unfold ProposalEntry.UnderCeiling
      rw [executes, actionClass, licensed entry member isAgentRun created]
      exact le_refl _

/-- Internal work may only be recommended here. -/
def recommendOnlyCycle : LedgerCycle where
  cycle :=
    { limits :=
        { ceilings := [(.firstPartyReversible, .recommend)]
          envelope := GrowthEnvelope.default
          usage := ⟨0, 0, 0, none, 0⟩
          touchAges := fun _ => none
          touchedThisCycle := ∅ }
      report := .empty }
  tables :=
    { decisions := []
      actions := [] }

/-- The context itself may act alone, on evidence enough. -/
def provenGrowthIntelligence : GrowthIntelligence where
  policy :=
    { context := .growthIntelligence
      enabled := true
      autonomyLevel := .boundedAuto
      minimumConfidence := 7000
      maxActions24h := 30
      config := .other
      version := 1 }
  evidence :=
    { observations := 20
      bootstrapSpent := 0
      bootstrapCap := 0 }

def strategistRun : CycleEvent where
  proposal :=
    .agentRun
      { origin := .template
        subject := .workspace 1
        policySnapshot := .object []
        decisionKey := "decision:growth-intelligence:v1:growth-strategist:1"
        actionIdempotencyKey := "action:agent-run:growth-strategist:1" }
  reads :=
    { now := 0
      registryActive := false
      advertised := []
      maxActions24h := some 30
      ladderLive := false
      standingGrantLive := false
      lifecycleEpisodeAnswered := false }
  failure := none

/-- Under a ceiling that only recommends, the run is queued at once. -/
theorem strategistRun_over_ceiling :
    ¬ CeilingsRespected recommendOnlyCycle.cycle.limits
        ((ledgerCycle provenGrowthIntelligence).log recommendOnlyCycle
          [strategistRun]) := by
  intro respected
  obtain ⟨candidate, isCandidate⟩ :
      ∃ candidate,
        agentRunCandidate? provenGrowthIntelligence
            { origin := .template
              subject := .workspace 1
              policySnapshot := .object []
              decisionKey := "decision:growth-intelligence:v1:growth-strategist:1"
              actionIdempotencyKey := "action:agent-run:growth-strategist:1" } =
          some candidate :=
    ⟨_, rfl⟩
  have under := respected
      { recorded := candidate.toDecisionCandidate
        isAgentRun := true
        answer :=
          (persistCandidate recommendOnlyCycle.tables strategistRun
            candidate).2 }
  cases isCandidate
  exact absurd (under List.mem_cons_self (by decide +kernel))
      (by unfold ProposalEntry.UnderCeiling; decide +kernel)

end CrowdRelay
