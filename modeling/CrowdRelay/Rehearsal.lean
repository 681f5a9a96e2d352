import CrowdRelay.AutonomyFunnel

namespace CrowdRelay

open MachineInt

/-!
# What a rehearsal may still put in front of people

A rehearsal is meant to produce decisions and execute nothing.  The envelope
lowers an outward candidate to a recommendation only where it reads the
rehearsal flag: a switched-off agent is held before it, with an ask still on
offer, and a paid candidate never reaches it.
-/

def StopsAtRecommendation (limits : CycleLimits)
    (candidate : DecisionCandidate) : Prop :=
  reach candidate.disposition ≤ reach .recommendOnly ∨
    reach (limits.ceilingFor candidate.actionClass).allowed ≤ reach .recommendOnly

/-- Both the detector and the class ceiling let the candidate run by itself. -/
def RunsByItself (limits : CycleLimits)
    (candidate : DecisionCandidate) : Prop :=
  candidate.disposition = .autoExecute ∧ limits.ceilingFor candidate.actionClass = .boundedAuto

/-- The attention budget has no room for another ask. -/
def AttentionSpent (limits : CycleLimits) : Prop :=
  limits.envelope.weeklyApprovalRequests ≤ limits.usage.approvalRequests7d

/--
When a rehearsal stays one: the candidate is outward and the agent on, or the
candidate stops at a recommendation by itself, or it can only ask and there is
no room to ask.
-/
def RehearsalHolds (limits : CycleLimits)
    (candidate : DecisionCandidate) : Prop :=
  (candidate.actionClass.isOutward = true ∧ limits.envelope.agentEnabled = true) ∨
  StopsAtRecommendation limits candidate ∨
  (AttentionSpent limits ∧
    (candidate.actionClass.isOutward = true ∨ ¬ RunsByItself limits candidate))

variable {limits : CycleLimits} {candidate : DecisionCandidate}

theorem reach_ceilingDisposition :
    reach (ceilingDisposition limits candidate) =
      min (reach candidate.disposition) (reach (limits.ceilingFor candidate.actionClass).allowed) :=
  reach_clampDisposition _ _

theorem stopsAtRecommendation_iff :
    StopsAtRecommendation limits candidate ↔
      reach (ceilingDisposition limits candidate) ≤ reach .recommendOnly := by
  rw [reach_ceilingDisposition, min_le_iff]
  exact Iff.rfl

theorem runsByItself_iff :
    RunsByItself limits candidate ↔ ceilingDisposition limits candidate = .autoExecute := by
  unfold RunsByItself ceilingDisposition
  cases candidate.disposition <;>
    cases limits.ceilingFor candidate.actionClass <;> decide

theorem attentionSpent_iff :
    AttentionSpent limits ↔ (checkAttention limits.envelope limits.usage).mayAsk = false := by
  rw [← Bool.not_eq_true, checkAttention_mayAsk_iff, not_lt]
  exact Iff.rfl

/--
The attention budget lowers an ask and nothing else: what reaches people in
the end is what the envelope left, unless that was an ask without room.
-/
theorem finalDisposition_recommends_iff :
    reach (finalDisposition limits candidate) ≤ reach .recommendOnly ↔
      reach (envelopeDisposition limits candidate) ≤ reach .recommendOnly ∨
        (AttentionSpent limits ∧ envelopeDisposition limits candidate ≠ .autoExecute) := by
  rw [attentionSpent_iff]
  unfold finalDisposition askWithheld
  cases envelopeDisposition limits candidate <;>
    cases (checkAttention limits.envelope limits.usage).mayAsk <;>
      decide

theorem envelopeDisposition_of_rehearsal (outward : candidate.actionClass.isOutward = true)
    (enabled : limits.envelope.agentEnabled = true) (rehearsal : limits.envelope.dryRun = true) :
    reach (envelopeDisposition limits candidate) ≤ reach .recommendOnly := by
  by_cases denied : ceilingDisposition limits candidate = .deny
  · have lowered := reach_envelopeDisposition_le limits candidate
    rw [denied] at lowered
    exact lowered.trans (by decide)
  · have held : envelopeVerdict limits candidate = .hold .dryRun := by
      rw [envelopeVerdict, if_neg denied]
      exact checkEnvelope_of_rehearsal outward enabled rehearsal _
    rw [envelopeDisposition, held]
    exact reach_clampDisposition_le_ceiling _ .recommend

theorem envelopeDisposition_of_disabled (outward : candidate.actionClass.isOutward = true)
    (disabled : limits.envelope.agentEnabled = false) :
    envelopeDisposition limits candidate = clampDisposition (ceilingDisposition limits candidate)
        .requireApproval := by
  by_cases denied : ceilingDisposition limits candidate = .deny
  · have allowed : envelopeVerdict limits candidate = .allow := by
      rw [envelopeVerdict, if_pos denied]
    rw [envelopeDisposition, allowed, denied]
    rfl
  · have held : envelopeVerdict limits candidate = .hold .agentDisabled := by
      rw [envelopeVerdict, if_neg denied]
      exact checkEnvelope_of_disabled outward disabled _
    rw [envelopeDisposition, held]
    rfl

theorem envelopeDisposition_of_not_outward (inward : candidate.actionClass.isOutward = false) :
    envelopeDisposition limits candidate = ceilingDisposition limits candidate := by
  have allowed : envelopeVerdict limits candidate = .allow := by
    unfold envelopeVerdict
    split
    · rfl
    · exact checkEnvelope_of_not_outward inward _ _
  rw [envelopeDisposition, allowed]

theorem disabled_rehearsal_recommends_iff (outward : candidate.actionClass.isOutward = true)
    (disabled : limits.envelope.agentEnabled = false) :
    reach (finalDisposition limits candidate) ≤ reach .recommendOnly ↔
      StopsAtRecommendation limits candidate ∨ AttentionSpent limits := by
  rw [finalDisposition_recommends_iff, stopsAtRecommendation_iff,
    envelopeDisposition_of_disabled outward disabled]
  cases ceilingDisposition limits candidate <;>
    simp [clampDisposition, reach, AutonomyLevel.allowed]

theorem inward_rehearsal_recommends_iff (inward : candidate.actionClass.isOutward = false) :
    reach (finalDisposition limits candidate) ≤ reach .recommendOnly ↔
      StopsAtRecommendation limits candidate ∨
        (AttentionSpent limits ∧ ¬ RunsByItself limits candidate) := by
  rw [finalDisposition_recommends_iff, stopsAtRecommendation_iff,
    runsByItself_iff, envelopeDisposition_of_not_outward inward]

/--
With the rehearsal flag on, a candidate of any class is recorded as a
recommendation at most exactly when `RehearsalHolds`.
-/
theorem rehearsal_recommends_iff
    (limits : CycleLimits)
    (candidate : DecisionCandidate)
    (rehearsal : limits.envelope.dryRun = true) :
    reach (recordedCandidate limits candidate).disposition ≤
        reach .recommendOnly ↔
      RehearsalHolds limits candidate := by
  rw [recordedCandidate_disposition]
  unfold RehearsalHolds
  cases outward : candidate.actionClass.isOutward with
  | false =>
    rw [inward_rehearsal_recommends_iff outward]
    simp
  | true =>
    cases enabled : limits.envelope.agentEnabled with
    | false =>
      rw [disabled_rehearsal_recommends_iff outward enabled]
      simp
    | true =>
      have recommends : reach (finalDisposition limits candidate) ≤ reach .recommendOnly :=
        (reach_finalDisposition_le_envelope limits candidate).trans
          (envelopeDisposition_of_rehearsal outward enabled rehearsal)
      simp [recommends]

/-- The limits of a workspace nobody has configured, at its first cycle. -/
def unconfiguredLimits : CycleLimits where
  ceilings := []
  envelope := .default
  usage := ⟨0, 0, 0, none, 0⟩
  touchAges := fun _ => none
  touchedThisCycle := ∅

theorem unconfigured_fan_message_recommends_iff :
    unconfiguredLimits.envelope.dryRun = true ∧
      (reach (recordedCandidate unconfiguredLimits
          (fanMessage "first")).disposition ≤ reach .recommendOnly ↔
        RehearsalHolds unconfiguredLimits (fanMessage "first")) :=
  ⟨rfl,
    rehearsal_recommends_iff unconfiguredLimits (fanMessage "first") rfl⟩

def ticketPriceChange (key : String) : DecisionCandidate where
  context := .ticketYield
  subject := .ticketType 3
  disposition := .autoExecute
  policySnapshot := .object []
  action := .changeTicketPrice
  decisionKey := key
  actionIdempotencyKey := key

/--
An unconfigured workspace is rehearsing, and still both a message to a fan and
a price change are recorded with an ask on offer.
-/
theorem unconfigured_rehearsal_asks :
    unconfiguredLimits.envelope.dryRun = true ∧
      (fanMessage "first").actionClass = .ownedAudience ∧
      ¬ reach (recordedCandidate unconfiguredLimits
          (fanMessage "first")).disposition ≤ reach .recommendOnly ∧
      (ticketPriceChange "second").actionClass = .paid ∧
      ¬ reach (recordedCandidate unconfiguredLimits
          (ticketPriceChange "second")).disposition ≤
        reach .recommendOnly := by
  decide

end CrowdRelay
