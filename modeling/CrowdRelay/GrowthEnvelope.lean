import CrowdRelay.ActionClass

namespace CrowdRelay

open MachineInt

/-!
# The growth envelope

The limits inside which the agent may act without being asked: the kill
switch, the rehearsal flag, the weekly and daily walls, the subject cooldown
and the attention budget.
-/

/-- Operator-set limits for one workspace. -/
structure GrowthEnvelope where
  agentEnabled : Bool
  dryRun : Bool
  weeklyOwnedAudienceTouches : U32
  weeklyThirdPartyTouches : U32
  dailyThirdPartyTouches : U32
  subjectCooldownHours : U32
  weeklyApprovalRequests : U32
  deriving Repr, DecidableEq

namespace GrowthEnvelope

/-- The posture of a workspace nobody has configured: off and rehearsing. -/
def default : GrowthEnvelope where
  agentEnabled := false
  dryRun := true
  weeklyOwnedAudienceTouches := 200
  weeklyThirdPartyTouches := 10
  dailyThirdPartyTouches := 3
  subjectCooldownHours := 168
  weeklyApprovalRequests := 20

variable (envelope : GrowthEnvelope)

def weeklyBudget : ActionClass → Option U32
  | .ownedAudience => some envelope.weeklyOwnedAudienceTouches
  | .thirdParty => some envelope.weeklyThirdPartyTouches
  | .firstPartyReversible => none
  | .paid => none

def dailyBudget : ActionClass → Option U32
  | .thirdParty => some envelope.dailyThirdPartyTouches
  | .ownedAudience => none
  | .firstPartyReversible => none
  | .paid => none

end GrowthEnvelope

/-- What the workspace has already spent. -/
structure EnvelopeUsage where
  ownedAudienceTouches7d : U32
  thirdPartyTouches7d : U32
  thirdPartyTouches24h : U32
  hoursSinceSubjectTouched : Option U32
  approvalRequests7d : U32
  deriving Repr, DecidableEq

namespace EnvelopeUsage

def spent (usage : EnvelopeUsage) : ActionClass → U32
  | .ownedAudience => usage.ownedAudienceTouches7d
  | .thirdParty => usage.thirdPartyTouches7d
  | .firstPartyReversible => 0
  | .paid => 0

/-- The last 24 hours' spend for classes with a daily wall. -/
def spentToday (usage : EnvelopeUsage) : ActionClass → U32
  | .thirdParty => usage.thirdPartyTouches24h
  | .ownedAudience => 0
  | .firstPartyReversible => 0
  | .paid => 0

end EnvelopeUsage

/-- Why the envelope is holding an action back. -/
inductive EnvelopeBlock where
  | agentDisabled
  | dryRun
  | weeklyBudgetExhausted (spent budget : U32)
  | dailyBudgetExhausted (spent budget : U32)
  | subjectInCooldown (hoursRemaining : U32)
  deriving Repr, DecidableEq

namespace EnvelopeBlock

def asStr : EnvelopeBlock → String
  | .agentDisabled => "agent_disabled"
  | .dryRun => "dry_run"
  | .weeklyBudgetExhausted .. => "weekly_budget_exhausted"
  | .dailyBudgetExhausted .. => "daily_budget_exhausted"
  | .subjectInCooldown .. => "subject_in_cooldown"

/-- Whether the finding should still be offered to a human. -/
def mayOfferForApproval : EnvelopeBlock → Bool
  | .dryRun => false
  | _ => true

end EnvelopeBlock

inductive EnvelopeVerdict where
  | allow
  | hold (block : EnvelopeBlock)
  deriving Repr, DecidableEq

def exhaustedBudget (budget : Option U32) (spent : U32) : Option U32 :=
  budget.filter fun limit => limit ≤ spent

/-- The hours still missing from a subject's cooldown, when some are. -/
def cooldownRemaining (cooldown : U32)
    (hoursSinceTouched : Option U32) : Option U32 :=
  (hoursSinceTouched.filter fun hours => hours < cooldown).map
    fun hours => cooldown.saturatingSub hours

/--
Decides whether one outward action fits inside the envelope.  The kill switch
is read before the rehearsal flag, and both before any counted limit.
-/
def checkEnvelope (actionClass : ActionClass) (envelope : GrowthEnvelope)
    (usage : EnvelopeUsage) : EnvelopeVerdict :=
  if actionClass.isOutward = false then
    .allow
  else if envelope.agentEnabled = false then
    .hold .agentDisabled
  else if envelope.dryRun = true then
    .hold .dryRun
  else
    match exhaustedBudget (envelope.weeklyBudget actionClass) (usage.spent actionClass) with
    | some budget => .hold (.weeklyBudgetExhausted (usage.spent actionClass) budget)
    | none =>
      match exhaustedBudget
          (envelope.dailyBudget actionClass)
          (usage.spentToday actionClass) with
      | some budget =>
        .hold (.dailyBudgetExhausted (usage.spentToday actionClass) budget)
      | none =>
        match cooldownRemaining
            envelope.subjectCooldownHours
            usage.hoursSinceSubjectTouched with
        | some hoursRemaining => .hold (.subjectInCooldown hoursRemaining)
        | none => .allow

/-- Whether the agent may put another decision in front of a person. -/
inductive AttentionVerdict where
  | ask
  | exhausted (spent budget : U32)
  deriving Repr, DecidableEq

def AttentionVerdict.mayAsk : AttentionVerdict → Bool
  | .ask => true
  | .exhausted .. => false

/-- Decides whether one more approval request fits inside the week. -/
def checkAttention (envelope : GrowthEnvelope)
    (usage : EnvelopeUsage) : AttentionVerdict :=
  if usage.approvalRequests7d < envelope.weeklyApprovalRequests then
    .ask
  else
    .exhausted usage.approvalRequests7d envelope.weeklyApprovalRequests

theorem exhaustedBudget_eq_none_iff {budget : Option U32} {spent : U32} :
    exhaustedBudget budget spent = none ↔ ∀ limit, budget = some limit → spent < limit := by
  cases budget with
  | none => simp [exhaustedBudget]
  | some limit => simp [exhaustedBudget]

theorem cooldownRemaining_eq_none_iff {cooldown : U32} {hoursSinceTouched : Option U32} :
    cooldownRemaining cooldown hoursSinceTouched = none ↔
      ∀ hours, hoursSinceTouched = some hours → cooldown ≤ hours := by
  cases hoursSinceTouched with
  | none => simp [cooldownRemaining]
  | some hours => simp [cooldownRemaining]

variable {actionClass : ActionClass}

theorem checkEnvelope_of_not_outward (inward : actionClass.isOutward = false)
    (envelope : GrowthEnvelope) (usage : EnvelopeUsage) :
    checkEnvelope actionClass envelope usage = .allow := by
  simp [checkEnvelope, inward]

variable {envelope : GrowthEnvelope}

section

variable (outward : actionClass.isOutward = true)
include outward

theorem checkEnvelope_of_disabled (disabled : envelope.agentEnabled = false)
    (usage : EnvelopeUsage) :
    checkEnvelope actionClass envelope usage = .hold .agentDisabled := by
  simp [checkEnvelope, outward, disabled]

theorem checkEnvelope_of_rehearsal (enabled : envelope.agentEnabled = true)
    (rehearsal : envelope.dryRun = true) (usage : EnvelopeUsage) :
    checkEnvelope actionClass envelope usage = .hold .dryRun := by
  simp [checkEnvelope, outward, enabled, rehearsal]

/--
An outward action passes exactly when the agent is on, nobody is rehearsing,
both walls have room left and the subject's cooldown has elapsed.
-/
theorem checkEnvelope_eq_allow_iff {usage : EnvelopeUsage} :
    checkEnvelope actionClass envelope usage = .allow ↔
      envelope.agentEnabled = true ∧
      envelope.dryRun = false ∧
      (∀ limit, envelope.weeklyBudget actionClass = some limit → usage.spent actionClass < limit) ∧
      (∀ limit, envelope.dailyBudget actionClass = some limit →
        usage.spentToday actionClass < limit) ∧
      (∀ hours, usage.hoursSinceSubjectTouched = some hours →
        envelope.subjectCooldownHours ≤ hours) := by
  rw [← exhaustedBudget_eq_none_iff, ← exhaustedBudget_eq_none_iff, ← cooldownRemaining_eq_none_iff]
  unfold checkEnvelope
  cases enabled : envelope.agentEnabled with
  | false => simp [outward]
  | true =>
    cases rehearsal : envelope.dryRun with
    | true => simp [outward]
    | false =>
      cases exhaustedBudget (envelope.weeklyBudget actionClass) (usage.spent actionClass) with
      | some budget => simp [outward]
      | none =>
        cases exhaustedBudget (envelope.dailyBudget actionClass) (usage.spentToday actionClass) with
        | some budget => simp [outward]
        | none =>
          cases cooldownRemaining envelope.subjectCooldownHours usage.hoursSinceSubjectTouched with
          | some hoursRemaining => simp [outward]
          | none => simp [outward]

end

theorem checkAttention_mayAsk_iff {usage : EnvelopeUsage} :
    (checkAttention envelope usage).mayAsk = true ↔
      usage.approvalRequests7d < envelope.weeklyApprovalRequests := by
  unfold checkAttention
  split <;> simp_all [AttentionVerdict.mayAsk]

end CrowdRelay
