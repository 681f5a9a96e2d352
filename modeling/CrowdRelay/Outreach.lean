import CrowdRelay.FanLifecycle
import CrowdRelay.FreeReach

namespace CrowdRelay

open MachineInt Ranged

/-!
# Outreach

Whether a relationship may be pitched now, in which phase, and the candidate
that carries the pitch.  Nobody is pitched past the lifetime cap in silence,
within a cooldown, or unread.
-/

inductive OutreachReplyDisposition where
  | none
  | received
  | positive
  | declined
  | doNotContact
  deriving Repr, DecidableEq

structure OutreachSnapshot where
  opportunityId : Uuid
  targetId : Uuid
  targetKind : OutreachTargetKind
  targetVersion : I64
  active : Bool
  verified : Bool
  acceptsOutreach : Bool
  relevanceBasisPoints : U16
  evidenceConfidence : Confidence
  observedAt : OffsetDateTime
  expiresAt : OffsetDateTime
  lastOutreachAt : Option OffsetDateTime
  targetLastOutreachAt : Option OffsetDateTime
  followupCount : U16
  lifetimeOutbound : U16
  targetEverReplied : Bool
  lastReply : OutreachReplyDisposition
  lastDeclinedAt : Option OffsetDateTime
  inFlight : Bool
  hasRecentResearch : Bool
  waveOnly : Bool
  threadFollowup : Bool
  deriving Repr, DecidableEq

structure OutreachPolicy where
  minimumRelevanceBasisPoints : U16
  minimumRelationshipConfidenceBasisPoints : U16
  initialCooldownDays : U32
  followupAfterDays : U32
  declinedCooldownDays : U32
  maximumFollowups : U16
  maximumLifetimeContacts : U16
  threadFollowupAfterDays : U32
  threadFollowupWindowDays : U32
  waves : FreeReachPolicy
  deriving Repr, DecidableEq

def OutreachPolicy.default : OutreachPolicy where
  minimumRelevanceBasisPoints := 7000
  minimumRelationshipConfidenceBasisPoints := 7500
  initialCooldownDays := 90
  followupAfterDays := 5
  declinedCooldownDays := 180
  maximumFollowups := 1
  maximumLifetimeContacts := 2
  threadFollowupAfterDays := 10
  threadFollowupWindowDays := 60
  waves := .default

def OutreachPolicy.isValid (policy : OutreachPolicy) : Bool :=
  decide (1 ≤ policy.minimumRelevanceBasisPoints.val) &&
    decide (policy.minimumRelevanceBasisPoints.val ≤ 10000) &&
    decide (1 ≤ policy.minimumRelationshipConfidenceBasisPoints.val) &&
    decide (policy.minimumRelationshipConfidenceBasisPoints.val ≤ 10000) &&
    decide (policy.followupAfterDays < policy.initialCooldownDays) &&
    decide (policy.initialCooldownDays ≤ policy.declinedCooldownDays) &&
    decide (0 < policy.followupAfterDays.val) &&
    decide (policy.maximumFollowups.val ≤ 3) &&
    decide (1 ≤ policy.maximumLifetimeContacts.val) &&
    decide (policy.maximumLifetimeContacts.val ≤ 4) &&
    decide (0 < policy.threadFollowupAfterDays.val) &&
    decide (policy.threadFollowupAfterDays < policy.threadFollowupWindowDays) &&
    decide (policy.threadFollowupWindowDays.val ≤ 365)

inductive OutreachPhase where
  | initial
  | followUp
  deriving Repr, DecidableEq

inductive OutreachHoldReason where
  | invalidPolicy
  | invalidSnapshot
  | ineligibleTarget
  | staleOpportunity
  | lowRelevance
  | inFlight
  | alreadyReplied
  | cooldown
  | followUpNotDue
  | followUpLimit
  | contactExhausted
  | needsResearch
  deriving Repr, DecidableEq

inductive OutreachDecision where
  | hold (reason : OutreachHoldReason)
  | request
      (phase : OutreachPhase)
      (confidence : Confidence)
  deriving Repr, DecidableEq

/-- A number of days as the time they take. -/
def outreachDays (days : U32) : Int := days.val * 86400 * 1000000000

section Evaluation

variable (snapshot : OutreachSnapshot) (policy : OutreachPolicy) (now : OffsetDateTime)

def outreachRequest (phase : OutreachPhase) : OutreachDecision :=
  let relevanceBonus : U16 :=
    min
      (snapshot.relevanceBasisPoints.saturatingSub policy.minimumRelevanceBasisPoints)
      1000
  .request phase
    (saturate (min (min snapshot.evidenceConfidence.val 9000 + relevanceBonus.val) 10000))

/-- What a reply on record still allows. -/
def replyHold : Option OutreachHoldReason :=
  match snapshot.lastReply with
  | .received | .positive | .doNotContact => some .alreadyReplied
  | .declined =>
    if snapshot.lastDeclinedAt.all fun declinedAt =>
        now - declinedAt < outreachDays policy.declinedCooldownDays then
      some .cooldown
    else
      none
  | .none => none

/-- A thread the act opened by hand keeps to its own window. -/
def evaluateThread : OutreachDecision :=
  match snapshot.targetLastOutreachAt with
  | none => .hold .invalidSnapshot
  | some last =>
    if last > now then
      .hold .invalidSnapshot
    else if now - last < outreachDays policy.threadFollowupAfterDays then
      .hold .followUpNotDue
    else if outreachDays policy.threadFollowupWindowDays ≤ now - last then
      .hold .staleOpportunity
    else
      outreachRequest snapshot policy .followUp

/-- The first touch of an opportunity, or the follow-up on it. -/
def evaluatePhase : OutreachDecision :=
  match snapshot.lastOutreachAt with
  | none =>
    if snapshot.threadFollowup then
      evaluateThread snapshot policy now
    else if snapshot.targetLastOutreachAt.any fun touchedAt =>
        touchedAt > now || now - touchedAt < outreachDays policy.initialCooldownDays then
      .hold .cooldown
    else
      outreachRequest snapshot policy .initial
  | some lastOutreach =>
    if lastOutreach > now then
      .hold .invalidSnapshot
    else if policy.maximumFollowups ≤ snapshot.followupCount then
      .hold .followUpLimit
    else if now - lastOutreach < outreachDays policy.followupAfterDays then
      .hold .followUpNotDue
    else
      outreachRequest snapshot policy .followUp

def evaluateRelationship : OutreachDecision :=
  if !policy.isValid then
    .hold .invalidPolicy
  else if snapshot.observedAt > now ||
      snapshot.expiresAt ≤ snapshot.observedAt ||
      snapshot.targetVersion.val ≤ 0 then
    .hold .invalidSnapshot
  else if !snapshot.active || !snapshot.verified ||
      !snapshot.acceptsOutreach then
    .hold .ineligibleTarget
  else if snapshot.expiresAt ≤ now then
    .hold .staleOpportunity
  else if
      snapshot.relevanceBasisPoints < policy.minimumRelevanceBasisPoints ||
        snapshot.evidenceConfidence.val < policy.minimumRelationshipConfidenceBasisPoints.val then
    .hold .lowRelevance
  else if snapshot.inFlight then
    .hold .inFlight
  else
    match replyHold snapshot policy now with
    | some reason => .hold reason
    | none =>
      -- Silence is an answer, whichever opportunity it is about.
      if !snapshot.targetEverReplied &&
          policy.maximumLifetimeContacts ≤ snapshot.lifetimeOutbound then
        .hold .contactExhausted
      else
        evaluatePhase snapshot policy now

/-- Nobody is pitched unread, save on a thread the band opened itself. -/
def evaluateOutreach : OutreachDecision :=
  match evaluateRelationship snapshot policy now with
  | .request phase confidence =>
    if !snapshot.threadFollowup && !snapshot.hasRecentResearch then
      .hold .needsResearch
    else
      .request phase confidence
  | held => held

end Evaluation

structure OutreachPitch where
  opportunityId : Uuid
  targetId : Uuid
  targetVersion : I64
  phase : OutreachPhase
  templateKey : String
  waveId : Option Uuid
  confidence : Confidence
  disposition : PolicyDisposition
  deriving Repr, DecidableEq

/-- The letter of a kind; representation is never approached by a pitch. -/
def outreachTemplateKey (threadFollowup : Bool)
    (targetKind : OutreachTargetKind) : Option String :=
  if threadFollowup then
    some "outreach.thread.v1"
  else
    match targetKind with
    | .playlist => some "outreach.playlist.v1"
    | .radio => some "outreach.radio.v1"
    | .press => some "outreach.press.v1"
    | .creator => some "outreach.creator.v1"
    | .supportSlot => some "outreach.support_slot.v1"
    | .endorsement => some "outreach.endorsement.v1"
    | .mediaPatronage => some "outreach.media_patronage.v1"
    | .organiser => some "outreach.organiser.v1"
    | .agent | .label => none

/-- A pitch inside a wave is approved with its wave, never on its own. -/
def waveDisposition (waveId : Option Uuid)
    (granted : PolicyDisposition) : PolicyDisposition :=
  if waveId.isSome && granted = .autoExecute then .requireApproval else granted

/-- The outreach policy is `none` when the context holds another one. -/
def outreachCandidate (snapshot : OutreachSnapshot) (policy : AutopilotPolicy)
    (domainPolicy : Option OutreachPolicy) (waveId : Option Uuid)
    (now : OffsetDateTime) : Option OutreachPitch :=
  match domainPolicy with
  | none => none
  | some domainPolicy =>
    match evaluateOutreach snapshot domainPolicy now with
    | .hold _ => none
    | .request phase confidence =>
      (outreachTemplateKey snapshot.threadFollowup
          snapshot.targetKind).map fun templateKey =>
        { opportunityId := snapshot.opportunityId
          targetId := snapshot.targetId
          targetVersion := snapshot.targetVersion
          phase := phase
          templateKey := templateKey
          waveId := waveId
          confidence := confidence
          disposition :=
            waveDisposition waveId
              (disposition policy.autonomyLevel confidence policy.minimumConfidence) }

/-- The outreach context with its default policy. -/
def outreachAutopilot : AutopilotPolicy where
  context := .outreach
  enabled := true
  autonomyLevel := .requireApproval
  minimumConfidence := 7500
  maxActions24h := 20
  config := .other
  version := 1

/-! ## What a request stands on -/

section Requests

variable {snapshot : OutreachSnapshot} {policy : OutreachPolicy} {now : OffsetDateTime}
  {phase : OutreachPhase} {confidence : Confidence}

/-- The facts about the relationship that a request rests on. -/
structure RequestFounded
    (snapshot : OutreachSnapshot)
    (policy : OutreachPolicy)
    (now : OffsetDateTime)
    (phase : OutreachPhase) : Prop where
  notInFlight : snapshot.inFlight = false
  underCap :
    snapshot.targetEverReplied = false →
    snapshot.lifetimeOutbound < policy.maximumLifetimeContacts
  rested :
    phase = .initial →
    ∀ touchedAt,
      snapshot.targetLastOutreachAt = some touchedAt →
      touchedAt + outreachDays policy.initialCooldownDays ≤ now
  ownLane : phase = .initial → snapshot.threadFollowup = false

theorem evaluateThread_followUp
    (requested : evaluateThread snapshot policy now = .request phase confidence) :
    phase = .followUp := by
  unfold evaluateThread at requested
  split at requested
  · cases requested
  split at requested
  · cases requested
  split at requested
  · cases requested
  split at requested
  · cases requested
  · cases requested
    rfl

theorem evaluatePhase_initial
    (requested : evaluatePhase snapshot policy now = .request .initial confidence) :
    snapshot.threadFollowup = false ∧
      ∀ touchedAt,
        snapshot.targetLastOutreachAt = some touchedAt →
        touchedAt + outreachDays policy.initialCooldownDays ≤ now := by
  unfold evaluatePhase at requested
  split at requested
  · split at requested
    · cases evaluateThread_followUp requested
    · rename_i isPitch
      split at requested
      · cases requested
      · rename_i untouched
        refine ⟨Bool.eq_false_iff.mpr isPitch, fun touchedAt touched => ?_⟩
        rw [touched, Option.any_some, Bool.or_eq_true, not_or,
          decide_eq_true_eq, decide_eq_true_eq] at untouched
        exact Int.add_le_of_le_sub_left (not_lt.mp untouched.2)
  · split at requested
    · cases requested
    split at requested
    · cases requested
    split at requested
    · cases requested
    · cases requested

/-- Whatever is requested passed every test before the phases. -/
theorem evaluateOutreach_founded
    (requested : evaluateOutreach snapshot policy now = .request phase confidence) :
    RequestFounded snapshot policy now phase := by
  have related : evaluateRelationship snapshot policy now = .request phase confidence := by
    unfold evaluateOutreach at requested
    split at requested
    · rename_i isRequest
      split at requested
      · cases requested
      · rw [isRequest, requested]
    · exact requested
  unfold evaluateRelationship at related
  split at related
  · cases related
  split at related
  · cases related
  split at related
  · cases related
  split at related
  · cases related
  split at related
  · cases related
  split at related
  · cases related
  rename_i notInFlight
  split at related
  · cases related
  split at related
  · cases related
  rename_i notExhausted
  refine
    { notInFlight := Bool.eq_false_iff.mpr notInFlight
      underCap := fun silent => ?_
      rested := fun isInitial =>
        (evaluatePhase_initial (isInitial ▸ related)).2
      ownLane := fun isInitial =>
        (evaluatePhase_initial (isInitial ▸ related)).1 }
  rw [silent, Bool.not_false, Bool.true_and, decide_eq_true_eq, not_le] at notExhausted
  exact notExhausted

theorem request_of_outreachCandidate {autopilotPolicy : AutopilotPolicy}
    {waveId : Option Uuid} {pitch : OutreachPitch}
    (pitched : outreachCandidate snapshot autopilotPolicy (some policy) waveId now = some pitch) :
    RequestFounded snapshot policy now pitch.phase ∧
      pitch.opportunityId = snapshot.opportunityId ∧
      pitch.targetId = snapshot.targetId ∧
      pitch.waveId = waveId := by
  unfold outreachCandidate at pitched
  dsimp only at pitched
  split at pitched
  · cases pitched
  · rename_i isRequest
    obtain ⟨templateKey, _, rfl⟩ := Option.map_eq_some_iff.mp pitched
    exact ⟨evaluateOutreach_founded isRequest, rfl, rfl, rfl⟩

end Requests

end CrowdRelay
