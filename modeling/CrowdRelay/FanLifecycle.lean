import CrowdRelay.ActionPayload
import CrowdRelay.LiveOpportunity

namespace CrowdRelay

open MachineInt

/-!
# The fan lifecycle

Which lifecycle touch is appropriate for a fan now, the episode a message
answers, and the candidate that carries it.  Each rung has its own condition;
the evaluation returns the first that holds.
-/

/-- A bounded confidence value in basis points. -/
abbrev Confidence := Ranged 0 10000

instance confidenceInhabited : Fact ((0 : Int) ≤ 10000) := ⟨by decide⟩

/-- Applies the authority and the confidence gate. -/
def disposition (level : AutonomyLevel)
    (confidence minimumConfidence : Confidence) : PolicyDisposition :=
  if confidence < minimumConfidence then
    .deny
  else
    match level with
    | .observe => .observeOnly
    | .recommend => .recommendOnly
    | .requireApproval => .requireApproval
    | .boundedAuto => .autoExecute

structure LifecycleCheckin where
  checkedInAt : OffsetDateTime
  eventSlug : String
  eventTitle : String
  deriving Repr, DecidableEq

structure FanLifecycleSnapshot where
  fanId : Uuid
  active : Bool
  marketingConsent : Bool
  createdAt : OffsetDateTime
  synesthesiaCompletedAt : Option OffsetDateTime
  lastMarketingTouchAt : Option OffsetDateTime
  hasPaidTicket : Bool
  lastPaidTicketAt : Option OffsetDateTime
  paidTicketCount : U32
  qualifiedReferrals : U32
  lastQualifiedReferralAt : Option OffsetDateTime
  hasReferralCode : Bool
  referralAskReadyAt : Option OffsetDateTime
  hasSignalInstall : Bool
  lastEventInterestAt : Option OffsetDateTime
  recentCheckin : Option LifecycleCheckin
  deriving Repr, DecidableEq

structure FanLifecyclePolicy where
  milestoneRecentHours : U32
  returningFanTicketThreshold : U32
  welcomeAfterHours : U32
  minimumHoursAfterSynesthesia : U32
  marketingCooldownHours : U32
  dormantAfterDays : U32
  referralInviteAfterDays : U32
  referralInviteUntilDays : U32
  signalInstallAskAfterDays : U32
  signalInstallAskUntilDays : U32
  showRecallAfterHours : U32
  showRecallUntilHours : U32
  deriving Repr, DecidableEq

def FanLifecyclePolicy.default : FanLifecyclePolicy where
  milestoneRecentHours := 72
  returningFanTicketThreshold := 5
  welcomeAfterHours := 24
  minimumHoursAfterSynesthesia := 48
  marketingCooldownHours := 120
  dormantAfterDays := 60
  referralInviteAfterDays := 3
  referralInviteUntilDays := 14
  signalInstallAskAfterDays := 2
  signalInstallAskUntilDays := 9
  showRecallAfterHours := 18
  showRecallUntilHours := 60

inductive LifecycleTemplate where
  | welcome
  | synesthesiaFollowUp
  | dormantReactivation
  | firstTicketThankYou
  | returningFanThankYou
  | referralThankYou
  | referralInvite
  | signalInstallAsk
  | showRecall
  deriving Repr, DecidableEq

inductive FanLifecycleHoldReason where
  | invalidSnapshot
  | inactive
  | noConsent
  | tooEarly
  | cooldownActive
  | alreadyConverted
  | noLifecycleOpportunity
  deriving Repr, DecidableEq

inductive FanLifecycleDecision where
  | hold (reason : FanLifecycleHoldReason)
  | issueReferralCode (confidence : Confidence)
  | requestMessage
      (template : LifecycleTemplate)
      (confidence : Confidence)
  deriving Repr, DecidableEq

def durationHours (count : U32) : Int := 3600000000000 * count.val

def durationDays (count : U32) : Int := 86400000000000 * count.val

namespace FanLifecycleSnapshot

section Conditions

variable (snapshot : FanLifecycleSnapshot) (policy : FanLifecyclePolicy) (now : OffsetDateTime)

/-- The latest deliberate action, attendance included. -/
def latestEngagementAt : Option OffsetDateTime :=
  ([snapshot.lastPaidTicketAt, snapshot.lastEventInterestAt,
      snapshot.synesthesiaCompletedAt,
      snapshot.recentCheckin.map LifecycleCheckin.checkedInAt].filterMap
    id).max?

/-- Something in the snapshot is dated after now. -/
def isInvalid : Bool :=
  snapshot.createdAt > now ||
    snapshot.lastQualifiedReferralAt.any (fun moment => moment > now) ||
    snapshot.synesthesiaCompletedAt.any (fun moment => moment > now) ||
    snapshot.lastMarketingTouchAt.any (fun moment => moment > now) ||
    snapshot.lastPaidTicketAt.any (fun moment => moment > now) ||
    snapshot.lastEventInterestAt.any (fun moment => moment > now) ||
    snapshot.referralAskReadyAt.any (fun moment => moment > now) ||
    snapshot.recentCheckin.any fun checkin => checkin.checkedInAt > now

def ticketIsFresh : Bool :=
  snapshot.lastPaidTicketAt.any fun moment =>
    now - moment ≤ durationHours policy.milestoneRecentHours

def firstTicketReached : Bool := snapshot.ticketIsFresh policy now && snapshot.paidTicketCount = 1

/-- Exactly at the threshold, not past it. -/
def returningFanReached : Bool :=
  snapshot.ticketIsFresh policy now &&
    policy.returningFanTicketThreshold > 0 &&
    snapshot.paidTicketCount = policy.returningFanTicketThreshold

def referralReached : Bool :=
  snapshot.qualifiedReferrals > 0 &&
    snapshot.lastQualifiedReferralAt.any fun moment =>
      now - moment ≤ durationHours policy.milestoneRecentHours

def cooldownActive : Bool :=
  snapshot.lastMarketingTouchAt.any fun lastTouch =>
    now - lastTouch < durationHours policy.marketingCooldownHours

def showRecallOpen : Bool :=
  snapshot.recentCheckin.any fun checkin =>
    now - checkin.checkedInAt ≥
        durationHours policy.showRecallAfterHours &&
      now - checkin.checkedInAt < durationHours policy.showRecallUntilHours

def welcomeOpen : Bool :=
  snapshot.lastMarketingTouchAt.isNone &&
    now - snapshot.createdAt ≥ durationHours policy.welcomeAfterHours

def signalInstallAskOpen : Bool :=
  !snapshot.hasSignalInstall &&
    snapshot.lastMarketingTouchAt.isSome &&
    now - snapshot.createdAt ≥ durationDays policy.signalInstallAskAfterDays &&
    now - snapshot.createdAt < durationDays policy.signalInstallAskUntilDays

def engaged : Bool :=
  snapshot.latestEngagementAt.any fun moment =>
    moment ≥ snapshot.createdAt && moment ≤ now

def referralInviteOpen : Bool :=
  snapshot.referralAskReadyAt.any fun readyAt =>
    snapshot.engaged now &&
      snapshot.qualifiedReferrals = 0 &&
      snapshot.lastMarketingTouchAt.isSome &&
      now - readyAt ≥ durationDays policy.referralInviteAfterDays &&
      now - readyAt < durationDays policy.referralInviteUntilDays

def synesthesiaFollowUpOpen : Bool :=
  !snapshot.hasPaidTicket &&
    snapshot.synesthesiaCompletedAt.any fun completedAt =>
      now - completedAt ≥
          durationHours policy.minimumHoursAfterSynesthesia &&
        now - completedAt < durationDays policy.dormantAfterDays

def isDormant : Bool :=
  now - snapshot.latestEngagementAt.getD snapshot.createdAt ≥ durationDays policy.dormantAfterDays

end Conditions

end FanLifecycleSnapshot

variable (snapshot : FanLifecycleSnapshot)

/-- The one milestone worth acknowledging right now, if any. -/
def milestoneDue (policy : FanLifecyclePolicy)
    (now : OffsetDateTime) : Option LifecycleTemplate :=
  if policy.milestoneRecentHours = 0 then
    none
  else if snapshot.firstTicketReached policy now then
    some .firstTicketThankYou
  else if snapshot.returningFanReached policy now then
    some .returningFanThankYou
  else if snapshot.referralReached policy now then
    some .referralThankYou
  else
    none

def evaluateFanLifecycle (policy : FanLifecyclePolicy)
    (now : OffsetDateTime) : FanLifecycleDecision :=
  if snapshot.isInvalid now then
    .hold .invalidSnapshot
  else if !snapshot.active then
    .hold .inactive
  else if !snapshot.marketingConsent then
    .hold .noConsent
  else if !snapshot.hasReferralCode then
    .issueReferralCode 9900
  else
    match milestoneDue snapshot policy now with
    | some template => .requestMessage template 9800
    | none =>
      if snapshot.cooldownActive policy now then
        .hold .cooldownActive
      else if snapshot.showRecallOpen policy now then
        .requestMessage .showRecall 9500
      else if snapshot.welcomeOpen policy now then
        .requestMessage .welcome 9700
      else if snapshot.signalInstallAskOpen policy now then
        .requestMessage .signalInstallAsk 8800
      else if snapshot.referralInviteOpen policy now then
        .requestMessage .referralInvite 8800
      else if snapshot.synesthesiaFollowUpOpen policy now then
        .requestMessage .synesthesiaFollowUp 9000
      else if snapshot.isDormant policy now then
        .requestMessage .dormantReactivation 8600
      else if snapshot.hasPaidTicket then
        .hold .alreadyConverted
      else
        .hold .noLifecycleOpportunity

/-! ## Episodes -/

structure LifecycleEpisode where
  key : String
  since : Option OffsetDateTime
  ticketCount : Option U32
  eventSlug : Option String
  deriving Repr, DecidableEq

namespace LifecycleEpisode

def once : LifecycleEpisode :=
  { key := "once"
    since := none
    ticketCount := none
    eventSlug := none }

/-- The episode that began at a moment, of a show or of none. -/
def startedAt (moment : OffsetDateTime)
    (eventSlug : Option String) : LifecycleEpisode :=
  { key := eventSlug.getD "at" ++ ":" ++ toString moment
    since := some moment
    ticketCount := none
    eventSlug := eventSlug }

def forMessage (snapshot : FanLifecycleSnapshot) :
    LifecycleTemplate → Option LifecycleEpisode
  | .welcome
  | .firstTicketThankYou
  | .referralInvite
  | .signalInstallAsk => some once
  | .returningFanThankYou =>
    some
      { once with
        key := "shows-" ++ toString snapshot.paidTicketCount.val
        ticketCount := some snapshot.paidTicketCount }
  | .referralThankYou =>
    snapshot.lastQualifiedReferralAt.map fun moment =>
      startedAt moment none
  | .synesthesiaFollowUp =>
    snapshot.synesthesiaCompletedAt.map fun moment =>
      startedAt moment none
  | .dormantReactivation =>
    some (startedAt (snapshot.latestEngagementAt.getD snapshot.createdAt) none)
  | .showRecall =>
    snapshot.recentCheckin.map fun checkin =>
      startedAt checkin.checkedInAt (some checkin.eventSlug)

end LifecycleEpisode

/-! ## The candidate -/

inductive AutopilotPolicyConfig where
  | fanLifecycle (policy : FanLifecyclePolicy)
  | other
  deriving Repr, DecidableEq

structure AutopilotPolicy where
  context : AutopilotContext
  enabled : Bool
  autonomyLevel : AutonomyLevel
  minimumConfidence : Confidence
  maxActions24h : U32
  config : AutopilotPolicyConfig
  version : I64
  deriving Repr, DecidableEq

/-- What a decision records of the policy it was taken under. -/
structure PolicyEvidence where
  version : I64
  enabled : Bool
  autonomyLevel : AutonomyLevel
  minimumConfidenceBasisPoints : Int
  maxActions24h : U32
  config : FanLifecyclePolicy
  deriving Repr, DecidableEq

variable (policy : AutopilotPolicy)

def policyEvidence
    (domainConfig : FanLifecyclePolicy) : PolicyEvidence :=
  { version := policy.version
    enabled := policy.enabled
    autonomyLevel := policy.autonomyLevel
    minimumConfidenceBasisPoints := policy.minimumConfidence.val
    maxActions24h := policy.maxActions24h
    config := domainConfig }

structure LifecycleShowContext where
  eventSlug : String
  eventTitle : String
  wantsInstallUrl : Bool
  deriving Repr, DecidableEq

inductive LifecycleAction where
  | issueReferralCode (fanId : Uuid)
  | requestFanLifecycleMessage
      (fanId : Uuid)
      (templateKey : String)
      (show? : Option LifecycleShowContext)
  deriving Repr, DecidableEq

/-- The input a decision rests on is the snapshot, with the episode in it. -/
structure LifecycleCandidate where
  context : AutopilotContext
  subject : ActionSubject
  decisionKind : String
  confidence : Confidence
  disposition : PolicyDisposition
  reason : String
  inputSnapshot : FanLifecycleSnapshot
  lifecycleEpisode : Option LifecycleEpisode
  policySnapshot : PolicyEvidence
  action : LifecycleAction
  decisionKey : String
  actionIdempotencyKey : String
  deriving Repr, DecidableEq

namespace LifecycleTemplate

def templateKey : LifecycleTemplate → String
  | .welcome => "crowdrelay.fan.welcome.v2"
  | .synesthesiaFollowUp => "crowdrelay.synesthesia.follow_up.v1"
  | .dormantReactivation => "crowdrelay.fan.reactivation.v1"
  | .firstTicketThankYou => "crowdrelay.fan.first_ticket_thanks.v1"
  | .returningFanThankYou => "crowdrelay.fan.returning_thanks.v1"
  | .referralThankYou => "crowdrelay.fan.referral_thanks.v1"
  | .referralInvite => "crowdrelay.fan.referral_invite.v1"
  | .signalInstallAsk => "crowdrelay.fan.signal_install_ask.v1"
  | .showRecall => "crowdrelay.fan.show_recall.v1"

/-- The surfaces whose copy is unproven wait for a person. -/
def awaitsPerson (template : LifecycleTemplate) : Bool :=
  template = .signalInstallAsk || template = .showRecall

end LifecycleTemplate

def referralCodeActionKey (fanId : Uuid) : String := "action:referral-code:" ++ uuidText fanId

def lifecycleActionKey (fanId : Uuid) (template : LifecycleTemplate)
    (episode : LifecycleEpisode) : String :=
  "action:lifecycle-episode:" ++ uuidText fanId ++ ":" ++ template.templateKey ++ ":" ++ episode.key

variable (domainPolicy : FanLifecyclePolicy)

def referralCodeCandidate
    (confidence : Confidence) : LifecycleCandidate :=
  { context := policy.context
    subject := .fan snapshot.fanId
    decisionKind := "issue_referral_code"
    confidence := confidence
    disposition := disposition policy.autonomyLevel confidence policy.minimumConfidence
    reason := "a consented fan has no referral code, so no invite can be tracked"
    inputSnapshot := snapshot
    lifecycleEpisode := none
    policySnapshot := policyEvidence policy domainPolicy
    action := .issueReferralCode snapshot.fanId
    decisionKey :=
      "decision:referral-code:v" ++ toString policy.version.val ++ ":" ++ uuidText snapshot.fanId
    actionIdempotencyKey := referralCodeActionKey snapshot.fanId }

/-- The night a recall names rides the action. -/
def recalledShow
    (template : LifecycleTemplate) : Option LifecycleShowContext :=
  if template = .showRecall then
    snapshot.recentCheckin.map fun checkin =>
      { eventSlug := checkin.eventSlug
        eventTitle := checkin.eventTitle
        wantsInstallUrl := !snapshot.hasSignalInstall }
  else
    none

def messageCandidate (template : LifecycleTemplate) (confidence : Confidence)
    (episode : LifecycleEpisode) : LifecycleCandidate :=
  let granted := disposition policy.autonomyLevel confidence policy.minimumConfidence
  { context := policy.context
    subject := .fan snapshot.fanId
    decisionKind := "request_lifecycle_message"
    confidence := confidence
    disposition :=
      if template.awaitsPerson && granted = .autoExecute then .requireApproval else granted
    reason := "consented fan lifecycle has a deterministic communication step due"
    inputSnapshot := snapshot
    lifecycleEpisode := some episode
    policySnapshot := policyEvidence policy domainPolicy
    action :=
      .requestFanLifecycleMessage snapshot.fanId template.templateKey
        (recalledShow snapshot template)
    decisionKey :=
      "decision:lifecycle-episode:v" ++ toString policy.version.val ++
        ":" ++ uuidText snapshot.fanId ++ ":" ++ template.templateKey ++
        ":" ++ episode.key
    actionIdempotencyKey := lifecycleActionKey snapshot.fanId template episode }

def lifecycleCandidate
    (now : OffsetDateTime) : Option LifecycleCandidate :=
  match policy.config with
  | .other => none
  | .fanLifecycle domainPolicy =>
    match evaluateFanLifecycle snapshot domainPolicy now with
    | .hold _ => none
    | .issueReferralCode confidence =>
      some (referralCodeCandidate snapshot policy domainPolicy confidence)
    | .requestMessage template confidence =>
      (LifecycleEpisode.forMessage snapshot template).map fun episode =>
        messageCandidate snapshot policy domainPolicy template confidence episode

end CrowdRelay
