import CrowdRelay.Learning
import CrowdRelay.ShowLadder

namespace CrowdRelay

open MachineInt Ranged

/-!
# What the show-growth arm proposes

The domain names a lever; the arm turns it into a candidate, or into a decline
where the partner edge is unreciprocated or the lever's own record retired it.
-/

namespace ShowGrowthLever

def asStr : ShowGrowthLever → String
  | .canonicalLinkSetup => "canonical_link_setup"
  | .freeListingSweep => "free_listing_sweep"
  | .audienceCaptureSetup => "audience_capture_setup"
  | .partnerCrossPromo => "partner_cross_promo"
  | .grassrootsSceneRelay => "grassroots_scene_relay"
  | .fanAmbassadors => "fan_ambassadors"
  | .socialProofRelay => "social_proof_relay"
  | .freeFanChannelPush => "free_fan_channel_push"
  | .merchBuyerOffer => "merch_buyer_offer"
  | .highIntentLastMile => "high_intent_last_mile"
  | .postShowMerchFollowUp => "post_show_merch_follow_up"
  | .postShowRecap => "post_show_recap"
  | .postShowFollowAsk => "post_show_follow_ask"

def templateKey : ShowGrowthLever → String
  | .canonicalLinkSetup => "show.growth.canonical_link.v1"
  | .freeListingSweep => "show.growth.free_listings.v1"
  | .audienceCaptureSetup => "show.growth.audience_capture.v1"
  | .partnerCrossPromo => "show.growth.partner_cross_promo.v1"
  | .grassrootsSceneRelay => "show.growth.grassroots_scene_relay.v1"
  | .fanAmbassadors => "show.growth.fan_ambassadors.v1"
  | .socialProofRelay => "show.growth.social_proof.v1"
  | .freeFanChannelPush => "show.growth.free_fan_push.v1"
  | .merchBuyerOffer => "show.growth.merch_buyer_offer.v1"
  | .highIntentLastMile => "show.growth.high_intent.v1"
  | .postShowMerchFollowUp => "show.growth.post_show_merch.v1"
  | .postShowRecap => "show.growth.post_show_recap.v1"
  | .postShowFollowAsk => "show.growth.post_show_follow_ask.v1"

/-- A ladder approval covers owned and first-party promotion only. -/
def ladderMayPreAuthorize (lever : ShowGrowthLever) : Bool := !lever.isRelationshipSensitive

/-- The key under which a lever's measured outcomes accumulate. -/
def standingKey (lever : ShowGrowthLever) : String := "show.growth.request:" ++ lever.asStr

end ShowGrowthLever

inductive ShowGrowthConfig where
  | showGrowth (policy : ShowGrowthPolicy)
  | other
  deriving Repr, DecidableEq

structure ShowGrowthPolicyRow where
  context : AutopilotContext
  enabled : Bool
  autonomyLevel : AutonomyLevel
  minimumConfidence : Confidence
  maxActions24h : U32
  config : ShowGrowthConfig
  version : I64
  deriving Repr, DecidableEq

/-- What a candidate records of its policy, and the flag of the ladder. -/
structure ShowGrowthEvidence where
  version : I64
  enabled : Bool
  autonomyLevel : AutonomyLevel
  minimumConfidenceBasisPoints : Int
  maxActions24h : U32
  config : ShowGrowthPolicy
  ladderAuthorized : Bool
  deriving Repr, DecidableEq

def showGrowthEvidence (policy : ShowGrowthPolicyRow)
    (domainPolicy : ShowGrowthPolicy) : ShowGrowthEvidence :=
  { version := policy.version
    enabled := policy.enabled
    autonomyLevel := policy.autonomyLevel
    minimumConfidenceBasisPoints := policy.minimumConfidence.val
    maxActions24h := policy.maxActions24h
    config := domainPolicy
    ladderAuthorized := false }

structure ShowGrowthAction where
  eventId : Uuid
  lever : ShowGrowthLever
  templateKey : String
  sendAt : Option OffsetDateTime
  deriving Repr, DecidableEq

structure ShowGrowthCandidate where
  context : AutopilotContext
  subject : ActionSubject
  decisionKind : String
  confidence : Confidence
  disposition : PolicyDisposition
  reason : String
  inputSnapshot : ShowGrowthSnapshot
  policySnapshot : ShowGrowthEvidence
  action : ShowGrowthAction
  decisionKey : String
  actionIdempotencyKey : String
  deriving Repr, DecidableEq

def activateShowGrowthLever : String := "activate_show_growth_lever"

def unreciprocatedCrossbill : String := "unreciprocated_crossbill"

def leverRetired : String := "lever_retired"

/-- The candidate asks for the lever; a decline only names it. -/
def ShowGrowthCandidate.Requests (candidate : ShowGrowthCandidate)
    (lever : ShowGrowthLever) : Prop :=
  candidate.decisionKind = activateShowGrowthLever ∧ candidate.action.lever = lever

instance
    (candidate : ShowGrowthCandidate)
    (lever : ShowGrowthLever) :
    Decidable (candidate.Requests lever) :=
  inferInstanceAs (Decidable (_ ∧ _))

/-- What the arm reads beside the snapshot. -/
structure ShowGrowthReads where
  policy : ShowGrowthPolicyRow
  evidence : ContextEvidence
  standings : String → Option Standing
  externalExecutorLive : Bool
  /-- Failed attempts, by event and lever. -/
  failures : Uuid → String → Option U32
  now : OffsetDateTime

section Candidates

variable (reads : ShowGrowthReads) (domainPolicy : ShowGrowthPolicy) (snapshot : ShowGrowthSnapshot)

def unreciprocatedCrossbillDecline : ShowGrowthCandidate :=
  { context := reads.policy.context
    subject := .event snapshot.eventId
    decisionKind := unreciprocatedCrossbill
    confidence := 9400
    disposition := .deny
    reason :=
      "unreciprocated_crossbill: this workspace's audience has never " ++
        "carried the partner's announcement — carrying theirs first is " ++
        "how the edge unlocks"
    inputSnapshot := snapshot
    policySnapshot := showGrowthEvidence reads.policy domainPolicy
    action :=
      { eventId := snapshot.eventId
        lever := .partnerCrossPromo
        templateKey := ShowGrowthLever.partnerCrossPromo.templateKey
        sendAt := none }
    decisionKey :=
      "decision:show-growth:v" ++ toString reads.policy.version.val ++ ":" ++
        uuidText snapshot.eventId ++ ":" ++ unreciprocatedCrossbill
    actionIdempotencyKey :=
      "action:show-growth:" ++ uuidText snapshot.eventId ++
        ":partner_cross_promo:" ++ unreciprocatedCrossbill }

/-- The refusal keys on the lever alone: a standing is not per event. -/
def leverRetiredDecline (lever : ShowGrowthLever) : ShowGrowthCandidate :=
  { context := reads.policy.context
    subject := .event snapshot.eventId
    decisionKind := leverRetired
    confidence := 9400
    disposition := .deny
    reason :=
      "lever_retired: this lever's own measured outcomes kept worsening, " ++
        "so the brain stopped proposing it until an operator reinstates it"
    inputSnapshot := snapshot
    policySnapshot := showGrowthEvidence reads.policy domainPolicy
    action :=
      { eventId := snapshot.eventId
        lever := lever
        templateKey := lever.templateKey
        sendAt := none }
    decisionKey :=
      "decision:show-growth:v" ++ toString reads.policy.version.val ++ ":" ++
        leverRetired ++ ":" ++ lever.asStr
    actionIdempotencyKey := "action:show-growth:" ++ leverRetired ++ ":" ++ lever.asStr }

def isRetiredLever (lever : ShowGrowthLever) : Bool :=
  match reads.standings lever.standingKey with
  | some standing => standing.isRetired
  | none => false

def failedAttempts (lever : ShowGrowthLever) : U32 :=
  (reads.failures snapshot.eventId lever.asStr).getD 0

/-- Either the request, or the decline of a retired lever. -/
def requestCandidate (lever : ShowGrowthLever) (confidence : Confidence)
    (sendAt : Option OffsetDateTime)
    (failedAttempts : U32) : ShowGrowthCandidate :=
  if isRetiredLever reads lever then
    leverRetiredDecline reads domainPolicy snapshot lever
  else
    { context := reads.policy.context
      subject := .event snapshot.eventId
      decisionKind := activateShowGrowthLever
      confidence := confidence
      disposition :=
        dispositionWithEvidence reads.policy.autonomyLevel confidence
          reads.policy.minimumConfidence reads.evidence rateFloor
      reason := "a bounded attendance-growth lever is due from first-party show " ++ "evidence"
      inputSnapshot := snapshot
      policySnapshot :=
        { showGrowthEvidence reads.policy domainPolicy with
          ladderAuthorized := snapshot.ladderApproved && lever.ladderMayPreAuthorize }
      action :=
        { eventId := snapshot.eventId
          lever := lever
          templateKey := lever.templateKey
          sendAt := sendAt }
      decisionKey :=
        "decision:show-growth:v" ++ toString reads.policy.version.val ++
          ":" ++ uuidText snapshot.eventId ++ ":" ++ lever.asStr ++ ":" ++
          toString snapshot.paidTickets.val ++ ":" ++
          toString snapshot.paidTicketsLast7d.val ++ ":" ++
          toString snapshot.interestedFans.val ++ ":" ++
          toString snapshot.citySignalFans.val ++ ":" ++
          toString snapshot.beaconPartners.val ++ ":" ++
          toString snapshot.humanBookingTargets30d.val
      actionIdempotencyKey :=
        if failedAttempts = 0 then
          "action:show-growth:" ++ uuidText snapshot.eventId ++ ":" ++ lever.asStr
        else
          "action:show-growth:" ++ uuidText snapshot.eventId ++ ":" ++
            lever.asStr ++ ":retry" ++ toString failedAttempts.val }

/-- The levers the generic ladder leaves to others, or cannot use. -/
def passesOver (lever : ShowGrowthLever) : Bool :=
  lever.isRelationshipSensitive ||
    (!reads.externalExecutorLive && !lever.isFirstParty) ||
    failedAttempts reads snapshot lever ≥ maxLeverAttempts

/-- The ladder of a snapshot, with the levers of the show passed over. -/
def evaluateServiceable
    (masked : ShowGrowthSnapshot) : Option ShowGrowthDecision :=
  (evaluateShowGrowthPassingOver masked domainPolicy reads.now
    (passesOver reads snapshot)).map Prod.fst

end Candidates

/-- `none` only where the ladder did not come to an end. -/
def showGrowthCandidates (reads : ShowGrowthReads)
    (snapshot : ShowGrowthSnapshot) : Option (List ShowGrowthCandidate) :=
  match reads.policy.config with
  | .other => some []
  | .showGrowth domainPolicy =>
    match evaluateServiceable reads domainPolicy snapshot snapshot with
    | none => none
    | some (.request lever confidence sendAt) =>
      some
        [requestCandidate reads domainPolicy snapshot lever confidence
          sendAt (failedAttempts reads snapshot lever)]
    | some (.hold .unreciprocatedCrossbill) =>
      let decline := unreciprocatedCrossbillDecline reads domainPolicy snapshot
      -- The refusal is the partner lever's, so the ladder goes on.
      match
          evaluateServiceable reads domainPolicy snapshot
            (snapshot.markRequested .partnerCrossPromo) with
      | none => none
      | some (.request lever confidence sendAt) =>
        some
          [decline,
            requestCandidate reads domainPolicy snapshot lever
              confidence sendAt (failedAttempts reads snapshot lever)]
      | some (.hold _) => some [decline]
    | some (.hold _) => some []

end CrowdRelay
