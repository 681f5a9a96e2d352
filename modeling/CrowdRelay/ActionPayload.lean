import CrowdRelay.GrowthEnvelope

namespace CrowdRelay

/-!
# Action payloads and their subjects

Every action the agent can propose, with the data that decides its class, and
every subject a decision can be about.
-/

abbrev Uuid := BitVec 128

/-- One proof that identifiers compare lawfully, for every membership test. -/
instance uuidLawful : LawfulBEq Uuid := inferInstance

theorem isLE_compare_uuid_iff {left right : Uuid} :
    (compare left right).isLE = true ↔ left.toNat ≤ right.toNat :=
  isLE_compareOfLessAndEq BitVec.le_antisymm BitVec.not_le BitVec.le_total

/-- An identifier as text, in its hyphenated form. -/
def uuidText (id : Uuid) : String :=
  let digits := id.toHex.toList
  String.ofList
    (digits.take 8 ++ '-' :: (digits.drop 8).take 4 ++
      '-' :: (digits.drop 12).take 4 ++ '-' :: (digits.drop 16).take 4 ++
      '-' :: digits.drop 20)

inductive AutopilotContext where
  | ticketYield
  | fanLifecycle
  | campaignLifecycle
  | merchandising
  | merchPricing
  | merchBundle
  | bookingOpportunity
  | outreach
  | contentSupply
  | promotionBudget
  | experimentation
  | showOperations
  | release
  | liveOpportunity
  | funding
  | beacon
  | showGrowth
  | growthMetrics
  | growthDebt
  | outreachSupply
  | growthIntelligence
  | plays
  | contentStrategy
  | representation
  | bookingAgent
  | roster
  deriving Repr, DecidableEq

/-- What a decision is about. -/
inductive ActionSubject where
  | ticketType (id : Uuid)
  | fan (id : Uuid)
  | merchVariant (id : Uuid)
  | merchProduct (id : Uuid)
  | city (id : Uuid)
  | event (id : Uuid)
  | outreachOpportunity (id : Uuid)
  | contentSource (id : Uuid)
  | experiment (id : Uuid)
  | promotionCampaign (id : Uuid)
  | releasePlan (id : Uuid)
  | teamOpportunity (id : Uuid)
  | beacon (id : Uuid)
  | growthMetricSeries (id : Uuid)
  | bookingTarget (id : Uuid)
  | bookingAgent (id : Uuid)
  | outreachTarget (id : Uuid)
  | targetCommunity (id : Uuid)
  | workspace (id : Uuid)
  | contentSuggestion (id : Uuid)
  | contentArc (id : Uuid)
  | socialChannel (id : Uuid)
  | dropSurgeLane (id : Uuid)
  deriving Repr, DecidableEq

namespace ActionSubject

def isContactablePerson : ActionSubject → Bool
  | .fan _ => true
  | .bookingTarget _ => true
  | .bookingAgent _ => true
  | .outreachTarget _ => true
  | .beacon _ => true
  | _ => false

def uuid : ActionSubject → Uuid
  | .ticketType id
  | .fan id
  | .merchVariant id
  | .merchProduct id
  | .city id
  | .event id
  | .outreachOpportunity id
  | .contentSource id
  | .experiment id
  | .promotionCampaign id
  | .releasePlan id
  | .teamOpportunity id
  | .beacon id
  | .growthMetricSeries id
  | .bookingTarget id
  | .bookingAgent id
  | .outreachTarget id
  | .targetCommunity id
  | .workspace id
  | .contentSuggestion id
  | .contentArc id
  | .socialChannel id
  | .dropSurgeLane id => id

end ActionSubject

inductive PlayStepKind where
  | announceAsk
  | postShowAsk
  | listingSweep
  | followAskFirst
  | followAskSecond
  | followAskFinal
  | dormantRevivalFirst
  | dormantRevivalFinal
  | releasePresaveLive
  | releaseAudienceAnnounce
  | releaseCuratorWave
  | releaseDayPush
  | releaseSustainAsk
  deriving Repr, DecidableEq

def PlayStepKind.actionClass : PlayStepKind → ActionClass
  | .announceAsk | .postShowAsk => .ownedAudience
  | .listingSweep => .firstPartyReversible
  | .followAskFirst | .followAskSecond | .followAskFinal => .ownedAudience
  | .dormantRevivalFirst | .dormantRevivalFinal => .ownedAudience
  | .releasePresaveLive => .firstPartyReversible
  | .releaseAudienceAnnounce | .releaseDayPush | .releaseSustainAsk =>
    .ownedAudience
  | .releaseCuratorWave => .thirdParty

inductive ShowGrowthLever where
  | canonicalLinkSetup
  | freeListingSweep
  | audienceCaptureSetup
  | partnerCrossPromo
  | grassrootsSceneRelay
  | fanAmbassadors
  | socialProofRelay
  | freeFanChannelPush
  | merchBuyerOffer
  | highIntentLastMile
  | postShowMerchFollowUp
  | postShowRecap
  | postShowFollowAsk
  deriving Repr, DecidableEq

def ShowGrowthLever.actionClass : ShowGrowthLever → ActionClass
  | .partnerCrossPromo | .grassrootsSceneRelay | .socialProofRelay => .thirdParty
  | .fanAmbassadors
  | .freeFanChannelPush
  | .merchBuyerOffer
  | .highIntentLastMile
  | .postShowMerchFollowUp
  | .postShowRecap
  | .postShowFollowAsk => .ownedAudience
  | .canonicalLinkSetup | .freeListingSweep | .audienceCaptureSetup =>
    .firstPartyReversible

inductive ReleaseMilestone where
  | seedCalendar
  | editorialPitch
  | announcement
  | startPress
  | fanWarmup
  | countdown
  | releaseDay
  | sustain
  | wrap
  | catalogueRotation
  deriving Repr, DecidableEq

def ReleaseMilestone.actionClass : ReleaseMilestone → ActionClass
  | .startPress => .thirdParty
  | .announcement
  | .fanWarmup
  | .countdown
  | .releaseDay
  | .sustain
  | .wrap
  | .catalogueRotation => .ownedAudience
  | .seedCalendar | .editorialPitch => .firstPartyReversible

/-- The action an executor would carry out, with the data its class reads. -/
inductive AutopilotActionPayload where
  | changeTicketPrice
  | changeTicketCapacity
  | changeMerchPrice
  | requestMerchBundle
  | requestMerchReorder
  | requestPromotionBudgetChange
  | requestBookingOutreach
  | requestGigOutreach
  | requestOutreach
  | requestOutreachReply
  | requestRepresentationApproach
  | requestBookingAgentApproach
  | requestBookingAgentApproachWave
  | requestBookingAgentReply
  | requestBeaconOutreach
  | requestLatarnikInvite
  | requestBeaconInviteBatch
  | runArchivePromoteWave
  | applyLiveOpportunity
  | counterLiveOpportunityTerms
  | acceptLiveOpportunityTerms
  | issueCounterpartyReport
  | submitFundingApplication
  | requestCommunityEngagement
  | requestFanLifecycleMessage (templateKey : String)
  | requestAudienceCampaign
  | requestSourceCampaign
  | requestSignalPush
  | publishJoinAsk
  | requestBeaconDiscovery
  | requestOutreachDiscovery
  | requestBookingTargetDiscovery
  | requestContentArtifact
  | setEventTicketUrl
  | adjustExperiment
  | completeShowTask
  | escalateShowTask
  | prepareFundingPackage
  | raiseGrowthOpportunity
  | raiseGrowthDebt
  | raiseDeclineAdvisory
  | issueReferralCode
  | offerLatarnikMission
  | raiseContentSuggestion
  | raiseContentArc
  | sendTeamAssignmentEmail
  | verifyPlaylistPlacement
  | escalateEditorialPitch
  | requestOutreachTarget
  | requestAgentRun
  | requestAgentContent
      (recipientEmail : Option String)
      (recipientTargetId : Option Uuid)
  | runPlayStep (stepKind : PlayStepKind)
  | requestShowGrowth (lever : ShowGrowthLever)
  | executeReleaseMilestone (milestone : ReleaseMilestone)
  deriving Repr

def AutopilotActionPayload.actionClass :
    AutopilotActionPayload → ActionClass
  | .changeTicketPrice
  | .changeTicketCapacity
  | .changeMerchPrice
  | .requestMerchBundle
  | .requestMerchReorder
  | .requestPromotionBudgetChange => .paid
  | .requestBookingOutreach
  | .requestGigOutreach
  | .requestOutreach
  | .requestOutreachReply
  | .requestRepresentationApproach
  | .requestBookingAgentApproach
  | .requestBookingAgentApproachWave
  | .requestBookingAgentReply
  | .requestBeaconOutreach
  | .requestLatarnikInvite
  | .requestBeaconInviteBatch
  | .runArchivePromoteWave
  | .applyLiveOpportunity
  | .counterLiveOpportunityTerms
  | .acceptLiveOpportunityTerms
  | .issueCounterpartyReport
  | .submitFundingApplication
  | .requestCommunityEngagement => .thirdParty
  | .requestFanLifecycleMessage _
  | .requestAudienceCampaign
  | .requestSourceCampaign
  | .requestSignalPush
  | .publishJoinAsk => .ownedAudience
  | .requestBeaconDiscovery
  | .requestOutreachDiscovery
  | .requestBookingTargetDiscovery
  | .requestContentArtifact
  | .setEventTicketUrl
  | .adjustExperiment
  | .completeShowTask
  | .escalateShowTask
  | .prepareFundingPackage
  | .raiseGrowthOpportunity
  | .raiseGrowthDebt
  | .raiseDeclineAdvisory
  | .issueReferralCode
  | .offerLatarnikMission
  | .raiseContentSuggestion
  | .raiseContentArc
  | .sendTeamAssignmentEmail
  | .verifyPlaylistPlacement
  | .escalateEditorialPitch
  | .requestOutreachTarget
  | .requestAgentRun => .firstPartyReversible
  -- A draft with a recipient is the send itself; without one it stays inside
  -- the workspace.
  | .requestAgentContent recipientEmail recipientTargetId =>
    if recipientEmail.isSome || recipientTargetId.isSome then .thirdParty else .firstPartyReversible
  | .runPlayStep stepKind => stepKind.actionClass
  | .requestShowGrowth lever => lever.actionClass
  | .executeReleaseMilestone milestone => milestone.actionClass

/-- The levers CrowdRelay carries out itself, without an executor. -/
def ShowGrowthLever.isFirstParty : ShowGrowthLever → Bool
  | .canonicalLinkSetup
  | .fanAmbassadors
  | .freeFanChannelPush
  | .merchBuyerOffer
  | .highIntentLastMile
  | .postShowMerchFollowUp
  | .postShowRecap
  | .postShowFollowAsk => true
  | _ => false

def confirmationRecoveryTemplate : String := "crowdrelay.fan.confirmation_recovery.v1"

def isConfirmationRecovery : AutopilotActionPayload → Bool
  | .requestFanLifecycleMessage templateKey =>
    templateKey = confirmationRecoveryTemplate
  | _ => false

variable (payload : AutopilotActionPayload)

/-- Whether an external executor must file a terminal receipt for this. -/
def payloadRequiresExecutor : Bool :=
  if isConfirmationRecovery payload then
    false
  else
    match payload with
    | .requestShowGrowth lever => !lever.isFirstParty
    | .requestFanLifecycleMessage _
    | .requestMerchReorder
    | .requestBookingOutreach
    | .requestGigOutreach
    | .requestLatarnikInvite
    | .requestMerchBundle
    | .requestOutreach
    | .requestOutreachReply
    | .requestRepresentationApproach
    | .requestBookingAgentApproach
    | .requestBookingAgentApproachWave
    | .requestBookingAgentReply
    | .requestOutreachDiscovery
    | .requestBookingTargetDiscovery
    | .requestBeaconInviteBatch
    | .requestBeaconOutreach
    | .requestContentArtifact
    | .escalateShowTask
    | .requestPromotionBudgetChange
    | .applyLiveOpportunity
    | .verifyPlaylistPlacement
    | .counterLiveOpportunityTerms
    | .acceptLiveOpportunityTerms
    | .issueCounterpartyReport
    | .prepareFundingPackage
    | .submitFundingApplication
    | .runPlayStep _
    | .sendTeamAssignmentEmail => true
    | _ => false

def requiresTerminalReceipt : Bool :=
  payloadRequiresExecutor payload &&
    match payload with
    | .requestCommunityEngagement
    | .runPlayStep _
    | .escalateShowTask => false
    | _ => true

end CrowdRelay
