import CrowdRelay.CeilingPaths
import CrowdRelay.PromotionBudget

namespace CrowdRelay

open MachineInt Ranged

/-!
# The attendance ladder of a show

Which lever of a show is due, from first-party facts alone.  The levers form a
ladder: the first that is due and was not requested yet is the only one the
evaluation names.
-/

structure ShowGrowthHistory where
  canonicalLinkSetupRequested : Bool
  freeListingSweepRequested : Bool
  audienceCaptureSetupRequested : Bool
  partnerCrossPromoRequested : Bool
  grassrootsSceneRelayRequested : Bool
  fanAmbassadorsRequested : Bool
  socialProofRelayRequested : Bool
  freeFanChannelPushRequested : Bool
  merchBuyerOfferRequested : Bool
  highIntentLastMileRequested : Bool
  postShowMerchRequested : Bool
  postShowFollowAskRequested : Bool
  postShowRecapRequested : Bool
  deriving Repr, DecidableEq

namespace ShowGrowthHistory

def empty : ShowGrowthHistory :=
  ⟨false, false, false, false, false, false, false, false, false, false, false, false, false⟩

def requested
    (history : ShowGrowthHistory) : ShowGrowthLever → Bool
  | .canonicalLinkSetup => history.canonicalLinkSetupRequested
  | .freeListingSweep => history.freeListingSweepRequested
  | .audienceCaptureSetup => history.audienceCaptureSetupRequested
  | .partnerCrossPromo => history.partnerCrossPromoRequested
  | .grassrootsSceneRelay => history.grassrootsSceneRelayRequested
  | .fanAmbassadors => history.fanAmbassadorsRequested
  | .socialProofRelay => history.socialProofRelayRequested
  | .freeFanChannelPush => history.freeFanChannelPushRequested
  | .merchBuyerOffer => history.merchBuyerOfferRequested
  | .highIntentLastMile => history.highIntentLastMileRequested
  | .postShowMerchFollowUp => history.postShowMerchRequested
  | .postShowRecap => history.postShowRecapRequested
  | .postShowFollowAsk => history.postShowFollowAskRequested

variable (history : ShowGrowthHistory)

def markRequested : ShowGrowthLever → ShowGrowthHistory
  | .canonicalLinkSetup => { history with canonicalLinkSetupRequested := true }
  | .freeListingSweep => { history with freeListingSweepRequested := true }
  | .audienceCaptureSetup => { history with audienceCaptureSetupRequested := true }
  | .partnerCrossPromo => { history with partnerCrossPromoRequested := true }
  | .grassrootsSceneRelay => { history with grassrootsSceneRelayRequested := true }
  | .fanAmbassadors => { history with fanAmbassadorsRequested := true }
  | .socialProofRelay => { history with socialProofRelayRequested := true }
  | .freeFanChannelPush => { history with freeFanChannelPushRequested := true }
  | .merchBuyerOffer => { history with merchBuyerOfferRequested := true }
  | .highIntentLastMile => { history with highIntentLastMileRequested := true }
  | .postShowMerchFollowUp => { history with postShowMerchRequested := true }
  | .postShowRecap => { history with postShowRecapRequested := true }
  | .postShowFollowAsk => { history with postShowFollowAskRequested := true }

@[simp] theorem requested_markRequested (marked lever : ShowGrowthLever) :
    (history.markRequested marked).requested lever =
      (decide (lever = marked) || history.requested lever) := by
  cases marked <;> cases lever <;> rfl

end ShowGrowthHistory

structure ShowGrowthSnapshot where
  eventId : Uuid
  published : Bool
  communicationEnabled : Bool
  startsAt : OffsetDateTime
  /-- Zero where the capacity is unknown. -/
  capacity : U32
  paidTickets : U32
  paidBuyers : U32
  paidTicketsLast7d : U32
  interestedFans : U32
  citySignalFans : U32
  qualifiedReferrersInCity : U32
  beaconPartners : U16
  humanBookingTargets30d : U32
  attendees : U32
  morningAfterSendAt : Option OffsetDateTime
  /-- No inbound edge of the show has ever been reciprocated. -/
  unreciprocatedCrossbillEdge : Bool
  ladderApproved : Bool
  history : ShowGrowthHistory
  deriving Repr, DecidableEq

def ShowGrowthSnapshot.markRequested (snapshot : ShowGrowthSnapshot)
    (lever : ShowGrowthLever) : ShowGrowthSnapshot :=
  { snapshot with history := snapshot.history.markRequested lever }

structure ShowGrowthPolicy where
  lookaheadDays : U32
  freeListingLeadDays : U32
  audienceCaptureLeadDays : U32
  partnerCrossPromoLeadDays : U32
  grassrootsSceneRelayLeadDays : U32
  fanAmbassadorLeadDays : U32
  socialProofLeadDays : U32
  freeFanChannelPushLeadDays : U32
  merchPreorderLeadDays : U32
  lastMileLeadDays : U32
  postShowMerchHours : U32
  postShowRecapHours : U32
  postShowFollowAskHours : U32
  minimumCitySignalFans : U32
  minimumReferrersForAmbassadorPush : U32
  minimumPaidBuyersForMerchOffer : U32
  minimumUnconvertedInterest : U32
  minimumAttendeesForPostShowMerch : U32
  minimumAttendeesForRecap : U32
  minimumAttendeesForFollowAsk : U32
  targetSold28dBasisPoints : U16
  targetSold14dBasisPoints : U16
  targetSold7dBasisPoints : U16
  deriving Repr, DecidableEq

def ShowGrowthPolicy.default : ShowGrowthPolicy where
  lookaheadDays := 60
  freeListingLeadDays := 56
  audienceCaptureLeadDays := 52
  partnerCrossPromoLeadDays := 49
  grassrootsSceneRelayLeadDays := 42
  fanAmbassadorLeadDays := 35
  socialProofLeadDays := 21
  freeFanChannelPushLeadDays := 18
  merchPreorderLeadDays := 14
  lastMileLeadDays := 10
  postShowMerchHours := 36
  postShowRecapHours := 30
  postShowFollowAskHours := 72
  minimumCitySignalFans := 5
  minimumReferrersForAmbassadorPush := 1
  minimumPaidBuyersForMerchOffer := 2
  minimumUnconvertedInterest := 3
  minimumAttendeesForPostShowMerch := 3
  minimumAttendeesForRecap := 1
  minimumAttendeesForFollowAsk := 1
  targetSold28dBasisPoints := 1500
  targetSold14dBasisPoints := 3000
  targetSold7dBasisPoints := 4500

def validShowGrowthPolicy (policy : ShowGrowthPolicy) : Bool :=
  policy.lookaheadDays ≥ policy.freeListingLeadDays &&
    policy.freeListingLeadDays ≥ policy.audienceCaptureLeadDays &&
    policy.audienceCaptureLeadDays ≥ policy.partnerCrossPromoLeadDays &&
    policy.partnerCrossPromoLeadDays ≥ policy.grassrootsSceneRelayLeadDays &&
    policy.grassrootsSceneRelayLeadDays ≥ policy.fanAmbassadorLeadDays &&
    policy.fanAmbassadorLeadDays ≥ policy.socialProofLeadDays &&
    policy.socialProofLeadDays ≥ policy.freeFanChannelPushLeadDays &&
    policy.freeFanChannelPushLeadDays ≥ policy.merchPreorderLeadDays &&
    policy.merchPreorderLeadDays ≥ policy.lastMileLeadDays &&
    policy.lastMileLeadDays > 0 &&
    policy.postShowMerchHours > 0 &&
    policy.postShowRecapHours > 0 &&
    policy.postShowRecapHours ≤ policy.postShowMerchHours &&
    policy.postShowFollowAskHours ≥ policy.postShowMerchHours &&
    policy.minimumAttendeesForRecap > 0 &&
    policy.minimumAttendeesForFollowAsk > 0 &&
    policy.minimumCitySignalFans > 0 &&
    policy.minimumPaidBuyersForMerchOffer > 0 &&
    policy.minimumUnconvertedInterest > 0 &&
    policy.minimumAttendeesForPostShowMerch > 0 &&
    policy.targetSold28dBasisPoints ≤ policy.targetSold14dBasisPoints &&
    policy.targetSold14dBasisPoints ≤ policy.targetSold7dBasisPoints &&
    policy.targetSold7dBasisPoints ≤ 10000

example : validShowGrowthPolicy .default = true := by
  decide +kernel

inductive ShowGrowthHoldReason where
  | invalidPolicy
  | invalidSnapshot
  | unpublished
  | communicationDisabled
  | tooEarly
  | unreciprocatedCrossbill
  | notDue
  deriving Repr, DecidableEq

inductive ShowGrowthDecision where
  | hold (reason : ShowGrowthHoldReason)
  /-- `sendAt` is when the action should reach people; `none` means now. -/
  | request
      (lever : ShowGrowthLever)
      (confidence : Confidence)
      (sendAt : Option OffsetDateTime)
  deriving Repr, DecidableEq

/-! ## The evaluation -/

def soldBasisPoints (snapshot : ShowGrowthSnapshot) : Option Int :=
  if snapshot.capacity = 0 then
    none
  else
    some (min (snapshot.paidTickets.val * 10000 / snapshot.capacity.val) 10000)

variable (snapshot : ShowGrowthSnapshot) (policy : ShowGrowthPolicy) (days : Int)

def behindSalesPace : Bool :=
  match soldBasisPoints snapshot with
  | none => days ≤ 14 && snapshot.paidTicketsLast7d = 0
  | some sold =>
    let target : Int :=
      if days ≤ 7 then
        policy.targetSold7dBasisPoints.val
      else if days ≤ 14 then
        policy.targetSold14dBasisPoints.val
      else if days ≤ 28 then
        policy.targetSold28dBasisPoints.val
      else
        0
    0 < target && sold < target

def wholeDays (duration : Int) : Int := duration / nanosPerDay

def followAskSendAt : OffsetDateTime :=
  snapshot.startsAt + policy.postShowFollowAskHours.val * nanosPerHour

variable (now : OffsetDateTime)

/-- The levers after the show, each with a window of its own. -/
def evaluatePostShow : ShowGrowthDecision :=
  let sinceShow := now - snapshot.startsAt
  if sinceShow ≤ policy.postShowRecapHours.val * nanosPerHour &&
      !snapshot.history.postShowRecapRequested &&
      snapshot.communicationEnabled &&
      snapshot.attendees ≥ policy.minimumAttendeesForRecap then
    .request .postShowRecap 9100 snapshot.morningAfterSendAt
  else if sinceShow ≤ policy.postShowMerchHours.val * nanosPerHour &&
      !snapshot.history.postShowMerchRequested &&
      snapshot.communicationEnabled &&
      snapshot.attendees ≥ policy.minimumAttendeesForPostShowMerch then
    .request .postShowMerchFollowUp 9200 none
  else if sinceShow ≤ policy.postShowFollowAskHours.val * nanosPerHour &&
      !snapshot.history.postShowFollowAskRequested &&
      snapshot.communicationEnabled &&
      snapshot.attendees ≥ policy.minimumAttendeesForFollowAsk then
    .request .postShowFollowAsk 9400 (some (followAskSendAt snapshot policy))
  else
    .hold .notDue

/-- The levers before the show, each with a lead time of its own. -/
def evaluatePreShow : ShowGrowthDecision :=
  let behind := behindSalesPace snapshot policy days
  let unconverted := snapshot.interestedFans.saturatingSub snapshot.paidBuyers
  if !snapshot.history.canonicalLinkSetupRequested then
    .request .canonicalLinkSetup 9800 none
  else if days ≤ policy.freeListingLeadDays.val &&
      !snapshot.history.freeListingSweepRequested then
    .request .freeListingSweep 9500 none
  else if days ≤ policy.audienceCaptureLeadDays.val &&
      !snapshot.history.audienceCaptureSetupRequested then
    .request .audienceCaptureSetup 9450 none
  else if days ≤ policy.partnerCrossPromoLeadDays.val &&
      !snapshot.history.partnerCrossPromoRequested then
    -- Reciprocity is a hard gate: the hold names the lever it is for.
    if snapshot.unreciprocatedCrossbillEdge then
      .hold .unreciprocatedCrossbill
    else
      .request .partnerCrossPromo 9400 none
  else if days ≤ policy.grassrootsSceneRelayLeadDays.val &&
      !snapshot.history.grassrootsSceneRelayRequested then
    .request .grassrootsSceneRelay 9350 none
  else if days ≤ policy.fanAmbassadorLeadDays.val &&
      !snapshot.history.fanAmbassadorsRequested &&
      snapshot.communicationEnabled &&
      snapshot.citySignalFans ≥ policy.minimumCitySignalFans &&
      snapshot.qualifiedReferrersInCity ≥ policy.minimumReferrersForAmbassadorPush then
    .request .fanAmbassadors 9100 none
  else if days ≤ policy.socialProofLeadDays.val &&
      !snapshot.history.socialProofRelayRequested &&
      behind then
    .request .socialProofRelay 8900 none
  else if days ≤ policy.freeFanChannelPushLeadDays.val &&
      !snapshot.history.freeFanChannelPushRequested then
    .request .freeFanChannelPush 9250 none
  else if days ≤ policy.merchPreorderLeadDays.val &&
      !snapshot.history.merchBuyerOfferRequested &&
      snapshot.communicationEnabled &&
      snapshot.paidBuyers ≥ policy.minimumPaidBuyersForMerchOffer then
    .request .merchBuyerOffer 9300 none
  else if days ≤ policy.lastMileLeadDays.val &&
      !snapshot.history.highIntentLastMileRequested &&
      snapshot.communicationEnabled &&
      behind &&
      unconverted ≥ policy.minimumUnconvertedInterest then
    .request .highIntentLastMile 9500 none
  else
    .hold .notDue

@[irreducible] def evaluateShowGrowth : ShowGrowthDecision :=
  if !validShowGrowthPolicy policy then
    .hold .invalidPolicy
  else if snapshot.paidTickets > snapshot.capacity &&
      snapshot.capacity > 0 then
    .hold .invalidSnapshot
  else if !snapshot.published then
    .hold .unpublished
  else
    let untilShow := snapshot.startsAt - now
    if untilShow ≤ 0 then
      evaluatePostShow snapshot policy now
    else
      let days := wholeDays untilShow
      if days > policy.lookaheadDays.val then
        .hold .tooEarly
      else
        evaluatePreShow snapshot policy days

/-! ## Passing over -/

/-- Failed attempts at one lever before the ladder passes over it. -/
def maxLeverAttempts : U32 := 3

section PassingOver

variable (policy : ShowGrowthPolicy) (now : OffsetDateTime) (passOver : ShowGrowthLever → Bool)

/--
Masks the lever that is due for as long as it is one to pass over; `none` only
where the given number of rounds does not suffice.
-/
def passOverLoop :
    Nat → ShowGrowthSnapshot → List ShowGrowthLever →
      Option (ShowGrowthDecision × List ShowGrowthLever)
  | 0, _, _ => none
  | rounds + 1, masked, passedOver =>
    match evaluateShowGrowth masked policy now with
    | .request lever confidence sendAt =>
      if passOver lever && !passedOver.contains lever then
        passOverLoop rounds (masked.markRequested lever) (passedOver ++ [lever])
      else
        some (.request lever confidence sendAt, passedOver)
    | .hold reason => some (.hold reason, passedOver)

end PassingOver

/-- One round for each of the thirteen levers, and one to end with. -/
def evaluateShowGrowthPassingOver (passOver : ShowGrowthLever → Bool) :
    Option (ShowGrowthDecision × List ShowGrowthLever) :=
  passOverLoop policy now passOver 14 snapshot []

end CrowdRelay
