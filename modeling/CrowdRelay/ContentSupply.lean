import CrowdRelay.DecisionLedger
import CrowdRelay.PromotionBudget

namespace CrowdRelay

open MachineInt Ranged

/-!
# The content supply chain

Every source of material owes a chain of artifacts.  The evaluator asks for
one artifact of the chain at a time, and carries a synced post instead of
asking for an artifact about it.
-/

inductive ContentSourceKind where
  | event
  | release
  | showCompleted
  | video
  | story
  | socialPost
  deriving Repr, DecidableEq

inductive ContentArtifactKind where
  | signalPush
  | newsletterBlock
  | socialFeed
  | socialStory
  | liveListing
  | pressHook
  | postShowRecap
  deriving Repr, DecidableEq

inductive ReleaseTier where
  | single
  | track
  | filler
  deriving Repr, DecidableEq

/-- An artifact whose earlier requests failed, for one source version. -/
structure FailedArtifact where
  artifact : ContentArtifactKind
  failures : U32
  lastFailedAt : OffsetDateTime
  deriving Repr, DecidableEq

/-- A whole delivery lane that has stopped answering for one artifact kind. -/
structure ArtifactLaneOutage where
  artifact : ContentArtifactKind
  consecutiveFailures : U32
  lastFailedAt : OffsetDateTime
  deriving Repr, DecidableEq

/-- A surge lane whose earlier sends failed, for one source. -/
structure DropSurgeLaneFailure where
  lane : String
  failures : U32
  lastFailedAt : OffsetDateTime
  deriving Repr, DecidableEq

/-- A post's engagement against the account's own recent posts. -/
structure PostResonance where
  engagement : I64
  peerMedian : Option I64
  peers : U32
  ratePerMille : Option I64
  peerRateMedian : Option I64
  ratePeers : U32
  watchMs : Option I64
  peerWatchMedian : Option I64
  deriving Repr, DecidableEq

/-- The synced post's own facts, as the relay carries them. -/
structure SocialPostFact where
  title : String
  url : Option String
  body : Option String
  acquiredFans : U32
  resonance : Option PostResonance
  deriving Repr, DecidableEq

/-- One source with the artifacts it has, has in flight, and failed to get. -/
structure ContentSupplySnapshot where
  sourceId : Uuid
  sourceKind : ContentSourceKind
  sourceVersion : I64
  promotionExcludedPlatforms : List String
  sourceKey : String
  title : String
  sourceUrl : Option String
  sourceBody : Option String
  siteOrigin : Option String
  occurredAt : OffsetDateTime
  expiresAt : OffsetDateTime
  communicationEnabled : Option Bool
  pressEnabled : Option Bool
  releaseTier : Option ReleaseTier
  completedArtifacts : List ContentArtifactKind
  inFlightArtifacts : List ContentArtifactKind
  failedArtifacts : List FailedArtifact
  laneOutages : List ArtifactLaneOutage
  socialPost : Option SocialPostFact
  dropSurgeFailures : List DropSurgeLaneFailure
  surgeRequestedAt : Option OffsetDateTime
  deriving Repr, DecidableEq

structure ContentSupplyPolicy where
  maximumSourceAgeDays : U32
  socialPostRelayHours : U32
  postShowHarvestHours : U32
  dropSurgeHours : U32
  deriving Repr, DecidableEq

def ContentSupplyPolicy.default : ContentSupplyPolicy where
  maximumSourceAgeDays := 45
  socialPostRelayHours := 72
  postShowHarvestHours := 72
  dropSurgeHours := 72

inductive ContentSupplyHoldReason where
  | invalidSnapshot
  | staleSource
  | harvestPending
  | complete
  deriving Repr, DecidableEq

inductive ContentSupplyDecision where
  | hold (reason : ContentSupplyHoldReason)
  | request
      (artifact : ContentArtifactKind)
      (attempt : U32)
      (confidence : Confidence)
  | relay (confidence : Confidence)
  deriving Repr, DecidableEq

def nanosPerMinute : Int := 60 * 1000000000

def laneOutageThreshold : U32 := 4

def laneProbeCapMinutes : Int := 6 * 60

def maxArtifactAttempts : U32 := 3

/--
An hour after the failure that tripped the lane, doubling per further failure,
never more than six hours.
-/
def ArtifactLaneOutage.nextProbeAt
    (outage : ArtifactLaneOutage) : OffsetDateTime :=
  let doublings := min (outage.consecutiveFailures.saturatingSub laneOutageThreshold) 4
  let minutes := min (60 * 2 ^ doublings.val.toNat) laneProbeCapMinutes
  outage.lastFailedAt + minutes * nanosPerMinute

/-- The error kinds that say the destination took nothing, whatever was sent. -/
def isLaneFailure (errorKind : String) : Bool :=
  errorKind = "artifact_surface_unavailable" ||
    errorKind = "artifact_delivery_missing" ||
    errorKind = "provider_rejected"

def retryDueAt (failures : U32)
    (lastFailedAt : OffsetDateTime) : OffsetDateTime :=
  let doublings := min (failures.saturatingSub 1) 4
  lastFailedAt + 30 * 2 ^ doublings.val.toNat * nanosPerMinute

def artifactRetryDue (failed : FailedArtifact) : OffsetDateTime :=
  retryDueAt failed.failures failed.lastFailedAt

def outlierRelayHours : U32 := 168

def resonanceMinPeers : U32 := 3

/-- Whether a post did at least twice the account's usual. -/
def isOutlier (resonance : PostResonance) : Bool :=
  let byEngagement :=
    match resonance.peerMedian with
    | some median =>
      resonanceMinPeers ≤ resonance.peers && 0 < median &&
        median.saturatingMul 2 ≤ resonance.engagement
    | none => false
  match resonance.ratePerMille, resonance.peerRateMedian with
  | some rate, some peerRate =>
    if resonanceMinPeers ≤ resonance.ratePeers && 0 < peerRate then
      peerRate.saturatingMul 2 ≤ rate
    else
      byEngagement
  | _, _ => byEngagement

/-- Whether a source's own switches owe this artifact at all. -/
def contentArtifactOwed (artifact : ContentArtifactKind)
    (communicationEnabled pressEnabled : Option Bool)
    (releaseTier : Option ReleaseTier) : Bool :=
  match artifact with
  | .pressHook => pressEnabled ≠ some false && releaseTier ≠ some .filler
  | .signalPush | .newsletterBlock | .socialFeed | .socialStory
  | .postShowRecap => communicationEnabled ≠ some false
  | .liveListing => true

/-- The surfaces of an artifact obey the source's own exclusions. -/
def artifactAllowed (artifact : ContentArtifactKind)
    (excluded : List String) : Bool :=
  let allowed := fun platform : String => !excluded.contains platform
  match artifact with
  | .signalPush => allowed "signal_push"
  | .newsletterBlock => allowed "email"
  | .socialStory => allowed "instagram" || allowed "facebook"
  | .socialFeed => ["telegram", "discord", "x", "instagram", "facebook"].any allowed
  | .liveListing | .pressHook | .postShowRecap => true

def requiredArtifacts :
    ContentSourceKind → List ContentArtifactKind
  | .event =>
    [.liveListing, .pressHook, .signalPush, .socialFeed, .socialStory, .newsletterBlock]
  | .release | .video =>
    [.signalPush, .socialFeed, .socialStory, .newsletterBlock, .pressHook]
  | .showCompleted => [.postShowRecap, .socialFeed, .socialStory]
  | .story => [.socialFeed, .socialStory]
  | .socialPost => []

namespace ContentSupplySnapshot

variable (snapshot : ContentSupplySnapshot) (artifact : ContentArtifactKind)

def artifactOwed : Bool :=
  contentArtifactOwed artifact snapshot.communicationEnabled
    snapshot.pressEnabled snapshot.releaseTier

/-- The kinds that go stale by age; the others are bounded by expiry alone. -/
def ageBounded (snapshot : ContentSupplySnapshot) : Bool :=
  match snapshot.sourceKind with
  | .event | .release | .showCompleted => true
  | .video | .story | .socialPost => false

def failureOf : Option FailedArtifact :=
  snapshot.failedArtifacts.find? fun failed => failed.artifact = artifact

variable (now : OffsetDateTime)

/-- Neither given up nor waiting out the delay of its last failure. -/
def retryOpen
    (artifact : ContentArtifactKind) : Bool :=
  match snapshot.failureOf artifact with
  | none => true
  | some failed =>
    failed.failures < maxArtifactAttempts && artifactRetryDue failed ≤ now

/-- No outage holds the artifact for this source. -/
def laneOpen : Bool := !snapshot.laneOutages.any fun outage => outage.artifact = artifact

/-- What the walk along the chain asks of an artifact besides its lane. -/
def isOwedNow
    (artifact : ContentArtifactKind) : Bool :=
  snapshot.artifactOwed artifact &&
    artifactAllowed artifact snapshot.promotionExcludedPlatforms &&
    !snapshot.completedArtifacts.contains artifact &&
    !snapshot.inFlightArtifacts.contains artifact &&
    snapshot.retryOpen now artifact

/-- The walk along the chain does not skip the artifact. -/
def isRequestable
    (artifact : ContentArtifactKind) : Bool :=
  snapshot.isOwedNow now artifact && snapshot.laneOpen artifact

variable (policy : ContentSupplyPolicy)

/-- Converting posts and outliers stay relayable longer. -/
def relayHours : U32 :=
  if snapshot.socialPost.any fun post =>
      0 < post.acquiredFans || post.resonance.any isOutlier then
    max policy.socialPostRelayHours outlierRelayHours
  else
    policy.socialPostRelayHours

/-- What the evaluator answers before it looks at any artifact. -/
def holdReason
    (now : OffsetDateTime) : Option ContentSupplyHoldReason :=
  let maximumAge := (max policy.maximumSourceAgeDays 1).val * nanosPerDay
  let harvest := policy.postShowHarvestHours.val * nanosPerHour
  let age := now - snapshot.occurredAt
  if snapshot.sourceVersion ≤ 0 || now < snapshot.occurredAt ||
      snapshot.expiresAt ≤ snapshot.occurredAt then
    some .invalidSnapshot
  else if snapshot.expiresAt ≤ now ||
      (snapshot.ageBounded && maximumAge < age) then
    some .staleSource
  else if snapshot.sourceKind = .showCompleted && age < harvest then
    some .harvestPending
  else
    none

end ContentSupplySnapshot

def evaluateContentSupply (snapshot : ContentSupplySnapshot) (policy : ContentSupplyPolicy)
    (now : OffsetDateTime) : ContentSupplyDecision :=
  match snapshot.holdReason policy now with
  | some reason => .hold reason
  | none =>
    if snapshot.sourceKind = .socialPost then
      let window := (max (snapshot.relayHours policy) 1).val * nanosPerHour
      if now - snapshot.occurredAt ≤ window && snapshot.socialPost.isSome then
        .relay 9000
      else
        .hold .complete
    else
      match (requiredArtifacts snapshot.sourceKind).find? (snapshot.isRequestable now) with
      | some artifact =>
        .request artifact
          ((snapshot.failureOf artifact).elim 0 FailedArtifact.failures)
          9500
      | none => .hold .complete

/--
The source would ask for the artifact if its lane were up: the source is live,
the artifact is in the chain of its kind and neither switched off, excluded,
done, in flight, given up nor waiting out a retry.
-/
def ContentSupplySnapshot.wouldRequest (snapshot : ContentSupplySnapshot)
    (policy : ContentSupplyPolicy) (now : OffsetDateTime)
    (artifact : ContentArtifactKind) : Bool :=
  snapshot.holdReason policy now = none &&
    (requiredArtifacts snapshot.sourceKind).contains artifact &&
    snapshot.isOwedNow now artifact

variable {snapshot : ContentSupplySnapshot} {policy : ContentSupplyPolicy}
  {now : OffsetDateTime} {artifact : ContentArtifactKind}

theorem sourceKind_ne_of_wouldRequest
    (eligible : snapshot.wouldRequest policy now artifact = true) :
    snapshot.sourceKind ≠ .socialPost := by
  intro isPost
  simp [ContentSupplySnapshot.wouldRequest, isPost, requiredArtifacts] at eligible

/--
The evaluator asks for an artifact exactly when the source would, the lane is
open, and the walk along the chain skips all that comes before.
-/
theorem evaluate_request_iff {attempt : U32} {confidence : Confidence} :
    evaluateContentSupply snapshot policy now = .request artifact attempt confidence ↔
      snapshot.wouldRequest policy now artifact = true ∧
        (requiredArtifacts snapshot.sourceKind).find? (snapshot.isRequestable now) = some artifact ∧
        attempt = (snapshot.failureOf artifact).elim 0 FailedArtifact.failures ∧
        confidence = 9500 := by
  constructor
  · intro asked
    unfold evaluateContentSupply at asked
    split at asked
    · cases asked
    · rename_i isLive
      split at asked
      · dsimp only at asked
        split at asked <;> cases asked
      · split at asked
        · rename_i found
          cases asked
          have inChain := List.mem_of_find?_eq_some found
          have requestable := List.find?_some found
          simp only [ContentSupplySnapshot.isRequestable, Bool.and_eq_true] at requestable
          refine ⟨?_, found, rfl, rfl⟩
          simp [ContentSupplySnapshot.wouldRequest, isLive, inChain, requestable.1]
        · cases asked
  · rintro ⟨eligible, found, rfl, rfl⟩
    have noPost := sourceKind_ne_of_wouldRequest eligible
    simp only [ContentSupplySnapshot.wouldRequest, Bool.and_eq_true, decide_eq_true_eq] at eligible
    simp only [evaluateContentSupply, eligible.1.1, if_neg noPost, found]

/--
A source that would ask for an artifact, and finds its lane open, asks: for
this artifact, or for one that comes before it in its chain.
-/
theorem asks_of_wouldRequest (eligible : snapshot.wouldRequest policy now artifact = true)
    (isOpen : snapshot.laneOpen artifact = true) :
    ∃ before requested after attempt,
      requiredArtifacts snapshot.sourceKind = before ++ requested :: after ∧
        artifact ∉ before ∧
        evaluateContentSupply snapshot policy now = .request requested attempt 9500 := by
  simp only [ContentSupplySnapshot.wouldRequest, Bool.and_eq_true,
    decide_eq_true_eq, List.contains_eq_mem] at eligible
  obtain ⟨⟨isLive, inChain⟩, owed⟩ := eligible
  have requestable : snapshot.isRequestable now artifact = true := by
    simp [ContentSupplySnapshot.isRequestable, owed, isOpen]
  cases found : (requiredArtifacts snapshot.sourceKind).find? (snapshot.isRequestable now) with
  | none => exact absurd requestable (List.find?_eq_none.mp found artifact inChain)
  | some requested =>
    obtain ⟨-, before, after, shape, skipped⟩ := List.find?_eq_some_iff_append.mp found
    refine ⟨before, requested, after, (snapshot.failureOf requested).elim 0 FailedArtifact.failures,
      shape, ?_, ?_⟩
    · intro isEarlier
      have isSkipped := skipped artifact isEarlier
      rw [requestable] at isSkipped
      cases isSkipped
    · have asked := List.find?_some found
      simp only [ContentSupplySnapshot.isRequestable, Bool.and_eq_true] at asked
      refine evaluate_request_iff.mpr ⟨?_, found, rfl, rfl⟩
      simp [ContentSupplySnapshot.wouldRequest, isLive, asked.1, List.mem_of_find?_eq_some found]

section WorkingOff

variable (policy : ContentSupplyPolicy) (now : OffsetDateTime)

/-- The source once an artifact is done. -/
def ContentSupplySnapshot.completing (snapshot : ContentSupplySnapshot)
    (artifact : ContentArtifactKind) : ContentSupplySnapshot :=
  { snapshot with completedArtifacts := artifact :: snapshot.completedArtifacts }

/-- What a source is asked for in some looks, each answer done by the next. -/
def askedInTurn : Nat → ContentSupplySnapshot → List ContentArtifactKind
  | 0, _ => []
  | looks + 1, snapshot =>
    match evaluateContentSupply snapshot policy now with
    | .request artifact _ _ => artifact :: askedInTurn looks (snapshot.completing artifact)
    | .hold _ | .relay _ => []

theorem isRequestable_completing (snapshot : ContentSupplySnapshot)
    (done artifact : ContentArtifactKind) :
    (snapshot.completing done).isRequestable now artifact =
      (snapshot.isRequestable now artifact && artifact != done) := by
  have sameRetry :
      (snapshot.completing done).retryOpen now artifact = snapshot.retryOpen now artifact := rfl
  unfold ContentSupplySnapshot.isRequestable ContentSupplySnapshot.isOwedNow
  rw [sameRetry]
  simp only [ContentSupplySnapshot.completing, ContentSupplySnapshot.artifactOwed,
    ContentSupplySnapshot.laneOpen, List.contains_cons, bne]
  cases artifact == done <;> simp

/-- The first artifact found leaves the rest of the chain to the later looks. -/
theorem filter_eq_cons_of_find? {chain : List ContentArtifactKind} (once : chain.Nodup)
    {asks : ContentArtifactKind → Bool} {artifact : ContentArtifactKind}
    (found : chain.find? asks = some artifact) :
    chain.filter asks = artifact :: chain.filter fun other => asks other && other != artifact := by
  obtain ⟨isAsked, before, after, rfl, skipped⟩ := List.find?_eq_some_iff_append.mp found
  have noneBefore : ∀ narrower : ContentArtifactKind → Bool,
      (∀ other, narrower other = true → asks other = true) → before.filter narrower = [] := by
    intro narrower narrows
    refine List.filter_eq_nil_iff.mpr fun other isEarlier isTaken => ?_
    have isSkipped := skipped other isEarlier
    rw [narrows other isTaken] at isSkipped
    cases isSkipped
  have absent : artifact ∉ after := (List.nodup_cons.mp (List.nodup_append.mp once).2.1).1
  rw [List.filter_append, List.filter_append, noneBefore asks fun _ => id,
    noneBefore _ fun other both => (Bool.and_eq_true_iff.mp both).1,
    List.filter_cons_of_pos isAsked, List.filter_cons_of_neg (by simp)]
  refine congrArg (List.cons artifact) (List.filter_congr fun other isLater => ?_)
  have differs : other ≠ artifact := fun same => absent (same ▸ isLater)
  simp [differs]

end WorkingOff

/-- A live source whose artifacts are done one by one is asked for those its
chain owes, in the order of the chain and once each; then it is complete. -/
theorem askedInTurn_eq (policy : ContentSupplyPolicy) (now : OffsetDateTime) (looks : Nat)
    (snapshot : ContentSupplySnapshot) :
    askedInTurn policy now looks snapshot =
      if snapshot.holdReason policy now = none then
        ((requiredArtifacts snapshot.sourceKind).filter (snapshot.isRequestable now)).take looks
      else
        [] := by
  induction looks generalizing snapshot with
  | zero => rw [askedInTurn, List.take_zero, ite_self]
  | succ looks inductionHypothesis =>
    have once : (requiredArtifacts snapshot.sourceKind).Nodup := by
      cases snapshot.sourceKind <;> decide
    rw [askedInTurn]
    unfold evaluateContentSupply
    cases isHeld : snapshot.holdReason policy now with
    | some reason => simp
    | none =>
      by_cases isPost : snapshot.sourceKind = .socialPost
      · rw [if_pos rfl, isPost]
        dsimp only
        rw [if_pos rfl]
        split_ifs <;> rfl
      · dsimp only
        rw [if_neg isPost, if_pos rfl]
        cases found : (requiredArtifacts snapshot.sourceKind).find?
            (snapshot.isRequestable now) with
        | none =>
          have nothing := List.filter_eq_nil_iff.mpr (List.find?_eq_none.mp found)
          rw [nothing]
          rfl
        | some artifact =>
          have sameChain : (snapshot.completing artifact).holdReason policy now = none := isHeld
          dsimp only
          rw [inductionHypothesis, if_pos sameChain, filter_eq_cons_of_find? once found,
            List.take_succ_cons]
          congr 2
          exact List.filter_congr fun other _ => isRequestable_completing now snapshot artifact other

end CrowdRelay
