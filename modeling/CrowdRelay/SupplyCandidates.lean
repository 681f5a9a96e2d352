import CrowdRelay.ContentSupply
import CrowdRelay.CeilingPaths
import CrowdRelay.DropLinks

namespace CrowdRelay

open TextScan

/-!
# The pacing of relay pushes

One relay push carries one post to the phones of the fans.  The verdict reads
the pushes already raised: no words twice, and a gap between any two.
-/

/-- What a string library knows of letters and digits. -/
structure LetterTables where
  isAlphanumeric : Char → Bool
  toLowercase : Char → List Char

section Words

/-- The words of a text, as whitespace separates them. -/
def splitWhitespace (text : List Char) : List (List Char) :=
  (text.splitOnP isWhitespace).filter fun word => !word.isEmpty

def isLink (word : List Char) : Bool :=
  "http://".toList.isPrefixOf word || "https://".toList.isPrefixOf word

variable (letters : LetterTables)

/-- The words a relay carries, without links, case and punctuation. -/
def relayWords (title body : String) : List Char :=
  ((splitWhitespace (title.toList ++ ' ' :: body.toList)).filter
    fun word => !isLink word).flatMap fun word =>
      (word.filter letters.isAlphanumeric).flatMap letters.toLowercase

end Words

def relayPushMinGapHours : Int := 12

def relayPushDedupeDays : Int := 7

def relayTitleMinChars : Nat := 20

structure RecentRelayPush where
  atTime : OffsetDateTime
  title : String
  body : String
  deriving Repr, DecidableEq

inductive RelayPushVerdict where
  | send
  | alreadyRelayed
  | tooSoon
  deriving Repr, DecidableEq

section Verdict

variable (letters : LetterTables) (title body : String)

/-- Two texts say the same: word by word, or by a title that is long enough. -/
def sameRelay
    (push : RecentRelayPush) : Bool :=
  relayWords letters push.title push.body = relayWords letters title body ||
    (relayTitleMinChars ≤ (relayWords letters title "").length &&
      relayWords letters push.title "" = relayWords letters title "")

def relayPushVerdict (recent : List RecentRelayPush)
    (now : OffsetDateTime) : RelayPushVerdict :=
  let remembered := now - relayPushDedupeDays * nanosPerDay
  let gap := relayPushMinGapHours * nanosPerHour
  if !(relayWords letters title body).isEmpty &&
      recent.any fun push =>
        remembered ≤ push.atTime && sameRelay letters title body push then
    .alreadyRelayed
  else if recent.any fun push => now - push.atTime < gap then
    .tooSoon
  else
    .send

end Verdict

theorem relayWords_eq_append (letters : LetterTables) (title body : String) :
    relayWords letters title body = relayWords letters title "" ++ relayWords letters body "" := by
  have split : ∀ text rest : List Char,
      splitWhitespace (text ++ ' ' :: rest) = splitWhitespace text ++ splitWhitespace rest := by
    intro text rest
    unfold splitWhitespace
    rw [List.splitOnP_append_cons _ _ (by decide), List.filter_append]
  have nothing : splitWhitespace [] = [] := rfl
  unfold relayWords
  rw [split, split, split, String.toList_empty, nothing, List.append_nil,
    List.append_nil, List.filter_append, List.flatMap_append]

/--
The first push was raised well before the second; within the remembered days
it carries neither the same words, if there are any, nor the same long title.
-/
structure PacedBefore
    (letters : LetterTables)
    (first second : RecentRelayPush) : Prop where
  gap :
    relayPushMinGapHours * nanosPerHour ≤ second.atTime - first.atTime
  otherWords :
    second.atTime - first.atTime ≤ relayPushDedupeDays * nanosPerDay →
    relayWords letters second.title second.body ≠ [] →
    relayWords letters first.title first.body ≠
      relayWords letters second.title second.body
  otherTitle :
    second.atTime - first.atTime ≤ relayPushDedupeDays * nanosPerDay →
    relayTitleMinChars ≤ (relayWords letters second.title "").length →
    relayWords letters first.title "" ≠ relayWords letters second.title ""

variable {letters : LetterTables}

theorem relayWords_ne_nil_of_title {title : String}
    (isLong : relayTitleMinChars ≤ (relayWords letters title "").length) (body : String) :
    relayWords letters title body ≠ [] := by
  intro noWords
  rw [relayWords_eq_append, List.append_eq_nil_iff] at noWords
  rw [noWords.1] at isLong
  exact absurd isLong (by decide)

/-- A push may be sent exactly when it keeps its distance to all that is read. -/
theorem relayPushVerdict_eq_send_iff {title body : String} {recent : List RecentRelayPush}
    {now : OffsetDateTime} :
    relayPushVerdict letters title body recent now = .send ↔
      ∀ push ∈ recent, PacedBefore letters push ⟨now, title, body⟩ := by
  unfold relayPushVerdict
  dsimp only
  constructor
  · intro sent push isRecent
    split at sent
    · cases sent
    · rename_i newWords
      split at sent
      · cases sent
      · rename_i farApart
        simp only [List.any_eq_true, decide_eq_true_eq, not_exists, not_and, Int.not_lt] at farApart
        have differs :
            now - push.atTime ≤ relayPushDedupeDays * nanosPerDay →
            relayWords letters title body ≠ [] →
            sameRelay letters title body push = false := by
          intro isRemembered saysSomething
          by_contra repeated
          refine newWords ?_
          simp only [Bool.and_eq_true, Bool.not_eq_true',
            List.isEmpty_eq_false_iff, List.any_eq_true, decide_eq_true_eq]
          exact ⟨saysSomething, push, isRecent,
            Int.sub_le_of_sub_le isRemembered, by simpa using repeated⟩
        refine ⟨farApart push isRecent, ?_, ?_⟩
        · intro isRemembered saysSomething sameWords
          have differ := differs isRemembered saysSomething
          simp [sameRelay, sameWords] at differ
        · intro isRemembered isLong sameTitle
          have differ := differs isRemembered (relayWords_ne_nil_of_title isLong body)
          simp only [sameRelay, sameTitle, isLong, decide_true, Bool.and_self,
            Bool.or_true] at differ
          cases differ
  · intro paced
    rw [if_neg, if_neg]
    · simp only [List.any_eq_true, decide_eq_true_eq, not_exists, not_and,
        Int.not_lt]
      exact fun push isRecent => (paced push isRecent).gap
    · simp only [Bool.and_eq_true, Bool.not_eq_true',
        List.isEmpty_eq_false_iff, List.any_eq_true, decide_eq_true_eq]
      rintro ⟨saysSomething, push, isRecent, isRemembered, repeated⟩
      have within := Int.sub_le_of_sub_le isRemembered
      simp only [sameRelay, Bool.or_eq_true, Bool.and_eq_true, decide_eq_true_eq] at repeated
      rcases repeated with sameWords | ⟨isLong, sameTitle⟩
      · exact (paced push isRecent).otherWords within saysSomething sameWords
      · exact (paced push isRecent).otherTitle within isLong sameTitle

open MachineInt Ranged

/-!
## What the content supply proposes

A fresh video or release fans out to every lane of the drop surge, a synced
post is carried to the fans and to the communities it resonates for, and every
other source is asked for one artifact of its chain.
-/

/-! ## Candidates -/

inductive SupplyDecisionKind where
  | dropSurgeFanout
  | relayOwnedPost
  | requestContentArtifact
  deriving Repr, DecidableEq

/-- The payload of a candidate, as far as the arm reads it. -/
inductive SupplyContent where
  | signalPush (title body : String)
  | sourceCampaign
  | agentContent (templateId platform : Option String)
  | agentRun (templateId : String)
  | communityEngagement
  | contentArtifact (artifact : ContentArtifactKind)
  deriving Repr, DecidableEq

def SupplyContent.payload : SupplyContent → AutopilotActionPayload
  | .signalPush _ _ => .requestSignalPush
  | .sourceCampaign => .requestSourceCampaign
  | .agentContent _ _ => .requestAgentContent none none
  | .agentRun _ => .requestAgentRun
  | .communityEngagement => .requestCommunityEngagement
  | .contentArtifact _ => .requestContentArtifact

/-- A pattern without `%`; an underscore stands for any one character. -/
def matchesPattern : List Char → List Char → Bool
  | [], [] => true
  | expected :: pattern, found :: text =>
    (expected = '_' || expected = found) && matchesPattern pattern text
  | [], _ :: _ => false
  | _ :: _, [] => false

def relayKeyHead : String := "action:relay:"

def relayKeyTail : String := ":signal_push"

def isRelayPushKey (key : String) : Bool :=
  let text := key.toList
  let tail := relayKeyTail.toList
  relayKeyHead.toList.isPrefixOf text &&
    relayKeyHead.length + tail.length ≤ text.length &&
    matchesPattern tail (text.drop (text.length - tail.length))

/--
A candidate of the content supply.  A relay push goes to the fans, never to a
community, and its key is one the pacing finds again.
-/
structure SupplyCandidate where
  subject : ActionSubject
  decisionKind : SupplyDecisionKind
  disposition : PolicyDisposition
  policySnapshot : JsonValue
  content : SupplyContent
  decisionKey : String
  actionIdempotencyKey : String
  relayPush :
    ∀ title body,
      content = .signalPush title body →
      decisionKind = .relayOwnedPost →
      (∀ id, subject ≠ .targetCommunity id) ∧
        isRelayPushKey actionIdempotencyKey = true

def SupplyCandidate.toDecisionCandidate
    (candidate : SupplyCandidate) : DecisionCandidate where
  context := .contentSupply
  subject := candidate.subject
  disposition := candidate.disposition
  policySnapshot := candidate.policySnapshot
  action := candidate.content.payload
  decisionKey := candidate.decisionKey
  actionIdempotencyKey := candidate.actionIdempotencyKey

/-! ## Texts -/

section Texts

variable (letters : LetterTables)

def joinWords (words : List (List Char)) : List Char := [' '].intercalate words

/-- Words are taken for as long as the next one fits the budget. -/
def wordsWithin (budget : Nat) :
    List Char → List (List Char) → List Char
  | taken, [] => taken
  | taken, word :: rest =>
    let next := if taken.isEmpty then word else taken ++ ' ' :: word
    if budget < next.length then taken else wordsWithin budget next rest

/-- The text on one line, cut at a word boundary, with an ellipsis if cut. -/
def lockScreenLine (text : List Char) (max : Nat) : List Char :=
  let words := splitWhitespace text
  let flat := joinWords words
  if flat.length ≤ max then
    flat
  else
    let budget := max - 1
    let cut := wordsWithin budget [] words
    (if cut.isEmpty then flat.take budget else cut) ++ ['…']

/-- Hashtags and handles go, and every line that says nothing without them. -/
def stripFeedMarkup (caption : List Char) : List Char :=
  joinWords
    (((caption.splitOnP fun character => character = '\n').map fun line =>
      joinWords
        ((splitWhitespace line).filter fun word =>
          !(['#'].isPrefixOf word) && !(['@'].isPrefixOf word))).filter
      fun line => line.any letters.isAlphanumeric)

def relayPushTitleMax : Nat := 80

def relayPushBodyMax : Nat := 200

/-- A caption reduced to what fits a lock screen beside the permalink. -/
def lockScreenBody (caption : String)
    (url : Option String) : String :=
  let room := url.elim relayPushBodyMax fun link => relayPushBodyMax - (link.length + 2)
  let text := lockScreenLine (stripFeedMarkup letters caption.toList) room
  match url with
  | some link => if text.isEmpty then link else String.ofList text ++ "\n\n" ++ link
  | none => String.ofList text

/-- The band's own title and description, within the bounds of the lane. -/
def surgeCaption (snapshot : ContentSupplySnapshot)
    (max : Nat) : String :=
  let title := trim snapshot.title.toList
  let body := snapshot.sourceBody.elim [] fun body => stripFeedMarkup letters body.toList
  let text :=
    if body.isEmpty then
      title
    else if title.isEmpty then
      body
    else
      title ++ '\n' :: '\n' :: body
  String.ofList (lockScreenLine text max)

def relativeDayFreshHours : Int := 12

def relativeDayWords : List String :=
  ["dzisiaj", "dziś", "dzis", "dzisiejszy", "dzisiejsza", "dzisiejsze",
    "wieczorem", "jutro", "today", "tonight", "tomorrow"]

/-- The words tie the post to the day it was written, and that has passed. -/
def relativeDayHasPassed (text : String)
    (occurredAt now : OffsetDateTime) : Bool :=
  relativeDayFreshHours * nanosPerHour < now - occurredAt &&
    ((text.toList.flatMap letters.toLowercase).splitOnP
      fun character => !letters.isAlphanumeric character).any
      fun word => relativeDayWords.contains (String.ofList word)

end Texts

/-! ## The drop surge -/

def dropSurgeMaxAttempts : U32 := maxArtifactAttempts

variable (snapshot : ContentSupplySnapshot)

/-- A fresh video or release with a link, its communication not switched off. -/
def dropSurgeEligible (policy : ContentSupplyPolicy)
    (now : OffsetDateTime) : Bool :=
  let window := (max policy.dropSurgeHours 1).val * nanosPerHour
  let requested :=
    snapshot.surgeRequestedAt.any fun requested =>
      requested ≤ now && now - requested ≤ 24 * nanosPerHour
  (snapshot.sourceKind = .video || snapshot.sourceKind = .release) &&
    !(snapshot.sourceVersion ≤ 0 || now < snapshot.occurredAt ||
      snapshot.expiresAt ≤ snapshot.occurredAt ||
      snapshot.expiresAt ≤ now) &&
    (now - snapshot.occurredAt ≤ window || requested) &&
    snapshot.communicationEnabled ≠ some false &&
    snapshot.sourceUrl.any fun url => "http".toList.isPrefixOf url.toList

/-- FNV-1a over the seed and the key, under the seed's own high bits. -/
def fnv1aDerivedUuid (seed : Uuid) (key : String) : Uuid :=
  let seedBytes := (List.range 16).map fun place =>
    (seed >>> (8 * (15 - place))).truncate 8
  let keyBytes := key.toUTF8.toList.map UInt8.toBitVec
  let hash : BitVec 64 := (seedBytes ++ keyBytes).foldl
    (fun hash byte => (hash ^^^ byte.zeroExtend 64) * 0x00000100000001b3)
    0xcbf29ce484222325
  (seed >>> 64 <<< 64) ||| hash.zeroExtend 128

def dropSurgeSubject (sourceId : Uuid) (lane : String) : ActionSubject :=
  .dropSurgeLane (fnv1aDerivedUuid sourceId lane)

def surgeTemplateId (lane : String) : Option String :=
  if lane = "telegram" then
    some "telegram-poster"
  else if lane = "discord" then
    some "discord-poster"
  else if lane = "instagram" || lane = "facebook" || lane = "x" then
    some "social-post"
  else
    none

def attemptSuffix (failures : U32) : String := ":attempt" ++ toString failures.val

/-- The retry suffix, once this source and destination may try again. -/
def surgeRetry (lane : String)
    (now : OffsetDateTime) : Option String :=
  match snapshot.dropSurgeFailures.find? fun failure => failure.lane = lane with
  | none => some ""
  | some failure =>
    if dropSurgeMaxAttempts ≤ failure.failures ||
        now < retryDueAt failure.failures failure.lastFailedAt then
      none
    else
      some (attemptSuffix failure.failures)

/-! ## Communities -/

/-- A community dispatch of a relay that failed for one source. -/
structure RelayLaneFailure where
  sourceId : Uuid
  failures : U32
  lastFailedAt : OffsetDateTime
  deriving Repr, DecidableEq

/-- A community the workspace may post in; a thread is read by its day. -/
structure CommunityRelayTarget where
  targetId : Uuid
  platform : String
  relayFailures : List RelayLaneFailure
  recentThreads : List Int
  deriving Repr, DecidableEq

def readMaxAgeDays : Int := 14

def minThreads : Nat := 3

/-- The day of a point in time, counted from the epoch. -/
def OffsetDateTime.date (time : OffsetDateTime) : Int := time / nanosPerDay

def countedThreads (threads : List Int) (today : Int) : List Int :=
  threads.filter fun postedOn =>
    today - readMaxAgeDays ≤ postedOn && postedOn ≤ today

def roomIsRead (threads : List Int) : Bool := minThreads ≤ threads.length

def relayRetry (target : CommunityRelayTarget) (source : Uuid)
    (now : OffsetDateTime) : Option String :=
  match target.relayFailures.find? fun failure => failure.sourceId = source with
  | none => some ""
  | some failure =>
    if maxArtifactAttempts ≤ failure.failures ||
        now < retryDueAt failure.failures failure.lastFailedAt then
      none
    else
      some (attemptSuffix failure.failures)

def resonanceSettleHours : Int := 36

/-- Whether a synced post has earned a place in other people's communities. -/
def resonatesForCommunities (post : SocialPostFact)
    (occurredAt now : OffsetDateTime) : Bool :=
  if now - occurredAt < resonanceSettleHours * nanosPerHour then
    false
  else if 0 < post.acquiredFans then
    true
  else
    match post.resonance with
    | none => false
    | some resonance =>
      let heldAttention :=
        match resonance.watchMs, resonance.peerWatchMedian with
        | some watch, some peer =>
          0 < peer && peer.saturatingMul 5 ≤ watch.saturatingMul 4
        | _, _ => false
      let byEngagement :=
        match resonance.peerMedian with
        | some median =>
          resonance.peers < resonanceMinPeers || median ≤ resonance.engagement
        | none => true
      if resonance.engagement ≤ 0 then
        false
      else
        match resonance.ratePerMille, resonance.peerRateMedian with
        | some rate, some peerRate =>
          if resonanceMinPeers ≤ resonance.ratePeers then
            peerRate ≤ rate || heldAttention
          else
            byEngagement
        | _, _ => byEngagement

/-! ## The builders -/

section Builders

theorem relayPush_of_kind {decisionKind : SupplyDecisionKind}
    (notRelay : decisionKind ≠ .relayOwnedPost) {subject : ActionSubject}
    {content : SupplyContent} {key : String} :
    ∀ title body,
      content = .signalPush title body →
      decisionKind = .relayOwnedPost →
      (∀ id, subject ≠ .targetCommunity id) ∧ isRelayPushKey key = true :=
  fun _ _ _ isRelay => absurd isRelay notRelay

theorem matchesPattern_self (text : List Char) : matchesPattern text text = true := by
  induction text with
  | nil => rfl
  | cons first rest inductionHypothesis =>
    simp [matchesPattern, inductionHypothesis]

theorem isRelayPushKey_relayKey (source : String) :
    isRelayPushKey (relayKeyHead ++ source ++ relayKeyTail) = true := by
  have headIsPrefix :
      relayKeyHead.toList.isPrefixOf (relayKeyHead ++ source ++ relayKeyTail).toList = true := by
    rw [String.toList_append, String.toList_append, List.append_assoc]
    exact List.isPrefixOf_iff_prefix.mpr (List.prefix_append _ _)
  have tailIsLast :
      (relayKeyHead ++ source ++ relayKeyTail).toList.drop
        ((relayKeyHead ++ source ++ relayKeyTail).toList.length -
          relayKeyTail.toList.length) = relayKeyTail.toList := by
    rw [String.toList_append, List.length_append, Nat.add_sub_cancel]
    exact List.drop_left
  have longEnough :
      relayKeyHead.length + relayKeyTail.toList.length ≤
        (relayKeyHead ++ source ++ relayKeyTail).toList.length := by
    simp only [String.toList_append, List.length_append, String.length_toList]
    omega
  simp only [isRelayPushKey, headIsPrefix, tailIsLast, longEnough,
    matchesPattern_self, decide_true, Bool.and_self]

variable (letters : LetterTables) (snapshot : ContentSupplySnapshot) (policy : AutopilotPolicy)
  (domainPolicy : ContentSupplyPolicy) (policySnapshot : JsonValue)
  (communities : List CommunityRelayTarget) (evidence : ContextEvidence) (now : OffsetDateTime)

def dropSurgeConfidence : Confidence := 9500

def dropSurgeDecisionKey (lane retry : String) : String :=
  "decision:drop_surge:v" ++ toString policy.version.val ++ ":" ++
    uuidText snapshot.sourceId ++ ":" ++ lane ++ retry

def dropSurgeActionKey (lane retry : String) : String :=
  "action:drop_surge:" ++ uuidText snapshot.sourceId ++ ":" ++ lane ++ retry

def dropSurgeOutward : PolicyDisposition :=
  disposition policy.autonomyLevel dropSurgeConfidence policy.minimumConfidence

/-- One community's dispatch: its draft goes to the engager, not to the room. -/
def dropSurgeCommunityCandidate?
    (target : CommunityRelayTarget) : Option SupplyCandidate :=
  let lane := "community:" ++ uuidText target.targetId
  if snapshot.promotionExcludedPlatforms.contains target.platform then
    none
  else
    match surgeRetry snapshot lane now with
    | none => none
    | some retry =>
      if roomIsRead (countedThreads target.recentThreads now.date) then
        some
          { subject := .targetCommunity target.targetId
            decisionKind := .dropSurgeFanout
            disposition := internalWorkDisposition (dropSurgeOutward policy)
            policySnapshot := policySnapshot
            content := .agentRun "community-engager"
            decisionKey := dropSurgeDecisionKey snapshot policy lane retry
            actionIdempotencyKey := dropSurgeActionKey snapshot lane retry
            relayPush := relayPush_of_kind SupplyDecisionKind.noConfusion }
      else
        none

/-- What an owned lane carries. -/
def dropSurgeContent? (lane : String) : Option SupplyContent :=
  if lane = "signal_push" then
    some
      (.signalPush
        (String.ofList (lockScreenLine (trim snapshot.title.toList) relayPushTitleMax))
        (surgeCaption letters snapshot relayPushBodyMax))
  else if lane = "email" then
    some .sourceCampaign
  else
    (surgeTemplateId lane).map fun templateId =>
      .agentContent (some templateId) (some lane)

def dropSurgeLaneCandidate? (lane : String) : Option SupplyCandidate :=
  match surgeRetry snapshot lane now with
  | none => none
  | some retry =>
    if lane = "email" && snapshot.siteOrigin.isNone then
      none
    else if
        (dropSurgeLinkSlug snapshot.sourceKey.toList lane.toList).isNone then
      none
    else
      (dropSurgeContent? letters snapshot lane).map fun content =>
        { subject := dropSurgeSubject snapshot.sourceId lane
          decisionKind := .dropSurgeFanout
          disposition := dropSurgeOutward policy
          policySnapshot := policySnapshot
          content := content
          decisionKey := dropSurgeDecisionKey snapshot policy lane retry
          actionIdempotencyKey := dropSurgeActionKey snapshot lane retry
          relayPush := relayPush_of_kind SupplyDecisionKind.noConfusion }

/-- One candidate per lane, and one per community behind the last. -/
def dropSurgeCandidates : List SupplyCandidate :=
  if dropSurgeEligible snapshot domainPolicy now then
    dropSurgeLanes.flatMap fun lane =>
      if snapshot.promotionExcludedPlatforms.contains lane then
        []
      else if lane = "community" then
        communities.filterMap (dropSurgeCommunityCandidate? snapshot policy policySnapshot now)
      else
        (dropSurgeLaneCandidate? letters snapshot policy policySnapshot now lane).toList
  else
    []

/-- The push to the fans who opted in. -/
def relayPushCandidate (post : SocialPostFact)
    (confidence : Confidence) : SupplyCandidate where
  subject := .contentSource snapshot.sourceId
  decisionKind := .relayOwnedPost
  disposition :=
    dispositionWithEvidence policy.autonomyLevel confidence
      policy.minimumConfidence evidence rateFloor
  policySnapshot := policySnapshot
  content :=
    .signalPush
      (String.ofList (lockScreenLine post.title.toList relayPushTitleMax))
      (lockScreenBody letters (post.body.getD post.title) post.url)
  decisionKey :=
    "decision:relay:v" ++ toString policy.version.val ++ ":" ++
      uuidText snapshot.sourceId ++ ":signal_push"
  actionIdempotencyKey := relayKeyHead ++ uuidText snapshot.sourceId ++ relayKeyTail
  relayPush := fun _ _ _ _ =>
    ⟨fun _ => ActionSubject.noConfusion, isRelayPushKey_relayKey _⟩

def relayCommunityCandidate? (confidence : Confidence)
    (target : CommunityRelayTarget) : Option SupplyCandidate :=
  if snapshot.promotionExcludedPlatforms.contains target.platform then
    none
  else
    (relayRetry target snapshot.sourceId now).map fun retry =>
      let lane := ":community:" ++ uuidText target.targetId ++ retry
      { subject := .targetCommunity target.targetId
        decisionKind := .relayOwnedPost
        disposition :=
          internalWorkDisposition
            (disposition policy.autonomyLevel confidence policy.minimumConfidence)
        policySnapshot := policySnapshot
        content := .agentRun "community-repost"
        decisionKey :=
          "decision:relay:v" ++ toString policy.version.val ++ ":" ++
            uuidText snapshot.sourceId ++ lane
        actionIdempotencyKey := relayKeyHead ++ uuidText snapshot.sourceId ++ lane
        relayPush := fun _ _ => SupplyContent.noConfusion }

/-- One push to the owned audience, and one draft per admitted community. -/
def relayCandidates (confidence : Confidence) : List SupplyCandidate :=
  match snapshot.socialPost with
  | none => []
  | some post =>
    let stalePush :=
      relativeDayHasPassed letters (post.title ++ " " ++ post.body.getD "") snapshot.occurredAt now
    let push :=
      if stalePush ||
          snapshot.promotionExcludedPlatforms.contains "signal_push" then
        []
      else
        [relayPushCandidate letters snapshot policy policySnapshot evidence post confidence]
    let rooms :=
      if resonatesForCommunities post snapshot.occurredAt now then
        communities.filterMap
          (relayCommunityCandidate? snapshot policy policySnapshot now confidence)
      else
        []
    push ++ rooms

def ContentArtifactKind.debugName : ContentArtifactKind → String
  | .signalPush => "SignalPush"
  | .newsletterBlock => "NewsletterBlock"
  | .socialFeed => "SocialFeed"
  | .socialStory => "SocialStory"
  | .liveListing => "LiveListing"
  | .pressHook => "PressHook"
  | .postShowRecap => "PostShowRecap"

def artifactCandidate (artifact : ContentArtifactKind) (attempt : U32)
    (confidence : Confidence) : SupplyCandidate :=
  let versioned :=
    uuidText snapshot.sourceId ++ ":sv" ++
      toString snapshot.sourceVersion.val ++ ":" ++ artifact.debugName ++
      (if attempt = 0 then "" else attemptSuffix attempt)
  { subject := .contentSource snapshot.sourceId
    decisionKind := .requestContentArtifact
    disposition :=
      internalWorkDisposition (disposition policy.autonomyLevel confidence policy.minimumConfidence)
    policySnapshot := policySnapshot
    content := .contentArtifact artifact
    decisionKey := "decision:content:v" ++ toString policy.version.val ++ ":" ++ versioned
    actionIdempotencyKey := "action:content:" ++ versioned
    relayPush := relayPush_of_kind SupplyDecisionKind.noConfusion }

/-- The surge comes on top of what the evaluator asks for. -/
def contentCandidates : List SupplyCandidate :=
  dropSurgeCandidates letters snapshot policy domainPolicy policySnapshot
      communities now ++
    match evaluateContentSupply snapshot domainPolicy now with
    | .request artifact attempt confidence =>
      [artifactCandidate snapshot policy policySnapshot artifact attempt confidence]
    | .relay confidence =>
      relayCandidates letters snapshot policy policySnapshot communities evidence now confidence
    | .hold _ => []

end Builders

open MachineInt Ranged

/-! ## The surge and the chain -/

section Apart

variable {letters : LetterTables} {snapshot : ContentSupplySnapshot} {policy : AutopilotPolicy}
  {domainPolicy : ContentSupplyPolicy} {policySnapshot : JsonValue}
  {communities : List CommunityRelayTarget} {now : OffsetDateTime} {candidate : SupplyCandidate}

/-- Two candidates that share nothing a store tells them apart by. -/
structure SupplyCandidate.Apart (first second : SupplyCandidate) : Prop where
  subject : first.subject ≠ second.subject
  decision : first.decisionKey ≠ second.decisionKey
  action : first.actionIdempotencyKey ≠ second.actionIdempotencyKey

/-- Every candidate of the surge stands under the surge's own keys. -/
structure OfSurge
    (snapshot : ContentSupplySnapshot)
    (policy : AutopilotPolicy)
    (candidate : SupplyCandidate) : Prop where
  subject : ∀ id, candidate.subject ≠ .contentSource id
  keys :
    ∃ lane retry,
      candidate.decisionKey = dropSurgeDecisionKey snapshot policy lane retry ∧
        candidate.actionIdempotencyKey = dropSurgeActionKey snapshot lane retry

theorem ofSurge_of_mem
    (isSurge :
      candidate ∈ dropSurgeCandidates letters snapshot policy domainPolicy policySnapshot
        communities now) :
    dropSurgeEligible snapshot domainPolicy now = true ∧ OfSurge snapshot policy candidate := by
  unfold dropSurgeCandidates at isSurge
  split at isSurge
  · rename_i eligible
    refine ⟨eligible, ?_⟩
    obtain ⟨lane, _, ofLane⟩ := List.mem_flatMap.mp isSurge
    split at ofLane
    · cases ofLane
    split at ofLane
    · obtain ⟨target, _, drafted⟩ := List.mem_filterMap.mp ofLane
      unfold dropSurgeCommunityCandidate? at drafted
      dsimp only at drafted
      split at drafted
      · cases drafted
      split at drafted
      · cases drafted
      split at drafted <;> cases drafted
      exact ⟨fun _ => ActionSubject.noConfusion, _, _, rfl, rfl⟩
    · have drafted := Option.mem_toList.mp ofLane
      unfold dropSurgeLaneCandidate? at drafted
      split at drafted
      · cases drafted
      split at drafted
      · cases drafted
      split at drafted
      · cases drafted
      obtain ⟨content, _, rfl⟩ := Option.map_eq_some_iff.mp drafted
      exact ⟨fun _ => ActionSubject.noConfusion, _, _, rfl, rfl⟩
  · cases isSurge

theorem sourceKind_of_relay {confidence : Confidence}
    (relays : evaluateContentSupply snapshot domainPolicy now = .relay confidence) :
    snapshot.sourceKind = .socialPost := by
  unfold evaluateContentSupply at relays
  split at relays
  · cases relays
  split at relays
  · assumption
  · split at relays <;> cases relays

/-- Texts that begin differently are different. -/
theorem append_ne_append {head other : String}
    (apart : ¬ head.toList <+: other.toList ∧ ¬ other.toList <+: head.toList) (rest tail : String) :
    head ++ rest ≠ other ++ tail := by
  intro same
  have whole : head.toList ++ rest.toList = other.toList ++ tail.toList := by
    simpa using congrArg String.toList same
  rcases List.prefix_or_prefix_of_prefix (List.prefix_append head.toList rest.toList)
      (whole ▸ List.prefix_append other.toList tail.toList) with begins | begins
  · exact apart.1 begins
  · exact apart.2 begins

theorem OfSurge.apart (ofSurge : OfSurge snapshot policy candidate) (artifact : ContentArtifactKind)
    (attempt : U32) (confidence : Confidence) :
    candidate.Apart
      (artifactCandidate snapshot policy policySnapshot artifact attempt confidence) := by
  obtain ⟨lane, retry, decision, action⟩ := ofSurge.keys
  have surgeDecision : ∃ rest, candidate.decisionKey = "decision:drop_surge:v" ++ rest := by
    unfold dropSurgeDecisionKey at decision
    iterate 5 rw [String.append_assoc] at decision
    exact ⟨_, decision⟩
  have askedDecision :
      ∃ rest,
        (artifactCandidate snapshot policy policySnapshot artifact attempt confidence).decisionKey =
          "decision:content:v" ++ rest := by
    unfold artifactCandidate
    dsimp only
    iterate 2 rw [String.append_assoc]
    exact ⟨_, rfl⟩
  have surgeAction : ∃ rest, candidate.actionIdempotencyKey = "action:drop_surge:" ++ rest := by
    unfold dropSurgeActionKey at action
    iterate 3 rw [String.append_assoc] at action
    exact ⟨_, action⟩
  obtain ⟨rest, isSurge⟩ := surgeDecision
  obtain ⟨tail, isAsked⟩ := askedDecision
  obtain ⟨behind, isAction⟩ := surgeAction
  refine ⟨ofSurge.subject _, ?_, ?_⟩
  · rw [isSurge, isAsked]
    exact append_ne_append (by decide +kernel) _ _
  · rw [isAction]
    exact append_ne_append (by decide +kernel) _ _

end Apart

/-- What the surge adds to a source shares no subject and no key with what the
evaluator asks for the same source, so neither can stand in for the other. -/
theorem surge_apart_from_chain (letters : LetterTables) (snapshot : ContentSupplySnapshot)
    (policy : AutopilotPolicy) (domainPolicy : ContentSupplyPolicy) (policySnapshot : JsonValue)
    (communities : List CommunityRelayTarget) (evidence : ContextEvidence) (now : OffsetDateTime) :
    ∃ chain,
      contentCandidates letters snapshot policy domainPolicy policySnapshot communities evidence
            now =
          dropSurgeCandidates letters snapshot policy domainPolicy policySnapshot communities
            now ++ chain ∧
        ∀ surge ∈ dropSurgeCandidates letters snapshot policy domainPolicy policySnapshot
            communities now,
          ∀ asked ∈ chain, surge.Apart asked := by
  refine ⟨_, rfl, fun surge isSurge asked isAsked => ?_⟩
  obtain ⟨eligible, ofSurge⟩ := ofSurge_of_mem isSurge
  split at isAsked
  · rw [List.mem_singleton.mp isAsked]
    exact ofSurge.apart _ _ _
  · rename_i relays
    simp [dropSurgeEligible, sourceKind_of_relay relays] at eligible
  · cases isAsked

end CrowdRelay
