import Mathlib.Algebra.Order.Field.Basic
import CrowdRelay.BookingWindow
import CrowdRelay.FixedWidth
import CrowdRelay.IsoWeeks
import CrowdRelay.PublishGuard

namespace CrowdRelay

open Extremes MachineInt Ranged TextScan

/-!
# The weekly join-ask

The tenant's own wordings, rotated onto its own channels.  Each configured
platform gets an ask or a hold a week: a wording nobody has seen comes first,
and once each has been seen the best one by the fans it brought.
-/

inductive CaptureOffer where
  | shows
  | releases
  deriving Repr, DecidableEq

/-- What the first signup leads to. -/
structure FanCaptureContext where
  offer : Option CaptureOffer
  eventSlug : Option Text
  videoId : Option Text
  deriving Repr, DecidableEq

namespace FanCaptureContext

def isSlug (slug : Text) : Bool :=
  !slug.isEmpty
    && decide (slug.length ≤ 120)
    && slug.all (fun byte => byte.isLower || byte.isDigit || byte == '-')
    && slug.head? != some '-'
    && slug.getLast? != some '-'

def isVideoId (video : Text) : Bool :=
  decide (video.length = 11) && video.all fun byte => byte.isAlphanum || byte == '_' || byte == '-'

def isValid (context : FanCaptureContext) : Bool :=
  context.eventSlug.all isSlug
    && context.videoId.all isVideoId
    && !(context.eventSlug.isSome && context.videoId.isSome)

end FanCaptureContext

def captureQuery (context : Option FanCaptureContext) : Text :=
  match context.filter FanCaptureContext.isValid with
  | none => []
  | some valid =>
    (match valid.offer with
      | some .shows => "&offer=shows".toList
      | some .releases => "&offer=releases".toList
      | none => [])
      ++ (valid.eventSlug.map ("&event=".toList ++ ·)).getD []
      ++ (valid.videoId.map ("&video=".toList ++ ·)).getD []

def executablePlatforms : List Text := ["facebook".toList, "instagram".toList, "telegram".toList]

def instagram : Text := "instagram".toList

def joinAskMaxVariants : Nat := 5
def joinAskMaxVariantChars : Nat := 500

/-- One wording of the setting, within its bounds. -/
def parseVariant (item : JsonValue) : Option Text :=
  match item.asStr with
  | none => none
  | some written =>
    let text := trim written.toList
    if text = [] ∨ joinAskMaxVariantChars < text.length then none else some text

/-- The wordings of the setting; the reader of JSON is not part of this code. -/
def parseVariants (fromStr : Text → Option JsonValue)
    (raw : Text) : Option (List Text) :=
  match fromStr (trim raw) with
  | some (.array items) =>
    if items = [] ∨ joinAskMaxVariants < items.length then none else items.mapM parseVariant
  | _ => none

structure JoinAskPostRow where
  captureContext : Option FanCaptureContext
  platform : Text
  status : Text
  createdAt : OffsetDateTime
  text : Text
  postedAt : Option OffsetDateTime
  -- Nothing stands here when the post carried no tracked link.
  fans7d : Option U32
  deriving Repr, DecidableEq

structure JoinAskSnapshot where
  captureContext : Option FanCaptureContext
  variants : List Text
  cadenceDays : U16
  platforms : List Text
  memberSiteBaseUrl : Option Text
  connectedPlatforms : List Text
  posts : List JoinAskPostRow
  instagramPhotoCount : U32
  imageUrl : Option Text
  deriving Repr, DecidableEq

/-- The audit label of a choice. -/
inductive SelectionReason where
  | exploreUnseen
  | fanBandit
  deriving Repr, DecidableEq

structure JoinAskAsk where
  platform : Text
  variantIndex : U32
  variantTrials : U32
  variantFans : U32
  selectionReason : SelectionReason
  text : Text
  ctaUrl : Text
  weekKey : Text
  imageUrl : Option Text
  deriving Repr, DecidableEq

inductive JoinAskHold where
  | noExecutor
  | notConnected
  | onCadence
  | noInstagramPhoto
  | noSiteUrl
  | noVariants
  deriving Repr, DecidableEq

/-- On cadence is the one hold that means the feature works. -/
def JoinAskHold.needsAPerson (hold : JoinAskHold) : Bool := decide (hold ≠ .onCadence)

/-- What is missing, for one platform or for all. -/
structure JoinAskBlocker where
  platform : Option Text
  hold : JoinAskHold
  deriving Repr, DecidableEq

structure JoinAskPlan where
  asks : List JoinAskAsk
  held : List (Text × JoinAskHold)
  deriving Repr, DecidableEq

section Readiness

variable (snapshot : JoinAskSnapshot)

/-- Instagram takes no post without a picture. -/
def lacksPhoto (platform : Text) : Bool :=
  decide (platform = instagram)
    && decide (snapshot.instagramPhotoCount = 0)
    && snapshot.imageUrl.isNone

def platformBlockers (platform : Text) : List JoinAskBlocker :=
  if !executablePlatforms.contains platform then
    [⟨some platform, .noExecutor⟩]
  else
    (if !snapshot.connectedPlatforms.contains platform then
        [⟨some platform, .notConnected⟩]
      else
        [])
      ++ if lacksPhoto snapshot platform then [⟨some platform, .noInstagramPhoto⟩] else []

/-- Everything that stands between the tenant and its first ask, at once. -/
def joinAskReadiness : List JoinAskBlocker :=
  (if snapshot.variants = [] then [⟨none, .noVariants⟩] else [])
    ++ (if snapshot.memberSiteBaseUrl = none then
        [⟨none, .noSiteUrl⟩]
      else
        [])
    ++ snapshot.platforms.flatMap (platformBlockers snapshot)

end Readiness

def livePostStatuses : List Text :=
  ["pending".toList, "posting".toList, "posted".toList, "awaiting_manual_post".toList]

/-- A post gets a whole week to earn fans before it counts. -/
def joinAskOutcomeDays : Int := 7

def joinAskRewardFanCap : U32 := 3

/-- What is known of the wording in one slot. -/
structure VariantEvidence (Number : Type) where
  trials : U32
  fans : U32
  reward : Number
  deriving Repr, DecidableEq

/-- The functions of the numbers the choice takes as they are. -/
structure BanditCurves (Number : Type) where
  ln : Number → Number
  sqrt : Number → Number

structure VariantChoice where
  index : U32
  trials : U32
  fans : U32
  selectionReason : SelectionReason
  deriving Repr, DecidableEq

/-- The slots from a start on, once around. -/
def rotation (start count : Nat) : List Nat :=
  (List.range count).map fun offset => (start + offset) % count

section Choice

variable {Number : Type} [Field Number] [LinearOrder Number]

namespace VariantEvidence

def empty : VariantEvidence Number := ⟨0, 0, 0⟩

def record (evidence : VariantEvidence Number)
    (fans7d : U32) : VariantEvidence Number where
  trials := saturatingAdd evidence.trials 1
  fans := saturatingAdd evidence.fans fans7d
  reward :=
    evidence.reward
      + ((min fans7d joinAskRewardFanCap).val : Number) / (joinAskRewardFanCap.val : Number)

end VariantEvidence

variable (snapshot : JoinAskSnapshot)

/-- A post whose week is over, on the platform and for the same offer. -/
def isMature (platform : Text) (matureBefore : OffsetDateTime)
    (post : JoinAskPostRow) : Bool :=
  decide (post.captureContext = snapshot.captureContext)
    && decide (post.platform = platform)
    && decide (post.status = "posted".toList)
    && post.postedAt.any (fun postedAt => decide (postedAt ≤ matureBefore))

/-- The first slot with the very words of a post. -/
def slotOf (snapshot : JoinAskSnapshot) (text : Text) : Option Nat :=
  snapshot.variants.findIdx? fun variant => variant == text

def recordPost (platform : Text) (matureBefore : OffsetDateTime)
    (slots : List (VariantEvidence Number))
    (post : JoinAskPostRow) : List (VariantEvidence Number) :=
  if isMature snapshot platform matureBefore post then
    match slotOf snapshot post.text, post.fans7d with
    | some index, some fans7d =>
      slots.modify index fun evidence => evidence.record fans7d
    | _, _ => slots
  else
    slots

def slotEvidence (platform : Text)
    (now : OffsetDateTime) : List (VariantEvidence Number) :=
  snapshot.posts.foldl
    (recordPost snapshot platform (now - joinAskOutcomeDays * nanosPerDay))
    (List.replicate snapshot.variants.length .empty)

def trialsAt (slots : List (VariantEvidence Number)) (index : Nat) : U32 :=
  (slots[index]?.map VariantEvidence.trials).getD 0

def totalTrials (slots : List (VariantEvidence Number)) : Number :=
  max
    ((wrap (slots.map fun evidence => evidence.trials.val).sum : U32).val : Number)
    1

variable (curves : BanditCurves Number)

/-- The mean of a reward, and what trying it more may teach. -/
def banditScore
    (reward trials total : Number) : Number :=
  reward / trials + curves.sqrt (2 * curves.ln total / trials)

def slotScore (slots : List (VariantEvidence Number))
    (index : Nat) : Number :=
  banditScore curves ((slots[index]?.map VariantEvidence.reward).getD 0)
    (trialsAt slots index).val (totalTrials slots)

def chooseVariant (snapshot : JoinAskSnapshot) (platform : Text) (priorCount : U32)
    (now : OffsetDateTime) : VariantChoice :=
  let variantCount := snapshot.variants.length
  if variantCount = 0 then
    ⟨0, 0, 0, .exploreUnseen⟩
  else
    let slots : List (VariantEvidence Number) := slotEvidence snapshot platform now
    let start := priorCount.val.toNat % variantCount
    match (rotation start variantCount).find? fun index =>
        slots[index]?.map VariantEvidence.trials == some 0 with
    | some index => ⟨wrap index, 0, 0, .exploreUnseen⟩
    | none =>
      let best :=
        ((rotation start variantCount).foldl (keepBetter (slotScore curves slots)) (start, none)).1
      ⟨wrap best, trialsAt slots best, (slots[best]?.map VariantEvidence.fans).getD 0, .fanBandit⟩

/-- The gates of one platform, in the order an operator would ask them. -/
def joinAskHold (now : OffsetDateTime)
    (platform : Text) : Option JoinAskHold :=
  if snapshot.variants = [] then
    some .noVariants
  else if !executablePlatforms.contains platform then
    some .noExecutor
  else if !snapshot.connectedPlatforms.contains platform then
    some .notConnected
  else if snapshot.posts.any (fun post =>
      decide (post.platform = platform)
        && livePostStatuses.contains post.status
        && decide (now - snapshot.cadenceDays.val * nanosPerDay < post.createdAt)) then
    some .onCadence
  else if lacksPhoto snapshot platform then
    some .noInstagramPhoto
  else if snapshot.memberSiteBaseUrl = none then
    some .noSiteUrl
  else
    none

/-- How many asks a platform had, of any status. -/
def priorCount (snapshot : JoinAskSnapshot) (platform : Text) : U32 :=
  wrap (snapshot.posts.countP fun post => post.platform = platform)

def decimal (number : Int) : Text :=
  if number < 0 then '-' :: Nat.toDigits 10 number.natAbs else Nat.toDigits 10 number.natAbs

def weekKey (now : OffsetDateTime) : Text :=
  decimal (IsoWeeks.weekYear (dateOf now)) ++ "-W".toList
    ++ FixedWidth.text 10 2 (IsoWeeks.weekNumber (dateOf now))

theorem toDigits_injective : Function.Injective (Nat.toDigits 10) := by
  intro first second same
  rw [← Nat.ofDigitChars_ten_toDigits (n := first), same, Nat.ofDigitChars_ten_toDigits]

theorem head_toDigits_ne (number : Nat) : (Nat.toDigits 10 number).head? ≠ some '-' := by
  intro isSign
  have isDigit : '-'.isDigit = true := Nat.isDigit_of_mem_toDigits (by decide) (by decide)
      (List.mem_of_mem_head? isSign)
  cases isDigit

theorem decimal_injective : Function.Injective decimal := by
  intro first second same
  rw [decimal, decimal] at same
  split_ifs at same with negative otherNegative otherNegative
  · have magnitudes := toDigits_injective (List.cons.inj same).2
    omega
  · exact absurd (congrArg List.head? same).symm
      (head_toDigits_ne second.natAbs)
  · exact absurd (congrArg List.head? same) (head_toDigits_ne first.natAbs)
  · have magnitudes := toDigits_injective same
    omega

def ctaUrl (base platform : Text)
    (now : OffsetDateTime) : Text :=
  trimSlashes base ++ "/signal?utm_source=".toList ++ platform
    ++ "&utm_medium=join_ask&utm_campaign=join_ask_w".toList
    ++ FixedWidth.text 10 2 (IsoWeeks.weekNumber (dateOf now))
    ++ captureQuery snapshot.captureContext

def platformAsk (snapshot : JoinAskSnapshot) (now : OffsetDateTime)
    (base platform : Text) : JoinAskAsk :=
  let choice := chooseVariant curves snapshot platform (priorCount snapshot platform) now
  { platform := platform
    variantIndex := choice.index
    variantTrials := choice.trials
    variantFans := choice.fans
    selectionReason := choice.selectionReason
    text := (snapshot.variants[choice.index.val.toNat]?).getD []
    ctaUrl := ctaUrl snapshot base platform now
    weekKey := weekKey now
    imageUrl := snapshot.imageUrl }

def planPlatform (snapshot : JoinAskSnapshot) (now : OffsetDateTime) (plan : JoinAskPlan)
    (platform : Text) : JoinAskPlan :=
  match joinAskHold snapshot now platform, snapshot.memberSiteBaseUrl with
  | some hold, _ => { plan with held := plan.held ++ [(platform, hold)] }
  | none, some base =>
    { plan with
      asks := plan.asks ++ [platformAsk curves snapshot now base platform] }
  | none, none => plan

/-- An ask or a hold for every configured platform. -/
def evaluateJoinAsk (snapshot : JoinAskSnapshot)
    (now : OffsetDateTime) : JoinAskPlan :=
  snapshot.platforms.foldl (planPlatform curves snapshot now) ⟨[], []⟩

section Plans

variable {curves : BanditCurves Number} {snapshot : JoinAskSnapshot} {now : OffsetDateTime}
  {platform base : Text} {hold : JoinAskHold} (plan : JoinAskPlan) (platforms : List Text)

theorem planPlatform_of_hold (held : joinAskHold snapshot now platform = some hold) :
    planPlatform curves snapshot now plan platform =
      { plan with held := plan.held ++ [(platform, hold)] } := by
  rw [planPlatform, held]

theorem memberSite_of_unheld (unheld : joinAskHold snapshot now platform = none) :
    ∃ base, snapshot.memberSiteBaseUrl = some base := by
  rw [joinAskHold] at unheld
  split_ifs at unheld with _ _ _ _ _ noSite
  exact Option.ne_none_iff_exists'.mp noSite

theorem planPlatform_of_unheld (unheld : joinAskHold snapshot now platform = none)
    (site : snapshot.memberSiteBaseUrl = some base) :
    planPlatform curves snapshot now plan platform =
      { plan with
        asks := plan.asks ++ [platformAsk curves snapshot now base platform] } := by
  rw [planPlatform, unheld, site]

theorem mem_held_foldl (plan : JoinAskPlan) :
    (platform, hold) ∈ (platforms.foldl (planPlatform curves snapshot now) plan).held ↔
      (platform, hold) ∈ plan.held ∨
        platform ∈ platforms ∧ joinAskHold snapshot now platform = some hold := by
  induction platforms generalizing plan with
  | nil => simp
  | cons other rest inductionHypothesis =>
    rw [List.foldl_cons, inductionHypothesis]
    cases outcome : joinAskHold snapshot now other with
    | some otherHold =>
      rw [planPlatform_of_hold plan outcome]
      simp only [List.mem_append, Prod.mk.injEq, List.mem_cons]
      grind
    | none =>
      obtain ⟨base, site⟩ := memberSite_of_unheld outcome
      rw [planPlatform_of_unheld plan outcome site]
      simp only [List.mem_cons]
      grind

theorem mem_asks_foldl (plan : JoinAskPlan) (ask : JoinAskAsk) :
    ask ∈ (platforms.foldl (planPlatform curves snapshot now) plan).asks ↔
      ask ∈ plan.asks ∨
        ∃ platform ∈ platforms,
          joinAskHold snapshot now platform = none ∧
            ∃ base, snapshot.memberSiteBaseUrl = some base ∧
              ask = platformAsk curves snapshot now base platform := by
  induction platforms generalizing plan with
  | nil => simp
  | cons other rest inductionHypothesis =>
    rw [List.foldl_cons, inductionHypothesis]
    cases outcome : joinAskHold snapshot now other with
    | some otherHold =>
      rw [planPlatform_of_hold plan outcome]
      simp [outcome]
    | none =>
      obtain ⟨base, site⟩ := memberSite_of_unheld outcome
      rw [planPlatform_of_unheld plan outcome site]
      simp [outcome, site, or_assoc]

theorem mem_held_iff :
    (platform, hold) ∈ (evaluateJoinAsk curves snapshot now).held ↔
      platform ∈ snapshot.platforms ∧ joinAskHold snapshot now platform = some hold := by
  rw [evaluateJoinAsk, mem_held_foldl]
  simp

theorem mem_asks_iff (ask : JoinAskAsk) :
    ask ∈ (evaluateJoinAsk curves snapshot now).asks ↔
      ∃ platform ∈ snapshot.platforms,
        joinAskHold snapshot now platform = none ∧
          ∃ base, snapshot.memberSiteBaseUrl = some base ∧
            ask = platformAsk curves snapshot now base platform := by
  rw [evaluateJoinAsk, mem_asks_foldl]
  simp

end Plans

end Choice

end CrowdRelay
