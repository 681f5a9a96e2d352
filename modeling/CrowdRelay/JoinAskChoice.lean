import Mathlib.Algebra.Order.BigOperators.Group.List
import Mathlib.Tactic.NormNum
import CrowdRelay.JoinAsk
import CrowdRelay.SlotFolds

namespace CrowdRelay

open MachineInt Ranged SlotFolds

/-!
# The evidence of a wording

The evidence of a wording is the fans of the mature, measured posts that carried
exactly its text.  The first slot with the wording holds it; a copy of an
earlier wording in the list never gets any, so it looks unseen for good.
-/

section Evidence

variable (snapshot : JoinAskSnapshot) (platform : Text) (now : OffsetDateTime)

/-- A post that counts as evidence for its words, once it is measured. -/
def isEvidence (post : JoinAskPostRow) : Bool :=
  isMature snapshot platform (now - joinAskOutcomeDays * nanosPerDay) post

def carriedFans (wording : Text) : List U32 :=
  (snapshot.posts.filter fun post =>
      isEvidence snapshot platform now post && post.text == wording).filterMap
    JoinAskPostRow.fans7d

def Unseen (wording : Text) : Prop := carriedFans snapshot platform now wording = []

def wordingTrials (wording : Text) : U32 :=
  saturate (carriedFans snapshot platform now wording).length

def wordingFans (wording : Text) : U32 :=
  saturate ((carriedFans snapshot platform now wording).map Ranged.val).sum

def listedTrials (Number : Type) [Field Number] [LinearOrder Number] :
    Number :=
  max
    ((wrap (snapshot.variants.map fun wording =>
          (wordingTrials snapshot platform now wording).val).sum : U32).val :
      Number)
    1

/-- What the fans of one post earn its wording. -/
def fanReward {Number : Type} [Field Number] (fans : U32) : Number :=
  ((min fans joinAskRewardFanCap).val : Number) / (joinAskRewardFanCap.val : Number)

end Evidence

section Slots

variable (snapshot : JoinAskSnapshot) (platform : Text) (now : OffsetDateTime)

/-- A slot whose words stand in an earlier slot too. -/
def Repeats (index : Nat) : Prop :=
  ∃ earlier < index, snapshot.variants[earlier]? = snapshot.variants[index]?

def UnseenAt (index : Nat) : Prop :=
  ∃ wording ∈ snapshot.variants[index]?, Unseen snapshot platform now wording

end Slots

section Recording

variable {Number : Type} [Field Number] {snapshot : JoinAskSnapshot}
  {platform wording : Text} {now : OffsetDateTime} {index : Nat}

theorem saturatingAdd_saturate {total more : Int} (totalNonneg : 0 ≤ total)
    (moreNonneg : 0 ≤ more) :
    (saturate ((saturate total : U32).val + more) : U32) = saturate (total + more) := by
  rw [eq_iff_val]
  simp only [val_saturate]
  omega

theorem sum_val_nonneg (fans : List U32) : 0 ≤ (fans.map Ranged.val).sum :=
  List.sum_nonneg fun _ isValue => by
    obtain ⟨value, _, rfl⟩ := List.mem_map.mp isValue
    exact value.lower

theorem foldl_record (fans : List U32) :
    fans.foldl VariantEvidence.record (VariantEvidence.empty : VariantEvidence Number) =
      ⟨saturate fans.length, saturate (fans.map Ranged.val).sum, (fans.map fanReward).sum⟩ := by
  induction fans using List.reverseRecOn with
  | nil => rfl
  | append_singleton earlier last inductionHypothesis =>
    have trials :
        (saturate ((saturate (earlier.length : Int) : U32).val + 1) : U32) =
          saturate ((earlier ++ [last]).length : Int) := by
      rw [saturatingAdd_saturate (Int.natCast_nonneg _) zero_le_one, List.length_append]
      rfl
    have fans :
        (saturate ((saturate (earlier.map Ranged.val).sum : U32).val + last.val) :
            U32) =
          saturate ((earlier ++ [last]).map Ranged.val).sum := by
      rw [saturatingAdd_saturate (sum_val_nonneg earlier) last.lower,
        List.map_append, List.sum_append, List.map_singleton,
        List.sum_singleton]
    have reward :
        (earlier.map fanReward).sum + fanReward last =
          ((earlier ++ [last]).map fanReward : List Number).sum := by
      rw [List.map_append, List.sum_append, List.map_singleton, List.sum_singleton]
    rw [List.foldl_append, inductionHypothesis, ← trials, ← fans, ← reward]
    rfl

/-- Where a post is recorded, and with how many fans. -/
def locatePost (snapshot : JoinAskSnapshot) (platform : Text) (now : OffsetDateTime)
    (post : JoinAskPostRow) : Option (Nat × U32) :=
  if isEvidence snapshot platform now post then
    match slotOf snapshot post.text, post.fans7d with
    | some index, some fans7d => some (index, fans7d)
    | _, _ => none
  else
    none

theorem slotEvidence_eq_foldl_place :
    (slotEvidence snapshot platform now : List (VariantEvidence Number)) = snapshot.posts.foldl
        (place (locatePost snapshot platform now) VariantEvidence.record)
        (List.replicate snapshot.variants.length .empty) := by
  rw [slotEvidence]
  congr
  funext slots post
  rw [recordPost, place, locatePost, isEvidence]
  by_cases mature : isMature snapshot platform (now - joinAskOutcomeDays * nanosPerDay) post
  · rw [if_pos mature, if_pos mature]
    cases slotOf snapshot post.text <;> cases post.fans7d <;> rfl
  · rw [if_neg mature, if_neg mature]

theorem slotOf_eq_some_iff :
    slotOf snapshot wording = some index ↔
      snapshot.variants[index]? = some wording ∧ ¬ Repeats snapshot index := by
  rw [slotOf, List.findIdx?_eq_some_iff_getElem]
  constructor
  · rintro ⟨fits, isWording, isFirst⟩
    have words : snapshot.variants[index]? = some wording := by
      rw [List.getElem?_eq_getElem fits, eq_of_beq isWording]
    refine ⟨words, ?_⟩
    rintro ⟨earlier, isEarlier, same⟩
    apply isFirst earlier isEarlier
    rw [words, List.getElem?_eq_some_iff] at same
    exact beq_iff_eq.mpr same.2
  · rintro ⟨words, isFirst⟩
    obtain ⟨fits, isWording⟩ := List.getElem?_eq_some_iff.mp words
    refine ⟨fits, beq_iff_eq.mpr isWording, ?_⟩
    intro earlier isEarlier same
    apply isFirst
    refine ⟨earlier, isEarlier, ?_⟩
    rw [words, List.getElem?_eq_some_iff]
    exact ⟨isEarlier.trans fits, eq_of_beq same⟩

theorem filterMap_valueAt_of_first (words : snapshot.variants[index]? = some wording)
    (isFirst : ¬ Repeats snapshot index) :
    snapshot.posts.filterMap (SlotFolds.valueAt (locatePost snapshot platform now) index) =
      carriedFans snapshot platform now wording := by
  rw [carriedFans, List.filterMap_filter]
  apply List.filterMap_congr
  intro post _
  have slot : slotOf snapshot wording = some index := slotOf_eq_some_iff.mpr ⟨words, isFirst⟩
  rw [SlotFolds.valueAt, locatePost]
  by_cases evidence : isEvidence snapshot platform now post
  · simp only [evidence, if_true, Bool.true_and]
    by_cases carries : post.text = wording
    · rw [carries, slot]
      cases post.fans7d <;> simp
    · rw [if_neg (mt eq_of_beq carries)]
      cases other : slotOf snapshot post.text with
      | none => rfl
      | some otherIndex =>
        have elsewhere : otherIndex ≠ index := by
          rintro rfl
          have same := (slotOf_eq_some_iff.mp other).1
          rw [words, Option.some.injEq] at same
          exact carries same.symm
        cases post.fans7d <;> simp [elsewhere]
  · simp [evidence]

theorem filterMap_valueAt_of_repeats (repeated : Repeats snapshot index) :
    snapshot.posts.filterMap (SlotFolds.valueAt (locatePost snapshot platform now) index) = [] := by
  apply List.filterMap_eq_nil_iff.mpr
  intro post _
  rw [SlotFolds.valueAt, locatePost]
  by_cases evidence : isEvidence snapshot platform now post
  · rw [if_pos evidence]
    cases slot : slotOf snapshot post.text with
    | none => rfl
    | some other =>
      have elsewhere : other ≠ index := by
        rintro rfl
        exact (slotOf_eq_some_iff.mp slot).2 repeated
      cases post.fans7d <;> simp [elsewhere]
  · rw [if_neg evidence]

theorem slotEvidence_of_first (words : snapshot.variants[index]? = some wording)
    (isFirst : ¬ Repeats snapshot index) :
    (slotEvidence snapshot platform now : List (VariantEvidence Number))[index]? = some
        ⟨wordingTrials snapshot platform now wording, wordingFans snapshot platform now wording,
          ((carriedFans snapshot platform now wording).map fanReward).sum⟩ := by
  have fits := (List.getElem?_eq_some_iff.mp words).1
  rw [slotEvidence_eq_foldl_place, getElem?_foldl_place, List.getElem?_replicate_of_lt fits,
    filterMap_valueAt_of_first words isFirst, Option.map_some, foldl_record]
  rfl

theorem slotEvidence_of_repeats (fits : index < snapshot.variants.length)
    (repeated : Repeats snapshot index) :
    (slotEvidence snapshot platform now : List (VariantEvidence Number))[index]? = some .empty := by
  rw [slotEvidence_eq_foldl_place, getElem?_foldl_place,
    List.getElem?_replicate_of_lt fits, filterMap_valueAt_of_repeats repeated]
  rfl

theorem wordingTrials_eq_zero_iff :
    wordingTrials snapshot platform now wording = 0 ↔ Unseen snapshot platform now wording := by
  rw [Unseen, ← List.length_eq_zero_iff, wordingTrials, eq_iff_val, val_saturate]
  have zero : (0 : U32).val = 0 := rfl
  omega

theorem trials_eq_zero_iff (fits : index < snapshot.variants.length) :
    (slotEvidence snapshot platform now :
          List (VariantEvidence Number))[index]?.map
        VariantEvidence.trials = some 0 ↔
      Repeats snapshot index ∨ UnseenAt snapshot platform now index := by
  by_cases repeated : Repeats snapshot index
  · rw [slotEvidence_of_repeats fits repeated]
    exact ⟨fun _ => Or.inl repeated, fun _ => rfl⟩
  · have words := List.getElem?_eq_getElem fits
    rw [slotEvidence_of_first words repeated, Option.map_some,
      Option.some.injEq, wordingTrials_eq_zero_iff, UnseenAt, words]
    simp [repeated]

end Recording

open Extremes

/-!
## The wording that is chosen

An ask explores the first slot that looks unseen, or else carries the wording
that scores best by its own evidence.  A copy of a wording that was seen still
looks unseen, and is explored for good unless an unseen one comes up first.
-/

section Scores

variable {Number : Type} [Field Number] [LinearOrder Number]

def wordingScore (curves : BanditCurves Number) (snapshot : JoinAskSnapshot)
    (platform : Text) (now : OffsetDateTime)
    (wording : Text) : Number :=
  banditScore curves
    ((carriedFans snapshot platform now wording).map fanReward).sum
    (wordingTrials snapshot platform now wording).val
    (listedTrials snapshot platform now Number)

/-- The same configuration with another history. -/
def JoinAskSnapshot.withPosts (snapshot : JoinAskSnapshot)
    (posts : List JoinAskPostRow) : JoinAskSnapshot :=
  { snapshot with posts := posts }

/-- The law that what is unseen is explored, and that evidence belongs to the
words that earned it. -/
structure EvidenceBelongs
    (curves : BanditCurves Number)
    (snapshot : JoinAskSnapshot)
    (now : OffsetDateTime)
    (ask : JoinAskAsk) : Prop where
  unseen :
    ask.selectionReason = .exploreUnseen ↔
      ∃ wording ∈ snapshot.variants,
        Unseen snapshot ask.platform now wording
  explored :
    ask.selectionReason = .exploreUnseen →
      ask.text ∈ snapshot.variants ∧ Unseen snapshot ask.platform now ask.text
  trials :
    ask.selectionReason ≠ .exploreUnseen →
      ask.variantTrials = wordingTrials snapshot ask.platform now ask.text
  fans :
    ask.selectionReason ≠ .exploreUnseen →
      ask.variantFans = wordingFans snapshot ask.platform now ask.text
  best :
    ask.selectionReason ≠ .exploreUnseen →
      ask.text ∈ snapshot.variants ∧
        ∀ wording ∈ snapshot.variants,
          wordingScore curves snapshot ask.platform now wording ≤
            wordingScore curves snapshot ask.platform now ask.text
  anyOrder :
    ∀ posts, posts.Perm snapshot.posts →
      evaluateJoinAsk curves (snapshot.withPosts posts) now =
        evaluateJoinAsk curves snapshot now

end Scores

section Cursor

variable (snapshot : JoinAskSnapshot) (platform : Text) (now : OffsetDateTime)

def cursorSlot (offset : Nat) : Nat :=
  ((priorCount snapshot platform).val.toNat % snapshot.variants.length + offset)
    % snapshot.variants.length

/-- Before a copy of words that were seen, an unseen wording comes up. -/
def UnseenComesFirst : Prop :=
  ∀ offset < snapshot.variants.length,
    Repeats snapshot (cursorSlot snapshot platform offset) →
      ¬ UnseenAt snapshot platform now (cursorSlot snapshot platform offset) →
        ∃ earlier < offset, UnseenAt snapshot platform now (cursorSlot snapshot platform earlier)

end Cursor

section Rotation

variable {start count index offset : Nat}

theorem mem_rotation_iff (begins : start < count) :
    index ∈ rotation start count ↔ index < count := by
  rw [rotation, List.mem_map]
  constructor
  · rintro ⟨offset, _, rfl⟩
    exact Nat.mod_lt _ (Nat.zero_lt_of_lt begins)
  · intro fits
    refine ⟨(index + (count - start)) % count, ?_, ?_⟩
    · exact List.mem_range.mpr (Nat.mod_lt _ (Nat.zero_lt_of_lt begins))
    · rw [Nat.add_mod_mod, Nat.add_left_comm, Nat.add_sub_cancel' begins.le,
        Nat.add_mod_right, Nat.mod_eq_of_lt fits]

theorem find?_rotation_eq_some {holds : Nat → Bool}
    (found : (rotation start count).find? holds = some index) :
    ∃ offset < count, index = (start + offset) % count ∧ holds index = true ∧
      ∀ earlier < offset, holds ((start + earlier) % count) = false := by
  obtain ⟨isHeld, offset, fits, isSlot, isFirst⟩ := List.find?_eq_some_iff_getElem.mp found
  rw [rotation, List.length_map, List.length_range] at fits
  simp only [rotation, List.getElem_map, List.getElem_range] at isSlot isFirst
  refine ⟨offset, fits, isSlot.symm, isHeld, ?_⟩
  intro earlier isEarlier
  exact Bool.not_eq_true' _ ▸ isFirst earlier isEarlier

end Rotation

section Choice

variable {Number : Type} [Field Number] [LinearOrder Number] {curves : BanditCurves Number}
  {snapshot : JoinAskSnapshot} {platform wording : Text} {now : OffsetDateTime} {index : Nat}

/-- What the choice makes of slots that are all first and all seen. -/
structure Chosen
    (curves : BanditCurves Number)
    (snapshot : JoinAskSnapshot)
    (platform : Text)
    (now : OffsetDateTime)
    (choice : VariantChoice)
    (index : Nat)
    (wording : Text) : Prop where
  words : snapshot.variants[index]? = some wording
  label : choice.selectionReason = .fanBandit
  slot : choice.index = wrap index
  trials : choice.trials = wordingTrials snapshot platform now wording
  fans : choice.fans = wordingFans snapshot platform now wording
  best :
    ∀ other ∈ snapshot.variants,
      wordingScore curves snapshot platform now other ≤
        wordingScore curves snapshot platform now wording

section Distinct

variable (distinct : ∀ index < snapshot.variants.length, ¬ Repeats snapshot index)

include distinct

theorem totalTrials_eq_listedTrials :
    totalTrials (slotEvidence snapshot platform now : List (VariantEvidence Number)) =
      listedTrials snapshot platform now Number := by
  have sameTrials :
      ((slotEvidence snapshot platform now : List (VariantEvidence Number)).map
          fun evidence => evidence.trials.val) =
        snapshot.variants.map fun wording =>
          (wordingTrials snapshot platform now wording).val := by
    apply List.ext_getElem?
    intro index
    rw [List.getElem?_map, List.getElem?_map]
    cases words : snapshot.variants[index]? with
    | some wording =>
      have fits := (List.getElem?_eq_some_iff.mp words).1
      rw [slotEvidence_of_first words (distinct index fits)]
      rfl
    | none =>
      have past := List.getElem?_eq_none_iff.mp words
      rw [List.getElem?_eq_none_iff.mpr]
      · rfl
      · rw [slotEvidence_eq_foldl_place, length_foldl_place,
          List.length_replicate]
        exact past
  rw [totalTrials, sameTrials, listedTrials]

theorem slotScore_eq_wordingScore (words : snapshot.variants[index]? = some wording) :
    slotScore curves (slotEvidence snapshot platform now) index =
      wordingScore curves snapshot platform now wording := by
  have fits := (List.getElem?_eq_some_iff.mp words).1
  rw [slotScore, trialsAt, slotEvidence_of_first words (distinct index fits),
    totalTrials_eq_listedTrials distinct]
  rfl

theorem chosen_of_best {start : Nat} (begins : start < snapshot.variants.length) :
    let slots : List (VariantEvidence Number) := slotEvidence snapshot platform now
    let best := ((rotation start snapshot.variants.length).foldl
        (keepBetter (slotScore curves slots)) (start, none)).1
    ∃ wording,
      Chosen curves snapshot platform now
        ⟨wrap best, trialsAt slots best, (slots[best]?.map VariantEvidence.fans).getD 0, .fanBandit⟩
        best wording := by
  intro slots best
  have hasOne : rotation start snapshot.variants.length ≠ [] :=
    List.ne_nil_of_mem ((mem_rotation_iff begins).mpr begins)
  obtain ⟨isSlot, greatest⟩ :=
    @foldl_keepBetter_best Nat Number _ (slotScore curves slots) _ hasOne start
  have fits : best < snapshot.variants.length := (mem_rotation_iff begins).mp isSlot
  have words := List.getElem?_eq_getElem fits
  have evidence := @slotEvidence_of_first Number _ snapshot platform _ now best words
      (distinct best fits)
  refine ⟨snapshot.variants[best], words, rfl, rfl, ?_, ?_, ?_⟩
  · dsimp only [slots]
    rw [trialsAt, evidence]
    rfl
  · dsimp only [slots]
    rw [evidence]
    rfl
  · intro other isOther
    obtain ⟨otherIndex, otherFits, rfl⟩ := List.getElem_of_mem isOther
    have otherWords := List.getElem?_eq_getElem otherFits
    rw [← slotScore_eq_wordingScore distinct words, ← slotScore_eq_wordingScore distinct otherWords]
    exact greatest otherIndex ((mem_rotation_iff begins).mpr otherFits)

end Distinct

/-- Either the first slot that looks unseen is explored, or none looks so. -/
theorem chooseVariant_cases (hasWords : 0 < snapshot.variants.length) :
    (∃ offset < snapshot.variants.length, chooseVariant curves snapshot platform
            (priorCount snapshot platform) now =
          ⟨wrap (cursorSlot snapshot platform offset), 0, 0, .exploreUnseen⟩ ∧
        (Repeats snapshot (cursorSlot snapshot platform offset) ∨
          UnseenAt snapshot platform now (cursorSlot snapshot platform offset)) ∧
        ∀ earlier < offset,
          ¬ Repeats snapshot (cursorSlot snapshot platform earlier) ∧
            ¬ UnseenAt snapshot platform now (cursorSlot snapshot platform earlier)) ∨
      (∀ index < snapshot.variants.length,
          ¬ Repeats snapshot index ∧ ¬ UnseenAt snapshot platform now index) ∧
        ∃ index wording,
          Chosen curves snapshot platform now
            (chooseVariant curves snapshot platform
              (priorCount snapshot platform) now) index wording := by
  have begins := Nat.mod_lt (priorCount snapshot platform).val.toNat hasWords
  rw [chooseVariant, if_neg hasWords.ne']
  dsimp only
  split
  next index found =>
    obtain ⟨offset, fits, rfl, isStale, isFirst⟩ := find?_rotation_eq_some found
    have slotFits : cursorSlot snapshot platform offset <
        snapshot.variants.length :=
      Nat.mod_lt _ hasWords
    left
    refine ⟨offset, fits, rfl, ?_, ?_⟩
    · exact (trials_eq_zero_iff slotFits).mp (eq_of_beq isStale)
    · intro earlier isEarlier
      have earlierFits : cursorSlot snapshot platform earlier <
          snapshot.variants.length :=
        Nat.mod_lt _ hasWords
      rw [← not_or, ← @trials_eq_zero_iff Number _ _ _ _ _ earlierFits]
      exact beq_eq_false_iff_ne.mp (isFirst earlier isEarlier)
  next notFound =>
    have fresh :
        ∀ index < snapshot.variants.length,
          ¬ Repeats snapshot index ∧ ¬ UnseenAt snapshot platform now index := by
      intro index fits
      rw [← not_or, ← @trials_eq_zero_iff Number _ _ _ _ _ fits]
      intro stale
      exact List.find?_eq_none.mp notFound index
        ((mem_rotation_iff begins).mpr fits) (beq_iff_eq.mpr stale)
    obtain ⟨wording, chosen⟩ := @chosen_of_best Number _ _ curves snapshot platform now
        (fun index fits => (fresh index fits).1) _ begins
    exact Or.inr ⟨fresh, _, wording, chosen⟩

end Choice

section Orders

variable {Number : Type} [Field Number] {snapshot : JoinAskSnapshot}
  {posts : List JoinAskPostRow} {platform : Text} {now : OffsetDateTime}

section

variable (same : posts.Perm snapshot.posts)
include same

theorem slotEvidence_of_perm :
    (slotEvidence (snapshot.withPosts posts) platform now :
        List (VariantEvidence Number)) =
      slotEvidence snapshot platform now := by
  rw [slotEvidence_eq_foldl_place, slotEvidence_eq_foldl_place]
  apply List.ext_getElem?
  intro index
  rw [getElem?_foldl_place, getElem?_foldl_place]
  have fans :
      ((snapshot.withPosts posts).posts.filterMap
          (SlotFolds.valueAt (locatePost (snapshot.withPosts posts) platform now) index)).Perm
        (snapshot.posts.filterMap (SlotFolds.valueAt (locatePost snapshot platform now) index)) :=
    same.filterMap _
  by_cases fits : index < snapshot.variants.length
  · have slots : index < (snapshot.withPosts posts).variants.length := fits
    rw [List.getElem?_replicate_of_lt slots, List.getElem?_replicate_of_lt fits,
      Option.map_some, Option.map_some, foldl_record, foldl_record,
      fans.length_eq, (fans.map _).sum_eq, (fans.map _).sum_eq]
  · have noSlot : ¬ index < (snapshot.withPosts posts).variants.length := fits
    rw [List.getElem?_replicate, List.getElem?_replicate, if_neg noSlot, if_neg fits]
    rfl

theorem joinAskHold_of_perm :
    joinAskHold (snapshot.withPosts posts) now platform = joinAskHold snapshot now platform := by
  have sameLive :
      ∀ live : JoinAskPostRow → Bool,
        (snapshot.withPosts posts).posts.any live = snapshot.posts.any live :=
    fun live => same.any_eq
  rw [joinAskHold, joinAskHold, sameLive]
  rfl

theorem priorCount_of_perm :
    priorCount (snapshot.withPosts posts) platform = priorCount snapshot platform := by
  rw [priorCount, priorCount]
  exact congrArg wrap (congrArg Nat.cast (same.countP_eq _))

theorem evaluateJoinAsk_of_perm [LinearOrder Number] {curves : BanditCurves Number} :
    evaluateJoinAsk curves (snapshot.withPosts posts) now =
      evaluateJoinAsk curves snapshot now := by
  have sameAsk :
      ∀ base platform,
        platformAsk curves (snapshot.withPosts posts) now base platform =
          platformAsk curves snapshot now base platform := by
    intro base platform
    rw [platformAsk, platformAsk, priorCount_of_perm same, chooseVariant,
      chooseVariant, slotEvidence_of_perm same]
    rfl
  have sameStep :
      planPlatform curves (snapshot.withPosts posts) now = planPlatform curves snapshot now := by
    funext plan platform
    rw [planPlatform, planPlatform, joinAskHold_of_perm same]
    simp only [sameAsk]
    rfl
  rw [evaluateJoinAsk, evaluateJoinAsk, sameStep]
  rfl

end

end Orders

section Laws

variable {Number : Type} [Field Number] [LinearOrder Number] {curves : BanditCurves Number}
  {snapshot : JoinAskSnapshot} {now : OffsetDateTime} {ask : JoinAskAsk} {variants : List Text}

theorem length_of_mapM_eq_some {items : List JsonValue}
    (parsed : items.mapM parseVariant = some variants) :
    variants.length = items.length := by
  induction items generalizing variants with
  | nil =>
    rw [List.mapM_nil] at parsed
    cases parsed
    rfl
  | cons item rest inductionHypothesis =>
    simp only [List.mapM_cons, Option.bind_eq_bind, Option.bind_eq_some_iff] at parsed
    obtain ⟨first, _, others, parsedRest, isVariants⟩ := parsed
    cases isVariants
    rw [List.length_cons, List.length_cons, inductionHypothesis parsedRest]

theorem parseVariants_length {fromStr : Text → Option JsonValue} {raw : Text}
    (accepted : parseVariants fromStr raw = some variants) :
    0 < variants.length ∧ variants.length ≤ joinAskMaxVariants := by
  rw [parseVariants] at accepted
  split at accepted
  next items _ =>
    split_ifs at accepted with outside
    obtain ⟨hasItems, fits⟩ := not_or.mp outside
    rw [length_of_mapM_eq_some accepted]
    exact ⟨List.length_pos_of_ne_nil hasItems, not_lt.mp fits⟩
  next => cases accepted

theorem text_of_index {platform base : Text} {index : Nat} {wording : Text}
    (bounded : snapshot.variants.length ≤ joinAskMaxVariants)
    (words : snapshot.variants[index]? = some wording)
    (slot :
      (chooseVariant curves snapshot platform (priorCount snapshot platform)
        now).index = wrap index) :
    (platformAsk curves snapshot now base platform).text = wording := by
  have fits := (List.getElem?_eq_some_iff.mp words).1
  have five : joinAskMaxVariants = 5 := rfl
  have exactIndex : ((wrap (index : Int) : U32).val).toNat = index := by
    rw [val_wrap]
    omega
  have text :
      (platformAsk curves snapshot now base platform).text =
        (snapshot.variants[((wrap (index : Int) : U32).val).toNat]?).getD [] :=
    slot ▸ rfl
  rw [text, exactIndex, words]
  rfl

theorem evidenceBelongs_explored_iff {wording : Text}
    (label : ask.selectionReason = .exploreUnseen) (text : ask.text = wording)
    (listed : wording ∈ snapshot.variants) :
    EvidenceBelongs curves snapshot now ask ↔ Unseen snapshot ask.platform now wording := by
  constructor
  · intro law
    exact text ▸ (law.explored label).2
  · intro isUnseen
    refine ⟨⟨fun _ => ⟨wording, listed, isUnseen⟩, fun _ => label⟩,
      fun _ => text ▸ ⟨listed, isUnseen⟩, ?_, ?_, ?_,
      fun posts same => evaluateJoinAsk_of_perm same⟩
    all_goals exact fun other => absurd label other

/-- An ask by the fans keeps the law when nothing listed is unseen. -/
theorem evidenceBelongs_of_chosen {platform base wording : Text} {index : Nat}
    (bounded : snapshot.variants.length ≤ joinAskMaxVariants)
    (seen : ∀ index < snapshot.variants.length, ¬ UnseenAt snapshot platform now index)
    (chosen :
      Chosen curves snapshot platform now
        (chooseVariant curves snapshot platform (priorCount snapshot platform) now) index wording) :
    EvidenceBelongs curves snapshot now (platformAsk curves snapshot now base platform) := by
  have text := @text_of_index _ _ _ curves _ now _ base _ _ bounded chosen.words chosen.slot
  have label : (platformAsk curves snapshot now base platform).selectionReason = .fanBandit :=
    chosen.label
  have listed : wording ∈ snapshot.variants := List.mem_of_getElem? chosen.words
  refine ⟨⟨?_, ?_⟩, ?_, ?_, ?_, ?_, fun posts same =>
    evaluateJoinAsk_of_perm same⟩
  · intro explores
    rw [label] at explores
    cases explores
  · rintro ⟨other, isListed, isUnseen⟩
    obtain ⟨otherIndex, fits, rfl⟩ := List.getElem_of_mem isListed
    exact absurd ⟨_, List.getElem?_eq_getElem fits, isUnseen⟩ (seen otherIndex fits)
  · intro explores
    rw [label] at explores
    cases explores
  · intro _
    rw [text]
    exact chosen.trials
  · intro _
    rw [text]
    exact chosen.fans
  · intro _
    rw [text]
    exact ⟨listed, chosen.best⟩

theorem unseenComesFirst_iff {platform : Text} {offset : Nat}
    (fits : offset < snapshot.variants.length)
    (isStale :
      Repeats snapshot (cursorSlot snapshot platform offset) ∨
        UnseenAt snapshot platform now (cursorSlot snapshot platform offset))
    (isFirst :
      ∀ earlier < offset,
        ¬ Repeats snapshot (cursorSlot snapshot platform earlier) ∧
          ¬ UnseenAt snapshot platform now (cursorSlot snapshot platform earlier)) :
    UnseenComesFirst snapshot platform now ↔
      UnseenAt snapshot platform now (cursorSlot snapshot platform offset) := by
  constructor
  · intro ordered
    rcases isStale with repeated | isUnseen
    · by_contra seen
      obtain ⟨earlier, isEarlier, isUnseen⟩ := ordered offset fits repeated seen
      exact (isFirst earlier isEarlier).2 isUnseen
    · exact isUnseen
  · intro isUnseen copy _ repeated seen
    refine ⟨offset, ?_, isUnseen⟩
    rcases lt_trichotomy offset copy with later | rfl | earlier
    · exact later
    · exact absurd isUnseen seen
    · exact absurd repeated (isFirst copy earlier).1

/-- Evidence belongs to the words and exploration ends where an unseen wording
comes up before every copy. -/
theorem evidenceBelongs_iff
    (curves : BanditCurves Number)
    (fromStr : Text → Option JsonValue)
    (raw : Text)
    (snapshot : JoinAskSnapshot)
    (now : OffsetDateTime)
    (ask : JoinAskAsk)
    (accepted : parseVariants fromStr raw = some snapshot.variants)
    (asked : ask ∈ (evaluateJoinAsk curves snapshot now).asks) :
    EvidenceBelongs curves snapshot now ask ↔ UnseenComesFirst snapshot ask.platform now := by
  obtain ⟨hasWords, bounded⟩ := parseVariants_length accepted
  obtain ⟨platform, _, _, base, _, rfl⟩ := (mem_asks_iff ask).mp asked
  have samePlatform : (platformAsk curves snapshot now base platform).platform = platform := rfl
  rcases @chooseVariant_cases _ _ _ curves _ platform now hasWords with
    ⟨offset, fits, choice, isStale, isFirst⟩ |
    ⟨fresh, index, wording, chosen⟩
  · have slotFits : cursorSlot snapshot platform offset <
        snapshot.variants.length :=
      Nat.mod_lt _ hasWords
    have words := List.getElem?_eq_getElem slotFits
    have text := @text_of_index _ _ _ curves _ now _ base _ _ bounded words
      (congrArg VariantChoice.index choice)
    have label : (platformAsk curves snapshot now base platform).selectionReason = .exploreUnseen :=
      congrArg VariantChoice.selectionReason choice
    rw [evidenceBelongs_explored_iff label text (List.getElem_mem slotFits),
      samePlatform, unseenComesFirst_iff fits isStale isFirst, UnseenAt, words]
    simp
  · refine iff_of_true ?_ ?_
    · exact evidenceBelongs_of_chosen bounded
        (fun index fits => (fresh index fits).2) chosen
    · intro offset fits repeated _
      exact absurd repeated (fresh _ (Nat.mod_lt _ hasWords)).1

theorem unseenComesFirst_of_nodup (distinct : snapshot.variants.Nodup) (platform : Text)
    (now : OffsetDateTime) :
    UnseenComesFirst snapshot platform now := by
  intro offset fits repeated _
  obtain ⟨earlier, isEarlier, same⟩ := repeated
  have slotFits : cursorSlot snapshot platform offset <
      snapshot.variants.length :=
    Nat.mod_lt _ (Nat.zero_lt_of_lt fits)
  have sameSlot := (List.getElem?_inj (isEarlier.trans slotFits) distinct).mp same
  exact absurd sameSlot isEarlier.ne

end Laws

/-- A reader of the settings below, as JSON reads them. -/
def settingReader (raw : Text) : Option JsonValue :=
  if raw = "[\"join us\",\"come along\"]".toList then
    some (.array [.string "join us", .string "come along"])
  else if raw = "[\"join us\",\"join us\"]".toList then
    some (.array [.string "join us", .string "join us"])
  else
    none

/-- A post of the hundredth day that brought two fans in its week. -/
def postWithFans (text : Text) : JoinAskPostRow where
  captureContext := none
  platform := "facebook".toList
  status := "posted".toList
  createdAt := 100 * nanosPerDay
  text := text
  postedAt := some (100 * nanosPerDay)
  fans7d := some 2

def postedOnFacebook (variants : List Text) : JoinAskSnapshot where
  captureContext := none
  variants := variants
  cadenceDays := 7
  platforms := ["facebook".toList]
  memberSiteBaseUrl := some "https://band.example".toList
  connectedPlatforms := ["facebook".toList]
  posts := variants.dedup.map postWithFans
  instagramPhotoCount := 0
  imageUrl := none

def plainCurves : BanditCurves ℚ := ⟨id, id⟩

/-- The ask two weeks after the posts. -/
def facebookAsk (variants : List Text) : JoinAskAsk :=
  platformAsk plainCurves (postedOnFacebook variants)
    (114 * nanosPerDay) "https://band.example".toList "facebook".toList

def twoWordings : List Text := ["join us".toList, "come along".toList]

def oneWordingTwice : List Text := ["join us".toList, "join us".toList]

theorem evidenceBelongs_twoWordings :
    (facebookAsk twoWordings).selectionReason = .fanBandit ∧
      EvidenceBelongs plainCurves (postedOnFacebook twoWordings)
        (114 * nanosPerDay) (facebookAsk twoWordings) := by
  have accepted :
      parseVariants settingReader
          "[\"join us\",\"come along\"]".toList =
        some twoWordings := by
    decide +kernel
  have asked :
      facebookAsk twoWordings ∈
        (evaluateJoinAsk plainCurves (postedOnFacebook twoWordings)
          (114 * nanosPerDay)).asks := by
    decide +kernel
  have distinct : (postedOnFacebook twoWordings).variants.Nodup := by
    decide +kernel
  refine ⟨by decide +kernel, ?_⟩
  exact (evidenceBelongs_iff plainCurves settingReader _ _ _ _ accepted asked).mpr
      (unseenComesFirst_of_nodup distinct _ _)

/-- A wording listed twice is explored though every listed wording was seen. -/
theorem oneWordingTwice_explores :
    parseVariants settingReader "[\"join us\",\"join us\"]".toList =
        some oneWordingTwice ∧
      facebookAsk oneWordingTwice ∈
        (evaluateJoinAsk plainCurves (postedOnFacebook oneWordingTwice)
          (114 * nanosPerDay)).asks ∧
      ¬ EvidenceBelongs plainCurves (postedOnFacebook oneWordingTwice)
        (114 * nanosPerDay) (facebookAsk oneWordingTwice) := by
  refine ⟨by decide +kernel, by decide +kernel, ?_⟩
  intro law
  have explores : (facebookAsk oneWordingTwice).selectionReason = .exploreUnseen := by
    decide +kernel
  obtain ⟨wording, isListed, isUnseen⟩ := law.unseen.mp explores
  have seen :
      ∀ wording ∈ oneWordingTwice,
        carriedFans (postedOnFacebook oneWordingTwice) "facebook".toList
          (114 * nanosPerDay) wording ≠ [] := by
    decide +kernel
  exact seen wording isListed isUnseen

end CrowdRelay
