import CrowdRelay.LinkParts

namespace CrowdRelay

open TextScan

/-!
# A link appended at dispatch

The review of a dispatched post reads the draft with the tracked link behind
it. Every check of the draft is one of the whole text too, except the share of
capitals, which the letters of the link dilute.
-/

/-- Whitespace keeps the words apart that lower-casing looks at. -/
def PartsAtWhitespace (lower : Text → Text) : Prop :=
  ∀ front white back, isWhitespace white = true →
    lower (front ++ white :: back) = lower front ++ lower (white :: back)

def withTransportLink (draft link : Text) : Text := draft ++ '\n' :: '\n' :: link

/-- The duplicate check is run against the draft itself. -/
def PublishContext.dispatching (context : PublishContext)
    (draft : Text) : PublishContext :=
  { context with dedupeText := some draft }

/-- What is left of a text without its links. -/
def substantive (basis : Text) : Text := normalizeSpaces (removeLinks (linkTexts basis) basis)

/-- The text shouts, and is long enough for that to matter. -/
def Shouts (tables : TextTables) (trimmed : Text) : Prop :=
  40 < trimmed.length ∧ 1 / 2 < capitalRatio tables trimmed

/-- Every check of the review but that of the capitals is passed. -/
structure PassesApart
    (tables : TextTables)
    (context : PublishContext)
    (trimmed basis : Text) : Prop where
  someText : trimmed ≠ []
  substantial :
    context.channel.minimumCharacters ≤ (substantive basis).length
  fits : trimmed.length ≤ context.channel.maximumCharacters
  filledIn :
    ∀ marker ∈ templateMarkers, ¬ marker <:+: tables.toLowercase trimmed
  fewLinks : (linkTexts trimmed).length ≤ 2
  approvedLinks :
    ∀ link ∈ linkTexts trimmed, isApproved context link = true
  noContact :
    containsContactDetails (removeLinks (linkTexts trimmed) trimmed) = false
  noFlood : hasPunctuationFlood trimmed = false
  fresh : contentHash tables basis ∉ context.recentContentHashes

variable {tables : TextTables} {context : PublishContext}

section Checks

variable {body : Text}

theorem if_hold_eq_publish_iff {fails : Prop} [Decidable fails] {reason : HoldReason}
    {later : PublishVerdict} :
    (if fails then .holdForHuman reason else later) = PublishVerdict.publish ↔
      ¬ fails ∧ later = .publish := by
  refine ⟨passed_of_publish, ?_⟩
  rintro ⟨passed, published⟩
  rw [if_neg passed, published]

/-- The review publishes what passes every check. -/
theorem publish_iff :
    reviewOutboundPost tables body context = .publish ↔
      PassesApart tables context (trim body) (context.dedupeText.getD (trim body)) ∧
        ¬ Shouts tables (trim body) := by
  have noMarkers :
      ¬ templateMarkers.any (contains · (tables.toLowercase (trim body))) = true ↔
        ∀ marker ∈ templateMarkers, ¬ marker <:+: tables.toLowercase (trim body) := by
    simp only [List.any_eq_true, contains_iff_isInfix, not_exists, not_and]
  have allApproved :
      ¬ (extractLinks (trim body)).any
          (fun extracted => !isApproved context extracted.link) = true ↔
        ∀ link ∈ linkTexts (trim body), isApproved context link = true := by
    simp [linkTexts]
  have counted : (linkTexts (trim body)).length = (extractLinks (trim body)).length :=
    List.length_map _
  have atMost :
      ¬ context.channel.maximumLinks < (extractLinks (trim body)).length ↔
        (linkTexts (trim body)).length ≤ 2 := by
    rw [counted]
    exact not_lt
  unfold reviewOutboundPost
  simp only [if_hold_eq_publish_iff, noMarkers, allApproved, atMost, withoutLinks_eq]
  constructor
  · rintro ⟨someText, substantial, fits, filledIn, fewLinks, approved,
      noContact, calm, noFlood, fresh, -⟩
    exact
      ⟨{ someText := by simpa using someText
         substantial := not_lt.mp substantial
         fits := not_lt.mp fits
         filledIn := filledIn
         fewLinks := fewLinks
         approvedLinks := approved
         noContact := eq_false_of_ne_true noContact
         noFlood := eq_false_of_ne_true noFlood
         fresh := fresh }, calm⟩
  · rintro ⟨passes, calm⟩
    exact
      ⟨by simpa using passes.someText, not_lt.mpr passes.substantial,
        not_lt.mpr passes.fits, passes.filledIn, passes.fewLinks,
        passes.approvedLinks, ne_true_of_eq_false passes.noContact, calm,
        ne_true_of_eq_false passes.noFlood, passes.fresh, trivial⟩

end Checks

section Parts

variable {white : Char} {front back rest : Text} {run : Nat}

theorem hasDigitRun_append (found : hasDigitRun run front = true) :
    hasDigitRun run (front ++ back) = true := by
  induction front generalizing run with
  | nil => cases found
  | cons character later inductionHypothesis =>
    rw [List.cons_append]
    unfold hasDigitRun at found ⊢
    split_ifs at found ⊢
    · rw [Bool.or_eq_true] at found ⊢
      exact found.imp_right inductionHypothesis
    · exact inductionHypothesis found
    · exact inductionHypothesis found

theorem containsContactDetails_parted (isWhite : isWhitespace white = true)
    (found : containsContactDetails front = true) :
    containsContactDetails (front ++ white :: back) = true := by
  unfold containsContactDetails at found ⊢
  rw [Bool.or_eq_true] at found ⊢
  refine found.imp (fun address => ?_) hasDigitRun_append
  rw [splitWhitespace_append isWhite, List.any_append, address, Bool.true_or]

theorem hasPunctuationFloodFrom_append {last : Char}
    (found : hasPunctuationFloodFrom run last front = true) :
    hasPunctuationFloodFrom run last (front ++ back) = true := by
  induction front generalizing run last with
  | nil => cases found
  | cons character later inductionHypothesis =>
    rw [List.cons_append]
    unfold hasPunctuationFloodFrom at found ⊢
    split_ifs at found ⊢
    · simp only [Bool.or_eq_true] at found ⊢
      exact found.imp_right inductionHypothesis
    · simp only [Bool.or_eq_true] at found ⊢
      exact found.imp_right inductionHypothesis
    · exact inductionHypothesis found

end Parts

variable {draft link : Text}

theorem removeLinks_nil (links : List Text) : removeLinks links [] = [] := by
  induction links with
  | nil => rfl
  | cons link later inductionHypothesis => exact inductionHypothesis

theorem exists_trim_shape (draft : Text) :
    ∃ before after,
      draft = before ++ (trim draft ++ after) ∧
      (∀ character ∈ before, isWhitespace character = true) ∧
      ∀ character ∈ after, isWhitespace character = true := by
  obtain ⟨after, shape, blank⟩ := leading_append_trim_append draft
  rw [List.append_assoc] at shape
  exact ⟨leading draft, after, shape, fun _ => List.mem_takeWhile_imp, blank⟩

theorem normalizeSpaces_trim (draft : Text) :
    normalizeSpaces (trim draft) = normalizeSpaces draft := by
  obtain ⟨before, after, shape, blankBefore, blankAfter⟩ := exists_trim_shape draft
  unfold normalizeSpaces
  conv_rhs => rw [shape]
  rw [splitWhitespace_gap_append blankBefore, splitWhitespace_append_gap blankAfter]

theorem contentHash_trim (draft : Text) :
    contentHash tables (trim draft) = contentHash tables draft := by
  rw [contentHash, normalizeSpaces_trim, contentHash]

/-- Whitespace at the ends of a text is nothing to the words left of it. -/
theorem splitWhitespace_removeLinks_gap {links : List Text}
    (areLinks : ∀ link ∈ links, IsLinkText link) {gap text : Text}
    (blank : ∀ character ∈ gap, isWhitespace character = true) :
    TextScan.splitWhitespace (removeLinks links (gap ++ text)) =
        TextScan.splitWhitespace (removeLinks links text) ∧
      TextScan.splitWhitespace (removeLinks links (text ++ gap)) =
        TextScan.splitWhitespace (removeLinks links text) := by
  have before : ∀ {gap text : Text}, (∀ character ∈ gap, isWhitespace character = true) →
      TextScan.splitWhitespace (removeLinks links (gap ++ text)) =
        TextScan.splitWhitespace (removeLinks links text) := by
    intro gap text blank
    induction gap with
    | nil => rfl
    | cons first rest inductionHypothesis =>
      rw [List.forall_mem_cons] at blank
      have parted := @removeLinks_parted links areLinks first blank.1 [] (rest ++ text)
      rw [List.cons_append, ← inductionHypothesis blank.2]
      rw [List.nil_append, removeLinks_nil] at parted
      rw [parted, splitWhitespace_append blank.1]
      rfl
  refine ⟨before blank, ?_⟩
  cases gap with
  | nil => rw [List.append_nil]
  | cons first rest =>
    rw [List.forall_mem_cons] at blank
    have nothing := @before rest [] blank.2
    rw [List.append_nil, removeLinks_nil] at nothing
    rw [removeLinks_parted areLinks blank.1, splitWhitespace_append blank.1, nothing]
    exact List.append_nil _

theorem linkTexts_trim (draft : Text) : linkTexts (trim draft) = linkTexts draft := by
  obtain ⟨before, after, shape, blankBefore, blankAfter⟩ := exists_trim_shape draft
  conv_rhs => rw [shape]
  rw [linkTexts_gap_append blankBefore, linkTexts_append_gap blankAfter]

theorem substantive_trim (draft : Text) : substantive (trim draft) = substantive draft := by
  obtain ⟨before, after, shape, blankBefore, blankAfter⟩ := exists_trim_shape draft
  have areLinks : ∀ link ∈ linkTexts draft, IsLinkText link := fun _ => isLinkText_of_mem
  have sameWords :
      TextScan.splitWhitespace (removeLinks (linkTexts draft) (trim draft)) =
        TextScan.splitWhitespace (removeLinks (linkTexts draft) draft) := by
    conv_rhs => arg 1; arg 2; rw [shape]
    rw [(splitWhitespace_removeLinks_gap areLinks blankBefore).1,
      (splitWhitespace_removeLinks_gap areLinks blankAfter).2]
  rw [substantive, substantive, linkTexts_trim, normalizeSpaces, sameWords]
  rfl

/-- A draft and a link are trimmed at the start of one and the end of the
other, and what is between them is whitespace. -/
theorem trim_withTransportLink (someText : trim draft ≠ []) (isLink : IsLinkText link) :
    ∃ white rest,
      isWhitespace white = true ∧
      (∀ character ∈ rest, isWhitespace character = true) ∧
      trim (withTransportLink draft link) = trim draft ++ white :: (rest ++ link) := by
  obtain ⟨before, after, shape, blankBefore, blankAfter⟩ := exists_trim_shape draft
  obtain ⟨white, rest, gap⟩ : ∃ white rest, after ++ ['\n', '\n'] = white :: rest :=
    List.exists_cons_of_ne_nil (by simp)
  have newline : isWhitespace '\n' = true := by
    decide
  have blank : ∀ character ∈ white :: rest, isWhitespace character = true := by
    rw [← gap]
    exact List.forall_mem_append.mpr ⟨blankAfter, by simp [newline]⟩
  rw [List.forall_mem_cons] at blank
  refine ⟨white, rest, blank.1, blank.2, ?_⟩
  have whole :
      withTransportLink draft link = before ++ (trim draft ++ white :: (rest ++ link)) := by
    have behind : white :: (rest ++ link) = after ++ '\n' :: '\n' :: link := by
      rw [← List.cons_append, ← gap, List.append_assoc]
      rfl
    rw [behind]
    conv_lhs => rw [withTransportLink, shape]
    simp
  have startsVisible : ∀ nonempty,
      isWhitespace ((trim draft ++ white :: (rest ++ link)).head nonempty) = false := by
    intro nonempty
    rw [List.head_append_of_ne_nil someText]
    obtain ⟨first, later, isCons⟩ := List.exists_cons_of_ne_nil someText
    obtain ⟨more, starts⟩ : first :: later <+: draft.dropWhile isWhitespace := by
      rw [← isCons]
      exact List.rdropWhile_prefix _ _
    have dropped : draft.dropWhile isWhitespace ≠ [] := by
      rw [← starts]
      exact List.cons_ne_nil _ _
    have visible := List.head_dropWhile_not isWhitespace dropped
    simp only [← starts, List.cons_append, List.head_cons] at visible
    simpa [isCons] using visible
  have endsVisible :
      (trim draft ++ white :: (rest ++ link)).rdropWhile isWhitespace =
        trim draft ++ white :: (rest ++ link) := by
    rw [List.rdropWhile_eq_self_iff]
    intro nonempty isWhite
    have atEnd :
        (trim draft ++ white :: (rest ++ link)).getLast nonempty =
          link.getLast isLink.nonempty := by
      have shape :
          trim draft ++ white :: (rest ++ link) = (trim draft ++ white :: rest) ++ link := by
        simp
      simp only [shape, List.getLast_append_of_ne_nil _ isLink.nonempty]
    rw [atEnd] at isWhite
    exact isLink.apart isWhite (List.getLast_mem _)
  rw [whole, trim, dropWhile_append_blank blankBefore startsVisible, endsVisible]

theorem length_substantive_of_blank (blank : trim draft = []) : (substantive draft).length = 0 := by
  rw [← substantive_trim, blank]
  decide

theorem passesApart_of_dispatched (parts : PartsAtWhitespace tables.toLowercase)
    (isLink : IsOneLink link)
    (passes : PassesApart tables context (trim (withTransportLink draft link)) draft) :
    PassesApart tables context (trim draft) draft := by
  have isText := isLink.isLinkText
  have someText : trim draft ≠ [] := by
    intro blank
    have substantial := passes.substantial
    rw [length_substantive_of_blank blank] at substantial
    cases channel : context.channel <;>
      simp [channel, PublishChannel.minimumCharacters] at substantial
  obtain ⟨white, rest, isWhite, blank, shape⟩ := trim_withTransportLink someText isText
  have links :
      linkTexts (trim (withTransportLink draft link)) = linkTexts (trim draft) ++ [link] := by
    rw [shape, linkTexts_parted isWhite, linkTexts_gap_append blank, isLink.linkTexts_eq]
  have few : (linkTexts (trim draft)).length ≤ 1 := by
    have fewLinks := passes.fewLinks
    rw [links, List.length_append, List.length_singleton] at fewLinks
    omega
  have longer : (trim draft).length ≤ (trim (withTransportLink draft link)).length := by
    rw [shape, List.length_append]
    omega
  exact
    { someText := someText
      substantial := passes.substantial
      fits := longer.trans passes.fits
      filledIn := by
        intro marker isMarker inDraft
        apply passes.filledIn marker isMarker
        rw [shape, parts _ _ _ isWhite]
        exact inDraft.trans (List.prefix_append _ _).isInfix
      fewLinks := few.trans (by decide)
      approvedLinks := by
        intro other isOther
        apply passes.approvedLinks
        rw [links]
        exact List.mem_append_left _ isOther
      noContact := by
        by_contra contact
        have areLinks : ∀ other ∈ linkTexts (trim draft) ++ [link], IsLinkText other := by
          rw [← links]
          exact fun _ => isLinkText_of_mem
        have sameWords :
            removeLinks (linkTexts (trim draft) ++ [link]) (trim draft) =
              removeLinks (linkTexts (trim draft)) (trim draft) := by
          rw [removeLinks, List.foldl_append]
          exact replace_eq_self (isLink.not_left few)
        have noContact := passes.noContact
        rw [links, shape, removeLinks_parted areLinks isWhite, sameWords,
          containsContactDetails_parted isWhite (eq_true_of_ne_false contact)] at noContact
        cases noContact
      noFlood := by
        by_contra floods
        have noFlood := passes.noFlood
        rw [shape, hasPunctuationFlood, hasPunctuationFloodFrom_append (eq_true_of_ne_false floods)]
          at noFlood
        cases noFlood
      fresh := passes.fresh }

/-- The review does not let the text out. -/
def IsHeld (tables : TextTables) (body : Text)
    (context : PublishContext) : Prop :=
  reviewOutboundPost tables body context ≠ .publish

/-- The draft is held for its capitals, or for a third text that stood in for
it in the checks of length and of duplicates. -/
def HeldApart (tables : TextTables) (context : PublishContext)
    (draft : Text) : Prop :=
  Shouts tables (trim draft) ∨
    ∃ other,
      context.dedupeText = some other ∧
      ((substantive other).length < context.channel.minimumCharacters ∨
        contentHash tables other ∈ context.recentContentHashes)

/-- The whole text passes every check, with the letters of the link counted
towards the share of capitals. -/
structure Rescued
    (tables : TextTables)
    (context : PublishContext)
    (draft link : Text) : Prop where
  heldApart : HeldApart tables context draft
  calm : ¬ Shouts tables (trim (withTransportLink draft link))
  passes :
    PassesApart tables context (trim (withTransportLink draft link)) draft

theorem passesApart_dispatching_iff {trimmed basis : Text} :
    PassesApart tables (context.dispatching draft) trimmed basis ↔
      PassesApart tables context trimmed basis := by
  constructor
  · rintro ⟨someText, substantial, fits, filledIn, fewLinks, approvedLinks,
      noContact, noFlood, fresh⟩
    exact ⟨someText, substantial, fits, filledIn, fewLinks, approvedLinks,
      noContact, noFlood, fresh⟩
  · rintro ⟨someText, substantial, fits, filledIn, fewLinks, approvedLinks,
      noContact, noFlood, fresh⟩
    exact ⟨someText, substantial, fits, filledIn, fewLinks, approvedLinks,
      noContact, noFlood, fresh⟩

theorem dispatched_publish_iff :
    reviewOutboundPost tables (withTransportLink draft link)
        (context.dispatching draft) = .publish ↔
      PassesApart tables context (trim (withTransportLink draft link)) draft ∧
        ¬ Shouts tables (trim (withTransportLink draft link)) := by
  rw [publish_iff, passesApart_dispatching_iff]
  rfl

theorem isHeld_of_heldApart (held : HeldApart tables context draft) :
    IsHeld tables draft context := by
  intro published
  obtain ⟨passes, calm⟩ := publish_iff.mp published
  rcases held with shouts | ⟨other, isOther, short | stale⟩
  · exact calm shouts
  · have substantial := passes.substantial
    rw [isOther, Option.getD_some] at substantial
    exact absurd short (not_lt.mpr substantial)
  · have fresh := passes.fresh
    rw [isOther, Option.getD_some] at fresh
    exact fresh stale

theorem heldApart_of_isHeld (passes : PassesApart tables context (trim draft) draft)
    (held : IsHeld tables draft context) :
    HeldApart tables context draft := by
  by_contra free
  unfold HeldApart at free
  push Not at free
  obtain ⟨calm, others⟩ := free
  refine held (publish_iff.mpr ⟨?_, calm⟩)
  cases duplicate : context.dedupeText with
  | none =>
    refine { passes with substantial := ?_, fresh := ?_ }
    · rw [Option.getD_none, substantive_trim]
      exact passes.substantial
    · rw [Option.getD_none, contentHash_trim]
      exact passes.fresh
  | some other =>
    obtain ⟨substantial, fresh⟩ := others other duplicate
    exact { passes with substantial := substantial, fresh := fresh }

/--
A link behind a held draft leaves it held exactly unless the draft's own
text is held for nothing but its capitals and the link dilutes them.
-/
theorem transport_link_keeps_hold_iff
    (tables : TextTables)
    (context : PublishContext)
    (draft link : Text)
    (parts : PartsAtWhitespace tables.toLowercase)
    (isLink : IsOneLink link) :
    (IsHeld tables draft context →
        IsHeld tables (withTransportLink draft link)
          (context.dispatching draft)) ↔
      ¬ Rescued tables context draft link := by
  constructor
  · intro keeps rescued
    exact
      keeps (isHeld_of_heldApart rescued.heldApart)
        (dispatched_publish_iff.mpr ⟨rescued.passes, rescued.calm⟩)
  · intro notRescued held published
    obtain ⟨passes, calm⟩ := dispatched_publish_iff.mp published
    have ofDraft := passesApart_of_dispatched parts isLink passes
    exact notRescued
      { heldApart := heldApart_of_isHeld ofDraft held
        calm := calm
        passes := passes }

def tourLink : Text := "https://virya.music/l/tour".toList

def fragment : Text := "new video".toList

def fragmentDigest : List UInt8 :=
  [40, 62, 134, 232, 213, 123, 3, 116, 174, 238, 184, 131, 29, 27, 93, 49,
    236, 154, 107, 220, 177, 61, 66, 200, 143, 224, 193, 30, 43, 132, 163, 235]

theorem fragment_stays_held :
    IsHeld (asciiTables fragmentDigest) (withTransportLink fragment tourLink)
      (siteContext.dispatching fragment) := by
  have notRescued :
      ¬ Rescued (asciiTables fragmentDigest) siteContext fragment tourLink :=
    fun rescued => absurd rescued.passes.substantial (by decide +kernel)
  have held : IsHeld (asciiTables fragmentDigest) fragment siteContext := by
    unfold IsHeld
    decide +kernel
  have isLink : IsOneLink tourLink := by
    unfold IsOneLink
    decide +kernel
  exact
    (transport_link_keeps_hold_iff _ _ _ _
      (fun _ _ _ _ => List.map_append) isLink).mpr notRescued held

def shoutedDraft : Text := "NEW SINGLE OUT THIS FRIDAY, recorded live in one take".toList

def shoutedDraftDigest : List UInt8 :=
  [66, 208, 116, 116, 30, 159, 177, 154, 22, 91, 181, 181, 192, 23, 181, 202,
    32, 62, 28, 7, 44, 142, 94, 96, 139, 161, 218, 35, 45, 250, 247, 219]

/-- A draft held for its capitals goes out with an approved link behind it. -/
theorem shouted_draft_goes_out_with_a_link :
    ¬ ∀ (tables : TextTables) (context : PublishContext) (draft link : Text),
      IsHeld tables draft context →
      isApproved context link = true →
      IsHeld tables (withTransportLink draft link)
        (context.dispatching draft) := by
  intro neverRescued
  have held :
      IsHeld (asciiTables shoutedDraftDigest) shoutedDraft siteContext := by
    unfold IsHeld
    decide +kernel
  have published :
      reviewOutboundPost (asciiTables shoutedDraftDigest)
          (withTransportLink shoutedDraft tourLink)
          (siteContext.dispatching shoutedDraft) =
        .publish := by
    decide +kernel
  exact neverRescued _ _ _ _ held (by decide +kernel) published

end CrowdRelay
