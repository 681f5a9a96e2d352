import CrowdRelay.PublishGuard

namespace CrowdRelay

open TextScan

/-!
# The links of a published post

A renderer makes a link of a scheme in any letter case, while the review looks
for schemes in lower case.  A place at which a scheme begins therefore lies in
a link the review has seen exactly when a lowercase scheme begins there, or
before it with nothing that ends a link in between.
-/

/-- A scheme begins here, read through a folding of the letter case. -/
def SchemeAt (fold : Char → Char) (text : Text) (place : Nat) : Prop :=
  ∃ scheme ∈ schemes, scheme <+: (text.drop place).map fold

instance SchemeAt.decidable
    (fold : Char → Char)
    (text : Text)
    (place : Nat) :
    Decidable (SchemeAt fold text place) :=
  inferInstanceAs (Decidable (∃ scheme ∈ schemes, _))

/-- A scheme begins here as a renderer reads it, in any letter case. -/
abbrev RenderedSchemeAt : Text → Nat → Prop := SchemeAt Char.toLower

/-- A scheme begins here as the review reads it, in lower case. -/
abbrev PlainSchemeAt : Text → Nat → Prop := SchemeAt id

/-- Nothing ends a link from one place to another. -/
def Unbroken (text : Text) (first last : Nat) : Prop :=
  ∀ place character,
    first ≤ place → place ≤ last → text[place]? = some character →
    isTerminator character = false

def ExtractedLink.Covers (extracted : ExtractedLink) (place : Nat) : Prop :=
  extracted.start ≤ place ∧ place < extracted.start + extracted.link.length

section Schemes

variable (scheme : Text)

theorem schemes_nonempty : ∀ scheme ∈ schemes, scheme ≠ [] := by
  decide

theorem scheme_not_terminator (isScheme : scheme ∈ schemes) (character : Char)
    (isSpelled : character ∈ scheme) :
    isTerminator character = false := by
  have spelled : ∀ letters ∈ schemes, letters.all (!isTerminator ·) = true := by
    decide
  have goesOn := List.all_eq_true.mp (spelled scheme isScheme) character isSpelled
  rw [Bool.not_eq_true'] at goesOn
  exact goesOn

theorem scheme_head (isScheme : scheme ∈ schemes) (inScheme : 0 < scheme.length) :
    isSentenceEnd scheme[0] = false := by
  have spelled : ∀ letters ∈ schemes, (letters.take 1).all (!isSentenceEnd ·) = true := by
    decide
  have isFirst : scheme[0] ∈ scheme.take 1 :=
    List.mem_take_iff_getElem.mpr ⟨0, by simpa using inScheme, rfl⟩
  have stays := List.all_eq_true.mp (spelled scheme isScheme) _ isFirst
  rw [Bool.not_eq_true'] at stays
  exact stays

theorem whitespace_terminates {character : Char} (isWhite : isWhitespace character = true) :
    isTerminator character = true := by
  unfold isTerminator
  rw [isWhite, Bool.true_or]

/-- A folding of the letter case that leaves everything alone which ends a
link or is trimmed off one. -/
structure KeepsDelimiters (fold : Char → Char) : Prop where
  terminator :
    ∀ character, isTerminator character = true → fold character = character
  sentenceEnd :
    ∀ character, isSentenceEnd character = true → fold character = character

theorem id_keepsDelimiters : KeepsDelimiters id where
  terminator _ _ := rfl
  sentenceEnd _ _ := rfl

theorem capital_not_delimiter :
    ∀ offset < 26,
      isTerminator (Char.ofNat (65 + offset)) = false ∧
        isSentenceEnd (Char.ofNat (65 + offset)) = false := by
  decide

/-- Only a capital letter is changed, and none ends a link or is trimmed off
one. -/
theorem toLower_eq_or_not_delimiter (character : Char) :
    character.toLower = character ∨
      (isTerminator character = false ∧ isSentenceEnd character = false) := by
  by_cases isCapital : character.val ≥ 'A'.val ∧ character.val ≤ 'Z'.val
  · have lower : 65 ≤ character.toNat := UInt32.le_iff_toNat_le.mp isCapital.1
    have upper : character.toNat ≤ 90 := UInt32.le_iff_toNat_le.mp isCapital.2
    have tableEntry := capital_not_delimiter (character.toNat - 65) (by omega)
    rw [Nat.add_sub_cancel' lower, Char.ofNat_toNat] at tableEntry
    exact .inr tableEntry
  · left
    unfold Char.toLower
    rw [dif_neg isCapital]

theorem toLower_keepsDelimiters : KeepsDelimiters Char.toLower where
  terminator character ends := by
    rcases toLower_eq_or_not_delimiter character with same | ⟨goesOn, -⟩
    · exact same
    · rw [goesOn] at ends
      cases ends
  sentenceEnd character ends := by
    rcases toLower_eq_or_not_delimiter character with same | ⟨-, goesOn⟩
    · exact same
    · rw [goesOn] at ends
      cases ends

section Folded

variable {fold : Char → Char} {scheme text : Text} {place : Nat}

theorem prefix_fold_iff :
    scheme <+: (text.drop place).map fold ↔
      ∀ index (inScheme : index < scheme.length),
        ∃ character,
          text[place + index]? = some character ∧
          fold character = scheme[index] := by
  rw [List.prefix_iff_getElem?]
  constructor
  · intro spelled index inScheme
    have isThere := spelled index inScheme
    rw [List.getElem?_map, List.getElem?_drop, Option.map_eq_some_iff] at isThere
    exact isThere
  · intro spelled index inScheme
    rw [List.getElem?_map, List.getElem?_drop, Option.map_eq_some_iff]
    exact spelled index inScheme

/-- The character a scheme begins with neither ends a link nor is trimmed off
one. -/
theorem SchemeAt.head (keeps : KeepsDelimiters fold) (begins : SchemeAt fold text place) :
    ∃ character,
      text[place]? = some character ∧
      isTerminator character = false ∧
      isSentenceEnd character = false := by
  obtain ⟨scheme, isScheme, isPrefix⟩ := begins
  have inScheme : 0 < scheme.length := List.length_pos_iff.mpr (schemes_nonempty scheme isScheme)
  obtain ⟨character, isThere, isSpelled⟩ := prefix_fold_iff.mp isPrefix 0 inScheme
  refine ⟨character, isThere, ?_, ?_⟩
  · by_contra ends
    rw [Bool.not_eq_false] at ends
    have same := keeps.terminator character ends
    rw [isSpelled] at same
    have goesOn := scheme_not_terminator scheme isScheme _ (List.getElem_mem inScheme)
    rw [same, ends] at goesOn
    cases goesOn
  · by_contra ends
    rw [Bool.not_eq_false] at ends
    have same := keeps.sentenceEnd character ends
    rw [isSpelled] at same
    have goesOn := scheme_head scheme isScheme inScheme
    rw [same, ends] at goesOn
    cases goesOn

theorem schemeAt_trim_iff (keeps : KeepsDelimiters fold) :
    SchemeAt fold text place ↔
      (leading text).length ≤ place ∧
      SchemeAt fold (trim text) (place - (leading text).length) := by
  have spelledInTrimmed :
      ∀ scheme ∈ schemes, ∀ index (inScheme : index < scheme.length),
        ∀ character, fold character = scheme[index] →
          (text[place + index]? = some character ↔
            (leading text).length ≤ place + index ∧
            (trim text)[place + index - (leading text).length]? = some character) := by
    intro scheme isScheme index inScheme character isSpelled
    refine getElem?_iff_of_not_whitespace ?_
    by_contra isWhite
    rw [Bool.not_eq_false] at isWhite
    have ends := whitespace_terminates isWhite
    have goesOn := scheme_not_terminator scheme isScheme _ (List.getElem_mem inScheme)
    rw [← isSpelled, keeps.terminator character ends, ends] at goesOn
    cases goesOn
  constructor
  · rintro ⟨scheme, isScheme, isPrefix⟩
    rw [prefix_fold_iff] at isPrefix
    have behind : (leading text).length ≤ place := by
      have inScheme : 0 < scheme.length :=
        List.length_pos_iff.mpr (schemes_nonempty scheme isScheme)
      obtain ⟨character, isThere, isSpelled⟩ := isPrefix 0 inScheme
      exact ((spelledInTrimmed scheme isScheme 0 inScheme character isSpelled).mp isThere).1
    refine ⟨behind, scheme, isScheme, prefix_fold_iff.mpr ?_⟩
    intro index inScheme
    obtain ⟨character, isThere, isSpelled⟩ := isPrefix index inScheme
    refine ⟨character, ?_, isSpelled⟩
    rw [← Nat.sub_add_comm behind]
    exact ((spelledInTrimmed scheme isScheme index inScheme character isSpelled).mp isThere).2
  · rintro ⟨behind, scheme, isScheme, isPrefix⟩
    rw [prefix_fold_iff] at isPrefix
    refine ⟨scheme, isScheme, prefix_fold_iff.mpr ?_⟩
    intro index inScheme
    obtain ⟨character, isThere, isSpelled⟩ := isPrefix index inScheme
    refine ⟨character, ?_, isSpelled⟩
    rw [← Nat.sub_add_comm behind] at isThere
    exact (spelledInTrimmed scheme isScheme index inScheme character
      isSpelled).mpr ⟨behind.trans (Nat.le_add_right _ _), isThere⟩

end Folded

end Schemes

variable {body : Text} {character : Char}

section Runs

variable {start place : Nat}

theorem getElem?_linkRun (behind : start ≤ place)
    (inRun : place < start + (linkRun body start).length) :
    (linkRun body start)[place - start]? = body[place]? := by
  have inside : place - start < (linkRun body start).length := by
    omega
  have split :
      linkRun body start ++ (body.drop start).dropWhile (!isTerminator ·) = body.drop start :=
    List.takeWhile_append_dropWhile
  have samePlace : start + (place - start) = place := Nat.add_sub_cancel' behind
  rw [← List.getElem?_append_left inside, split, List.getElem?_drop, samePlace]

theorem linkRun_unbroken (inRun : place < start + (linkRun body start).length) :
    Unbroken body start place := by
  intro between character behind notPast isThere
  have betweenInRun : between < start + (linkRun body start).length :=
    Nat.lt_of_le_of_lt notPast inRun
  rw [← getElem?_linkRun behind betweenInRun] at isThere
  have goesOn := List.mem_takeWhile_imp (List.mem_of_getElem? isThere)
  rw [Bool.not_eq_true'] at goesOn
  exact goesOn

theorem linkRun_stops (isThere : body[start + (linkRun body start).length]? = some character) :
    isTerminator character = true := by
  rw [← List.getElem?_drop] at isThere
  have stops := takeWhile_end isThere
  rw [Bool.not_eq_false'] at stops
  exact stops

theorem linkRun_pos (begins : PlainSchemeAt body start) : 0 < (linkRun body start).length := by
  obtain ⟨head, isHead, goesOn, -⟩ := begins.head id_keepsDelimiters
  by_contra noRun
  have isEmpty : (linkRun body start).length = 0 := Nat.eq_zero_of_not_pos noRun
  have stops : isTerminator head = true := by
    apply linkRun_stops
    rw [isEmpty]
    exact isHead
  rw [stops] at goesOn
  cases goesOn

theorem linkRun_le_of_unbroken {first : Nat} (unbroken : Unbroken body first place)
    (inBody : place < body.length) (pastStop : start + (linkRun body start).length ≤ place) :
    start + (linkRun body start).length ≤ first := by
  by_contra beforeStop
  have stopInBody := List.getElem?_eq_getElem (Nat.lt_of_le_of_lt pastStop inBody)
  have goesOn := unbroken _ _ (not_le.mp beforeStop).le pastStop stopInBody
  rw [linkRun_stops stopInBody] at goesOn
  cases goesOn

theorem lt_length_linkAt (behind : start ≤ place)
    (inRun : place < start + (linkRun body start).length)
    (isThere : body[place]? = some character) (stays : isSentenceEnd character = false) :
    place < start + (linkAt body start).length := by
  rw [← getElem?_linkRun behind inRun] at isThere
  have inside : place - start < (linkAt body start).length := lt_length_rdropWhile isThere stays
  omega

end Runs

theorem plainSchemeAt_of_findFirst {cursor offset : Nat}
    (found : findFirst schemes (body.drop cursor) = some offset) :
    PlainSchemeAt body (cursor + offset) ∧
      ∀ place, cursor ≤ place → PlainSchemeAt body place → cursor + offset ≤ place := by
  obtain ⟨⟨scheme, isScheme, isPrefix⟩, nowhereBefore⟩ := findFirst_eq_some schemes_nonempty found
  constructor
  · refine ⟨scheme, isScheme, ?_⟩
    rw [List.map_id, ← List.drop_drop]
    exact isPrefix
  · rintro place behind ⟨other, isOther, otherPrefix⟩
    by_contra isEarlier
    refine nowhereBefore other isOther (place - cursor) (by omega) ?_
    rw [List.drop_drop, Nat.add_sub_cancel' behind]
    rw [List.map_id] at otherPrefix
    exact otherPrefix

theorem no_plainSchemeAt_of_findFirst {cursor place : Nat}
    (notFound : findFirst schemes (body.drop cursor) = none) (behind : cursor ≤ place) :
    ¬ PlainSchemeAt body place := by
  rintro ⟨scheme, isScheme, isPrefix⟩
  refine findFirst_eq_none schemes_nonempty notFound scheme isScheme (place - cursor) ?_
  rw [List.drop_drop, Nat.add_sub_cancel' behind]
  rw [List.map_id] at isPrefix
  exact isPrefix

theorem mem_extractLinksFrom_succ {fuel cursor offset : Nat}
    (found : findFirst schemes (body.drop cursor) = some offset) (extracted : ExtractedLink) :
    extracted ∈ extractLinksFrom body (fuel + 1) cursor ↔
      (extracted = ⟨cursor + offset, linkAt body (cursor + offset)⟩ ∧
        linkAt body (cursor + offset) ≠ []) ∨
      extracted ∈ extractLinksFrom body fuel
          (max (cursor + offset + (linkRun body (cursor + offset)).length)
            (cursor + offset + 1)) := by
  rw [extractLinksFrom]
  simp only [found]
  by_cases isEmpty : linkAt body (cursor + offset) = []
  · simp [isEmpty]
  · simp [isEmpty]

theorem extractLinksFrom_sound {fuel cursor : Nat} {extracted : ExtractedLink}
    (isExtracted : extracted ∈ extractLinksFrom body fuel cursor) :
    PlainSchemeAt body extracted.start ∧
      ∀ place, extracted.Covers place → Unbroken body extracted.start place := by
  induction fuel generalizing cursor with
  | zero => cases isExtracted
  | succ fuel inductionHypothesis =>
    cases found : findFirst schemes (body.drop cursor) with
    | none =>
      rw [extractLinksFrom, found] at isExtracted
      cases isExtracted
    | some offset =>
      rcases (mem_extractLinksFrom_succ found extracted).mp isExtracted with ⟨isHere, -⟩ | isLater
      · subst isHere
        refine ⟨(plainSchemeAt_of_findFirst found).1, ?_⟩
        rintro place ⟨-, inLink⟩
        refine linkRun_unbroken (Nat.lt_of_lt_of_le inLink ?_)
        exact Nat.add_le_add_left (List.rdropWhile_prefix isSentenceEnd _).length_le _
      · exact inductionHypothesis isLater

/-- The scan misses no place a lowercase scheme leads up to. -/
theorem extractLinksFrom_complete {fuel cursor first place : Nat}
    (enough : body.length < cursor + fuel) (ahead : cursor ≤ first)
    (begins : PlainSchemeAt body first) (ordered : first ≤ place)
    (unbroken : Unbroken body first place) (isThere : body[place]? = some character)
    (stays : isSentenceEnd character = false) :
    ∃ extracted ∈ extractLinksFrom body fuel cursor, extracted.Covers place := by
  obtain ⟨inBody, -⟩ := List.getElem?_eq_some_iff.mp isThere
  induction fuel generalizing cursor with
  | zero => omega
  | succ fuel inductionHypothesis =>
    cases found : findFirst schemes (body.drop cursor) with
    | none => exact absurd begins (no_plainSchemeAt_of_findFirst found ahead)
    | some offset =>
      obtain ⟨startsHere, isFirst⟩ := plainSchemeAt_of_findFirst found
      have notAfter : cursor + offset ≤ place := (isFirst first ahead begins).trans ordered
      have hasRun := linkRun_pos startsHere
      by_cases inRun : place < cursor + offset + (linkRun body (cursor + offset)).length
      · -- The place lies in the link the scan finds next.
        have covered := lt_length_linkAt notAfter inRun isThere stays
        have nonempty : linkAt body (cursor + offset) ≠ [] := by
          intro isEmpty
          rw [isEmpty, List.length_nil] at covered
          omega
        exact ⟨_, (mem_extractLinksFrom_succ found _).mpr (.inl ⟨rfl, nonempty⟩), notAfter, covered⟩
      · -- The scheme begins behind that link, where the scan goes on.
        have behindRun := linkRun_le_of_unbroken unbroken inBody (not_lt.mp inRun)
        have goesAhead :
            max (cursor + offset + (linkRun body (cursor + offset)).length)
                (cursor + offset + 1) ≤ first :=
          max_le behindRun (by omega)
        obtain ⟨extracted, isExtracted, covers⟩ := inductionHypothesis (by omega) goesAhead
        exact ⟨extracted, (mem_extractLinksFrom_succ found _).mpr (.inr isExtracted), covers⟩

variable {place : Nat}

/-- A place that is no sentence punctuation lies in an extracted link exactly
when a lowercase scheme leads up to it. -/
theorem extractLinks_cover_iff (isThere : body[place]? = some character)
    (stays : isSentenceEnd character = false) :
    (∃ extracted ∈ extractLinks body, extracted.Covers place) ↔
      ∃ first ≤ place, PlainSchemeAt body first ∧ Unbroken body first place := by
  constructor
  · rintro ⟨extracted, isExtracted, covers⟩
    obtain ⟨begins, unbroken⟩ := extractLinksFrom_sound isExtracted
    exact ⟨extracted.start, covers.1, begins, unbroken place covers⟩
  · rintro ⟨first, ordered, begins, unbroken⟩
    exact extractLinksFrom_complete (by omega) (Nat.zero_le first) begins
      ordered unbroken isThere stays

/-- The links the review extracts, at their places in the whole body. -/
def publishedLinks (body : Text) : List ExtractedLink :=
  (extractLinks (trim body)).map fun extracted =>
    { extracted with start := (leading body).length + extracted.start }

/-- A link is an approved one, trailing slashes apart, or an approved origin
followed by nothing or by what ends the host. -/
def LinkApproved (context : PublishContext) (link : Text) : Prop :=
  (∃ approved ∈ context.approvedLinks,
    trimSlashes (trim approved) ≠ [] ∧ trimSlashes link = trimSlashes (trim approved)) ∨
  ∃ origin ∈ context.approvedOrigins,
    trimSlashes origin ≠ [] ∧
      ∃ rest,
        link = trimSlashes origin ++ rest ∧
        ∀ character ∈ rest.head?, character ∈ ['/', '?', '#']

theorem endsAtHostBoundary_iff (rest : Text) :
    endsAtHostBoundary rest = true ↔ ∀ character ∈ rest.head?, character ∈ ['/', '?', '#'] := by
  cases rest with
  | nil => simp [endsAtHostBoundary]
  | cons first rest =>
    unfold endsAtHostBoundary
    rw [decide_eq_true_iff]
    constructor
    · rintro isBoundary _ ⟨⟩
      exact isBoundary
    · intro atHead
      exact atHead first rfl

theorem matchesApprovedOrigin_iff (link origin : Text) :
    matchesApprovedOrigin link origin = true ↔
      trimSlashes origin ≠ [] ∧
        ∃ rest,
          link = trimSlashes origin ++ rest ∧
          ∀ character ∈ rest.head?, character ∈ ['/', '?', '#'] := by
  unfold matchesApprovedOrigin
  rw [Bool.and_eq_true, Bool.and_eq_true, Bool.not_eq_true',
    decide_eq_true_iff, endsAtHostBoundary_iff, List.isEmpty_eq_false_iff]
  constructor
  · rintro ⟨⟨nonempty, rest, isLink⟩, atBoundary⟩
    rw [← isLink, List.drop_left] at atBoundary
    exact ⟨nonempty, rest, isLink.symm, atBoundary⟩
  · rintro ⟨nonempty, rest, isLink, atBoundary⟩
    rw [isLink, List.drop_left]
    exact ⟨⟨nonempty, List.prefix_append _ _⟩, atBoundary⟩

theorem isApproved_iff (context : PublishContext) (link : Text) :
    isApproved context link = true ↔ LinkApproved context link := by
  unfold isApproved LinkApproved
  rw [Bool.or_eq_true, List.any_eq_true, List.any_eq_true]
  simp only [matchesApprovedOrigin_iff, matchesApprovedLink,
    Bool.and_eq_true, Bool.not_eq_true', List.isEmpty_eq_false_iff,
    beq_iff_eq, ne_eq]

theorem passed_of_publish {fails : Prop} [Decidable fails] {reason : HoldReason}
    {later : PublishVerdict}
    (published : (if fails then .holdForHuman reason else later) = PublishVerdict.publish) :
    ¬ fails ∧ later = .publish := by
  by_cases failed : fails
  · rw [if_pos failed] at published
    cases published
  · rw [if_neg failed] at published
    exact ⟨failed, published⟩

theorem links_of_publish {tables : TextTables} {context : PublishContext}
    (published : reviewOutboundPost tables body context = .publish) :
    (extractLinks (trim body)).length ≤ 2 ∧
      ∀ extracted ∈ extractLinks (trim body), LinkApproved context extracted.link := by
  obtain ⟨_, longEnough⟩ := passed_of_publish published
  obtain ⟨_, shortEnough⟩ := passed_of_publish longEnough
  obtain ⟨_, filledIn⟩ := passed_of_publish shortEnough
  obtain ⟨_, linksCounted⟩ := passed_of_publish filledIn
  obtain ⟨tooMany, linksChecked⟩ := passed_of_publish linksCounted
  obtain ⟨unapproved, -⟩ := passed_of_publish linksChecked
  refine ⟨not_lt.mp tooMany, ?_⟩
  intro extracted isExtracted
  rw [← isApproved_iff]
  by_contra notApproved
  refine unapproved (List.any_eq_true.mpr ⟨extracted, isExtracted, ?_⟩)
  rw [Bool.not_eq_true']
  exact Bool.eq_false_iff.mpr notApproved

/-- The places of the published links are those of the extracted ones, behind
the leading whitespace. -/
theorem publishedLinks_cover_add_iff (body : Text) (place : Nat) :
    (∃ extracted ∈ publishedLinks body, extracted.Covers ((leading body).length + place)) ↔
      ∃ extracted ∈ extractLinks (trim body), extracted.Covers place := by
  constructor
  · rintro ⟨_, isPublished, notBefore, notPast⟩
    obtain ⟨extracted, isExtracted, rfl⟩ := List.mem_map.mp isPublished
    rw [Nat.add_assoc] at notPast
    exact ⟨extracted, isExtracted, Nat.le_of_add_le_add_left notBefore,
      Nat.lt_of_add_lt_add_left notPast⟩
  · rintro ⟨extracted, isExtracted, notBefore, notPast⟩
    refine ⟨_, List.mem_map.mpr ⟨extracted, isExtracted, rfl⟩, Nat.add_le_add_left notBefore _, ?_⟩
    rw [Nat.add_assoc]
    exact Nat.add_lt_add_left notPast _

theorem unbroken_leading_add_iff {first last : Nat} (inTrimmed : last < (trim body).length) :
    Unbroken body ((leading body).length + first) ((leading body).length + last) ↔
      Unbroken (trim body) first last := by
  constructor
  · intro unbroken between character notBefore notPast isThere
    refine unbroken ((leading body).length + between) character
      (Nat.add_le_add_left notBefore _) (Nat.add_le_add_left notPast _) ?_
    rw [getElem?_leading_add (Nat.lt_of_le_of_lt notPast inTrimmed)]
    exact isThere
  · intro unbroken between character notBefore notPast isThere
    obtain ⟨offset, isOffset⟩ := Nat.exists_eq_add_of_le
        ((Nat.le_add_right (leading body).length first).trans notBefore)
    subst isOffset
    have offsetLe : offset ≤ last := Nat.le_of_add_le_add_left notPast
    rw [getElem?_leading_add (Nat.lt_of_le_of_lt offsetLe inTrimmed)] at isThere
    exact unbroken offset character (Nat.le_of_add_le_add_left notBefore) offsetLe isThere

/-- A place a scheme begins at for a renderer lies in a link of the review
exactly when a lowercase scheme leads up to it. -/
theorem publishedLinks_cover_iff (begins : RenderedSchemeAt body place) :
    (∃ extracted ∈ publishedLinks body, extracted.Covers place) ↔
      ∃ first ≤ place, PlainSchemeAt body first ∧ Unbroken body first place := by
  obtain ⟨behind, beginsTrimmed⟩ := (schemeAt_trim_iff toLower_keepsDelimiters).mp begins
  obtain ⟨inner, samePlace⟩ := Nat.exists_eq_add_of_le behind
  subst samePlace
  rw [Nat.add_sub_cancel_left] at beginsTrimmed
  obtain ⟨head, isHead, -, stays⟩ := beginsTrimmed.head toLower_keepsDelimiters
  obtain ⟨inTrimmed, -⟩ := List.getElem?_eq_some_iff.mp isHead
  rw [publishedLinks_cover_add_iff, extractLinks_cover_iff isHead stays]
  constructor
  · rintro ⟨first, ordered, plain, unbroken⟩
    refine ⟨(leading body).length + first, Nat.add_le_add_left ordered _,
      ?_, (unbroken_leading_add_iff inTrimmed).mpr unbroken⟩
    rw [PlainSchemeAt, schemeAt_trim_iff id_keepsDelimiters, Nat.add_sub_cancel_left]
    exact ⟨Nat.le_add_right _ _, plain⟩
  · rintro ⟨first, ordered, plain, unbroken⟩
    obtain ⟨behindFirst, plainTrimmed⟩ := (schemeAt_trim_iff id_keepsDelimiters).mp plain
    obtain ⟨offset, isOffset⟩ := Nat.exists_eq_add_of_le behindFirst
    subst isOffset
    rw [Nat.add_sub_cancel_left] at plainTrimmed
    exact ⟨offset, Nat.le_of_add_le_add_left ordered, plainTrimmed,
      (unbroken_leading_add_iff inTrimmed).mp unbroken⟩

/-- Of a body that is published, every scheme a renderer links lies in an
approved link, of which there are at most two, exactly when every such scheme
is lowercase or has a lowercase one before it in the same unbroken run. -/
theorem published_links_approved_iff
    (tables : TextTables)
    (body : Text)
    (context : PublishContext)
    (published : reviewOutboundPost tables body context = .publish) :
    ((∀ place, RenderedSchemeAt body place →
        ∃ extracted ∈ publishedLinks body,
          extracted.Covers place ∧ LinkApproved context extracted.link) ∧
      (publishedLinks body).length ≤ 2) ↔
      ∀ place, RenderedSchemeAt body place →
        ∃ first ≤ place, PlainSchemeAt body first ∧ Unbroken body first place := by
  obtain ⟨fewLinks, allApproved⟩ := links_of_publish published
  constructor
  · rintro ⟨allCovered, -⟩ place begins
    obtain ⟨extracted, isPublished, covers, -⟩ := allCovered place begins
    exact (publishedLinks_cover_iff begins).mp
      ⟨extracted, isPublished, covers⟩
  · intro ledUpTo
    constructor
    · intro place begins
      obtain ⟨extracted, isPublished, covers⟩ :=
        (publishedLinks_cover_iff begins).mpr (ledUpTo place begins)
      refine ⟨extracted, isPublished, covers, ?_⟩
      obtain ⟨original, isExtracted, rfl⟩ := List.mem_map.mp isPublished
      exact allApproved original isExtracted
    · unfold publishedLinks
      rw [List.length_map]
      exact fewLinks

def asciiTables (digest : List UInt8) : TextTables where
  toLowercase text := text.map Char.toLower
  isAlphabetic := Char.isAlpha
  isUppercase := Char.isUpper
  sha256 _ := digest

/-- The review of a post to a channel that may link one site. -/
def siteContext : PublishContext where
  channel := .telegram
  approvedOrigins := ["https://virya.music".toList]
  approvedLinks := []
  recentContentHashes := ∅
  dedupeText := none

def announcementWords : Text := "New single out this Friday, recorded live in one take: ".toList

def announcement : Text := announcementWords ++ "https://virya.music/l/tour".toList

def announcementDigest : List UInt8 :=
  [122, 151, 162, 82, 180, 236, 132, 43, 170, 221, 148, 175, 98, 36, 49, 200,
    153, 37, 168, 44, 80, 178, 84, 5, 87, 83, 238, 47, 96, 119, 187, 210]

theorem announcement_links_approved_iff :
    ((∀ place, RenderedSchemeAt announcement place →
        ∃ extracted ∈ publishedLinks announcement,
          extracted.Covers place ∧ LinkApproved siteContext extracted.link) ∧
      (publishedLinks announcement).length ≤ 2) ↔
      ∀ place, RenderedSchemeAt announcement place →
        ∃ first ≤ place, PlainSchemeAt announcement first ∧ Unbroken announcement first place :=
  published_links_approved_iff (asciiTables announcementDigest) announcement
    siteContext (by decide +kernel)

/-- The same words with a foreign link whose scheme is in capitals. -/
def shoutedLink : Text := announcementWords ++ "HTTPS://elsewhere.example/track".toList

def shoutedLinkDigest : List UInt8 :=
  [223, 189, 11, 87, 175, 138, 212, 205, 34, 161, 121, 94, 46, 6, 30, 98,
    206, 5, 239, 51, 249, 194, 115, 56, 83, 113, 176, 107, 75, 16, 105, 80]

/-- A scheme in capitals goes unseen, and the link is published. -/
theorem shouted_link_published :
    ¬ ∀ (tables : TextTables) (body : Text) (context : PublishContext),
      reviewOutboundPost tables body context = .publish →
      (∀ place, RenderedSchemeAt body place →
        ∃ extracted ∈ publishedLinks body,
          extracted.Covers place ∧ LinkApproved context extracted.link) ∧
      (publishedLinks body).length ≤ 2 := by
  intro allApproved
  have published :
      reviewOutboundPost (asciiTables shoutedLinkDigest) shoutedLink
          siteContext =
        .publish := by
    decide +kernel
  have begins : RenderedSchemeAt shoutedLink 55 := by
    decide +kernel
  have noLinks : publishedLinks shoutedLink = [] := by
    decide +kernel
  obtain ⟨extracted, isPublished, -⟩ := (allApproved _ _ _ published).1 55 begins
  rw [noLinks] at isPublished
  cases isPublished

end CrowdRelay
