import Mathlib.Data.Nat.Find
import CrowdRelay.PublishedLinks

namespace CrowdRelay

open TextScan

/-!
# Links on either side of a gap

Whitespace ends a link and no scheme contains any, so the links of a text are
those before a gap and then those behind it.
-/

def linkTexts (body : Text) : List Text := (extractLinks body).map ExtractedLink.link

/-- The same scan over what is left of the text. -/
def scanLinks : Nat → Text → List Text
  | 0, _ => []
  | fuel + 1, text =>
    match findFirst schemes text with
    | none => []
    | some offset =>
      let later := scanLinks fuel (text.drop (offset + max (linkRun text offset).length 1))
      if (linkAt text offset).isEmpty then later else linkAt text offset :: later

section Scan

variable {white : Char} {front back text : Text} {fuel : Nat} {offset : Nat}

theorem map_link_extractLinksFrom (body : Text) (fuel cursor : Nat) :
    (extractLinksFrom body fuel cursor).map ExtractedLink.link =
      scanLinks fuel (body.drop cursor) := by
  induction fuel generalizing cursor with
  | zero => rfl
  | succ fuel inductionHypothesis =>
    rw [extractLinksFrom, scanLinks]
    cases findFirst schemes (body.drop cursor) with
    | none => rfl
    | some offset =>
      have next :
          max (cursor + offset + (linkRun body (cursor + offset)).length) (cursor + offset + 1) =
            cursor + (offset + max (linkRun body (cursor + offset)).length 1) := by
        omega
      have sameRun : linkRun (body.drop cursor) offset = linkRun body (cursor + offset) := by
        rw [linkRun, List.drop_drop]
        rfl
      have sameLink : linkAt (body.drop cursor) offset = linkAt body (cursor + offset) := by
        rw [linkAt, sameRun]
        rfl
      simp only [sameRun, sameLink, next, List.drop_drop, ← inductionHypothesis]
      split <;> rfl

theorem lt_length_of_findFirst (found : findFirst schemes text = some offset) :
    offset < text.length := by
  obtain ⟨⟨scheme, isScheme, isHere⟩, -⟩ := findFirst_eq_some schemes_nonempty found
  by_contra beyond
  rw [List.drop_eq_nil_of_le (not_lt.mp beyond), List.prefix_nil] at isHere
  exact schemes_nonempty scheme isScheme isHere

theorem scanLinks_of_none (notFound : findFirst schemes text = none) :
    scanLinks fuel text = [] := by
  cases fuel with
  | zero => rfl
  | succ fuel => rw [scanLinks, notFound]

theorem scanLinks_of_some (found : findFirst schemes text = some offset) :
    scanLinks (fuel + 1) text =
      (if (linkAt text offset).isEmpty then [] else [linkAt text offset]) ++
        scanLinks fuel (text.drop (offset + max (linkRun text offset).length 1)) := by
  rw [scanLinks, found]
  dsimp only
  split <;> rfl

theorem scanLinks_enough {fuel other : Nat} (enough : text.length < fuel)
    (enoughToo : text.length < other) :
    scanLinks fuel text = scanLinks other text := by
  induction fuel generalizing text other with
  | zero => cases enough
  | succ fuel inductionHypothesis =>
    cases other with
    | zero => cases enoughToo
    | succ other =>
      cases found : findFirst schemes text with
      | none => rw [scanLinks_of_none found, scanLinks_of_none found]
      | some offset =>
        have inText := lt_length_of_findFirst found
        have shorter :
            (text.drop (offset + max (linkRun text offset).length 1)).length + 1 ≤
              text.length := by
          rw [List.length_drop]
          omega
        rw [scanLinks_of_some found, scanLinks_of_some found, inductionHypothesis
            (Nat.lt_of_lt_of_le shorter (Nat.le_of_lt_succ enough))
            (Nat.lt_of_lt_of_le shorter (Nat.le_of_lt_succ enoughToo))]

section

variable (isWhite : isWhitespace white = true)
include isWhite

theorem scheme_apart : ∀ scheme ∈ schemes, white ∉ scheme := by
  intro scheme isScheme inScheme
  have goesOn := scheme_not_terminator scheme isScheme white inScheme
  rw [whitespace_terminates isWhite] at goesOn
  cases goesOn

theorem linkRun_parted (inFront : offset ≤ front.length) :
    linkRun (front ++ white :: back) offset = linkRun front offset := by
  have stops : (white :: back).takeWhile (!isTerminator ·) = [] := by
    rw [List.takeWhile_cons_of_neg]
    simp [whitespace_terminates isWhite]
  rw [linkRun, linkRun, List.drop_append_of_le_length inFront, List.takeWhile_append, stops]
  split
  next whole =>
    rw [List.append_nil]
    exact ((List.takeWhile_prefix _).eq_of_length whole).symm
  next => rfl

theorem scanLinks_parted (enough : (front ++ white :: back).length < fuel) :
    scanLinks fuel (front ++ white :: back) = scanLinks fuel front ++ scanLinks fuel back := by
  induction fuel generalizing front with
  | zero => cases enough
  | succ fuel inductionHypothesis =>
    have lengths : front.length + (back.length + 1) < fuel + 1 := by
      simpa using enough
    cases found : findFirst schemes front with
    | some offset =>
      have inFront := lt_length_of_findFirst found
      have runLe : (linkRun front offset).length ≤ front.length - offset := by
        rw [← List.length_drop]
        exact (List.takeWhile_prefix _).length_le
      have sameRun : linkRun (front ++ white :: back) offset = linkRun front offset :=
        linkRun_parted isWhite inFront.le
      have sameLink : linkAt (front ++ white :: back) offset = linkAt front offset := by
        rw [linkAt, sameRun]
        rfl
      have nextLe : offset + max (linkRun front offset).length 1 ≤ front.length := by
        omega
      have sameBack : scanLinks fuel back = scanLinks (fuel + 1) back :=
        scanLinks_enough (by omega) (by omega)
      rw [scanLinks_of_some found,
        scanLinks_of_some (findFirst_parted_of_some schemes_nonempty (scheme_apart isWhite) found),
        sameRun, sameLink, List.drop_append_of_le_length nextLe,
        inductionHypothesis, sameBack, List.append_assoc]
      simp only [List.length_append, List.length_cons, List.length_drop]
      omega
    | none =>
      have onlyBehind := @findFirst_parted_of_none white front back schemes
          schemes_nonempty (scheme_apart isWhite) found
      rw [scanLinks_of_none found, List.nil_append]
      cases foundBehind : findFirst schemes back with
      | none =>
        rw [foundBehind, Option.map_none] at onlyBehind
        rw [scanLinks_of_none onlyBehind, scanLinks_of_none foundBehind]
      | some offset =>
        rw [foundBehind, Option.map_some] at onlyBehind
        have behind : ∀ more, (front ++ white :: back).drop (offset + (front.length + 1) + more) =
              back.drop (offset + more) := by
          intro more
          have place : offset + (front.length + 1) + more = front.length + (offset + more + 1) := by
            omega
          rw [place, List.drop_append, List.drop_eq_nil_of_le
            (Nat.le_add_right _ _), Nat.add_sub_cancel_left]
          rfl
        have sameRun :
            linkRun (front ++ white :: back) (offset + (front.length + 1)) =
              linkRun back offset := by
          rw [linkRun, linkRun, ← Nat.add_zero (offset + _), behind]
          rfl
        have sameLink :
            linkAt (front ++ white :: back) (offset + (front.length + 1)) = linkAt back offset := by
          rw [linkAt, sameRun]
          rfl
        rw [scanLinks_of_some onlyBehind, scanLinks_of_some foundBehind, sameRun, sameLink, behind]

end

theorem linkTexts_eq_scanLinks {body : Text} (enough : body.length < fuel) :
    linkTexts body = scanLinks fuel body := by
  rw [linkTexts, extractLinks, map_link_extractLinksFrom, List.drop_zero]
  exact scanLinks_enough (Nat.lt_succ_self _) enough

theorem linkTexts_parted (isWhite : isWhitespace white = true) :
    linkTexts (front ++ white :: back) = linkTexts front ++ linkTexts back := by
  have enough : (front ++ white :: back).length < (front ++ white :: back).length + 1 :=
    Nat.lt_succ_self _
  rw [linkTexts_eq_scanLinks enough, scanLinks_parted isWhite enough]
  simp only [List.length_append, List.length_cons]
  rw [← linkTexts_eq_scanLinks (by omega), ← linkTexts_eq_scanLinks (by omega)]

theorem linkTexts_gap_append {gap : Text}
    (blank : ∀ character ∈ gap, isWhitespace character = true) :
    linkTexts (gap ++ text) = linkTexts text := by
  induction gap with
  | nil => rfl
  | cons first rest inductionHypothesis =>
    rw [List.forall_mem_cons] at blank
    rw [← inductionHypothesis blank.2]
    exact @linkTexts_parted first [] (rest ++ text) blank.1

theorem linkTexts_append_gap {gap : Text}
    (blank : ∀ character ∈ gap, isWhitespace character = true) :
    linkTexts (text ++ gap) = linkTexts text := by
  cases gap with
  | nil => rw [List.append_nil]
  | cons first rest =>
    rw [List.forall_mem_cons] at blank
    have nothing := @linkTexts_gap_append [] rest blank.2
    rw [List.append_nil] at nothing
    rw [linkTexts_parted blank.1, nothing]
    exact List.append_nil _

end Scan

section Removal

/-- A text with a space in the place of each link. -/
def removeLinks (links : List Text) (body : Text) : Text :=
  links.foldl (fun words link => replace link [' '] words) body

theorem withoutLinks_eq (body : Text) :
    withoutLinks (extractLinks body) body = removeLinks (linkTexts body) body := by
  rw [removeLinks, linkTexts, List.foldl_map]
  rfl

structure IsLinkText (link : Text) : Prop where
  nonempty : link ≠ []
  unbroken : ∀ character ∈ link, isTerminator character = false

theorem IsLinkText.apart {link : Text} (isLink : IsLinkText link) {white : Char}
    (isWhite : isWhitespace white = true) :
    white ∉ link := by
  intro inLink
  have goesOn := isLink.unbroken white inLink
  rw [whitespace_terminates isWhite] at goesOn
  cases goesOn

theorem link_eq_linkAt {body : Text} {fuel cursor : Nat} {extracted : ExtractedLink}
    (isExtracted : extracted ∈ extractLinksFrom body fuel cursor) :
    extracted.link = linkAt body extracted.start ∧ extracted.link ≠ [] := by
  induction fuel generalizing cursor with
  | zero => cases isExtracted
  | succ fuel inductionHypothesis =>
    cases found : findFirst schemes (body.drop cursor) with
    | none =>
      rw [extractLinksFrom, found] at isExtracted
      cases isExtracted
    | some offset =>
      rcases (mem_extractLinksFrom_succ found extracted).mp
        isExtracted with ⟨rfl, nonempty⟩ | isLater
      · exact ⟨rfl, nonempty⟩
      · exact inductionHypothesis isLater

theorem isLinkText_of_mem {body link : Text} (isLink : link ∈ linkTexts body) :
    IsLinkText link := by
  obtain ⟨extracted, isExtracted, rfl⟩ := List.mem_map.mp isLink
  obtain ⟨isHere, nonempty⟩ := link_eq_linkAt isExtracted
  refine ⟨nonempty, fun character inLink => ?_⟩
  rw [isHere] at inLink
  have inRun := List.mem_takeWhile_imp ((List.rdropWhile_prefix _ _).subset inLink)
  simpa using inRun

theorem removeLinks_parted {links : List Text}
    (areLinks : ∀ link ∈ links, IsLinkText link) {white : Char}
    (isWhite : isWhitespace white = true) {front back : Text} :
    removeLinks links (front ++ white :: back) =
      removeLinks links front ++ white :: removeLinks links back := by
  induction links generalizing front back with
  | nil => rfl
  | cons link later inductionHypothesis =>
    rw [List.forall_mem_cons] at areLinks
    simp only [removeLinks, List.foldl_cons] at inductionHypothesis ⊢
    rw [replace_append areLinks.1.nonempty (areLinks.1.apart isWhite)]
    exact inductionHypothesis areLinks.2

variable {front link : Text}

def IsOneLink (link : Text) : Prop := extractLinks link = [⟨0, link⟩]

section

variable (isLink : IsOneLink link)
include isLink

theorem IsOneLink.linkTexts_eq : linkTexts link = [link] := by
  rw [linkTexts, isLink]
  rfl

theorem IsOneLink.isLinkText : IsLinkText link :=
  isLinkText_of_mem (by rw [isLink.linkTexts_eq]; exact List.mem_singleton_self _)

/-- Wherever it stands in a text, a link lies within a link of the text. -/
theorem IsOneLink.covered {place : Nat} (isHere : link <+: front.drop place) :
    ∃ extracted ∈ extractLinks front,
      extracted.start ≤ place ∧ place + link.length ≤ extracted.start + extracted.link.length := by
  have isMember : (⟨0, link⟩ : ExtractedLink) ∈ extractLinks link := by
    rw [isLink]
    exact List.mem_singleton_self _
  obtain ⟨beginsLink, -⟩ := extractLinksFrom_sound isMember
  have isText := isLink.isLinkText
  have positive := List.length_pos_iff.mpr isText.nonempty
  have spelled : ∀ index (inLink : index < link.length),
      front[place + index]? = some link[index] := by
    intro index inLink
    rw [← List.getElem?_drop]
    exact List.prefix_iff_getElem?.mp isHere index inLink
  have begins : PlainSchemeAt front place := by
    obtain ⟨scheme, isScheme, isPrefix⟩ := beginsLink
    rw [List.map_id, List.drop_zero] at isPrefix
    refine ⟨scheme, isScheme, ?_⟩
    rw [List.map_id]
    exact isPrefix.trans isHere
  -- The link of the text that covers the first place covers the last.
  obtain ⟨head, isHead, -, headStays⟩ := begins.head id_keepsDelimiters
  have unbrokenHere : Unbroken front place place := by
    intro between character notBefore notPast isThere
    obtain rfl := le_antisymm notPast notBefore
    have isFirst := spelled 0 positive
    rw [Nat.add_zero, isThere] at isFirst
    rw [Option.some.inj isFirst]
    exact isText.unbroken _ (List.getElem_mem positive)
  obtain ⟨extracted, isExtracted, covers⟩ := (extractLinks_cover_iff isHead headStays).mpr
      ⟨place, le_rfl, begins, unbrokenHere⟩
  obtain ⟨beginsThere, unbrokenUpTo⟩ := extractLinksFrom_sound isExtracted
  have inLink : link.length - 1 < link.length := by omega
  have isLast := spelled (link.length - 1) inLink
  have unbroken : Unbroken front extracted.start (place + (link.length - 1)) := by
    intro between character notBefore notPast isThere
    rcases Nat.lt_or_ge between place with before | behind
    · exact unbrokenUpTo place covers between character notBefore before.le isThere
    · obtain ⟨index, rfl⟩ := Nat.exists_eq_add_of_le behind
      have isSpelled := spelled index (by omega)
      rw [isThere] at isSpelled
      rw [Option.some.inj isSpelled]
      exact isText.unbroken _ (List.getElem_mem _)
  have inRun :
      place + (link.length - 1) < extracted.start + (linkRun front extracted.start).length := by
    by_contra pastRun
    have runPos := linkRun_pos beginsThere
    have atStart := linkRun_le_of_unbroken unbroken
        (List.getElem?_eq_some_iff.mp isLast).1 (not_lt.mp pastRun)
    omega
  have lastStays : isSentenceEnd link[link.length - 1] = false := by
    have trimmed : ∀ text run : Text, text = run.rdropWhile isSentenceEnd →
        ∀ inText : text.length - 1 < text.length, isSentenceEnd text[text.length - 1] = false := by
      rintro _ run rfl inText
      have nonempty : run.rdropWhile isSentenceEnd ≠ [] := by
        rintro nothing
        rw [nothing] at inText
        cases inText
      have last := List.rdropWhile_last_not isSentenceEnd run nonempty
      rw [List.getLast_eq_getElem] at last
      exact eq_false_of_ne_true last
    exact trimmed link (linkRun link 0) (link_eq_linkAt isMember).1 inLink
  have lastInLink := lt_length_linkAt (covers.1.trans (Nat.le_add_right _ _)) inRun isLast lastStays
  rw [← (link_eq_linkAt isExtracted).1] at lastInLink
  exact ⟨extracted, isExtracted, covers.1, by omega⟩

theorem IsOneLink.not_left (few : (linkTexts front).length ≤ 1) :
    ¬ link <:+: removeLinks (linkTexts front) front := by
  intro isLeft
  have isText := isLink.isLinkText
  have noSpace : ' ' ∉ link := isText.apart (by decide)
  rw [linkTexts] at few isLeft
  cases shape : extractLinks front with
  | nil =>
    rw [shape] at isLeft
    change link <:+: front at isLeft
    obtain ⟨place, isHere⟩ := infix_iff_place.mp isLeft
    obtain ⟨_, isExtracted, -⟩ := isLink.covered isHere
    rw [shape] at isExtracted
    cases isExtracted
  | cons only others =>
    rw [shape, List.map_cons, List.length_cons] at few
    have noOthers : others = [] := by
      rw [← List.length_eq_zero_iff, ← List.length_map ExtractedLink.link]
      omega
    have within : ∀ place, link <+: front.drop place →
        only.start ≤ place ∧ place + link.length ≤ only.start + only.link.length := by
      intro place isHere
      obtain ⟨extracted, isExtracted, lies⟩ := isLink.covered isHere
      rw [shape, noOthers, List.mem_singleton] at isExtracted
      rw [← isExtracted]
      exact lies
    have isMember : only ∈ extractLinks front := by
      rw [shape]
      exact List.mem_cons_self
    have isText' := isLinkText_of_mem (List.mem_map_of_mem isMember)
    obtain ⟨before, after, parts, sameStart⟩ :
        ∃ before after, front = before ++ only.link ++ after ∧ before.length = only.start := by
      obtain ⟨begins, -⟩ := extractLinksFrom_sound isMember
      obtain ⟨_, isHead, -⟩ := begins.head id_keepsDelimiters
      have inFront := (List.getElem?_eq_some_iff.mp isHead).1
      have isHere : only.link <+: front.drop only.start := by
        conv_lhs => rw [(link_eq_linkAt isMember).1]
        exact (List.rdropWhile_prefix _ _).trans (List.takeWhile_prefix _)
      obtain ⟨after, isAfter⟩ := isHere
      refine ⟨front.take only.start, after, ?_, List.length_take_of_le inFront.le⟩
      rw [List.append_assoc, isAfter, List.take_append_drop]
    have inFront : link <:+: front := by
      rw [shape, noOthers] at isLeft
      exact infix_of_infix_replaceFrom noSpace isLeft
    -- The first occurrence of the link lies within the only one, so the
    -- only one does not stand anywhere before its own place.
    have first : ∀ place < before.length, ¬ only.link <+: front.drop place := by
      intro place isEarlier standsThere
      have somewhere := infix_iff_place.mp inFront
      have isHere := Nat.find_spec somewhere
      obtain ⟨start, ends⟩ := within _ isHere
      obtain ⟨offset, isOffset⟩ := Nat.exists_eq_add_of_le start
      have inOnly : link <+: only.link.drop offset := by
        rw [isOffset, ← List.drop_drop, ← sameStart, parts, List.append_assoc, List.drop_left,
          List.drop_append_of_le_length (by omega)] at isHere
        refine List.prefix_of_prefix_length_le isHere (List.prefix_append _ _) ?_
        rw [List.length_drop]
        omega
      have again : link <+: front.drop (place + offset) := by
        rw [← List.drop_drop]
        exact inOnly.trans (standsThere.drop offset)
      exact Nat.find_min somewhere (by omega) again
    have removed :
        removeLinks [only.link] front = before ++ ' ' :: replace only.link [' '] after := by
      rw [parts] at first ⊢
      rw [removeLinks, List.foldl_cons, List.foldl_nil,
        replace_first isText'.nonempty first, List.append_assoc,
        List.singleton_append]
    rw [shape, noOthers, List.map_singleton, removed] at isLeft
    have positive := List.length_pos_iff.mpr isText.nonempty
    rcases infix_parted isText.nonempty noSpace isLeft with
      inBefore | inAfter
    · obtain ⟨place, isHere⟩ := infix_iff_place.mp inBefore
      have fits := isHere.length_le
      rw [List.length_drop] at fits
      have inWhole : link <+: front.drop place := by
        rw [parts, List.append_assoc, List.drop_append_of_le_length (by omega)]
        exact isHere.trans (List.prefix_append _ _)
      have notBefore := (within place inWhole).1
      omega
    · obtain ⟨place, isHere⟩ := infix_iff_place.mp (infix_of_infix_replaceFrom noSpace inAfter)
      have inWhole : link <+: front.drop ((before ++ only.link).length + place) := by
        rw [parts, ← List.drop_drop, List.drop_left]
        exact isHere
      have notBehind := (within _ inWhole).2
      rw [List.length_append] at notBehind
      omega

end

end Removal

end CrowdRelay
