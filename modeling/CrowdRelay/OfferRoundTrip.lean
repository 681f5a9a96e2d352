import CrowdRelay.OfferFigures
import CrowdRelay.OfferRenderings

namespace CrowdRelay

open DigitGroups MachineInt Ranged TextScan

/-!
# Scanning a written figure

A figure is scanned as it was written, forwards in any grouping and backwards in
any grouping without plain spaces.
-/

/-- Every character continues the figure before it, on the way forwards. -/
def Continues : Text → Prop
  | [] => True
  | character :: rest =>
    (character.isDigit = true ∨ isSeparator character = true ∨
        character = ' ' ∧ rest.head?.any Char.isDigit = true) ∧
      Continues rest

section Scanning

variable {text tail : Text}

theorem scanOn_eq_length (continues : Continues text) : scanOn true text = text.length := by
  induction text with
  | nil => rfl
  | cons character rest inductionHypothesis =>
    obtain ⟨goesOn, restContinues⟩ := continues
    rw [scanOn, List.length_cons, inductionHypothesis restContinues]
    rcases goesOn with isDigit | separates | ⟨rfl, behind⟩
    · rw [if_pos isDigit]
    · rw [Bool.true_and, if_pos separates, ite_self]
    · simp [behind, isSeparator]

theorem scanBack_eq_length
    (continues : ∀ character ∈ text, character.isDigit = true ∨ isSeparator character = true) :
    scanBack true text = text.length := by
  induction text with
  | nil => rfl
  | cons character rest inductionHypothesis =>
    rw [List.forall_mem_cons] at continues
    rw [scanBack, List.length_cons, inductionHypothesis continues.2]
    rcases continues.1 with isDigit | separates
    · rw [if_pos isDigit]
    · rw [Bool.true_and, if_pos separates, ite_self]

theorem Continues.append (first : Continues text) (second : Continues tail) :
    Continues (text ++ tail) := by
  induction text with
  | nil => exact second
  | cons character rest inductionHypothesis =>
    obtain ⟨goesOn, restContinues⟩ := first
    refine ⟨?_, inductionHypothesis restContinues⟩
    refine goesOn.imp_right (Or.imp_right ?_)
    rintro ⟨isSpace, behind⟩
    refine ⟨isSpace, ?_⟩
    cases rest with
    | nil => cases behind
    | cons next others => exact behind

theorem continues_of_digits (digits : ∀ character ∈ text, character.isDigit = true) :
    Continues text := by
  induction text with
  | nil => trivial
  | cons character rest inductionHypothesis =>
    rw [List.forall_mem_cons] at digits
    exact ⟨Or.inl digits.1, inductionHypothesis digits.2⟩

theorem head_isDigit_of_prefix (isPrefix : tail <+: text) (nonempty : tail ≠ [])
    (digits : ∀ character ∈ tail, character.isDigit = true) :
    text.head?.any Char.isDigit = true := by
  obtain ⟨more, rfl⟩ := isPrefix
  cases tail with
  | nil => exact absurd rfl nonempty
  | cons first rest => exact digits first List.mem_cons_self

theorem continues_intercalate {separator : Char} {groups : List Text}
    (separates : isSeparator separator = true ∨ separator = ' ')
    (nonempty : ∀ group ∈ groups, group ≠ [])
    (digits : ∀ group ∈ groups, ∀ character ∈ group, character.isDigit = true) :
    Continues ([separator].intercalate groups) := by
  induction groups with
  | nil => trivial
  | cons first rest inductionHypothesis =>
    rw [List.forall_mem_cons] at nonempty digits
    have firstContinues := continues_of_digits digits.1
    cases rest with
    | nil =>
      rw [List.intercalate_singleton]
      exact firstContinues
    | cons second others =>
      rw [List.intercalate_cons_cons, List.append_assoc]
      refine firstContinues.append ⟨?_, inductionHypothesis nonempty.2 digits.2⟩
      have behind := head_isDigit_of_prefix (head_prefix_intercalate separator second others)
          (nonempty.2 second List.mem_cons_self)
          (digits.2 second List.mem_cons_self)
      exact Or.inr (separates.imp_right fun isSpace => ⟨isSpace, behind⟩)

theorem last_isDigit_of_suffix (isSuffix : tail <:+ text) (nonempty : tail ≠ [])
    (digits : ∀ character ∈ tail, character.isDigit = true) :
    text.getLast?.any Char.isDigit = true := by
  rw [← List.head?_reverse]
  apply head_isDigit_of_prefix (List.reverse_prefix.mpr isSuffix)
  · exact mt List.reverse_eq_nil_iff.mp nonempty
  · intro character isCharacter
    exact digits character (List.mem_reverse.mp isCharacter)

end Scanning

section Tokens

variable {before after gap figure : Text}

theorem isDigit_not_whitespace {character : Char} (isDigit : character.isDigit = true) :
    isWhitespace character = false := by
  obtain ⟨least, greatest⟩ := Char.isDigit_iff_toNat.mp isDigit
  have zero : '0'.toNat = 48 := rfl
  have nine : '9'.toNat = 57 := rfl
  simp only [isWhitespace, Bool.or_eq_false_iff, Bool.and_eq_false_iff, decide_eq_false_iff_not]
  omega

theorem numberAfter_figure (blank : ∀ character ∈ gap, isWhitespace character = true)
    (continues : Continues figure) (starts : figure.head?.any Char.isDigit = true)
    (ends : figure.getLast?.any Char.isDigit = true) :
    numberAfter (before ++ gap ++ figure) before.length =
      some (before.length + gap.length, before.length + gap.length + figure.length) := by
  have untrimmed :
      figure.rdropWhile (fun character =>
          isSeparator character || character = ' ') = figure := by
    apply List.rdropWhile_eq_self_iff.mpr
    intro nonempty
    rw [List.getLast?_eq_some_getLast nonempty, Option.any_some] at ends
    exact not_trimmed_of_isDigit ends
  cases figure with
  | nil => cases starts
  | cons first rest =>
    have isDigit : first.isDigit = true := starts
    have visible : isWhitespace first = false := isDigit_not_whitespace isDigit
    have scanned : scanOn false (first :: rest) = (first :: rest).length := by
      rw [scanOn, if_pos isDigit, scanOn_eq_length continues.2]
      rfl
    have lead : leading (gap ++ first :: rest) = gap := by
      rw [leading, List.takeWhile_append_of_pos blank]
      simp [visible]
    have body : (gap ++ first :: rest).dropWhile isWhitespace = first :: rest :=
      dropWhile_append_blank blank fun _ => visible
    simp only [numberAfter, List.append_assoc, List.drop_left, lead, body, scanned]
    rw [List.take_length, untrimmed]
    rfl

theorem numberBefore_figure (blank : ∀ character ∈ gap, isWhitespace character = true)
    (continues : ∀ character ∈ figure, character.isDigit = true ∨ isSeparator character = true)
    (ends : figure.getLast?.any Char.isDigit = true) :
    numberBefore (figure ++ gap ++ after) (figure.length + gap.length) =
      some (0, figure.length) := by
  have head : (figure ++ gap ++ after).take (figure.length + gap.length) = figure ++ gap := by
    rw [← List.length_append, List.take_left]
  have nonempty : figure ≠ [] := by
    rintro rfl
    cases ends
  have isDigit : (figure.getLast nonempty).isDigit = true := by
    rw [List.getLast?_eq_some_getLast nonempty, Option.any_some] at ends
    exact ends
  have trimmed : (figure ++ gap).rdropWhile isWhitespace = figure :=
    rdropWhile_append_blank blank fun _ => isDigit_not_whitespace isDigit
  have scanned : scanBack false figure.reverse = figure.length := by
    rw [← List.dropLast_append_getLast nonempty, List.reverse_append]
    rw [← List.dropLast_append_getLast nonempty, List.forall_mem_append] at continues
    rw [List.reverse_singleton, List.singleton_append, scanBack,
      if_pos isDigit, scanBack_eq_length, List.length_reverse,
      List.length_append]
    · rfl
    · intro character isCharacter
      exact continues.1 character (List.mem_reverse.mp isCharacter)
  have length : figure.length ≠ 0 := mt List.length_eq_zero_iff.mp nonempty
  simp only [numberBefore, head, trimmed, scanned]
  rw [if_neg length, Nat.sub_self]

end Tokens

namespace Rendering

variable {rendering : Rendering}

theorem nonempty_of_mem_groups {group : Text} (isGroup : group ∈ rendering.groups) :
    group ≠ [] := by
  have units : rendering.units ≠ [] := Nat.toDigits_ne_nil
  rw [groups] at isGroup
  cases grouping : rendering.grouping with
  | none =>
    rw [grouping] at isGroup
    rw [List.mem_singleton.mp isGroup]
    exact units
  | some separator =>
    rw [grouping] at isGroup
    exact ne_nil_of_mem_groupsOf units isGroup

theorem continues_of_groupSeparator {entry : CurrencyMarkers} {separator : Char}
    (separates : separator ∈ entry.groupSeparators) :
    isSeparator separator = true ∨ separator = ' ' := by
  rw [CurrencyMarkers.groupSeparators, CurrencyMarkers.thousandsSeparator] at separates
  have table :
      ∀ comma : Bool,
        ([if comma then '.' else ',', '\'', ' ', '\u00a0', '\u202f'].all
          fun sign => isSeparator sign || decide (sign = ' ')) = true := by
    decide +kernel
  have continues := List.all_eq_true.mp (table _) separator separates
  exact (Bool.or_eq_true_iff.mp continues).imp_right of_decide_eq_true

theorem integerPart_eq (conventional : rendering.Conventional) :
    ∃ separator,
      (isSeparator separator = true ∨ separator = ' ') ∧
        rendering.integerPart = [separator].intercalate rendering.groups := by
  rw [integerPart, groups]
  cases grouping : rendering.grouping with
  | none => exact ⟨' ', Or.inr rfl, List.intercalate_singleton.symm⟩
  | some separator =>
    exact ⟨separator, continues_of_groupSeparator (conventional.isGrouping separator grouping), rfl⟩

theorem isSeparator_decimalSeparator (entry : CurrencyMarkers) :
    isSeparator entry.decimalSeparator = true := by
  rw [CurrencyMarkers.decimalSeparator]
  cases entry.commaDecimal <;> decide

theorem fractionPart_cases (rendering : Rendering) :
    rendering.fractionPart = [] ∨
      ∃ decimals : Text,
        decimals ≠ [] ∧
          (∀ character ∈ decimals, character.isDigit = true) ∧
            rendering.fractionPart = rendering.entry.decimalSeparator :: decimals := by
  rw [fractionPart]
  by_cases noFraction : rendering.minor % 100 = 0
  · rw [if_pos noFraction]
    exact Or.inl rfl
  · rw [if_neg noFraction]
    obtain ⟨length, digits, _⟩ := hundredths_table _ (Nat.mod_lt rendering.minor (by decide))
    refine Or.inr ⟨_, ?_, List.all_eq_true.mp digits, rfl⟩
    intro empty
    rw [empty] at length
    cases length

section

variable (conventional : rendering.Conventional)
include conventional

theorem continues_figure : Continues rendering.figure := by
  obtain ⟨separator, separates, shape⟩ := integerPart_eq conventional
  rw [figure, shape]
  apply Continues.append
  · exact continues_intercalate separates
      (fun _ => nonempty_of_mem_groups)
      fun _ isGroup _ => isDigit_of_mem_groups isGroup
  · rcases fractionPart_cases rendering with empty | ⟨decimals, _, digits, shape⟩
    · rw [empty]
      trivial
    · rw [shape]
      exact ⟨Or.inr (Or.inl (isSeparator_decimalSeparator _)), continues_of_digits digits⟩

theorem figure_starts : rendering.figure.head?.any Char.isDigit = true := by
  obtain ⟨separator, _, shape⟩ := integerPart_eq conventional
  obtain ⟨first, rest, isFirst⟩ := List.exists_cons_of_ne_nil (@groups_ne_nil rendering)
  have isGroup : first ∈ rendering.groups := isFirst ▸ List.mem_cons_self
  have begins : first <+: rendering.figure := by
    rw [figure, shape, isFirst]
    exact (head_prefix_intercalate separator first rest).trans (List.prefix_append _ _)
  exact head_isDigit_of_prefix begins (nonempty_of_mem_groups isGroup)
    fun _ => isDigit_of_mem_groups isGroup

theorem figure_ends : rendering.figure.getLast?.any Char.isDigit = true := by
  rcases fractionPart_cases rendering with
    empty | ⟨decimals, nonempty, digits, fraction⟩
  · obtain ⟨separator, _, shape⟩ := integerPart_eq conventional
    have isGroup := List.getLast_mem (@groups_ne_nil rendering)
    have ends : rendering.groups.getLast groups_ne_nil <:+ rendering.figure := by
      rw [figure, empty, List.append_nil, shape]
      exact getLast_suffix_intercalate separator groups_ne_nil
    exact last_isDigit_of_suffix ends (nonempty_of_mem_groups isGroup)
      fun _ => isDigit_of_mem_groups isGroup
  · have ends : decimals <:+ rendering.figure := by
      rw [figure, fraction]
      exact (List.suffix_cons _ _).trans (List.suffix_append _ _)
    exact last_isDigit_of_suffix ends nonempty digits

end

end Rendering

/-!
## A written amount is read back

A text made of one rendering has one figure that touches a marker, and it reads
as the amount that was written.  A marker in letters has to stand apart from its
figure, and units grouped by plain spaces have to follow their marker.
-/

def signMarkers : List Text := ["€".toList, "$".toList, "£".toList]

structure Rendering.Readable (rendering : Rendering) : Prop where
  wordApart : rendering.spaced = true ∨ rendering.marker ∈ signMarkers
  spacesBehind :
    rendering.grouping = some ' ' →
      rendering.markerFirst = true ∨ rendering.minor < 100000

/-- Neither a space nor a currency sign counts as a letter or a digit. -/
def LetterClasses.KnowsSigns (classes : LetterClasses) : Prop :=
  ∀ sign ∈ [' ', '€', '$', '£'], classes.isAlphanumeric sign = false

section Markers

variable {entry other : CurrencyMarkers} {marker needle : Text}

structure PlainMarker (marker : Text) : Prop where
  nonempty : marker ≠ []
  noFigure :
    ∀ character ∈ marker,
      (character.isDigit || isSeparator character || isWhitespace character
        || decide (character ∈ rangeSigns)) = false
  noRangeWord :
    ∀ word ∈
      ["to".toList, "or".toList, "and".toList, "from".toList,
        "between".toList],
      ¬ word <:+: marker

theorem plainMarker (isEntry : entry ∈ currencyMarkers) (isMarker : marker ∈ entry.markers) :
    PlainMarker marker := by
  have table :
      ∀ entry ∈ currencyMarkers, ∀ marker ∈ entry.markers,
        marker ≠ [] ∧
          (marker.all fun character =>
            !(character.isDigit || isSeparator character
              || isWhitespace character
              || decide (character ∈ rangeSigns))) = true ∧
          ∀ word ∈ ["to".toList, "or".toList, "and".toList, "from".toList, "between".toList],
            ¬ word <:+: marker := by
    decide +kernel
  obtain ⟨nonempty, noFigure, noRangeWord⟩ := table entry isEntry marker isMarker
  refine ⟨nonempty, ?_, noRangeWord⟩
  intro character isCharacter
  exact Bool.eq_false_of_not_eq_true' (List.all_eq_true.mp noFigure character isCharacter)

namespace PlainMarker

variable {classes : LetterClasses} {gap figure : Text}

section

variable (plain : PlainMarker marker)
include plain

theorem visible : ∀ character ∈ marker, isWhitespace character = false := by
  intro character isCharacter
  have noFigure := plain.noFigure character isCharacter
  simp only [Bool.or_eq_false_iff] at noFigure
  exact noFigure.1.2

theorem noDigit : ∀ character ∈ marker, character.isDigit = false := by
  intro character isCharacter
  have noFigure := plain.noFigure character isCharacter
  simp only [Bool.or_eq_false_iff] at noFigure
  exact noFigure.1.1.1

theorem noRangeSign : ∀ character ∈ marker, decide (character ∈ rangeSigns) = false := by
  intro character isCharacter
  have noFigure := plain.noFigure character isCharacter
  simp only [Bool.or_eq_false_iff] at noFigure
  exact noFigure.2

theorem rdropWhile_gap (blank : ∀ character ∈ gap, isWhitespace character = true) :
    (marker ++ gap).rdropWhile isWhitespace = marker := by
  apply rdropWhile_append_blank blank
  intro nonempty
  exact plain.visible _ (List.getLast_mem nonempty)

theorem dropWhile_gap (blank : ∀ character ∈ gap, isWhitespace character = true) :
    (gap ++ marker).dropWhile isWhitespace = marker := by
  apply dropWhile_append_blank blank
  intro nonempty
  exact plain.visible _ (List.head_mem nonempty)

theorem word_not_mem {word : Text} (isWord : word <:+: marker) :
    word ∉ ["to".toList, "or".toList, "and".toList, "from".toList, "between".toList] :=
  fun isRangeWord => plain.noRangeWord word isRangeWord isWord

theorem not_touchesRange_behind (blank : ∀ character ∈ gap, isWhitespace character = true) :
    touchesRange classes (marker ++ gap ++ figure)
      ((marker ++ gap).length, (marker ++ gap).length + figure.length) = false := by
  have noSign : marker.getLast?.any (fun sign => decide (sign ∈ rangeSigns)) = false := by
    rw [List.getLast?_eq_some_getLast plain.nonempty, Option.any_some]
    exact plain.noRangeSign _ (List.getLast_mem plain.nonempty)
  have noWord := plain.word_not_mem
      ((List.rtakeWhile_suffix classes.isAlphabetic _).isInfix.trans
        (List.rdropWhile_prefix (!classes.isAlphabetic ·) marker).isInfix)
  rw [touchesRange]
  simp only [List.take_left, plain.rdropWhile_gap blank, ← List.length_append,
    List.drop_length, noSign, noWord, decide_false]
  rfl

theorem not_touchesRange_before (blank : ∀ character ∈ gap, isWhitespace character = true) :
    touchesRange classes (figure ++ gap ++ marker) (0, figure.length) = false := by
  have noSign :
      ∀ after : Char → Bool,
        marker.head?.any (fun sign =>
          decide (sign ∈ rangeSigns) && after sign) = false := by
    intro after
    rw [List.head?_eq_some_head plain.nonempty, Option.any_some,
      plain.noRangeSign _ (List.head_mem plain.nonempty)]
    rfl
  have noWord :
      marker.takeWhile classes.isAlphabetic ∉ ["to".toList, "or".toList, "and".toList] := by
    intro isRangeWord
    apply plain.word_not_mem (List.takeWhile_prefix classes.isAlphabetic).isInfix
    simp only [List.mem_cons] at isRangeWord ⊢
    tauto
  rw [touchesRange]
  simp only [List.append_assoc, List.drop_left, List.take_zero,
    plain.dropWhile_gap blank, noSign, noWord, decide_false]
  rfl

end

end PlainMarker

theorem marker_in_marker (isEntry : entry ∈ currencyMarkers)
    (isMarker : marker ∈ entry.markers) (isOther : other ∈ currencyMarkers)
    (isNeedle : needle ∈ other.markers) {place : Nat} (isThere : needle <+: marker.drop place) :
    place = 0 ∧ other = entry := by
  have table :
      ∀ entry ∈ currencyMarkers, ∀ marker ∈ entry.markers,
        ∀ other ∈ currencyMarkers, ∀ needle ∈ other.markers,
          ∀ place < marker.length, needle <+: marker.drop place → place = 0 ∧ other = entry := by
    decide +kernel
  have inside : place < marker.length := by
    by_contra outside
    rw [List.drop_eq_nil_of_le (not_lt.mp outside)] at isThere
    exact (plainMarker isOther isNeedle).nonempty (List.prefix_nil.mp isThere)
  exact table entry isEntry marker isMarker other isOther needle isNeedle place inside isThere

end Markers

namespace Rendering

variable {classes : LetterClasses} {rendering : Rendering}

theorem blank_gap (rendering : Rendering) :
    ∀ character ∈ rendering.gap, isWhitespace character = true := by
  intro character isGap
  rw [gap] at isGap
  split at isGap
  · obtain rfl := List.mem_singleton.mp isGap
    rfl
  · cases isGap

theorem mem_of_continues {text : Text} {character : Char} (continues : Continues text)
    (isCharacter : character ∈ text) :
    character.isDigit = true ∨ isSeparator character = true ∨ character = ' ' := by
  induction text with
  | nil => cases isCharacter
  | cons first rest inductionHypothesis =>
    rcases List.mem_cons.mp isCharacter with rfl | isLater
    · exact continues.1.imp_right (Or.imp_right And.left)
    · exact inductionHypothesis continues.2 isLater

variable {marker : Text}

theorem marker_apart (conventional : rendering.Conventional) (plain : PlainMarker marker) :
    ∀ character ∈ marker, character ∉ rendering.figure ++ rendering.gap := by
  intro character isMarker isFigure
  have noFigure := plain.noFigure character isMarker
  simp only [Bool.or_eq_false_iff] at noFigure
  obtain ⟨⟨⟨noDigit, noSeparator⟩, noSpace⟩, _⟩ := noFigure
  rcases List.mem_append.mp isFigure with inFigure | inGap
  · rcases mem_of_continues (continues_figure conventional) inFigure with
      isDigit | separates | rfl
    · rw [isDigit] at noDigit
      cases noDigit
    · rw [separates] at noSeparator
      cases noSeparator
    · cases noSpace
  · rw [blank_gap rendering character inGap] at noSpace
    cases noSpace

theorem integerPart_of_small (small : rendering.minor < 100000) :
    rendering.integerPart = rendering.units := by
  have units : rendering.units ≠ [] := Nat.toDigits_ne_nil
  have short : rendering.units.length ≤ 3 := by
    rw [Rendering.units, Nat.length_toDigits_le_iff (by decide) (by decide)]
    omega
  rw [integerPart]
  cases rendering.grouping with
  | none => rfl
  | some separator =>
    rw [DigitGroups.groupsOf_of_length_le units short]
    exact List.intercalate_singleton

theorem noSpace_of_markerLast (conventional : rendering.Conventional)
    (readable : rendering.Readable) (last : rendering.markerFirst = false) :
    ∀ character ∈ rendering.figure, character.isDigit = true ∨ isSeparator character = true := by
  intro character isFigure
  rcases List.mem_append.mp isFigure with inInteger | inFraction
  · by_cases spaces : rendering.grouping = some ' '
    · have small : rendering.minor < 100000 := by
        rcases readable.spacesBehind spaces with first | small
        · rw [last] at first
          cases first
        · exact small
      rw [integerPart_of_small small] at inInteger
      exact Or.inl (isDigit_of_mem_units inInteger)
    · refine (mem_integerPart inInteger).imp_right fun isGrouping => ?_
      rcases continues_of_groupSeparator (conventional.isGrouping character isGrouping) with
        separates | rfl
      · exact separates
      · exact absurd isGrouping spaces
  · rcases fractionPart_cases rendering with
      empty | ⟨decimals, _, digits, fraction⟩
    · rw [empty] at inFraction
      cases inFraction
    · rw [fraction] at inFraction
      rcases List.mem_cons.mp inFraction with rfl | isDecimal
      · exact Or.inr (isSeparator_decimalSeparator _)
      · exact Or.inl (digits character isDecimal)

/-- Where the marker stands, and on which side of it the figure does. -/
def mention (rendering : Rendering) : Mention where
  entry := rendering.entry
  marker := rendering.marker
  place :=
    if rendering.markerFirst then 0 else rendering.figure.length + rendering.gap.length
  side := if rendering.markerFirst then .after else .before

theorem span?_mention (conventional : rendering.Conventional) (readable : rendering.Readable) :
    rendering.mention.span? rendering.text = some rendering.span := by
  rw [mention, Mention.span?, text, span]
  cases first : rendering.markerFirst with
  | true =>
    simp only [if_true, Nat.zero_add]
    exact numberAfter_figure (blank_gap rendering)
      (continues_figure conventional) (figure_starts conventional)
      (figure_ends conventional)
  | false =>
    simp only [Bool.false_eq_true, if_false]
    exact numberBefore_figure (blank_gap rendering)
      (noSpace_of_markerLast conventional readable first)
      (figure_ends conventional)

theorem read_span : rendering.span.read rendering.text = rendering.figure := by
  rw [Span.read, text, span]
  cases rendering.markerFirst with
  | true =>
    simp only [if_true, Nat.add_sub_cancel_left]
    rw [← List.length_append, List.drop_left, List.take_length]
  | false => simp

theorem reading?_mention (conventional : rendering.Conventional) (readable : rendering.Readable) :
    rendering.mention.reading? rendering.text =
      some ⟨rendering.amount, rendering.entry.currency⟩ := by
  rw [Mention.reading?, span?_mention conventional readable, Option.bind_some,
    read_span, mention, parseAmount_figure conventional, Option.map_some]

theorem not_touchesRange (conventional : rendering.Conventional) :
    touchesRange classes rendering.text rendering.span = false := by
  have plain := plainMarker conventional.isEntry conventional.isMarker
  rw [text, span]
  cases rendering.markerFirst with
  | true =>
    simp only [if_true]
    rw [← List.length_append]
    exact plain.not_touchesRange_behind (blank_gap rendering)
  | false =>
    simp only [Bool.false_eq_true, if_false]
    exact plain.not_touchesRange_before (blank_gap rendering)

/-- A word stands apart, and a sign is no part of a word. -/
theorem onBoundary_mention (knows : classes.KnowsSigns) (readable : rendering.Readable) :
    onWordBoundary classes rendering.text rendering.marker rendering.mention.place = true := by
  have space : classes.isAlphanumeric ' ' = false := knows ' ' (by decide)
  rw [onWordBoundary]
  rcases readable.wordApart with spaced | isSign
  · apply Bool.or_eq_true_iff.mpr
    right
    rw [text, mention, gap, spaced]
    cases rendering.markerFirst with
    | true => simp [space]
    | false =>
      simp only [Bool.false_eq_true, if_false, if_true]
      rw [← List.length_append, List.take_left, ← List.length_append,
        List.drop_length, List.getLast?_concat, Option.any_some, space]
      rfl
  · have noWord : rendering.marker.head?.any classes.isAlphanumeric = false := by
      have signs : signMarkers = [['€'], ['$'], ['£']] := by
        decide +kernel
      rw [signs] at isSign
      simp only [List.mem_cons, List.not_mem_nil, or_false] at isSign
      rcases isSign with isEuro | isDollar | isPound
      · rw [isEuro]
        exact knows '€' (by decide)
      · rw [isDollar]
        exact knows '$' (by decide)
      · rw [isPound]
        exact knows '£' (by decide)
    rw [noWord]
    rfl

theorem inText_mention (knows : classes.KnowsSigns)
    (conventional : rendering.Conventional) (readable : rendering.Readable) :
    rendering.mention.InText classes rendering.text where
  isEntry := conventional.isEntry
  isMarker := conventional.isMarker
  isThere := by
    rw [text, mention]
    cases rendering.markerFirst with
    | true =>
      simp only [if_true, List.drop_zero, List.append_assoc]
      exact List.prefix_append _ _
    | false =>
      simp only [Bool.false_eq_true, if_false]
      rw [← List.length_append, List.drop_left]
  onBoundary := onBoundary_mention knows readable
  touches := by
    rw [← Mention.span?_isSome_iff, span?_mention conventional readable]
    rfl

theorem marker_of_touches {marker needle rest : Text} (plain : PlainMarker marker)
    (isPrefix : needle <+: marker)
    (touches :
      (((marker ++ rest).drop needle.length).dropWhile isWhitespace).head?.any
        Char.isDigit = true) :
    needle = marker := by
  obtain ⟨more, rfl⟩ := isPrefix
  cases more with
  | nil => exact (List.append_nil needle).symm
  | cons next others =>
    have inMarker : next ∈ needle ++ next :: others := List.mem_append_right _ List.mem_cons_self
    rw [List.append_assoc, List.drop_left, List.cons_append,
      List.dropWhile_cons_of_neg (by simp [plain.visible next inMarker]),
      List.head?_cons, Option.any_some, plain.noDigit next inMarker]
      at touches
    cases touches

theorem not_touches_end (plain : PlainMarker marker) (count : Nat) :
    ((marker.drop count).dropWhile isWhitespace).head?.any Char.isDigit =
      false := by
  apply Bool.eq_false_of_not_eq_true
  intro touches
  obtain ⟨digit, isHead, isDigit⟩ := (Option.any_eq_true _ _).mp touches
  have inMarker : digit ∈ marker := List.mem_of_mem_drop
      ((List.dropWhile_suffix _).subset (List.mem_of_mem_head? isHead))
  rw [plain.noDigit digit inMarker] at isDigit
  cases isDigit

/-- Every mention in the text is of the one figure, in its currency. -/
theorem span?_of_inText (conventional : rendering.Conventional)
    (readable : rendering.Readable) {mention : Mention}
    (inText : mention.InText classes rendering.text) :
    mention.span? rendering.text = some rendering.span ∧ mention.entry = rendering.entry := by
  have plain := plainMarker conventional.isEntry conventional.isMarker
  have needle := plainMarker inText.isEntry inText.isMarker
  have apart := marker_apart conventional needle
  have only := span?_mention conventional readable
  obtain ⟨entry, marker, place, side⟩ := mention
  obtain ⟨isEntry, isMarker, isThere, _, touches⟩ := inText
  rw [Mention.neighbour?] at touches
  rw [Rendering.mention, Mention.span?] at only
  rw [Mention.span?]
  rw [text] at isThere touches
  cases first : rendering.markerFirst with
  | true =>
    simp only [first, if_true, List.append_assoc] at isThere touches only
    have behind : ∀ character ∈ marker, character ∉ rendering.gap ++ rendering.figure := by
      intro character isCharacter isBehind
      apply apart character isCharacter
      exact List.mem_append.mpr (List.mem_append.mp isBehind).symm
    obtain ⟨rfl, rfl⟩ := marker_in_marker conventional.isEntry conventional.isMarker isEntry
        isMarker (prefix_drop_left behind isThere)
    refine ⟨?_, rfl⟩
    cases side with
    | before => cases touches
    | after =>
      simp only [Nat.zero_add] at touches only ⊢
      obtain rfl := marker_of_touches plain (prefix_drop_left behind isThere) touches
      exact only
  | false =>
    simp only [first, Bool.false_eq_true, if_false] at isThere touches only
    obtain ⟨isBehind, inMarker⟩ := prefix_drop_right needle.nonempty apart isThere
    obtain ⟨atStart, rfl⟩ := marker_in_marker conventional.isEntry conventional.isMarker isEntry
        isMarker inMarker
    rw [List.length_append] at isBehind atStart
    obtain rfl : place = rendering.figure.length + rendering.gap.length := by
      omega
    refine ⟨?_, rfl⟩
    cases side with
    | before => exact only
    | after =>
      rw [← @List.length_append _ rendering.figure rendering.gap,
        List.drop_length_add_append, not_touches_end plain] at touches
      cases touches

end Rendering

section Claims

variable {classes : LetterClasses} {folding : CaseFolding}

/-- What is written conventionally is read back. -/
theorem extractOfferTerms_rendering
    (classes : LetterClasses)
    (folding : CaseFolding)
    (rendering : Rendering)
    (text : Text)
    (knows : classes.KnowsSigns)
    (conventional : rendering.Conventional)
    (readable : rendering.Readable)
    (folded : folding.toLowercase text = rendering.text) :
    extractOfferTerms classes folding text = some ⟨rendering.amount, rendering.entry.currency⟩ := by
  have counts : rendering.mention.Counts classes rendering.text := by
    refine ⟨?_, ?_⟩
    · rw [Rendering.reading?_mention conventional readable]
      rfl
    · rw [Mention.isRangeEnd, Rendering.span?_mention conventional readable]
      exact Rendering.not_touchesRange conventional
  rw [extractOfferTerms_eq_some_iff, folded]
  refine ⟨⟨rendering.mention, ?_, counts, ?_⟩, ?_⟩
  · exact Rendering.inText_mention knows conventional readable
  · exact Rendering.reading?_mention conventional readable
  · intro mention inText _
    obtain ⟨isSpan, isEntry⟩ := Rendering.span?_of_inText conventional readable inText
    have only := Rendering.reading?_mention conventional readable
    rw [Mention.reading?, Rendering.span?_mention conventional readable] at only
    rw [Mention.reading?, isSpan, isEntry]
    exact only

/-- Twelve hundred euros and a half, with a space between the thousands. -/
def euroFigure : Rendering where
  entry := euroMarkers
  marker := "€".toList
  amount := 120050
  grouping := some ' '
  markerFirst := true
  spaced := false

theorem extractOfferTerms_euroFigure :
    extractOfferTerms asciiClasses asciiFolding "€1 200,50".toList = some ⟨120050, "EUR"⟩ := by
  have signs :
      ([' ', '€', '$', '£'].all fun sign =>
        !asciiClasses.isAlphanumeric sign) = true := by
    decide +kernel
  have knows : asciiClasses.KnowsSigns := fun sign isSign =>
    Bool.eq_false_of_not_eq_true' (List.all_eq_true.mp signs sign isSign)
  have conventional : euroFigure.Conventional := by
    refine ⟨by decide +kernel, by decide +kernel, by decide +kernel, ?_⟩
    rintro separator ⟨⟩
    decide +kernel
  have readable : euroFigure.Readable := ⟨by decide +kernel, by decide +kernel⟩
  have folded : asciiFolding.toLowercase "€1 200,50".toList = euroFigure.text := by
    decide +kernel
  exact extractOfferTerms_rendering asciiClasses asciiFolding euroFigure
    "€1 200,50".toList knows conventional readable folded

/-- Four hundred euros, the word right behind the figure. -/
def gluedWord : Rendering where
  entry := euroMarkers
  marker := "eur".toList
  amount := 40000
  grouping := none
  markerFirst := false
  spaced := false

/-- Twelve hundred euros, with a space between the thousands before the sign. -/
def spacedThousands : Rendering where
  entry := euroMarkers
  marker := "€".toList
  amount := 120000
  grouping := some ' '
  markerFirst := false
  spaced := true

/-- A word glued to its figure is no marker, and only the hundreds are read of
a figure with spaces before its marker. -/
theorem extractOfferTerms_misses :
    gluedWord.Conventional ∧ gluedWord.text = "400eur".toList ∧
      extractOfferTerms asciiClasses asciiFolding "400eur".toList = none ∧
        spacedThousands.Conventional ∧
          spacedThousands.text = "1 200 €".toList ∧
            extractOfferTerms asciiClasses asciiFolding "1 200 €".toList = some ⟨20000, "EUR"⟩ := by
  have glued : ∀ separator ∈ gluedWord.grouping,
      separator ∈ gluedWord.entry.groupSeparators := by
    rintro separator ⟨⟩
  have spaces : ∀ separator ∈ spacedThousands.grouping,
      separator ∈ spacedThousands.entry.groupSeparators := by
    rintro separator ⟨⟩
    decide +kernel
  refine ⟨⟨?_, ?_, ?_, glued⟩, ?_, ?_, ⟨?_, ?_, ?_, spaces⟩, ?_, ?_⟩
  all_goals decide +kernel

end Claims

end CrowdRelay
