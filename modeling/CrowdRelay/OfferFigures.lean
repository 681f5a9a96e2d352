import CrowdRelay.OfferTerms

namespace CrowdRelay

open MachineInt Ranged TextScan

/-!
# When an offer is read from its figures

A figure touches a marker when its digits do, with only whitespace between.
The reader skips the figures it cannot read instead of refusing the reply.
-/

inductive Side where
  | before
  | after
  deriving Repr, DecidableEq

/-- A side of a marker in a text, where a figure may stand. -/
structure Mention where
  entry : CurrencyMarkers
  marker : Text
  place : Nat
  side : Side
  deriving Repr, DecidableEq

namespace Mention

/-- The number token on the side of the marker. -/
def span? (mention : Mention) (lowered : Text) : Option Span :=
  match mention.side with
  | .before => numberBefore lowered mention.place
  | .after => numberAfter lowered (mention.place + mention.marker.length)

/-- The character next to the marker, over the whitespace between. -/
def neighbour? (mention : Mention) (lowered : Text) : Option Char :=
  match mention.side with
  | .before => ((lowered.take mention.place).rdropWhile isWhitespace).getLast?
  | .after =>
    ((lowered.drop (mention.place + mention.marker.length)).dropWhile isWhitespace).head?

def reading? (mention : Mention) (lowered : Text) : Option ProposedTerms :=
  (mention.span? lowered).bind fun span =>
    (parseAmount (span.read lowered) mention.entry.commaDecimal).map
      fun minor => ⟨minor, mention.entry.currency⟩

variable (classes : LetterClasses)

/-- A digit touches the marker, which stands on a word boundary. -/
structure InText (lowered : Text) (mention : Mention) : Prop where
  isEntry : mention.entry ∈ currencyMarkers
  isMarker : mention.marker ∈ mention.entry.markers
  isThere : mention.marker <+: lowered.drop mention.place
  onBoundary :
    onWordBoundary classes lowered mention.marker mention.place = true
  touches : (mention.neighbour? lowered).any Char.isDigit = true

def isRangeEnd (lowered : Text) (mention : Mention) : Bool :=
  (mention.span? lowered).any (touchesRange classes lowered)

/-- The figure goes on outside what is read of it. -/
def isContinued (lowered : Text) (mention : Mention) : Bool :=
  (mention.span? lowered).any fun span =>
    continues (lowered.take span.1).reverse || continues (lowered.drop span.2)
where
  /-- A letter or a digit follows, or a digit behind a separator or a space. -/
  continues : Text → Bool
    | [] => false
    | character :: rest =>
      classes.isAlphanumeric character ||
        (isSeparator character || character = ' ') && rest.head?.any Char.isDigit

/-- The figure is read as an amount, and is no end of a range. -/
structure Counts (lowered : Text) (mention : Mention) : Prop where
  isRead : (mention.reading? lowered).isSome = true
  notRangeEnd : mention.isRangeEnd classes lowered = false

end Mention

/-- What is proposed is what every figure that touches a marker says. -/
def ProposesClearly (classes : LetterClasses) (folding : CaseFolding)
    (text : Text) : Prop :=
  ∀ terms,
    extractOfferTerms classes folding text = some terms →
    ∀ mention : Mention,
      mention.InText classes (folding.toLowercase text) →
      mention.reading? (folding.toLowercase text) = some terms ∧
        mention.isRangeEnd classes (folding.toLowercase text) = false ∧
        mention.isContinued classes (folding.toLowercase text) = false

variable {text : Text}

theorem scanBack_pos_iff (text : Text) :
    scanBack false text ≠ 0 ↔ text.head?.any Char.isDigit = true := by
  cases text with
  | nil => simp [scanBack]
  | cons character rest =>
    cases isDigit : character.isDigit <;> simp [scanBack, isDigit]

theorem scanOn_pos_iff (text : Text) :
    scanOn false text ≠ 0 ↔ text.head?.any Char.isDigit = true := by
  cases text with
  | nil => simp [scanOn]
  | cons character rest =>
    cases isDigit : character.isDigit <;> simp [scanOn, isDigit]

theorem numberBefore_isSome_iff (text : Text) (place : Nat) :
    (numberBefore text place).isSome = true ↔
      ((text.take place).rdropWhile isWhitespace).getLast?.any Char.isDigit = true := by
  rw [← List.head?_reverse, ← scanBack_pos_iff]
  simp only [numberBefore]
  split <;> simp_all

theorem not_trimmed_of_isDigit {digit : Char} (isDigit : digit.isDigit = true) :
    ¬ (isSeparator digit || digit = ' ') = true := by
  intro trims
  have isOther :
      digit = '.' ∨ digit = ',' ∨ digit = '\'' ∨ digit = '\u00a0' ∨
        digit = '\u202f' ∨ digit = ' ' := by
    simpa [isSeparator, or_assoc] using trims
  rcases isOther with rfl | rfl | rfl | rfl | rfl | rfl <;>
    exact absurd isDigit (by decide)

theorem numberAfter_isSome_iff (text : Text) (place : Nat) :
    (numberAfter text place).isSome = true ↔
      ((text.drop place).dropWhile isWhitespace).head?.any Char.isDigit = true := by
  rw [← scanOn_pos_iff]
  simp only [numberAfter]
  by_cases scanned : scanOn false ((text.drop place).dropWhile isWhitespace) = 0
  · rw [if_pos scanned]
    exact iff_of_false (by simp) (not_not.mpr scanned)
  · -- The first character scanned is a digit, and no digit is trimmed off.
    have isDigit := (scanOn_pos_iff _).mp scanned
    obtain ⟨digit, isHead, digits⟩ := (Option.any_eq_true _ _).mp isDigit
    have isFirst :
        digit ∈ ((text.drop place).dropWhile isWhitespace).take
            (scanOn false ((text.drop place).dropWhile isWhitespace)) := by
      obtain ⟨rest, shape⟩ := List.head?_eq_some_iff.mp isHead
      obtain ⟨count, isCount⟩ := Nat.exists_eq_succ_of_ne_zero scanned
      rw [isCount, shape]
      exact List.mem_cons_self
    have untrimmed :
        (((text.drop place).dropWhile isWhitespace).take
            (scanOn false ((text.drop place).dropWhile isWhitespace))).rdropWhile
          (fun character => isSeparator character || character = ' ') ≠ [] := by
      rw [Ne, List.rdropWhile_eq_nil_iff]
      intro allTrimmed
      exact absurd (allTrimmed digit isFirst) (not_trimmed_of_isDigit digits)
    rw [if_neg scanned, if_neg (by simpa using untrimmed)]
    exact iff_of_true rfl scanned

variable {classes : LetterClasses}

section Candidates

variable {lowered : Text} {entry : CurrencyMarkers} {marker : Text} {terms : ProposedTerms}

theorem Mention.span?_isSome_iff (mention : Mention) :
    (mention.span? lowered).isSome = true ↔
      (mention.neighbour? lowered).any Char.isDigit = true := by
  unfold Mention.span? Mention.neighbour?
  cases mention.side with
  | before => exact numberBefore_isSome_iff _ _
  | after => exact numberAfter_isSome_iff _ _

theorem marker_shape (isEntry : entry ∈ currencyMarkers) (isMarker : marker ∈ entry.markers) :
    ∃ first rest, marker = first :: rest ∧ first ∉ rest := by
  have shapes :
      ∀ entry ∈ currencyMarkers,
        (entry.markers.all fun marker =>
          match marker with
          | [] => false
          | first :: rest => decide (first ∉ rest)) = true := by
    decide +kernel
  have shape := List.all_eq_true.mp (shapes entry isEntry) marker isMarker
  cases marker with
  | nil => cases shape
  | cons first rest => exact ⟨first, rest, rfl, of_decide_eq_true shape⟩

theorem candidateAt_eq_some_iff {span : Span} :
    candidateAt classes lowered entry span = some terms ↔
      (parseAmount (span.read lowered) entry.commaDecimal).map (⟨·, entry.currency⟩) = some terms ∧
        touchesRange classes lowered span = false := by
  unfold candidateAt
  cases parseAmount (span.read lowered) entry.commaDecimal with
  | none => simp
  | some minor => cases touchesRange classes lowered span <;> simp

theorem Mention.candidate_iff (mention : Mention) :
    (mention.span? lowered).bind (candidateAt classes lowered mention.entry) = some terms ↔
      mention.Counts classes lowered ∧ mention.reading? lowered = some terms := by
  cases read : mention.span? lowered with
  | none =>
    refine iff_of_false (by simp) ?_
    rintro ⟨-, isReading⟩
    simp [Mention.reading?, read] at isReading
  | some span =>
    rw [Option.bind_some, candidateAt_eq_some_iff]
    have sameReading :
        mention.reading? lowered = (parseAmount (span.read lowered) mention.entry.commaDecimal).map
            (⟨·, mention.entry.currency⟩) := by
      rw [Mention.reading?, read, Option.bind_some]
    have sameRange : mention.isRangeEnd classes lowered = touchesRange classes lowered span := by
      rw [Mention.isRangeEnd, read, Option.any_some]
    rw [← sameReading, ← sameRange]
    constructor
    · rintro ⟨isReading, notRangeEnd⟩
      exact ⟨⟨Option.isSome_of_eq_some isReading, notRangeEnd⟩, isReading⟩
    · rintro ⟨counts, isReading⟩
      exact ⟨isReading, counts.notRangeEnd⟩

theorem Mention.Counts.touches {mention : Mention} (counts : mention.Counts classes lowered) :
    (mention.neighbour? lowered).any Char.isDigit = true := by
  rw [← Mention.span?_isSome_iff]
  obtain ⟨terms, isReading⟩ := Option.isSome_iff_exists.mp counts.isRead
  obtain ⟨span, read, -⟩ := Option.bind_eq_some_iff.mp isReading
  exact Option.isSome_of_eq_some read

theorem mem_candidatesAround_iff {place : Nat} :
    terms ∈ candidatesAround classes lowered entry marker place ↔
      onWordBoundary classes lowered marker place = true ∧
        ∃ side,
          ((Mention.mk entry marker place side).span? lowered).bind
            (candidateAt classes lowered entry) = some terms := by
  unfold candidatesAround
  split
  · rename_i onBoundary
    rw [List.mem_filterMap]
    constructor
    · rintro ⟨span, isSide, isCandidate⟩
      rcases List.mem_pair.mp isSide with rfl | rfl
      · exact ⟨onBoundary, .before, isCandidate⟩
      · exact ⟨onBoundary, .after, isCandidate⟩
    · rintro ⟨-, side, isCandidate⟩
      cases side with
      | before => exact ⟨_, List.mem_cons_self, isCandidate⟩
      | after => exact ⟨_, List.mem_cons_of_mem _ List.mem_cons_self, isCandidate⟩
  · rename_i offBoundary
    exact iff_of_false List.not_mem_nil fun both => offBoundary both.1

theorem mem_candidates_iff {terms : ProposedTerms} :
    terms ∈ candidates classes lowered ↔
      ∃ mention : Mention,
        mention.InText classes lowered ∧
          mention.Counts classes lowered ∧ mention.reading? lowered = some terms := by
  simp only [candidates, List.mem_flatMap, mem_candidatesAround_iff]
  constructor
  · rintro ⟨entry, isEntry, marker, isMarker, place, isPlace, onBoundary, side,
      isCandidate⟩
    obtain ⟨counts, isReading⟩ :=
      (Mention.candidate_iff ⟨entry, marker, place, side⟩).mp isCandidate
    obtain ⟨first, rest, rfl, once⟩ := marker_shape isEntry isMarker
    have inText : Mention.InText classes lowered ⟨entry, first :: rest, place, side⟩ :=
      { isEntry := isEntry
        isMarker := isMarker
        isThere := (mem_occurrences_iff once).mp isPlace
        onBoundary := onBoundary
        touches := counts.touches }
    exact ⟨_, inText, counts, isReading⟩
  · rintro ⟨⟨entry, marker, place, side⟩, inText, counts, isReading⟩
    obtain ⟨first, rest, rfl, once⟩ := marker_shape inText.isEntry inText.isMarker
    exact ⟨entry, inText.isEntry, first :: rest, inText.isMarker, place,
      (mem_occurrences_iff once).mpr inText.isThere, inText.onBoundary, side,
      (Mention.candidate_iff _).mpr ⟨counts, isReading⟩⟩

end Candidates

section Agreement

variable {candidates : List ProposedTerms}

theorem foldlM_addCandidate_some {found terms : ProposedTerms} :
    (candidates.foldlM addCandidate (some found)).join = some terms ↔
      found = terms ∧ ∀ candidate ∈ candidates, candidate = terms := by
  induction candidates with
  | nil => simp
  | cons candidate rest inductionHypothesis =>
    rw [List.foldlM_cons, List.forall_mem_cons]
    by_cases same : found = candidate
    · subst same
      have kept : addCandidate (some found) found = some (some found) := if_pos rfl
      rw [kept, Option.bind_eq_bind, Option.bind_some, inductionHypothesis]
      exact ⟨fun ⟨isFound, all⟩ => ⟨isFound, isFound, all⟩, fun ⟨isFound, _, all⟩ => ⟨isFound, all⟩⟩
    · have refused : addCandidate (some found) candidate = none := if_neg same
      rw [refused, Option.bind_eq_bind, Option.bind_none]
      refine iff_of_false (by simp) ?_
      rintro ⟨rfl, isCandidate, -⟩
      exact same isCandidate.symm

theorem foldlM_addCandidate {terms : ProposedTerms} :
    (candidates.foldlM addCandidate none).join = some terms ↔
      terms ∈ candidates ∧ ∀ candidate ∈ candidates, candidate = terms := by
  cases candidates with
  | nil => simp
  | cons candidate rest =>
    rw [List.foldlM_cons]
    have begun : addCandidate none candidate = some (some candidate) := rfl
    rw [begun, Option.bind_eq_bind, Option.bind_some,
      foldlM_addCandidate_some, List.forall_mem_cons]
    constructor
    · rintro ⟨rfl, all⟩
      exact ⟨List.mem_cons_self, rfl, all⟩
    · rintro ⟨-, isCandidate, all⟩
      exact ⟨isCandidate, all⟩

end Agreement

section Claims

variable {folding : CaseFolding}

theorem extractOfferTerms_eq_some_iff {terms : ProposedTerms} :
    extractOfferTerms classes folding text = some terms ↔
      (∃ mention : Mention, mention.InText classes (folding.toLowercase text) ∧
          mention.Counts classes (folding.toLowercase text) ∧
            mention.reading? (folding.toLowercase text) = some terms) ∧
      ∀ mention : Mention,
        mention.InText classes (folding.toLowercase text) →
        mention.Counts classes (folding.toLowercase text) →
        mention.reading? (folding.toLowercase text) = some terms := by
  unfold extractOfferTerms
  rw [foldlM_addCandidate, mem_candidates_iff]
  refine and_congr_right fun _ => ?_
  constructor
  · intro agree mention inText counts
    obtain ⟨read, isReading⟩ := Option.isSome_iff_exists.mp counts.isRead
    rw [isReading, agree read (mem_candidates_iff.mpr ⟨mention, inText, counts, isReading⟩)]
  · intro agree candidate isCandidate
    obtain ⟨mention, inText, counts, isReading⟩ := mem_candidates_iff.mp isCandidate
    rw [agree mention inText counts] at isReading
    exact (Option.some.inj isReading).symm

/-- Every figure that touches a marker is read, stands alone and is whole. -/
def AllFiguresClear (classes : LetterClasses)
    (lowered : Text) : Prop :=
  ∀ mention : Mention,
    mention.InText classes lowered →
    mention.Counts classes lowered ∧ mention.isContinued classes lowered = false

/-- No figure that touches a marker is read and stands alone. -/
def NoFigureCounts (classes : LetterClasses)
    (lowered : Text) : Prop :=
  ∀ mention : Mention,
    mention.InText classes lowered →
    ¬ mention.Counts classes lowered

def FiguresDiffer (classes : LetterClasses)
    (lowered : Text) : Prop :=
  ∃ first second : Mention,
    (first.InText classes lowered ∧ first.Counts classes lowered) ∧
      (second.InText classes lowered ∧ second.Counts classes lowered) ∧
        first.reading? lowered ≠ second.reading? lowered

/--
A reply proposes only what all its figures say, exactly where all of them are
clear, or none counts, or two that count differ.
-/
theorem proposesClearly_iff
    (classes : LetterClasses)
    (folding : CaseFolding)
    (text : Text) :
    ProposesClearly classes folding text ↔
      AllFiguresClear classes (folding.toLowercase text) ∨
        NoFigureCounts classes (folding.toLowercase text) ∨
          FiguresDiffer classes (folding.toLowercase text) := by
  constructor
  · intro clearly
    by_cases differ : FiguresDiffer classes (folding.toLowercase text)
    · exact Or.inr (Or.inr differ)
    by_cases noneCounts : NoFigureCounts classes (folding.toLowercase text)
    · exact Or.inr (Or.inl noneCounts)
    obtain ⟨counting, inText, counts⟩ :
        ∃ mention : Mention,
          mention.InText classes (folding.toLowercase text) ∧
            mention.Counts classes (folding.toLowercase text) := by
      simpa only [NoFigureCounts, not_forall, not_not, exists_prop]
        using noneCounts
    obtain ⟨terms, isReading⟩ := Option.isSome_iff_exists.mp counts.isRead
    have proposed : extractOfferTerms classes folding text = some terms := by
      refine extractOfferTerms_eq_some_iff.mpr
        ⟨⟨counting, inText, counts, isReading⟩, fun other otherIn otherCounts => ?_⟩
      by_contra otherwise
      refine differ ⟨counting, other, ⟨inText, counts⟩, ⟨otherIn, otherCounts⟩, ?_⟩
      rw [isReading]
      exact fun same => otherwise same.symm
    refine Or.inl fun mention mentioned => ?_
    obtain ⟨isRead, notRangeEnd, whole⟩ := clearly terms proposed mention mentioned
    exact ⟨⟨Option.isSome_of_eq_some isRead, notRangeEnd⟩, whole⟩
  · rintro (clear | noneCounts | ⟨first, second, firstIn, secondIn, differ⟩)
      terms proposed
    · intro mention inText
      have agree := (extractOfferTerms_eq_some_iff.mp proposed).2
      obtain ⟨counts, whole⟩ := clear mention inText
      exact ⟨agree mention inText counts, counts.notRangeEnd, whole⟩
    · obtain ⟨mention, inText, counts, -⟩ := (extractOfferTerms_eq_some_iff.mp proposed).1
      exact absurd counts (noneCounts mention inText)
    · have agree := (extractOfferTerms_eq_some_iff.mp proposed).2
      refine absurd ?_ differ
      rw [agree first firstIn.1 firstIn.2, agree second secondIn.1 secondIn.2]

def asciiClasses : LetterClasses where
  isAlphabetic := Char.isAlpha
  isNumeric := Char.isDigit

def euroMarkers : CurrencyMarkers :=
  ⟨["euros".toList, "euro".toList, "eur".toList, "€".toList], "EUR", true⟩

/-- A figure in thousands, one with a space in it, and one that is unreadable
beside another are proposed as smaller figures or as if they were not there. -/
theorem proposes_unclear :
    ¬ ProposesClearly asciiClasses asciiFolding "€2k".toList ∧
      ¬ ProposesClearly asciiClasses asciiFolding "1 200 EUR".toList ∧
        ¬ ProposesClearly asciiClasses asciiFolding
          "€400 now, 1,2,3 EUR later".toList := by
  refine ⟨fun clearly => ?_, fun clearly => ?_, fun clearly => ?_⟩
  · have clear := clearly ⟨200, "EUR"⟩ (by decide +kernel)
        ⟨euroMarkers, "€".toList, 0, .after⟩
        ⟨by decide +kernel, by decide +kernel, by decide +kernel,
          by decide +kernel, by decide +kernel⟩
    exact absurd clear.2.2 (by decide +kernel)
  · have clear := clearly ⟨20000, "EUR"⟩ (by decide +kernel)
        ⟨euroMarkers, "eur".toList, 6, .before⟩
        ⟨by decide +kernel, by decide +kernel, by decide +kernel,
          by decide +kernel, by decide +kernel⟩
    exact absurd clear.2.2 (by decide +kernel)
  · have clear := clearly ⟨40000, "EUR"⟩ (by decide +kernel)
        ⟨euroMarkers, "eur".toList, 16, .before⟩
        ⟨by decide +kernel, by decide +kernel, by decide +kernel,
          by decide +kernel, by decide +kernel⟩
    exact absurd clear.1 (by decide +kernel)

end Claims

end CrowdRelay
