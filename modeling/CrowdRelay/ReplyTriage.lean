import Mathlib.Algebra.Ring.Nat
import CrowdRelay.Outreach
import CrowdRelay.PublishGuard

namespace CrowdRelay

open MachineInt Ranged TextScan

/-!
# Reply triage

A reply to a pitch is classified by the keywords in it, in Polish and English,
or routed to a human.  A request to stop is the strongest signal.
-/

/-- Lower-casing, as a string library does it: a character has at most three
characters in lower case. -/
structure CaseFolding where
  toLowercase : Text → Text
  length_le : ∀ text, (toLowercase text).length ≤ 3 * text.length

/-- Why a reply is routed to a human. -/
inductive HumanReviewReason where
  | ambiguousText
  | notInSupportedLanguage
  | tooShort
  | previousDoNotContact
  | unmatchedText
  | negotiationReply
  | importedVerdict
  deriving Repr, DecidableEq

structure ReplyClassificationInput where
  replyText : Text
  previousDisposition : Option OutreachReplyDisposition
  deriving Repr, DecidableEq

inductive ReplyClassification where
  | auto
      (disposition : OutreachReplyDisposition)
      (confidence : Confidence)
      (matchedRules : List String)
  | needsHuman
      (reason : HumanReviewReason)
      (confidence : Confidence)
  deriving Repr, DecidableEq

abbrev KeywordRule := Text × String

def polishDiacritics : List Char := ['ą', 'ć', 'ę', 'ł', 'ń', 'ó', 'ś', 'ź', 'ż']

/-- Function words by which a text is taken for Polish or English. -/
def commonWords : List Text :=
  ["the ".toList, "yes".toList, "no ".toList, "not ".toList, "and ".toList,
    "for ".toList, "but ".toList, "thanks".toList, "thank".toList,
    "tak".toList, "nie ".toList, "nie,".toList, "dzięk".toList,
    "proszę".toList, "oczywi".toList, "interes".toList, "hello".toList,
    "hi ".toList, "cześć".toList, "witaj".toList, "please".toList,
    "me ".toList, "from".toList, "list".toList, "stop".toList,
    "remove".toList, "unsubscribe".toList, "wypisz".toList, "kontakt".toList]

def isPolishOrEnglish (lower : Text) : Bool :=
  lower.any (fun character => decide (character ∈ polishDiacritics)) ||
    commonWords.any fun word => contains word lower

def positiveRules : List KeywordRule :=
  [("yes".toList, "positive:yes"),
    ("tak".toList, "positive:tak"),
    ("sure".toList, "positive:sure"),
    ("of course".toList, "positive:of_course"),
    ("oczywiście".toList, "positive:oczywiscie"),
    ("interested".toList, "positive:interested"),
    ("zainteresowany".toList, "positive:zainteresowany"),
    ("zainteresowana".toList, "positive:zainteresowana"),
    ("let's do it".toList, "positive:lets_do_it"),
    ("zróbmy to".toList, "positive:zrobmy_to"),
    ("sounds good".toList, "positive:sounds_good"),
    ("brzmi dobrze".toList, "positive:brzmi_dobrze"),
    ("great".toList, "positive:great"),
    ("świetnie".toList, "positive:swietnie"),
    ("love it".toList, "positive:love_it"),
    ("super".toList, "positive:super"),
    ("chętnie".toList, "positive:chelnie"),
    ("jak najbardziej".toList, "positive:jak_najbardziej"),
    ("with pleasure".toList, "positive:with_pleasure"),
    ("z przyjemnością".toList, "positive:z_przyjemnoscia")]

def declinedRules : List KeywordRule :=
  [("no thanks".toList, "declined:no_thanks"),
    ("nie dziękuję".toList, "declined:nie_dziekuje"),
    ("nie, dziękuję".toList, "declined:nie_dziekuje"),
    ("nie dziękuje".toList, "declined:nie_dziekuje"),
    ("not interested".toList, "declined:not_interested"),
    ("nie zainteresowany".toList, "declined:nie_zainteresowany"),
    ("nie zainteresowana".toList, "declined:nie_zainteresowana"),
    ("i'll pass".toList, "declined:pass"),
    ("i will pass".toList, "declined:pass"),
    ("pass on this".toList, "declined:pass"),
    ("pass on it".toList, "declined:pass"),
    ("maybe later".toList, "declined:maybe_later"),
    ("może później".toList, "declined:moze_pozniej"),
    ("może następnym".toList, "declined:moze_nastepnym"),
    ("not now".toList, "declined:not_now"),
    ("nie teraz".toList, "declined:nie_teraz"),
    ("nope".toList, "declined:nope"),
    ("unfortunately not".toList, "declined:unfortunately_not"),
    ("niestety nie".toList, "declined:niestety_nie"),
    ("can't".toList, "declined:cant"),
    ("nie mogę".toList, "declined:nie_moge"),
    ("nie możemy".toList, "declined:nie_mozemy"),
    ("regretfully".toList, "declined:regretfully")]

def dncRules : List KeywordRule :=
  [("unsubscribe".toList, "dnc:unsubscribe"),
    ("don't contact".toList, "dnc:dont_contact"),
    ("do not contact".toList, "dnc:do_not_contact"),
    ("nie kontaktuj".toList, "dnc:nie_kontaktuj"),
    ("remove me".toList, "dnc:remove_me"),
    ("usuń mnie".toList, "dnc:usun_mnie"),
    ("stop emailing".toList, "dnc:stop_emailing"),
    ("przestań pisać".toList, "dnc:przestan_pisac"),
    ("nie pisz".toList, "dnc:nie_pisz"),
    ("take me off".toList, "dnc:take_me_off"),
    ("wypisz mnie".toList, "dnc:wypisz_mnie")]

/-- The names of the rules whose keyword a text contains. -/
def matchedRules (rules : List KeywordRule)
    (lower : Text) : List String :=
  (rules.filter fun rule => contains rule.1 lower).map Prod.snd

def positiveMatches (lower : Text) : List String := matchedRules positiveRules lower

def declinedMatches (lower : Text) : List String := matchedRules declinedRules lower

def dncMatches (lower : Text) : List String := matchedRules dncRules lower

/-- The positive rules without those whose negative form matched. -/
def retainedPositive
    (positive declined : List String) : List String :=
  let positive :=
    if "declined:not_interested" ∈ declined then
      positive.filter (· ≠ "positive:interested")
    else
      positive
  if "declined:nie_zainteresowany" ∈ declined ∨
      "declined:nie_zainteresowana" ∈ declined then
    positive.filter fun rule =>
      rule ≠ "positive:zainteresowany" ∧ rule ≠ "positive:zainteresowana"
  else
    positive

def utf8Length (text : Text) : Nat := (text.map Char.utf8Size).sum

section Classification

variable (folding : CaseFolding)

/-- The text of a reply as the keywords are looked for in it. -/
def ReplyClassificationInput.lower (input : ReplyClassificationInput) : Text :=
  folding.toLowercase (trim input.replyText)

def classifyReply (input : ReplyClassificationInput) : ReplyClassification :=
  if input.previousDisposition = some .doNotContact then
    .needsHuman .previousDoNotContact 10000
  else if utf8Length (trim input.replyText) < 3 then
    .needsHuman .tooShort 3000
  else
    let lower := input.lower folding
    if !isPolishOrEnglish lower then
      .needsHuman .notInSupportedLanguage 3000
    else
      let declined := declinedMatches lower
      let positive := retainedPositive (positiveMatches lower) declined
      let dnc := dncMatches lower
      if !dnc.isEmpty then
        .auto .doNotContact 9800 dnc
      else if !positive.isEmpty && !declined.isEmpty then
        .needsHuman .ambiguousText 5000
      else if !positive.isEmpty then
        .auto .positive 9800 positive
      else if !declined.isEmpty then
        .auto .declined 9800 declined
      else
        .needsHuman .unmatchedText 5000

end Classification

section Rules

variable {rules : List KeywordRule} {lower : Text}

/-- A keyword of one of the rules occurs in the text. -/
def Occurs (rules : List KeywordRule)
    (lower : Text) : Prop :=
  ∃ rule ∈ rules, contains rule.1 lower = true

instance : Decidable (Occurs rules lower) := inferInstanceAs (Decidable (∃ rule ∈ rules, _))

theorem mem_matchedRules {name : String} :
    name ∈ matchedRules rules lower ↔
      ∃ rule ∈ rules, contains rule.1 lower = true ∧ rule.2 = name := by
  simp only [matchedRules, List.mem_map, List.mem_filter, and_assoc]

theorem mem_matchedRules_of_only {keyword : Text} {name : String}
    (only : rules.filter (·.2 = name) = [(keyword, name)]) :
    name ∈ matchedRules rules lower ↔ contains keyword lower = true := by
  have isOnly : ∀ rule : KeywordRule, rule ∈ rules ∧ rule.2 = name ↔ rule = (keyword, name) := by
    intro rule
    rw [← @List.mem_singleton _ rule (keyword, name), ← only, List.mem_filter, decide_eq_true_eq]
  rw [mem_matchedRules]
  constructor
  · rintro ⟨rule, isRule, found, isNamed⟩
    obtain rfl := (isOnly rule).mp ⟨isRule, isNamed⟩
    exact found
  · intro found
    have isRule := ((isOnly (keyword, name)).mpr rfl).1
    exact ⟨_, isRule, found, rfl⟩

theorem matchedRules_isEmpty : (matchedRules rules lower).isEmpty = false ↔ Occurs rules lower := by
  rw [List.isEmpty_eq_false_iff_exists_mem]
  constructor
  · rintro ⟨name, isMatched⟩
    obtain ⟨rule, isRule, found, -⟩ := mem_matchedRules.mp isMatched
    exact ⟨rule, isRule, found⟩
  · rintro ⟨rule, isRule, found⟩
    exact ⟨rule.2, mem_matchedRules.mpr ⟨rule, isRule, found, rfl⟩⟩

theorem isPolishOrEnglish_of_isInfix {part : Text} (isPart : part <:+: lower)
    (supported : isPolishOrEnglish part = true) :
    isPolishOrEnglish lower = true := by
  unfold isPolishOrEnglish at *
  rw [Bool.or_eq_true, List.any_eq_true, List.any_eq_true] at *
  rcases supported with ⟨letter, isThere, isPolish⟩ | ⟨word, isCommon, found⟩
  · exact Or.inl ⟨letter, isPart.subset isThere, isPolish⟩
  · refine Or.inr ⟨word, isCommon, ?_⟩
    exact contains_iff_isInfix.mpr ((contains_iff_isInfix.mp found).trans isPart)

end Rules

section StopRequests

variable {folding : CaseFolding} {input : ReplyClassificationInput}

theorem length_le_utf8Length (text : Text) : text.length ≤ utf8Length text := by
  induction text with
  | nil => exact Nat.zero_le _
  | cons character rest inductionHypothesis =>
    have someByte := Char.utf8Size_pos character
    simp only [utf8Length, List.map_cons, List.sum_cons, List.length_cons] at inductionHypothesis ⊢
    omega

theorem three_le_utf8Length_of_stop (stops : Occurs dncRules (input.lower folding)) :
    3 ≤ utf8Length (trim input.replyText) := by
  obtain ⟨rule, isRule, found⟩ := stops
  have eightLong : ∀ rule ∈ dncRules, 8 ≤ rule.1.length := by
    decide +kernel
  have isLong := eightLong rule isRule
  have fits := (contains_iff_isInfix.mp found).length_le
  have folded := folding.length_le (trim input.replyText)
  have bytes := length_le_utf8Length (trim input.replyText)
  unfold ReplyClassificationInput.lower at fits
  omega

theorem isPolishOrEnglish_of_stop {rule : KeywordRule} (isRule : rule ∈ dncRules)
    (isOther : rule.1 ≠ "don't contact".toList) :
    isPolishOrEnglish rule.1 = true := by
  have phrases :
      ∀ rule ∈ dncRules, rule.1 ≠ "don't contact".toList → isPolishOrEnglish rule.1 = true := by
    decide +kernel
  exact phrases rule isRule isOther

theorem classifyReply_of_stop (notBefore : input.previousDisposition ≠ some .doNotContact)
    (stops : Occurs dncRules (input.lower folding)) :
    classifyReply folding input =
      if isPolishOrEnglish (input.lower folding) = true then
        .auto .doNotContact 9800 (dncMatches (input.lower folding))
      else
        .needsHuman .notInSupportedLanguage 3000 := by
  have isLong := three_le_utf8Length_of_stop stops
  have matched : (dncMatches (input.lower folding)).isEmpty = false :=
    matchedRules_isEmpty.mpr stops
  simp only [classifyReply, notBefore, if_false, not_lt.mpr isLong, matched,
    Bool.not_false, if_true, Bool.not_eq_true']
  cases isPolishOrEnglish (input.lower folding) <;> rfl

/--
A stop request of someone who made none before is answered by an automatic
stop, whatever else it says, exactly where it holds a phrase other than
"don't contact" or is otherwise taken for Polish or English.
-/
theorem stopRequest_answered_iff
    (notBefore : input.previousDisposition ≠ some .doNotContact)
    (stops : Occurs dncRules (input.lower folding)) :
    (∃ confidence rules,
        classifyReply folding input = .auto .doNotContact confidence rules) ↔
      (∃ rule ∈ dncRules,
          rule.1 ≠ "don't contact".toList ∧ contains rule.1 (input.lower folding) = true) ∨
        isPolishOrEnglish (input.lower folding) = true := by
  rw [classifyReply_of_stop notBefore stops]
  constructor
  · rintro ⟨confidence, rules, answered⟩
    split at answered
    · rename_i supported
      exact Or.inr supported
    · cases answered
  · intro supported
    have passes : isPolishOrEnglish (input.lower folding) = true := by
      rcases supported with ⟨rule, isRule, isOther, found⟩ | supported
      · exact isPolishOrEnglish_of_isInfix (contains_iff_isInfix.mp found)
          (isPolishOrEnglish_of_stop isRule isOther)
      · exact supported
    exact ⟨9800, _, if_pos passes⟩

/-- Lower-casing of the letters that are in ASCII. -/
def asciiFolding : CaseFolding where
  toLowercase := List.map Char.toLower
  length_le := by
    intro text
    rw [List.length_map]
    omega

/-- A request to be taken off a list. -/
theorem stopRequest_answered_takeMeOff :
    (∃ confidence rules,
        classifyReply asciiFolding ⟨"Take me off, yes?".toList, none⟩ =
          .auto .doNotContact confidence rules) ↔
      (∃ rule ∈ dncRules,
          rule.1 ≠ "don't contact".toList ∧
            contains rule.1
              (ReplyClassificationInput.lower asciiFolding
                ⟨"Take me off, yes?".toList, none⟩) = true) ∨
        isPolishOrEnglish
          (ReplyClassificationInput.lower asciiFolding
            ⟨"Take me off, yes?".toList, none⟩) = true :=
  stopRequest_answered_iff (by decide) (by decide +kernel)

/-- "Don't contact" alone is held back for its language. -/
theorem stopRequest_heldBack :
    Occurs dncRules
        (ReplyClassificationInput.lower asciiFolding
          ⟨"Don't contact us again.".toList, none⟩) ∧
      classifyReply asciiFolding ⟨"Don't contact us again.".toList, none⟩ =
        .needsHuman .notInSupportedLanguage 3000 := by
  constructor <;> decide +kernel

end StopRequests

end CrowdRelay
