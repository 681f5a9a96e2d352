import CrowdRelay.ReplyTriage

namespace CrowdRelay

open MachineInt Ranged TextScan

/-!
# The words an automatic verdict rests on

Keywords are looked for anywhere in a reply, inside other words too, and a
negative form takes its positive keyword back wherever that occurs.
-/

section Words

variable (isAlphanumeric : Char → Bool)

/-- A keyword stands at a place of a text as a word of its own. -/
structure WholeWordAt
    (lower keyword : Text)
    (place : Nat) : Prop where
  isThere : keyword <+: lower.drop place
  before :
    ∀ character ∈ (lower.take place).getLast?,
      isAlphanumeric character = false
  after :
    ∀ character ∈ lower[place + keyword.length]?,
      isAlphanumeric character = false

/-- A positive keyword is a word of the text. -/
def SaysYes (lower : Text) : Prop :=
  ∃ rule ∈ positiveRules, ∃ place, WholeWordAt isAlphanumeric lower rule.1 place

/-- A stretch of a text shares no character with any declined phrase of it. -/
def OutsideDeclined (lower : Text)
    (place length : Nat) : Prop :=
  ∀ rule ∈ declinedRules, ∀ other,
    rule.1 <+: lower.drop other →
    place + length ≤ other ∨ other + rule.1.length ≤ place

/-- A positive keyword is a word of the text, apart from what declines. -/
def SaysYesApart (lower : Text) : Prop :=
  ∃ rule ∈ positiveRules, ∃ place,
    WholeWordAt isAlphanumeric lower rule.1 place ∧ OutsideDeclined lower place rule.1.length

variable (folding : CaseFolding)

def YesRestsOnWords (input : ReplyClassificationInput) : Prop :=
  ∀ confidence rules,
    classifyReply folding input = .auto .positive confidence rules →
    SaysYes isAlphanumeric (input.lower folding) ∧
      ¬ Occurs declinedRules (input.lower folding) ∧
      ¬ Occurs dncRules (input.lower folding)

def MixedGoesToHuman (input : ReplyClassificationInput) : Prop :=
  SaysYesApart isAlphanumeric (input.lower folding) →
  Occurs declinedRules (input.lower folding) →
  ¬ Occurs dncRules (input.lower folding) →
  isPolishOrEnglish (input.lower folding) = true →
  ∃ reason confidence, classifyReply folding input = .needsHuman reason confidence

end Words

/-- The negative forms that take the keyword of a positive rule back. -/
def negativeForms (rule : KeywordRule) : List Text :=
  if rule.2 = "positive:interested" then
    ["not interested".toList]
  else if rule.2 = "positive:zainteresowany" ∨
      rule.2 = "positive:zainteresowana" then
    ["nie zainteresowany".toList, "nie zainteresowana".toList]
  else
    []

/-- A positive keyword occurs that no negative form of its own takes back. -/
def YesStands (lower : Text) : Prop :=
  ∃ rule ∈ positiveRules,
    contains rule.1 lower = true ∧ ∀ form ∈ negativeForms rule, contains form lower = false

instance (lower : Text) : Decidable (YesStands lower) :=
  inferInstanceAs (Decidable (∃ rule ∈ positiveRules, _))

/-- The reply is read for keywords, and asks for nothing to stop. -/
structure IsRead
    (folding : CaseFolding)
    (input : ReplyClassificationInput) : Prop where
  notBefore : input.previousDisposition ≠ some .doNotContact
  isLong : 3 ≤ utf8Length (trim input.replyText)
  supported : isPolishOrEnglish (input.lower folding) = true
  noStop : ¬ Occurs dncRules (input.lower folding)

section Verdicts

variable {folding : CaseFolding} {input : ReplyClassificationInput} {lower : Text} {name : String}

theorem mem_ite_filter {condition : Prop} [Decidable condition] {keeps : String → Bool}
    {names : List String} :
    name ∈ (if condition then names.filter keeps else names) ↔
      name ∈ names ∧ (condition → keeps name = true) := by
  by_cases holds : condition
  · rw [if_pos holds, List.mem_filter]
    simp only [holds, forall_const]
  · rw [if_neg holds]
    simp only [holds, false_implies, and_true]

/-- A rule of a name is kept where none of its negative forms occurs. -/
theorem negativeForms_absent_iff (keyword : Text) (name : String) :
    (∀ form ∈ negativeForms (keyword, name), contains form lower = false) ↔
      (contains "not interested".toList lower = true →
          name ≠ "positive:interested") ∧
        (contains "nie zainteresowany".toList lower = true ∨
            contains "nie zainteresowana".toList lower = true →
          name ≠ "positive:zainteresowany" ∧ name ≠ "positive:zainteresowana") := by
  unfold negativeForms
  by_cases isInterested : name = "positive:interested"
  · have notPolish : name ≠ "positive:zainteresowany" ∧ name ≠ "positive:zainteresowana" := by
      rw [isInterested]
      decide
    rw [if_pos isInterested, List.forall_mem_singleton]
    constructor
    · intro absent
      refine ⟨fun found => ?_, fun _ => notPolish⟩
      rw [absent] at found
      cases found
    · rintro ⟨unsaid, -⟩
      exact Bool.eq_false_iff.mpr fun found => unsaid found isInterested
  · rw [if_neg isInterested]
    by_cases isPolish : name = "positive:zainteresowany" ∨ name = "positive:zainteresowana"
    · rw [if_pos isPolish]
      constructor
      · intro absent
        refine ⟨fun _ => isInterested, fun found => ?_⟩
        have masculine := absent _ List.mem_cons_self
        have feminine := absent _ (List.mem_cons_of_mem _ List.mem_cons_self)
        rw [masculine, feminine] at found
        exact absurd found (by decide)
      · rintro ⟨-, unsaid⟩ form isForm
        refine Bool.eq_false_iff.mpr fun found => ?_
        have either :
            contains "nie zainteresowany".toList lower = true ∨
              contains "nie zainteresowana".toList lower = true := by
          rcases List.mem_pair.mp isForm with rfl | rfl
          · exact Or.inl found
          · exact Or.inr found
        exact isPolish.elim (unsaid either).1 (unsaid either).2
    · rw [if_neg isPolish]
      refine iff_of_true (fun _ absent => absurd absent List.not_mem_nil) ?_
      exact ⟨fun _ => isInterested, fun _ => not_or.mp isPolish⟩

/-- A rule is retained where none of its negative forms matched. -/
theorem mem_retainedPositive :
    name ∈ retainedPositive (positiveMatches lower) (declinedMatches lower) ↔
      ∃ rule ∈ positiveRules,
        contains rule.1 lower = true ∧ rule.2 = name ∧
          ∀ form ∈ negativeForms rule, contains form lower = false := by
  have notInterested :
      "declined:not_interested" ∈ declinedMatches lower ↔
        contains "not interested".toList lower = true :=
    mem_matchedRules_of_only (by decide +kernel)
  have masculine :
      "declined:nie_zainteresowany" ∈ declinedMatches lower ↔
        contains "nie zainteresowany".toList lower = true :=
    mem_matchedRules_of_only (by decide +kernel)
  have feminine :
      "declined:nie_zainteresowana" ∈ declinedMatches lower ↔
        contains "nie zainteresowana".toList lower = true :=
    mem_matchedRules_of_only (by decide +kernel)
  have kept :
      name ∈ retainedPositive (positiveMatches lower) (declinedMatches lower) ↔
        name ∈ positiveMatches lower ∧
          ∀ form ∈ negativeForms ([], name), contains form lower = false := by
    rw [negativeForms_absent_iff]
    simp only [retainedPositive, mem_ite_filter, notInterested, masculine,
      feminine, decide_eq_true_eq, and_assoc]
  rw [kept, positiveMatches, mem_matchedRules]
  constructor
  · rintro ⟨⟨rule, isRule, found, rfl⟩, unsaid⟩
    exact ⟨rule, isRule, found, rfl, unsaid⟩
  · rintro ⟨rule, isRule, found, rfl, unsaid⟩
    exact ⟨⟨rule, isRule, found, rfl⟩, unsaid⟩

theorem retainedPositive_isEmpty :
    (retainedPositive (positiveMatches lower) (declinedMatches lower)).isEmpty = false ↔
      YesStands lower := by
  rw [List.isEmpty_eq_false_iff_exists_mem]
  simp only [mem_retainedPositive]
  constructor
  · rintro ⟨_, rule, isRule, found, -, unsaid⟩
    exact ⟨rule, isRule, found, unsaid⟩
  · rintro ⟨rule, isRule, found, unsaid⟩
    exact ⟨rule.2, rule, isRule, found, rfl, unsaid⟩

theorem yesStands_iff_of_not_declined (undeclined : ¬ Occurs declinedRules lower) :
    YesStands lower ↔ Occurs positiveRules lower := by
  have formsDecline :
      ∀ rule ∈ positiveRules, ∀ form ∈ negativeForms rule,
        ∃ declined ∈ declinedRules, declined.1 = form := by
    decide +kernel
  constructor
  · rintro ⟨rule, isRule, found, -⟩
    exact ⟨rule, isRule, found⟩
  · rintro ⟨rule, isRule, found⟩
    refine ⟨rule, isRule, found, fun form isForm => ?_⟩
    obtain ⟨declined, declines, rfl⟩ := formsDecline rule isRule form isForm
    exact Bool.eq_false_iff.mpr fun isThere =>
      undeclined ⟨declined, declines, isThere⟩

theorem classifyReply_of_read (read : IsRead folding input) :
    classifyReply folding input =
      if YesStands (input.lower folding) then
        if Occurs declinedRules (input.lower folding) then
          .needsHuman .ambiguousText 5000
        else
          .auto .positive 9800
            (retainedPositive (positiveMatches (input.lower folding))
              (declinedMatches (input.lower folding)))
      else if Occurs declinedRules (input.lower folding) then
        .auto .declined 9800 (declinedMatches (input.lower folding))
      else
        .needsHuman .unmatchedText 5000 := by
  have unstopped : (dncMatches (input.lower folding)).isEmpty = true := by
    refine Bool.not_eq_false _ |>.mp fun matched => ?_
    exact read.noStop (matchedRules_isEmpty.mp matched)
  have declines :
      (declinedMatches (input.lower folding)).isEmpty = false ↔
        Occurs declinedRules (input.lower folding) :=
    matchedRules_isEmpty
  have stands := @retainedPositive_isEmpty (input.lower folding)
  simp only [classifyReply, read.notBefore, if_false, not_lt.mpr read.isLong,
    read.supported, unstopped, Bool.not_true, Bool.false_eq_true, ← declines,
    ← stands]
  cases (retainedPositive (positiveMatches (input.lower folding))
      (declinedMatches (input.lower folding))).isEmpty <;>
    cases (declinedMatches (input.lower folding)).isEmpty <;> simp

theorem isRead_of_positive {confidence : Confidence} {rules : List String}
    (answered : classifyReply folding input = .auto .positive confidence rules) :
    IsRead folding input := by
  simp only [classifyReply] at answered
  split at answered
  · cases answered
  rename_i notBefore
  split at answered
  · cases answered
  rename_i isLong
  split at answered
  · cases answered
  rename_i supported
  split at answered
  · cases answered
  rename_i unstopped
  refine ⟨notBefore, not_lt.mp isLong, by simpa using supported, ?_⟩
  exact fun stops => unstopped (by
    rw [Bool.not_eq_true']
    exact matchedRules_isEmpty.mpr stops)

variable {isAlphanumeric : Char → Bool}

theorem yesRestsOnWords_iff :
    YesRestsOnWords isAlphanumeric folding input ↔
      (IsRead folding input →
        ¬ Occurs declinedRules (input.lower folding) →
        Occurs positiveRules (input.lower folding) →
        SaysYes isAlphanumeric (input.lower folding)) := by
  constructor
  · intro rests read undeclined occurs
    have stands := (yesStands_iff_of_not_declined undeclined).mpr occurs
    have answered := classifyReply_of_read read
    rw [if_pos stands, if_neg undeclined] at answered
    exact (rests _ _ answered).1
  · intro words confidence rules answered
    have read := isRead_of_positive answered
    rw [classifyReply_of_read read] at answered
    split at answered
    · rename_i stands
      split at answered
      · cases answered
      · rename_i undeclined
        have occurs := (yesStands_iff_of_not_declined undeclined).mp stands
        exact ⟨words read undeclined occurs, undeclined, read.noStop⟩
    · split at answered <;> cases answered

theorem mixedGoesToHuman_iff :
    MixedGoesToHuman isAlphanumeric folding input ↔
      (IsRead folding input →
        Occurs declinedRules (input.lower folding) →
        SaysYesApart isAlphanumeric (input.lower folding) →
        YesStands (input.lower folding)) := by
  constructor
  · intro goes read declined apart
    by_contra fallen
    obtain ⟨reason, confidence, answered⟩ := goes apart declined read.noStop read.supported
    rw [classifyReply_of_read read, if_neg fallen, if_pos declined] at answered
    cases answered
  · intro stand apart declined noStop supported
    by_cases notBefore : input.previousDisposition = some .doNotContact
    · exact ⟨.previousDoNotContact, 10000, if_pos notBefore⟩
    by_cases isShort : utf8Length (trim input.replyText) < 3
    · refine ⟨.tooShort, 3000, ?_⟩
      rw [classifyReply, if_neg notBefore, if_pos isShort]
    have read : IsRead folding input := ⟨notBefore, not_lt.mp isShort, supported, noStop⟩
    refine ⟨.ambiguousText, 5000, ?_⟩
    rw [classifyReply_of_read read, if_pos (stand read declined apart), if_pos declined]

/--
The verdict rests on whole words exactly where, of a reply that is read, an
undeclined yes is somewhere a word, and a declined one is somewhere not taken
back by its negative form.
-/
theorem verdictRestsOnWords_iff
    (isAlphanumeric : Char → Bool)
    (folding : CaseFolding)
    (input : ReplyClassificationInput) :
    YesRestsOnWords isAlphanumeric folding input ∧
        MixedGoesToHuman isAlphanumeric folding input ↔
      (IsRead folding input →
        (¬ Occurs declinedRules (input.lower folding) →
          Occurs positiveRules (input.lower folding) →
          SaysYes isAlphanumeric (input.lower folding)) ∧
        (Occurs declinedRules (input.lower folding) →
          SaysYesApart isAlphanumeric (input.lower folding) →
          YesStands (input.lower folding))) := by
  rw [yesRestsOnWords_iff, mixedGoesToHuman_iff]
  exact forall_and.symm

end Verdicts

instance
    (isAlphanumeric : Char → Bool)
    (lower keyword : Text)
    (place : Nat) :
    Decidable (WholeWordAt isAlphanumeric lower keyword place) :=
  decidable_of_iff
    (keyword <+: lower.drop place ∧
      ((lower.take place).getLast?.all fun character =>
        !isAlphanumeric character) = true ∧
      (lower[place + keyword.length]?.all fun character =>
        !isAlphanumeric character) = true)
    (by
      simp only [Option.all_eq_true, Bool.not_eq_true']
      exact
        ⟨fun ⟨isThere, before, after⟩ => ⟨isThere, before, after⟩,
          fun ⟨isThere, before, after⟩ => ⟨isThere, before, after⟩⟩)

theorem lt_length_of_prefix_drop {keyword lower : Text} {place : Nat}
    (nonempty : keyword ≠ []) (isThere : keyword <+: lower.drop place) :
    place < lower.length := by
  by_contra beyond
  rw [List.drop_eq_nil_of_le (not_lt.mp beyond), List.prefix_nil] at isThere
  exact nonempty isThere

def superbReply : ReplyClassificationInput where
  replyText := "Superb, thanks.".toList
  previousDisposition := none

def mixedReply : ReplyClassificationInput where
  replyText := "Interested in May, not interested in June.".toList
  previousDisposition := none

/-- "superb" is taken for a yes, and a yes beside a no for a no. -/
theorem verdicts_without_words :
    ¬ YesRestsOnWords Char.isAlphanum asciiFolding superbReply ∧
      ¬ MixedGoesToHuman Char.isAlphanum asciiFolding mixedReply := by
  constructor
  · intro rests
    have answered :
        classifyReply asciiFolding superbReply = .auto .positive 9800 ["positive:super"] := by
      decide +kernel
    obtain ⟨⟨rule, isRule, place, isWord⟩, -, -⟩ := rests _ _ answered
    have noWord :
        ∀ rule ∈ positiveRules,
          rule.1 ≠ [] ∧
            ∀ place < (superbReply.lower asciiFolding).length,
              ¬ WholeWordAt Char.isAlphanum (superbReply.lower asciiFolding)
                rule.1 place := by
      decide +kernel
    obtain ⟨nonempty, nowhere⟩ := noWord rule isRule
    exact nowhere place (lt_length_of_prefix_drop nonempty isWord.isThere) isWord
  · intro goes
    have apart : SaysYesApart Char.isAlphanum (mixedReply.lower asciiFolding) := by
      refine ⟨("interested".toList, "positive:interested"),
        by decide +kernel, 0, by decide +kernel, ?_⟩
      intro rule isRule other isThere
      have disjoint :
          ∀ rule ∈ declinedRules,
            rule.1 ≠ [] ∧
              ∀ other < (mixedReply.lower asciiFolding).length,
                rule.1 <+: (mixedReply.lower asciiFolding).drop other →
                10 ≤ other := by
        decide +kernel
      obtain ⟨nonempty, isLater⟩ := disjoint rule isRule
      exact Or.inl
        (isLater other (lt_length_of_prefix_drop nonempty isThere) isThere)
    obtain ⟨reason, confidence, answered⟩ :=
      goes apart (by decide +kernel) (by decide +kernel) (by decide +kernel)
    have declined :
        classifyReply asciiFolding mixedReply =
          .auto .declined 9800 ["declined:not_interested"] := by
      decide +kernel
    rw [declined] at answered
    cases answered

end CrowdRelay
