import Mathlib.Data.List.Flatten
import CrowdRelay.DigitGroups
import CrowdRelay.SupplyCandidates

namespace CrowdRelay

open TextScan (isWhitespace)

/-!
# What a lock screen shows

The words a relay push shows are words of the caption, cut to the room that
the permalink leaves beside itself.
-/

/-- What a feed reads and a person does not. -/
def isFeedMarkup (word : List Char) : Bool := ['#'].isPrefixOf word || ['@'].isPrefixOf word

/-- What a line says without its hashtags and handles. -/
def unmarked (line : List Char) : List Char :=
  joinWords ((splitWhitespace line).filter fun word => !isFeedMarkup word)

def captionLines (caption : List Char) : List (List Char) :=
  caption.splitOnP fun character => character = '\n'

/-- No line has a letter or digit left without its hashtags and handles. -/
def SaysNothing (letters : LetterTables) (caption : List Char) : Prop :=
  ∀ line ∈ captionLines caption, (unmarked line).any letters.isAlphanumeric = false

variable {text : List Char}

section Words

variable {word : List Char} {words : List (List Char)}

structure IsWord (word : List Char) : Prop where
  nonempty : word ≠ []
  plain : ∀ character ∈ word, isWhitespace character = false

theorem plain_of_mem_splitOnP {separates : Char → Bool} {piece : List Char}
    (isPiece : piece ∈ text.splitOnP separates) :
    ∀ character ∈ piece, separates character = false := by
  induction text generalizing piece with
  | nil =>
    rw [List.splitOnP_nil, List.mem_singleton] at isPiece
    simp [isPiece]
  | cons first rest inductionHypothesis =>
    rw [List.splitOnP_cons_eq_if_modifyHead] at isPiece
    by_cases separator : separates first = true
    · rw [if_pos separator, List.mem_cons] at isPiece
      rcases isPiece with rfl | later
      · simp
      · exact inductionHypothesis later
    · obtain ⟨head, tail, shape⟩ := List.exists_cons_of_ne_nil
          (List.splitOnP_ne_nil separates rest)
      rw [if_neg separator, shape, List.modifyHead_cons, List.mem_cons] at isPiece
      rw [shape] at inductionHypothesis
      rcases isPiece with rfl | later
      · rw [List.forall_mem_cons]
        exact ⟨eq_false_of_ne_true separator, inductionHypothesis List.mem_cons_self⟩
      · exact inductionHypothesis (List.mem_cons_of_mem _ later)

theorem isWord_of_mem_splitWhitespace (isOne : word ∈ splitWhitespace text) : IsWord word := by
  rw [splitWhitespace, List.mem_filter] at isOne
  exact ⟨by simpa using isOne.2, plain_of_mem_splitOnP isOne.1⟩

theorem IsWord.splitWhitespace_eq (isWord : IsWord word) : splitWhitespace word = [word] := by
  rw [splitWhitespace, List.splitOnP_eq_singleton isWord.plain]
  simp [isWord.nonempty]

theorem splitWhitespace_intercalate {separator : Char}
    (isSeparator : isWhitespace separator = true) (parts : List (List Char)) :
    splitWhitespace ([separator].intercalate parts) = parts.flatMap splitWhitespace := by
  induction parts with
  | nil => rfl
  | cons first rest inductionHypothesis =>
    cases rest with
    | nil => simp
    | cons second others =>
      rw [List.intercalate_cons_cons, List.append_assoc, List.singleton_append, splitWhitespace,
        List.splitOnP_append_cons _ _ isSeparator, List.filter_append,
        List.flatMap_cons, ← inductionHypothesis]
      rfl

theorem flatMap_splitWhitespace (areWords : ∀ word ∈ words, IsWord word) :
    words.flatMap splitWhitespace = words := by
  induction words with
  | nil => rfl
  | cons first rest inductionHypothesis =>
    rw [List.forall_mem_cons] at areWords
    rw [List.flatMap_cons, areWords.1.splitWhitespace_eq,
      inductionHypothesis areWords.2, List.singleton_append]

theorem splitWhitespace_joinWords (areWords : ∀ word ∈ words, IsWord word) :
    splitWhitespace (joinWords words) = words := by
  rw [joinWords, splitWhitespace_intercalate rfl, flatMap_splitWhitespace areWords]

theorem joinWords_concat (hasOne : words ≠ []) :
    joinWords (words ++ [word]) = joinWords words ++ ' ' :: word := by
  induction words with
  | nil => exact absurd rfl hasOne
  | cons first rest inductionHypothesis =>
    cases rest with
    | nil => simp [joinWords]
    | cons second others =>
      have later := inductionHypothesis (List.cons_ne_nil _ _)
      unfold joinWords at later ⊢
      rw [List.cons_append, List.cons_append, List.intercalate_cons_cons,
        List.intercalate_cons_cons, ← List.cons_append, later]
      simp

theorem joinWords_eq_nil_iff (areWords : ∀ word ∈ words, IsWord word) :
    joinWords words = [] ↔ words = [] := by
  constructor
  · intro nothing
    rw [← splitWhitespace_joinWords areWords, nothing]
    rfl
  · rintro rfl
    rfl

end Words

section Cutting

variable {budget : Nat} {max : Nat}

/-- Whole words, as many as fit. -/
theorem wordsWithin_eq {taken rest : List (List Char)}
    (areWords : ∀ word ∈ taken, IsWord word) (moreWords : ∀ word ∈ rest, IsWord word)
    (fits : (joinWords taken).length ≤ budget) :
    ∃ count,
      wordsWithin budget (joinWords taken) rest = joinWords (taken ++ rest.take count) ∧
      (joinWords (taken ++ rest.take count)).length ≤ budget := by
  induction rest generalizing taken with
  | nil => exact ⟨0, by simpa [wordsWithin] using fits⟩
  | cons word later inductionHypothesis =>
    rw [List.forall_mem_cons] at moreWords
    have joined :
        (if (joinWords taken).isEmpty then word else joinWords taken ++ ' ' :: word) =
          joinWords (taken ++ [word]) := by
      by_cases none : taken = []
      · simp [none, joinWords]
      · rw [joinWords_concat none, if_neg]
        rw [List.isEmpty_iff, joinWords_eq_nil_iff areWords]
        exact none
    simp only [wordsWithin, joined]
    by_cases tooLong : budget < (joinWords (taken ++ [word])).length
    · rw [if_pos tooLong]
      exact ⟨0, by simpa using fits⟩
    · rw [if_neg tooLong]
      have oneMore : ∀ other ∈ taken ++ [word], IsWord other := by
        simpa [or_imp, forall_and] using And.intro areWords moreWords.1
      obtain ⟨count, same, within⟩ := inductionHypothesis oneMore moreWords.2 (not_lt.mp tooLong)
      have shape :
          taken ++ (word :: later).take (count + 1) = taken ++ [word] ++ later.take count := by
        simp
      exact ⟨count + 1, by rw [shape, same], by rw [shape]; exact within⟩

/-- What is shown of some words: whole ones, or the first of them cut. -/
inductive Shows : List (List Char) → List Char → Prop where
  | whole (words) : Shows words (joinWords words)
  | more (words) : Shows words (joinWords words ++ ['…'])
  | cut (word count) : Shows [word] (word.take count ++ ['…'])

/-- A line that does not fit shows what fits and an ellipsis. -/
theorem lockScreenLine_of_long (long : max < (joinWords (splitWhitespace text)).length) :
    ∃ words shown,
      words <+: splitWhitespace text ∧
      lockScreenLine text max = shown ++ ['…'] ∧
      Shows words (shown ++ ['…']) ∧
      shown.length ≤ max - 1 := by
  have areWords : ∀ word ∈ splitWhitespace text, IsWord word :=
    fun word => isWord_of_mem_splitWhitespace
  unfold lockScreenLine
  simp only [if_neg (not_le.mpr long)]
  generalize splitWhitespace text = words at long areWords
  cases words with
  | nil => cases long
  | cons first rest =>
    rw [List.forall_mem_cons] at areWords
    have isFirst : joinWords [first] = first := List.intercalate_singleton
    have begins : first <+: joinWords (first :: rest) :=
      DigitGroups.head_prefix_intercalate ' ' first rest
    rw [wordsWithin]
    simp only [List.isEmpty_nil, if_true]
    by_cases tooLong : max - 1 < first.length
    · -- Not even the first word fits, so it is cut.
      have cutFirst : (joinWords (first :: rest)).take (max - 1) = first.take (max - 1) := by
        obtain ⟨others, shape⟩ := begins
        rw [← shape, List.take_append_of_le_length tooLong.le]
      simp only [if_pos tooLong, List.isEmpty_nil, if_true, cutFirst]
      exact ⟨[first], first.take (max - 1), ⟨rest, rfl⟩, rfl, .cut _ _, List.length_take_le _ _⟩
    · simp only [if_neg tooLong]
      obtain ⟨count, same, within⟩ := @wordsWithin_eq (max - 1) [first] rest
          (by simpa using areWords.1) areWords.2
          (by rw [isFirst]; exact not_lt.mp tooLong)
      rw [isFirst] at same
      have someWord : (joinWords ([first] ++ rest.take count)).isEmpty = false := by
        have shownWords : ∀ word ∈ [first] ++ rest.take count, IsWord word := by
          rw [List.singleton_append, List.forall_mem_cons]
          exact
            ⟨areWords.1, fun word shown =>
              areWords.2 word (List.mem_of_mem_take shown)⟩
        rw [List.isEmpty_eq_false_iff, ne_eq, joinWords_eq_nil_iff shownWords]
        exact List.cons_ne_nil _ _
      rw [same, someWord]
      exact ⟨first :: rest.take count, joinWords (first :: rest.take count),
          ⟨rest.drop count, by simp⟩, rfl, .more _, within⟩

theorem lockScreenLine_of_fits (fits : (joinWords (splitWhitespace text)).length ≤ max) :
    lockScreenLine text max = joinWords (splitWhitespace text) := by
  unfold lockScreenLine
  exact if_pos fits

theorem lockScreenLine_shows (text : List Char) (max : Nat) :
    ∃ words, words <+: splitWhitespace text ∧ Shows words (lockScreenLine text max) := by
  rcases le_or_gt (joinWords (splitWhitespace text)).length max with
    fits | long
  · rw [lockScreenLine_of_fits fits]
    exact ⟨_, List.prefix_rfl, .whole _⟩
  · obtain ⟨words, shown, begins, shape, shows, -⟩ := lockScreenLine_of_long long
    rw [shape]
    exact ⟨words, begins, shows⟩

theorem length_lockScreenLine_le (someRoom : 1 ≤ max) : (lockScreenLine text max).length ≤ max := by
  rcases le_or_gt (joinWords (splitWhitespace text)).length max with
    fits | long
  · rw [lockScreenLine_of_fits fits]
    exact fits
  · obtain ⟨_, shown, -, shape, -, within⟩ := lockScreenLine_of_long long
    rw [shape, List.length_append, List.length_singleton]
    omega

theorem lockScreenLine_eq_nil_iff {max : Nat} :
    lockScreenLine text max = [] ↔ splitWhitespace text = [] := by
  have areWords : ∀ word ∈ splitWhitespace text, IsWord word :=
    fun word => isWord_of_mem_splitWhitespace
  rcases le_or_gt (joinWords (splitWhitespace text)).length max with
    fits | long
  · rw [lockScreenLine_of_fits fits, joinWords_eq_nil_iff areWords]
  · obtain ⟨_, shown, -, shape, -⟩ := lockScreenLine_of_long long
    rw [shape]
    refine iff_of_false (by simp) ?_
    rintro none
    rw [none] at long
    cases long

end Cutting

section Stripping

variable {letters : LetterTables} {caption : List Char}

theorem splitWhitespace_unmarked (line : List Char) :
    splitWhitespace (unmarked line) =
      (splitWhitespace line).filter fun word => !isFeedMarkup word :=
  splitWhitespace_joinWords fun _ kept =>
    isWord_of_mem_splitWhitespace (List.mem_of_mem_filter kept)

theorem splitWhitespace_captionLines (caption : List Char) :
    (captionLines caption).flatMap splitWhitespace = splitWhitespace caption := by
  have joined : ['\n'].intercalate (captionLines caption) = caption := List.intercalate_splitOn '\n'
  rw [← @splitWhitespace_intercalate '\n' rfl, joined]

theorem splitWhitespace_stripFeedMarkup :
    splitWhitespace (stripFeedMarkup letters caption) =
      (((captionLines caption).map unmarked).filter fun line =>
        line.any letters.isAlphanumeric).flatMap splitWhitespace := by
  have sameLines :
      (fun line =>
        joinWords
          ((splitWhitespace line).filter fun word =>
            !(['#'].isPrefixOf word) && !(['@'].isPrefixOf word))) =
        unmarked := by
    funext line
    simp only [unmarked, isFeedMarkup, Bool.not_or]
  rw [← @splitWhitespace_intercalate ' ' rfl, stripFeedMarkup, sameLines]
  rfl

theorem stripFeedMarkup_sublist :
    (splitWhitespace (stripFeedMarkup letters caption)).Sublist
      ((splitWhitespace caption).filter fun word => !isFeedMarkup word) := by
  have allLines :
      ((captionLines caption).map unmarked).flatMap splitWhitespace =
        (splitWhitespace caption).filter fun word => !isFeedMarkup word := by
    rw [List.flatMap_map, ← splitWhitespace_captionLines, List.filter_flatMap]
    exact List.flatMap_congr fun line _ => splitWhitespace_unmarked line
  rw [splitWhitespace_stripFeedMarkup, ← allLines]
  exact List.filter_sublist.flatMap _

theorem stripFeedMarkup_eq_nil_iff :
    splitWhitespace (stripFeedMarkup letters caption) = [] ↔ SaysNothing letters caption := by
  rw [splitWhitespace_stripFeedMarkup, List.flatMap_eq_nil_iff]
  constructor
  · intro nothing line isLine
    by_contra saysSomething
    have kept := nothing (unmarked line)
        (List.mem_filter.mpr ⟨List.mem_map_of_mem isLine, by simpa using saysSomething⟩)
    rw [splitWhitespace_unmarked] at kept
    rw [unmarked, kept] at saysSomething
    exact saysSomething rfl
  · intro nothing line kept
    obtain ⟨isLine, saysSomething⟩ := List.mem_filter.mp kept
    obtain ⟨original, inCaption, rfl⟩ := List.mem_map.mp isLine
    rw [nothing original inCaption] at saysSomething
    cases saysSomething

end Stripping

section Body

/-- A text with the link under it, or what there is of the two. -/
def beside (shown : List Char) : Option String → List Char
  | none => shown
  | some link =>
    if shown = [] then link.toList else shown ++ '\n' :: '\n' :: link.toList

structure LockScreenPush
    (caption : String)
    (url : Option String)
    (body : String) : Prop where
  fits : body.length ≤ relayPushBodyMax
  keepsLink : ∀ link ∈ url, link.toList <:+ body.toList
  shows :
    ∃ words shown,
      words.Sublist (splitWhitespace caption.toList) ∧
      (∀ word ∈ words, isFeedMarkup word = false) ∧
      Shows words shown ∧
      body.toList = beside shown url

variable (letters : LetterTables) (caption : String)

theorem lockScreenBody_shows (url : Option String) :
    ∃ shown words,
      shown = lockScreenLine (stripFeedMarkup letters caption.toList)
          (url.elim relayPushBodyMax fun link =>
            relayPushBodyMax - (link.length + 2)) ∧
      words.Sublist (splitWhitespace caption.toList) ∧
      (∀ word ∈ words, isFeedMarkup word = false) ∧
      Shows words shown ∧
      (lockScreenBody letters caption url).toList = beside shown url := by
  obtain ⟨words, begins, shows⟩ := lockScreenLine_shows (stripFeedMarkup letters caption.toList)
      (url.elim relayPushBodyMax fun link =>
        relayPushBodyMax - (link.length + 2))
  have kept := begins.sublist.trans (@stripFeedMarkup_sublist letters _)
  refine ⟨_, words, rfl, kept.trans List.filter_sublist, ?_, shows, ?_⟩
  · intro word shown
    simpa using (List.mem_filter.mp (kept.subset shown)).2
  · cases url with
    | none => simp [lockScreenBody, beside]
    | some link =>
      simp only [lockScreenBody, List.isEmpty_iff, beside]
      split <;> simp

/--
A push with a permalink of at most two hundred characters fits unless the
link is longer than 197 and something is left of the caption.
-/
theorem lock_screen_push_iff
    (url : Option String)
    (short : ∀ link ∈ url, link.length ≤ 200) :
    LockScreenPush caption url (lockScreenBody letters caption url) ↔
      ∀ link ∈ url, link.length ≤ 197 ∨ SaysNothing letters caption.toList := by
  obtain ⟨shown, words, isLine, inCaption, plain, shows, body⟩ :=
    lockScreenBody_shows letters caption url
  have onlyFits :
      LockScreenPush caption url (lockScreenBody letters caption url) ↔
        (lockScreenBody letters caption url).toList.length ≤ 200 := by
    refine ⟨fun push => push.fits, fun fits => ⟨fits, ?_, ?_⟩⟩
    · intro link isLink
      obtain rfl : url = some link := isLink
      rw [body, beside]
      split
      · exact List.suffix_rfl
      · exact List.suffix_append_of_suffix (List.suffix_append ['\n', '\n'] _)
    · exact ⟨words, shown, inCaption, plain, shows, body⟩
  rw [onlyFits, body]
  have saysNothing : shown = [] ↔ SaysNothing letters caption.toList := by
    rw [isLine, lockScreenLine_eq_nil_iff, stripFeedMarkup_eq_nil_iff]
  cases url with
  | none =>
    have within : shown.length ≤ 200 := isLine ▸ length_lockScreenLine_le (by decide)
    simpa [beside] using within
  | some link =>
    have shortLink : link.toList.length ≤ 200 := short link rfl
    simp only [Option.mem_some_iff, forall_eq', ← saysNothing, beside]
    by_cases nothing : shown = []
    · simpa [nothing] using shortLink
    · rw [if_neg nothing]
      simp only [nothing, or_false, List.length_append, List.length_cons]
      have sameLength : link.toList.length = link.length := String.length_toList
      have someText : 0 < shown.length := List.length_pos_iff.mpr nothing
      constructor
      · intro fits
        omega
      · intro shortEnough
        have within : shown.length ≤ relayPushBodyMax - (link.length + 2) := by
          rw [isLine]
          refine length_lockScreenLine_le ?_
          simp only [Option.elim, relayPushBodyMax]
          omega
        unfold relayPushBodyMax at within
        omega

def plainLetters : LetterTables where
  isAlphanumeric := Char.isAlphanum
  toLowercase character := [character.toLower]

theorem lock_screen_push_of_short_link :
    LockScreenPush "Gramy 17.10 w Gorzowie. #virya"
      (some "https://virya.example/live")
      (lockScreenBody plainLetters "Gramy 17.10 w Gorzowie. #virya"
        (some "https://virya.example/live")) :=
  (lock_screen_push_iff plainLetters _ _
    (fun link isLink => by
      obtain rfl : "https://virya.example/live" = link := Option.some.inj isLink
      decide)).mpr
    fun link isLink => Or.inl (by
      obtain rfl : "https://virya.example/live" = link := Option.some.inj isLink
      decide)

/-- Nothing but an ellipsis and the link, and already too long. -/
theorem long_link_leaves_no_room :
    let link := String.ofList ("https://".toList ++ List.replicate 190 'a')
    link.length = 198 ∧
      (lockScreenBody plainLetters "Hej" (some link)).length = 201 ∧
      ¬ LockScreenPush "Hej" (some link)
        (lockScreenBody plainLetters "Hej" (some link)) := by
  intro link
  have tooLong : (lockScreenBody plainLetters "Hej" (some link)).length = 201 := by
    decide +kernel
  refine ⟨by decide +kernel, tooLong, fun push => ?_⟩
  have fits := push.fits
  rw [tooLong] at fits
  exact absurd fits (by decide)

end Body

end CrowdRelay
