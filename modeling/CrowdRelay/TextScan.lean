import Mathlib.Data.List.DropRight
import Mathlib.Data.List.Infix

namespace TextScan

/-!
# Scanning text

Texts are lists of characters, one entry per Unicode scalar value, and places
in a text are counted in characters.  The operations are those of a string
library; the lemmas say what a search finds and what trimming leaves.
-/

/-- The characters with the Unicode property `White_Space`. -/
def isWhitespace (character : Char) : Bool :=
  let code := character.toNat
  (0x9 ≤ code && code ≤ 0xD) || code = 0x20 || code = 0x85 ||
    code = 0xA0 || code = 0x1680 || (0x2000 ≤ code && code ≤ 0x200A) ||
    code = 0x2028 || code = 0x2029 || code = 0x202F || code = 0x205F ||
    code = 0x3000

/-- Nothing is left of the text once whitespace is trimmed off its ends. -/
def isBlank (text : List Char) : Bool := text.all isWhitespace

variable {place : Nat} {character : Char}

/-- The text without the whitespace at its ends. -/
def trim (text : List Char) : List Char := (text.dropWhile isWhitespace).rdropWhile isWhitespace

theorem dropWhile_append_blank {gap text : List Char}
    (blank : ∀ character ∈ gap, isWhitespace character = true)
    (visible : ∀ nonempty : text ≠ [], isWhitespace (text.head nonempty) = false) :
    (gap ++ text).dropWhile isWhitespace = text := by
  rw [List.dropWhile_append_of_pos blank]
  cases text with
  | nil => rfl
  | cons first rest =>
    have begins := visible (List.cons_ne_nil first rest)
    rw [List.head_cons] at begins
    exact List.dropWhile_cons_of_neg (by simp [begins])

theorem rdropWhile_append_blank {gap text : List Char}
    (blank : ∀ character ∈ gap, isWhitespace character = true)
    (visible : ∀ nonempty : text ≠ [], isWhitespace (text.getLast nonempty) = false) :
    (text ++ gap).rdropWhile isWhitespace = text := by
  rw [List.rdropWhile, List.reverse_append, dropWhile_append_blank, List.reverse_reverse]
  · intro character isCharacter
    exact blank character (List.mem_reverse.mp isCharacter)
  · intro nonempty
    rw [List.head_reverse]
    exact visible _

/-- The whitespace a text begins with. -/
def leading (text : List Char) : List Char := text.takeWhile isWhitespace

theorem leading_append_trim_append (text : List Char) :
    ∃ trailing,
      text = leading text ++ trim text ++ trailing ∧
      ∀ character ∈ trailing, isWhitespace character = true := by
  refine ⟨(text.dropWhile isWhitespace).rtakeWhile isWhitespace, ?_, ?_⟩
  · rw [List.append_assoc]
    unfold leading trim
    rw [List.rdropWhile_append_rtakeWhile, List.takeWhile_append_dropWhile]
  · intro character isTrailing
    exact List.mem_rtakeWhile_imp isTrailing

/-- Within the trimmed text the characters are those behind the leading
whitespace. -/
theorem getElem?_leading_add {text : List Char} (inTrimmed : place < (trim text).length) :
    text[(leading text).length + place]? = (trim text)[place]? := by
  obtain ⟨trailing, shape, -⟩ := leading_append_trim_append text
  conv_lhs => arg 1; rw [shape]
  rw [List.append_assoc, List.getElem?_append_right (Nat.le_add_right _ _),
    Nat.add_sub_cancel_left, List.getElem?_append_left inTrimmed]

/-- A character that is not whitespace is found in the trimmed text, as far in
as it was behind the leading whitespace. -/
theorem getElem?_iff_of_not_whitespace {text : List Char}
    (notWhitespace : isWhitespace character = false) :
    text[place]? = some character ↔
      (leading text).length ≤ place ∧
      (trim text)[place - (leading text).length]? = some character := by
  obtain ⟨trailing, shape, isTrailing⟩ := leading_append_trim_append text
  have notMember :
      ∀ blank : List Char,
        (∀ other ∈ blank, isWhitespace other = true) →
        ∀ index : Nat, blank[index]? ≠ some character := by
    intro blank isBlank index isThere
    have isWhite := isBlank character (List.mem_of_getElem? isThere)
    rw [notWhitespace] at isWhite
    cases isWhite
  by_cases inLeading : place < (leading text).length
  · constructor
    · intro isThere
      rw [shape, List.append_assoc, List.getElem?_append_left inLeading] at isThere
      exact absurd isThere (notMember (leading text) (fun _ => List.mem_takeWhile_imp) place)
    · rintro ⟨behind, -⟩
      omega
  · have behind : (leading text).length ≤ place := not_lt.mp inLeading
    have shifted : text[place]? = (trim text ++ trailing)[place - (leading text).length]? := by
      conv_lhs => rw [shape, List.append_assoc]
      exact List.getElem?_append_right behind
    rw [shifted]
    by_cases inTrimmed : place - (leading text).length < (trim text).length
    · rw [List.getElem?_append_left inTrimmed]
      exact ⟨fun isThere => ⟨behind, isThere⟩, fun both => both.2⟩
    · have beyond := not_lt.mp inTrimmed
      rw [List.getElem?_append_right beyond]
      constructor
      · intro isThere
        exact absurd isThere (notMember trailing isTrailing _)
      · rintro ⟨-, isThere⟩
        rw [List.getElem?_eq_none beyond] at isThere
        cases isThere

theorem lt_length_rdropWhile {drops : Char → Bool} {text : List Char}
    (isThere : text[place]? = some character) (stays : drops character = false) :
    place < (text.rdropWhile drops).length := by
  by_contra notBefore
  have split : text.rdropWhile drops ++ text.rtakeWhile drops = text :=
    List.rdropWhile_append_rtakeWhile
  rw [← split, List.getElem?_append_right (not_lt.mp notBefore)] at isThere
  have isDropped := List.mem_rtakeWhile_imp (List.mem_of_getElem? isThere)
  rw [stays] at isDropped
  cases isDropped

theorem trim_eq_self {text : List Char}
    (visible : ∀ character ∈ text, isWhitespace character = false) :
    trim text = text := by
  unfold trim
  have keepsStart : text.dropWhile isWhitespace = text := by
    rw [List.dropWhile_eq_self_iff]
    intro nonempty
    simp [visible _ (List.getElem_mem nonempty)]
  rw [keepsStart, List.rdropWhile_eq_self_iff]
  intro nonempty
  simp [visible _ (List.getLast_mem nonempty)]

variable {needles : List (List Char)}

section Searching

variable {first : Char}

/-- The first place a needle is found at. -/
def find (needle : List Char) : List Char → Option Nat
  | [] => if needle = [] then some 0 else none
  | character :: rest =>
    if needle <+: character :: rest then some 0 else (find needle rest).map (· + 1)

def contains (needle text : List Char) : Bool := (find needle text).isSome

/-- A needle is found where it is, and nowhere before that. -/
theorem find_eq_some {needle text : List Char} (found : find needle text = some place) :
    needle <+: text.drop place ∧ ∀ earlier < place, ¬ needle <+: text.drop earlier := by
  induction text generalizing place with
  | nil =>
    unfold find at found
    by_cases isEmpty : needle = []
    · rw [if_pos isEmpty] at found
      cases found
      rw [isEmpty]
      exact ⟨List.nil_prefix, fun _ before => absurd before (Nat.not_lt_zero _)⟩
    · rw [if_neg isEmpty] at found
      cases found
  | cons character rest inductionHypothesis =>
    unfold find at found
    by_cases isHere : needle <+: character :: rest
    · rw [if_pos isHere] at found
      cases found
      exact ⟨isHere, fun _ before => absurd before (Nat.not_lt_zero _)⟩
    · rw [if_neg isHere] at found
      obtain ⟨inner, innerFound, isPlace⟩ := Option.map_eq_some_iff.mp found
      subst isPlace
      obtain ⟨isThere, nowhereBefore⟩ := inductionHypothesis innerFound
      refine ⟨isThere, ?_⟩
      intro earlier isEarlier
      cases earlier with
      | zero => exact isHere
      | succ before => exact nowhereBefore before (Nat.lt_of_succ_lt_succ isEarlier)

theorem find_eq_none {needle text : List Char} (notFound : find needle text = none)
    (nonempty : needle ≠ []) (place : Nat) :
    ¬ needle <+: text.drop place := by
  induction text generalizing place with
  | nil =>
    rw [List.drop_nil, List.prefix_nil]
    exact nonempty
  | cons character rest inductionHypothesis =>
    unfold find at notFound
    by_cases isHere : needle <+: character :: rest
    · rw [if_pos isHere] at notFound
      cases notFound
    · rw [if_neg isHere, Option.map_eq_none_iff] at notFound
      cases place with
      | zero => exact isHere
      | succ before => exact inductionHypothesis notFound before

theorem contains_iff_isInfix {needle text : List Char} :
    contains needle text = true ↔ needle <:+: text := by
  unfold contains
  induction text with
  | nil =>
    rw [find, List.infix_nil]
    split <;> simp_all
  | cons character rest inductionHypothesis =>
    rw [find, List.infix_cons_iff, ← inductionHypothesis]
    by_cases isHere : needle <+: character :: rest
    · simp only [isHere, if_true, Option.isSome_some, true_or]
    · simp only [isHere, if_false, Option.isSome_map, false_or]

/-- The first place any of several needles is found at. -/
def findFirst (needles : List (List Char)) (text : List Char) : Option Nat :=
  (needles.filterMap fun needle => find needle text).min?

theorem findFirst_eq_some {text : List Char} (nonempty : ∀ needle ∈ needles, needle ≠ [])
    (found : findFirst needles text = some place) :
    (∃ needle ∈ needles, needle <+: text.drop place) ∧
      ∀ needle ∈ needles, ∀ earlier < place, ¬ needle <+: text.drop earlier := by
  obtain ⟨isFound, isLeast⟩ := List.min?_eq_some_iff.mp found
  constructor
  · obtain ⟨needle, isNeedle, foundHere⟩ := List.mem_filterMap.mp isFound
    exact ⟨needle, isNeedle, (find_eq_some foundHere).1⟩
  · intro needle isNeedle earlier isEarlier
    cases foundThere : find needle text with
    | none => exact find_eq_none foundThere (nonempty needle isNeedle) earlier
    | some there =>
      have notBefore := isLeast there (List.mem_filterMap.mpr ⟨needle, isNeedle, foundThere⟩)
      exact (find_eq_some foundThere).2 earlier (Nat.lt_of_lt_of_le isEarlier notBefore)

theorem findFirst_eq_none {text : List Char} (nonempty : ∀ needle ∈ needles, needle ≠ [])
    (notFound : findFirst needles text = none) (needle : List Char)
    (isNeedle : needle ∈ needles) (place : Nat) :
    ¬ needle <+: text.drop place := by
  refine find_eq_none ?_ (nonempty needle isNeedle) place
  cases foundThere : find needle text with
  | none => rfl
  | some there =>
    have isFound : there ∈ needles.filterMap fun needle => find needle text :=
      List.mem_filterMap.mpr ⟨needle, isNeedle, foundThere⟩
    rw [List.min?_eq_none_iff.mp notFound] at isFound
    cases isFound

/-- The places a needle is found at, searched for from a place on and each time
behind the one found last; the length of the text is fuel enough. -/
def occurrencesFrom (needle text : List Char) : Nat → Nat → List Nat
  | 0, _ => []
  | fuel + 1, start =>
    match find needle (text.drop start) with
    | none => []
    | some offset =>
      (start + offset) :: occurrencesFrom needle text fuel (start + offset + needle.length)

def occurrences (needle text : List Char) : List Nat :=
  occurrencesFrom needle text (text.length + 1) 0

theorem length_le_of_both_occur {first : Char} {needle text : List Char} {gap : Nat}
    (once : first ∉ needle) (here : first :: needle <+: text)
    (later : first :: needle <+: text.drop gap) (isLater : 0 < gap) :
    (first :: needle).length ≤ gap := by
  by_contra overlaps
  obtain ⟨behind, rfl⟩ := here
  obtain ⟨steps, rfl⟩ := Nat.exists_eq_succ_of_ne_zero (Nat.ne_of_gt isLater)
  have within : steps < needle.length := by
    simp only [List.length_cons] at overlaps
    omega
  have isFirst : (needle ++ behind)[steps]? = some first := by
    obtain ⟨rest, shape⟩ := later
    have atHead := congrArg (fun tail => tail[0]?) shape
    simpa using atHead.symm
  rw [List.getElem?_append_left within] at isFirst
  exact once (List.mem_of_getElem? isFirst)

/-- The search finds a needle that does not overlap itself wherever it is. -/
theorem mem_occurrencesFrom_iff {needle text : List Char} (once : first ∉ needle)
    {fuel start place : Nat} (enough : text.length < start + fuel) :
    place ∈ occurrencesFrom (first :: needle) text fuel start ↔
      start ≤ place ∧ first :: needle <+: text.drop place := by
  induction fuel generalizing start with
  | zero =>
    refine iff_of_false List.not_mem_nil ?_
    rintro ⟨notBefore, isThere⟩
    rw [List.drop_eq_nil_of_le (by omega), List.prefix_nil] at isThere
    cases isThere
  | succ fuel inductionHypothesis =>
    unfold occurrencesFrom
    cases found : find (first :: needle) (text.drop start) with
    | none =>
      refine iff_of_false List.not_mem_nil ?_
      rintro ⟨notBefore, isThere⟩
      refine find_eq_none found (List.cons_ne_nil _ _) (place - start) ?_
      rwa [List.drop_drop, Nat.add_sub_cancel' notBefore]
    | some offset =>
      obtain ⟨isHere, nowhereBefore⟩ := find_eq_some found
      rw [List.drop_drop] at isHere
      have enoughLater : text.length < start + offset + (first :: needle).length + fuel := by
        simp only [List.length_cons]
        omega
      rw [List.mem_cons, inductionHypothesis enoughLater]
      constructor
      · rintro (rfl | ⟨isLater, isThere⟩)
        · exact ⟨Nat.le_add_right _ _, isHere⟩
        · exact ⟨by omega, isThere⟩
      · rintro ⟨notBefore, isThere⟩
        rcases lt_trichotomy place (start + offset) with
          sooner | same | later
        · refine absurd ?_ (nowhereBefore (place - start) (by omega))
          rwa [List.drop_drop, Nat.add_sub_cancel' notBefore]
        · exact Or.inl same
        · have apart := @length_le_of_both_occur first needle
              (text.drop (start + offset)) (place - (start + offset))
              once isHere
              (by rwa [List.drop_drop, Nat.add_sub_cancel' (le_of_lt later)])
              (by omega)
          exact Or.inr ⟨by omega, isThere⟩

theorem mem_occurrences_iff {needle text : List Char} (once : first ∉ needle) :
    place ∈ occurrences (first :: needle) text ↔ first :: needle <+: text.drop place := by
  unfold occurrences
  rw [mem_occurrencesFrom_iff once (by omega)]
  exact and_iff_right (Nat.zero_le place)

theorem takeWhile_end {goesOn : Char → Bool} {text : List Char}
    (isThere : text[(text.takeWhile goesOn).length]? = some character) :
    goesOn character = false := by
  induction text with
  | nil => cases isThere
  | cons first rest inductionHypothesis =>
    by_cases runsOn : goesOn first = true
    · rw [List.takeWhile_cons_of_pos runsOn, List.length_cons,
        List.getElem?_cons_succ] at isThere
      exact inductionHypothesis isThere
    · rw [List.takeWhile_cons_of_neg runsOn] at isThere
      cases isThere
      exact Bool.eq_false_iff.mpr runsOn

theorem takeWhile_append_prefix {text : List Char} (isThere : character ∈ text) :
    text.takeWhile (· != character) ++ [character] <+: text := by
  induction text with
  | nil => cases isThere
  | cons first rest inductionHypothesis =>
    by_cases isFirst : first = character
    · subst isFirst
      rw [List.takeWhile_cons_of_neg (by simp)]
      exact List.prefix_append [first] rest
    · have behind : character ∈ rest := (List.mem_cons.mp isThere).resolve_left (Ne.symm isFirst)
      rw [List.takeWhile_cons_of_pos (by simp [isFirst]), List.cons_append, List.cons_prefix_cons]
      exact ⟨rfl, inductionHypothesis behind⟩

theorem takeWhile_dropWhile_append {goesOn : Char → Bool} {run behind : List Char}
    (runs : ∀ character ∈ run, goesOn character = true)
    (stops : ∀ character ∈ behind.head?, goesOn character = false) :
    (run ++ behind).takeWhile goesOn = run ∧ (run ++ behind).dropWhile goesOn = behind := by
  rw [List.takeWhile_append_of_pos runs, List.dropWhile_append_of_pos runs]
  cases behind with
  | nil => exact ⟨List.append_nil run, rfl⟩
  | cons first rest =>
    have isStop : ¬ goesOn first = true := by
      rw [stops first rfl]
      exact Bool.false_ne_true
    rw [List.takeWhile_cons_of_neg isStop, List.dropWhile_cons_of_neg isStop]
    exact ⟨List.append_nil run, rfl⟩

end Searching

section Splitting

variable {breaks : Char → Bool} {text : List Char}

theorem splitOnP_eq_takeWhile_cons (breaks : Char → Bool) (text : List Char) :
    ∃ rest, text.splitOnP breaks = text.takeWhile (!breaks ·) :: rest := by
  induction text with
  | nil => exact ⟨[], rfl⟩
  | cons character rest inductionHypothesis =>
    rw [List.splitOnP_cons_eq_if_modifyHead]
    by_cases isBreak : breaks character = true
    · rw [if_pos isBreak, List.takeWhile_cons_of_neg (by simp [isBreak])]
      exact ⟨_, rfl⟩
    · obtain ⟨others, shape⟩ := inductionHypothesis
      rw [if_neg isBreak, List.takeWhile_cons_of_pos (by simp [isBreak]),
        shape, List.modifyHead_cons]
      exact ⟨others, rfl⟩

/-- What a piece of a text can start behind: nothing, or a break. -/
def StartsPiece (breaks : Char → Bool) (text : List Char) (place : Nat) : Prop :=
  place = 0 ∨ ∃ character ∈ text[place - 1]?, breaks character = true

theorem takeWhile_mem_splitOnP (starts : StartsPiece breaks text place) :
    (text.drop place).takeWhile (!breaks ·) ∈ text.splitOnP breaks := by
  cases place with
  | zero =>
    obtain ⟨rest, shape⟩ := splitOnP_eq_takeWhile_cons breaks text
    rw [List.drop_zero, shape]
    exact List.mem_cons_self
  | succ before =>
    obtain ⟨character, isThere, isBreak⟩ := starts.resolve_left (Nat.succ_ne_zero before)
    rw [Nat.add_sub_cancel] at isThere
    obtain ⟨inText, rfl⟩ := List.getElem?_eq_some_iff.mp isThere
    have shape : text.take before ++ text[before] :: text.drop (before + 1) = text := by
      rw [List.cons_getElem_drop_succ, List.take_append_drop]
    obtain ⟨rest, behind⟩ := splitOnP_eq_takeWhile_cons breaks (text.drop (before + 1))
    have pieces := List.splitOnP_append_cons (text.take before) (text.drop (before + 1)) isBreak
    rw [shape, behind] at pieces
    rw [pieces]
    exact List.mem_append_right _ List.mem_cons_self

end Splitting

/-- Replace a needle that is not empty wherever it is found, from the left;
`skip` more characters still belong to the last one found. -/
def replaceFrom
    (needle replacement : List Char) : Nat → List Char → List Char
  | _, [] => []
  | skip + 1, _ :: rest => replaceFrom needle replacement skip rest
  | 0, character :: rest =>
    if needle <+: character :: rest then
      replacement ++ replaceFrom needle replacement (needle.length - 1) rest
    else
      character :: replaceFrom needle replacement 0 rest

def replace (needle replacement text : List Char) : List Char :=
  replaceFrom needle replacement 0 text

/-- The words of a text, the first of them begun by what is held. -/
def wordsFrom (held : List Char) : List Char → List (List Char)
  | [] => if held = [] then [] else [held]
  | character :: rest =>
    if isWhitespace character then
      if held = [] then wordsFrom [] rest else held :: wordsFrom [] rest
    else
      wordsFrom (held ++ [character]) rest

def splitWhitespace (text : List Char) : List (List Char) := wordsFrom [] text

/-- The words of a text with single spaces between them. -/
def normalizeSpaces (text : List Char) : List Char := List.intercalate [' '] (splitWhitespace text)

section Places

variable {head tail needle : List Char}

theorem prefix_left_of_apart (apart : ∀ character ∈ needle, character ∉ tail)
    (isPrefix : needle <+: head ++ tail) :
    needle <+: head := by
  rcases Nat.le_total needle.length head.length with shorter | longer
  · exact List.prefix_of_prefix_length_le isPrefix (List.prefix_append _ _)
      shorter
  · obtain ⟨more, rfl⟩ := List.prefix_of_prefix_length_le (List.prefix_append head tail) isPrefix
        longer
    cases more with
    | nil => rw [List.append_nil]
    | cons next others =>
      have inTail : next ∈ tail := by
        rw [List.prefix_append_right_inj] at isPrefix
        exact isPrefix.subset List.mem_cons_self
      exact absurd inTail (apart next (List.mem_append_right _ List.mem_cons_self))

theorem prefix_drop_left (apart : ∀ character ∈ needle, character ∉ tail)
    (isThere : needle <+: (head ++ tail).drop place) :
    needle <+: head.drop place := by
  rw [List.drop_append] at isThere
  apply prefix_left_of_apart _ isThere
  intro character isCharacter inTail
  exact apart character isCharacter (List.mem_of_mem_drop inTail)

theorem prefix_drop_right (nonempty : needle ≠ []) (apart : ∀ character ∈ needle, character ∉ head)
    (isThere : needle <+: (head ++ tail).drop place) :
    head.length ≤ place ∧ needle <+: tail.drop (place - head.length) := by
  have behind : head.length ≤ place := by
    by_contra inside
    obtain ⟨first, rest, rfl⟩ := List.exists_cons_of_ne_nil nonempty
    have fits := not_le.mp inside
    rw [List.drop_append_of_le_length fits.le, List.drop_eq_getElem_cons fits] at isThere
    have isHead := (List.cons_prefix_cons.mp isThere).1
    apply apart first List.mem_cons_self
    rw [isHead]
    exact List.getElem_mem fits
  refine ⟨behind, ?_⟩
  rw [List.drop_append, List.drop_eq_nil_of_le behind] at isThere
  exact isThere

end Places

/-!
# Texts parted by whitespace

What is read word by word or replaced without whitespace is read and replaced
on either side of a whitespace character apart.
-/

variable {white : Char} {front back text : List Char}

section Words

variable (isWhite : isWhitespace white = true)

include isWhite in
theorem wordsFrom_append (held : List Char) :
    wordsFrom held (front ++ white :: back) = wordsFrom held front ++ wordsFrom [] back := by
  induction front generalizing held with
  | nil =>
    simp only [List.nil_append, wordsFrom, isWhite, if_true]
    split <;> rfl
  | cons character rest inductionHypothesis =>
    rw [List.cons_append, wordsFrom, wordsFrom]
    split_ifs
    · exact inductionHypothesis []
    · rw [inductionHypothesis [], List.cons_append]
    · exact inductionHypothesis _

include isWhite in
theorem splitWhitespace_append :
    splitWhitespace (front ++ white :: back) = splitWhitespace front ++ splitWhitespace back :=
  wordsFrom_append isWhite []

theorem splitWhitespace_gap_append {gap : List Char}
    (blank : ∀ character ∈ gap, isWhitespace character = true) :
    splitWhitespace (gap ++ text) = splitWhitespace text := by
  induction gap with
  | nil => rfl
  | cons first rest inductionHypothesis =>
    rw [List.forall_mem_cons] at blank
    rw [← inductionHypothesis blank.2]
    exact @splitWhitespace_append first [] (rest ++ text) blank.1

theorem splitWhitespace_append_gap {gap : List Char}
    (blank : ∀ character ∈ gap, isWhitespace character = true) :
    splitWhitespace (text ++ gap) = splitWhitespace text := by
  cases gap with
  | nil => rw [List.append_nil]
  | cons first rest =>
    rw [List.forall_mem_cons] at blank
    have nothing := @splitWhitespace_gap_append [] rest blank.2
    rw [List.append_nil] at nothing
    rw [splitWhitespace_append blank.1, nothing]
    exact List.append_nil _

end Words

section Places

variable {needle : List Char}

theorem prefix_parted_iff (apart : white ∉ needle) :
    needle <+: front ++ white :: back ↔ needle <+: front := by
  constructor
  · intro isHere
    rcases Nat.lt_or_ge front.length needle.length with longer | fits
    · obtain ⟨more, shape⟩ := isHere
      have inNeedle : needle[front.length]? = some white := by
        rw [← List.getElem?_append_left longer, shape,
          List.getElem?_append_right le_rfl, Nat.sub_self]
        rfl
      exact absurd (List.mem_of_getElem? inNeedle) apart
    · exact List.prefix_of_prefix_length_le isHere (List.prefix_append _ _) fits
  · exact fun isHere => isHere.trans (List.prefix_append front _)

theorem prefix_drop_parted_iff (nonempty : needle ≠ []) (apart : white ∉ needle) :
    needle <+: (front ++ white :: back).drop place ↔
      needle <+: front.drop place ∨
        (front.length < place ∧ needle <+: back.drop (place - (front.length + 1))) := by
  rcases Nat.lt_or_ge front.length place with behind | before
  · have nothing : front.drop place = [] := List.drop_eq_nil_of_le behind.le
    have shape : (front ++ white :: back).drop place = back.drop (place - (front.length + 1)) := by
      have oneMore : place - front.length = place - (front.length + 1) + 1 := by
        omega
      rw [List.drop_append, nothing, List.nil_append, oneMore, List.drop_succ_cons]
    rw [shape, nothing, List.prefix_nil]
    simp [nonempty, behind]
  · rw [List.drop_append_of_le_length before, prefix_parted_iff apart]
    simp [not_lt.mpr before]

theorem infix_iff_place : needle <:+: text ↔ ∃ place, needle <+: text.drop place := by
  rw [List.infix_iff_prefix_suffix]
  constructor
  · rintro ⟨rest, isHere, before, rfl⟩
    exact ⟨before.length, by rw [List.drop_left]; exact isHere⟩
  · rintro ⟨place, isHere⟩
    exact ⟨_, isHere, List.drop_suffix _ _⟩

theorem infix_parted (nonempty : needle ≠ []) (apart : white ∉ needle)
    (isThere : needle <:+: front ++ white :: back) :
    needle <:+: front ∨ needle <:+: back := by
  obtain ⟨place, isHere⟩ := infix_iff_place.mp isThere
  rw [prefix_drop_parted_iff nonempty apart] at isHere
  rcases isHere with before | ⟨-, behind⟩
  · exact Or.inl (infix_iff_place.mpr ⟨_, before⟩)
  · exact Or.inr (infix_iff_place.mpr ⟨_, behind⟩)

section

variable (nonempty : ∀ needle ∈ needles, needle ≠ [])
include nonempty

theorem findFirst_eq_of_least (isThere : ∃ needle ∈ needles, needle <+: text.drop place)
    (nowhereBefore : ∀ needle ∈ needles, ∀ earlier < place, ¬ needle <+: text.drop earlier) :
    findFirst needles text = some place := by
  obtain ⟨needle, isNeedle, isHere⟩ := isThere
  cases found : findFirst needles text with
  | none => exact absurd isHere (findFirst_eq_none nonempty found needle isNeedle _)
  | some first =>
    obtain ⟨⟨other, isOther, isFirst⟩, least⟩ := findFirst_eq_some nonempty found
    rcases Nat.lt_trichotomy first place with earlier | rfl | later
    · exact absurd isFirst (nowhereBefore other isOther first earlier)
    · rfl
    · exact absurd isHere (least needle isNeedle place later)

theorem findFirst_eq_none_of_nowhere
    (nowhere : ∀ needle ∈ needles, ∀ place, ¬ needle <+: text.drop place) :
    findFirst needles text = none := by
  cases found : findFirst needles text with
  | none => rfl
  | some first =>
    obtain ⟨⟨needle, isNeedle, isHere⟩, -⟩ := findFirst_eq_some nonempty found
    exact absurd isHere (nowhere needle isNeedle first)

theorem findFirst_parted_of_some (apart : ∀ needle ∈ needles, white ∉ needle)
    (found : findFirst needles front = some place) :
    findFirst needles (front ++ white :: back) = some place := by
  obtain ⟨⟨needle, isNeedle, isHere⟩, least⟩ := findFirst_eq_some nonempty found
  have inFront : place < front.length := by
    by_contra beyond
    rw [List.drop_eq_nil_of_le (not_lt.mp beyond), List.prefix_nil] at isHere
    exact nonempty needle isNeedle isHere
  refine findFirst_eq_of_least nonempty ⟨needle, isNeedle, ?_⟩ ?_
  · rw [prefix_drop_parted_iff (nonempty _ isNeedle) (apart _ isNeedle)]
    exact Or.inl isHere
  · intro other isOther earlier isEarlier
    rw [prefix_drop_parted_iff (nonempty _ isOther) (apart _ isOther), not_or]
    exact ⟨least other isOther earlier isEarlier, fun behind => by omega⟩

end

/-- What is not found before a gap is found behind it, or not at all. -/
theorem findFirst_parted_of_none {needles : List (List Char)}
    (nonempty : ∀ needle ∈ needles, needle ≠ []) (apart : ∀ needle ∈ needles, white ∉ needle)
    (notFound : findFirst needles front = none) :
    findFirst needles (front ++ white :: back) =
      (findFirst needles back).map fun place => place + (front.length + 1) := by
  have onlyBehind : ∀ needle ∈ needles, ∀ place, needle <+: (front ++ white :: back).drop place ↔
        front.length < place ∧ needle <+: back.drop (place - (front.length + 1)) := by
    intro needle isNeedle place
    rw [prefix_drop_parted_iff (nonempty _ isNeedle) (apart _ isNeedle)]
    simp [findFirst_eq_none nonempty notFound needle isNeedle place]
  cases found : findFirst needles back with
  | none =>
    apply findFirst_eq_none_of_nowhere nonempty
    intro needle isNeedle place
    rw [onlyBehind needle isNeedle place]
    exact fun isThere =>
      findFirst_eq_none nonempty found needle isNeedle _ isThere.2
  | some first =>
    obtain ⟨⟨needle, isNeedle, isHere⟩, least⟩ := findFirst_eq_some nonempty found
    rw [Option.map_some]
    refine findFirst_eq_of_least nonempty ⟨needle, isNeedle, ?_⟩ ?_
    · rw [onlyBehind needle isNeedle, Nat.add_sub_cancel]
      exact ⟨by omega, isHere⟩
    · intro other isOther earlier isEarlier
      rw [onlyBehind other isOther]
      rintro ⟨behind, isThere⟩
      exact least other isOther _ (by omega) isThere

end Places

section Replacing

variable {needle replacement : List Char} {skip : Nat}

theorem replaceFrom_append (nonempty : needle ≠ []) (apart : white ∉ needle)
    (inFront : skip ≤ front.length) :
    replaceFrom needle replacement skip (front ++ white :: back) =
      replaceFrom needle replacement skip front ++
        white :: replaceFrom needle replacement 0 back := by
  induction front generalizing skip with
  | nil =>
    have noSkip : skip = 0 := Nat.le_zero.mp inFront
    have notHere : ¬ needle <+: white :: back := by
      intro isHere
      rw [← List.nil_append (white :: back), prefix_parted_iff apart, List.prefix_nil] at isHere
      exact nonempty isHere
    simp only [noSkip, List.nil_append, replaceFrom, if_neg notHere]
  | cons character rest inductionHypothesis =>
    cases skip with
    | succ fewer => exact inductionHypothesis (Nat.le_of_succ_le_succ inFront)
    | zero =>
      have samePrefix :
          needle <+: character :: (rest ++ white :: back) ↔ needle <+: character :: rest :=
        @prefix_parted_iff white (character :: rest) back needle apart
      rw [List.cons_append, replaceFrom, replaceFrom]
      by_cases isHere : needle <+: character :: rest
      · have fits := isHere.length_le
        rw [List.length_cons] at fits
        rw [if_pos isHere, if_pos (samePrefix.mpr isHere),
          inductionHypothesis (by omega), List.append_assoc]
      · rw [if_neg isHere, if_neg (mt samePrefix.mp isHere),
          inductionHypothesis (Nat.zero_le _), List.cons_append]

theorem replace_append (nonempty : needle ≠ []) (apart : white ∉ needle) :
    replace needle replacement (front ++ white :: back) =
      replace needle replacement front ++ white :: replace needle replacement back :=
  replaceFrom_append nonempty apart (Nat.zero_le _)

theorem replace_eq_self (absent : ¬ needle <:+: text) : replace needle replacement text = text := by
  unfold replace
  induction text with
  | nil => rfl
  | cons character rest inductionHypothesis =>
    rw [List.infix_cons_iff, not_or] at absent
    rw [replaceFrom, if_neg absent.1, inductionHypothesis absent.2]

theorem replaceFrom_skipped (skipped : List Char) :
    replaceFrom needle replacement skipped.length (skipped ++ text) =
      replaceFrom needle replacement 0 text := by
  induction skipped with
  | nil => rfl
  | cons _ _ inductionHypothesis => exact inductionHypothesis

theorem replace_first (nonempty : needle ≠ [])
    (first : ∀ place < front.length, ¬ needle <+: (front ++ needle ++ back).drop place) :
    replace needle replacement (front ++ needle ++ back) =
      front ++ replacement ++ replace needle replacement back := by
  unfold replace
  induction front with
  | nil =>
    obtain ⟨head, rest, rfl⟩ := List.exists_cons_of_ne_nil nonempty
    have isHere : head :: rest <+: head :: (rest ++ back) := List.prefix_append (head :: rest) back
    rw [List.nil_append, List.cons_append, replaceFrom, if_pos isHere,
      List.nil_append, List.length_cons, Nat.add_sub_cancel,
      replaceFrom_skipped]
  | cons character rest inductionHypothesis =>
    have notHere : ¬ needle <+: character :: (rest ++ needle ++ back) := first 0 (Nat.succ_pos _)
    have later := inductionHypothesis fun place inRest =>
        first (place + 1) (Nat.succ_lt_succ inRest)
    rw [List.cons_append, List.cons_append, replaceFrom,
      if_neg notHere, later, List.cons_append, List.cons_append]

variable {found : List Char} (noSpace : ' ' ∉ found)

include noSpace in
theorem prefix_of_prefix_replace (isHere : found <+: replaceFrom needle [' '] 0 text) :
    found <+: text := by
  induction text generalizing found with
  | nil => exact isHere
  | cons character rest inductionHypothesis =>
    cases found with
    | nil => exact List.nil_prefix
    | cons head others =>
      rw [replaceFrom] at isHere
      split at isHere
      · rw [List.singleton_append, List.cons_prefix_cons] at isHere
        rw [isHere.1] at noSpace
        exact absurd List.mem_cons_self noSpace
      · rw [List.cons_prefix_cons] at isHere ⊢
        exact ⟨isHere.1, inductionHypothesis
            (fun inOthers => noSpace (List.mem_cons_of_mem _ inOthers))
            isHere.2⟩

include noSpace in
theorem infix_of_infix_replaceFrom (isThere : found <:+: replaceFrom needle [' '] skip text) :
    found <:+: text := by
  induction text generalizing skip with
  | nil => cases skip <;> exact isThere
  | cons character rest inductionHypothesis =>
    cases skip with
    | succ fewer => exact List.infix_cons (inductionHypothesis isThere)
    | zero =>
      by_cases isHere : needle <+: character :: rest
      · rw [replaceFrom, if_pos isHere, List.singleton_append,
          List.infix_cons_iff] at isThere
        rcases isThere with starts | later
        · cases found with
          | nil => exact List.nil_infix
          | cons head others =>
            rw [(List.cons_prefix_cons.mp starts).1] at noSpace
            exact absurd List.mem_cons_self noSpace
        · exact List.infix_cons (inductionHypothesis later)
      · have starts := @prefix_of_prefix_replace (character :: rest) needle
          found noSpace
        rw [replaceFrom, if_neg isHere] at starts isThere
        rw [List.infix_cons_iff] at isThere ⊢
        exact isThere.imp starts inductionHypothesis

end Replacing

end TextScan
