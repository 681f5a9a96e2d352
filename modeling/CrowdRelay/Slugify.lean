import Mathlib.Data.List.Chain
import CrowdRelay.TrackedLinks

namespace CrowdRelay

/-!
# Slugs from names

A show and a city are reached under a slug made out of the name people typed.
Both passes below fold the letters of the region to plain ones and put one dash
wherever anything else stood; they differ in what they do with a long name and
with a name nothing of which folds.
-/

/-- A slug type of the catalogue, by whether it takes capital letters. -/
structure ValidatedSlug (allowUppercase : Bool) where
  asStr : Text
  valid : validateSlug asStr allowUppercase = .ok asStr
  deriving DecidableEq

def ValidatedSlug.parse {allowUppercase : Bool} (value : Text) :
    Except SlugError (ValidatedSlug allowUppercase) :=
  match valid : validateSlug value allowUppercase with
  | .error refusal => .error refusal
  | .ok slug => .ok ⟨slug, (validateSlug_eq_ok valid).1 ▸ valid⟩

abbrev CitySlug := ValidatedSlug false

abbrev EventSlug := ValidatedSlug false

/-- Two capital letters. -/
structure CountryCode where
  asStr : Text
  valid : byteLength asStr = 2 ∧ asStr.all Char.isUpper = true
  deriving DecidableEq

def CountryCode.parse (value : Text) : Option CountryCode :=
  if valid : byteLength value = 2 ∧ value.all Char.isUpper = true then some ⟨value, valid⟩ else none

/-- The letters each plain letter stands for. -/
def asciiFolds : List (Char × Text) :=
  [ ('a', "ąĄäÄáÁàÀâÂ".toList),
    ('c', "ćĆčČ".toList),
    ('d', "ďĎ".toList),
    ('e', "ęĘéÉěĚ".toList),
    ('i', "íÍ".toList),
    ('l', "łŁ".toList),
    ('n', "ńŃňŇ".toList),
    ('o', "óÓöÖ".toList),
    ('r', "řŘ".toList),
    ('s', "śŚšŠ".toList),
    ('t', "ťŤ".toList),
    ('u', "üÜúÚůŮ".toList),
    ('y', "ýÝ".toList),
    ('z', "źŹżŻžŽ".toList) ]

def asciiFold (character : Char) : Char :=
  match asciiFolds.find? (·.2.contains character) with
  | some (plain, _) => plain
  | none => character

/-- The slug written so far, and whether its last character is a dash. -/
structure SlugDraft where
  slug : Text
  previousDash : Bool
  deriving DecidableEq

def SlugDraft.empty : SlugDraft := ⟨[], false⟩

/-- Writes one folded character. -/
def SlugDraft.push (draft : SlugDraft) (character : Char) : SlugDraft :=
  if character.isAlphanum then
    { slug := draft.slug ++ [character.toLower], previousDash := false }
  else if !draft.previousDash && !draft.slug.isEmpty then
    { slug := draft.slug ++ ['-'], previousDash := true }
  else
    draft

def withoutTrailingDashes (slug : Text) : Text := slug.rdropWhile (· == '-')

/-- Leaves room for the suffix that tells two shows of one name apart. -/
def stemLimit : Nat := maxSlugLength - 4

/-- Writes the name until the stem is full. -/
def slugifyFrom : Text → SlugDraft → SlugDraft
  | [], draft => draft
  | character :: rest, draft =>
    let draft := draft.push (asciiFold character)
    if stemLimit ≤ draft.slug.length then draft else slugifyFrom rest draft

def slugify (value : Text) : Option Text :=
  let slug := withoutTrailingDashes (slugifyFrom value .empty).slug
  if slug.isEmpty then none else some slug

/-- Writes the whole name, however long. -/
def writeName (value : Text) (draft : SlugDraft) : SlugDraft :=
  value.foldl
    (fun written character => SlugDraft.push written (asciiFold character))
    draft

/-- A name in the letters, digits and dashes of a slug. -/
def foldedName (value : Text) : Text := withoutTrailingDashes (writeName value .empty).slug

/-- The first six bytes of a name's digest. -/
def slugHash (sha256 : Text → Vector UInt8 32) (value : Text) : Text :=
  ((sha256 value).toList.take 6).flatMap hexByte

/-- The slug every write path derives for one name.  A folded name is plain
ASCII, and so is every fallback, so a stem is cut between characters. -/
def stableSlug (sha256 : Text → Vector UInt8 32)
    (value fallback : Text) : Text :=
  let folded := foldedName value
  let slug := if folded.isEmpty then fallback else folded
  if 80 < byteLength slug then
    withoutTrailingDashes (slug.take 67) ++ '-' :: slugHash sha256 value
  else
    slug

/-!
## What a slug is spelled with
-/

/-- Lower-case letters and digits, with single dashes between them and perhaps
one behind them. -/
structure Dashed (slug : Text) : Prop where
  spelled :
    ∀ character ∈ slug,
      isSlugAlphanumeric false character = true ∨ character = '-'
  begins : slug.head? ≠ some '-'
  apart :
    slug.IsChain fun earlier later => ¬ (earlier = '-' ∧ later = '-')

section Characters

variable {character : Char}

theorem asciiFold_ascii (ascii : character.toNat < 128) : asciiFold character = character := by
  have foreign : asciiFolds.all (fun fold => fold.2.all (128 ≤ ·.toNat)) = true := by
    decide
  have unfolded : asciiFolds.find? (·.2.contains character) = none := by
    refine List.find?_eq_none.mpr fun fold isFold contained => ?_
    have beyond := List.all_eq_true.mp (List.all_eq_true.mp foreign fold isFold)
        character (List.contains_iff_mem.mp contained)
    simp at beyond
    omega
  rw [asciiFold, unfolded]

theorem isAlphanum_of_slugAlphanumeric (spelled : isSlugAlphanumeric false character = true) :
    character.isAlphanum = true := by
  rw [isSlugAlphanumeric] at spelled
  delta Char.isAlphanum Char.isAlpha
  grind

theorem slugAlphanumeric_kept (spelled : isSlugAlphanumeric false character = true) :
    character.toLower = character ∧ asciiFold character = character := by
  have table :
      ∀ code < 123, isSlugAlphanumeric false (Char.ofNat code) = true →
        (Char.ofNat code).toLower = Char.ofNat code := by
    decide
  have small := toNat_lt_of_isAlphanum (isAlphanum_of_slugAlphanumeric spelled)
  have entry := table character.toNat small
  rw [Char.ofNat_toNat] at entry
  exact ⟨entry spelled, asciiFold_ascii (by omega)⟩

theorem isSlugAlphanumeric_toLower (alphanumeric : character.isAlphanum = true) :
    isSlugAlphanumeric false character.toLower = true := by
  have table :
      ∀ code < 123, (Char.ofNat code).isAlphanum = true →
        isSlugAlphanumeric false (Char.ofNat code).toLower = true := by
    decide
  have entry := table character.toNat (toNat_lt_of_isAlphanum alphanumeric)
  rw [Char.ofNat_toNat] at entry
  exact entry alphanumeric

theorem slugAlphanumeric_ne_dash (spelled : isSlugAlphanumeric false character = true) :
    character ≠ '-' := by
  rintro rfl
  exact Bool.false_ne_true spelled

end Characters

theorem byteLength_of_ascii {text : Text} (ascii : ∀ character ∈ text, character.toNat < 128) :
    byteLength text = text.length := by
  induction text with
  | nil => rfl
  | cons character rest inductionHypothesis =>
    have small := ascii character List.mem_cons_self
    have oneByte : character.utf8Size = 1 := by
      refine Char.utf8Size_eq_one_iff.mpr ?_
      rw [UInt32.le_iff_toNat_le]
      exact Nat.le_of_lt_succ small
    have restBytes := inductionHypothesis fun character isThere =>
      ascii character (List.mem_cons_of_mem _ isThere)
    rw [byteLength] at restBytes
    rw [byteLength, List.map_cons, List.sum_cons, oneByte, restBytes,
      List.length_cons, Nat.add_comm]

namespace Dashed

variable {slug more : Text} {character : Char}

theorem nil : Dashed [] := ⟨nofun, nofun, .nil⟩

theorem prefix_of (dashed : Dashed more) (isPrefix : slug <+: more) : Dashed slug := by
  refine ⟨?_, ?_, ?_⟩
  · exact fun character isThere =>
      dashed.spelled character (isPrefix.subset isThere)
  · obtain ⟨rest, rfl⟩ := isPrefix
    have begins := dashed.begins
    cases slug with
    | nil => exact nofun
    | cons first slug => exact begins
  · obtain ⟨rest, rfl⟩ := isPrefix
    exact dashed.apart.left_of_append

theorem append_alphanumeric (dashed : Dashed slug)
    (spelled : ∀ character ∈ more, isSlugAlphanumeric false character = true) :
    Dashed (slug ++ more) := by
  refine ⟨?_, ?_, ?_⟩
  · intro character isThere
    rcases List.mem_append.mp isThere with earlier | later
    · exact dashed.spelled character earlier
    · exact .inl (spelled character later)
  · intro begins
    cases slug with
    | nil =>
      have first := List.mem_of_head? begins
      exact slugAlphanumeric_ne_dash (spelled '-' first) rfl
    | cons first slug => exact dashed.begins begins
  · refine List.isChain_append.mpr ⟨dashed.apart, ?_, ?_⟩
    · refine List.Pairwise.isChain (List.pairwise_of_forall_mem_list ?_)
      intro earlier isThere later _ both
      exact slugAlphanumeric_ne_dash (spelled earlier isThere) both.1
    · intro earlier _ later isNext both
      exact slugAlphanumeric_ne_dash (spelled later (List.mem_of_mem_head? isNext)) both.2

theorem append_dash (dashed : Dashed slug) (written : slug ≠ [])
    (undashed : slug.getLast? ≠ some '-') :
    Dashed (slug ++ ['-']) := by
  refine ⟨?_, ?_, ?_⟩
  · intro character isThere
    rcases List.mem_append.mp isThere with earlier | later
    · exact dashed.spelled character earlier
    · exact .inr (List.mem_singleton.mp later)
  · obtain ⟨first, rest, rfl⟩ := List.exists_cons_of_ne_nil written
    exact dashed.begins
  · refine List.isChain_append.mpr ⟨dashed.apart, .singleton '-', ?_⟩
    rintro earlier isLast later _ ⟨rfl, -⟩
    exact undashed isLast

theorem byteLength_eq (dashed : Dashed slug) : byteLength slug = slug.length :=
  byteLength_of_ascii fun character isThere => by
    rcases dashed.spelled character isThere with spelled | rfl
    · have small := toNat_lt_of_isAlphanum (isAlphanum_of_slugAlphanumeric spelled)
      omega
    · decide

end Dashed

/-!
## What is written

A draft is dashed at every character, so a slug cut anywhere is one.
-/

/-- A draft that knows whether it ends with a dash. -/
structure SlugDraft.Kept (draft : SlugDraft) : Prop where
  dashed : Dashed draft.slug
  tracked : draft.previousDash = true ↔ draft.slug.getLast? = some '-'

namespace SlugDraft

variable {draft : SlugDraft} {character : Char}

theorem kept_empty : Kept .empty := ⟨.nil, nofun, nofun⟩

theorem kept_push (kept : draft.Kept) (character : Char) : (draft.push character).Kept := by
  unfold push
  split_ifs with alphanumeric between
  · have spelled := isSlugAlphanumeric_toLower alphanumeric
    refine ⟨kept.dashed.append_alphanumeric ?_, ?_⟩
    · intro written isWritten
      rw [List.mem_singleton.mp isWritten]
      exact spelled
    · rw [List.getLast?_append, List.getLast?_singleton, Option.some_or]
      have notDash := slugAlphanumeric_ne_dash spelled
      simp [notDash]
  · simp only [Bool.and_eq_true, Bool.not_eq_true', List.isEmpty_eq_false_iff]
      at between
    refine ⟨kept.dashed.append_dash between.2 ?_, ?_⟩
    · intro dashBehind
      rw [kept.tracked.mpr dashBehind] at between
      exact Bool.noConfusion between.1
    · rw [List.getLast?_append, List.getLast?_singleton, Option.some_or]
      simp
  · exact kept

theorem prefix_push (draft : SlugDraft) (character : Char) :
    draft.slug <+: (draft.push character).slug := by
  unfold push
  split_ifs
  · exact List.prefix_append _ _
  · exact List.prefix_append _ _
  · exact List.prefix_rfl

theorem length_push_le (draft : SlugDraft) (character : Char) :
    (draft.push character).slug.length ≤ draft.slug.length + 1 := by
  unfold push
  split_ifs <;> simp

theorem push_spelled (kept : draft.Kept) (dashed : Dashed (draft.slug ++ [character])) :
    (draft.push (asciiFold character)).slug = draft.slug ++ [character] := by
  have isNext : character ∈ draft.slug ++ [character] := by simp
  rcases dashed.spelled character isNext with spelled | rfl
  · obtain ⟨lower, unfolded⟩ := slugAlphanumeric_kept spelled
    rw [unfolded, push, if_pos (isAlphanum_of_slugAlphanumeric spelled), lower]
  · have written : draft.slug ≠ [] := by
      intro nothing
      rw [nothing] at dashed
      exact dashed.begins rfl
    have apart := (List.isChain_append.mp dashed.apart).2.2
    have undashed : draft.previousDash = false := by
      refine Bool.eq_false_iff.mpr fun dashBehind => ?_
      exact apart '-' (kept.tracked.mp dashBehind) '-' rfl ⟨rfl, rfl⟩
    have noLetter : ('-' : Char).isAlphanum = false := by decide
    rw [asciiFold_ascii (by decide), push, noLetter, undashed]
    simp [written]

end SlugDraft

section Writing

variable {value : Text} {draft : SlugDraft}

theorem kept_writeName (kept : draft.Kept) : (writeName value draft).Kept := by
  unfold writeName
  induction value generalizing draft with
  | nil => exact kept
  | cons character rest inductionHypothesis =>
    exact inductionHypothesis (SlugDraft.kept_push kept _)

theorem kept_slugifyFrom (kept : draft.Kept) : (slugifyFrom value draft).Kept := by
  induction value generalizing draft with
  | nil => exact kept
  | cons character rest inductionHypothesis =>
    have keptNext := SlugDraft.kept_push kept (asciiFold character)
    rw [slugifyFrom]
    split_ifs
    · exact keptNext
    · exact inductionHypothesis keptNext

theorem length_slugifyFrom_le (fits : draft.slug.length < stemLimit) :
    (slugifyFrom value draft).slug.length ≤ stemLimit := by
  induction value generalizing draft with
  | nil => exact fits.le
  | cons character rest inductionHypothesis =>
    have grown := draft.length_push_le (asciiFold character)
    rw [slugifyFrom]
    split_ifs with full
    · omega
    · exact inductionHypothesis (Nat.lt_of_not_le full)

theorem prefix_writeName (value : Text) (draft : SlugDraft) :
    draft.slug <+: (writeName value draft).slug := by
  unfold writeName
  induction value generalizing draft with
  | nil => exact List.prefix_rfl
  | cons character rest inductionHypothesis =>
    exact (draft.prefix_push _).trans (inductionHypothesis _)

theorem slugifyFrom_eq_writeName (fits : (writeName value draft).slug.length < stemLimit) :
    slugifyFrom value draft = writeName value draft := by
  induction value generalizing draft with
  | nil => rfl
  | cons character rest inductionHypothesis =>
    have shorter := (prefix_writeName rest (draft.push (asciiFold character))).length_le
    have room : ¬ stemLimit ≤ (draft.push (asciiFold character)).slug.length :=
      fun full => absurd fits (not_lt.mpr (full.trans shorter))
    rw [slugifyFrom, if_neg room]
    exact inductionHypothesis fits

theorem writeName_spelled (kept : draft.Kept) (dashed : Dashed (draft.slug ++ value)) :
    (writeName value draft).slug = draft.slug ++ value := by
  induction value generalizing draft with
  | nil => exact (List.append_nil _).symm
  | cons character rest inductionHypothesis =>
    have whole : draft.slug ++ character :: rest = (draft.slug ++ [character]) ++ rest := by
      simp
    rw [whole] at dashed ⊢
    have written := SlugDraft.push_spelled kept (dashed.prefix_of (List.prefix_append _ _))
    rw [← written] at dashed ⊢
    exact inductionHypothesis (SlugDraft.kept_push kept _) dashed

theorem slugifyFrom_spelled (kept : draft.Kept) (dashed : Dashed (draft.slug ++ value))
    (fits : (draft.slug ++ value).length ≤ stemLimit) :
    (slugifyFrom value draft).slug = draft.slug ++ value := by
  induction value generalizing draft with
  | nil => exact (List.append_nil _).symm
  | cons character rest inductionHypothesis =>
    have whole : draft.slug ++ character :: rest = (draft.slug ++ [character]) ++ rest := by
      simp
    rw [whole] at dashed fits ⊢
    have written := SlugDraft.push_spelled kept (dashed.prefix_of (List.prefix_append _ _))
    rw [← written] at dashed fits ⊢
    rw [slugifyFrom]
    split_ifs with full
    · -- the stem is full only behind the last character
      have last : rest = [] := by
        rw [List.length_append] at fits
        exact List.length_eq_zero_iff.mp (by omega)
      rw [last, List.append_nil]
    · exact inductionHypothesis (SlugDraft.kept_push kept _) dashed fits

end Writing

/-!
## Slugs are storable and stable
-/

/-- Words of lower-case letters and digits with single dashes between them. -/
structure Hyphenated (slug : Text) : Prop where
  dashed : Dashed slug
  written : slug ≠ []
  closed : slug.getLast? ≠ some '-'

theorem trimmed_isPrefix (slug : Text) : withoutTrailingDashes slug <+: slug :=
  List.rdropWhile_prefix _ _

theorem hyphenated_withoutTrailingDashes {slug : Text} (dashed : Dashed slug)
    (written : withoutTrailingDashes slug ≠ []) :
    Hyphenated (withoutTrailingDashes slug) := by
  refine ⟨dashed.prefix_of (trimmed_isPrefix slug), written, ?_⟩
  rw [List.getLast?_eq_some_getLast written]
  intro dashBehind
  have undashed := List.rdropWhile_last_not (· == '-') slug written
  exact undashed (beq_iff_eq.mpr (Option.some.inj dashBehind))

theorem length_le_withoutTrailingDashes {slug : Text} (dashed : Dashed slug) :
    slug.length ≤ (withoutTrailingDashes slug).length + 1 := by
  rcases List.eq_nil_or_concat slug with rfl | ⟨earlier, last, rfl⟩
  · exact Nat.zero_le _
  · rw [List.concat_eq_append] at dashed ⊢
    rw [withoutTrailingDashes, List.rdropWhile_concat]
    split_ifs with isDash
    · have apart := (List.isChain_append.mp dashed.apart).2.2
      have closed : ∀ nonempty : earlier ≠ [], ¬ (earlier.getLast nonempty == '-') = true := by
        intro nonempty isAlsoDash
        exact apart _ (List.getLast_mem_getLast? nonempty) last rfl
          ⟨eq_of_beq isAlsoDash, eq_of_beq isDash⟩
      rw [List.rdropWhile_eq_self_iff.mpr closed, List.length_append, List.length_singleton]
    · exact Nat.le_succ _

namespace Hyphenated

variable {slug : Text}

theorem untrimmed (hyphenated : Hyphenated slug) : withoutTrailingDashes slug = slug := by
  refine List.rdropWhile_eq_self_iff.mpr fun nonempty isDash => ?_
  apply hyphenated.closed
  rw [List.getLast?_eq_some_getLast nonempty, eq_of_beq isDash]

/-- It is a slug of either kind, where it is not too long. -/
theorem parsed (hyphenated : Hyphenated slug) (fits : slug.length ≤ maxSlugLength) :
    ∃ parsed : ValidatedSlug false, ValidatedSlug.parse slug = .ok parsed := by
  have valid : validateSlug slug false = .ok slug := by
    obtain ⟨first, rest, rfl⟩ := List.exists_cons_of_ne_nil hyphenated.written
    have short : ¬ maxSlugLength < byteLength (first :: rest) := by
      rw [hyphenated.dashed.byteLength_eq]
      exact not_lt.mpr fits
    have begins : isSlugAlphanumeric false first = true := by
      rcases hyphenated.dashed.spelled first List.mem_cons_self with
        spelled | rfl
      · exact spelled
      · exact absurd rfl hyphenated.dashed.begins
    have belongs : (first :: rest).findIdx? (!isSlugCharacter false ·) = none := by
      refine List.findIdx?_eq_none_iff.mpr fun character isThere => ?_
      rcases hyphenated.dashed.spelled character isThere with spelled | rfl
      · rw [isSlugCharacter, spelled]
        rfl
      · rfl
    simp only [validateSlug, if_neg short, begins, belongs, Bool.not_true,
      Bool.false_eq_true, if_false]
  refine ⟨⟨slug, valid⟩, ?_⟩
  unfold ValidatedSlug.parse
  split
  · rename_i refusal invalid
    rw [valid] at invalid
    cases invalid
  · rename_i text isText
    have same := (validateSlug_eq_ok isText).1
    subst same
    rfl

theorem slugify_eq (hyphenated : Hyphenated slug) (fits : slug.length ≤ stemLimit) :
    slugify slug = some slug := by
  have written := slugifyFrom_spelled SlugDraft.kept_empty hyphenated.dashed fits
  rw [slugify, written]
  change (if (withoutTrailingDashes slug).isEmpty then none
    else some (withoutTrailingDashes slug)) = _
  rw [hyphenated.untrimmed, if_neg fun empty => hyphenated.written (List.isEmpty_iff.mp empty)]

theorem foldedName_eq (hyphenated : Hyphenated slug) : foldedName slug = slug := by
  have written := writeName_spelled SlugDraft.kept_empty hyphenated.dashed
  rw [foldedName, written]
  exact hyphenated.untrimmed

theorem stableSlug_eq (hyphenated : Hyphenated slug) (fits : slug.length ≤ 80)
    (sha256 : Text → Vector UInt8 32) (fallback : Text) :
    stableSlug sha256 slug fallback = slug := by
  have short : ¬ 80 < byteLength slug := by
    rw [hyphenated.dashed.byteLength_eq]
    exact not_lt.mpr fits
  simp only [stableSlug, hyphenated.foldedName_eq,
    List.isEmpty_eq_false_iff.mpr hyphenated.written, Bool.false_eq_true,
    if_false, if_neg short]

end Hyphenated

section Names

variable {value slug fallback : Text} (sha256 : Text → Vector UInt8 32)

theorem dashed_writeName (value : Text) : Dashed (writeName value .empty).slug :=
  (kept_writeName SlugDraft.kept_empty).dashed

theorem hyphenated_foldedName (written : foldedName value ≠ []) : Hyphenated (foldedName value) :=
  hyphenated_withoutTrailingDashes (dashed_writeName value) written

theorem writeName_unfolded
    (nothing : ∀ character ∈ value, (asciiFold character).isAlphanum = false) :
    writeName value .empty = .empty := by
  unfold writeName
  induction value with
  | nil => rfl
  | cons character rest inductionHypothesis =>
    have skipped : SlugDraft.push .empty (asciiFold character) = .empty := by
      simp [SlugDraft.push, nothing character List.mem_cons_self, SlugDraft.empty]
    rw [List.foldl_cons, skipped]
    exact inductionHypothesis fun later isThere =>
      nothing later (List.mem_cons_of_mem _ isThere)

theorem foldedName_eq_nil_iff :
    foldedName value = [] ↔ ∀ character ∈ value, (asciiFold character).isAlphanum = false := by
  have trimmed :
      foldedName value = [] ↔ ∀ character ∈ (writeName value .empty).slug, character = '-' := by
    simp [foldedName, withoutTrailingDashes, List.rdropWhile_eq_nil_iff]
  rw [trimmed]
  constructor
  · intro dashes
    by_contra folds
    push Not at folds
    obtain ⟨character, isThere, folds⟩ := folds
    have alphanumeric : (asciiFold character).isAlphanum = true :=
      Bool.eq_true_of_not_eq_false folds
    obtain ⟨before, behind, rfl⟩ := List.append_of_mem isThere
    have written :
        (asciiFold character).toLower ∈
          ((writeName before .empty).push (asciiFold character)).slug := by
      simp [SlugDraft.push, alphanumeric]
    have kept :
        (asciiFold character).toLower ∈
          (writeName (before ++ character :: behind) .empty).slug := by
      rw [writeName, List.foldl_append]
      exact (prefix_writeName behind _).subset written
    exact slugAlphanumeric_ne_dash (isSlugAlphanumeric_toLower alphanumeric) (dashes _ kept)
  · intro nothing
    rw [writeName_unfolded nothing]
    exact nofun

theorem slugify_sound (isSlug : slugify value = some slug) :
    Hyphenated slug ∧ slug.length ≤ stemLimit := by
  have dashed : Dashed (slugifyFrom value .empty).slug :=
    (kept_slugifyFrom SlugDraft.kept_empty).dashed
  have short : (slugifyFrom value .empty).slug.length ≤ stemLimit :=
    length_slugifyFrom_le (by decide)
  rw [slugify] at isSlug
  simp only [Option.ite_none_left_eq_some, List.isEmpty_iff] at isSlug
  obtain ⟨written, isSlug⟩ := isSlug
  injection isSlug with isSlug
  subst isSlug
  exact ⟨hyphenated_withoutTrailingDashes dashed written,
      (trimmed_isPrefix _).length_le.trans short⟩

theorem slugify_eq_foldedName (written : foldedName value ≠ [])
    (fits : (foldedName value).length ≤ 80) :
    slugify value = some (foldedName value) := by
  have trimmed := length_le_withoutTrailingDashes (dashed_writeName value)
  have room : (writeName value .empty).slug.length < stemLimit := by
    rw [foldedName] at fits
    have limit : stemLimit = 124 := rfl
    omega
  rw [slugify, slugifyFrom_eq_writeName room]
  exact if_neg fun empty => written (List.isEmpty_iff.mp empty)

theorem slugHash_spelled (value : Text) :
    ∀ character ∈ slugHash sha256 value, isSlugAlphanumeric false character = true := by
  have digits : ∀ digit < 16, isSlugAlphanumeric false (Nat.digitChar digit) = true := by
    decide
  intro character isThere
  obtain ⟨byte, -, isDigit⟩ := List.mem_flatMap.mp isThere
  have small := byte.toNat_lt
  simp only [hexByte, List.mem_cons, List.not_mem_nil, or_false] at isDigit
  rcases isDigit with rfl | rfl
  · exact digits _ (by omega)
  · exact digits _ (by omega)

theorem length_slugHash (value : Text) : (slugHash sha256 value).length = 12 := by
  simp [slugHash, hexByte, List.length_flatMap]

/-- Whatever a name folds to, its stable slug is one of at most 80
characters. -/
theorem hyphenated_stableSlug (fallback : Text) (written : foldedName value ≠ []) :
    Hyphenated (stableSlug sha256 value fallback) ∧
      (stableSlug sha256 value fallback).length ≤ 80 := by
  have folded := hyphenated_foldedName written
  simp only [stableSlug, List.isEmpty_eq_false_iff.mpr written,
    Bool.false_eq_true, if_false, folded.dashed.byteLength_eq]
  split_ifs with long
  · have cut : Dashed ((foldedName value).take 67) := folded.dashed.prefix_of (List.take_prefix _ _)
    have stemWritten : withoutTrailingDashes ((foldedName value).take 67) ≠ [] := by
      obtain ⟨first, rest, isName⟩ := List.exists_cons_of_ne_nil written
      intro nothing
      have dashes := List.rdropWhile_eq_nil_iff.mp nothing
      have isDash := dashes first (by simp [isName])
      refine folded.dashed.begins ?_
      rw [isName, List.head?_cons, eq_of_beq isDash]
    have stem := hyphenated_withoutTrailingDashes cut stemWritten
    have suffixed := (stem.dashed.append_dash stemWritten stem.closed).append_alphanumeric
        (slugHash_spelled sha256 value)
    rw [List.append_assoc, List.singleton_append] at suffixed
    have hashLength := length_slugHash sha256 value
    have stemLength := (trimmed_isPrefix ((foldedName value).take 67)).length_le
    refine ⟨⟨suffixed, by simp, ?_⟩, ?_⟩
    · have hashWritten : slugHash sha256 value ≠ [] := by
        rw [← List.length_pos_iff, hashLength]
        norm_num
      intro dashBehind
      rw [List.getLast?_append_of_ne_nil _ (List.cons_ne_nil _ _),
        List.getLast?_cons_of_ne_nil hashWritten] at dashBehind
      exact slugAlphanumeric_ne_dash
        (slugHash_spelled sha256 value '-' (List.mem_of_getLast? dashBehind))
        rfl
    · rw [List.length_append, List.length_cons, hashLength]
      rw [List.length_take] at stemLength
      omega
  · exact ⟨folded, not_lt.mp long⟩

theorem stableSlug_unfolded (nothing : foldedName value = []) (short : byteLength fallback ≤ 80) :
    stableSlug sha256 value fallback = fallback := by
  simp only [stableSlug, nothing, List.isEmpty_nil, if_true, if_neg (not_lt.mpr short)]

end Names

/-- What the catalogue relies on for the slugs of one name. -/
structure SlugsKept
    (sha256 : Text → Vector UInt8 32)
    (value : Text)
    (fallback : CountryCode) : Prop where
  slugified :
    ∀ slug, slugify value = some slug →
      (∃ city : CitySlug, ValidatedSlug.parse slug = .ok city) ∧
        (∃ event : EventSlug, ValidatedSlug.parse slug = .ok event) ∧
          slugify slug = some slug
  storable :
    ∃ city : CitySlug,
      ValidatedSlug.parse (stableSlug sha256 value fallback.asStr) = .ok city
  agrees :
    foldedName value ≠ [] → (foldedName value).length ≤ 80 →
      slugify value = some (stableSlug sha256 value fallback.asStr)
  bounded : (stableSlug sha256 value fallback.asStr).length ≤ 80
  stable :
    stableSlug sha256 (stableSlug sha256 value fallback.asStr)
        fallback.asStr =
      stableSlug sha256 value fallback.asStr

theorem CountryCode.not_storable (code : CountryCode) :
    ¬ ∃ city : CitySlug, ValidatedSlug.parse code.asStr = .ok city := by
  rintro ⟨city, parsed⟩
  have valid : validateSlug code.asStr false = .ok city.asStr := by
    unfold ValidatedSlug.parse at parsed
    split at parsed
    · cases parsed
    · rename_i text isText
      injection parsed with parsed
      rw [← parsed]
      exact isText
  obtain ⟨-, written, belongs⟩ := validateSlug_eq_ok valid
  obtain ⟨first, rest, isCode⟩ := List.exists_cons_of_ne_nil written
  have isFirst : first ∈ code.asStr := by simp [isCode]
  have capital := List.all_eq_true.mp code.valid.2 first isFirst
  have allowed := belongs first isFirst
  have alphanumeric : first.isAlphanum = true := by
    delta Char.isAlphanum Char.isAlpha
    simp [capital]
  have table :
      ∀ code < 123, (Char.ofNat code).isUpper = true →
        isSlugCharacter false (Char.ofNat code) = false := by
    decide
  have refused := table first.toNat (toNat_lt_of_isAlphanum alphanumeric)
  rw [Char.ofNat_toNat] at refused
  exact Bool.false_ne_true ((refused capital).symm.trans allowed)

theorem CountryCode.byteLength_le (code : CountryCode) : byteLength code.asStr ≤ 80 :=
  code.valid.1.le.trans (by norm_num)

/-- The slugs of a name are kept exactly when something of it folds to a letter
or digit.  Otherwise the name is reached under its country code, capitals and
all, which no city slug may be. -/
theorem slugs_kept_iff
    (sha256 : Text → Vector UInt8 32)
    (value : Text)
    (fallback : CountryCode) :
    SlugsKept sha256 value fallback ↔
      ∃ character ∈ value, (asciiFold character).isAlphanum = true := by
  have folds :
      foldedName value ≠ [] ↔ ∃ character ∈ value, (asciiFold character).isAlphanum = true := by
    rw [Ne, foldedName_eq_nil_iff]
    push Not
    simp only [ne_eq, Bool.not_eq_false]
  rw [← folds]
  constructor
  · intro kept nothing
    have unfolded := stableSlug_unfolded sha256 nothing fallback.byteLength_le
    exact fallback.not_storable (unfolded ▸ kept.storable)
  · intro written
    obtain ⟨hyphenated, bounded⟩ := hyphenated_stableSlug sha256 fallback.asStr written
    refine ⟨?_, ?_, ?_, bounded, ?_⟩
    · intro slug isSlug
      obtain ⟨isHyphenated, short⟩ := slugify_sound isSlug
      have stored := isHyphenated.parsed (short.trans (Nat.sub_le maxSlugLength 4))
      exact ⟨stored, stored, isHyphenated.slugify_eq short⟩
    · exact hyphenated.parsed (bounded.trans (by decide))
    · intro _ fits
      have folded := hyphenated_foldedName written
      have short : ¬ 80 < byteLength (foldedName value) := by
        rw [folded.dashed.byteLength_eq]
        exact not_lt.mpr fits
      have uncut : stableSlug sha256 value fallback.asStr = foldedName value := by
        simp only [stableSlug, List.isEmpty_eq_false_iff.mpr written,
          Bool.false_eq_true, if_false, if_neg short]
      rw [uncut]
      exact slugify_eq_foldedName written fits
    · exact hyphenated.stableSlug_eq bounded sha256 fallback.asStr

/-- A city named by flames alone would be stored as "PL". -/
theorem flames_city_not_kept :
    ¬ SlugsKept (fun _ => Vector.replicate 32 0) "🔥🔥".toList
        ⟨"PL".toList, by decide⟩ := by
  intro kept
  have asCountry :
      stableSlug (fun _ => Vector.replicate 32 0) "🔥🔥".toList "PL".toList = "PL".toList := by
    decide
  obtain ⟨city, parsed⟩ := kept.storable
  rw [asCountry] at parsed
  exact CountryCode.not_storable ⟨"PL".toList, by decide⟩ ⟨city, parsed⟩

end CrowdRelay
