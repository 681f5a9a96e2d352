import CrowdRelay.AttestationDigest
import CrowdRelay.PublishedLinks

namespace CrowdRelay

open MachineInt TextScan

/-!
# The forged attestation

Every attestation that is issued has a second document with its digest: the
act name ends in the line of the first figure, and the figure is gone.
-/

variable {text : Text}

theorem dropWhile_trim_append (visible : trim text ≠ []) (more : Text) :
    (trim text ++ more).dropWhile isWhitespace = trim text ++ more := by
  have kept := List.rdropWhile_prefix isWhitespace (text.dropWhile isWhitespace)
  have starts : text.dropWhile isWhitespace ≠ [] := by
    intro blank
    apply visible
    rw [trim, blank]
    rfl
  have firstOf : (trim text).head visible = (text.dropWhile isWhitespace).head starts :=
    kept.head visible
  have notBlank := List.head_dropWhile_not isWhitespace starts
  cases shape : trim text with
  | nil => exact absurd shape visible
  | cons first rest =>
    simp only [shape, List.head_cons] at firstOf
    rw [← firstOf] at notBlank
    rw [List.cons_append, List.dropWhile_cons_of_neg (by simp [notBlank])]

theorem trim_trim (text : Text) : trim (trim text) = trim text := by
  by_cases blank : trim text = []
  · rw [blank]
    rfl
  · have starts := dropWhile_trim_append blank []
    rw [List.append_nil] at starts
    rw [trim, starts, trim, List.rdropWhile_idempotent]

theorem trim_append_of_visible {text more : Text} {last : Char} (visible : trim text ≠ [])
    (ends : isWhitespace last = false) :
    trim (trim text ++ (more ++ [last])) = trim text ++ (more ++ [last]) := by
  rw [trim, dropWhile_trim_append visible, List.rdropWhile_eq_self_iff]
  intro nonempty
  simp [ends]

variable {tables : TextTables}

/-- A plain character: ASCII, and no capital. -/
def isPlain (character : Char) : Bool := decide (character.toNat < 128) && !character.isUpper

theorem lower_of_plain (laws : LowercaseLaws tables) (plain : text.all isPlain = true) :
    tables.toLowercase text = text := by
  induction text with
  | nil => exact laws.empty
  | cons character rest inductionHypothesis =>
    simp only [List.all_cons, Bool.and_eq_true] at plain
    obtain ⟨here, later⟩ := plain
    simp only [isPlain, Bool.and_eq_true, decide_eq_true_eq, Bool.not_eq_true'] at here
    exact laws.append [character] rest (laws.plain character here.1 here.2)
        (inductionHypothesis later)

theorem digit_table :
    ∀ offset < 10,
      isPlain (Char.ofNat (48 + offset)) = true ∧
        isWhitespace (Char.ofNat (48 + offset)) = false := by
  decide

theorem plain_of_isDigit {character : Char} (digit : character.isDigit = true) :
    isPlain character = true ∧ isWhitespace character = false := by
  simp only [Char.isDigit, Bool.and_eq_true, decide_eq_true_eq] at digit
  have lower : 48 ≤ character.toNat := UInt32.le_iff_toNat_le.mp digit.1
  have upper : character.toNat ≤ 57 := UInt32.le_iff_toNat_le.mp digit.2
  have entry := digit_table (character.toNat - 48) (by omega)
  rwa [Nat.add_sub_cancel' lower, Char.ofNat_toNat] at entry

theorem plain_decimal (number : Int) : (decimal number).all isPlain = true := by
  rw [List.all_eq_true]
  intro character member
  rcases mem_decimal member with rfl | digit
  · decide
  · exact (plain_of_isDigit digit).1

theorem lower_digestLine (laws : LowercaseLaws tables) (figure : AttestedFigure) :
    tables.toLowercase (figure.digestLine tables) = figure.digestLine tables := by
  have bar :
      ∀ rest, tables.toLowercase rest = rest → tables.toLowercase ('|' :: rest) = '|' :: rest :=
    fun rest settled =>
      laws.append ['|'] rest (lower_of_plain laws (by decide)) settled
  have number := fun value => lower_of_plain laws (plain_decimal value)
  have tag :
      ∀ (name : String) (rest : Text), name.toList.all isPlain = true →
        tables.toLowercase rest = rest →
        tables.toLowercase (tagged name rest) = tagged name rest :=
    fun _ rest plain settled =>
      laws.append _ rest (lower_of_plain laws plain) settled
  have metric : tables.toLowercase figure.metric.asStr.toList = figure.metric.asStr.toList := by
    apply lower_of_plain laws
    cases figure.metric <;> decide +kernel
  have scope : tables.toLowercase (figure.scope.key tables) = figure.scope.key tables := by
    cases figure.scope with
    | everywhere => exact tag _ _ (by decide +kernel) laws.empty
    | city name => exact tag _ _ (by decide +kernel) (laws.settled _)
    | event slug => exact tag _ _ (by decide +kernel) (laws.settled _)
  have value : tables.toLowercase figure.value.key = figure.value.key := by
    cases figure.value with
    | exact value => exact tag _ _ (by decide +kernel) (number _)
    | fewerThan bound => exact tag _ _ (by decide +kernel) (number _)
  exact laws.append _ _ metric
      (bar _ (laws.append _ _ scope
        (bar _ (laws.append _ _ value (bar _ (laws.append _ _ (number _) (bar _ (number _))))))))

/-- The same text with the first figure told by the act name. -/
def Attestation.forged (tables : TextTables)
    (attestation : Attestation) : Attestation :=
  match attestation.figures with
  | [] => attestation
  | figure :: rest =>
    { attestation with
      actName := attestation.actName ++ '\n' :: figure.digestLine tables
      figures := rest }

theorem exists_decimal_concat (number : Int) :
    ∃ front last, decimal number = front ++ [last] ∧ isWhitespace last = false := by
  have some : decimal number ≠ [] := by
    unfold decimal
    split
    · exact List.cons_ne_nil _ _
    · exact Nat.toDigits_ne_nil
  refine ⟨_, _, (List.dropLast_append_getLast some).symm, ?_⟩
  rcases mem_decimal (List.getLast_mem some) with sign | digit
  · rw [sign]
    decide
  · exact (plain_of_isDigit digit).2

theorem text_forged (laws : LowercaseLaws tables) {attestation : Attestation}
    {name : Text} (trimmed : attestation.actName = trim name) (named : trim name ≠ []) :
    (attestation.forged tables).text tables = attestation.text tables := by
  unfold Attestation.forged
  cases figures : attestation.figures with
  | nil => rfl
  | cons figure rest =>
    obtain ⟨front, last, isDecimal, ends⟩ := exists_decimal_concat figure.observedAt.unixTimestamp
    obtain ⟨body, line⟩ : ∃ body, '\n' :: figure.digestLine tables = body ++ [last] := by
      refine ⟨'\n' :: (figure.metric.asStr.toList ++ '|' ::
        (figure.scope.key tables ++ '|' :: (figure.value.key ++ '|' ::
          (decimal figure.windowDays.val ++ '|' :: front)))), ?_⟩
      simp only [AttestedFigure.digestLine, isDecimal, List.cons_append, List.append_assoc]
    have kept :
        trim (trim name ++ '\n' :: figure.digestLine tables) =
          trim name ++ '\n' :: figure.digestLine tables := by
      rw [line]
      exact trim_append_of_visible named ends
    simp only [Attestation.text, canonicalText, figures, trimmed, kept,
      trim_trim, laws.lines, lower_digestLine laws, List.flatMap_cons,
      List.append_assoc, List.cons_append, List.nil_append]

theorem not_sameContent_forged {attestation : Attestation} (measured : attestation.figures ≠ []) :
    ¬ SameContent tables attestation (attestation.forged tables) := by
  intro same
  have lengths := same.figures.length_eq
  unfold Attestation.forged at lengths
  cases figures : attestation.figures with
  | nil => exact measured figures
  | cons figure rest => simp [figures] at lengths

/--
Whatever the digest, every issued attestation has a document of other content
with the same one; between documents without line feeds in their texts, a
digest that does not collide on them tells all of their content.
-/
theorem attestation_digest_binding (laws : LowercaseLaws tables) :
    (∀ actName measured now attestation,
      issue tables actName measured now = .ok attestation →
      ¬ ∀ other : Attestation,
        attestation.recomputeDigest tables = other.recomputeDigest tables →
          SameContent tables attestation other) ∧
    (∀ attestation other : Attestation,
      LineFeedFree attestation → LineFeedFree other →
      (tables.sha256 (attestation.text tables) =
          tables.sha256 (other.text tables) →
        attestation.text tables = other.text tables) →
      attestation.recomputeDigest tables = other.recomputeDigest tables →
        SameContent tables attestation other) := by
  constructor
  · intro actName measured now attestation issued bound
    obtain ⟨named, nonempty, _, _, rfl⟩ := issue_eq_ok_iff.mp issued
    have someFigure : (attestationOf tables actName measured now).figures ≠ [] := by
      intro none
      have kept := (StableRanking.descending_perm
          (fun figure : AttestedFigure =>
            OrderDual.toDual (figure.sortKey tables))
          (measured.map .fromMeasured)).length_eq
      have empty : (publishedFigures tables measured).length = 0 := by
        rw [show publishedFigures tables measured = [] from none]
        rfl
      rw [publishedFigures, kept, List.length_map, List.length_eq_zero_iff] at empty
      exact nonempty empty
    have same := @text_forged tables laws (attestationOf tables actName measured now)
        actName rfl named
    refine not_sameContent_forged someFigure (bound _ ?_)
    exact congrArg (fun text => (tables.sha256 text).flatMap hexByte) same.symm
  · intro attestation other clear otherClear noCollision same
    exact sameContent_of_text_eq laws clear otherClear
        (noCollision (flatMap_hexByte_injective same))

theorem capital_table :
    ∀ offset < 26,
      (Char.ofNat (65 + offset)).isUpper = true ∧
        (Char.ofNat (65 + offset)).toLower.toLower = (Char.ofNat (65 + offset)).toLower ∧
        (Char.ofNat (65 + offset)).toLower ≠ '\n' := by
  decide

theorem toLower_cases (character : Char) :
    character.toLower = character ∨
      character.isUpper = true ∧
        character.toLower.toLower = character.toLower ∧
        character.toLower ≠ '\n' := by
  by_cases isCapital : character.val ≥ 'A'.val ∧ character.val ≤ 'Z'.val
  · have lower : 65 ≤ character.toNat := UInt32.le_iff_toNat_le.mp isCapital.1
    have upper : character.toNat ≤ 90 := UInt32.le_iff_toNat_le.mp isCapital.2
    have entry := capital_table (character.toNat - 65) (by omega)
    rw [Nat.add_sub_cancel' lower, Char.ofNat_toNat] at entry
    exact .inr entry
  · left
    unfold Char.toLower
    rw [dif_neg isCapital]

theorem asciiTables_lowercaseLaws (digest : List UInt8) :
    LowercaseLaws (asciiTables digest) where
  empty := rfl
  settled text := by
    simp only [asciiTables, List.map_map, List.map_inj_left, Function.comp_apply]
    intro character _
    rcases toLower_cases character with same | ⟨_, twice, _⟩
    · rw [same, same]
    · exact twice
  append first second settled settled' := by
    simp only [asciiTables, List.map_append] at *
    rw [settled, settled']
  plain character _ notUpper := by
    rcases toLower_cases character with same | ⟨upper, _⟩
    · simp only [asciiTables, List.map_cons, List.map_nil, same]
    · rw [notUpper] at upper
      cases upper
  lines first second := by
    simp only [asciiTables, List.map_append, List.map_cons]
    rfl
  keepsClear text clear member := by
    obtain ⟨character, isThere, lowered⟩ := List.mem_map.mp member
    rcases toLower_cases character with same | ⟨_, _, differs⟩
    · rw [same] at lowered
      exact clear (lowered ▸ isThere)
    · exact differs lowered

/-- One hundred and twenty tickets sold in the last ninety days. -/
def ticketsMeasured : MeasuredFigure where
  metric := .ticketsSold
  scope := .everywhere
  value := 120
  windowDays := 90
  observedAt := 1789000000 * 1000000000

theorem attestation_digest_binding_witness :
    ¬ ∀ other : Attestation,
      (attestationOf (asciiTables []) "Virya".toList [ticketsMeasured]
        (1789000000 * 1000000000)).recomputeDigest (asciiTables []) =
        other.recomputeDigest (asciiTables []) →
      SameContent (asciiTables [])
        (attestationOf (asciiTables []) "Virya".toList [ticketsMeasured]
          (1789000000 * 1000000000)) other :=
  (attestation_digest_binding (asciiTables_lowercaseLaws [])).1
    "Virya".toList [ticketsMeasured] (1789000000 * 1000000000) _
    (by decide +kernel)

/-- The tickets can be moved into the name of the act unnoticed. -/
theorem tickets_move_into_name :
    let issued := attestationOf (asciiTables []) "Virya".toList [ticketsMeasured]
        (1789000000 * 1000000000)
    let edited : Attestation :=
      { issued with
        actName := "Virya\ntickets_sold|everywhere|exact:120|90|1789000000".toList
        figures := [] }
    edited.text (asciiTables []) = issued.text (asciiTables []) ∧
      edited.figures.length = 0 ∧ issued.figures.length = 1 := by
  decide +kernel

end CrowdRelay
