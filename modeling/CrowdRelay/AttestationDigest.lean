import CrowdRelay.Attestation

namespace CrowdRelay

open MachineInt TextScan

/-!
# What the digest of an attestation binds

Within one line the fields can be told apart whatever a scope contains: a
metric holds no bar, and the fields behind the scope are read from the end.
Lines can be told apart only while no text holds a line feed.  An act name
that ends in the line of the first figure takes that figure out of the list
and leaves the canonical form as it was.
-/

section Separators

variable {separator : Char} {before before' after after' : Text}

theorem split_first (clear : separator ∉ before) (clear' : separator ∉ before')
    (same : before ++ separator :: after = before' ++ separator :: after') :
    before = before' ∧ after = after' := by
  induction before generalizing before' with
  | nil =>
    cases before' with
    | nil => exact ⟨rfl, (List.cons.inj same).2⟩
    | cons character rest =>
      exact absurd (List.mem_cons.mpr (Or.inl (List.cons.inj same).1)) clear'
  | cons character rest inductionHypothesis =>
    cases before' with
    | nil =>
      exact absurd (List.mem_cons.mpr (Or.inl (List.cons.inj same).1.symm)) clear
    | cons character' rest' =>
      obtain ⟨sameFirst, sameRest⟩ := List.cons.inj same
      obtain ⟨sameBefore, sameAfter⟩ := inductionHypothesis
          (fun member => clear (List.mem_cons_of_mem _ member))
          (fun member => clear' (List.mem_cons_of_mem _ member))
          sameRest
      exact ⟨by rw [sameFirst, sameBefore], sameAfter⟩

theorem split_last (clear : separator ∉ after) (clear' : separator ∉ after')
    (same : before ++ separator :: after = before' ++ separator :: after') :
    before = before' ∧ after = after' := by
  have flipped := congrArg List.reverse same
  simp only [List.reverse_append, List.reverse_cons, List.append_assoc,
    List.singleton_append] at flipped
  obtain ⟨sameAfter, sameBefore⟩ :=
    split_first (by simpa using clear) (by simpa using clear') flipped
  exact ⟨List.reverse_injective sameBefore, List.reverse_injective sameAfter⟩

/-- Lines that end in a separator none of them holds can be told apart. -/
theorem split_lines {lines lines' : List Text} {rest rest' : Text}
    (clear : ∀ line ∈ lines, separator ∉ line)
    (clear' : ∀ line ∈ lines', separator ∉ line) (endsHere : separator ∉ rest)
    (endsHere' : separator ∉ rest')
    (same : lines.flatMap (· ++ [separator]) ++ rest = lines'.flatMap (· ++ [separator]) ++ rest') :
    lines = lines' ∧ rest = rest' := by
  induction lines generalizing lines' with
  | nil =>
    cases lines' with
    | nil => exact ⟨rfl, same⟩
    | cons line' more' =>
      refine absurd ?_ endsHere
      simp only [List.flatMap_nil, List.nil_append] at same
      simp [same]
  | cons line more inductionHypothesis =>
    cases lines' with
    | nil =>
      refine absurd ?_ endsHere'
      simp only [List.flatMap_nil, List.nil_append] at same
      simp [← same]
    | cons line' more' =>
      simp only [List.flatMap_cons, List.append_assoc, List.singleton_append] at same
      obtain ⟨sameLine, sameMore⟩ := split_first (clear line List.mem_cons_self)
          (clear' line' List.mem_cons_self) same
      obtain ⟨sameLines, sameRest⟩ := inductionHypothesis
          (fun other member => clear other (.tail _ member))
          (fun other member => clear' other (.tail _ member))
          sameMore
      exact ⟨by rw [sameLine, sameLines], sameRest⟩

end Separators

variable {character : Char}

theorem mem_decimal {number : Int} (member : character ∈ decimal number) :
    character = '-' ∨ character.isDigit = true := by
  have digits : character ∈ Nat.toDigits 10 number.natAbs → character.isDigit = true :=
    Nat.isDigit_of_mem_toDigits (by decide) (by decide)
  unfold decimal at member
  split at member
  · exact (List.mem_cons.mp member).imp_right digits
  · exact Or.inr (digits member)

theorem not_mem_decimal (number : Int) (notSign : character ≠ '-')
    (notDigit : character.isDigit = false) :
    character ∉ decimal number := by
  intro member
  rcases mem_decimal member with sign | digit
  · exact notSign sign
  · rw [notDigit] at digit
    cases digit

theorem flatMap_hexByte_injective : Function.Injective (List.flatMap hexByte) := by
  have digit :
      ∀ first, first < 16 → ∀ second, second < 16 →
        Nat.digitChar first = Nat.digitChar second → first = second := by
    decide
  intro bytes others same
  induction bytes generalizing others with
  | nil =>
    cases others with
    | nil => rfl
    | cons byte rest => cases same
  | cons byte rest inductionHypothesis =>
    cases others with
    | nil => cases same
    | cons other more =>
      simp only [List.flatMap_cons, hexByte, List.cons_append,
        List.nil_append, List.cons.injEq] at same
      obtain ⟨high, low, sameRest⟩ := same
      have byteLt := byte.toNat_lt
      have otherLt := other.toNat_lt
      have highs := digit _ (by omega) _ (by omega) high
      have lows := digit _ (by omega) _ (by omega) low
      have sameByte : byte = other := UInt8.toNat_inj.mp (by omega)
      rw [sameByte, inductionHypothesis sameRest]

/--
What is relied on of lower-casing: characters that are in lower case stay so
beside others, plain characters are, and a line feed is a character of its own
that no other turns into.
-/
structure LowercaseLaws (tables : TextTables) : Prop where
  empty : tables.toLowercase [] = []
  settled : ∀ text,
    tables.toLowercase (tables.toLowercase text) = tables.toLowercase text
  append : ∀ first second,
    tables.toLowercase first = first →
    tables.toLowercase second = second →
    tables.toLowercase (first ++ second) = first ++ second
  plain : ∀ character : Char,
    character.toNat < 128 → character.isUpper = false →
    tables.toLowercase [character] = [character]
  lines : ∀ first second,
    tables.toLowercase (first ++ '\n' :: second) =
      tables.toLowercase first ++ '\n' :: tables.toLowercase second
  keepsClear : ∀ text, '\n' ∉ text → '\n' ∉ tables.toLowercase text

variable {tables : TextTables}

/-- The same scope, up to letter case and the blanks around a name. -/
def SameScope (tables : TextTables) : FigureScope → FigureScope → Prop
  | .everywhere, .everywhere => True
  | .city name, .city other =>
    tables.toLowercase (trim name) = tables.toLowercase (trim other)
  | .event slug, .event other =>
    tables.toLowercase (trim slug) = tables.toLowercase (trim other)
  | _, _ => False

structure SameFigure
    (tables : TextTables)
    (figure other : AttestedFigure) : Prop where
  metric : figure.metric = other.metric
  scope : SameScope tables figure.scope other.scope
  value : figure.value = other.value
  windowDays : figure.windowDays = other.windowDays
  observedAt :
    figure.observedAt.unixTimestamp = other.observedAt.unixTimestamp

/-- Two documents that say the same, up to case and blanks. -/
structure SameContent
    (tables : TextTables)
    (attestation other : Attestation) : Prop where
  actName :
    tables.toLowercase (trim attestation.actName) =
      tables.toLowercase (trim other.actName)
  figures :
    List.Forall₂ (SameFigure tables) attestation.figures other.figures
  issuedAt :
    attestation.issuedAt.unixTimestamp = other.issuedAt.unixTimestamp
  validUntil :
    attestation.validUntil.unixTimestamp = other.validUntil.unixTimestamp

def FigureScope.named : FigureScope → Text
  | .everywhere => []
  | .city name => name
  | .event slug => slug

structure LineFeedFree (attestation : Attestation) : Prop where
  actName : '\n' ∉ attestation.actName
  scopes : ∀ figure ∈ attestation.figures, '\n' ∉ figure.scope.named

theorem sameScope_of_key_eq {scope other : FigureScope}
    (same : scope.key tables = other.key tables) :
    SameScope tables scope other := by
  cases scope <;> cases other <;>
    simp [FigureScope.key, tagged, SameScope] at same ⊢ <;> exact same

theorem asStr_injective {metric other : AttestedMetric}
    (same : metric.asStr.toList = other.asStr.toList) :
    metric = other := by
  cases metric <;> cases other <;> simp [AttestedMetric.asStr] at same ⊢

theorem valueKey_injective {value other : PublishedValue} (same : value.key = other.key) :
    value = other := by
  cases value <;> cases other <;>
    simp [PublishedValue.key, tagged] at same ⊢ <;>
    exact Ranged.val_injective (decimal_injective same)

theorem not_mem_asStr (other : character = '|' ∨ character = '\n') (metric : AttestedMetric) :
    character ∉ metric.asStr.toList := by
  rcases other with rfl | rfl <;> cases metric <;>
    simp [AttestedMetric.asStr]

theorem not_mem_valueKey (other : character = '|' ∨ character = '\n') (value : PublishedValue) :
    character ∉ value.key := by
  have noNumber : ∀ number, character ∉ decimal number := by
    intro number
    rcases other with rfl | rfl <;>
      exact not_mem_decimal number (by decide) (by decide)
  rcases other with rfl | rfl <;> cases value <;>
    simp [PublishedValue.key, tagged, noNumber]

theorem sameFigure_of_digestLine_eq {figure other : AttestedFigure}
    (same : figure.digestLine tables = other.digestLine tables) :
    SameFigure tables figure other := by
  have noBar : ∀ number, '|' ∉ decimal number :=
    fun number => not_mem_decimal number (by decide) (by decide)
  unfold AttestedFigure.digestLine at same
  obtain ⟨metric, behind⟩ := split_first (not_mem_asStr (Or.inl rfl) _)
      (not_mem_asStr (Or.inl rfl) _) same
  -- The scope may hold bars, so the rest is read from the end.
  have regrouped :
      ∀ one : AttestedFigure,
        one.scope.key tables ++ '|' ::
            (one.value.key ++ '|' :: (decimal one.windowDays.val ++ '|' ::
              decimal one.observedAt.unixTimestamp)) =
          ((one.scope.key tables ++ '|' :: one.value.key) ++ '|' ::
            decimal one.windowDays.val) ++ '|' :: decimal one.observedAt.unixTimestamp := by
    intro one
    simp only [List.append_assoc, List.cons_append]
  rw [regrouped, regrouped] at behind
  obtain ⟨behind, observed⟩ := split_last (noBar _) (noBar _) behind
  obtain ⟨behind, window⟩ := split_last (noBar _) (noBar _) behind
  obtain ⟨scope, value⟩ := split_last (not_mem_valueKey (Or.inl rfl) _)
      (not_mem_valueKey (Or.inl rfl) _) behind
  exact
    { metric := asStr_injective metric
      scope := sameScope_of_key_eq scope
      value := valueKey_injective value
      windowDays := Ranged.val_injective (decimal_injective window)
      observedAt := decimal_injective observed }

theorem forall₂_sameFigure {figures others : List AttestedFigure}
    (same :
      figures.map (AttestedFigure.digestLine tables) =
        others.map (AttestedFigure.digestLine tables)) :
    List.Forall₂ (SameFigure tables) figures others := by
  induction figures generalizing others with
  | nil =>
    rw [List.map_nil, eq_comm, List.map_eq_nil_iff] at same
    rw [same]
    exact .nil
  | cons figure rest inductionHypothesis =>
    cases others with
    | nil => cases same
    | cons other more =>
      obtain ⟨sameLine, sameRest⟩ := List.cons.inj same
      exact .cons (sameFigure_of_digestLine_eq sameLine) (inductionHypothesis sameRest)

theorem not_mem_trim {text : Text} (clear : character ∉ text) : character ∉ trim text := by
  intro member
  have kept := (List.rdropWhile_prefix _ _).subset member
  exact clear ((List.dropWhile_suffix _).subset kept)

theorem not_mem_digestLine (laws : LowercaseLaws tables) {figure : AttestedFigure}
    (clear : '\n' ∉ figure.scope.named) :
    '\n' ∉ figure.digestLine tables := by
  have noNumber : ∀ number, '\n' ∉ decimal number :=
    fun number => not_mem_decimal number (by decide) (by decide)
  have noKey : '\n' ∉ figure.scope.key tables := by
    cases scope : figure.scope with
    | everywhere => simp [FigureScope.key, tagged]
    | city name =>
      rw [scope, FigureScope.named] at clear
      have lowered := laws.keepsClear _ (not_mem_trim clear)
      simpa [FigureScope.key, tagged] using lowered
    | event slug =>
      rw [scope, FigureScope.named] at clear
      have lowered := laws.keepsClear _ (not_mem_trim clear)
      simpa [FigureScope.key, tagged] using lowered
  have barIsNot : '\n' ≠ '|' := by decide
  simp only [AttestedFigure.digestLine, List.mem_append, List.mem_cons, not_or]
  exact ⟨not_mem_asStr (Or.inr rfl) _, barIsNot, noKey, barIsNot,
      not_mem_valueKey (Or.inr rfl) _, barIsNot, noNumber _, barIsNot,
      noNumber _⟩

def canonicalLines (tables : TextTables)
    (attestation : Attestation) : List Text :=
  tables.toLowercase (trim attestation.actName) ::
    attestation.figures.map (AttestedFigure.digestLine tables) ++
      [decimal attestation.issuedAt.unixTimestamp]

theorem text_eq_lines (attestation : Attestation) :
    attestation.text tables = tagged "crowdrelay.attestation.v1\n"
        ((canonicalLines tables attestation).flatMap (· ++ ['\n']) ++
          decimal attestation.validUntil.unixTimestamp) := by
  simp only [Attestation.text, canonicalText, canonicalLines,
    List.flatMap_cons, List.flatMap_append, List.flatMap_map,
    List.flatMap_nil, List.append_nil, List.append_assoc,
    List.cons_append, List.nil_append]

theorem not_mem_canonicalLines (laws : LowercaseLaws tables) {attestation : Attestation}
    (clear : LineFeedFree attestation) :
    ∀ line ∈ canonicalLines tables attestation, '\n' ∉ line := by
  intro line member
  simp only [canonicalLines, List.cons_append, List.mem_cons,
    List.mem_append, List.mem_map, List.not_mem_nil, or_false] at member
  rcases member with rfl | ⟨figure, isFigure, rfl⟩ | rfl
  · exact laws.keepsClear _ (not_mem_trim clear.actName)
  · exact not_mem_digestLine laws (clear.scopes figure isFigure)
  · exact not_mem_decimal _ (by decide) (by decide)

theorem sameContent_of_text_eq (laws : LowercaseLaws tables)
    {attestation other : Attestation} (clear : LineFeedFree attestation)
    (otherClear : LineFeedFree other) (same : attestation.text tables = other.text tables) :
    SameContent tables attestation other := by
  have noNumber : ∀ number, '\n' ∉ decimal number :=
    fun number => not_mem_decimal number (by decide) (by decide)
  rw [text_eq_lines, text_eq_lines, tagged, tagged] at same
  obtain ⟨sameLines, validUntil⟩ := split_lines (not_mem_canonicalLines laws clear)
      (not_mem_canonicalLines laws otherClear) (noNumber _) (noNumber _)
      (List.append_cancel_left same)
  simp only [canonicalLines, List.cons_append, List.cons.injEq] at sameLines
  obtain ⟨actName, behind⟩ := sameLines
  obtain ⟨figures, issuedAt⟩ := List.append_inj' behind rfl
  refine
    { actName := actName
      figures := ?_
      issuedAt := decimal_injective (List.cons.inj issuedAt).1
      validUntil := decimal_injective validUntil }
  exact forall₂_sameFigure figures

end CrowdRelay
