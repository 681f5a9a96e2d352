import CrowdRelay.DigitGroups
import CrowdRelay.FixedWidth
import CrowdRelay.OfferTerms

namespace CrowdRelay

open DigitGroups MachineInt Ranged TextScan

/-!
# How an amount is written

An amount in the minor unit, with its marker: the units ungrouped or in groups
of three, the hundredths behind the decimal sign of the currency, and the marker
on one side of the figure.
-/

def CurrencyMarkers.decimalSeparator (entry : CurrencyMarkers) : Char :=
  if entry.commaDecimal then ',' else '.'

def CurrencyMarkers.thousandsSeparator (entry : CurrencyMarkers) : Char :=
  if entry.commaDecimal then '.' else ','

/-- What may stand between the groups of the units. -/
def CurrencyMarkers.groupSeparators (entry : CurrencyMarkers) : List Char :=
  [entry.thousandsSeparator, '\'', ' ', '\u00a0', '\u202f']

/-- One way to write one amount. -/
structure Rendering where
  entry : CurrencyMarkers
  marker : Text
  amount : I64
  -- Nothing stands here when the units are not grouped.
  grouping : Option Char
  markerFirst : Bool
  spaced : Bool
  deriving Repr, DecidableEq

namespace Rendering

variable (rendering : Rendering)

def minor : Nat := rendering.amount.val.toNat

def units : Text := Nat.toDigits 10 (rendering.minor / 100)

def groups : List Text :=
  match rendering.grouping with
  | none => [rendering.units]
  | some _ => groupsOf rendering.units

def integerPart : Text :=
  match rendering.grouping with
  | none => rendering.units
  | some separator => [separator].intercalate (groupsOf rendering.units)

def fractionPart : Text :=
  if rendering.minor % 100 = 0 then
    []
  else
    rendering.entry.decimalSeparator :: FixedWidth.text 10 2 (rendering.minor % 100)

def figure : Text := rendering.integerPart ++ rendering.fractionPart

def gap : Text := if rendering.spaced then [' '] else []

def text : Text :=
  if rendering.markerFirst then
    rendering.marker ++ rendering.gap ++ rendering.figure
  else
    rendering.figure ++ rendering.gap ++ rendering.marker

/-- Where the figure stands in the text. -/
def span : Span :=
  if rendering.markerFirst then
    (rendering.marker.length + rendering.gap.length,
      rendering.marker.length + rendering.gap.length + rendering.figure.length)
  else
    (0, rendering.figure.length)

/-- A positive amount, with a marker of its currency, grouped as is usual. -/
structure Conventional : Prop where
  isEntry : rendering.entry ∈ currencyMarkers
  isMarker : rendering.marker ∈ rendering.entry.markers
  isPositive : 0 < rendering.amount.val
  isGrouping :
    ∀ separator ∈ rendering.grouping,
      separator ∈ rendering.entry.groupSeparators

end Rendering

section Digits

variable {text : Text} {number : Nat} {character : Char}

theorem digitsValue_toDigits (number : Nat) : digitsValue (Nat.toDigits 10 number) = number := by
  have read := Nat.ofDigitChars_ten_toDigits (n := number)
  rw [Nat.ofDigitChars_eq_foldl] at read
  exact read

theorem isDigit_of_mem_units (isCharacter : character ∈ Nat.toDigits 10 number) :
    character.isDigit = true :=
  Nat.isDigit_of_mem_toDigits (by decide) (by decide) isCharacter

theorem hundredths_table :
    ∀ cents < 100,
      (FixedWidth.text 10 2 cents).length = 2 ∧
        (FixedWidth.text 10 2 cents).all Char.isDigit = true ∧
          digitsValue (FixedWidth.text 10 2 cents) = cents := by
  decide +kernel

theorem not_isDigit_of_separates {entry : CurrencyMarkers}
    (separates : character ∈ entry.groupSeparators) :
    character.isDigit = false := by
  have table :
      ([',', '.', '\'', ' ', '\u00a0', '\u202f'].all fun sign =>
        !sign.isDigit) = true := by
    decide +kernel
  suffices isSign : character ∈ [',', '.', '\'', ' ', '\u00a0', '\u202f'] from
    Bool.eq_false_of_not_eq_true' (List.all_eq_true.mp table character isSign)
  rw [CurrencyMarkers.groupSeparators, CurrencyMarkers.thousandsSeparator] at separates
  cases comma : entry.commaDecimal
  · rw [comma] at separates
    rcases List.mem_cons.mp separates with rfl | isOther
    · exact List.mem_cons_self
    · exact List.mem_cons_of_mem _ (List.mem_cons_of_mem _ isOther)
  · rw [comma] at separates
    exact List.mem_cons_of_mem _ separates

end Digits

section Signs

variable {text tail : Text} {sign character : Char} {passes : Char → Bool} {separator : Char}

theorem rtakeWhile_append_cons (stops : passes sign = false)
    (passing : ∀ character ∈ tail, passes character = true) :
    (text ++ sign :: tail).rtakeWhile passes = tail := by
  rw [List.rtakeWhile, List.reverse_append, List.reverse_cons,
    List.append_assoc, List.takeWhile_append_of_pos]
  · simp [stops]
  · simpa using passing

theorem rdropWhile_append_cons (stops : passes sign = false)
    (passing : ∀ character ∈ tail, passes character = true) :
    (text ++ sign :: tail).rdropWhile passes = text ++ [sign] := by
  rw [List.rdropWhile, List.reverse_append, List.reverse_cons,
    List.append_assoc, List.dropWhile_append_of_pos]
  · simp [stops]
  · simpa using passing

theorem splitFraction_twoDigits (isSign : separator.isDigit = false) {cents : Nat}
    (isFraction : cents < 100) :
    splitFraction separator (text ++ separator :: FixedWidth.text 10 2 cents) = (text, cents) := by
  obtain ⟨length, digits, value⟩ := hundredths_table cents isFraction
  have passing : ∀ character ∈ FixedWidth.text 10 2 cents, (character != separator) = true := by
    intro character isCharacter
    rw [bne_iff_ne]
    rintro rfl
    rw [List.all_eq_true.mp digits _ isCharacter] at isSign
    cases isSign
  have stops : (separator != separator) = false := bne_self_eq_false _
  have fraction :
      (text ++ separator :: FixedWidth.text 10 2 cents).rtakeWhile (· != separator) =
        FixedWidth.text 10 2 cents :=
    rtakeWhile_append_cons stops passing
  have whole :
      (text ++ separator :: FixedWidth.text 10 2 cents).rdropWhile (· != separator) =
        text ++ [separator] :=
    rdropWhile_append_cons stops passing
  have nonempty : FixedWidth.text 10 2 cents ≠ [] := by
    intro empty
    rw [empty] at length
    cases length
  rw [splitFraction]
  simp only [fraction]
  rw [if_pos ⟨by simp, nonempty, length.le, digits⟩, whole, List.dropLast_concat, length, value]
  rfl

theorem splitFraction_whole (isWhole : separator ∉ text) :
    splitFraction separator text = (text, 0) := by
  rw [splitFraction]
  exact if_neg fun conditions => isWhole conditions.1

theorem joinGroups_cons {head : Text} {groups : List Text} (hasHead : head ≠ [])
    (short : head.length ≤ 3) (digits : head.all Char.isDigit = true)
    (whole : ∀ group ∈ groups, group.length = 3 ∧ group.all Char.isDigit = true) :
    joinGroups (head :: groups) = some (head ++ groups.flatten) := by
  have allWhole :
      (groups.all fun group =>
        decide (group.length = 3) && group.all Char.isDigit) = true := by
    apply List.all_eq_true.mpr
    intro group isGroup
    obtain ⟨length, groupDigits⟩ := whole group isGroup
    rw [decide_eq_true length, groupDigits]
    rfl
  rw [joinGroups, if_neg, if_pos allWhole]
  simp [hasHead, digits, not_lt.mpr short]

/-- A figure whose parts are read is read as their sum. -/
theorem parseAmount_eq_some {entry : CurrencyMarkers} {raw whole digits : Text}
    {fraction : Nat} {amount : I64}
    (split : splitFraction entry.decimalSeparator raw = (whole, fraction))
    (plain : entry.decimalSeparator ∉ whole)
    (joined :
      joinGroups (whole.splitOnP fun character =>
        decide (character ∈ entry.groupSeparators)) = some digits)
    (total : (digitsValue digits : Int) * 100 + fraction = amount.val)
    (positive : 0 < amount.val) :
    parseAmount raw entry.commaDecimal = some amount := by
  have upper := amount.upper
  have unitsRead :
      tryFrom (digitsValue digits : Int) = some (⟨digitsValue digits, by omega, by omega⟩ : I64) :=
    tryFrom_eq_some_iff.mpr rfl
  have hundredfoldRead :
      tryFrom ((digitsValue digits : Int) * 100) =
        some (⟨digitsValue digits * 100, by omega, by omega⟩ : I64) :=
    tryFrom_eq_some_iff.mpr rfl
  have fractionRead : tryFrom (fraction : Int) = some (⟨fraction, by omega, by omega⟩ : I64) :=
    tryFrom_eq_some_iff.mpr rfl
  have amountRead : tryFrom ((digitsValue digits : Int) * 100 + fraction) = some amount :=
    tryFrom_eq_some_iff.mpr total.symm
  have hundred : (100 : I64).val = 100 := rfl
  rw [CurrencyMarkers.decimalSeparator] at split plain
  rw [CurrencyMarkers.groupSeparators, CurrencyMarkers.thousandsSeparator] at joined
  simp only [parseAmount, split, plain, if_false, joined, unitsRead,
    checkedMul, checkedAdd, hundred, hundredfoldRead, fractionRead, amountRead,
    Option.bind_eq_bind, Option.bind_some, positive, if_true]

end Signs

namespace Rendering

variable {rendering : Rendering}

theorem separators_differ (entry : CurrencyMarkers) :
    entry.decimalSeparator ∉ entry.groupSeparators := by
  rw [CurrencyMarkers.decimalSeparator, CurrencyMarkers.groupSeparators,
    CurrencyMarkers.thousandsSeparator]
  cases entry.commaDecimal <;> decide

variable {character : Char}

theorem mem_integerPart (isPart : character ∈ rendering.integerPart) :
    character.isDigit = true ∨ character ∈ rendering.grouping := by
  rw [integerPart] at isPart
  cases grouping : rendering.grouping with
  | none =>
    rw [grouping] at isPart
    exact Or.inl (isDigit_of_mem_units isPart)
  | some separator =>
    rw [grouping] at isPart
    rcases mem_intercalate isPart with rfl | ⟨group, isGroup, inGroup⟩
    · exact Or.inr rfl
    · exact Or.inl (isDigit_of_mem_units (mem_of_mem_groupsOf isGroup inGroup))

theorem not_isDigit_decimalSeparator (entry : CurrencyMarkers) :
    entry.decimalSeparator.isDigit = false := by
  rw [CurrencyMarkers.decimalSeparator]
  cases entry.commaDecimal <;> rfl

theorem decimalSeparator_not_mem (conventional : rendering.Conventional) :
    rendering.entry.decimalSeparator ∉ rendering.integerPart := by
  intro isPart
  rcases mem_integerPart isPart with isDigit | isGrouping
  · rw [not_isDigit_decimalSeparator] at isDigit
    cases isDigit
  · exact separators_differ _ (conventional.isGrouping _ isGrouping)

theorem groups_ne_nil : rendering.groups ≠ [] := by
  rw [groups]
  cases rendering.grouping <;> exact List.cons_ne_nil _ _

theorem isDigit_of_mem_groups {group : Text} (isGroup : group ∈ rendering.groups)
    (isPart : character ∈ group) :
    character.isDigit = true := by
  rw [groups] at isGroup
  cases grouping : rendering.grouping with
  | none =>
    rw [grouping] at isGroup
    rw [List.mem_singleton.mp isGroup] at isPart
    exact isDigit_of_mem_units isPart
  | some separator =>
    rw [grouping] at isGroup
    exact isDigit_of_mem_units (mem_of_mem_groupsOf isGroup isPart)

/-- The units are read as the groups they were written in. -/
theorem splitOnP_integerPart (conventional : rendering.Conventional) :
    (rendering.integerPart.splitOnP fun character =>
        decide (character ∈ rendering.entry.groupSeparators)) =
      rendering.groups := by
  have plain :
      ∀ group ∈ rendering.groups, ∀ character ∈ group,
        decide (character ∈ rendering.entry.groupSeparators) = false := by
    intro group isGroup character isPart
    apply decide_eq_false
    intro separates
    have notDigit := not_isDigit_of_separates separates
    rw [isDigit_of_mem_groups isGroup isPart] at notDigit
    cases notDigit
  cases grouping : rendering.grouping with
  | none =>
    have ungrouped : rendering.groups = [rendering.units] := by
      rw [groups, grouping]
    have written : rendering.integerPart = rendering.units := by
      rw [integerPart, grouping]
    rw [ungrouped] at plain ⊢
    rw [written]
    exact List.splitOnP_eq_singleton (plain _ List.mem_cons_self)
  | some separator =>
    have grouped : rendering.groups = groupsOf rendering.units := by
      rw [groups, grouping]
    have written : rendering.integerPart = [separator].intercalate (groupsOf rendering.units) := by
      rw [integerPart, grouping]
    rw [grouped] at plain ⊢
    rw [written]
    apply splitOnP_intercalate _ (List.cons_ne_nil _ _) plain
    exact decide_eq_true (conventional.isGrouping separator grouping)

theorem joinGroups_groups : joinGroups rendering.groups = some rendering.units := by
  have digits : ∀ group ∈ rendering.groups, group.all Char.isDigit = true :=
    fun group isGroup => List.all_eq_true.mpr
      fun character isPart => isDigit_of_mem_groups isGroup isPart
  have nonempty : rendering.units ≠ [] := Nat.toDigits_ne_nil
  cases grouping : rendering.grouping with
  | none =>
    have ungrouped : rendering.groups = [rendering.units] := by
      rw [groups, grouping]
    rw [ungrouped] at digits ⊢
    have allDigits := digits _ List.mem_cons_self
    simp [joinGroups, nonempty, allDigits]
  | some separator =>
    have grouped : rendering.groups = groupsOf rendering.units := by
      rw [groups, grouping]
    rw [grouped] at digits ⊢
    rw [groupsOf, List.forall_mem_cons] at digits
    have joined := joinGroups_cons (head_ne_nil nonempty) (length_head_le rendering.units) digits.1
        fun group isGroup =>
          ⟨length_of_mem_tail nonempty isGroup, digits.2 group isGroup⟩
    rw [← List.flatten_cons, ← groupsOf, flatten_groupsOf] at joined
    exact joined

theorem minor_units_fit (conventional : rendering.Conventional) :
    ((rendering.minor / 100 : Nat) : Int) * 100 + (rendering.minor % 100 : Nat) =
      rendering.amount.val := by
  have positive := conventional.isPositive
  rw [minor]
  omega

theorem parseAmount_figure (conventional : rendering.Conventional) :
    parseAmount rendering.figure rendering.entry.commaDecimal = some rendering.amount := by
  have split :
      splitFraction rendering.entry.decimalSeparator rendering.figure =
        (rendering.integerPart, rendering.minor % 100) := by
    rw [figure, fractionPart]
    by_cases noFraction : rendering.minor % 100 = 0
    · rw [if_pos noFraction, List.append_nil, noFraction]
      exact splitFraction_whole (decimalSeparator_not_mem conventional)
    · rw [if_neg noFraction]
      exact splitFraction_twoDigits (not_isDigit_decimalSeparator _) (Nat.mod_lt _ (by decide))
  have joined :
      joinGroups (rendering.integerPart.splitOnP fun character =>
          decide (character ∈ rendering.entry.groupSeparators)) =
        some rendering.units := by
    rw [splitOnP_integerPart conventional, joinGroups_groups]
  have total :
      (digitsValue rendering.units : Int) * 100 + (rendering.minor % 100 : Nat) =
        rendering.amount.val := by
    rw [units, digitsValue_toDigits]
    exact minor_units_fit conventional
  exact parseAmount_eq_some split (decimalSeparator_not_mem conventional)
    joined total conventional.isPositive

end Rendering

end CrowdRelay
