import CrowdRelay.ReplyTriage

namespace CrowdRelay

open MachineInt Ranged TextScan

/-!
# The fee a negotiation reply proposes

A figure counts when a currency marker touches it.  The reader proposes one
figure, and nothing where two differ.
-/

/-- The classes of characters a text is cut into words by. -/
structure LetterClasses where
  isAlphabetic : Char → Bool
  isNumeric : Char → Bool

def LetterClasses.isAlphanumeric (classes : LetterClasses)
    (character : Char) : Bool :=
  classes.isAlphabetic character || classes.isNumeric character

/-- The figure in the currency's minor unit. -/
structure ProposedTerms where
  feeMinor : I64
  currency : String
  deriving Repr, DecidableEq

/-- The spellings of a currency, and whether its fractions follow a comma. -/
structure CurrencyMarkers where
  markers : List Text
  currency : String
  commaDecimal : Bool
  deriving Repr, DecidableEq

def currencyMarkers : List CurrencyMarkers :=
  [⟨["euros".toList, "euro".toList, "eur".toList, "€".toList], "EUR", true⟩,
    ⟨["złotych".toList, "złote".toList, "złoty".toList, "pln".toList, "zł".toList], "PLN", true⟩,
    ⟨["dollars".toList, "dollar".toList, "usd".toList, "$".toList], "USD", false⟩,
    ⟨["pounds".toList, "pound".toList, "gbp".toList, "£".toList], "GBP", false⟩]

/-- A stretch of a text, from a place up to another. -/
abbrev Span := Nat × Nat

def Span.read (span : Span) (text : Text) : Text := (text.drop span.1).take (span.2 - span.1)

/-- What may stand within a figure, apart from digits and spaces. -/
def isSeparator (character : Char) : Bool :=
  decide (character ∈ ['.', ',', '\'', '\u00a0', '\u202f'])

/-- How far a number token reaches back, of a text that is reversed. -/
def scanBack (sawDigit : Bool) : Text → Nat
  | [] => 0
  | character :: rest =>
    if character.isDigit then
      scanBack true rest + 1
    else if sawDigit && isSeparator character then
      scanBack sawDigit rest + 1
    else if sawDigit && character = ' ' then
      -- The character looked at before the space is the space itself.
      if character.isDigit then scanBack sawDigit rest + 1 else 0
    else
      0

/-- The number token ending just before a place, skipping whitespace. -/
def numberBefore (text : Text) (place : Nat) : Option Span :=
  let head := (text.take place).rdropWhile isWhitespace
  let scanned := scanBack false head.reverse
  if scanned = 0 then none else some (head.length - scanned, head.length)

/-- How far a number token reaches on. -/
def scanOn (sawDigit : Bool) : Text → Nat
  | [] => 0
  | character :: rest =>
    if character.isDigit then
      scanOn true rest + 1
    else if sawDigit && isSeparator character then
      scanOn sawDigit rest + 1
    else if sawDigit && character = ' ' then
      if rest.head?.any Char.isDigit then scanOn sawDigit rest + 1 else 0
    else
      0

/-- The number token beginning just after a place, skipping whitespace. -/
def numberAfter (text : Text) (place : Nat) : Option Span :=
  let tail := text.drop place
  let start := place + (leading tail).length
  let body := tail.dropWhile isWhitespace
  let scanned := scanOn false body
  if scanned = 0 then
    none
  else
    let trimmed :=
      (body.take scanned).rdropWhile fun character =>
        isSeparator character || character = ' '
    if trimmed.isEmpty then none else some (start, start + trimmed.length)

def rangeSigns : List Char := ['-', '\u2013', '\u2014', '\u2212', '\u2011', '/', '~']

section Scanning

variable (classes : LetterClasses)

/-- A range sign or a range word joins the figure to a neighbour. -/
def touchesRange (text : Text) (span : Span) : Bool :=
  let before := (text.take span.1).rdropWhile isWhitespace
  let wordBefore := (before.rdropWhile (!classes.isAlphabetic ·)).rtakeWhile classes.isAlphabetic
  let after := (text.drop span.2).dropWhile isWhitespace
  let wordAfter := after.takeWhile classes.isAlphabetic
  before.getLast?.any (fun sign => decide (sign ∈ rangeSigns)) ||
    decide (wordBefore ∈
      ["to".toList, "or".toList, "and".toList, "from".toList, "between".toList]) ||
    after.head?.any (fun sign =>
      decide (sign ∈ rangeSigns) &&
        ((after.drop 1).dropWhile isWhitespace).head?.any Char.isDigit) ||
    decide (wordAfter ∈ ["to".toList, "or".toList, "and".toList]) &&
      ((after.drop wordAfter.length).find? classes.isAlphanumeric).any Char.isDigit

def onWordBoundary (text marker : Text) (place : Nat) : Bool :=
  !marker.head?.any classes.isAlphanumeric ||
    !((text.take place).getLast?.any classes.isAlphanumeric ||
      (text.drop (place + marker.length)).head?.any classes.isAlphanumeric)

end Scanning

def digitsValue (digits : Text) : Nat :=
  digits.foldl (fun value digit => 10 * value + (digit.toNat - 48)) 0

/-- The figure around its last decimal separator, if a fraction follows it. -/
def splitFraction (decimalSeparator : Char) (raw : Text) : Text × Nat :=
  let fraction := raw.rtakeWhile (· != decimalSeparator)
  if decimalSeparator ∈ raw ∧ fraction ≠ [] ∧ fraction.length ≤ 2 ∧
      fraction.all Char.isDigit = true then
    ((raw.rdropWhile (· != decimalSeparator)).dropLast,
      if fraction.length = 1 then 10 * digitsValue fraction else digitsValue fraction)
  else
    (raw, 0)

/-- The digits of a grouped figure, if its groups are well formed. -/
def joinGroups : List Text → Option Text
  | [] => none
  | head :: groups =>
    if head.isEmpty || decide (3 < head.length) && !groups.isEmpty ||
        !head.all Char.isDigit then
      none
    else if groups.all fun group =>
        decide (group.length = 3) && group.all Char.isDigit then
      some (head ++ groups.flatten)
    else
      none

/-- A figure under the decimal convention of its currency. -/
def parseAmount (raw : Text) (commaDecimal : Bool) : Option I64 :=
  let decimalSeparator := if commaDecimal then ',' else '.'
  let thousandsSeparator := if commaDecimal then '.' else ','
  let (whole, fraction) := splitFraction decimalSeparator raw
  if decimalSeparator ∈ whole then
    none
  else do
    let digits ←
      joinGroups (whole.splitOnP fun character =>
        decide (character ∈ [thousandsSeparator, '\'', ' ', '\u00a0', '\u202f']))
    let units : I64 ← tryFrom (digitsValue digits)
    let hundredfold ← units.checkedMul 100
    let hundredths : I64 ← tryFrom fraction
    let minor ← hundredfold.checkedAdd hundredths
    if 0 < minor.val then some minor else none

section Reading

variable (classes : LetterClasses) (lowered : Text) (entry : CurrencyMarkers)

/-- The figure of a span, unless it cannot be read or is one end of a range. -/
def candidateAt
    (span : Span) : Option ProposedTerms :=
  match parseAmount (span.read lowered) entry.commaDecimal with
  | none => none
  | some minor =>
    if touchesRange classes lowered span then none else some ⟨minor, entry.currency⟩

/-- The candidates on both sides of a marker. -/
def candidatesAround (marker : Text)
    (place : Nat) : List ProposedTerms :=
  if onWordBoundary classes lowered marker place then
    [numberBefore lowered place,
      numberAfter lowered (place + marker.length)].filterMap
        fun span => span.bind (candidateAt classes lowered entry)
  else
    []

/-- The candidates of a text, in the order of the markers. -/
def candidates (lowered : Text) : List ProposedTerms :=
  currencyMarkers.flatMap fun entry =>
    entry.markers.flatMap fun marker =>
      (occurrences marker lowered).flatMap (candidatesAround classes lowered entry marker)

/-- What has been found with one more candidate: nothing, where they differ. -/
def addCandidate (found : Option ProposedTerms)
    (candidate : ProposedTerms) : Option (Option ProposedTerms) :=
  match found with
  | none => some (some candidate)
  | some existing => if existing = candidate then some found else none

/-- The one money figure a reply carries, if there is exactly one. -/
def extractOfferTerms (folding : CaseFolding)
    (text : Text) : Option ProposedTerms :=
  ((candidates classes (folding.toLowercase text)).foldlM addCandidate none).join

end Reading

end CrowdRelay
