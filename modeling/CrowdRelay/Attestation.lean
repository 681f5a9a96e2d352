import Mathlib.Data.List.Lex
import CrowdRelay.GrowthMetrics
import CrowdRelay.JoinAsk

namespace CrowdRelay

open MachineInt TextScan

/-!
# Attestations

Figures the platform measured, sorted, banded where a count is small enough to
name people, and digested in a canonical form that a reader can derive again.
-/

def minimumCohort : U32 := 25
def maxMeasurementAgeDays : Int := 30
def validityDays : Int := 30

inductive AttestedMetric where
  | reachableFans
  | activeFans
  | ticketsSold
  | observedAttendance
  | repeatAttenders
  | connectedFollowers
  deriving Repr, DecidableEq

namespace AttestedMetric

def asStr : AttestedMetric → String
  | .reachableFans => "reachable_fans"
  | .activeFans => "active_fans"
  | .ticketsSold => "tickets_sold"
  | .observedAttendance => "observed_attendance"
  | .repeatAttenders => "repeat_attenders"
  | .connectedFollowers => "connected_followers"

def tier : AttestedMetric → MetricValueTier
  | .connectedFollowers => .vanity
  | .reachableFans | .activeFans => .intermediate
  | .ticketsSold | .observedAttendance | .repeatAttenders => .downstream

end AttestedMetric

inductive FigureScope where
  | everywhere
  | city (name : Text)
  | event (slug : Text)
  deriving Repr, DecidableEq

/-- What a key of that kind begins with, and the rest of it. -/
def tagged (tag : String) (rest : Text) : Text := tag.toList ++ rest

/-- The key of a scope, up to letter case and the blanks around a name. -/
def FigureScope.key (tables : TextTables) : FigureScope → Text
  | .everywhere => tagged "everywhere" []
  | .city name => tagged "city:" (tables.toLowercase (trim name))
  | .event slug => tagged "event:" (tables.toLowercase (trim slug))

/-- Narrow enough to name people. -/
def FigureScope.isNarrow : FigureScope → Bool
  | .everywhere => false
  | .city _ | .event _ => true

structure MeasuredFigure where
  metric : AttestedMetric
  scope : FigureScope
  value : U32
  windowDays : U16
  observedAt : OffsetDateTime
  deriving Repr, DecidableEq

inductive PublishedValue where
  | exact (value : U32)
  | fewerThan (bound : U32)
  deriving Repr, DecidableEq

def PublishedValue.key : PublishedValue → Text
  | .exact value => tagged "exact:" (decimal value.val)
  | .fewerThan bound => tagged "fewer_than:" (decimal bound.val)

structure AttestedFigure where
  metric : AttestedMetric
  scope : FigureScope
  value : PublishedValue
  windowDays : U16
  observedAt : OffsetDateTime
  deriving Repr, DecidableEq

namespace AttestedFigure

/-- Applies the privacy floor. -/
def fromMeasured (figure : MeasuredFigure) : AttestedFigure where
  metric := figure.metric
  scope := figure.scope
  value :=
    if figure.scope.isNarrow ∧ figure.value < minimumCohort then
      .fewerThan minimumCohort
    else
      .exact figure.value
  windowDays := figure.windowDays
  observedAt := figure.observedAt

def digestLine (tables : TextTables) (figure : AttestedFigure) : Text :=
  figure.metric.asStr.toList ++ '|' :: (figure.scope.key tables ++ '|' ::
    (figure.value.key ++ '|' :: (decimal figure.windowDays.val ++ '|' ::
      decimal figure.observedAt.unixTimestamp)))

/-- What figures are sorted by: their metric, scope and window. -/
def sortKey (tables : TextTables)
    (figure : AttestedFigure) : Text ×ₗ Text ×ₗ U16 :=
  toLex (figure.metric.asStr.toList, toLex (figure.scope.key tables, figure.windowDays))

end AttestedFigure

structure Attestation where
  actName : Text
  figures : List AttestedFigure
  issuedAt : OffsetDateTime
  validUntil : OffsetDateTime
  digest : Text
  deriving Repr, DecidableEq

inductive AttestationRefusal where
  | missingActName
  | nothingMeasured
  | nothingBanked
  | staleMeasurement (metric : AttestedMetric) (ageDays : Int)
  | measurementFromTheFuture (metric : AttestedMetric)
  deriving Repr, DecidableEq

variable (tables : TextTables) (actName : Text) (figures : List AttestedFigure)
  (issuedAt validUntil : OffsetDateTime)

/-- The canonical form, before it is hashed. -/
def canonicalText : Text :=
  tagged "crowdrelay.attestation.v1\n"
    (tables.toLowercase (trim actName) ++ '\n' ::
      (figures.flatMap (fun figure => figure.digestLine tables ++ ['\n']) ++
        (decimal issuedAt.unixTimestamp ++ '\n' :: decimal validUntil.unixTimestamp)))

def canonicalDigest : Text :=
  (tables.sha256 (canonicalText tables actName figures issuedAt validUntil)).flatMap hexByte

namespace Attestation

variable (tables : TextTables) (attestation : Attestation)

/-- The canonical form of the fields as they stand. -/
def text : Text :=
  canonicalText tables attestation.actName attestation.figures
    attestation.issuedAt attestation.validUntil

def recomputeDigest : Text :=
  canonicalDigest tables attestation.actName attestation.figures
    attestation.issuedAt attestation.validUntil

end Attestation

def measurementRefusal (now : OffsetDateTime)
    (figure : MeasuredFigure) : Option AttestationRefusal :=
  let ageDays := (now - figure.observedAt).tdiv nanosPerDay
  if now < figure.observedAt then
    some (.measurementFromTheFuture figure.metric)
  else if maxMeasurementAgeDays < ageDays then
    some (.staleMeasurement figure.metric ageDays)
  else
    none

/-- Above the lowest tier. -/
def isBanked (figure : MeasuredFigure) : Bool := figure.metric.tier != .vanity

variable (measured : List MeasuredFigure)

def publishedFigures : List AttestedFigure :=
  StableRanking.descending
    (fun figure => OrderDual.toDual (figure.sortKey tables))
    (measured.map .fromMeasured)

/-- The document over figures that are fit to be published. -/
def attestationOf
    (now : OffsetDateTime) : Attestation :=
  let figures := publishedFigures tables measured
  let validUntil := now + validityDays * nanosPerDay
  { actName := trim actName
    figures := figures
    issuedAt := now
    validUntil := validUntil
    digest := canonicalDigest tables actName figures now validUntil }

/-- Issues an attestation over measured figures. -/
def issue
    (now : OffsetDateTime) : Except AttestationRefusal Attestation :=
  if trim actName = [] then
    .error .missingActName
  else if measured = [] then
    .error .nothingMeasured
  else
    match measured.findSome? (measurementRefusal now) with
    | some refusal => .error refusal
    | none =>
      if measured.any isBanked then
        .ok (attestationOf tables actName measured now)
      else
        .error .nothingBanked

/-- What is issued was named, measured, fresh and banked. -/
theorem issue_eq_ok_iff {tables : TextTables} {actName : Text}
    {measured : List MeasuredFigure} {now : OffsetDateTime} {attestation : Attestation} :
    issue tables actName measured now = .ok attestation ↔
      trim actName ≠ [] ∧ measured ≠ [] ∧
        (∀ figure ∈ measured, measurementRefusal now figure = none) ∧
        measured.any isBanked = true ∧
        attestationOf tables actName measured now = attestation := by
  unfold issue
  by_cases unnamed : trim actName = []
  · simp [unnamed]
  · by_cases unmeasured : measured = []
    · simp [unnamed, unmeasured]
    · rw [if_neg unnamed, if_neg unmeasured]
      cases refused : measured.findSome? (measurementRefusal now) with
      | some refusal =>
        simp only [reduceCtorEq, false_iff]
        rintro ⟨_, _, fresh, _⟩
        obtain ⟨figure, member, isRefused⟩ := List.exists_of_findSome?_eq_some refused
        rw [fresh figure member] at isRefused
        cases isRefused
      | none =>
        have fresh := List.findSome?_eq_none_iff.mp refused
        by_cases banked : measured.any isBanked = true
        · simp only [banked, if_true, Except.ok.injEq, true_and]
          exact ⟨fun same => ⟨unnamed, unmeasured, fresh, same⟩, fun issued => issued.2.2.2⟩
        · simp [banked]

end CrowdRelay
