import CrowdRelay.Calibration

namespace CrowdRelay

open LeastSquares

/-!
# How a history widens the uncertainty of a prediction

The observed are regressed on the predicted, and an uncertainty is divided by
the slope.  A slope below one widens it, the more so the smaller the slope is,
down to a slope that counts as zero.  Below that slope, and so on every
history that runs against its predictions, the uncertainty is left as it is.
-/

/-- A history whose slope is trusted: enough records that are not all the
same. -/
structure Trusted (history : List PredictionRecord) : Prop where
  enough : 5 ≤ history.length
  varied : leastVariance ≤ predictedVariance history

/-- The slope of what was observed over what was predicted. -/
def slopeOf (history : List PredictionRecord) : ℚ :=
  covariance PredictionRecord.predicted PredictionRecord.observed history /
    predictedVariance history

/-- An uncertainty corrected by a history. -/
def widened (sqrt : ℚ → ℚ) (history : List PredictionRecord)
    (predictedStd : ℚ) : ℚ :=
  (recorded history).correctUncertainty sqrt predictedStd

/-- A history that is over-confident widens an uncertainty, and widens it no
less than a history of a greater slope does. -/
structure WidensOverConfidence
    (sqrt : ℚ → ℚ)
    (predictedStd : ℚ)
    (history other : List PredictionRecord) :
    Prop where
  wider :
    slopeOf history < 1 → predictedStd < widened sqrt history predictedStd
  orderly :
    slopeOf history < slopeOf other →
      widened sqrt other predictedStd ≤ widened sqrt history predictedStd

section Widths

variable {sqrt : ℚ → ℚ} {history other : List PredictionRecord} {predictedStd : ℚ}

theorem Trusted.reported_slope (trusted : Trusted history) (sqrt : ℚ → ℚ) :
    ((recorded history).report sqrt).calibrationSlope = slopeOf history := by
  have someRecord : history ≠ [] := by
    rintro rfl
    exact absurd trusted.enough (by decide)
  have notEmpty : ¬ history.isEmpty = true := by
    simpa using someRecord
  have varied : ¬ predictedVariance history < leastVariance := not_lt.mpr trusted.varied
  rw [(report_sameFigures sqrt someRecord).slope, reportOf, if_neg notEmpty]
  dsimp only
  rw [olsRegression_eq someRecord, if_neg varied, slopeOf]

theorem Trusted.widened_eq (trusted : Trusted history) :
    widened sqrt history predictedStd =
      if slopeOf history < leastSlope then
        predictedStd
      else
        predictedStd / max (1 / 10) (min 10 (slopeOf history)) := by
  have counted : ¬ (recorded history).totalCount < 5 := by
    rw [(holdsSums_recorded history).count]
    exact not_lt.mpr trusted.enough
  rw [widened, CalibrationTracker.correctUncertainty, if_neg counted]
  dsimp only
  rw [trusted.reported_slope]

theorem Trusted.widened_of_lt (trusted : Trusted history) (flat : slopeOf history < leastSlope) :
    widened sqrt history predictedStd = predictedStd := by
  rw [trusted.widened_eq, if_pos flat]

theorem Trusted.widened_of_le (trusted : Trusted history) (rises : leastSlope ≤ slopeOf history) :
    widened sqrt history predictedStd = predictedStd / max (1 / 10) (min 10 (slopeOf history)) := by
  rw [trusted.widened_eq, if_neg (not_lt.mpr rises)]

theorem divisor_pos (slope : ℚ) : 0 < max (1 / 10) (min 10 slope) :=
  lt_max_of_lt_left (by decide +kernel)

theorem div_divisor_anti (someWidth : 0 < predictedStd) {slope greater : ℚ}
    (ordered : slope ≤ greater) :
    predictedStd / max (1 / 10) (min 10 greater) ≤ predictedStd / max (1 / 10) (min 10 slope) :=
  div_le_div_of_nonneg_left someWidth.le (divisor_pos slope)
    (max_le_max_left _ (min_le_min_left _ ordered))

theorem lt_div_divisor_iff (someWidth : 0 < predictedStd) {slope : ℚ} :
    predictedStd < predictedStd / max (1 / 10) (min 10 slope) ↔ slope < 1 := by
  rw [lt_div_iff₀ (divisor_pos slope), mul_lt_iff_lt_one_right someWidth, max_lt_iff, min_lt_iff]
  constructor
  · rintro ⟨_, tooGreat | below⟩
    · exact absurd tooGreat (by decide +kernel)
    · exact below
  · intro below
    exact ⟨by decide +kernel, Or.inr below⟩

theorem Trusted.lt_widened_iff (trusted : Trusted history)
    (overConfident : slopeOf history < 1) (someWidth : 0 < predictedStd) :
    predictedStd < widened sqrt history predictedStd ↔ leastSlope ≤ slopeOf history := by
  rcases lt_or_ge (slopeOf history) leastSlope with flat | rises
  · rw [trusted.widened_of_lt flat]
    exact iff_of_false (lt_irrefl _) (not_le.mpr flat)
  · rw [trusted.widened_of_le rises]
    exact iff_of_true ((lt_div_divisor_iff someWidth).mpr overConfident) rises

/-- The smaller slope widens as much or more, unless it is cut off while the
greater one widens. -/
theorem Trusted.widened_anti_iff (trusted : Trusted history) (trustedToo : Trusted other)
    (ordered : slopeOf history < slopeOf other) (someWidth : 0 < predictedStd) :
    widened sqrt other predictedStd ≤ widened sqrt history predictedStd ↔
      leastSlope ≤ slopeOf history ∨ slopeOf other < leastSlope ∨ 1 ≤ slopeOf other := by
  rcases lt_or_ge (slopeOf history) leastSlope with flat | rises
  · rcases lt_or_ge (slopeOf other) leastSlope with flatToo | otherRises
    · rw [trusted.widened_of_lt flat, trustedToo.widened_of_lt flatToo]
      exact iff_of_true le_rfl (Or.inr (Or.inl flatToo))
    · rw [trusted.widened_of_lt flat, trustedToo.widened_of_le otherRises,
        ← not_lt, lt_div_divisor_iff someWidth, not_lt]
      constructor
      · intro steep
        exact Or.inr (Or.inr steep)
      · rintro (rises | flatToo | steep)
        · exact absurd rises (not_le.mpr flat)
        · exact absurd otherRises (not_le.mpr flatToo)
        · exact steep
  · rw [trusted.widened_of_le rises,
      trustedToo.widened_of_le (rises.trans ordered.le)]
    exact iff_of_true (div_divisor_anti someWidth ordered.le) (Or.inl rises)

end Widths

/-- Over-confidence is widened exactly where the slope is not cut off. -/
theorem widens_over_confidence_iff
    (sqrt : ℚ → ℚ)
    (predictedStd : ℚ)
    (someWidth : 0 < predictedStd)
    (history other : List PredictionRecord)
    (trusted : Trusted history)
    (trustedToo : Trusted other) :
    WidensOverConfidence sqrt predictedStd history other ↔ leastSlope ≤ slopeOf history := by
  constructor
  · intro widens
    rcases lt_or_ge (slopeOf history) 1 with overConfident | steep
    · exact (trusted.lt_widened_iff overConfident someWidth).mp
        (widens.wider overConfident)
    · have cutoff : leastSlope ≤ 1 := by
        decide +kernel
      exact cutoff.trans steep
  · intro rises
    constructor
    · intro overConfident
      exact (trusted.lt_widened_iff overConfident someWidth).mpr rises
    · intro ordered
      exact (trusted.widened_anti_iff trustedToo ordered someWidth).mpr
        (Or.inl rises)

def predictedAs (predicted observed : ℚ) : PredictionRecord where
  predicted := predicted
  predictedStd := 1
  observed := observed
  templateId := "play"
  target := none
  channel := none
  estimationRegime := none
  evidenceQuality := none

/-- The more was predicted, the less came of it. -/
def contrary : List PredictionRecord := [
  predictedAs 1 5, predictedAs 2 4, predictedAs 3 3, predictedAs 4 2,
  predictedAs 5 1]

/-- Half of what was predicted came of it. -/
def halved : List PredictionRecord := [
  predictedAs 2 1, predictedAs 4 2, predictedAs 6 3, predictedAs 8 4,
  predictedAs 10 5]

/-- The same came of every prediction. -/
def unmoved : List PredictionRecord := [
  predictedAs 1 3, predictedAs 2 3, predictedAs 3 3, predictedAs 4 3,
  predictedAs 5 3]

/-- The rule applied to a history of halves beside a contrary one. -/
theorem halved_widens_over_confidence_iff :
    WidensOverConfidence id 1 halved contrary ↔ leastSlope ≤ slopeOf halved :=
  widens_over_confidence_iff id 1 (by decide +kernel) halved contrary
    ⟨by decide +kernel, by decide +kernel⟩
    ⟨by decide +kernel, by decide +kernel⟩

/-- Histories of slope minus one and of slope zero leave the uncertainty as it
is, while one of slope one half doubles it. -/
theorem contrary_is_not_widened :
    (5 ≤ contrary.length ∧ leastVariance ≤ predictedVariance contrary ∧
        slopeOf contrary = -1 ∧ widened id contrary 1 = 1) ∧
      (5 ≤ unmoved.length ∧ leastVariance ≤ predictedVariance unmoved ∧
        slopeOf unmoved = 0 ∧ widened id unmoved 1 = 1) ∧
      (slopeOf halved = 1 / 2 ∧ widened id halved 1 = 2) ∧
      ¬ WidensOverConfidence id 1 contrary halved ∧
      ¬ WidensOverConfidence id 1 unmoved halved := by
  have contraryWidth : widened id contrary 1 = 1 := by
    decide +kernel
  have unmovedWidth : widened id unmoved 1 = 1 := by
    decide +kernel
  refine ⟨⟨by decide, by decide +kernel, by decide +kernel, contraryWidth⟩,
    ⟨by decide, by decide +kernel, by decide +kernel, unmovedWidth⟩,
    ⟨by decide +kernel, by decide +kernel⟩, ?_, ?_⟩
  · intro widens
    have wider := widens.wider (by decide +kernel)
    rw [contraryWidth] at wider
    exact lt_irrefl _ wider
  · intro widens
    have wider := widens.wider (by decide +kernel)
    rw [unmovedWidth] at wider
    exact lt_irrefl _ wider

end CrowdRelay
