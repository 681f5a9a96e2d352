import Mathlib.Data.List.Defs
import Mathlib.Algebra.Order.Ring.Rat
import Mathlib.Algebra.Order.Field.Rat
import CrowdRelay.LeastSquares
import CrowdRelay.RecentItems
import CrowdRelay.StampOrder

namespace CrowdRelay

open LeastSquares

/-!
# Calibration

Predictions are recorded beside what was observed.  The tracker keeps running
sums of all records and a buffer of the most recent ones, and reports from
both.  The numbers are read as exact rationals; the square root is left open.
-/

/-- A single pair of a prediction and an observation. -/
structure PredictionRecord where
  predicted : ℚ
  predictedStd : ℚ
  observed : ℚ
  templateId : String
  target : Option String
  channel : Option String
  estimationRegime : Option String
  evidenceQuality : Option String
  deriving Repr, DecidableEq

structure ReliabilityBucket where
  bucketMidpoint : ℚ
  count : Nat
  meanPredicted : ℚ
  meanObserved : ℚ
  deriving Repr, DecidableEq

structure CalibrationReport where
  bias : ℚ := 0
  mae : ℚ := 0
  rmse : ℚ := 0
  calibrationSlope : ℚ := 0
  calibrationIntercept : ℚ := 0
  n : Nat := 0
  reliability : List ReliabilityBucket := []
  deriving Repr, DecidableEq

def reliabilityBuckets : Nat := 10

/-- How many records are kept for the reliability diagram. -/
def maxRecords : Nat := 500

/-- Below this variance all predictions are the same. -/
def leastVariance : ℚ := 1 / 10000000000

/-- Below this slope an uncertainty is not corrected. -/
def leastSlope : ℚ := 1 / 1000000

structure CalibrationTracker where
  records : List PredictionRecord := []
  totalCount : Nat := 0
  sumPredicted : ℚ := 0
  sumObserved : ℚ := 0
  sumPredictedSq : ℚ := 0
  sumPredictedObserved : ℚ := 0
  sumError : ℚ := 0
  sumAbsError : ℚ := 0
  sumErrorSq : ℚ := 0
  deriving Repr, DecidableEq

def PredictionRecord.error (record : PredictionRecord) : ℚ := record.predicted - record.observed

def CalibrationTracker.recordWithContext (tracker : CalibrationTracker)
    (record : PredictionRecord) : CalibrationTracker where
  records := RecentItems.push maxRecords tracker.records record
  totalCount := tracker.totalCount + 1
  sumPredicted := tracker.sumPredicted + record.predicted
  sumObserved := tracker.sumObserved + record.observed
  sumPredictedSq := tracker.sumPredictedSq + record.predicted * record.predicted
  sumPredictedObserved := tracker.sumPredictedObserved + record.predicted * record.observed
  sumError := tracker.sumError + record.error
  sumAbsError := tracker.sumAbsError + |record.error|
  sumErrorSq := tracker.sumErrorSq + record.error * record.error

/-- The mean prediction against the mean observation, in each bucket. -/
def reliabilityDiagram (records : List PredictionRecord)
    (buckets : Nat) : List ReliabilityBucket :=
  if records.isEmpty then
    []
  else
    let sorted := Watermark.inStampOrder PredictionRecord.predicted records
    let bucketSize := max ((sorted.length + buckets - 1) / buckets) 1
    (sorted.toChunks bucketSize).map fun chunk =>
      { bucketMidpoint := mean PredictionRecord.predicted chunk
        count := chunk.length
        meanPredicted := mean PredictionRecord.predicted chunk
        meanObserved := mean PredictionRecord.observed chunk }

/-- A slope and an intercept. -/
structure Line where
  slope : ℚ
  intercept : ℚ
  deriving Repr, DecidableEq

/-- The regression of what was observed on what was predicted. -/
def olsRegression (records : List PredictionRecord) : Line :=
  if records.isEmpty then
    { slope := 1, intercept := 0 }
  else
    let meanX := mean PredictionRecord.predicted records
    let meanY := mean PredictionRecord.observed records
    let varX := mean (fun record => (record.predicted - meanX) ^ 2) records
    if varX < leastVariance then
      { slope := 1, intercept := 0 }
    else
      let covXY :=
        mean
          (fun record =>
            (record.predicted - meanX) * (record.observed - meanY))
          records
      let slope := covXY / varX
      { slope := slope, intercept := meanY - slope * meanX }

section Reports

variable (sqrt : ℚ → ℚ) (tracker : CalibrationTracker)

def CalibrationTracker.report : CalibrationReport :=
  if tracker.totalCount = 0 then
    {}
  else
    let n : ℚ := tracker.totalCount
    let meanX := tracker.sumPredicted / n
    let meanY := tracker.sumObserved / n
    let varX := tracker.sumPredictedSq / n - meanX * meanX
    let covXY := tracker.sumPredictedObserved / n - meanX * meanY
    let line : Line :=
      if varX < leastVariance then
        { slope := 1, intercept := 0 }
      else
        let slope := covXY / varX
        { slope := slope, intercept := meanY - slope * meanX }
    { bias := tracker.sumError / n
      mae := tracker.sumAbsError / n
      rmse := sqrt (tracker.sumErrorSq / n)
      calibrationSlope := line.slope
      calibrationIntercept := line.intercept
      n := tracker.totalCount
      reliability := reliabilityDiagram tracker.records reliabilityBuckets }

def CalibrationTracker.correctPrediction
    (predicted : ℚ) : ℚ :=
  if tracker.totalCount = 0 then
    predicted
  else
    let n : ℚ := tracker.totalCount
    let meanX := tracker.sumPredicted / n
    let meanY := tracker.sumObserved / n
    let varX := tracker.sumPredictedSq / n - meanX * meanX
    if varX < leastVariance then
      predicted
    else
      let covXY := tracker.sumPredictedObserved / n - meanX * meanY
      let slope := covXY / varX
      let intercept := meanY - slope * meanX
      slope * predicted + intercept

/-- An uncertainty divided by the slope of the running sums, within bounds. -/
def CalibrationTracker.correctUncertainty
    (predictedStd : ℚ) : ℚ :=
  if tracker.totalCount < 5 then
    predictedStd
  else
    let slope := (tracker.report sqrt).calibrationSlope
    if slope < leastSlope then predictedStd else predictedStd / max (1 / 10) (min 10 slope)

/-- The report of some records, read through. -/
def reportOf (records : List PredictionRecord) : CalibrationReport :=
  if records.isEmpty then
    {}
  else
    let line := olsRegression records
    { bias := mean PredictionRecord.error records
      mae := mean (fun record => |record.error|) records
      rmse := sqrt (mean (fun record => record.error * record.error) records)
      calibrationSlope := line.slope
      calibrationIntercept := line.intercept
      n := records.length
      reliability := reliabilityDiagram records reliabilityBuckets }

def CalibrationTracker.reportForTemplate
    (templateId : String) : CalibrationReport :=
  reportOf sqrt (tracker.records.filter fun record => record.templateId = templateId)

end Reports

/-!
## The tracker reports what its whole history does

The running sums are the sums over every record there ever was, and one pass
over them gives the regression that two passes over the history would give.
-/

/-- The tracker after a history of records. -/
def recorded (history : List PredictionRecord) : CalibrationTracker :=
  history.foldl CalibrationTracker.recordWithContext {}

def predictedVariance (records : List PredictionRecord) : ℚ :=
  covariance PredictionRecord.predicted PredictionRecord.predicted records

/-- Two reports say the same, apart from their reliability diagrams. -/
structure SameFigures (one other : CalibrationReport) : Prop where
  bias : one.bias = other.bias
  mae : one.mae = other.mae
  rmse : one.rmse = other.rmse
  slope : one.calibrationSlope = other.calibrationSlope
  intercept : one.calibrationIntercept = other.calibrationIntercept
  count : one.n = other.n

theorem SameFigures.eq_of_reliability {one other : CalibrationReport}
    (same : SameFigures one other) (diagram : one.reliability = other.reliability) :
    one = other := by
  obtain ⟨bias, mae, rmse, slope, intercept, count⟩ := same
  cases one
  cases other
  cases bias
  cases mae
  cases rmse
  cases slope
  cases intercept
  cases count
  cases diagram
  rfl

structure HoldsSums
    (history : List PredictionRecord)
    (tracker : CalibrationTracker) : Prop where
  count : tracker.totalCount = history.length
  predicted :
    tracker.sumPredicted = total PredictionRecord.predicted history
  observed : tracker.sumObserved = total PredictionRecord.observed history
  predictedSq :
    tracker.sumPredictedSq =
      total (fun record => record.predicted * record.predicted) history
  predictedObserved :
    tracker.sumPredictedObserved =
      total (fun record => record.predicted * record.observed) history
  error : tracker.sumError = total PredictionRecord.error history
  absError :
    tracker.sumAbsError = total (fun record => |record.error|) history
  errorSq :
    tracker.sumErrorSq =
      total (fun record => record.error * record.error) history

variable {history : List PredictionRecord}

section Sums

variable {tracker : CalibrationTracker}

theorem HoldsSums.record (holds : HoldsSums history tracker) (record : PredictionRecord) :
    HoldsSums (history ++ [record]) (tracker.recordWithContext record) where
  count := by
    rw [List.length_append, ← holds.count]
    rfl
  predicted := by
    rw [total_concat, ← holds.predicted]
    rfl
  observed := by
    rw [total_concat, ← holds.observed]
    rfl
  predictedSq := by
    rw [total_concat, ← holds.predictedSq]
    rfl
  predictedObserved := by
    rw [total_concat, ← holds.predictedObserved]
    rfl
  error := by
    rw [total_concat, ← holds.error]
    rfl
  absError := by
    rw [total_concat, ← holds.absError]
    rfl
  errorSq := by
    rw [total_concat, ← holds.errorSq]
    rfl

theorem recorded_concat (record : PredictionRecord) :
    recorded (history ++ [record]) = (recorded history).recordWithContext record := by
  rw [recorded, List.foldl_append]
  rfl

theorem holdsSums_recorded (history : List PredictionRecord) :
    HoldsSums history (recorded history) := by
  induction history using List.reverseRecOn with
  | nil => exact ⟨rfl, rfl, rfl, rfl, rfl, rfl, rfl, rfl⟩
  | append_singleton history record inductionHypothesis =>
    rw [recorded_concat]
    exact inductionHypothesis.record record

theorem records_recorded (history : List PredictionRecord) :
    (recorded history).records = RecentItems.mostRecent maxRecords history := by
  rw [← RecentItems.foldl_push (by decide)]
  induction history using List.reverseRecOn with
  | nil => rfl
  | append_singleton history record inductionHypothesis =>
    rw [recorded_concat, List.foldl_append, ← inductionHypothesis]
    rfl

end Sums

section Fit

variable (sqrt : ℚ → ℚ)

theorem predictedVariance_eq (records : List PredictionRecord) :
    mean
        (fun record =>
          (record.predicted - mean PredictionRecord.predicted records) ^ 2)
        records =
      predictedVariance records := by
  simp only [predictedVariance, covariance, sq]

theorem olsRegression_eq (someRecord : history ≠ []) :
    olsRegression history =
      if predictedVariance history < leastVariance then
        { slope := 1, intercept := 0 }
      else
        { slope :=
            covariance PredictionRecord.predicted PredictionRecord.observed history /
              predictedVariance history
          intercept := mean PredictionRecord.observed history -
              covariance PredictionRecord.predicted PredictionRecord.observed history /
                predictedVariance history *
                mean PredictionRecord.predicted history } := by
  have notEmpty : ¬ history.isEmpty = true := by
    simpa using someRecord
  rw [olsRegression, if_neg notEmpty]
  dsimp only
  rw [predictedVariance_eq]
  rfl

/-- The moments of the running sums are those of two passes. -/
structure SameMoments
    (history : List PredictionRecord)
    (tracker : CalibrationTracker) : Prop where
  counted : tracker.totalCount ≠ 0
  meanX :
    tracker.sumPredicted / tracker.totalCount =
      mean PredictionRecord.predicted history
  meanY :
    tracker.sumObserved / tracker.totalCount =
      mean PredictionRecord.observed history
  varX :
    tracker.sumPredictedSq / tracker.totalCount -
        mean PredictionRecord.predicted history *
          mean PredictionRecord.predicted history =
      predictedVariance history
  covXY :
    tracker.sumPredictedObserved / tracker.totalCount -
        mean PredictionRecord.predicted history *
          mean PredictionRecord.observed history =
      covariance PredictionRecord.predicted PredictionRecord.observed history

theorem HoldsSums.sameMoments {tracker : CalibrationTracker}
    (holds : HoldsSums history tracker) (someRecord : history ≠ []) :
    SameMoments history tracker where
  counted := by
    rw [holds.count]
    exact (List.length_pos_iff.mpr someRecord).ne'
  meanX := by
    rw [holds.predicted, holds.count]
    rfl
  meanY := by
    rw [holds.observed, holds.count]
    rfl
  varX := by
    rw [predictedVariance, covariance_eq _ _ someRecord, holds.predictedSq, holds.count]
    rfl
  covXY := by
    rw [covariance_eq _ _ someRecord, holds.predictedObserved, holds.count]
    rfl

theorem report_sameFigures (someRecord : history ≠ []) :
    SameFigures ((recorded history).report sqrt) (reportOf sqrt history) := by
  have holds := holdsSums_recorded history
  have moments := holds.sameMoments someRecord
  have notEmpty : ¬ history.isEmpty = true := by
    simpa using someRecord
  have sameLine :
      (if predictedVariance history < leastVariance then
          { slope := 1, intercept := 0 }
        else
          ({ slope :=
              covariance PredictionRecord.predicted PredictionRecord.observed history /
                predictedVariance history
             intercept := mean PredictionRecord.observed history -
                covariance PredictionRecord.predicted PredictionRecord.observed history /
                  predictedVariance history *
                  mean PredictionRecord.predicted history } : Line)) =
        olsRegression history :=
    (olsRegression_eq someRecord).symm
  unfold CalibrationTracker.report reportOf
  rw [if_neg moments.counted, if_neg notEmpty]
  dsimp only
  rw [moments.meanX, moments.meanY, moments.varX, moments.covXY, sameLine,
    holds.count, holds.error, holds.absError, holds.errorSq]
  exact ⟨rfl, rfl, rfl, rfl, rfl, rfl⟩

theorem correctPrediction_eq (predicted : ℚ) :
    (recorded history).correctPrediction predicted =
      (olsRegression history).slope * predicted + (olsRegression history).intercept := by
  have holds := holdsSums_recorded history
  unfold CalibrationTracker.correctPrediction
  by_cases someRecord : history = []
  · subst someRecord
    have nothing : (recorded []).totalCount = 0 := rfl
    rw [if_pos nothing]
    simp [olsRegression]
  · have moments := holds.sameMoments someRecord
    rw [if_neg moments.counted]
    dsimp only
    rw [moments.meanX, moments.meanY, moments.varX, moments.covXY, olsRegression_eq someRecord]
    split
    · rw [one_mul, add_zero]
    · rfl

theorem correctPrediction_of_variance_lt
    (flat : predictedVariance history < leastVariance) (predicted : ℚ) :
    (recorded history).correctPrediction predicted = predicted := by
  rw [correctPrediction_eq]
  by_cases someRecord : history = []
  · subst someRecord
    simp [olsRegression]
  · rw [olsRegression_eq someRecord, if_pos flat, one_mul, add_zero]

/-- While the buffer holds everything, the report of the one template there is
is the report of all. -/
theorem reportForTemplate_eq (fits : history.length ≤ maxRecords) {templateId : String}
    (oneTemplate : ∀ record ∈ history, record.templateId = templateId) :
    (recorded history).reportForTemplate sqrt templateId = (recorded history).report sqrt := by
  have holdsAll : (recorded history).records = history := by
    rw [records_recorded, RecentItems.mostRecent_of_length_le fits]
  have keepsAll : (history.filter fun record => record.templateId = templateId) = history :=
    List.filter_eq_self.mpr fun record isRecord =>
      decide_eq_true (oneTemplate record isRecord)
  rw [CalibrationTracker.reportForTemplate, holdsAll, keepsAll]
  by_cases someRecord : history = []
  · subst someRecord
    rfl
  · have same := report_sameFigures sqrt someRecord
    have notEmpty : ¬ history.isEmpty = true := by
      simpa using someRecord
    have diagram :
        ((recorded history).report sqrt).reliability = (reportOf sqrt history).reliability := by
      have counted := ((holdsSums_recorded history).sameMoments someRecord).counted
      unfold CalibrationTracker.report reportOf
      rw [if_neg counted, if_neg notEmpty, holdsAll]
    exact (same.eq_of_reliability diagram).symm

end Fit

/-- What the tracker says of a history, whatever the square root is. -/
structure ReportsHistory
    (sqrt : ℚ → ℚ)
    (history : List PredictionRecord) : Prop where
  figures :
    history ≠ [] →
      SameFigures ((recorded history).report sqrt) (reportOf sqrt history)
  nothing : history = [] → (recorded history).report sqrt = {}
  corrected :
    ∀ predicted,
      (recorded history).correctPrediction predicted =
        (olsRegression history).slope * predicted +
          (olsRegression history).intercept
  uncorrected :
    predictedVariance history < leastVariance →
      ∀ predicted, (recorded history).correctPrediction predicted = predicted
  recent :
    (recorded history).records = history.drop (history.length - maxRecords)
  byTemplate :
    history.length ≤ maxRecords →
      ∀ templateId,
        (∀ record ∈ history, record.templateId = templateId) →
        (recorded history).reportForTemplate sqrt templateId =
          (recorded history).report sqrt

theorem reportsHistory
    (sqrt : ℚ → ℚ)
    (history : List PredictionRecord) :
    ReportsHistory sqrt history where
  figures := report_sameFigures sqrt
  nothing := by
    rintro rfl
    rfl
  corrected := correctPrediction_eq
  uncorrected := correctPrediction_of_variance_lt
  recent := records_recorded history
  byTemplate fits _ := reportForTemplate_eq sqrt fits

/-- Before the first record the report has no slope, the regression has one. -/
theorem report_of_nothing :
    ((recorded []).report id).calibrationSlope ≠ (olsRegression []).slope := by
  decide

end CrowdRelay
