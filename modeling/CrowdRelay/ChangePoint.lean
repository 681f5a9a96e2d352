import Mathlib.Algebra.Order.Ring.Rat
import Mathlib.Data.List.ReduceOption
import Mathlib.Tactic.Linarith
import CrowdRelay.LeastSquares
import CrowdRelay.Machine

namespace CrowdRelay

/-!
# Change points in fan growth

Two cumulative sums measure how far the observations lie above and below a
baseline.  When one of them reaches the threshold a regime shift is reported,
both start again, and the baseline is the observation that shifted.  The
numbers are read as exact rationals.
-/

inductive ChangeDirection
  | upward
  | downward
  deriving Repr, DecidableEq

/-- One detected shift; the timestamp is the index of its observation. -/
structure ChangePoint where
  timestamp : Nat
  direction : ChangeDirection
  magnitude : ℚ
  preMean : ℚ
  postMean : ℚ
  deriving Repr, DecidableEq

structure ChangePointDetector where
  threshold : ℚ
  drift : ℚ
  /-- The upward sum. -/
  sH : ℚ := 0
  /-- The downward sum. -/
  sL : ℚ := 0
  count : Nat := 0
  runningSum : ℚ := 0
  baselineMean : ℚ := 0
  baselineCount : Nat := 0
  /-- The detected change points, oldest first. -/
  changePoints : List ChangePoint := []
  deriving Repr, DecidableEq

namespace ChangePointDetector

def new (threshold drift : ℚ) : ChangePointDetector where
  threshold := threshold
  drift := drift

variable (detector : ChangePointDetector)

/-- Both sums start again and the baseline is the observation that shifted. -/
def shifted (point : ChangePoint) : ChangePointDetector × Option ChangePoint :=
  ({ detector with
      sH := 0
      sL := 0
      baselineMean := point.postMean
      baselineCount := 1
      changePoints := detector.changePoints ++ [point] },
    some point)

variable (value : ℚ)

/-- The baseline takes in one more observation. -/
def absorbed :
    ChangePointDetector :=
  let baselineCount := detector.baselineCount + 1
  let alpha : ℚ := 1 / baselineCount
  { detector with
    baselineCount := baselineCount
    baselineMean := detector.baselineMean * (1 - alpha) + value * alpha }

def observe : ChangePointDetector × Option ChangePoint :=
  if detector.count = 0 then
    -- The first observation only establishes the baseline.
    ({ detector with
        runningSum := value
        count := 1
        baselineMean := value
        baselineCount := 1 },
      none)
  else
    let mean := detector.baselineMean
    let seen : ChangePointDetector :=
      { detector with
        sH := max (detector.sH + (value - mean - detector.drift)) 0
        sL := max (detector.sL + (mean - value - detector.drift)) 0
        runningSum := detector.runningSum + value
        count := detector.count + 1 }
    let point (direction : ChangeDirection) (magnitude : ℚ) : ChangePoint :=
      { timestamp := seen.count - 1
        direction := direction
        magnitude := magnitude
        preMean := mean
        postMean := value }
    if seen.threshold ≤ seen.sH then
      seen.shifted (point .upward seen.sH)
    else if seen.threshold ≤ seen.sL then
      seen.shifted (point .downward seen.sL)
    else
      (seen.absorbed value, none)

/-- The detector as a machine that reads observations. -/
def observing :
    Machine.Transducer ChangePointDetector ℚ (Option ChangePoint) where
  step := observe

theorem observing_neverHalts (report : Option ChangePoint) : observing.halts report = false := rfl

/-- The detector after a sequence of observations. -/
def observed (threshold drift : ℚ) (series : List ℚ) : ChangePointDetector :=
  observing.final (new threshold drift) series

end ChangePointDetector

open ChangePointDetector

variable (series : List ℚ)

def detectFanGrowthShifts (threshold drift : ℚ) : List ChangePoint :=
  if series.length < 2 then [] else (observing.log (new threshold drift) series).reduceOption

def firstDetection (threshold drift : ℚ) : Option Nat :=
  (detectFanGrowthShifts series threshold drift).head?.map ChangePoint.timestamp

namespace ChangePointDetector

/-- The two sums the next observation leads to, before any shift. -/
def raised (detector : ChangePointDetector) (value : ℚ) : ℚ :=
  max (detector.sH + (value - detector.baselineMean - detector.drift)) 0

def lowered (detector : ChangePointDetector) (value : ℚ) : ℚ :=
  max (detector.sL + (detector.baselineMean - value - detector.drift)) 0

/-- What an observation shifts: its direction and the sum that reached it. -/
def shift? (detector : ChangePointDetector) (value : ℚ) : Option (ChangeDirection × ℚ) :=
  if detector.threshold ≤ detector.raised value then
    some (.upward, detector.raised value)
  else if detector.threshold ≤ detector.lowered value then
    some (.downward, detector.lowered value)
  else
    none

section Steps

variable {detector : ChangePointDetector} {value : ℚ}

theorem observe_first (isFirst : detector.count = 0) :
    detector.observe value =
      ({ detector with
          runningSum := value
          count := 1
          baselineMean := value
          baselineCount := 1 },
        none) :=
  if_pos isFirst

theorem shift?_eq_none :
    detector.shift? value = none ↔
      detector.raised value < detector.threshold ∧ detector.lowered value < detector.threshold := by
  rw [shift?]
  by_cases high : detector.threshold ≤ detector.raised value
  · simp [high, not_lt.mpr high]
  · by_cases low : detector.threshold ≤ detector.lowered value
    · simp [high, low, not_lt.mpr low]
    · simp [high, low, not_le.mp high, not_le.mp low]

theorem observe_shift (later : detector.count ≠ 0) {direction : ChangeDirection}
    {magnitude : ℚ} (shifts : detector.shift? value = some (direction, magnitude)) :
    detector.observe value =
      let point : ChangePoint :=
        { timestamp := detector.count
          direction := direction
          magnitude := magnitude
          preMean := detector.baselineMean
          postMean := value }
      ({ detector with
          sH := 0
          sL := 0
          runningSum := detector.runningSum + value
          count := detector.count + 1
          baselineMean := value
          baselineCount := 1
          changePoints := detector.changePoints ++ [point] },
        some point) := by
  rw [observe, if_neg later]
  rw [shift?] at shifts
  by_cases high : detector.threshold ≤ detector.raised value
  · rw [if_pos high] at shifts
    cases shifts
    exact if_pos high
  · rw [if_neg high] at shifts
    by_cases low : detector.threshold ≤ detector.lowered value
    · rw [if_pos low] at shifts
      cases shifts
      exact (if_neg high).trans (if_pos low)
    · rw [if_neg low] at shifts
      cases shifts

theorem observe_quiet (later : detector.count ≠ 0) (quiet : detector.shift? value = none) :
    detector.observe value =
      ({ detector with
          sH := detector.raised value
          sL := detector.lowered value
          runningSum := detector.runningSum + value
          count := detector.count + 1
          baselineCount := detector.baselineCount + 1
          baselineMean := detector.baselineMean *
                (1 - 1 / ((detector.baselineCount + 1 : Nat) : ℚ)) +
              value * (1 / ((detector.baselineCount + 1 : Nat) : ℚ)) },
        none) := by
  rw [observe, if_neg later]
  have below := shift?_eq_none.mp quiet
  exact (if_neg (not_le.mpr below.1)).trans (if_neg (not_le.mpr below.2))

/--
One observation: the first one sets the baseline, a later one shifts the
regime or is absorbed.
-/
theorem observe_cases (detector : ChangePointDetector) (value : ℚ) :
    detector.count = 0 ∨
      detector.count ≠ 0 ∧
        ((∃ direction magnitude, detector.shift? value = some (direction, magnitude)) ∨
          detector.shift? value = none) := by
  rcases Nat.eq_zero_or_pos detector.count with isFirst | later
  · exact .inl isFirst
  · refine .inr ⟨later.ne', ?_⟩
    cases shifts : detector.shift? value with
    | none => exact .inr rfl
    | some shift => exact .inl ⟨shift.1, shift.2, rfl⟩

end Steps

end ChangePointDetector

open LeastSquares

/-!
## Laws of the change-point detector

What one observation preserves, and from it what whole sequences keep: the sums
stay below the threshold, the baseline is the mean of the regime, a mirrored
sequence shifts the other way, a sequence inside the noise band never shifts,
and a keener detector is never later.
-/

theorem detectFanGrowthShifts_eq (threshold drift : ℚ) :
    detectFanGrowthShifts series threshold drift =
      (observing.log (new threshold drift) series).reduceOption := by
  rw [detectFanGrowthShifts]
  match series with
  | [] => rfl
  | [_] => rfl
  | _ :: _ :: _ => exact if_neg (by simp)

variable {threshold drift : ℚ} {detector : ChangePointDetector}

/-- The sums of a detector of a threshold and a drift. -/
structure WithinThreshold
    (threshold drift : ℚ)
    (detector : ChangePointDetector) : Prop where
  threshold_eq : detector.threshold = threshold
  drift_eq : detector.drift = drift
  sH_nonneg : 0 ≤ detector.sH
  sH_lt : detector.sH < threshold
  sL_nonneg : 0 ≤ detector.sL
  sL_lt : detector.sL < threshold

theorem WithinThreshold.start (positive : 0 < threshold) :
    WithinThreshold threshold drift (new threshold drift) :=
  ⟨rfl, rfl, le_rfl, positive, le_rfl, positive⟩

theorem WithinThreshold.observe (positive : 0 < threshold)
    (within : WithinThreshold threshold drift detector) (value : ℚ) :
    WithinThreshold threshold drift (detector.observe value).1 := by
  rcases detector.observe_cases value with
    isFirst | ⟨later, ⟨direction, magnitude, shifts⟩ | quiet⟩
  · rw [observe_first isFirst]
    exact ⟨within.threshold_eq, within.drift_eq, within.sH_nonneg,
      within.sH_lt, within.sL_nonneg, within.sL_lt⟩
  · rw [observe_shift later shifts]
    exact ⟨within.threshold_eq, within.drift_eq, le_rfl, positive, le_rfl, positive⟩
  · rw [observe_quiet later quiet]
    have below := shift?_eq_none.mp quiet
    rw [within.threshold_eq] at below
    exact ⟨within.threshold_eq, within.drift_eq, le_max_right _ _, below.1,
      le_max_right _ _, below.2⟩

theorem observed_withinThreshold (positive : 0 < threshold) (series : List ℚ) :
    WithinThreshold threshold drift (observed threshold drift series) :=
  observing.final_invariant (fun _ value within => within.observe positive value)
    (WithinThreshold.start positive) series

theorem WithinThreshold.raised_lt_or_lowered_lt (nonnegative : 0 ≤ drift)
    (within : WithinThreshold threshold drift detector) (value : ℚ) :
    detector.raised value < threshold ∨ detector.lowered value < threshold := by
  have positive : 0 < threshold := within.sH_nonneg.trans_lt within.sH_lt
  rcases le_total detector.baselineMean value with above | below
  · refine .inr (max_lt ?_ positive)
    have drifts := within.drift_eq
    have bound := within.sL_lt
    linarith
  · refine .inl (max_lt ?_ positive)
    have drifts := within.drift_eq
    have bound := within.sH_lt
    linarith

def ChangePointDetector.regimeStart (detector : ChangePointDetector) : Nat :=
  (detector.changePoints.getLast?.map ChangePoint.timestamp).getD 0

/-- The baseline of a detector is the mean of its regime. -/
structure TracksBaseline
    (series : List ℚ)
    (detector : ChangePointDetector) : Prop where
  count : detector.count = series.length
  start_le : detector.regimeStart ≤ series.length
  baselineCount :
    detector.baselineCount = (series.drop detector.regimeStart).length
  baselineMean :
    detector.baselineMean = mean id (series.drop detector.regimeStart)

theorem TracksBaseline.observe {series : List ℚ} {detector : ChangePointDetector}
    (tracks : TracksBaseline series detector) (value : ℚ) :
    TracksBaseline (series ++ [value]) (detector.observe value).1 := by
  rcases detector.observe_cases value with
    isFirst | ⟨later, ⟨direction, magnitude, shifts⟩ | quiet⟩
  · have nothing : series = [] := List.length_eq_zero_iff.mp (tracks.count.symm.trans isFirst)
    have atStart : detector.regimeStart = 0 := by
      simpa [nothing] using tracks.start_le
    subst nothing
    rw [observe_first isFirst]
    refine ⟨rfl, ?_, ?_, ?_⟩ <;>
      simp only [regimeStart] at atStart ⊢ <;>
      simp [atStart, mean]
  · rw [observe_shift later shifts]
    refine ⟨?_, ?_, ?_, ?_⟩ <;>
      simp [regimeStart, tracks.count, mean]
  · rw [observe_quiet later quiet]
    have sameRegime :
        (series ++ [value]).drop detector.regimeStart =
          series.drop detector.regimeStart ++ [value] :=
      List.drop_append_of_le_length tracks.start_le
    refine ⟨?_, ?_, ?_, ?_⟩
    · simp [tracks.count]
    · have starts := tracks.start_le
      simp only [regimeStart, List.length_append] at starts ⊢
      exact starts.trans (Nat.le_add_right _ _)
    · refine Eq.trans ?_ (congrArg List.length sameRegime).symm
      rw [List.length_append, ← tracks.baselineCount]
      rfl
    · refine Eq.trans ?_ (congrArg (mean id) sameRegime).symm
      rw [mean_concat, ← tracks.baselineCount, ← tracks.baselineMean]
      rfl

theorem observed_tracksBaseline (threshold drift : ℚ) (series : List ℚ) :
    TracksBaseline series (observed threshold drift series) := by
  have tracks := observing.final_history TracksBaseline observing_neverHalts
      (fun past detector value holds => holds.observe value)
      (⟨rfl, le_rfl, rfl, by simp [new, mean]⟩ : TracksBaseline [] (new threshold drift))
      series
  rwa [List.nil_append] at tracks

def ChangeDirection.opposite : ChangeDirection → ChangeDirection
  | .upward => .downward
  | .downward => .upward

/-- The shift of the negated observations. -/
def ChangePoint.mirrored (point : ChangePoint) : ChangePoint where
  timestamp := point.timestamp
  direction := point.direction.opposite
  magnitude := point.magnitude
  preMean := -point.preMean
  postMean := -point.postMean

def ChangePointDetector.mirrored (detector : ChangePointDetector) :
    ChangePointDetector :=
  { detector with
    sH := detector.sL
    sL := detector.sH
    runningSum := -detector.runningSum
    baselineMean := -detector.baselineMean
    changePoints := detector.changePoints.map ChangePoint.mirrored }

theorem raised_mirrored (value : ℚ) :
    detector.mirrored.raised (-value) = detector.lowered value := by
  simp only [raised, lowered, mirrored]
  congr 2
  ring

theorem lowered_mirrored (value : ℚ) :
    detector.mirrored.lowered (-value) = detector.raised value := by
  simp only [raised, lowered, mirrored]
  congr 2
  ring

theorem WithinThreshold.shift?_mirrored (nonnegative : 0 ≤ drift)
    (within : WithinThreshold threshold drift detector) (value : ℚ) :
    detector.mirrored.shift? (-value) =
      (detector.shift? value).map fun shift => (shift.1.opposite, shift.2) := by
  rw [shift?, shift?, raised_mirrored, lowered_mirrored]
  have sameThreshold : detector.mirrored.threshold = detector.threshold := rfl
  have oneSided := within.raised_lt_or_lowered_lt nonnegative value
  rw [← within.threshold_eq] at oneSided
  rw [sameThreshold]
  by_cases high : detector.threshold ≤ detector.raised value
  · have low : ¬ detector.threshold ≤ detector.lowered value :=
      oneSided.elim (fun below => absurd high (not_le.mpr below)) not_le.mpr
    simp [high, low, ChangeDirection.opposite]
  · by_cases low : detector.threshold ≤ detector.lowered value <;>
      simp [high, low, ChangeDirection.opposite]

theorem WithinThreshold.observe_mirrored (nonnegative : 0 ≤ drift)
    (within : WithinThreshold threshold drift detector) (value : ℚ) :
    detector.mirrored.observe (-value) =
      ((detector.observe value).1.mirrored,
        (detector.observe value).2.map ChangePoint.mirrored) := by
  have turned := within.shift?_mirrored nonnegative value
  rcases detector.observe_cases value with
    isFirst | ⟨later, ⟨direction, magnitude, shifts⟩ | quiet⟩
  · have firstToo : detector.mirrored.count = 0 := isFirst
    rw [observe_first isFirst, observe_first firstToo]
    rfl
  · have laterToo : detector.mirrored.count ≠ 0 := later
    rw [shifts] at turned
    rw [observe_shift later shifts, observe_shift laterToo turned]
    simp [mirrored, ChangePoint.mirrored, add_comm]
  · have laterToo : detector.mirrored.count ≠ 0 := later
    rw [quiet] at turned
    rw [observe_quiet later quiet, observe_quiet laterToo turned, raised_mirrored, lowered_mirrored]
    simp only [mirrored, Option.map_none, Prod.mk.injEq, and_true,
      ChangePointDetector.mk.injEq, true_and]
    exact ⟨by ring, by ring⟩

theorem detectFanGrowthShifts_map_neg (positive : 0 < threshold) (nonnegative : 0 ≤ drift)
    (series : List ℚ) :
    detectFanGrowthShifts (series.map Neg.neg) threshold drift =
      (detectFanGrowthShifts series threshold drift).map
        ChangePoint.mirrored := by
  have start : (new threshold drift).mirrored = new threshold drift := by
    simp [new, mirrored]
  rw [detectFanGrowthShifts_eq, detectFanGrowthShifts_eq, ← List.reduceOption_map]
  conv_lhs => rw [← start]
  exact congrArg _
    (observing.log_map_of_commutes observing_neverHalts
      (fun _ value within => within.observe positive value)
      (fun _ value within => within.observe_mirrored nonnegative value)
      (WithinThreshold.start positive) series)

section NoiseBand

variable {threshold drift low : ℚ} {value : ℚ}

/-- A detector that has only seen observations of one noise band. -/
structure InBand
    (threshold drift low : ℚ)
    (detector : ChangePointDetector) : Prop where
  threshold_eq : detector.threshold = threshold
  drift_eq : detector.drift = drift
  sH_eq : detector.sH = 0
  sL_eq : detector.sL = 0
  baseline :
    detector.count ≠ 0 →
      low ≤ detector.baselineMean ∧ detector.baselineMean ≤ low + drift

theorem InBand.quiet (positive : 0 < threshold)
    (inBand : InBand threshold drift low detector) (later : detector.count ≠ 0)
    (inside : low ≤ value ∧ value ≤ low + drift) :
    detector.raised value = 0 ∧ detector.lowered value = 0 ∧ detector.shift? value = none := by
  have baseline := inBand.baseline later
  have flatHigh : detector.raised value = 0 := by
    rw [raised, inBand.sH_eq, inBand.drift_eq]
    exact max_eq_right (by linarith)
  have flatLow : detector.lowered value = 0 := by
    rw [lowered, inBand.sL_eq, inBand.drift_eq]
    exact max_eq_right (by linarith)
  refine ⟨flatHigh, flatLow, shift?_eq_none.mpr ?_⟩
  rw [flatHigh, flatLow, inBand.threshold_eq]
  exact ⟨positive, positive⟩

theorem weighted_mem_interval {low high one other weight : ℚ}
    (oneInside : low ≤ one ∧ one ≤ high) (otherInside : low ≤ other ∧ other ≤ high)
    (weightInside : 0 ≤ weight ∧ weight ≤ 1) :
    low ≤ one * (1 - weight) + other * weight ∧ one * (1 - weight) + other * weight ≤ high := by
  have rest : 0 ≤ 1 - weight := sub_nonneg.mpr weightInside.2
  constructor
  · calc
      low = low * (1 - weight) + low * weight := by ring
      _ ≤ one * (1 - weight) + other * weight :=
        add_le_add (mul_le_mul_of_nonneg_right oneInside.1 rest)
          (mul_le_mul_of_nonneg_right otherInside.1 weightInside.1)
  · calc
      one * (1 - weight) + other * weight ≤ high * (1 - weight) + high * weight :=
        add_le_add (mul_le_mul_of_nonneg_right oneInside.2 rest)
          (mul_le_mul_of_nonneg_right otherInside.2 weightInside.1)
      _ = high := by ring

theorem InBand.observe (positive : 0 < threshold) (inBand : InBand threshold drift low detector)
    (inside : low ≤ value ∧ value ≤ low + drift) :
    InBand threshold drift low (detector.observe value).1 ∧ (detector.observe value).2 = none := by
  by_cases isFirst : detector.count = 0
  · rw [observe_first isFirst]
    exact ⟨⟨inBand.threshold_eq, inBand.drift_eq, inBand.sH_eq, inBand.sL_eq, fun _ => inside⟩, rfl⟩
  · obtain ⟨flatHigh, flatLow, quiet⟩ := inBand.quiet positive isFirst inside
    rw [observe_quiet isFirst quiet]
    have grown : (1 : ℚ) ≤ ((detector.baselineCount + 1 : Nat) : ℚ) :=
      Nat.one_le_cast.mpr (Nat.le_add_left 1 _)
    have weight :
        (0 : ℚ) ≤ 1 / ((detector.baselineCount + 1 : Nat) : ℚ) ∧
          1 / ((detector.baselineCount + 1 : Nat) : ℚ) ≤ (1 : ℚ) :=
      ⟨by positivity, div_le_one_of_le₀ grown (by positivity)⟩
    exact ⟨⟨inBand.threshold_eq, inBand.drift_eq, flatHigh, flatLow,
      fun _ => weighted_mem_interval (inBand.baseline isFirst) inside weight⟩,
      rfl⟩

theorem detectFanGrowthShifts_of_inBand (positive : 0 < threshold) {series : List ℚ}
    (inside : ∀ value ∈ series, low ≤ value ∧ value ≤ low + drift) :
    detectFanGrowthShifts series threshold drift = [] := by
  have start : InBand threshold drift low (new threshold drift) :=
    ⟨rfl, rfl, rfl, rfl, fun later => absurd rfl later⟩
  have stays :
      ∀ (state : ChangePointDetector) (value : ℚ),
        low ≤ value ∧ value ≤ low + drift →
        InBand threshold drift low state →
        InBand threshold drift low (state.observe value).1 ∧ (state.observe value).2 = none :=
    fun _ _ inside holds => holds.observe positive inside
  have silent : ∀ report ∈ observing.log (new threshold drift) series, report = none :=
    observing.forall_mem_log_of_permitted
      (fun state value inside holds => (stays state value inside holds).1)
      (fun state value inside holds => (stays state value inside holds).2)
      start inside
  rw [detectFanGrowthShifts_eq]
  refine List.eq_nil_iff_forall_not_mem.mpr fun point detected => ?_
  have reported := silent _ (List.reduceOption_mem_iff.mp detected)
  cases reported

end NoiseBand

section Keenness

variable {point : ChangePoint} (detector : ChangePointDetector)

/-- Two detectors of the same observations, one no less keen than the other. -/
structure NoLessKeen (keen dull : ChangePointDetector) : Prop where
  threshold_le : keen.threshold ≤ dull.threshold
  drift_le : keen.drift ≤ dull.drift
  sH_le : dull.sH ≤ keen.sH
  sL_le : dull.sL ≤ keen.sL
  count_eq : keen.count = dull.count
  baselineMean_eq : keen.baselineMean = dull.baselineMean
  baselineCount_eq : keen.baselineCount = dull.baselineCount

variable {keen dull : ChangePointDetector}

section

variable (noLess : NoLessKeen keen dull)
include noLess

variable (value : ℚ)

theorem NoLessKeen.raised_le : dull.raised value ≤ keen.raised value := by
  refine max_le_max ?_ le_rfl
  have sums := noLess.sH_le
  have drifts := noLess.drift_le
  rw [noLess.baselineMean_eq]
  linarith

theorem NoLessKeen.lowered_le : dull.lowered value ≤ keen.lowered value := by
  refine max_le_max ?_ le_rfl
  have sums := noLess.sL_le
  have drifts := noLess.drift_le
  rw [noLess.baselineMean_eq]
  linarith

theorem NoLessKeen.quiet {value : ℚ} (quiet : keen.shift? value = none) :
    dull.shift? value = none := by
  have below := shift?_eq_none.mp quiet
  have thresholds := noLess.threshold_le
  exact shift?_eq_none.mpr
    ⟨(noLess.raised_le value).trans_lt (below.1.trans_le thresholds),
      (noLess.lowered_le value).trans_lt (below.2.trans_le thresholds)⟩

theorem NoLessKeen.observe {value : ℚ} (silent : (keen.observe value).2 = none) :
    (dull.observe value).2 = none ∧ NoLessKeen (keen.observe value).1 (dull.observe value).1 := by
  have thresholds := noLess.threshold_le
  have drifts := noLess.drift_le
  rcases keen.observe_cases value with
    isFirst | ⟨later, ⟨direction, magnitude, shifts⟩ | quiet⟩
  · have firstToo : dull.count = 0 := noLess.count_eq ▸ isFirst
    rw [observe_first isFirst, observe_first firstToo]
    exact ⟨rfl, thresholds, drifts, noLess.sH_le, noLess.sL_le, rfl, rfl, rfl⟩
  · rw [observe_shift later shifts] at silent
    cases silent
  · have laterToo : dull.count ≠ 0 := noLess.count_eq ▸ later
    rw [observe_quiet later quiet, observe_quiet laterToo (noLess.quiet quiet)]
    refine ⟨rfl, thresholds, drifts, noLess.raised_le value, noLess.lowered_le value, ?_, ?_, ?_⟩
    · exact congrArg (· + 1) noLess.count_eq
    · simp only [noLess.baselineMean_eq, noLess.baselineCount_eq]
    · exact congrArg (· + 1) noLess.baselineCount_eq

end

theorem timestamp_of_observe {detector : ChangePointDetector} {value : ℚ}
    (detected : (detector.observe value).2 = some point) :
    point.timestamp = detector.count := by
  rcases detector.observe_cases value with
    isFirst | ⟨later, ⟨direction, magnitude, shifts⟩ | quiet⟩
  · rw [observe_first isFirst] at detected
    cases detected
  · rw [observe_shift later shifts] at detected
    cases detected
    rfl
  · rw [observe_quiet later quiet] at detected
    cases detected

theorem count_observe_ge (value : ℚ) : detector.count ≤ (detector.observe value).1.count := by
  rcases detector.observe_cases value with
    isFirst | ⟨later, ⟨direction, magnitude, shifts⟩ | quiet⟩
  · rw [observe_first isFirst, isFirst]
    exact Nat.zero_le _
  · rw [observe_shift later shifts]
    exact Nat.le_succ _
  · rw [observe_quiet later quiet]
    exact Nat.le_succ _

/-- What a detector reports bears no earlier index than its next. -/
def ChangePointDetector.Foretells (detector : ChangePointDetector)
    (report : Option ChangePoint) : Prop :=
  ∀ shift, report = some shift → detector.count ≤ shift.timestamp

theorem count_le_timestamp (series : List ℚ)
    (detected : point ∈ (observing.log detector series).reduceOption) :
    detector.count ≤ point.timestamp := by
  have foretold : ∀ report ∈ observing.log detector series, detector.Foretells report :=
    observing.forall_mem_log_foreseen (fun _ _ (_ : True) => trivial)
      (fun _ _ _ _ reported => (timestamp_of_observe reported).ge)
      (fun state value _ _ foreseen shift reported =>
        (count_observe_ge state value).trans (foreseen shift reported))
      trivial series
  exact foretold _ (List.reduceOption_mem_iff.mp detected) point rfl

theorem NoLessKeen.head?_le (noLess : NoLessKeen keen dull) (series : List ℚ) :
    ∀ late ∈ (observing.log dull series).reduceOption.head?,
      ∃ early ∈ (observing.log keen series).reduceOption.head?,
        early.timestamp ≤ late.timestamp := by
  intro late detected
  induction series generalizing keen dull with
  | nil => cases detected
  | cons value later inductionHypothesis =>
    cases reported : (keen.observe value).2 with
    | some early =>
      refine ⟨early, ?_, ?_⟩
      · rw [observing.log_cons]
        change early ∈ (List.reduceOption ((keen.observe value).2 :: _)).head?
        rw [reported]
        rfl
      · rw [timestamp_of_observe reported, noLess.count_eq]
        exact count_le_timestamp dull _ (List.mem_of_mem_head? detected)
    | none =>
      obtain ⟨silent, stillNoLess⟩ := noLess.observe reported
      have dullRest :
          observing.log dull (value :: later) =
            none :: observing.log (dull.observe value).1 later := by
        rw [observing.log_cons]
        exact congrArg (· :: _) silent
      have keenRest :
          observing.log keen (value :: later) =
            none :: observing.log (keen.observe value).1 later := by
        rw [observing.log_cons]
        exact congrArg (· :: _) reported
      rw [dullRest, List.reduceOption_cons_of_none] at detected
      rw [keenRest, List.reduceOption_cons_of_none]
      exact inductionHypothesis stillNoLess detected

theorem firstDetection_le {threshold drift keenThreshold keenDrift : ℚ}
    (thresholds : keenThreshold ≤ threshold) (drifts : keenDrift ≤ drift) (series : List ℚ) :
    ∀ late ∈ firstDetection series threshold drift,
      ∃ early ∈ firstDetection series keenThreshold keenDrift, early ≤ late := by
  intro late detected
  have start : NoLessKeen (new keenThreshold keenDrift) (new threshold drift) :=
    ⟨thresholds, drifts, le_rfl, le_rfl, rfl, rfl, rfl⟩
  rw [firstDetection, detectFanGrowthShifts_eq] at detected
  obtain ⟨latePoint, lateFirst, rfl⟩ := Option.mem_map.mp detected
  obtain ⟨earlyPoint, earlyFirst, earlier⟩ := start.head?_le series latePoint lateFirst
  refine ⟨earlyPoint.timestamp, ?_, earlier⟩
  rw [firstDetection, detectFanGrowthShifts_eq]
  exact Option.mem_map_of_mem _ earlyFirst

end Keenness

theorem changePoints_observe (detector : ChangePointDetector) (value : ℚ) :
    (detector.observe value).1.changePoints =
      detector.changePoints ++ (detector.observe value).2.toList := by
  rcases detector.observe_cases value with
    isFirst | ⟨later, ⟨direction, magnitude, shifts⟩ | quiet⟩
  · rw [observe_first isFirst]
    exact (List.append_nil _).symm
  · rw [observe_shift later shifts]
    rfl
  · rw [observe_quiet later quiet]
    exact (List.append_nil _).symm

theorem changePoints_observed (threshold drift : ℚ) (series : List ℚ) :
    (observed threshold drift series).changePoints =
      detectFanGrowthShifts series threshold drift := by
  rw [detectFanGrowthShifts_eq]
  exact observing.log_invariant (fun reports state => state.changePoints = reports.reduceOption)
      (fun reports state value kept => by
        rw [List.reduceOption_append, List.reduceOption_singleton, ← kept]
        exact changePoints_observe state value)
      [] rfl series

/-- What a detector of a threshold and a drift does with a sequence. -/
structure DetectorLaws
    (threshold drift : ℚ)
    (series : List ℚ) : Prop where
  sums : WithinThreshold threshold drift (observed threshold drift series)
  baseline :
    (observed threshold drift series).baselineMean =
      mean id
        (series.drop (observed threshold drift series).regimeStart)
  detected :
    (observed threshold drift series).changePoints =
      detectFanGrowthShifts series threshold drift
  mirrored :
    detectFanGrowthShifts (series.map Neg.neg) threshold drift =
      (detectFanGrowthShifts series threshold drift).map ChangePoint.mirrored
  inBand :
    ∀ low,
      (∀ value ∈ series, low ≤ value ∧ value ≤ low + drift) →
      detectFanGrowthShifts series threshold drift = []
  keener :
    ∀ keenThreshold keenDrift,
      keenThreshold ≤ threshold →
      keenDrift ≤ drift →
      ∀ late ∈ firstDetection series threshold drift,
        ∃ early ∈ firstDetection series keenThreshold keenDrift,
          early ≤ late

theorem detectorLaws
    {threshold drift : ℚ}
    (positive : 0 < threshold)
    (nonnegative : 0 ≤ drift)
    (series : List ℚ) :
    DetectorLaws threshold drift series where
  sums := observed_withinThreshold positive series
  baseline := (observed_tracksBaseline threshold drift series).baselineMean
  detected := changePoints_observed threshold drift series
  mirrored := detectFanGrowthShifts_map_neg positive nonnegative series
  inBand _ inside := detectFanGrowthShifts_of_inBand positive inside
  keener _ _ thresholds drifts := firstDetection_le thresholds drifts series

/-- A sudden rise and a sudden fall. -/
theorem detectorLaws_riseAndFall :
    (detectFanGrowthShifts [5, 5, 20, 20, 1] 10 2).map
        (fun point => (point.timestamp, point.direction)) =
      [(2, .upward), (4, .downward)] ∧
      DetectorLaws 10 2 [5, 5, 20, 20, 1] :=
  ⟨by decide +kernel, detectorLaws (by norm_num) (by norm_num) _⟩

end CrowdRelay
