import CrowdRelay.Extremes
import CrowdRelay.ObjectiveVerdict

namespace CrowdRelay

open MachineInt Ranged Extremes

/-!
# Tracked metrics and what their movement is worth

The observations of a series are read into a trend: how it moved over a day, a
week and four weeks, and how fast.  The rule then holds, or raises the series
as declining, stalled, surging or silent.  A division by zero is no answer.
-/

inductive MetricValueTier where
  | vanity
  | intermediate
  | downstream
  deriving Repr, DecidableEq

def MetricValueTier.weight : MetricValueTier → U16
  | .vanity => 20
  | .intermediate => 55
  | .downstream => 100

/-- One absolute observation. -/
structure MetricPoint where
  capturedAt : OffsetDateTime
  value : I64
  deriving Repr, DecidableEq

/-- Derived movement of one series, whichever way is better. -/
structure MetricTrend where
  latestValue : I64
  latestAt : OffsetDateTime
  delta24h : Option I64
  delta7d : Option I64
  delta28d : Option I64
  velocityMilliPerDay : Option I64
  baselineMilliPerDay : Option I64
  velocityRatioBasisPoints : Option U32
  pointsInWindow : U32
  ageSeconds : I64
  deriving Repr, DecidableEq

def rateScale : I64 := 1000

section Trends

variable (points : List MetricPoint)

/-- The newest value at or before a moment, if it is close enough to it. -/
def valueAt (target : OffsetDateTime)
    (toleranceHours : Int) : Option I64 :=
  (maxByKey MetricPoint.capturedAt
    (points.filter fun point =>
      point.capturedAt ≤ target ∧ target - toleranceHours * nanosPerHour ≤ point.capturedAt)).map
    MetricPoint.value

def rateMilliPerDay (delta days : I64) : Option I64 :=
  if days.val ≤ 0 then none else some ((delta.saturatingMul rateScale).truncatedQuotient days)

/-- The observations that are not ahead of the clock. -/
def usablePoints (now : OffsetDateTime) : List MetricPoint :=
  points.filter fun point => point.capturedAt ≤ now

/-- How far the latest value moved over some hours. -/
def deltaOver (now : OffsetDateTime) (latest : MetricPoint)
    (windowHours toleranceHours : Int) : Option I64 :=
  (valueAt (usablePoints points now) (now - windowHours * nanosPerHour)
    toleranceHours).map fun past => latest.value.saturatingSub past

/-- The trend of one series from its observations, in whatever order. -/
def computeTrend (now : OffsetDateTime) : Option MetricTrend :=
  (maxByKey MetricPoint.capturedAt (usablePoints points now)).map
    fun latest =>
      let delta7d := deltaOver points now latest (7 * 24) 42
      let delta28d := deltaOver points now latest (28 * 24) (7 * 24)
      { latestValue := latest.value
        latestAt := latest.capturedAt
        delta24h := deltaOver points now latest 24 6
        delta7d := delta7d
        delta28d := delta28d
        velocityMilliPerDay := delta7d.bind fun delta => rateMilliPerDay delta 7
        baselineMilliPerDay :=
          delta28d.bind fun long =>
            delta7d.bind fun short =>
              rateMilliPerDay (long.saturatingSub short) 21
        velocityRatioBasisPoints := none
        pointsInWindow :=
          (tryFrom
            (((usablePoints points now).filter fun point =>
              now - 28 * 24 * nanosPerHour ≤ point.capturedAt).length : Int)
            : Option U32).getD 4294967295
        ageSeconds := saturate (wholeSeconds latest.capturedAt now) }

end Trends

/-- What the rule needs about one tracked series. -/
structure GrowthMetricSnapshot where
  direction : MetricDirection
  valueTier : MetricValueTier
  expectedIntervalHours : U32
  trend : MetricTrend
  hoursSinceLastSignal : Option U32
  strongerTierTracked : Bool
  deriving Repr, DecidableEq

structure GrowthMetricPolicy where
  minimumPointsInWindow : U32
  staleIntervalBasisPoints : U32
  stallRatioBasisPoints : U32
  surgeRatioBasisPoints : U32
  minimumAbsoluteDelta : I64
  minimumBaselineMilliPerDay : I64
  cooldownHours : U32
  deriving Repr, DecidableEq

def GrowthMetricPolicy.default : GrowthMetricPolicy where
  minimumPointsInWindow := 8
  staleIntervalBasisPoints := 25000
  stallRatioBasisPoints := 4000
  surgeRatioBasisPoints := 20000
  minimumAbsoluteDelta := 25
  minimumBaselineMilliPerDay := 1000
  cooldownHours := 168

inductive GrowthSignal where
  | decline
  | stall
  | surge
  | staleFeed
  deriving Repr, DecidableEq

def GrowthSignal.basePriority : GrowthSignal → U16
  | .decline => 80
  | .stall => 55
  | .surge => 65
  | .staleFeed => 45

structure GrowthOpportunity where
  signal : GrowthSignal
  confidence : Confidence
  priority : U16
  deviationBasisPoints : U32
  deriving Repr, DecidableEq

inductive GrowthMetricDecision where
  | hold
  | raise (opportunity : GrowthOpportunity)
  deriving Repr, DecidableEq

def clampU32 (value : I64) : U32 := (tryFrom (max value.val 0) : Option U32).getD 4294967295

/-- A value at most the greatest of the narrow type. -/
def narrowU16 (value : U32) : U16 := (tryFrom value.val : Option U16).getD 65535

/-- Coverage counts for six tenths and the size of the deviation for four. -/
def confidenceFrom (coveragePoints requiredPoints deviationBasisPoints : U32) :
    Confidence :=
  let required := max requiredPoints 1
  let coverage : U32 := saturate (narrowU16 (min coveragePoints (required.saturatingMul 2))).val
  let coverageBp :=
    min
      (((coverage.saturatingMul 6000).checkedDiv (required.saturatingMul 2)).getD 0)
      6000
  let strengthBp := min (deviationBasisPoints.quotient 5) 4000
  saturate (narrowU16 (coverageBp.saturatingAdd strengthBp)).val

def priorityFrom (signal : GrowthSignal) (tier : MetricValueTier)
    (deviationBasisPoints : U32) : U16 :=
  let magnitude := min (narrowU16 (deviationBasisPoints.quotient 2000)) 10
  let tierBonus := tier.weight.quotient 10
  min
    ((signal.basePriority.saturatingAdd magnitude).saturatingAdd tierBonus)
    100

/-- The movement of a series, oriented so that positive means better. -/
structure Movement where
  velocity : I64
  baseline : I64
  delta : I64
  deriving Repr, DecidableEq

/-- The movement of a trend, if it reaches back far enough. -/
def MetricTrend.movement (trend : MetricTrend)
    (direction : MetricDirection) : Option Movement :=
  trend.velocityMilliPerDay.bind fun velocity =>
    trend.baselineMilliPerDay.bind fun baseline =>
      trend.delta7d.map fun delta =>
        { velocity := direction.orient velocity
          baseline := direction.orient baseline
          delta := direction.orient delta }

section Evaluation

variable (snapshot : GrowthMetricSnapshot) (policy : GrowthMetricPolicy)

def GrowthMetricSnapshot.expectedSeconds : I64 :=
  (saturate snapshot.expectedIntervalHours.val : I64).saturatingMul 3600

/-- How many seconds may pass before the feed counts as dead. -/
def staleAfter : I64 :=
  (snapshot.expectedSeconds.saturatingMul
    (saturate policy.staleIntervalBasisPoints.val)).truncatedQuotient 10000

def feedIsStale : Bool :=
  0 < staleAfter snapshot policy && staleAfter snapshot policy < snapshot.trend.ageSeconds

def raiseStaleFeed : GrowthOpportunity :=
  let overdueBp :=
    clampU32
      ((snapshot.trend.ageSeconds.saturatingMul 10000).truncatedQuotient
        (max snapshot.expectedSeconds 1))
  { signal := .staleFeed
    confidence :=
      saturate (narrowU16 (min ((5000 : U32).saturatingAdd (overdueBp.quotient 10)) 10000)).val
    priority := priorityFrom .staleFeed snapshot.valueTier overdueBp
    deviationBasisPoints := overdueBp }

def raiseSignal (signal : GrowthSignal)
    (deviationBasisPoints : U32) : GrowthOpportunity where
  signal := signal
  confidence :=
    confidenceFrom snapshot.trend.pointsInWindow policy.minimumPointsInWindow deviationBasisPoints
  priority := priorityFrom signal snapshot.valueTier deviationBasisPoints
  deviationBasisPoints := deviationBasisPoints

def ratioBasisPoints (amount baseline : I64) : Option U32 :=
  ((amount.saturatingMul 10000).checkedDiv baseline).map clampU32

/-- How far an outright reversal is from the baseline. -/
def declineDeviation (movement : Movement) : Option U32 :=
  if 0 < movement.baseline then
    ratioBasisPoints
      (movement.velocity.saturatingSub movement.baseline).saturatingAbs
      movement.baseline
  else
    some 10000

def signalOf (ratio : U32) : Option GrowthSignal :=
  if ratio ≤ policy.stallRatioBasisPoints then
    some .stall
  else if policy.surgeRatioBasisPoints ≤ ratio then
    some .surge
  else
    none

def judgeMovement (movement : Movement) : Option GrowthMetricDecision :=
  if movement.delta.saturatingAbs < policy.minimumAbsoluteDelta then
    some .hold
  else if movement.velocity < 0 then
    (declineDeviation movement).map fun deviation =>
      .raise (raiseSignal snapshot policy .decline deviation)
  else if movement.baseline < policy.minimumBaselineMilliPerDay then
    some .hold
  else
    (ratioBasisPoints movement.velocity movement.baseline).map fun ratio =>
      match signalOf policy ratio with
      | none => .hold
      | some signal =>
        .raise (raiseSignal snapshot policy signal (ratio.absDiff 10000))

/-- Whether one series is worth acting on, unless that divides by zero. -/
def evaluateGrowthMetric : Option GrowthMetricDecision :=
  if snapshot.hoursSinceLastSignal.any (· < policy.cooldownHours) then
    some .hold
  else if feedIsStale snapshot policy then
    some (.raise (raiseStaleFeed snapshot))
  else if snapshot.trend.pointsInWindow < policy.minimumPointsInWindow then
    some .hold
  else if snapshot.strongerTierTracked ∧ snapshot.valueTier = .vanity then
    some .hold
  else
    match snapshot.trend.movement snapshot.direction with
    | none => some .hold
    | some movement => judgeMovement snapshot policy movement

end Evaluation

/-!
## When the metric rule answers, and in the mirror

The rule divides by the baseline of a series once it is not below the least
baseline of the policy, so a policy whose least baseline is not positive lets
a baseline of zero through.  What the rule answers does not depend on which
way is better: a negated series is answered as the series is.
-/

/-- The same observation of the negated series. -/
def MetricPoint.negated (point : MetricPoint) : MetricPoint :=
  { point with value := saturate (-point.value.val) }

/-- The values can be negated, and so can the difference of any two of them. -/
structure NoExtremes (points : List MetricPoint) : Prop where
  values : ∀ point ∈ points, point.value.val ≠ -9223372036854775808
  differences :
    ∀ one ∈ points, ∀ other ∈ points,
      one.value.val - other.value.val ≤ 9223372036854775807

/-- The same series, negated, where the other way is better. -/
structure GrowthMetricSnapshot.Mirrors
    (snapshot other : GrowthMetricSnapshot) : Prop where
  direction : other.direction = snapshot.direction.flipped
  valueTier : other.valueTier = snapshot.valueTier
  expectedIntervalHours :
    other.expectedIntervalHours = snapshot.expectedIntervalHours
  hoursSinceLastSignal :
    other.hoursSinceLastSignal = snapshot.hoursSinceLastSignal
  strongerTierTracked :
    other.strongerTierTracked = snapshot.strongerTierTracked

/-- The rule answers on a trend of these observations, and answers the negated
ones alike. -/
structure RulesEvenly
    (policy : GrowthMetricPolicy)
    (snapshot : GrowthMetricSnapshot)
    (points : List MetricPoint)
    (now : OffsetDateTime) : Prop where
  answers : ∃ decision, evaluateGrowthMetric snapshot policy = some decision
  mirrored :
    NoExtremes points →
      ∀ other,
        computeTrend (points.map MetricPoint.negated) now =
            some other.trend →
          snapshot.Mirrors other →
            evaluateGrowthMetric other policy =
              evaluateGrowthMetric snapshot policy

/-- The series has nothing to say before its movement is judged, moves enough
the right way, has no baseline, and nothing else keeps it from the ratio. -/
structure DividesByZero
    (policy : GrowthMetricPolicy)
    (snapshot : GrowthMetricSnapshot) : Prop where
  quiet :
    ¬ snapshot.hoursSinceLastSignal.any (· < policy.cooldownHours) = true
  fresh : ¬ feedIsStale snapshot policy = true
  covered : policy.minimumPointsInWindow ≤ snapshot.trend.pointsInWindow
  heard :
    ¬ (snapshot.strongerTierTracked = true ∧ snapshot.valueTier = .vanity)
  flat :
    ∃ movement,
      snapshot.trend.movement snapshot.direction = some movement ∧
        policy.minimumAbsoluteDelta ≤ movement.delta.saturatingAbs ∧
        0 ≤ movement.velocity ∧ movement.baseline.val = 0
  unguarded : policy.minimumBaselineMilliPerDay.val ≤ 0

section Answers

variable {policy : GrowthMetricPolicy} {snapshot : GrowthMetricSnapshot} {movement : Movement}

theorem ratioBasisPoints_eq_none_iff {amount baseline : I64} :
    ratioBasisPoints amount baseline = none ↔ baseline.val = 0 := by
  rw [ratioBasisPoints, Option.map_eq_none_iff, checkedDiv_eq_none_iff]

theorem declineDeviation_ne_none : declineDeviation movement ≠ none := by
  unfold declineDeviation
  split
  next positive =>
    rw [ne_eq, ratioBasisPoints_eq_none_iff]
    have above := lt_iff_val.mp positive
    exact above.ne'
  · exact Option.some_ne_none _

/-- A known movement is not answered exactly if it is a rise on no baseline
that the policy lets through. -/
theorem judgeMovement_eq_none_iff :
    judgeMovement snapshot policy movement = none ↔
      policy.minimumAbsoluteDelta ≤ movement.delta.saturatingAbs ∧
        0 ≤ movement.velocity ∧ movement.baseline.val = 0 ∧
        policy.minimumBaselineMilliPerDay.val ≤ 0 := by
  unfold judgeMovement
  split
  next small => exact iff_of_false nofun fun flat => not_le.mpr small flat.1
  next enough =>
    split
    next reversal =>
      rw [Option.map_eq_none_iff]
      exact iff_of_false declineDeviation_ne_none fun flat =>
        not_le.mpr reversal flat.2.1
    next forward =>
      split
      next low =>
        refine iff_of_false nofun fun flat => ?_
        have below := lt_iff_val.mp low
        rw [flat.2.2.1] at below
        exact not_le.mpr below flat.2.2.2
      next high =>
        rw [Option.map_eq_none_iff, ratioBasisPoints_eq_none_iff]
        constructor
        · intro noBaseline
          have bar := le_iff_val.mp (not_lt.mp high)
          rw [noBaseline] at bar
          exact ⟨not_lt.mp enough, not_lt.mp forward, noBaseline, bar⟩
        · intro flat
          exact flat.2.2.1

/-- The rule does not answer exactly where it divides by zero. -/
theorem evaluateGrowthMetric_eq_none_iff :
    evaluateGrowthMetric snapshot policy = none ↔ DividesByZero policy snapshot := by
  unfold evaluateGrowthMetric
  split
  next cooling => exact iff_of_false nofun fun divides => divides.quiet cooling
  next quiet =>
    split
    next stale => exact iff_of_false nofun fun divides => divides.fresh stale
    next fresh =>
      split
      next sparse =>
        exact iff_of_false nofun fun divides =>
          not_le.mpr sparse divides.covered
      next covered =>
        split
        next suppressed =>
          exact iff_of_false nofun fun divides => divides.heard suppressed
        next heard =>
          split
          next unknown =>
            refine iff_of_false nofun fun divides => ?_
            obtain ⟨movement, isMovement, _⟩ := divides.flat
            rw [unknown] at isMovement
            cases isMovement
          next movement isMovement =>
            rw [judgeMovement_eq_none_iff]
            constructor
            · rintro ⟨enough, forward, noBaseline, bar⟩
              exact ⟨quiet, fresh, not_lt.mp covered, heard,
                ⟨movement, isMovement, enough, forward, noBaseline⟩, bar⟩
            · intro divides
              obtain ⟨other, isOther, enough, forward, noBaseline⟩ := divides.flat
              rw [isMovement] at isOther
              cases isOther
              exact ⟨enough, forward, noBaseline, divides.unguarded⟩

end Answers

/-- One value is the other, negated. -/
def Opposite (first second : I64) : Prop := second.val = -first.val

section Opposites

variable {first second : I64} {days : Int}

theorem orient_flipped (direction : MetricDirection) (opposite : Opposite first second) :
    direction.flipped.orient second = direction.orient first := by
  refine val_injective ?_
  have lower := first.lower
  have upper := first.upper
  have otherLower := second.lower
  have otherUpper := second.upper
  unfold Opposite at opposite
  cases direction with
  | higherIsBetter =>
    simp only [MetricDirection.flipped, MetricDirection.orient, val_saturate]
    omega
  | lowerIsBetter =>
    simp only [MetricDirection.flipped, MetricDirection.orient, val_saturate]
    omega

theorem Opposite.sub {other otherSecond : I64} (opposite : Opposite first second)
    (oppositeToo : Opposite other otherSecond)
    (forward : first.val - other.val ≤ 9223372036854775807)
    (backward : other.val - first.val ≤ 9223372036854775807) :
    Opposite (first.saturatingSub other) (second.saturatingSub otherSecond) := by
  simp only [Opposite, val_saturatingSub] at *
  omega

theorem tdiv_of_nonpos {value : Int} (nonpositive : value ≤ 0) (divisor : Int) :
    value.tdiv divisor = -(-value / divisor) := by
  rw [← Int.tdiv_eq_ediv_of_nonneg (Int.neg_nonneg.mpr nonpositive), Int.neg_tdiv, Int.neg_neg]

/-- Cutting a negated amount off at the ends of the type changes its rate over
a week or three by nothing but the sign. -/
theorem tdiv_clamped_neg (isDays : days = 7 ∨ days = 21) (amount : Int) :
    (max (-9223372036854775808) (min 9223372036854775807 (-amount))).tdiv days =
      -((max (-9223372036854775808) (min 9223372036854775807 amount)).tdiv days) := by
  rcases Int.le_total 0 amount with nonnegative | nonpositive
  · have negated : max (-9223372036854775808) (min 9223372036854775807 (-amount)) ≤ 0 := by
      omega
    have plain : 0 ≤ max (-9223372036854775808) (min 9223372036854775807 amount) := by
      omega
    rw [tdiv_of_nonpos negated, Int.tdiv_eq_ediv_of_nonneg plain]
    rcases isDays with rfl | rfl
    · omega
    · omega
  · have negated :
        0 ≤ max (-9223372036854775808) (min 9223372036854775807 (-amount)) := by
      omega
    have plain : max (-9223372036854775808) (min 9223372036854775807 amount) ≤ 0 := by
      omega
    rw [Int.tdiv_eq_ediv_of_nonneg negated, tdiv_of_nonpos plain]
    rcases isDays with rfl | rfl
    · omega
    · omega

theorem tdiv_bounds (isDays : days = 7 ∨ days = 21) (value : I64) :
    -9223372036854775807 ≤ value.val.tdiv days ∧ value.val.tdiv days ≤ 9223372036854775807 := by
  have lower := value.lower
  have upper := value.upper
  rcases Int.le_total 0 value.val with nonnegative | nonpositive
  · rw [Int.tdiv_eq_ediv_of_nonneg nonnegative]
    rcases isDays with rfl | rfl
    · omega
    · omega
  · rw [tdiv_of_nonpos nonpositive]
    rcases isDays with rfl | rfl
    · omega
    · omega

theorem rateMilliPerDay_opposite (opposite : Opposite first second) {days : I64}
    (isDays : days.val = 7 ∨ days.val = 21) :
    Option.Rel Opposite (rateMilliPerDay first days) (rateMilliPerDay second days) := by
  have someDays : ¬ days.val ≤ 0 := by
    omega
  have rated := tdiv_clamped_neg isDays (first.val * rateScale.val)
  unfold rateMilliPerDay
  rw [if_neg someDays, if_neg someDays]
  refine Option.Rel.some ?_
  unfold Opposite at opposite ⊢
  simp only [truncatedQuotient, saturatingMul, val_saturate]
  rw [opposite, Int.neg_mul, rated]
  have bounds := tdiv_bounds isDays (first.saturatingMul rateScale)
  simp only [saturatingMul, val_saturate] at bounds
  omega

end Opposites

section Trends

variable {points : List MetricPoint} {now : OffsetDateTime}

theorem maxByKey_negated (points : List MetricPoint) :
    maxByKey MetricPoint.capturedAt (points.map MetricPoint.negated) =
      (maxByKey MetricPoint.capturedAt points).map MetricPoint.negated :=
  maxBy_map fun _ _ _ _ => rfl

theorem usablePoints_negated (points : List MetricPoint) :
    usablePoints (points.map MetricPoint.negated) now =
      (usablePoints points now).map MetricPoint.negated := by
  rw [usablePoints, usablePoints, List.filter_map]
  rfl

/-- What a window finds is one of the observations, negated or not. -/
theorem valueAt_negated (points : List MetricPoint) (target : OffsetDateTime)
    (toleranceHours : Int) :
    (valueAt points target toleranceHours = none ∧
        valueAt (points.map MetricPoint.negated) target toleranceHours = none) ∨
      ∃ past ∈ points,
        valueAt points target toleranceHours = some past.value ∧
          valueAt (points.map MetricPoint.negated) target toleranceHours =
            some past.negated.value := by
  have sameWindow :
      (points.map MetricPoint.negated).filter
          (fun point =>
            point.capturedAt ≤ target ∧ target - toleranceHours * nanosPerHour ≤ point.capturedAt) =
        (points.filter
          (fun point =>
            point.capturedAt ≤ target ∧
              target - toleranceHours * nanosPerHour ≤
                point.capturedAt)).map MetricPoint.negated := by
    rw [List.filter_map]
    rfl
  unfold valueAt
  rw [sameWindow, maxByKey_negated]
  cases isPast :
      maxByKey MetricPoint.capturedAt
        (points.filter fun point =>
          point.capturedAt ≤ target ∧
            target - toleranceHours * nanosPerHour ≤ point.capturedAt) with
  | none => exact Or.inl ⟨rfl, rfl⟩
  | some past =>
    exact Or.inr ⟨past, List.mem_of_mem_filter (maxBy_mem isPast), rfl, rfl⟩

/-- A difference of observations is computed exactly, and so is the opposite
one. -/
theorem NoExtremes.difference (plain : NoExtremes points) {latest past : MetricPoint}
    (latestMember : latest ∈ points) (pastMember : past ∈ points) :
    (latest.value.saturatingSub past.value).val = latest.value.val - past.value.val ∧
      Opposite (latest.value.saturatingSub past.value)
        (latest.negated.value.saturatingSub past.negated.value) := by
  have forward := plain.differences latest latestMember past pastMember
  have backward := plain.differences past pastMember latest latestMember
  have latestPlain := plain.values latest latestMember
  have pastPlain := plain.values past pastMember
  have latestLower := latest.value.lower
  have pastLower := past.value.lower
  have latestUpper := latest.value.upper
  have pastUpper := past.value.upper
  simp only [Opposite, MetricPoint.negated, val_saturatingSub, val_saturate]
  omega

theorem deltaOver_negated (points : List MetricPoint) (now : OffsetDateTime)
    (latest : MetricPoint) (windowHours toleranceHours : Int) :
    (deltaOver points now latest windowHours toleranceHours = none ∧
        deltaOver (points.map MetricPoint.negated) now latest.negated windowHours toleranceHours =
          none) ∨
      ∃ past ∈ points,
        deltaOver points now latest windowHours toleranceHours =
            some (latest.value.saturatingSub past.value) ∧
          deltaOver (points.map MetricPoint.negated) now latest.negated windowHours toleranceHours =
            some (latest.negated.value.saturatingSub past.negated.value) := by
  unfold deltaOver
  rw [usablePoints_negated]
  rcases valueAt_negated (usablePoints points now)
      (now - windowHours * nanosPerHour) toleranceHours with
    ⟨unknown, unknownToo⟩ | ⟨past, member, known, knownToo⟩
  · rw [unknown, unknownToo]
    exact Or.inl ⟨rfl, rfl⟩
  · rw [known, knownToo]
    exact Or.inr ⟨past, List.mem_of_mem_filter member, rfl, rfl⟩

/-- The movements of a trend and those of the negated one. -/
structure MetricTrend.Mirrors (trend other : MetricTrend) : Prop where
  delta7d : Option.Rel Opposite trend.delta7d other.delta7d
  velocity :
    Option.Rel Opposite trend.velocityMilliPerDay other.velocityMilliPerDay
  baseline :
    Option.Rel Opposite trend.baselineMilliPerDay other.baselineMilliPerDay
  pointsInWindow : other.pointsInWindow = trend.pointsInWindow
  ageSeconds : other.ageSeconds = trend.ageSeconds

theorem computeTrend_negated (plain : NoExtremes points) {trend : MetricTrend}
    (isTrend : computeTrend points now = some trend) :
    ∃ other,
      computeTrend (points.map MetricPoint.negated) now = some other ∧ trend.Mirrors other := by
  obtain ⟨latest, isLatest, rfl⟩ := Option.map_eq_some_iff.mp isTrend
  have latestMember : latest ∈ points := List.mem_of_mem_filter (maxBy_mem isLatest)
  have isNegated :
      maxByKey MetricPoint.capturedAt (usablePoints (points.map MetricPoint.negated) now) =
        some latest.negated := by
    rw [usablePoints_negated, maxByKey_negated, isLatest]
    rfl
  refine ⟨_, Option.map_eq_some_iff.mpr ⟨_, isNegated, rfl⟩, ?_⟩
  have week := deltaOver_negated points now latest (7 * 24) 42
  have month := deltaOver_negated points now latest (28 * 24) (7 * 24)
  have days : (7 : I64).val = 7 ∧ (21 : I64).val = 21 := by
    decide
  have sameWindow :
      ((usablePoints (points.map MetricPoint.negated) now).filter fun point =>
          now - 28 * 24 * nanosPerHour ≤ point.capturedAt).length =
        ((usablePoints points now).filter fun point =>
          now - 28 * 24 * nanosPerHour ≤ point.capturedAt).length := by
    rw [usablePoints_negated, List.filter_map, List.length_map]
    rfl
  constructor
  · dsimp only
    rcases week with ⟨unknown, unknownToo⟩ | ⟨past, member, known, knownToo⟩
    · rw [unknown, unknownToo]
      exact Option.Rel.none
    · rw [known, knownToo]
      exact Option.Rel.some (plain.difference latestMember member).2
  · dsimp only
    rcases week with ⟨unknown, unknownToo⟩ | ⟨past, member, known, knownToo⟩
    · rw [unknown, unknownToo]
      exact Option.Rel.none
    · rw [known, knownToo]
      exact rateMilliPerDay_opposite (plain.difference latestMember member).2 (Or.inl days.1)
  · dsimp only
    rcases month with ⟨unknown, unknownToo⟩ | ⟨old, oldMember, known, knownToo⟩
    · rw [unknown, unknownToo]
      exact Option.Rel.none
    · rw [known, knownToo]
      rcases week with ⟨blank, blankToo⟩ | ⟨past, member, seen, seenToo⟩
      · rw [blank, blankToo]
        exact Option.Rel.none
      · rw [seen, seenToo]
        refine rateMilliPerDay_opposite ?_ (Or.inr days.2)
        -- What lies between the windows is a difference of observations too.
        obtain ⟨long, longOpposite⟩ := plain.difference latestMember oldMember
        obtain ⟨short, shortOpposite⟩ := plain.difference latestMember member
        have forward := plain.differences past member old oldMember
        have backward := plain.differences old oldMember past member
        exact longOpposite.sub shortOpposite (by omega) (by omega)
  · dsimp only
    rw [sameWindow]
  · rfl

theorem movement_mirrors {trend other : MetricTrend} (mirrors : trend.Mirrors other)
    (direction : MetricDirection) :
    other.movement direction.flipped = trend.movement direction := by
  obtain ⟨delta, velocity, baseline, _, _⟩ := mirrors
  unfold MetricTrend.movement
  generalize trend.velocityMilliPerDay = velocities,
    other.velocityMilliPerDay = otherVelocities at velocity ⊢
  generalize trend.baselineMilliPerDay = baselines,
    other.baselineMilliPerDay = otherBaselines at baseline ⊢
  generalize trend.delta7d = deltas, other.delta7d = otherDeltas at delta ⊢
  cases velocity with
  | none => rfl
  | some velocity =>
    cases baseline with
    | none => rfl
    | some baseline =>
      cases delta with
      | none => rfl
      | some delta =>
        simp only [Option.bind_some, Option.map_some, orient_flipped direction velocity,
          orient_flipped direction baseline,
          orient_flipped direction delta]

theorem evaluateGrowthMetric_mirrors {policy : GrowthMetricPolicy}
    {snapshot other : GrowthMetricSnapshot} (mirrors : snapshot.Mirrors other)
    (trends : snapshot.trend.Mirrors other.trend) :
    evaluateGrowthMetric other policy = evaluateGrowthMetric snapshot policy := by
  have sameMovement :
      other.trend.movement other.direction = snapshot.trend.movement snapshot.direction := by
    rw [mirrors.direction]
    exact movement_mirrors trends snapshot.direction
  have sameStale : feedIsStale other policy = feedIsStale snapshot policy := by
    unfold feedIsStale staleAfter GrowthMetricSnapshot.expectedSeconds
    rw [mirrors.expectedIntervalHours, trends.ageSeconds]
  have sameFeed : raiseStaleFeed other = raiseStaleFeed snapshot := by
    simp only [raiseStaleFeed, GrowthMetricSnapshot.expectedSeconds,
      mirrors.expectedIntervalHours, trends.ageSeconds, mirrors.valueTier]
  have sameSignal : raiseSignal other policy = raiseSignal snapshot policy := by
    funext signal deviation
    simp only [raiseSignal, trends.pointsInWindow, mirrors.valueTier]
  have sameJudgement : judgeMovement other policy = judgeMovement snapshot policy := by
    funext movement
    simp only [judgeMovement, sameSignal]
  simp only [evaluateGrowthMetric, mirrors.hoursSinceLastSignal, sameStale,
    sameFeed, trends.pointsInWindow, mirrors.strongerTierTracked,
    mirrors.valueTier, sameMovement, sameJudgement]

end Trends

def greatestValue : I64 := 9223372036854775807

/-- A series that stood at zero for weeks and has been seen at the greatest
value this many times by now. -/
def jumpedSeries (times : Nat) : List MetricPoint :=
  ([⟨-28 * 24 * nanosPerHour, 0⟩, ⟨-7 * 24 * nanosPerHour, 0⟩] ++
    List.replicate times ⟨(0 : Int), greatestValue⟩) ++
    [⟨(0 : Int), greatestValue⟩]

/-- A series of banked outcomes that was never raised and has no cadence. -/
def freshSnapshot (trend : MetricTrend) : GrowthMetricSnapshot where
  direction := .higherIsBetter
  valueTier := .downstream
  expectedIntervalHours := 0
  trend := trend
  hoursSinceLastSignal := none
  strongerTierTracked := false

theorem jumpedSeries_past (times : Nat) {point : MetricPoint}
    (member : point ∈ jumpedSeries times) :
    -28 * 24 * nanosPerHour ≤ point.capturedAt ∧ point.capturedAt ≤ (0 : Int) := by
  have span : (0 : Int) ≤ nanosPerHour := by
    decide
  simp only [jumpedSeries, List.mem_append, List.mem_cons,
    List.mem_replicate, List.not_mem_nil, or_false] at member
  have inWindow :
      ∀ capturedAt : Int,
        capturedAt = -28 * 24 * nanosPerHour ∨
            capturedAt = -7 * 24 * nanosPerHour ∨ capturedAt = 0 →
          -28 * 24 * nanosPerHour ≤ capturedAt ∧ capturedAt ≤ 0 := by
    intro capturedAt isOne
    omega
  apply inWindow
  rcases member with ((rfl | rfl) | ⟨_, rfl⟩) | rfl <;> simp

theorem valueAt_jumpedSeries (times : Nat) :
    valueAt (jumpedSeries times) (0 - 7 * 24 * nanosPerHour) 42 = some 0 ∧
      valueAt (jumpedSeries times) (0 - 28 * 24 * nanosPerHour) (7 * 24) = some 0 := by
  have now :
      ¬ ((0 : Int) ≤ 0 - 7 * 24 * nanosPerHour) ∧ ¬ ((0 : Int) ≤ 0 - 28 * 24 * nanosPerHour) := by
    decide
  constructor
  · simp only [valueAt, jumpedSeries, List.filter_append,
      List.filter_replicate, now.1, false_and, decide_false,
      Bool.false_eq_true, if_false, List.append_nil]
    decide +kernel
  · simp only [valueAt, jumpedSeries, List.filter_append,
      List.filter_replicate, now.2, false_and, decide_false,
      Bool.false_eq_true, if_false, List.append_nil]
    decide +kernel

theorem computeTrend_jumpedSeries (times : Nat) :
    ∃ trend,
      computeTrend (jumpedSeries times) 0 = some trend ∧
        trend.movement .higherIsBetter = some
            { velocity :=
                (greatestValue.saturatingMul rateScale).truncatedQuotient 7
              baseline := 0
              delta := greatestValue } ∧
        trend.pointsInWindow = (tryFrom ((jumpedSeries times).length : Int) : Option U32).getD
            4294967295 := by
  have usable : usablePoints (jumpedSeries times) 0 = jumpedSeries times := by
    refine List.filter_eq_self.mpr fun point member => ?_
    exact decide_eq_true (jumpedSeries_past times member).2
  have inWindow :
      ((jumpedSeries times).filter fun point =>
          (0 : Int) - 28 * 24 * nanosPerHour ≤ point.capturedAt) =
        jumpedSeries times := by
    refine List.filter_eq_self.mpr fun point member => decide_eq_true ?_
    have past := (jumpedSeries_past times member).1
    omega
  have isLatest :
      maxByKey MetricPoint.capturedAt (jumpedSeries times) = some ⟨(0 : Int), greatestValue⟩ := by
    refine maxByKey_concat_of_greatest fun point member => ?_
    exact (jumpedSeries_past times (List.mem_append_left _ member)).2
  obtain ⟨week, month⟩ := valueAt_jumpedSeries times
  rw [← usable] at isLatest
  refine ⟨_, Option.map_eq_some_iff.mpr ⟨_, isLatest, rfl⟩, ?_, ?_⟩
  · simp only [deltaOver, usable, week, month, MetricTrend.movement,
      Option.map_some, Option.bind_some]
    decide +kernel
  · dsimp only
    rw [usable, inWindow]

theorem dividesByZero_jumpedSeries {policy : GrowthMetricPolicy}
    (unguarded : policy.minimumBaselineMilliPerDay.val ≤ 0) :
    ∃ trend,
      computeTrend (jumpedSeries policy.minimumPointsInWindow.val.toNat) 0 = some trend ∧
        DividesByZero policy (freshSnapshot trend) := by
  obtain ⟨trend, isTrend, moves, counted⟩ :=
    computeTrend_jumpedSeries policy.minimumPointsInWindow.val.toNat
  refine ⟨trend, isTrend, ⟨nofun, ?_, ?_, by simp [freshSnapshot], ?_, unguarded⟩⟩
  · have noCadence : staleAfter (freshSnapshot trend) policy = 0 := by
      have zero : (freshSnapshot trend).expectedSeconds.val = 0 := rfl
      refine val_injective ?_
      rw [staleAfter, truncatedQuotient, saturatingMul, val_saturate,
        val_saturate, zero, Int.zero_mul]
      decide
    simp [feedIsStale, noCadence]
  · show _ ≤ trend.pointsInWindow
    rw [counted, le_iff_val]
    have lower := policy.minimumPointsInWindow.lower
    cases fits :
        (tryFrom
          ((jumpedSeries policy.minimumPointsInWindow.val.toNat).length : Int) : Option U32) with
    | none => exact policy.minimumPointsInWindow.upper
    | some count =>
      have isCount := tryFrom_eq_some_iff.mp fits
      simp only [Option.getD_some, isCount, jumpedSeries,
        List.length_append, List.length_cons, List.length_nil,
        List.length_replicate]
      omega
  · refine ⟨_, moves, ?_, by decide +kernel, rfl⟩
    have isGreatest : greatestValue.saturatingAbs.val = 9223372036854775807 := by
      decide
    rw [le_iff_val, isGreatest]
    exact policy.minimumAbsoluteDelta.upper

/-- The rule answers, and answers in the mirror, unless it divides by zero; and
it does so on every trend exactly if the least baseline is positive. -/
theorem growth_metric_rules_evenly_iff (policy : GrowthMetricPolicy) :
    (∀ snapshot points now,
        computeTrend points now = some snapshot.trend →
          (RulesEvenly policy snapshot points now ↔ ¬ DividesByZero policy snapshot)) ∧
      ((∀ snapshot points now,
          computeTrend points now = some snapshot.trend → RulesEvenly policy snapshot points now) ↔
        0 < policy.minimumBaselineMilliPerDay.val) := by
  have each :
      ∀ snapshot points now,
        computeTrend points now = some snapshot.trend →
          (RulesEvenly policy snapshot points now ↔ ¬ DividesByZero policy snapshot) := by
    intro snapshot points now isTrend
    rw [← evaluateGrowthMetric_eq_none_iff]
    constructor
    · intro rules unanswered
      obtain ⟨decision, answered⟩ := rules.answers
      rw [unanswered] at answered
      cases answered
    · intro answered
      refine ⟨Option.ne_none_iff_exists'.mp answered, ?_⟩
      intro plain other isOther mirrors
      obtain ⟨trend, isMirrored, trends⟩ := computeTrend_negated plain isTrend
      rw [isMirrored, Option.some.injEq] at isOther
      rw [isOther] at trends
      exact evaluateGrowthMetric_mirrors mirrors trends
  refine ⟨each, ?_⟩
  constructor
  · intro always
    by_contra notPositive
    obtain ⟨trend, isTrend, divides⟩ := dividesByZero_jumpedSeries (not_lt.mp notPositive)
    have rules := always (freshSnapshot trend) _ 0 isTrend
    exact (each (freshSnapshot trend) _ 0 isTrend).mp rules divides
  · intro positive snapshot points now isTrend
    refine (each snapshot points now isTrend).mpr fun divides => ?_
    exact not_le.mpr positive divides.unguarded

/-- The default thresholds, with a least baseline of zero and no coverage asked
for. -/
def unguardedPolicy : GrowthMetricPolicy :=
  { GrowthMetricPolicy.default with
    minimumPointsInWindow := 3
    minimumBaselineMilliPerDay := 0 }

/-- A thousand followers for weeks, and eleven hundred now. -/
def flatThenRising : List MetricPoint := [
  ⟨-28 * 24 * nanosPerHour, 1000⟩,
  ⟨-7 * 24 * nanosPerHour, 1000⟩,
  ⟨(0 : Int), 1100⟩]

def flatTrend : MetricTrend where
  latestValue := 1100
  latestAt := 0
  delta24h := none
  delta7d := some 100
  delta28d := some 100
  velocityMilliPerDay := some 14285
  baselineMilliPerDay := some 0
  velocityRatioBasisPoints := none
  pointsInWindow := 3
  ageSeconds := 0

/-- A series that was flat for three weeks divides by its baseline of zero. -/
theorem flat_series_is_not_answered :
    computeTrend flatThenRising 0 = some flatTrend ∧
      evaluateGrowthMetric (freshSnapshot flatTrend) unguardedPolicy = none ∧
      ¬ RulesEvenly unguardedPolicy (freshSnapshot flatTrend) flatThenRising
        0 := by
  have unanswered : evaluateGrowthMetric (freshSnapshot flatTrend) unguardedPolicy = none := by
    decide +kernel
  refine ⟨by decide +kernel, unanswered, ?_⟩
  intro rules
  obtain ⟨decision, answered⟩ := rules.answers
  rw [unanswered] at answered
  cases answered

end CrowdRelay
