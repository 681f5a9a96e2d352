import Mathlib.Data.Rat.Floor
import Mathlib.Tactic.FieldSimp
import Mathlib.Tactic.Linarith
import Mathlib.Tactic.Ring
import CrowdRelay.ObjectiveRuns

namespace CrowdRelay

open MachineInt Ranged

/-!
# The pace that an objective asks of the brain

The verdict on an objective is carried here unchanged.  From it and the time
that is left follow a pace and the most dispatches a cycle may make: an
objective that is behind may widen the sized budget up to a ceiling, and never
shrinks it.
-/

/-- The operator's objective, with the verdict its series was given. -/
structure ActiveObjective where
  objectiveId : Uuid
  platform : String
  metricKey : String
  direction : MetricDirection
  baselineValue : I64
  targetValue : I64
  observedValue : Option I64
  declaredAt : OffsetDateTime
  deadline : OffsetDateTime
  state : ObjectiveState
  deriving Repr, DecidableEq

inductive GoalPosture where
  | onTrack
  | behind
  deriving Repr, DecidableEq

/-- Only an objective that is still worked toward has a posture. -/
def GoalPosture.of? : ObjectiveState → Option GoalPosture
  | .onTrack _ _ => some .onTrack
  | .behind _ _ _ => some .behind
  | _ => none

/-- The pace an objective implies, in units of its series per day. -/
structure GoalPace where
  objectiveId : Uuid
  posture : GoalPosture
  remaining : I64
  daysRemaining : ℚ
  requiredPerDay : ℚ
  observedPerDay : Option ℚ
  deriving DecidableEq

def secondsPerDay : ℚ := 86400

namespace GoalPace

/-- The pace of an active objective that has an observation. -/
def fromObjective (objective : ActiveObjective)
    (now : OffsetDateTime) : Option GoalPace := do
  let posture ← GoalPosture.of? objective.state
  let observed ← objective.observedValue
  let secondsLeft := (objective.deadline - now).tdiv nanosPerSecond
  if secondsLeft ≤ 0 then
    none
  else
    let daysRemaining := (secondsLeft : ℚ) / secondsPerDay
    let remaining :=
      match objective.state with
      | .behind _ _ shortfall => shortfall
      | _ =>
        max
          (objective.direction.orient (objective.targetValue.saturatingSub observed))
          0
    let travelled := objective.direction.orient (observed.saturatingSub objective.baselineValue)
    let secondsElapsed := (now - objective.declaredAt).tdiv nanosPerSecond
    some
      { objectiveId := objective.objectiveId
        posture := posture
        remaining := remaining
        daysRemaining := daysRemaining
        requiredPerDay := (remaining.val : ℚ) / daysRemaining
        observedPerDay :=
          if 0 < secondsElapsed then
            some ((travelled.val : ℚ) / ((secondsElapsed : ℚ) / secondsPerDay))
          else
            none }

variable (pace : GoalPace)

/-- How many times the observed pace the objective needs.  There is no such
number without a positive pace to divide by. -/
def paceRatio : Option ℚ :=
  (pace.observedPerDay.filter fun observed => 0 < observed).map
    fun observed => pace.requiredPerDay / observed

def suppressesExploration : Bool := pace.posture = .behind

/-- The dispatch ceiling this pace allows. -/
def maxDispatches (base ceiling : U32) : U32 :=
  if pace.posture ≠ .behind then
    base
  else
    let ceiling := max ceiling base
    match pace.paceRatio with
    | some ratio =>
      let raised := ⌈(base.val : ℚ) * ratio⌉
      if raised ≥ ceiling.val then ceiling else min (max (saturate raised) base) ceiling
    | none => ceiling

end GoalPace

namespace GoalPace

section Dispatches

variable {pace worse : GoalPace} {base ceiling : U32}

theorem mem_paceRatio {ratio : ℚ} :
    ratio ∈ pace.paceRatio ↔
      ∃ observed ∈ pace.observedPerDay, 0 < observed ∧ pace.requiredPerDay / observed = ratio := by
  simp only [paceRatio, Option.mem_map, Option.mem_filter_iff, decide_eq_true_eq, and_assoc]

theorem maxDispatches_onTrack (isOnTrack : pace.posture = .onTrack) :
    pace.maxDispatches base ceiling = base := by
  unfold maxDispatches
  rw [isOnTrack, if_pos (by decide)]

theorem maxDispatches_noRatio (isBehind : pace.posture = .behind)
    (noRatio : pace.paceRatio = none) :
    pace.maxDispatches base ceiling = max ceiling base := by
  unfold maxDispatches
  rw [isBehind, if_neg (by decide), noRatio]

theorem val_maxDispatches_ratio (isBehind : pace.posture = .behind) {ratio : ℚ}
    (isRatio : ratio ∈ pace.paceRatio) :
    (pace.maxDispatches base ceiling).val =
      min (max ⌈(base.val : ℚ) * ratio⌉ base.val) (max ceiling.val base.val) := by
  have lower := base.lower
  have upper := (max ceiling base).upper
  rw [val_max] at upper
  unfold maxDispatches
  rw [isBehind, if_neg (by decide), Option.mem_def.mp isRatio]
  dsimp only
  rw [val_max]
  split
  · rw [val_max]
    omega
  · rw [val_min, val_max, val_max, val_saturate]
    omega

theorem base_le_maxDispatches : base ≤ pace.maxDispatches base ceiling := by
  cases posture : pace.posture with
  | onTrack => rw [maxDispatches_onTrack posture]
  | behind =>
    cases isRatio : pace.paceRatio with
    | none =>
      rw [maxDispatches_noRatio posture isRatio]
      exact le_max_right _ _
    | some ratio =>
      rw [le_iff_val, val_maxDispatches_ratio posture isRatio]
      omega

theorem maxDispatches_le : pace.maxDispatches base ceiling ≤ max base ceiling := by
  cases posture : pace.posture with
  | onTrack =>
    rw [maxDispatches_onTrack posture]
    exact le_max_left _ _
  | behind =>
    cases isRatio : pace.paceRatio with
    | none => rw [maxDispatches_noRatio posture isRatio, max_comm]
    | some ratio =>
      rw [le_iff_val, val_maxDispatches_ratio posture isRatio, val_max]
      omega

theorem lt_maxDispatches (isBehind : pace.posture = .behind)
    (tooSlow : ∀ ratio ∈ pace.paceRatio, 1 < ratio) (positive : 1 ≤ base.val)
    (room : base < ceiling) :
    base < pace.maxDispatches base ceiling := by
  rw [lt_iff_val] at room
  cases isRatio : pace.paceRatio with
  | none =>
    rw [maxDispatches_noRatio isBehind isRatio, lt_iff_val, val_max]
    omega
  | some ratio =>
    have scaled : (base.val : ℚ) < base.val * ratio :=
      lt_mul_of_one_lt_right (by exact_mod_cast positive) (tooSlow ratio isRatio)
    have raised : base.val < ⌈(base.val : ℚ) * ratio⌉ := Int.lt_ceil.mpr scaled
    rw [lt_iff_val, val_maxDispatches_ratio isBehind isRatio]
    omega

theorem maxDispatches_le_of_slower (isBehind : worse.posture = .behind)
    (slower : ∀ worseRatio ∈ worse.paceRatio, ∃ ratio ∈ pace.paceRatio, ratio ≤ worseRatio) :
    pace.maxDispatches base ceiling ≤ worse.maxDispatches base ceiling := by
  cases isWorse : worse.paceRatio with
  | none =>
    rw [maxDispatches_noRatio isBehind isWorse, max_comm]
    exact maxDispatches_le
  | some worseRatio =>
    cases posture : pace.posture with
    | onTrack =>
      rw [maxDispatches_onTrack posture]
      exact base_le_maxDispatches
    | behind =>
      obtain ⟨ratio, isRatio, atMost⟩ := slower worseRatio isWorse
      have scaled : ⌈(base.val : ℚ) * ratio⌉ ≤ ⌈(base.val : ℚ) * worseRatio⌉ :=
        Int.ceil_le_ceil (mul_le_mul_of_nonneg_left atMost (Int.cast_nonneg base.lower))
      rw [le_iff_val, val_maxDispatches_ratio posture isRatio,
        val_maxDispatches_ratio isBehind isWorse]
      omega

end Dispatches

end GoalPace

/-- What the goal did to one cycle's portfolio. -/
structure GoalConstraint where
  objectiveId : Uuid
  platform : String
  metricKey : String
  state : ObjectiveState
  pace : GoalPace
  baseMaxDispatches : U32
  appliedMaxDispatches : U32
  explorationSuppressed : Bool
  deriving DecidableEq

/-- Applies the objective's pace to the sized dispatch budget of a cycle. -/
def GoalConstraint.apply (objective : ActiveObjective) (now : OffsetDateTime)
    (baseMaxDispatches goalCeiling : U32) : Option GoalConstraint := do
  let pace ← GoalPace.fromObjective objective now
  some
    { objectiveId := objective.objectiveId
      platform := objective.platform
      metricKey := objective.metricKey
      state := objective.state
      pace := pace
      baseMaxDispatches := baseMaxDispatches
      appliedMaxDispatches := pace.maxDispatches baseMaxDispatches goalCeiling
      explorationSuppressed := pace.suppressesExploration }

/-!
## The pace against the verdict

The verdict projects the pace up to the last observation, in whole numbers.
The ratio divides by the pace up to now, exactly.  An objective that the one
calls behind is one that the other finds too slow, so the budget is raised.
-/

def ActiveObjective.assessed (objectiveId : Uuid) (platform metricKey : String)
    (objective : GrowthObjective) (observed : Option (I64 × OffsetDateTime))
    (policy : ObjectivePolicy)
    (now : OffsetDateTime) : ActiveObjective where
  objectiveId := objectiveId
  platform := platform
  metricKey := metricKey
  direction := objective.direction
  baselineValue := objective.baselineValue
  targetValue := objective.targetValue
  observedValue := observed.map Prod.fst
  declaredAt := objective.declaredAt
  deadline := objective.deadline
  state := assessObjective objective observed policy now

/-- A difference oriented so that positive means better, exactly. -/
def MetricDirection.toward (direction : MetricDirection) (value : Int) : Int :=
  match direction with
  | .higherIsBetter => value
  | .lowerIsBetter => -value

/-- The three differences that the verdict and the pace take are exact. -/
structure Unsaturated
    (objective : GrowthObjective)
    (value : I64) : Prop where
  distance :
    (objectiveDistance objective).val =
      objective.direction.toward
        (objective.targetValue.val - objective.baselineValue.val)
  travelled :
    (objectiveTravelled objective value).val =
      objective.direction.toward (value.val - objective.baselineValue.val)
  shortfall :
    (objective.direction.orient
        (objective.targetValue.saturatingSub value)).val =
      objective.direction.toward (objective.targetValue.val - value.val)

theorem MetricDirection.toward_add (direction : MetricDirection) (first second : Int) :
    direction.toward (first + second) = direction.toward first + direction.toward second := by
  cases direction with
  | higherIsBetter => rfl
  | lowerIsBetter => exact Int.neg_add

theorem Unsaturated.shortfall_eq {objective : GrowthObjective} {value : I64}
    (exact : Unsaturated objective value) :
    (objective.direction.orient (objective.targetValue.saturatingSub value)).val =
      (objectiveDistance objective).val - (objectiveTravelled objective value).val := by
  have split := objective.direction.toward_add (objective.targetValue.val - value.val)
      (value.val - objective.baselineValue.val)
  rw [sub_add_sub_cancel] at split
  rw [exact.shortfall, exact.distance, exact.travelled]
  omega

/-! ## Whole seconds -/

section WholeSeconds

variable {start between stop : Int}

/-- The whole seconds from one moment to another, cut toward zero. -/
def wholeSeconds (start stop : Int) : Int := (stop - start).tdiv nanosPerSecond

theorem wholeSeconds_eq_ediv (ordered : start ≤ stop) :
    wholeSeconds start stop = (stop - start) / 1000000000 :=
  Int.tdiv_eq_ediv_of_nonneg (Int.sub_nonneg_of_le ordered)

theorem wholeSeconds_mono (after : start ≤ between) (ordered : between ≤ stop) :
    wholeSeconds start between ≤ wholeSeconds start stop := by
  rw [wholeSeconds_eq_ediv after, wholeSeconds_eq_ediv (after.trans ordered)]
  omega

theorem wholeSeconds_add_le (after : start ≤ between) (before : between ≤ stop) :
    wholeSeconds start between + wholeSeconds between stop ≤ wholeSeconds start stop := by
  rw [wholeSeconds_eq_ediv after, wholeSeconds_eq_ediv before,
    wholeSeconds_eq_ediv (after.trans before)]
  omega

theorem wholeSeconds_pos_iff : 0 < wholeSeconds start stop ↔ start + nanosPerSecond ≤ stop := by
  unfold nanosPerSecond
  rcases Int.le_total start stop with ordered | reversed
  · rw [wholeSeconds_eq_ediv ordered]
    omega
  · have negated : wholeSeconds start stop = -wholeSeconds stop start := by
      unfold wholeSeconds
      rw [← Int.neg_tdiv, Int.neg_sub]
    rw [negated, wholeSeconds_eq_ediv reversed]
    omega

end WholeSeconds

/-! ## What the verdict says of the pace -/

section Verdict

variable {objective : GrowthObjective} {policy : ObjectivePolicy} {value : I64}
  {observedAt now : OffsetDateTime} {progress : U32} {projected shortfall : I64}

/-- Behind: short of the target, in time, with a pace that was measured. -/
structure FoundBehind
    (objective : GrowthObjective)
    (value : I64)
    (observedAt now : OffsetDateTime)
    (shortfall : I64) : Prop where
  short : objectiveTravelled objective value < objectiveDistance objective
  inTime : now < objective.deadline
  measured : 0 < wholeSeconds objective.declaredAt observedAt
  whole : 0 < wholeSeconds objective.declaredAt objective.deadline
  isShortfall :
    shortfall =
      max
        (objective.direction.orient
          (objective.targetValue.saturatingSub value))
        0

theorem projectObjective_eq_some {travelled : I64} {elapsed : Int}
    (isProjected : projectObjective objective travelled elapsed = some projected) :
    0 < elapsed.tdiv nanosPerSecond ∧
      0 < wholeSeconds objective.declaredAt objective.deadline ∧
      projected.val = objective.baselineValue.val + objective.direction.toward
            ((travelled.val * wholeSeconds objective.declaredAt objective.deadline).tdiv
              (elapsed.tdiv nanosPerSecond)) := by
  unfold projectObjective at isProjected
  dsimp only at isProjected
  split at isProjected
  · cases isProjected
  · rename_i counts
    simp only [Bool.or_eq_true, decide_eq_true_eq, not_or, not_le] at counts
    refine ⟨counts.1, counts.2, ?_⟩
    rw [tryFrom_eq_some_iff.mp isProjected]
    cases objective.direction with
    | higherIsBetter => rfl
    | lowerIsBetter => rfl

theorem assessObjective_eq_behind
    (isBehind :
      assessObjective objective (some (value, observedAt)) policy now =
        .behind progress projected shortfall) :
    FoundBehind objective value observedAt now shortfall ∧
      projectObjective objective (objectiveTravelled objective value)
          (observedAt - objective.declaredAt) =
        some projected ∧
      objective.direction.orient projected < objective.direction.orient objective.targetValue := by
  unfold assessObjective at isBehind
  dsimp only at isBehind
  split at isBehind
  · cases isBehind
  split at isBehind
  · cases isBehind
  rename_i notReached
  split at isBehind
  · cases isBehind
  rename_i notPast
  split at isBehind
  · cases isBehind
  split at isBehind
  · cases isBehind
  rename_i found isProjected
  split at isBehind
  · cases isBehind
  rename_i notArriving
  obtain ⟨_, rfl, rfl⟩ := ObjectiveState.behind.inj isBehind
  obtain ⟨measured, whole, _⟩ := projectObjective_eq_some isProjected
  exact
    ⟨{ short := not_le.mp notReached
       inTime := not_le.mp notPast
       measured := measured
       whole := whole
       isShortfall := rfl },
      isProjected, not_le.mp notArriving⟩

theorem MetricDirection.toward_lt_of_orient {direction : MetricDirection}
    {first second : I64} (less : direction.orient first < direction.orient second) :
    direction.toward first.val < direction.toward second.val := by
  cases direction with
  | higherIsBetter => exact less
  | lowerIsBetter =>
    change (-first.val) < -second.val
    simp only [MetricDirection.orient, lt_iff_val, val_saturate] at less
    omega

theorem MetricDirection.toward_toward (direction : MetricDirection) (value : Int) :
    direction.toward (direction.toward value) = value := by
  cases direction with
  | higherIsBetter => rfl
  | lowerIsBetter => exact Int.neg_neg value

theorem travelled_whole_lt (exact : Unsaturated objective value)
    (isBehind :
      assessObjective objective (some (value, observedAt)) policy now =
        .behind progress projected shortfall)
    (forward : 0 < (objectiveTravelled objective value).val) :
    (objectiveTravelled objective value).val *
        wholeSeconds objective.declaredAt objective.deadline <
      (objectiveDistance objective).val * wholeSeconds objective.declaredAt observedAt := by
  obtain ⟨found, isProjected, notArriving⟩ := assessObjective_eq_behind isBehind
  obtain ⟨_, _, isSum⟩ := projectObjective_eq_some isProjected
  have short := MetricDirection.toward_lt_of_orient notArriving
  have distance := exact.distance
  rw [isSum, MetricDirection.toward_add, MetricDirection.toward_toward] at short
  rw [sub_eq_add_neg, MetricDirection.toward_add] at distance
  have negated :
      objective.direction.toward (-objective.baselineValue.val) =
        -objective.direction.toward objective.baselineValue.val := by
    cases objective.direction <;> rfl
  have travel :
      0 ≤ (objectiveTravelled objective value).val *
        wholeSeconds objective.declaredAt objective.deadline :=
    (mul_pos forward found.whole).le
  rw [Int.tdiv_eq_ediv_of_nonneg travel] at short
  refine (Int.ediv_lt_iff_lt_mul found.measured).mp ?_
  change _ / (observedAt - objective.declaredAt).tdiv nanosPerSecond < _
  omega

end Verdict

/-! ## The ratio on the other side -/

/-- A pace that measures a shortfall and what was travelled so far. -/
structure GoalPace.Measures
    (pace : GoalPace)
    (shortfall travelled left elapsed : Int) : Prop where
  behind : pace.posture = .behind
  required :
    pace.requiredPerDay = (shortfall : ℚ) / ((left : ℚ) / secondsPerDay)
  observed :
    pace.observedPerDay =
      if 0 < elapsed then some ((travelled : ℚ) / ((elapsed : ℚ) / secondsPerDay)) else none

namespace GoalPace.Measures

variable {pace worse : GoalPace} {shortfall travelled left elapsed : Int}

theorem mem_paceRatio_iff (measures : pace.Measures shortfall travelled left elapsed) {ratio : ℚ} :
    ratio ∈ pace.paceRatio ↔
      0 < elapsed ∧ 0 < travelled ∧
        ((shortfall * elapsed : Int) : ℚ) / ((travelled * left : Int) : ℚ) =
          ratio := by
  have day : (0 : ℚ) < secondsPerDay := by decide +kernel
  rw [GoalPace.mem_paceRatio, measures.observed, measures.required]
  by_cases positive : 0 < elapsed
  · have seconds : (0 : ℚ) < elapsed := Int.cast_pos.mpr positive
    have forward_iff : 0 < (travelled : ℚ) / ((elapsed : ℚ) / secondsPerDay) ↔ 0 < travelled := by
      rw [div_pos_iff_of_pos_right (div_pos seconds day), Int.cast_pos]
    rw [if_pos positive]
    simp only [Option.mem_def, Option.some.injEq, exists_eq_left', forward_iff, positive, true_and]
    refine and_congr_right fun forward => ?_
    have moved : (0 : ℚ) < travelled := Int.cast_pos.mpr forward
    have same :
        (shortfall : ℚ) / ((left : ℚ) / secondsPerDay) /
            ((travelled : ℚ) / ((elapsed : ℚ) / secondsPerDay)) =
          ((shortfall * elapsed : Int) : ℚ) / ((travelled * left : Int) : ℚ) := by
      push_cast
      field_simp
    rw [same]
  · rw [if_neg positive]
    simp [positive]

theorem ratio_le_of_further {further slower : Int}
    (measures : pace.Measures shortfall travelled left elapsed)
    (worseMeasures : worse.Measures further slower left elapsed) (timeLeft : 0 < left)
    (shortfallNonnegative : 0 ≤ shortfall) (moreToGo : shortfall ≤ further)
    (lessDone : slower ≤ travelled) :
    ∀ worseRatio ∈ worse.paceRatio, ∃ ratio ∈ pace.paceRatio, ratio ≤ worseRatio := by
  intro worseRatio isWorse
  obtain ⟨positive, forward, rfl⟩ := worseMeasures.mem_paceRatio_iff.mp isWorse
  refine ⟨_, measures.mem_paceRatio_iff.mpr ⟨positive, forward.trans_le lessDone, rfl⟩, ?_⟩
  have denominator : (0 : ℚ) < ((slower * left : Int) : ℚ) :=
    Int.cast_pos.mpr (mul_pos forward timeLeft)
  refine div_le_div₀ ?_ ?_ denominator ?_
  · exact
      Int.cast_nonneg (mul_nonneg (shortfallNonnegative.trans moreToGo) positive.le)
  · exact Int.cast_le.mpr (mul_le_mul_of_nonneg_right moreToGo positive.le)
  · exact Int.cast_le.mpr (mul_le_mul_of_nonneg_right lessDone timeLeft.le)

end GoalPace.Measures

section Constraint

variable {active : ActiveObjective} {now : OffsetDateTime} {base ceiling : U32}
  {value : I64} {progress : U32} {projected shortfall : I64}

theorem apply_of_pace {pace : GoalPace} (isPace : GoalPace.fromObjective active now = some pace) :
    ∃ goal ∈ GoalConstraint.apply active now base ceiling,
      goal.appliedMaxDispatches = pace.maxDispatches base ceiling := by
  unfold GoalConstraint.apply
  rw [isPace]
  exact ⟨_, rfl, rfl⟩

theorem mem_apply {goal : GoalConstraint}
    (applied : goal ∈ GoalConstraint.apply active now base ceiling) :
    ∃ pace,
      GoalPace.fromObjective active now = some pace ∧
        goal.appliedMaxDispatches = pace.maxDispatches base ceiling := by
  obtain ⟨pace, isPace, isGoal⟩ := Option.bind_eq_some_iff.mp applied
  obtain rfl := Option.some.inj isGoal
  exact ⟨pace, isPace, rfl⟩

theorem fromObjective_onTrack (now : OffsetDateTime)
    (isOnTrack : active.state = .onTrack progress projected)
    (isObserved : active.observedValue = some value) :
    ∃ pace : GoalPace,
      pace.posture = .onTrack ∧
        GoalPace.fromObjective active now =
          if wholeSeconds now active.deadline ≤ 0 then none else some pace := by
  unfold GoalPace.fromObjective
  rw [isOnTrack, isObserved]
  exact ⟨_, rfl, rfl⟩

theorem fromObjective_behind (now : OffsetDateTime)
    (isBehind : active.state = .behind progress projected shortfall)
    (isObserved : active.observedValue = some value) :
    ∃ pace : GoalPace,
      pace.Measures shortfall.val
          (active.direction.orient (value.saturatingSub active.baselineValue)).val
          (wholeSeconds now active.deadline)
          (wholeSeconds active.declaredAt now) ∧
        GoalPace.fromObjective active now =
          if wholeSeconds now active.deadline ≤ 0 then none else some pace := by
  unfold GoalPace.fromObjective
  rw [isBehind, isObserved]
  exact ⟨_, { behind := rfl, required := rfl, observed := rfl }, rfl⟩

theorem live_of_fromObjective {pace : GoalPace}
    (isPace : GoalPace.fromObjective active now = some pace) :
    0 < wholeSeconds now active.deadline ∧
      ((∃ progress projected, active.state = .onTrack progress projected) ∨
        ∃ progress projected shortfall, active.state = .behind progress projected shortfall) := by
  unfold GoalPace.fromObjective at isPace
  obtain ⟨posture, isPosture, isPace⟩ := Option.bind_eq_some_iff.mp isPace
  obtain ⟨observed, _, isPace⟩ := Option.bind_eq_some_iff.mp isPace
  constructor
  · dsimp only at isPace
    split at isPace
    · cases isPace
    · exact not_le.mp ‹_›
  · cases state : active.state with
    | onTrack progress projected => exact .inl ⟨_, _, rfl⟩
    | behind progress projected shortfall => exact .inr ⟨_, _, _, rfl⟩
    | met progress =>
      rw [state] at isPosture
      cases isPosture
    | missed progress final shortfall =>
      rw [state] at isPosture
      cases isPosture
    | unmeasurable reason =>
      rw [state] at isPosture
      cases isPosture

end Constraint

/-! ## One cycle with an objective -/

/-- What a cycle knows of its objective but for the observed value. -/
structure GoalCycle where
  objectiveId : Uuid
  platform : String
  metricKey : String
  objective : GrowthObjective
  policy : ObjectivePolicy
  observedAt : OffsetDateTime
  now : OffsetDateTime
  base : U32
  ceiling : U32
  deriving DecidableEq

namespace GoalCycle

variable (cycle : GoalCycle)

def verdict (value : I64) : ObjectiveState :=
  assessObjective cycle.objective (some (value, cycle.observedAt)) cycle.policy cycle.now

/-- The objective with the verdict that its last value was given. -/
def active (value : I64) : ActiveObjective :=
  .assessed cycle.objectiveId cycle.platform cycle.metricKey cycle.objective
    (some (value, cycle.observedAt)) cycle.policy cycle.now

def goal (value : I64) : Option GoalConstraint :=
  GoalConstraint.apply (cycle.active value) cycle.now cycle.base cycle.ceiling

/-- The whole seconds from now to the deadline. -/
def secondsLeft : Int := wholeSeconds cycle.now cycle.objective.deadline

/-- The whole seconds from the declaration to now. -/
def secondsElapsed : Int := wholeSeconds cycle.objective.declaredAt cycle.now

variable {cycle} {value worse : I64} {progress : U32} {projected shortfall : I64}

theorem pace_of_behind (isBehind : cycle.verdict value = .behind progress projected shortfall)
    (secondLeft : 0 < cycle.secondsLeft) :
    ∃ pace : GoalPace,
      pace.Measures shortfall.val (objectiveTravelled cycle.objective value).val
          cycle.secondsLeft cycle.secondsElapsed ∧
        GoalPace.fromObjective (cycle.active value) cycle.now = some pace := by
  obtain ⟨pace, measures, isPace⟩ :=
    @fromObjective_behind (cycle.active value) value progress projected
      shortfall cycle.now isBehind rfl
  refine ⟨pace, measures, isPace.trans (if_neg (not_le.mpr secondLeft))⟩

theorem goal_onTrack (isOnTrack : cycle.verdict value = .onTrack progress projected)
    (secondLeft : 0 < cycle.secondsLeft) :
    ∃ goal ∈ cycle.goal value, goal.appliedMaxDispatches = cycle.base := by
  obtain ⟨pace, posture, isPace⟩ :=
    @fromObjective_onTrack (cycle.active value) value progress projected cycle.now isOnTrack rfl
  obtain ⟨goal, isGoal, applied⟩ :=
    @apply_of_pace _ _ cycle.base cycle.ceiling pace (isPace.trans (if_neg (not_le.mpr secondLeft)))
  exact ⟨goal, isGoal, applied.trans (GoalPace.maxDispatches_onTrack posture)⟩

section

variable (exact : Unsaturated cycle.objective value)
include exact

theorem shortfall_eq (isBehind : cycle.verdict value = .behind progress projected shortfall) :
    shortfall.val =
      (objectiveDistance cycle.objective).val - (objectiveTravelled cycle.objective value).val := by
  obtain ⟨found, _, _⟩ := assessObjective_eq_behind isBehind
  rw [found.isShortfall, val_max, exact.shortfall_eq]
  exact max_eq_left (sub_nonneg.mpr (lt_iff_val.mp found.short).le)

/-- What the verdict finds too slow, the ratio finds too slow. -/
theorem one_lt_ratio (observedBefore : cycle.observedAt ≤ cycle.now)
    (isBehind : cycle.verdict value = .behind progress projected shortfall)
    (secondLeft : 0 < cycle.secondsLeft) {pace : GoalPace}
    (measures :
      pace.Measures shortfall.val (objectiveTravelled cycle.objective value).val
        cycle.secondsLeft cycle.secondsElapsed) :
    ∀ ratio ∈ pace.paceRatio, 1 < ratio := by
  intro ratio isRatio
  obtain ⟨positive, forward, rfl⟩ := measures.mem_paceRatio_iff.mp isRatio
  obtain ⟨found, _, _⟩ := assessObjective_eq_behind isBehind
  have slow := travelled_whole_lt exact isBehind forward
  have short := lt_iff_val.mp found.short
  have declaredFirst : (cycle.objective.declaredAt : Int) ≤ cycle.observedAt := by
    have measured := wholeSeconds_pos_iff.mp found.measured
    unfold nanosPerSecond at measured
    exact (Int.le_add_of_nonneg_right (by decide)).trans measured
  have elapsed :
      wholeSeconds cycle.objective.declaredAt cycle.observedAt ≤
        cycle.secondsElapsed :=
    wholeSeconds_mono declaredFirst observedBefore
  have parts :
      cycle.secondsElapsed + cycle.secondsLeft ≤
        wholeSeconds cycle.objective.declaredAt cycle.objective.deadline :=
    wholeSeconds_add_le (declaredFirst.trans observedBefore) found.inTime.le
  rw [one_lt_div (Int.cast_pos.mpr (mul_pos forward secondLeft)),
    Int.cast_lt, shortfall_eq exact isBehind]
  have whole :
      (objectiveTravelled cycle.objective value).val * (cycle.secondsElapsed + cycle.secondsLeft) <
        (objectiveDistance cycle.objective).val * cycle.secondsElapsed :=
    calc
      _ ≤ (objectiveTravelled cycle.objective value).val * wholeSeconds cycle.objective.declaredAt
              cycle.objective.deadline :=
          mul_le_mul_of_nonneg_left parts forward.le
      _ < (objectiveDistance cycle.objective).val *
            wholeSeconds cycle.objective.declaredAt cycle.observedAt :=
          slow
      _ ≤ _ := mul_le_mul_of_nonneg_left elapsed (forward.trans short).le
  linarith [mul_add (objectiveTravelled cycle.objective value).val
    cycle.secondsElapsed cycle.secondsLeft,
    sub_mul (objectiveDistance cycle.objective).val
      (objectiveTravelled cycle.objective value).val cycle.secondsElapsed]

theorem goal_behind (observedBefore : cycle.observedAt ≤ cycle.now)
    (isBehind : cycle.verdict value = .behind progress projected shortfall)
    (secondLeft : 0 < cycle.secondsLeft) (positive : 1 ≤ cycle.base.val) :
    ∃ goal ∈ cycle.goal value,
      cycle.base ≤ goal.appliedMaxDispatches ∧
        goal.appliedMaxDispatches ≤ max cycle.base cycle.ceiling ∧
        (cycle.base < cycle.ceiling → cycle.base < goal.appliedMaxDispatches) := by
  obtain ⟨pace, measures, isPace⟩ := pace_of_behind isBehind secondLeft
  obtain ⟨goal, isGoal, applied⟩ := @apply_of_pace _ _ cycle.base cycle.ceiling pace isPace
  refine ⟨goal, isGoal, ?_⟩
  rw [applied]
  exact
    ⟨GoalPace.base_le_maxDispatches, GoalPace.maxDispatches_le,
      GoalPace.lt_maxDispatches measures.behind
        (one_lt_ratio exact observedBefore isBehind secondLeft measures)
        positive⟩

/-- A worse value that is behind has at least as many dispatches. -/
theorem goal_le_of_worse (exactWorse : Unsaturated cycle.objective worse)
    (further :
      cycle.objective.direction.toward (cycle.objective.targetValue.val - value.val) ≤
        cycle.objective.direction.toward (cycle.objective.targetValue.val - worse.val))
    (isBehind : cycle.verdict worse = .behind progress projected shortfall)
    {goal worseGoal : GoalConstraint}
    (isGoal : goal ∈ cycle.goal value)
    (isWorse : worseGoal ∈ cycle.goal worse) :
    goal.appliedMaxDispatches ≤ worseGoal.appliedMaxDispatches := by
  obtain ⟨pace, isPace, applied⟩ := mem_apply isGoal
  obtain ⟨worsePace, isWorsePace, worseApplied⟩ := mem_apply isWorse
  rw [applied, worseApplied]
  obtain ⟨secondLeft, live⟩ := live_of_fromObjective isPace
  obtain ⟨found, foundMeasures, isFound⟩ := pace_of_behind isBehind secondLeft
  obtain rfl := Option.some.inj (isFound.symm.trans isWorsePace)
  rcases live with
    ⟨_, _, isOnTrack⟩ | ⟨valueProgress, arrival, valueShortfall, isState⟩
  · obtain ⟨kept, posture, isKept⟩ :=
      fromObjective_onTrack cycle.now isOnTrack rfl
    rw [if_neg (not_le.mpr secondLeft)] at isKept
    obtain rfl := Option.some.inj (isKept.symm.trans isPace)
    rw [GoalPace.maxDispatches_onTrack posture]
    exact GoalPace.base_le_maxDispatches
  · have valueBehind :
        cycle.verdict value = .behind valueProgress arrival valueShortfall :=
      isState
    obtain ⟨kept, measures, isKept⟩ := pace_of_behind valueBehind secondLeft
    obtain rfl := Option.some.inj (isKept.symm.trans isPace)
    have short := (assessObjective_eq_behind valueBehind).1.short
    rw [← exact.shortfall, ← exactWorse.shortfall, exact.shortfall_eq,
      exactWorse.shortfall_eq] at further
    have toGo := shortfall_eq exact valueBehind
    have furtherToGo := shortfall_eq exactWorse isBehind
    rw [lt_iff_val] at short
    refine GoalPace.maxDispatches_le_of_slower foundMeasures.behind
        (measures.ratio_le_of_further foundMeasures secondLeft ?_ ?_ ?_)
    · omega
    · omega
    · omega

end

/-- The goal that is applied is on the side that the verdict is on. -/
structure PaceAgrees (cycle : GoalCycle) (value : I64) : Prop where
  onTrack :
    ∀ {progress projected},
      cycle.verdict value = .onTrack progress projected →
        ∃ goal ∈ cycle.goal value, goal.appliedMaxDispatches = cycle.base
  behind :
    ∀ {progress projected shortfall},
      cycle.verdict value = .behind progress projected shortfall →
        ∃ goal ∈ cycle.goal value,
          cycle.base ≤ goal.appliedMaxDispatches ∧
            goal.appliedMaxDispatches ≤ max cycle.base cycle.ceiling ∧
            (cycle.base < cycle.ceiling →
              cycle.base < goal.appliedMaxDispatches)
  worse :
    ∀ {worse progress projected shortfall},
      Unsaturated cycle.objective worse →
        cycle.objective.direction.toward
            (cycle.objective.targetValue.val - value.val) ≤
          cycle.objective.direction.toward
            (cycle.objective.targetValue.val - worse.val) →
          cycle.verdict worse = .behind progress projected shortfall →
            ∀ goal ∈ cycle.goal value,
              ∀ worseGoal ∈ cycle.goal worse,
                goal.appliedMaxDispatches ≤ worseGoal.appliedMaxDispatches

/-- While a whole second is left, the pace agrees with the verdict. -/
theorem paceAgrees
    (cycle : GoalCycle)
    (value : I64)
    (exact : Unsaturated cycle.objective value)
    (observedBefore : cycle.observedAt ≤ cycle.now)
    (secondLeft : cycle.now + nanosPerSecond ≤ cycle.objective.deadline)
    (positive : 1 ≤ cycle.base.val) :
    cycle.PaceAgrees value :=
  have left : 0 < cycle.secondsLeft := wholeSeconds_pos_iff.mpr secondLeft
  { onTrack := fun isOnTrack => goal_onTrack isOnTrack left
    behind := fun isBehind =>
      goal_behind exact observedBefore isBehind left positive
    worse := fun exactWorse further isBehind _ isGoal _ isWorse =>
      goal_le_of_worse exact exactWorse further isBehind isGoal isWorse }

theorem goal_lastSecond (cycle : GoalCycle) (value : I64)
    (noSecond : cycle.objective.deadline < cycle.now + nanosPerSecond) :
    cycle.goal value = none := by
  cases isGoal : cycle.goal value with
  | none => rfl
  | some goal =>
    obtain ⟨pace, isPace, _⟩ := mem_apply isGoal
    have left := (live_of_fromObjective isPace).1
    exact absurd (wholeSeconds_pos_iff.mp left) (not_le.mpr noSecond)

/-! ## A hundred fans in three weeks -/

/-- Ten of a hundred fans after seven days, with this much time left. -/
def tenOfHundred (nanosLeft : Int) : GoalCycle where
  objectiveId := 1
  platform := "signal"
  metricKey := "activated_fans_30d"
  objective :=
    { direction := .higherIsBetter
      baselineValue := 0
      targetValue := 100
      declaredAt := 0
      deadline := 21 * 24 * nanosPerHour }
  policy := .default
  observedAt := 7 * 24 * nanosPerHour
  now := 21 * 24 * nanosPerHour - nanosLeft
  base := 5
  ceiling := 10

theorem tenOfHundred_unsaturated (nanosLeft : Int) :
    Unsaturated (tenOfHundred nanosLeft).objective 10 where
  distance := rfl
  travelled := rfl
  shortfall := rfl

theorem tenOfHundred_agrees :
    (tenOfHundred (14 * 24 * nanosPerHour)).PaceAgrees 10 :=
  paceAgrees _ 10 (tenOfHundred_unsaturated _) (by decide +kernel)
    (by decide +kernel) (by decide +kernel)

/-- Half a second before the deadline the objective is behind without a goal. -/
theorem lastSecond_disagrees :
    ¬ ∀ (cycle : GoalCycle) (value : I64),
        TargetBeyondBaseline cycle.objective →
          Unsaturated cycle.objective value →
            cycle.observedAt ≤ cycle.now →
              cycle.now < cycle.objective.deadline →
                1 ≤ cycle.base.val → cycle.PaceAgrees value := by
  intro agrees
  have beyond : TargetBeyondBaseline (tenOfHundred 500000000).objective := by
    change (0 : Int) < 100
    decide
  have agreed :=
    agrees (tenOfHundred 500000000) 10 beyond (tenOfHundred_unsaturated _)
      (by decide +kernel) (by decide +kernel) (by decide +kernel)
  have isBehind : (tenOfHundred 500000000).verdict 10 = .behind 1000 30 90 := by
    decide +kernel
  obtain ⟨goal, isGoal, _⟩ := agreed.behind isBehind
  rw [goal_lastSecond _ 10 (by decide +kernel)] at isGoal
  cases isGoal

end GoalCycle

end CrowdRelay
