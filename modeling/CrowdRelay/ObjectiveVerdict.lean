import Mathlib.Data.Rat.Cast.Order
import CrowdRelay.GoalVerdict

namespace CrowdRelay

open MachineInt Ranged

/-!
# What the verdict on an objective says

The verdict follows the straight line from the baseline through the observed
value up to the deadline.  Its time is counted in whole seconds; in these the
line is compared with the target exactly, for a rising series as for a falling
one, although the value on it is cut to a whole number first.
-/

/-- A value is at the target or beyond it, whichever way is better. -/
def MetricDirection.Reaches (direction : MetricDirection)
    (value target : ℚ) : Prop :=
  match direction with
  | .higherIsBetter => target ≤ value
  | .lowerIsBetter => value ≤ target

def MetricDirection.flipped : MetricDirection → MetricDirection
  | .higherIsBetter => .lowerIsBetter
  | .lowerIsBetter => .higherIsBetter

namespace ObjectiveState

def isOnTrack : ObjectiveState → Bool
  | .onTrack _ _ => true
  | _ => false

def isBehind : ObjectiveState → Bool
  | .behind _ _ _ => true
  | _ => false

/-- The same state of a series that was negated: the values are negated and the
progress and the shortfall are the same. -/
def Mirrors : ObjectiveState → ObjectiveState → Prop
  | .met progress, .met other => other = progress
  | .onTrack progress projected, .onTrack other otherProjected =>
    other = progress ∧ otherProjected.val = -projected.val
  | .behind progress projected shortfall,
      .behind other otherProjected otherShortfall =>
      other = progress ∧ otherProjected.val = -projected.val ∧ otherShortfall = shortfall
  | .missed progress final shortfall,
      .missed other otherFinal otherShortfall =>
      other = progress ∧ otherFinal.val = -final.val ∧ otherShortfall = shortfall
  | .unmeasurable reason, .unmeasurable other => other = reason
  | _, _ => False

end ObjectiveState

/-- The same objective of a series that was negated. -/
structure GrowthObjective.Mirrors (objective other : GrowthObjective) :
    Prop where
  direction : other.direction = objective.direction.flipped
  baselineValue : other.baselineValue.val = -objective.baselineValue.val
  targetValue : other.targetValue.val = -objective.targetValue.val
  declaredAt : other.declaredAt = objective.declaredAt
  deadline : other.deadline = objective.deadline

/-- Nothing the verdict computes is cut off at the ends of its type. -/
structure NoSaturation
    (objective : GrowthObjective)
    (value : I64) :
    Prop
    extends Unsaturated objective value where
  target :
    (objective.direction.orient objective.targetValue).val =
      objective.direction.toward objective.targetValue.val

section Lines

variable (objective : GrowthObjective) (value : I64)

/-- The value on the line from the baseline through the observed value, when
the line goes on for the whole time after the elapsed one. -/
def lineAt (whole elapsed : ℚ) : ℚ :=
  objective.baselineValue.val + (value.val - objective.baselineValue.val) * (whole / elapsed)

/-- The line at the deadline, cut to a whole number toward the baseline. -/
def wholeLineAt (observedAt : OffsetDateTime) : Int :=
  objective.baselineValue.val +
    objective.direction.toward
      ((objective.direction.toward
          (value.val - objective.baselineValue.val) *
          wholeSeconds objective.declaredAt objective.deadline).tdiv
        (wholeSeconds objective.declaredAt observedAt))

def HasReached : Prop := objective.direction.Reaches value.val objective.targetValue.val

/-- Enough time has elapsed for the line to be followed, and what it comes to
fits the column it is reported in. -/
structure Projectable
    (policy : ObjectivePolicy)
    (observedAt : OffsetDateTime) : Prop where
  patient :
    policy.minimumElapsedHours.val * nanosPerHour ≤
      observedAt - objective.declaredAt
  elapsed : 0 < wholeSeconds objective.declaredAt observedAt
  whole : 0 < wholeSeconds objective.declaredAt objective.deadline
  lower : -9223372036854775808 ≤ wholeLineAt objective value observedAt
  upper : wholeLineAt objective value observedAt ≤ 9223372036854775807

/-- The verdict on one observation says exactly what the values say. -/
structure ReadsExactly
    (policy : ObjectivePolicy)
    (observedAt now : OffsetDateTime) : Prop where
  met :
    (assessObjective objective (some (value, observedAt)) policy
        now).isMet = true ↔
      HasReached objective value
  missed :
    (assessObjective objective (some (value, observedAt)) policy
        now).isMissed = true ↔
      ¬ HasReached objective value ∧ objective.deadline ≤ now
  onTrack :
    ¬ HasReached objective value → now < objective.deadline →
      Projectable objective value policy observedAt →
        ((assessObjective objective (some (value, observedAt)) policy
            now).isOnTrack = true ↔
          objective.direction.Reaches
            (lineAt objective value
              (wholeSeconds objective.declaredAt objective.deadline)
              (wholeSeconds objective.declaredAt observedAt))
            objective.targetValue.val)
  behind :
    ¬ HasReached objective value → now < objective.deadline →
      Projectable objective value policy observedAt →
        ((assessObjective objective (some (value, observedAt)) policy
            now).isBehind = true ↔
          ¬ objective.direction.Reaches
            (lineAt objective value
              (wholeSeconds objective.declaredAt objective.deadline)
              (wholeSeconds objective.declaredAt observedAt))
            objective.targetValue.val)
  tooEarly :
    ¬ HasReached objective value → now < objective.deadline →
      ¬ Projectable objective value policy observedAt →
        assessObjective objective (some (value, observedAt)) policy now =
          .unmeasurable .tooEarlyToProject

end Lines

section Directions

variable {direction : MetricDirection}

theorem MetricDirection.toward_flipped (direction : MetricDirection) (value : Int) :
    direction.flipped.toward (-value) = direction.toward value := by
  cases direction with
  | higherIsBetter => exact Int.neg_neg value
  | lowerIsBetter => rfl

theorem MetricDirection.orient_le_iff {first second : I64}
    (exact : (direction.orient first).val = direction.toward first.val) :
    direction.orient first ≤ direction.orient second ↔
      direction.toward first.val ≤ direction.toward second.val := by
  rw [le_iff_val, exact]
  cases direction with
  | higherIsBetter => exact Iff.rfl
  | lowerIsBetter =>
    have upper := (MetricDirection.lowerIsBetter.orient first).upper
    have lower := second.upper
    rw [exact] at upper
    simp only [MetricDirection.orient, MetricDirection.toward, val_saturate] at upper ⊢
    omega

theorem MetricDirection.toward_sub (direction : MetricDirection) (first second : Int) :
    direction.toward (first - second) = direction.toward first - direction.toward second := by
  cases direction with
  | higherIsBetter => rfl
  | lowerIsBetter =>
    simp only [MetricDirection.toward]
    omega

theorem MetricDirection.reaches_iff {value target : Int} :
    direction.Reaches value target ↔ direction.toward target ≤ direction.toward value := by
  cases direction with
  | higherIsBetter => exact Int.cast_le
  | lowerIsBetter => exact Int.cast_le.trans neg_le_neg_iff.symm

theorem le_tdiv_iff {bound value divisor : Int} (positive : 0 < bound) (divides : 0 < divisor) :
    bound ≤ value.tdiv divisor ↔ bound * divisor ≤ value := by
  rcases Int.le_total 0 value with nonnegative | nonpositive
  · rw [Int.tdiv_eq_ediv_of_nonneg nonnegative]
    exact Int.le_ediv_iff_mul_le divides
  · have cut : value.tdiv divisor ≤ 0 := by
      rw [← Int.neg_nonneg, ← Int.neg_tdiv]
      exact Int.tdiv_nonneg (Int.neg_nonneg.mpr nonpositive) divides.le
    have product := Int.mul_pos positive divides
    constructor
    · intro reaches
      omega
    · intro reaches
      omega

end Directions

section Verdicts

variable {objective : GrowthObjective} {value : I64} {policy : ObjectivePolicy}
  {observedAt now : OffsetDateTime}

section

variable (exact : Unsaturated objective value)
include exact

/-- The travelled distance reaches the whole one where the value reaches the
target. -/
theorem distance_le_travelled_iff :
    objectiveDistance objective ≤ objectiveTravelled objective value ↔
      HasReached objective value := by
  rw [le_iff_val, exact.distance, exact.travelled, HasReached, MetricDirection.reaches_iff]
  cases objective.direction with
  | higherIsBetter =>
    simp only [MetricDirection.toward]
    omega
  | lowerIsBetter =>
    simp only [MetricDirection.toward]
    omega

/-- The line reaches the target where the whole distance is covered at the
pace of the elapsed time. -/
theorem reaches_lineAt_iff {whole elapsed : Int} (someTime : 0 < elapsed) :
    objective.direction.Reaches (lineAt objective value whole elapsed) objective.targetValue.val ↔
      (objectiveDistance objective).val * elapsed ≤
        (objectiveTravelled objective value).val * whole := by
  have divides : (0 : ℚ) < elapsed := Int.cast_pos.mpr someTime
  rw [exact.distance, exact.travelled]
  cases objective.direction with
  | higherIsBetter =>
    simp only [MetricDirection.Reaches, MetricDirection.toward, lineAt]
    rw [← sub_le_iff_le_add', ← mul_div_assoc, le_div_iff₀ divides]
    exact_mod_cast Iff.rfl
  | lowerIsBetter =>
    simp only [MetricDirection.Reaches, MetricDirection.toward, lineAt]
    rw [← le_sub_iff_add_le', ← mul_div_assoc, div_le_iff₀ divides,
      Int.neg_mul, Int.neg_mul, neg_le_neg_iff]
    exact_mod_cast Iff.rfl

theorem projectObjective_eq_some_iff {projected : I64} :
    projectObjective objective (objectiveTravelled objective value)
          (observedAt - objective.declaredAt) =
        some projected ↔
      0 < wholeSeconds objective.declaredAt observedAt ∧
        0 < wholeSeconds objective.declaredAt objective.deadline ∧
        projected.val = wholeLineAt objective value observedAt := by
  constructor
  · intro isProjected
    obtain ⟨elapsed, whole, isSum⟩ := projectObjective_eq_some isProjected
    refine ⟨elapsed, whole, ?_⟩
    rw [isSum, exact.travelled]
    rfl
  · rintro ⟨elapsed, whole, isSum⟩
    have counts :
        ¬ (decide (wholeSeconds objective.declaredAt observedAt ≤ 0) ||
          decide (wholeSeconds objective.declaredAt objective.deadline ≤ 0)) =
          true := by
      simp [elapsed, whole]
    have fits := tryFrom_eq_some_iff.mpr isSum
    rw [wholeLineAt, ← exact.travelled] at fits
    unfold projectObjective
    dsimp only
    rw [if_neg (by exact counts), ← fits]
    cases objective.direction <;> rfl

end

/-- The verdict while the objective runs. -/
theorem assessObjective_running (beyond : TargetBeyondBaseline objective)
    (exact : Unsaturated objective value) (short : ¬ HasReached objective value)
    (running : now < objective.deadline) :
    assessObjective objective (some (value, observedAt)) policy now =
      if observedAt - objective.declaredAt < policy.minimumElapsedHours.val * nanosPerHour then
        .unmeasurable .tooEarlyToProject
      else
        match projectObjective objective (objectiveTravelled objective value)
            (observedAt - objective.declaredAt) with
        | none => .unmeasurable .tooEarlyToProject
        | some projected =>
          if objective.direction.orient projected ≥
              objective.direction.orient objective.targetValue then
            .onTrack
              (objectiveProgress (objectiveTravelled objective value) (objectiveDistance objective))
              projected
          else
            .behind
              (objectiveProgress (objectiveTravelled objective value) (objectiveDistance objective))
              projected
              (max (objective.direction.orient (objective.targetValue.saturatingSub value)) 0) := by
  have notReached : ¬ objectiveTravelled objective value ≥ objectiveDistance objective :=
    fun reached => short ((distance_le_travelled_iff exact).mp reached)
  have notPast : ¬ now ≥ objective.deadline := not_le.mpr running
  unfold assessObjective
  dsimp only
  rw [if_neg (objectiveDistance_ne_zero beyond), if_neg notReached]
  exact if_neg notPast

theorem distance_pos (beyond : TargetBeyondBaseline objective)
    (exact : Unsaturated objective value) :
    0 < (objectiveDistance objective).val := by
  rw [exact.distance]
  unfold TargetBeyondBaseline at beyond
  cases direction : objective.direction with
  | higherIsBetter =>
    rw [direction] at beyond
    simp only [MetricDirection.toward]
    omega
  | lowerIsBetter =>
    rw [direction] at beyond
    simp only [MetricDirection.toward]
    omega

theorem orient_projected_iff (beyond : TargetBeyondBaseline objective)
    (exact : NoSaturation objective value) {projected : I64}
    (someTime : 0 < wholeSeconds objective.declaredAt observedAt)
    (isSum : projected.val = wholeLineAt objective value observedAt) :
    objective.direction.orient projected ≥ objective.direction.orient objective.targetValue ↔
      objective.direction.Reaches
        (lineAt objective value (wholeSeconds objective.declaredAt objective.deadline)
          (wholeSeconds objective.declaredAt observedAt))
        objective.targetValue.val := by
  rw [reaches_lineAt_iff exact.toUnsaturated someTime,
    ← le_tdiv_iff (distance_pos beyond exact.toUnsaturated) someTime,
    ge_iff_le, MetricDirection.orient_le_iff exact.target, isSum,
    wholeLineAt, MetricDirection.toward_add, MetricDirection.toward_toward,
    exact.travelled, exact.distance,
    objective.direction.toward_sub objective.targetValue.val]
  constructor
  · intro reaches
    omega
  · intro reaches
    omega

/-- Where the line can be followed the verdict is what it comes to. -/
theorem assessObjective_projectable (beyond : TargetBeyondBaseline objective)
    (exact : NoSaturation objective value) (short : ¬ HasReached objective value)
    (running : now < objective.deadline)
    (projectable : Projectable objective value policy observedAt) :
    ((assessObjective objective (some (value, observedAt)) policy now).isOnTrack = true ↔
        objective.direction.Reaches
          (lineAt objective value (wholeSeconds objective.declaredAt objective.deadline)
            (wholeSeconds objective.declaredAt observedAt))
          objective.targetValue.val) ∧
      ((assessObjective objective (some (value, observedAt)) policy now).isBehind = true ↔
        ¬ objective.direction.Reaches
          (lineAt objective value (wholeSeconds objective.declaredAt objective.deadline)
            (wholeSeconds objective.declaredAt observedAt))
          objective.targetValue.val) := by
  have isProjected :
      projectObjective objective (objectiveTravelled objective value)
          (observedAt - objective.declaredAt) =
        some ⟨wholeLineAt objective value observedAt, projectable.lower, projectable.upper⟩ :=
    (projectObjective_eq_some_iff exact.toUnsaturated).mpr
      ⟨projectable.elapsed, projectable.whole, rfl⟩
  have compared := @orient_projected_iff objective value observedAt beyond exact
      ⟨wholeLineAt objective value observedAt, projectable.lower, projectable.upper⟩
      projectable.elapsed rfl
  rw [assessObjective_running beyond exact.toUnsaturated short running,
    if_neg (not_lt.mpr projectable.patient), isProjected, ← compared]
  dsimp only
  split
  next reaches =>
    exact ⟨iff_of_true rfl reaches, iff_of_false Bool.false_ne_true (not_not.mpr reaches)⟩
  next short => exact ⟨iff_of_false Bool.false_ne_true short, iff_of_true rfl short⟩

theorem assessObjective_tooEarly (beyond : TargetBeyondBaseline objective)
    (exact : NoSaturation objective value) (short : ¬ HasReached objective value)
    (running : now < objective.deadline)
    (blocked : ¬ Projectable objective value policy observedAt) :
    assessObjective objective (some (value, observedAt)) policy now =
      .unmeasurable .tooEarlyToProject := by
  rw [assessObjective_running beyond exact.toUnsaturated short running]
  split
  · rfl
  next patient =>
    cases isProjected :
        projectObjective objective (objectiveTravelled objective value)
          (observedAt - objective.declaredAt) with
    | none => rfl
    | some projected =>
      obtain ⟨elapsed, whole, isSum⟩ :=
        (projectObjective_eq_some_iff exact.toUnsaturated).mp isProjected
      have lower := projected.lower
      have upper := projected.upper
      rw [isSum] at lower upper
      exact absurd ⟨not_lt.mp patient, elapsed, whole, lower, upper⟩ blocked

theorem readsExactly (policy : ObjectivePolicy) (observedAt now : OffsetDateTime)
    (beyond : TargetBeyondBaseline objective) (exact : NoSaturation objective value) :
    ReadsExactly objective value policy observedAt now where
  met := by
    have isMet := @isMet_assessObjective objective policy ⟨some (value, observedAt), now⟩ beyond
    rw [isMet]
    refine Iff.trans ?_ (distance_le_travelled_iff exact.toUnsaturated)
    simp [ReachesTarget]
  missed := by
    have isMissed := @isMissed_assessObjective objective policy
        ⟨some (value, observedAt), now⟩ beyond
    rw [isMissed, ← distance_le_travelled_iff exact.toUnsaturated, not_le]
    simp [FallsShort]
  onTrack := by
    intro short running projectable
    exact (assessObjective_projectable beyond exact short running projectable).1
  behind := by
    intro short running projectable
    exact (assessObjective_projectable beyond exact short running projectable).2
  tooEarly := by
    intro short running blocked
    exact assessObjective_tooEarly beyond exact short running blocked

end Verdicts

section Mirroring

variable {objective other : GrowthObjective} {value otherValue : I64}
  {policy : ObjectivePolicy} {observedAt now : OffsetDateTime}

section

variable (mirrors : objective.Mirrors other)
include mirrors

theorem GrowthObjective.Mirrors.toward_sub
    {first second firstMirrored secondMirrored : Int} (isFirst : firstMirrored = -first)
    (isSecond : secondMirrored = -second) :
    other.direction.toward (firstMirrored - secondMirrored) =
      objective.direction.toward (first - second) := by
  have negated : firstMirrored - secondMirrored = -(first - second) := by
    omega
  rw [mirrors.direction, negated, MetricDirection.toward_flipped]

theorem distance_mirrors (exact : Unsaturated objective value)
    (exactToo : Unsaturated other otherValue) :
    objectiveDistance other = objectiveDistance objective := by
  refine val_injective ?_
  rw [exact.distance, exactToo.distance]
  exact mirrors.toward_sub mirrors.targetValue mirrors.baselineValue

theorem travelled_mirrors (negated : otherValue.val = -value.val)
    (exact : Unsaturated objective value) (exactToo : Unsaturated other otherValue) :
    objectiveTravelled other otherValue = objectiveTravelled objective value := by
  refine val_injective ?_
  rw [exact.travelled, exactToo.travelled]
  exact mirrors.toward_sub negated mirrors.baselineValue

theorem shortfall_mirrors (negated : otherValue.val = -value.val)
    (exact : Unsaturated objective value) (exactToo : Unsaturated other otherValue) :
    other.direction.orient (other.targetValue.saturatingSub otherValue) =
      objective.direction.orient (objective.targetValue.saturatingSub value) := by
  refine val_injective ?_
  rw [exact.shortfall, exactToo.shortfall]
  exact mirrors.toward_sub mirrors.targetValue negated

end

theorem wholeLineAt_mirrors (mirrors : objective.Mirrors other)
    (negated : otherValue.val = -value.val) :
    wholeLineAt other otherValue observedAt = -wholeLineAt objective value observedAt := by
  have travel := mirrors.toward_sub negated mirrors.baselineValue
  unfold wholeLineAt
  rw [travel, mirrors.declaredAt, mirrors.deadline, mirrors.baselineValue, mirrors.direction]
  cases objective.direction with
  | higherIsBetter =>
    simp only [MetricDirection.flipped, MetricDirection.toward]
    omega
  | lowerIsBetter =>
    simp only [MetricDirection.flipped, MetricDirection.toward]
    omega

/-- The value the line comes to fits its column on both sides of zero. -/
def FitsBothWays (line : Int) : Prop := line ≠ -9223372036854775808 ∧ line ≠ 9223372036854775808

theorem fitsBothWays_mirrors (mirrors : objective.Mirrors other)
    (negated : otherValue.val = -value.val)
    (fits : FitsBothWays (wholeLineAt objective value observedAt)) :
    FitsBothWays (wholeLineAt other otherValue observedAt) := by
  obtain ⟨notLeast, notGreatest⟩ := fits
  rw [wholeLineAt_mirrors mirrors negated]
  constructor
  · omega
  · omega

theorem projectObjective_mirrors (mirrors : objective.Mirrors other)
    (negated : otherValue.val = -value.val) (exact : Unsaturated objective value)
    (exactToo : Unsaturated other otherValue)
    (fits : FitsBothWays (wholeLineAt objective value observedAt)) {projected : I64}
    (isProjected :
      projectObjective objective (objectiveTravelled objective value)
          (observedAt - objective.declaredAt) =
        some projected) :
    ∃ otherProjected,
      projectObjective other (objectiveTravelled other otherValue) (observedAt - other.declaredAt) =
          some otherProjected ∧
        otherProjected.val = -projected.val := by
  obtain ⟨elapsed, whole, isSum⟩ := (projectObjective_eq_some_iff exact).mp isProjected
  have lower := projected.lower
  have upper := projected.upper
  rw [isSum] at lower upper
  have line := @wholeLineAt_mirrors objective other value otherValue observedAt mirrors negated
  refine ⟨⟨wholeLineAt other otherValue observedAt, ?_, ?_⟩,
      (projectObjective_eq_some_iff exactToo).mpr ⟨?_, ?_, rfl⟩, ?_⟩
  · omega
  · have notLeast := fits.1
    omega
  · rw [mirrors.declaredAt]
    exact elapsed
  · rw [mirrors.declaredAt, mirrors.deadline]
    exact whole
  · rw [isSum]
    exact line

section

variable (mirrors : objective.Mirrors other)
include mirrors

theorem GrowthObjective.Mirrors.symm :
    other.Mirrors objective where
  direction := by
    rw [mirrors.direction]
    cases objective.direction <;> rfl
  baselineValue := by
    rw [mirrors.baselineValue]
    omega
  targetValue := by
    rw [mirrors.targetValue]
    omega
  declaredAt := mirrors.declaredAt.symm
  deadline := mirrors.deadline.symm

theorem orient_le_mirrors (exact : NoSaturation objective value)
    (exactToo : NoSaturation other otherValue) {projected otherProjected : I64}
    (isNegated : otherProjected.val = -projected.val) :
    other.direction.orient otherProjected ≥ other.direction.orient other.targetValue ↔
      objective.direction.orient projected ≥ objective.direction.orient objective.targetValue := by
  rw [ge_iff_le, ge_iff_le, MetricDirection.orient_le_iff exact.target,
    MetricDirection.orient_le_iff exactToo.target, isNegated,
    mirrors.targetValue, mirrors.direction, MetricDirection.toward_flipped,
    MetricDirection.toward_flipped]

/-- The verdict on a negated series is the mirrored verdict. -/
theorem assessObjective_mirrors (negated : otherValue.val = -value.val)
    (exact : NoSaturation objective value) (exactToo : NoSaturation other otherValue)
    (fits : FitsBothWays (wholeLineAt objective value observedAt)) :
    (assessObjective objective (some (value, observedAt)) policy now).Mirrors
      (assessObjective other (some (otherValue, observedAt)) policy now) := by
  have distance := distance_mirrors mirrors exact.toUnsaturated exactToo.toUnsaturated
  have travelled := travelled_mirrors mirrors negated exact.toUnsaturated exactToo.toUnsaturated
  have shortfall := shortfall_mirrors mirrors negated exact.toUnsaturated exactToo.toUnsaturated
  have projects := @projectObjective_mirrors objective other value otherValue observedAt
      mirrors negated exact.toUnsaturated exactToo.toUnsaturated fits
  have projectsBack := @projectObjective_mirrors other objective otherValue value observedAt
      mirrors.symm (by omega) exactToo.toUnsaturated exact.toUnsaturated
      (fitsBothWays_mirrors mirrors negated fits)
  unfold assessObjective
  dsimp only
  rw [distance, travelled, shortfall, mirrors.deadline, mirrors.declaredAt]
  rw [travelled, mirrors.declaredAt] at projects projectsBack
  by_cases noDistance : objectiveDistance objective = 0
  · rw [if_pos noDistance, if_pos noDistance]
    exact rfl
  rw [if_neg noDistance, if_neg noDistance]
  by_cases reached : objectiveTravelled objective value ≥ objectiveDistance objective
  · rw [if_pos reached, if_pos reached]
    exact rfl
  rw [if_neg reached, if_neg reached]
  by_cases past : now ≥ objective.deadline
  · rw [if_pos past, if_pos past]
    exact ⟨rfl, negated, rfl⟩
  rw [if_neg past, if_neg past]
  by_cases early : observedAt - objective.declaredAt < policy.minimumElapsedHours.val * nanosPerHour
  · rw [if_pos early, if_pos early]
    exact rfl
  rw [if_neg early, if_neg early]
  cases isProjected :
      projectObjective objective (objectiveTravelled objective value)
        (observedAt - objective.declaredAt) with
  | none =>
    cases isMirrored :
        projectObjective other (objectiveTravelled objective value)
          (observedAt - objective.declaredAt) with
    | none => exact rfl
    | some otherProjected =>
      obtain ⟨projected, found, _⟩ := projectsBack isMirrored
      rw [isProjected] at found
      cases found
  | some projected =>
    obtain ⟨otherProjected, isMirrored, isNegated⟩ := projects isProjected
    rw [isMirrored]
    dsimp only
    have compared := orient_le_mirrors mirrors exact exactToo isNegated
    by_cases reaches :
        objective.direction.orient projected ≥ objective.direction.orient objective.targetValue
    · rw [if_pos reaches, if_pos (compared.mpr reaches)]
      exact ⟨rfl, isNegated⟩
    · rw [if_neg reaches, if_neg (mt compared.mp reaches)]
      exact ⟨rfl, isNegated, rfl⟩

end

end Mirroring

/-- The verdict is read exactly over whole seconds, and is the mirrored one for
the negated series. -/
theorem objective_verdict_exact_and_symmetric
    (objective : GrowthObjective)
    (value : I64)
    (policy : ObjectivePolicy)
    (observedAt now : OffsetDateTime)
    (beyond : TargetBeyondBaseline objective)
    (exact : NoSaturation objective value) :
    ReadsExactly objective value policy observedAt now ∧
      ∀ other otherValue,
        objective.Mirrors other →
        otherValue.val = -value.val →
        NoSaturation other otherValue →
        FitsBothWays (wholeLineAt objective value observedAt) →
          (assessObjective objective (some (value, observedAt)) policy
              now).Mirrors
            (assessObjective other (some (otherValue, observedAt)) policy
              now) :=
  ⟨readsExactly policy observedAt now beyond exact,
    fun _ _ mirrors negated exactToo fits =>
      assessObjective_mirrors mirrors negated exact exactToo fits⟩

def halfSecondLate : OffsetDateTime := 50 * 24 * nanosPerHour + 500000000

theorem doubledTrackers_unsaturated : NoSaturation doubledTrackers 150 where
  distance := by decide +kernel
  travelled := by decide +kernel
  shortfall := by decide +kernel
  target := by decide +kernel

/-- The rule applied to the trackers on the fiftieth day. -/
theorem doubledTrackers_verdict_exact_and_symmetric :
    ReadsExactly doubledTrackers 150 .default halfSecondLate
        halfSecondLate ∧
      ∀ other otherValue,
        doubledTrackers.Mirrors other →
        otherValue.val = -(150 : I64).val →
        NoSaturation other otherValue →
        FitsBothWays (wholeLineAt doubledTrackers 150 halfSecondLate) →
          (assessObjective doubledTrackers (some (150, halfSecondLate))
              .default halfSecondLate).Mirrors
            (assessObjective other (some (otherValue, halfSecondLate))
              .default halfSecondLate) :=
  objective_verdict_exact_and_symmetric doubledTrackers 150 .default
    halfSecondLate halfSecondLate doubledTrackers_beyond
    doubledTrackers_unsaturated

/-- Half a second is not counted: the trackers are on track although the line
through the observation comes to less than the target. -/
theorem halfSecondLate_is_on_track :
    (TargetBeyondBaseline doubledTrackers ∧
        NoSaturation doubledTrackers 150 ∧
        ¬ HasReached doubledTrackers 150 ∧
        halfSecondLate < doubledTrackers.deadline ∧
        ObjectivePolicy.default.minimumElapsedHours.val * nanosPerHour ≤
          halfSecondLate - doubledTrackers.declaredAt) ∧
      (assessObjective doubledTrackers (some (150, halfSecondLate)) .default
          halfSecondLate).isOnTrack = true ∧
      ¬ doubledTrackers.direction.Reaches
        (lineAt doubledTrackers 150
          ((doubledTrackers.deadline - doubledTrackers.declaredAt : Int) : ℚ)
          ((halfSecondLate - doubledTrackers.declaredAt : Int) : ℚ))
        doubledTrackers.targetValue.val := by
  refine ⟨⟨doubledTrackers_beyond, doubledTrackers_unsaturated, ?_,
    by decide +kernel, by decide +kernel⟩, by decide +kernel, ?_⟩
  · show ¬ (doubledTrackers.targetValue.val : ℚ) ≤ ((150 : I64).val : ℚ)
    decide +kernel
  · show ¬ (doubledTrackers.targetValue.val : ℚ) ≤ lineAt doubledTrackers 150 _ _
    decide +kernel

end CrowdRelay
