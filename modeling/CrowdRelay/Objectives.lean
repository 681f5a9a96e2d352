import CrowdRelay.PromotionBudget
import CrowdRelay.StableRanking

namespace CrowdRelay

open MachineInt Ranged

/-!
# Objectives and what a series makes of them

An objective is a target on a measured series with a deadline.  Its state is
assessed on every read from the latest point alone, so what an earlier read
said has no part in a later one.
-/

inductive MetricDirection where
  | higherIsBetter
  | lowerIsBetter
  deriving Repr, DecidableEq

/-- A movement oriented so that positive means better. -/
def MetricDirection.orient (direction : MetricDirection)
    (value : I64) : I64 :=
  match direction with
  | .higherIsBetter => value
  | .lowerIsBetter => saturate (-value.val)

structure GrowthObjective where
  direction : MetricDirection
  baselineValue : I64
  targetValue : I64
  declaredAt : OffsetDateTime
  deadline : OffsetDateTime
  deriving Repr, DecidableEq

inductive ObjectiveGap where
  | noObservation
  | tooEarlyToProject
  | noDistanceToCover
  deriving Repr, DecidableEq

inductive ObjectiveState where
  | met (progressBasisPoints : U32)
  | onTrack
      (progressBasisPoints : U32)
      (projectedValue : I64)
  | behind
      (progressBasisPoints : U32)
      (projectedValue : I64)
      (shortfall : I64)
  | missed
      (progressBasisPoints : U32)
      (finalValue : I64)
      (shortfall : I64)
  | unmeasurable (reason : ObjectiveGap)
  deriving Repr, DecidableEq

namespace ObjectiveState

def isMet : ObjectiveState → Bool
  | .met _ => true
  | _ => false

def isMissed : ObjectiveState → Bool
  | .missed _ _ _ => true
  | _ => false

end ObjectiveState

structure ObjectivePolicy where
  minimumElapsedHours : U32
  deriving Repr, DecidableEq

def ObjectivePolicy.default : ObjectivePolicy where
  minimumElapsedHours := 72

def nanosPerSecond : Int := 1000000000

section Assessment

variable (objective : GrowthObjective)

/-- The value the current pace reaches by the deadline. -/
def projectObjective (travelled : I64)
    (elapsed : Int) : Option I64 :=
  let elapsedSeconds := elapsed.tdiv nanosPerSecond
  let wholeSeconds := (objective.deadline - objective.declaredAt).tdiv nanosPerSecond
  if elapsedSeconds ≤ 0 || wholeSeconds ≤ 0 then
    none
  else
    let projectedTravel := (travelled.val * wholeSeconds).tdiv elapsedSeconds
    let signed :=
      match objective.direction with
      | .higherIsBetter => projectedTravel
      | .lowerIsBetter => -projectedTravel
    tryFrom (objective.baselineValue.val + signed)

/-- How far along, capped at complete and never negative. -/
def objectiveProgress (travelled distance : I64) : U32 :=
  if distance ≤ 0 || travelled ≤ 0 then
    0
  else
    saturate (min (travelled.val * 10000 / distance.val) 10000)

/-- How far the target lies from the baseline. -/
def objectiveDistance : I64 :=
  objective.direction.orient (objective.targetValue.saturatingSub objective.baselineValue)

/-- How far a value lies from the baseline. -/
def objectiveTravelled (observedValue : I64) : I64 :=
  objective.direction.orient (observedValue.saturatingSub objective.baselineValue)

/-- Where an objective stands, given the latest point of its series. -/
def assessObjective (observed : Option (I64 × OffsetDateTime)) (policy : ObjectivePolicy)
    (now : OffsetDateTime) : ObjectiveState :=
  match observed with
  | none => .unmeasurable .noObservation
  | some (observedValue, observedAt) =>
    let distance := objectiveDistance objective
    if distance = 0 then
      .unmeasurable .noDistanceToCover
    else
      let travelled := objectiveTravelled objective observedValue
      let progress := objectiveProgress travelled distance
      if travelled ≥ distance then
        .met progress
      else
        let shortfall :=
          max
            (objective.direction.orient (objective.targetValue.saturatingSub observedValue))
            0
        if now ≥ objective.deadline then
          .missed progress observedValue shortfall
        else
          let elapsed := observedAt - objective.declaredAt
          if elapsed < policy.minimumElapsedHours.val * nanosPerHour then
            .unmeasurable .tooEarlyToProject
          else
            match projectObjective objective travelled elapsed with
            | none => .unmeasurable .tooEarlyToProject
            | some projected =>
              if objective.direction.orient projected ≥
                  objective.direction.orient objective.targetValue then
                .onTrack progress projected
              else
                .behind progress projected shortfall

end Assessment

/-! ## The latest point of a series -/

structure GrowthMetricPoint where
  value : I64
  capturedAt : OffsetDateTime
  deriving Repr, DecidableEq

/-- The point that was captured last. -/
def latestSeriesValue
    (points : List GrowthMetricPoint) : Option (I64 × OffsetDateTime) :=
  (points.insertionSort fun one other =>
      other.capturedAt ≤ one.capturedAt).head?.map fun point =>
    (point.value, point.capturedAt)

/-- A series that has something to say keeps saying something as recent. -/
def ObservedBefore (earlier later : Option (I64 × OffsetDateTime)) : Prop :=
  ∀ point ∈ earlier, ∃ next ∈ later, point.2 ≤ next.2

theorem latestSeriesValue_eq_some {points : List GrowthMetricPoint}
    {latest : I64 × OffsetDateTime} (isLatest : latestSeriesValue points = some latest) :
    (∃ point ∈ points, (point.value, point.capturedAt) = latest) ∧
      ∀ point ∈ points, point.capturedAt ≤ latest.2 := by
  obtain ⟨first, isHead, rfl⟩ := Option.map_eq_some_iff.mp isLatest
  obtain ⟨rest, sorted⟩ :
      ∃ rest, StableRanking.descending GrowthMetricPoint.capturedAt points = first :: rest :=
    List.head?_eq_some_iff.mp isHead
  have permuted : (first :: rest).Perm points :=
    sorted ▸ StableRanking.descending_perm GrowthMetricPoint.capturedAt points
  have ordered :
      (first :: rest).Pairwise fun one other =>
        other.capturedAt ≤ one.capturedAt :=
    sorted ▸ StableRanking.descending_pairwise GrowthMetricPoint.capturedAt points
  refine ⟨⟨first, permuted.mem_iff.mp List.mem_cons_self, rfl⟩, ?_⟩
  intro point isPoint
  rcases List.mem_cons.mp (permuted.mem_iff.mpr isPoint) with rfl | isLater
  · exact Int.le_refl _
  · exact (List.pairwise_cons.mp ordered).1 point isLater

theorem observedBefore_latestSeriesValue (points more : List GrowthMetricPoint) :
    ObservedBefore (latestSeriesValue points) (latestSeriesValue (points ++ more)) := by
  intro latest isLatest
  obtain ⟨⟨point, isPoint, rfl⟩, _⟩ := latestSeriesValue_eq_some isLatest
  have isListed : point ∈ points ++ more := List.mem_append_left _ isPoint
  cases next : latestSeriesValue (points ++ more) with
  | none =>
    rw [latestSeriesValue, Option.map_eq_none_iff, List.head?_eq_none_iff] at next
    have permuted := (List.perm_insertionSort
        (fun one other : GrowthMetricPoint =>
          other.capturedAt ≤ one.capturedAt) (points ++ more))
    rw [next] at permuted
    cases permuted.mem_iff.mpr isListed
  | some later =>
    exact ⟨later, rfl, (latestSeriesValue_eq_some next).2 point isListed⟩

end CrowdRelay
