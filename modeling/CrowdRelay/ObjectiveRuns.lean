import Mathlib.Data.List.Chain
import CrowdRelay.Objectives

namespace CrowdRelay

open MachineInt Ranged

/-!
# When an objective's outcome is final

Met and missed are said to be final.  Over reads at later and later times with
later and later points, they are exactly where the series itself keeps to what
was read: it does not fall back once the target was reached, and does not
reach it after the deadline.
-/

structure ObjectiveRead where
  observed : Option (I64 × OffsetDateTime)
  now : OffsetDateTime
  deriving Repr, DecidableEq

/-- Neither the clock nor the latest point moves back. -/
structure ReadBefore (earlier later : ObjectiveRead) : Prop where
  clock : earlier.now ≤ later.now
  series : ObservedBefore earlier.observed later.observed

def TargetBeyondBaseline (objective : GrowthObjective) : Prop :=
  match objective.direction with
  | .higherIsBetter => objective.baselineValue.val < objective.targetValue.val
  | .lowerIsBetter => objective.targetValue.val < objective.baselineValue.val

variable (objective : GrowthObjective)

def assessedStates (policy : ObjectivePolicy)
    (reads : List ObjectiveRead) : List ObjectiveState :=
  reads.map fun read =>
    assessObjective objective read.observed policy read.now

structure KeepsOutcome (earlier later : ObjectiveState) : Prop where
  met : earlier.isMet = true → later.isMet = true
  missed : earlier.isMissed = true → later.isMissed = true

variable (read : ObjectiveRead)

/-- The value that was read is at the target or beyond it. -/
def ReachesTarget : Prop :=
  ∃ point ∈ read.observed, objectiveDistance objective ≤ objectiveTravelled objective point.1

/-- The value that was read is short of the target. -/
def FallsShort : Prop :=
  ∃ point ∈ read.observed, objectiveTravelled objective point.1 < objectiveDistance objective

/--
The series keeps to what a read found: at the target it stays there, and short
of it at the deadline it stays short.
-/
structure SeriesKeeps
    (objective : GrowthObjective)
    (earlier later : ObjectiveRead) : Prop where
  reached :
    ReachesTarget objective earlier → ReachesTarget objective later
  short :
    FallsShort objective earlier →
    objective.deadline ≤ earlier.now →
    FallsShort objective later

section Reads

variable {objective : GrowthObjective} {policy : ObjectivePolicy}
  {read earlier later : ObjectiveRead}

theorem objectiveDistance_ne_zero (beyond : TargetBeyondBaseline objective) :
    objectiveDistance objective ≠ 0 := by
  intro none
  have distance : (objectiveDistance objective).val = 0 := by
    rw [none]
    rfl
  unfold objectiveDistance MetricDirection.orient at distance
  unfold TargetBeyondBaseline at beyond
  cases direction : objective.direction with
  | higherIsBetter =>
    rw [direction] at distance beyond
    dsimp only at distance beyond
    rw [val_saturatingSub] at distance
    omega
  | lowerIsBetter =>
    rw [direction] at distance beyond
    dsimp only at distance beyond
    rw [val_saturate, val_saturatingSub] at distance
    omega

theorem isMet_assessObjective (beyond : TargetBeyondBaseline objective) :
    (assessObjective objective read.observed policy read.now).isMet = true ↔
      ReachesTarget objective read := by
  unfold assessObjective ReachesTarget
  cases read.observed with
  | none => simp [ObjectiveState.isMet]
  | some point =>
    dsimp only
    rw [if_neg (objectiveDistance_ne_zero beyond)]
    split
    · rename_i reached
      exact ⟨fun _ => ⟨point, rfl, reached⟩, fun _ => rfl⟩
    · rename_i unreached
      constructor
      · intro isMet
        split at isMet
        · cases isMet
        · split at isMet
          · cases isMet
          · split at isMet
            · cases isMet
            · split at isMet <;> cases isMet
      · rintro ⟨other, isOther, reached⟩
        obtain rfl := Option.some.inj isOther
        exact absurd reached unreached

theorem isMissed_assessObjective (beyond : TargetBeyondBaseline objective) :
    (assessObjective objective read.observed policy read.now).isMissed = true ↔
      FallsShort objective read ∧ objective.deadline ≤ read.now := by
  unfold assessObjective FallsShort
  cases read.observed with
  | none => simp [ObjectiveState.isMissed]
  | some point =>
    dsimp only
    rw [if_neg (objectiveDistance_ne_zero beyond)]
    split
    · rename_i reached
      constructor
      · intro isMissed
        cases isMissed
      · rintro ⟨⟨other, isOther, short⟩, _⟩
        obtain rfl := Option.some.inj isOther
        exact absurd reached (not_le.mpr short)
    · rename_i unreached
      split
      · rename_i past
        exact ⟨fun _ => ⟨⟨point, rfl, not_le.mp unreached⟩, past⟩, fun _ => rfl⟩
      · rename_i running
        constructor
        · intro isMissed
          split at isMissed
          · cases isMissed
          · split at isMissed
            · cases isMissed
            · split at isMissed <;> cases isMissed
        · rintro ⟨_, past⟩
          exact absurd past running

theorem keepsOutcome_iff (beyond : TargetBeyondBaseline objective)
    (ordered : ReadBefore earlier later) :
    KeepsOutcome (assessObjective objective earlier.observed policy earlier.now)
        (assessObjective objective later.observed policy later.now) ↔
      SeriesKeeps objective earlier later := by
  constructor
  · intro keeps
    refine { reached := fun reached => ?_, short := fun short past => ?_ }
    · exact (isMet_assessObjective beyond).mp
          (keeps.met ((isMet_assessObjective beyond).mpr reached))
    · exact ((isMissed_assessObjective beyond).mp
          (keeps.missed ((isMissed_assessObjective beyond).mpr ⟨short, past⟩))).1
  · intro keeps
    refine { met := fun isMet => ?_, missed := fun isMissed => ?_ }
    · exact (isMet_assessObjective beyond).mpr
          (keeps.reached ((isMet_assessObjective beyond).mp isMet))
    · obtain ⟨short, past⟩ := (isMissed_assessObjective beyond).mp isMissed
      exact (isMissed_assessObjective beyond).mpr
          ⟨keeps.short short past, Int.le_trans past ordered.clock⟩

end Reads

/-! ## Whole series of reads -/

theorem ReadBefore.trans {first second third : ObjectiveRead}
    (before : ReadBefore first second) (after : ReadBefore second third) :
    ReadBefore first third :=
  { clock := Int.le_trans before.clock after.clock
    series := by
      intro point isPoint
      obtain ⟨next, isNext, early⟩ := before.series point isPoint
      obtain ⟨last, isLast, late⟩ := after.series next isNext
      exact ⟨last, isLast, Int.le_trans early late⟩ }

/-- A read in order to which the series keeps. -/
def CarriesOver
    (earlier later : ObjectiveRead) : Prop :=
  ReadBefore earlier later ∧ SeriesKeeps objective earlier later

/-- What carries over from read to read carries over from any to any. -/
instance carriesOver_trans (objective : GrowthObjective) :
    Trans (CarriesOver objective) (CarriesOver objective) (CarriesOver objective) where
  trans := by
    rintro first second third ⟨before, keeps⟩ ⟨after, stillKeeps⟩
    refine
      ⟨before.trans after,
        { reached := fun reached => stillKeeps.reached (keeps.reached reached)
          short := fun short past => ?_ }⟩
    exact stillKeeps.short (keeps.short short past) (Int.le_trans past before.clock)

theorem isChain_carriesOver {objective : GrowthObjective} {reads : List ObjectiveRead}
    (ordered : reads.Pairwise ReadBefore) (keeps : reads.IsChain (SeriesKeeps objective)) :
    reads.IsChain (CarriesOver objective) := by
  induction reads with
  | nil => exact .nil
  | cons first rest inductionHypothesis =>
    obtain ⟨before, orderedRest⟩ := List.pairwise_cons.mp ordered
    cases rest with
    | nil => exact .singleton first
    | cons second later =>
      obtain ⟨kept, keepsRest⟩ := List.isChain_cons_cons.mp keeps
      exact List.isChain_cons_cons.mpr
          ⟨⟨before second List.mem_cons_self, kept⟩, inductionHypothesis orderedRest keepsRest⟩

/--
Once met is always met, and once missed always missed, exactly where from each
read to the next the series keeps to what was read.
-/
theorem outcomes_terminal_iff
    (objective : GrowthObjective)
    (policy : ObjectivePolicy)
    (reads : List ObjectiveRead)
    (beyond : TargetBeyondBaseline objective)
    (ordered : reads.Pairwise ReadBefore) :
    (assessedStates objective policy reads).Pairwise KeepsOutcome ↔
      reads.IsChain (SeriesKeeps objective) := by
  rw [assessedStates, List.pairwise_map]
  constructor
  · intro terminal
    refine List.Pairwise.isChain ?_
    exact
      (terminal.and ordered).imp fun kept =>
        (keepsOutcome_iff beyond kept.2).mp kept.1
  · intro keeps
    have carried : reads.Pairwise (CarriesOver objective) :=
      (isChain_carriesOver ordered keeps).pairwise
    exact carried.imp fun kept => (keepsOutcome_iff beyond kept.1).mpr kept.2

/-! ## Reads of a growing series -/

/-- The points that came in since the last read, and the time of the read. -/
structure SeriesCycle where
  points : List GrowthMetricPoint
  now : OffsetDateTime

def seriesReads :
    List GrowthMetricPoint → List SeriesCycle → List ObjectiveRead
  | _, [] => []
  | stored, cycle :: later =>
    { observed := latestSeriesValue (stored ++ cycle.points)
      now := cycle.now } ::
      seriesReads (stored ++ cycle.points) later

variable {cycles : List SeriesCycle}

theorem mem_seriesReads {stored : List GrowthMetricPoint} {read : ObjectiveRead}
    (isRead : read ∈ seriesReads stored cycles) :
    ∃ more,
      ∃ cycle ∈ cycles,
        read =
          { observed := latestSeriesValue (stored ++ more)
            now := cycle.now } := by
  induction cycles generalizing stored with
  | nil => cases isRead
  | cons cycle later inductionHypothesis =>
    rcases List.mem_cons.mp isRead with rfl | isLater
    · exact ⟨cycle.points, cycle, List.mem_cons_self, rfl⟩
    · obtain ⟨more, other, isOther, rfl⟩ := inductionHypothesis isLater
      refine ⟨cycle.points ++ more, other, List.mem_cons_of_mem _ isOther, ?_⟩
      rw [List.append_assoc]

/-- Two hundred trackers wanted from a hundred, by the hundredth day. -/
def doubledTrackers : GrowthObjective where
  direction := .higherIsBetter
  baselineValue := 100
  targetValue := 200
  declaredAt := 0
  deadline := 100 * 24 * nanosPerHour

def readOnDay (day : Int) (value : I64) : ObjectiveRead where
  observed := some (value, day * 24 * nanosPerHour)
  now := day * 24 * nanosPerHour

theorem doubledTrackers_beyond : TargetBeyondBaseline doubledTrackers := by
  change (100 : Int) < 200
  decide

theorem readOnDay_before {day next : Int} (inOrder : day ≤ next) (value later : I64) :
    ReadBefore (readOnDay day value) (readOnDay next later) := by
  have clock : day * 24 * nanosPerHour ≤ next * 24 * nanosPerHour := by
    unfold nanosPerHour
    omega
  refine { clock := clock, series := fun point isPoint => ?_ }
  obtain rfl := Option.some.inj isPoint
  exact ⟨_, rfl, clock⟩

theorem reachedAndKept_terminal :
    TargetBeyondBaseline doubledTrackers ∧
      ((assessedStates doubledTrackers .default
          [readOnDay 50 210, readOnDay 60 220]).Pairwise KeepsOutcome ↔
        [readOnDay 50 210, readOnDay 60 220].IsChain
          (SeriesKeeps doubledTrackers)) :=
  ⟨doubledTrackers_beyond,
    outcomes_terminal_iff doubledTrackers .default _ doubledTrackers_beyond
      (List.pairwise_pair.mpr (readOnDay_before (by decide) 210 220))⟩

/-- The series reaches the target and falls back: met, and behind again. -/
theorem fellBack_unmeets :
    ¬ ∀ objective policy reads,
        TargetBeyondBaseline objective →
        List.Pairwise ReadBefore reads →
        (assessedStates objective policy reads).Pairwise KeepsOutcome := by
  intro terminal
  have kept := terminal doubledTrackers .default [readOnDay 50 210, readOnDay 60 120]
      doubledTrackers_beyond
      (List.pairwise_pair.mpr (readOnDay_before (by decide) 210 120))
  rw [assessedStates, List.map_cons, List.map_singleton, List.pairwise_pair]
    at kept
  exact absurd (kept.met (by decide +kernel)) (by decide +kernel)

end CrowdRelay
