import CrowdRelay.EvidenceHorizons

namespace CrowdRelay

open Machine Watermark

/-!
# What runs read of a horizon

What the learner has still to read of a horizon only grows by what is written
in time, and a replay reads all of it.  So over a whole run it reads what was
written in time, each value once.
-/

namespace Horizon

variable {Value : Type}

/-- An outcome stays once it is written, with its stamp, which wakes replays. -/
structure Lawful (horizon : Horizon Value) : Prop where
  stamp_mem :
    ∀ row time, horizon.stamp row = some time → time ∈ row.stamps
  stamped :
    ∀ row : EvidenceRow,
      row.Sound →
      (horizon.outcome row).isSome = true →
      (horizon.stamp row).isSome = true
  kept :
    ∀ now before after held,
      RowStep now before after →
      before.Sound →
      horizon.outcome before = some held →
      horizon.outcome after = some held ∧
        horizon.stamp after = horizon.stamp before

variable (horizon : Horizon Value) (action : Uuid)

/-- What the learner has still to read of the action's outcome. -/
def dueOf (state : LearningState) : List Value :=
  match state.store.row? action with
  | some row =>
    if row.reachesLearner then due state.cursor (horizon.stamp row) (horizon.outcome row) else []
  | none => []

/-- What an event reads of the action's outcome. -/
def reads (state : LearningState) (event : TimedAct) : List Value :=
  match event.act with
  | .replay => horizon.dueOf action state
  | _ => []

variable [DecidableEq Value]

/-- What an event writes to the outcome of the action's row. -/
def writes (state : LearningState) (event : TimedAct) : List Value :=
  written
    ((state.store.row? action).bind horizon.outcome)
    (((state.store.apply event).row? action).bind horizon.outcome)

/-- Everything a run writes to the outcome. -/
def writtenOver (start : LearningState) (events : List TimedAct) : List Value :=
  (learner.visits start events).flatMap fun visit =>
    horizon.writes action visit.1 visit.2

/-- What an event writes to the action's outcome in time to be read. -/
def onTime (state : LearningState) (event : TimedAct) : List Value :=
  match state.store.row? action, (state.store.apply event).row? action with
  | some before, some after =>
    if before.reachesLearner then
      writtenOnTime state.cursor (horizon.stamp after)
        (horizon.outcome before) (horizon.outcome after)
    else
      []
  | _, _ => []

end Horizon

theorem y14Horizon_lawful : y14Horizon.Lawful where
  stamp_mem := by
    intro row time isStamp
    rw [mem_stamps_iff]
    rcases Option.or_eq_some_iff.mp isStamp with stamped | ⟨_, resolved⟩
    · exact Or.inr (Or.inr (Or.inl stamped))
    · exact Or.inl resolved
  stamped := fun _ sound => sound.y14
  kept := by
    intro now before after held stepped sound isHeld
    change before.observedIncrementalFans = some held at isHeld
    have written : before.observedIncrementalFans.isSome = true := by
      rw [isHeld]
      rfl
    obtain ⟨time, isStamp⟩ := Option.isSome_iff_exists.mp (sound.y14 written)
    exact ⟨(stepped.y14.kept written).trans isHeld,
      (stepped.stamp14d_kept isStamp).trans isStamp.symm⟩

theorem y30Horizon_lawful : y30Horizon.Lawful where
  stamp_mem := by
    intro row time isStamp
    rw [mem_stamps_iff]
    rcases Option.or_eq_some_iff.mp isStamp with stamped | ⟨_, resolved⟩
    · exact Or.inr (Or.inr (Or.inr (Or.inl stamped)))
    · exact Or.inl resolved
  stamped := fun _ sound => sound.y30
  kept := by
    intro now before after held stepped sound isHeld
    change before.durableFans30d = some held at isHeld
    have written : before.durableFans30d.isSome = true := by
      rw [isHeld]
      rfl
    obtain ⟨time, isStamp⟩ := Option.isSome_iff_exists.mp (sound.y30 written)
    exact ⟨(stepped.y30.kept written).trans isHeld,
      (stepped.stamp30d_kept isStamp).trans isStamp.symm⟩

theorem max_eq_some {first second : Option OffsetDateTime} {time : OffsetDateTime}
    (isMax : max first second = some time) :
    first = some time ∨ second = some time := by
  cases first with
  | none => exact Or.inr (by simpa using isMax)
  | some stamp =>
    cases second with
    | none => exact Or.inl (by simpa using isMax)
    | some other =>
      rw [Option.max_some_some] at isMax
      rcases max_choice stamp other with isFirst | isSecond
      · rw [isFirst] at isMax
        exact Or.inl isMax
      · rw [isSecond] at isMax
        exact Or.inr isMax

theorem pairHorizon_outcome_eq_some {row : EvidenceRow} {pair : ℚ × ℚ} :
    pairHorizon.outcome row = some pair ↔
      y14Horizon.outcome row = some pair.1 ∧ y30Horizon.outcome row = some pair.2 := by
  simp only [pairHorizon, y14Horizon, y30Horizon, Option.bind_eq_some_iff, Option.map_eq_some_iff]
  constructor
  · rintro ⟨y14, isY14, y30, isY30, rfl⟩
    exact ⟨isY14, isY30⟩
  · rintro ⟨isY14, isY30⟩
    exact ⟨pair.1, isY14, pair.2, isY30, rfl⟩

theorem pairHorizon_lawful : pairHorizon.Lawful where
  stamp_mem := by
    intro row time isStamp
    rcases max_eq_some isStamp with isFirst | isSecond
    · exact y14Horizon_lawful.stamp_mem row time isFirst
    · exact y30Horizon_lawful.stamp_mem row time isSecond
  stamped := by
    intro row sound written
    obtain ⟨pair, isPair⟩ := Option.isSome_iff_exists.mp written
    obtain ⟨isY14, isY30⟩ := pairHorizon_outcome_eq_some.mp isPair
    obtain ⟨first, isFirst⟩ := Option.isSome_iff_exists.mp
        (y14Horizon_lawful.stamped row sound (by rw [isY14]; rfl))
    obtain ⟨second, isSecond⟩ := Option.isSome_iff_exists.mp
        (y30Horizon_lawful.stamped row sound (by rw [isY30]; rfl))
    change (max (y14Horizon.stamp row) (y30Horizon.stamp row)).isSome = true
    rw [isFirst, isSecond]
    rfl
  kept := by
    intro now before after pair stepped sound isPair
    obtain ⟨isY14, isY30⟩ := pairHorizon_outcome_eq_some.mp isPair
    obtain ⟨y14, stamp14d⟩ := y14Horizon_lawful.kept now before after pair.1 stepped sound isY14
    obtain ⟨y30, stamp30d⟩ := y30Horizon_lawful.kept now before after pair.2 stepped sound isY30
    refine ⟨pairHorizon_outcome_eq_some.mpr ⟨y14, y30⟩, ?_⟩
    exact congrArg₂ max stamp14d stamp30d

namespace Horizon

variable {Value : Type} {horizon : Horizon Value} {action : Uuid} {state : LearningState}
  {event : TimedAct}

theorem dueOf_replay (lawful : horizon.Lawful) (sound : state.Sound action)
    (replays : event.act = .replay) :
    horizon.dueOf action (learner.step state event).1 = [] := by
  obtain ⟨row, found, rowSound⟩ := sound.row
  rw [learner_step_of_replay replays]
  simp only [dueOf, found]
  cases reaches : row.reachesLearner with
  | false => rfl
  | true =>
    simp only [if_true]
    refine due_of_passed ?_
    intro time isStamp
    have isRowStamp := lawful.stamp_mem row time isStamp
    by_cases past : state.cursor < time
    · have read : row ∈ state.store.loadGrowthEvidence (some state.cursor) := List.mem_filter.mpr
          ⟨EvidenceStore.row?_mem found,
            readAfter_of_stamp rowSound.wakeable reaches isRowStamp past⟩
      exact stamp_le_readCursor read isRowStamp state.cursor
    · exact le_trans (not_lt.mp past) (le_advanceCursor _ _)

variable [DecidableEq Value]

theorem onTime_sublist (event : TimedAct) :
    (horizon.onTime action state event).Sublist (horizon.writes action state event) := by
  simp only [onTime]
  split
  · rename_i before after found afterFound
    simp only [writes, found, afterFound, Option.bind_some]
    split
    · exact writtenOnTime_sublist _ _
    · exact List.nil_sublist _
  · exact List.nil_sublist _

theorem dueOf_write (lawful : horizon.Lawful) (sound : state.Sound action)
    (writing : event.act ≠ .replay) :
    horizon.dueOf action (learner.step state event).1 =
      horizon.dueOf action state ++ horizon.onTime action state event := by
  obtain ⟨before, found, beforeSound⟩ := sound.row
  obtain ⟨after, afterFound, stepped⟩ := EvidenceStore.apply_row? event found beforeSound.treatment
  rw [learner_step_of_ne_replay writing]
  simp only [dueOf, onTime, found, afterFound, stepped.reachesLearner_eq]
  cases reaches : before.reachesLearner with
  | false => rfl
  | true =>
    simp only [if_true]
    refine due_after_write ?_
    intro held isHeld
    obtain ⟨outcomeKept, stampKept⟩ := lawful.kept _ _ _ held stepped beforeSound isHeld
    exact ⟨outcomeKept.trans isHeld.symm, stampKept⟩

theorem onTime_of_replay (replays : event.act = .replay) :
    horizon.onTime action state event = [] := by
  simp only [onTime, apply_of_replay replays]
  split
  · rename_i before after found afterFound
    rw [found] at afterFound
    rw [Option.some.inj afterFound, writtenOnTime, written_self]
    simp
  · rfl

theorem dueOf_step (lawful : horizon.Lawful) (sound : state.Sound action) (event : TimedAct) :
    horizon.reads action state event ++ horizon.dueOf action (learner.step state event).1 =
      horizon.dueOf action state ++ horizon.onTime action state event := by
  by_cases replays : event.act = .replay
  · rw [dueOf_replay lawful sound replays, onTime_of_replay replays, reads,
      replays]
  · have readsNothing : horizon.reads action state event = [] := by
      unfold reads
      split
      · rename_i isReplay
        exact absurd isReplay replays
      · rfl
    rw [dueOf_write lawful sound replays, readsNothing, List.nil_append]

theorem reads_append_dueOf (lawful : horizon.Lawful) (sound : state.Sound action)
    {events : List TimedAct}
    (forward : ∀ visit ∈ learner.visits state events, visit.1.clock < visit.2.now) :
    ((learner.visits state events).flatMap fun visit =>
          horizon.reads action visit.1 visit.2) ++
        horizon.dueOf action (learner.final state events) =
      horizon.dueOf action state ++ (learner.visits state events).flatMap fun visit =>
          horizon.onTime action visit.1 visit.2 := by
  have conserved :
      ∀ (state : LearningState) (event : TimedAct),
        state.clock < event.now →
        state.Sound action →
        horizon.reads action state event ++ horizon.dueOf action (learner.step state event).1 =
          horizon.dueOf action state ++ horizon.onTime action state event :=
    fun _ event _ sound => dueOf_step lawful sound event
  exact learner.flow_conserved (horizon.dueOf action)
    (horizon.onTime action) (horizon.reads action) (fun _ => rfl)
    learner_preserves_sound conserved sound forward

end Horizon

variable {start : LearningState} {events : List TimedAct}

/-- Time only moves forward over the events. -/
def Forward (start : LearningState) (events : List TimedAct) : Prop :=
  (start.clock :: events.map TimedAct.now).Pairwise (· < ·)

def thenReplay (events : List TimedAct)
    (last : OffsetDateTime) : List TimedAct :=
  events ++ [⟨last, .replay⟩]

@[simp] theorem learner_step_clock (event : TimedAct) :
    (learner.step start event).1.clock = event.now := by
  by_cases replays : event.act = .replay
  · rw [learner_step_of_replay replays]
  · rw [learner_step_of_ne_replay replays]

theorem Forward.visits (forward : Forward start events) :
    ∀ visit ∈ learner.visits start events, visit.1.clock < visit.2.now := by
  induction events generalizing start with
  | nil =>
    intro visit member
    cases member
  | cons event later inductionHypothesis =>
    rw [learner.visits_cons (fun _ => rfl)]
    obtain ⟨first, rest⟩ := List.pairwise_cons.mp forward
    have stepped : Forward (learner.step start event).1 later := by
      rw [Forward, learner_step_clock]
      exact rest
    intro visit member
    rcases List.mem_cons.mp member with isFirst | inRest
    · rw [isFirst]
      exact first event.now List.mem_cons_self
    · exact inductionHypothesis stepped visit inRest

theorem Forward.sound {action : Uuid} (forward : Forward start events)
    (sound : start.Sound action) :
    (learner.final start events).Sound action ∧
      ∀ visit ∈ learner.visits start events, visit.1.Sound action := by
  exact learner.final_invariant_of_visits learner_preserves_sound sound forward.visits

theorem Forward.of_append {later : List TimedAct} (forward : Forward start (events ++ later)) :
    Forward start events := by
  refine List.Pairwise.sublist ?_ forward
  rw [List.map_append]
  exact (List.sublist_append_left _ _).cons_cons start.clock

variable {action : Uuid} {last : OffsetDateTime}

section Over

variable {Value : Type} {horizon : Horizon Value}

theorem Horizon.dueOf_start (starts : start.Starts action)
    (unmeasured : ∀ row : EvidenceRow, row.AtDispatch → horizon.outcome row = none) :
    horizon.dueOf action start = [] := by
  obtain ⟨row, found, dispatched⟩ := starts.row
  simp [Horizon.dueOf, found, unmeasured row dispatched]

theorem LearningState.Starts.sound (starts : start.Starts action) : start.Sound action := by
  obtain ⟨row, found, dispatched⟩ := starts.row
  exact ⟨starts.timely, row, found, dispatched.sound⟩

variable [DecidableEq Value]

theorem Horizon.flatMap_reads (lawful : horizon.Lawful) (sound : start.Sound action)
    (nothingDue : horizon.dueOf action start = [])
    (forward : Forward start (thenReplay events last)) :
    ((learner.visits start (thenReplay events last)).flatMap fun visit =>
        horizon.reads action visit.1 visit.2) =
      (learner.visits start (thenReplay events last)).flatMap fun visit =>
        horizon.onTime action visit.1 visit.2 := by
  have conserved := reads_append_dueOf lawful sound forward.visits
  have atEnd : horizon.dueOf action (learner.final start (thenReplay events last)) = [] := by
    rw [thenReplay, learner.final_append (fun _ => rfl), learner.final_cons]
    exact dueOf_replay lawful (forward.of_append.sound sound).1 rfl
  rw [atEnd, nothingDue, List.append_nil, List.nil_append] at conserved
  exact conserved

end Over

/-!
## Learning every horizon once

A stamp is set by the first attempt that finishes, whether or not it brings
the outcome, and by either of two kinds of measurement.  A replay between the
stamp and the outcome reads past the outcome for good.
-/

section Learning

variable {Value Learned : Type} {horizon : Horizon Value} {learned : ModelUpdate → Option Learned}
  {teaches : GrowthEvidence → (Uuid → ControlMean) → Value → List Learned} {state : LearningState}

/-- What an event teaches of a treated row is what it reads of the horizon. -/
theorem learnedOf_step (lawful : horizon.Lawful) (taught : horizon.Taught learned teaches)
    (sound : state.Sound action) {row : EvidenceRow}
    (found : state.store.row? action = some row) (event : TimedAct) :
    learnedOf learned action (learner.step state event).2 =
      (horizon.reads action state event).flatMap
        (teaches row.toGrowthEvidence (deltaMeans state.store state.cursor)) := by
  obtain ⟨row', found', rowSound⟩ := sound.row
  rw [found] at found'
  rw [← Option.some.inj found'] at rowSound
  by_cases replays : event.act = .replay
  · simp only [learnedOf, learner_step_of_replay replays,
      deltaReplay_filter found, Horizon.reads, replays, Horizon.dueOf, found]
    cases read : row.readAfter (some state.cursor) with
    | true =>
      simp only [if_true, List.flatMap_cons, List.flatMap_nil, List.append_nil]
      rw [taught row (some state.cursor) _ rowSound.treatment]
      have known : row.executionStatus != some .unknown := by
        rw [EvidenceRow.readAfter, EvidenceRow.learnable] at read
        exact (Bool.and_eq_true_iff.mp (Bool.and_eq_true_iff.mp read).1).2
      rw [EvidenceRow.reachesLearner, known, Bool.and_true]
      cases row.outcomeBasis.teachesPerAction <;> rfl
    | false =>
      simp only [Bool.false_eq_true, if_false, List.flatMap_nil]
      cases reaches : row.reachesLearner with
      | false => rfl
      | true =>
        have nothingDue : due state.cursor (horizon.stamp row) (horizon.outcome row) = [] := by
          refine due_of_not_fresh ?_
          rintro ⟨time, isStamp, past⟩
          have woken := readAfter_of_stamp rowSound.wakeable reaches
              (lawful.stamp_mem row time isStamp) past
          rw [read] at woken
          cases woken
        rw [if_pos rfl, nothingDue]
        rfl
  · have readsNothing : horizon.reads action state event = [] := by
      unfold Horizon.reads
      split
      · rename_i isReplay
        exact absurd isReplay replays
      · rfl
    rw [readsNothing, learner_step_of_ne_replay replays]
    rfl

end Learning

/--
When the event measures the outcome for the first time, the learner reaches
the row, and has not read past the stamp the outcome goes by.
-/
def Horizon.InTime (horizon : Horizon ℚ) (kind : AutopilotMeasurementKind) (action : Uuid)
    (state : LearningState)
    (event : TimedAct) : Prop :=
  ∀ row, state.store.row? action = some row →
    horizon.outcome row = none →
    (state.store.measures kind action event).isSome = true →
    row.reachesLearner = true ∧ ∀ stamped, horizon.stamp row = some stamped → state.cursor < stamped

/-- No replay has read past the outcomes the event measures. -/
def MeasuresInTime (action : Uuid) (state : LearningState)
    (event : TimedAct) : Prop :=
  y14Horizon.InTime .incrementalFanGrowth14d action state event ∧
    y30Horizon.InTime .durableFanGrowth30d action state event

/--
Each value that is written to an outcome updates the outcome's posterior
exactly once.
-/
def LearnsOnce (action : Uuid) (start : LearningState)
    (events : List TimedAct) : Prop :=
  (learnedOver y14Effect action start events).map
        ContrastedOutcome.outcome =
      y14Horizon.writtenOver action start events ∧
    (learnedOver y30Effect action start events).map
        ContrastedOutcome.outcome =
      y30Horizon.writtenOver action start events

/-- An outcome that is measured, and how its stamp is set. -/
structure Horizon.MeasuredBy
    (horizon : Horizon ℚ)
    (kind : AutopilotMeasurementKind) : Prop where
  takes :
    ∀ measured before after,
      EvidenceStore.TakesOutcomes measured before after →
      horizon.outcome after = (horizon.outcome before).or (measured kind)
  stamped :
    ∀ now before after,
      RowStep now before after →
      horizon.outcome before = none →
      (horizon.outcome after).isSome = true →
      (horizon.stamp after).isSome = true
  stamp_kept :
    ∀ now before after time,
      RowStep now before after →
      horizon.stamp before = some time → horizon.stamp after = some time
  stamp_now :
    ∀ now before after time,
      RowStep now before after →
      horizon.stamp before = none → horizon.stamp after = some time →
      time = now

theorem y14Horizon_measuredBy :
    y14Horizon.MeasuredBy .incrementalFanGrowth14d where
  takes := fun _ _ _ takes => takes.y14
  stamped := fun _ _ _ stepped => stepped.y14.stamped
  stamp_kept := fun _ _ _ _ stepped => stepped.stamp14d_kept
  stamp_now := fun _ _ _ _ stepped =>
    stepped.stamped14d.or_eq_now stepped.resolved

theorem y30Horizon_measuredBy :
    y30Horizon.MeasuredBy .durableFanGrowth30d where
  takes := fun _ _ _ takes => takes.y30
  stamped := fun _ _ _ stepped => stepped.y30.stamped
  stamp_kept := fun _ _ _ _ stepped => stepped.stamp30d_kept
  stamp_now := fun _ _ _ _ stepped =>
    stepped.stamped30d.or_eq_now stepped.resolved

section Once

variable {horizon : Horizon ℚ} {kind : AutopilotMeasurementKind} {state start : LearningState}

theorem Horizon.onTime_eq_writes_iff (measuredBy : horizon.MeasuredBy kind)
    (sound : state.Sound action) {event : TimedAct} (later : state.clock < event.now) :
    horizon.onTime action state event = horizon.writes action state event ↔
      horizon.InTime kind action state event := by
  obtain ⟨before, found, beforeSound⟩ := sound.row
  obtain ⟨after, afterFound, stepped⟩ := EvidenceStore.apply_row? event found beforeSound.treatment
  have takes := measuredBy.takes _ _ _
      (EvidenceStore.apply_takesOutcomes event found beforeSound.treatment afterFound)
  simp only [onTime, writes, InTime, found, afterFound, Option.bind_some,
    Option.some.injEq, forall_eq']
  cases column : horizon.outcome before with
  | some held =>
    -- an outcome that is there already is not written again
    rw [column, Option.some_or] at takes
    simp [takes, writtenOnTime]
  | none =>
    rw [column, Option.none_or] at takes
    rw [takes]
    cases measured : state.store.measures kind action event with
    | none => simp [writtenOnTime]
    | some outcome =>
      rw [measured] at takes
      obtain ⟨time, isStamp⟩ := Option.isSome_iff_exists.mp
          (measuredBy.stamped _ _ _ stepped column (by rw [takes]; rfl))
      simp only [Option.isSome_some, true_implies]
      cases reaches : before.reachesLearner with
      | false => simp [written]
      | true =>
        simp only [if_true, true_and]
        rw [writtenOnTime_eq_iff, isStamp, fresh_some]
        simp only [written_of_none, Option.toList_some, List.cons_ne_nil, false_or]
        constructor
        · intro past stamped isStamped
          have same := measuredBy.stamp_kept _ _ _ stamped stepped isStamped
          rw [isStamp] at same
          rw [← Option.some.inj same]
          exact past
        · intro pastStamp
          cases stampBefore : horizon.stamp before with
          | none =>
            rw [measuredBy.stamp_now _ _ _ time stepped stampBefore isStamp]
            exact lt_of_le_of_lt sound.timely.cursor later
          | some stamped =>
            have same := measuredBy.stamp_kept _ _ _ stamped stepped stampBefore
            rw [isStamp] at same
            rw [Option.some.inj same]
            exact pastStamp stamped stampBefore

theorem Horizon.flatMap_reads_eq_writtenOver_iff (lawful : horizon.Lawful)
    (measuredBy : horizon.MeasuredBy kind) (sound : start.Sound action)
    (nothingDue : horizon.dueOf action start = [])
    (forward : Forward start (thenReplay events last)) :
    ((learner.visits start (thenReplay events last)).flatMap fun visit =>
          horizon.reads action visit.1 visit.2) =
        horizon.writtenOver action start (thenReplay events last) ↔
      ∀ visit ∈ learner.visits start (thenReplay events last),
        horizon.InTime kind action visit.1 visit.2 := by
  rw [horizon.flatMap_reads lawful sound nothingDue forward, Horizon.writtenOver,
    flatMap_eq_iff (fun visit _ => horizon.onTime_sublist visit.2)]
  refine forall₂_congr ?_
  intro visit member
  exact onTime_eq_writes_iff measuredBy ((forward.sound sound).2 visit member)
    (forward.visits visit member)

theorem learnedOver_map_outcome {learned : ModelUpdate → Option ContrastedOutcome}
    {teaches :
      GrowthEvidence → (Uuid → ControlMean) → ℚ → List ContrastedOutcome}
    (lawful : horizon.Lawful)
    (taught : horizon.Taught learned teaches)
    (outcomes :
      ∀ ev means outcome, (teaches ev means outcome).map ContrastedOutcome.outcome = [outcome])
    (sound : start.Sound action)
    (forward : Forward start events) :
    (learnedOver learned action start events).map ContrastedOutcome.outcome =
      (learner.visits start events).flatMap fun visit =>
        horizon.reads action visit.1 visit.2 := by
  rw [learnedOver, List.map_flatMap]
  refine List.flatMap_congr ?_
  intro visit member
  have visitSound := (forward.sound sound).2 visit member
  obtain ⟨row, found, _⟩ := visitSound.row
  rw [learnedOf_step lawful taught visitSound found, List.map_flatMap]
  simp only [outcomes, List.flatMap_singleton']

/--
Each outcome of a dispatch is learned exactly once over a run exactly when
every measurement that brings one finds its stamp still to be read.
-/
theorem learnsOnce_iff
    (starts : start.Starts action)
    (forward : Forward start (thenReplay events last)) :
    LearnsOnce action start (thenReplay events last) ↔
      ∀ visit ∈ learner.visits start (thenReplay events last),
        MeasuresInTime action visit.1 visit.2 := by
  have y14 := Horizon.flatMap_reads_eq_writtenOver_iff y14Horizon_lawful
      y14Horizon_measuredBy starts.sound
      (Horizon.dueOf_start starts fun _ dispatched => dispatched.y14) forward
  have y30 := Horizon.flatMap_reads_eq_writtenOver_iff y30Horizon_lawful
      y30Horizon_measuredBy starts.sound
      (Horizon.dueOf_start starts fun _ dispatched => dispatched.y30) forward
  rw [LearnsOnce,
    learnedOver_map_outcome y14Horizon_lawful y14Horizon_taught
      (fun _ _ _ => rfl) starts.sound forward,
    learnedOver_map_outcome y30Horizon_lawful y30Horizon_taught
      (fun _ _ _ => rfl) starts.sound forward, y14, y30]
  constructor
  · rintro ⟨inTime14, inTime30⟩ visit member
    exact ⟨inTime14 visit member, inTime30 visit member⟩
  · intro inTime
    exact ⟨fun visit member => (inTime visit member).1,
      fun visit member => (inTime visit member).2⟩

end Once

/-- A treated dispatch of which nothing is measured yet. -/
def dispatchedRow (action : Uuid) : EvidenceRow where
  opportunityId := none
  actionId := some action
  timestamp := 0
  targetKey := none
  creativeFamily := none
  treatment := .treatment
  executionStatus := some .executed
  observedFans := none
  observedIncrementalFans := none
  observedIncrementalFans3d := none
  durableFans30d := none
  predictedFans := 4
  predictedSignalInstalls := 0
  decisionPosterior := none
  context :=
    { daysToEvent := none
      fanGrowthTrend := .steady
      subredditType := none
      postFormat := none
      timeOfDayBps := 0
      communityNoveltyBps := 0
      avgCommunityEngagementBps := 0 }
  strategy := some "tour"
  evidenceQuality := .observational
  experimentAssignmentId := none
  experimentUuid := none
  finalContamination := none
  resolvedAt := none
  partialResolutionCount := 0
  replayed3dAt := none
  replayed14dAt := none
  replayed30dAt := none
  observedMetrics := []
  outcomeBasis := .attributed
  assignedAt := 0
  experimentKind := none
  unitIsTargetCommunity := false
  lastPartialResolutionAt := none

/-- A learner that knows nothing, and one dispatch to be measured. -/
def newLearner : LearningState where
  store :=
    { evidence := [dispatchedRow 7]
      measurements :=
        [{ id := 14
           actionId := 7
           kind := .incrementalFanGrowth14d
           status := .pending
           attemptCount := 0 },
         { id := 30
           actionId := 7
           kind := .durableFanGrowth30d
           status := .pending
           attemptCount := 0 }]
      actionsDistinct := List.nodup_singleton _ }
  cursor := 0
  clock := 0

theorem newLearner_starts : newLearner.Starts 7 where
  timely :=
    { stamps := by
        intro row member time isStamp
        rw [List.mem_singleton.mp member] at isStamp
        cases isStamp
      cursor := le_refl _ }
  row := ⟨dispatchedRow 7, by decide +kernel, rfl, rfl, rfl, rfl, rfl⟩

def fansObserved (count : ℚ) : AutopilotMeasurementObservation where
  value := count
  seriesLifts := []

/-- A replay runs between a failed attempt and the one that succeeds. -/
def replayedTooSoon : List TimedAct :=
  [⟨1, .claim 14⟩, ⟨2, .fail 14 1 true none⟩, ⟨3, .replay⟩,
    ⟨4, .claim 14⟩, ⟨5, .complete 14 2 (fansObserved 9) none 0⟩]

/-- Both outcomes are measured at the first attempt. -/
def measuredAtOnce : List TimedAct :=
  [⟨1, .claim 14⟩, ⟨2, .complete 14 1 (fansObserved 9) none 0⟩, ⟨3, .replay⟩,
    ⟨4, .claim 30⟩, ⟨5, .complete 30 1 (fansObserved 4) none 0⟩]

theorem measuredAtOnce_measuresInTime :
    LearnsOnce 7 newLearner (thenReplay measuredAtOnce 6) ∧
      ∀ visit ∈ learner.visits newLearner (thenReplay measuredAtOnce 6),
        MeasuresInTime 7 visit.1 visit.2 := by
  have learnsOnce : LearnsOnce 7 newLearner (thenReplay measuredAtOnce 6) := by
    unfold LearnsOnce
    decide +kernel
  have forward : Forward newLearner (thenReplay measuredAtOnce 6) := by
    unfold Forward
    decide +kernel
  exact ⟨learnsOnce, (learnsOnce_iff newLearner_starts forward).mp learnsOnce⟩

/-- The nine fans are written, and no replay ever learns them. -/
theorem not_learnsOnce_of_replayedTooSoon :
    ¬ ∀ (action : Uuid) (start : LearningState) (events : List TimedAct)
        (last : OffsetDateTime),
      start.Starts action →
      Forward start (thenReplay events last) →
      LearnsOnce action start (thenReplay events last) := by
  intro learnsAll
  have forward : Forward newLearner (thenReplay replayedTooSoon 6) := by
    unfold Forward
    decide +kernel
  have learned := (learnsAll 7 newLearner replayedTooSoon 6 newLearner_starts forward).1
  have nothing :
      (learnedOver y14Effect 7 newLearner
        (thenReplay replayedTooSoon 6)).map ContrastedOutcome.outcome = [] := by
    decide +kernel
  have nine : y14Horizon.writtenOver 7 newLearner (thenReplay replayedTooSoon 6) = [9] := by
    decide +kernel
  rw [nothing, nine] at learned
  cases learned

end CrowdRelay
