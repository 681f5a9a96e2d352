import CrowdRelay.FullReplay

namespace CrowdRelay

open Machine Watermark

/-!
# Where the checkpoints fall

Wherever the replays run among the measurements, each outcome is learned as
often as one full replay of the finished rows learns it.  What depends on the
checkpoint is the quality it is learned with and the contrast it is measured
against: a replay of a row that has resolved, whose control means are final,
learns exactly what the full replay does.
-/

variable {action : Uuid} {start : LearningState} {events : List TimedAct} {state : LearningState}

section Written

variable {Value : Type} {horizon : Horizon Value} {row : EvidenceRow}

theorem Horizon.reads_of_unreached (found : state.store.row? action = some row)
    (unreached : row.reachesLearner = false) (event : TimedAct) :
    horizon.reads action state event = [] := by
  unfold Horizon.reads
  split
  · simp [Horizon.dueOf, found, unreached]
  · rfl

theorem Horizon.of_mem_reads (lawful : horizon.Lawful)
    (found : state.store.row? action = some row) (sound : row.Sound) {event : TimedAct}
    {value : Value} (member : value ∈ horizon.reads action state event) :
    event.act = .replay ∧ row.readAfter (some state.cursor) = true ∧
      horizon.outcome row = some value := by
  unfold Horizon.reads at member
  split at member
  · rename_i isReplay
    simp only [Horizon.dueOf, found] at member
    cases reaches : row.reachesLearner with
    | false => simp [reaches] at member
    | true =>
      simp only [reaches, if_true, due] at member
      split at member
      · rename_i fresh
        obtain ⟨time, isStamp, past⟩ := fresh
        exact ⟨isReplay,
          readAfter_of_stamp sound.wakeable reaches (lawful.stamp_mem row time isStamp) past,
          Option.mem_toList.mp member⟩
      · cases member
  · cases member

variable [DecidableEq Value]

/-- What a run writes to an outcome is what the row ends with. -/
theorem Horizon.writtenOver_eq_outcome (lawful : horizon.Lawful) (sound : start.Sound action)
    (unwritten : ((start.store.row? action).bind horizon.outcome) = none)
    (forward : Forward start events) :
    horizon.writtenOver action start events =
      (((learner.final start events).store.row? action).bind horizon.outcome).toList := by
  have conserved :
      ∀ (state : LearningState) (event : TimedAct),
        state.clock < event.now →
        state.Sound action →
        [] ++ (((learner.step state event).1.store.row? action).bind horizon.outcome).toList =
          ((state.store.row? action).bind horizon.outcome).toList ++
            horizon.writes action state event := by
    intro state event _ sound
    obtain ⟨before, found, beforeSound⟩ := sound.row
    obtain ⟨after, afterFound, stepped⟩ :=
      EvidenceStore.apply_row? event found beforeSound.treatment
    rw [learner_step_store, Horizon.writes, found, afterFound,
      Option.bind_some, Option.bind_some, List.nil_append]
    cases column : horizon.outcome before with
    | none =>
      rw [written_of_none]
      rfl
    | some held =>
      obtain ⟨outcomeKept, _⟩ := lawful.kept _ _ _ held stepped beforeSound column
      rw [outcomeKept, written_self, List.append_nil]
  have flow := learner.flow_conserved
      (fun state => ((state.store.row? action).bind horizon.outcome).toList)
      (horizon.writes action) (fun _ _ => []) (fun _ => rfl)
      learner_preserves_sound conserved sound forward.visits
  have nothing : ((learner.visits start events).flatMap fun _ => ([] : List Value)) = [] :=
    List.flatMap_eq_nil_iff.mpr fun _ _ => rfl
  rw [unwritten, nothing, List.nil_append] at flow
  exact flow.symm

end Written

section Pair

variable {event : TimedAct}

/-- A horizon that is measured in time ends up stamped past the cursor. -/
theorem Horizon.InTime.fresh {horizon : Horizon ℚ} {kind : AutopilotMeasurementKind}
    (inTime : horizon.InTime kind action state event)
    (measuredBy : horizon.MeasuredBy kind) (timely : state.Timely)
    (later : state.clock < event.now) {before after : EvidenceRow}
    (found : state.store.row? action = some before) (treated : before.treatment = .treatment)
    (afterFound : (state.store.apply event).row? action = some after)
    (unwritten : horizon.outcome before = none)
    (isWritten : (horizon.outcome after).isSome = true) :
    before.reachesLearner = true ∧ Fresh state.cursor (horizon.stamp after) := by
  obtain ⟨after', afterFound', stepped⟩ := EvidenceStore.apply_row? event found treated
  rw [afterFound] at afterFound'
  rw [← Option.some.inj afterFound'] at stepped
  have takes := measuredBy.takes _ _ _
      (EvidenceStore.apply_takesOutcomes event found treated afterFound)
  rw [unwritten, Option.none_or] at takes
  rw [takes] at isWritten
  obtain ⟨reaches, past⟩ := inTime before found unwritten isWritten
  refine ⟨reaches, ?_⟩
  obtain ⟨time, isStamp⟩ := Option.isSome_iff_exists.mp
      (measuredBy.stamped _ _ _ stepped unwritten (by rw [takes, isWritten]))
  refine ⟨time, isStamp, ?_⟩
  cases stampBefore : horizon.stamp before with
  | none =>
    rw [measuredBy.stamp_now _ _ _ time stepped stampBefore isStamp]
    exact lt_of_le_of_lt timely.cursor later
  | some stamped =>
    have same := measuredBy.stamp_kept _ _ _ stamped stepped stampBefore
    rw [isStamp] at same
    rw [Option.some.inj same]
    exact past stamped stampBefore

theorem MeasuresInTime.onTime_pair (inTime : MeasuresInTime action state event)
    (sound : state.Sound action) (later : state.clock < event.now) :
    pairHorizon.onTime action state event = pairHorizon.writes action state event := by
  obtain ⟨before, found, beforeSound⟩ := sound.row
  obtain ⟨after, afterFound, stepped⟩ := EvidenceStore.apply_row? event found beforeSound.treatment
  simp only [Horizon.onTime, Horizon.writes, found, afterFound, Option.bind_some]
  cases column : pairHorizon.outcome before with
  | some pair =>
    obtain ⟨kept, _⟩ := pairHorizon_lawful.kept _ _ _ pair stepped beforeSound column
    simp [kept, writtenOnTime]
  | none =>
    cases columnAfter : pairHorizon.outcome after with
    | none => simp [writtenOnTime]
    | some pair =>
      obtain ⟨isY14, isY30⟩ := pairHorizon_outcome_eq_some.mp columnAfter
      have inTimeThen :
          before.reachesLearner = true ∧ Fresh state.cursor (pairHorizon.stamp after) := by
        cases y14Before : y14Horizon.outcome before with
        | none =>
          obtain ⟨reaches, fresh⟩ := inTime.1.fresh y14Horizon_measuredBy sound.timely later
              found beforeSound.treatment afterFound y14Before
              (by rw [isY14]; rfl)
          exact ⟨reaches, fresh.max_left⟩
        | some y14 =>
          cases y30Before : y30Horizon.outcome before with
          | none =>
            obtain ⟨reaches, fresh⟩ := inTime.2.fresh y30Horizon_measuredBy sound.timely later
                found beforeSound.treatment afterFound y30Before
                (by rw [isY30]; rfl)
            exact ⟨reaches, fresh.max_right⟩
          | some y30 =>
            have paired : pairHorizon.outcome before = some (y14, y30) :=
              pairHorizon_outcome_eq_some.mpr ⟨y14Before, y30Before⟩
            rw [column] at paired
            cases paired
      rw [if_pos inTimeThen.1, writtenOnTime, if_pos inTimeThen.2]

end Pair

/-- An update as the posterior takes it: value, variance and quality. -/
def ContrastedOutcome.taken
    (effect : ContrastedOutcome) : ℚ × ℚ × EvidenceQuality :=
  (effect.tau, effect.observationVariance, effect.quality)

/--
The updates of the two posteriors and of the bridge that a run makes of the
action are those of one full replay of the finished rows.
-/
def LearnsAsFullReplay (action : Uuid) (start : LearningState)
    (events : List TimedAct) : Prop :=
  let finished := fullReplay (learner.final start events).store
  ((learnedOver y14Effect action start events).map
      ContrastedOutcome.taken).Perm
      ((learnedOf y14Effect action finished).map ContrastedOutcome.taken) ∧
    ((learnedOver y30Effect action start events).map
      ContrastedOutcome.taken).Perm
      ((learnedOf y30Effect action finished).map ContrastedOutcome.taken) ∧
    (learnedOver bridgePair action start events).Perm (learnedOf bridgePair action finished)

/--
A replay that reads the row finds it resolved, and the control means of its
experiment as they are in the end.
-/
def ReadsFinished (action : Uuid) (finished : EvidenceStore) (state : LearningState)
    (event : TimedAct) : Prop :=
  event.act = .replay →
  ∀ row, state.store.row? action = some row →
    row.readAfter (some state.cursor) = true →
    row.resolvedAt.isSome = true ∧
      ∀ experiment, row.experimentUuid = some experiment →
        deltaMeans state.store state.cursor experiment = fullMeans finished experiment

/-- The updates of a row depend on its quality and its contrast alone. -/
def Settled {Value Learned : Type}
    (teaches : GrowthEvidence → (Uuid → ControlMean) → Value → List Learned) : Prop :=
  ∀ (row later : GrowthEvidence) (means final : Uuid → ControlMean),
    later.experimentUuid = row.experimentUuid →
    (∀ experiment, row.experimentUuid = some experiment → means experiment = final experiment) →
    learningQuality later = learningQuality row →
    teaches row means = teaches later final

section Settling

variable {row later : GrowthEvidence} {means final : Uuid → ControlMean}

theorem contrastOf_eq (sameExperiment : later.experimentUuid = row.experimentUuid)
    (sameMeans :
      ∀ experiment, row.experimentUuid = some experiment → means experiment = final experiment)
    (horizon : ControlMean → Option ℚ) :
    contrastOf row means horizon = contrastOf later final horizon := by
  unfold contrastOf
  rw [sameExperiment]
  cases isExperiment : row.experimentUuid with
  | none => rfl
  | some experiment =>
    rw [Option.bind_some, Option.bind_some, sameMeans experiment isExperiment]

theorem y14Teaches_settled : Settled y14Teaches := by
  intro row later means final sameExperiment sameMeans sameQuality
  funext outcome
  unfold y14Teaches contrastedOutcome
  rw [contrastOf_eq sameExperiment sameMeans, sameQuality]

theorem y30Teaches_settled : Settled y30Teaches := by
  intro row later means final sameExperiment sameMeans sameQuality
  funext outcome
  unfold y30Teaches contrastedOutcome
  rw [contrastOf_eq sameExperiment sameMeans, sameQuality]

theorem bridgeTeaches_settled : Settled bridgeTeaches := by
  intro row later means final sameExperiment sameMeans _
  funext pair
  unfold bridgeTeaches
  rw [contrastOf_eq sameExperiment sameMeans, contrastOf_eq sameExperiment sameMeans]

theorem learningQuality_of_resolved (resolved : row.resolvedAt.isSome = true) :
    learningQuality row = row.effectiveEvidenceQuality := by
  obtain ⟨time, isTime⟩ := Option.isSome_iff_exists.mp resolved
  unfold learningQuality GrowthEvidence.isPartial
  simp [isTime]

end Settling

section Placement

variable {Value Learned : Type} {horizon : Horizon Value} {learned : ModelUpdate → Option Learned}
  {teaches : GrowthEvidence → (Uuid → ControlMean) → Value → List Learned}

/-- An outcome that lasts with its row, and is one of the measured ones. -/
structure Horizon.Lasting (horizon : Horizon Value) : Prop where
  kept :
    ∀ (before after : EvidenceRow) value,
      before.Lasts after →
      horizon.outcome before = some value →
      horizon.outcome after = some value
  measured :
    ∀ (row : EvidenceRow) value,
      horizon.outcome row = some value →
      row.observedIncrementalFans.isSome = true ∨
        row.durableFans30d.isSome = true

theorem y14Horizon_lasting : y14Horizon.Lasting where
  kept := fun _ _ value lasts => lasts.y14 value
  measured := fun _ _ held => Or.inl (Option.isSome_of_eq_some held)

theorem y30Horizon_lasting : y30Horizon.Lasting where
  kept := fun _ _ value lasts => lasts.y30 value
  measured := fun _ _ held => Or.inr (Option.isSome_of_eq_some held)

theorem pairHorizon_lasting : pairHorizon.Lasting where
  kept := by
    intro before after pair lasts isPair
    obtain ⟨isY14, isY30⟩ := pairHorizon_outcome_eq_some.mp isPair
    exact pairHorizon_outcome_eq_some.mpr ⟨lasts.y14 pair.1 isY14, lasts.y30 pair.2 isY30⟩
  measured := by
    intro row pair isPair
    obtain ⟨isY14, _⟩ := pairHorizon_outcome_eq_some.mp isPair
    exact Or.inl (Option.isSome_of_eq_some isY14)

theorem flatMap_teaches_of_readsFinished (lawful : horizon.Lawful)
    (lasting : horizon.Lasting) (settled : Settled teaches) {state : LearningState}
    {event : TimedAct} {row later : EvidenceRow} {finished : EvidenceStore}
    (found : state.store.row? action = some row) (sound : row.Sound)
    (soundLater : later.Sound) (lasts : row.Lasts later)
    (readsFinished : ReadsFinished action finished state event) :
    (horizon.reads action state event).flatMap
        (teaches row.toGrowthEvidence (deltaMeans state.store state.cursor)) =
      (horizon.reads action state event).flatMap
        (teaches later.toGrowthEvidence (fullMeans finished)) := by
  refine List.flatMap_congr ?_
  intro value member
  obtain ⟨isReplay, read, isOutcome⟩ := Horizon.of_mem_reads lawful found sound member
  obtain ⟨resolved, sameMeans⟩ := readsFinished isReplay row found read
  have sameQuality :
      learningQuality later.toGrowthEvidence = learningQuality row.toGrowthEvidence := by
    rw [learningQuality_of_resolved resolved, learningQuality_of_resolved (lasts.resolved resolved)]
    exact lasts.effectiveEvidenceQuality_eq sound soundLater (lasting.measured row value isOutcome)
  have sameTeaching := settled row.toGrowthEvidence later.toGrowthEvidence
      (deltaMeans state.store state.cursor) (fullMeans finished)
      (lasts.column_eq (fun row => row.experimentUuid) (fun _ => rfl))
      sameMeans sameQuality
  rw [sameTeaching]

theorem flatMap_reads_of_unreached (forward : Forward start events)
    (sound : start.Sound action) {later : EvidenceRow}
    (found : (learner.final start events).store.row? action = some later)
    (unreached : later.reachesLearner = false) :
    ((learner.visits start events).flatMap fun visit =>
        horizon.reads action visit.1 visit.2) = [] := by
  refine List.flatMap_eq_nil_iff.mpr ?_
  intro visit member
  obtain ⟨row, rowFound, _⟩ := ((forward.sound sound).2 visit member).row
  obtain ⟨later', found', lasts⟩ := forward.lasts sound visit member row rowFound
  rw [found] at found'
  refine Horizon.reads_of_unreached rowFound ?_ visit.2
  rw [← Option.some.inj found'] at lasts
  rw [← lasts.column_eq EvidenceRow.reachesLearner (fun _ => rfl)]
  exact unreached

variable [DecidableEq Value]

/--
When a run reads all it writes, and each replay finds the row finished, it
learns what one full replay of the finished rows learns.
-/
theorem learnedOver_eq_fullReplay (lawful : horizon.Lawful) (lasting : horizon.Lasting)
    (taught : horizon.Taught learned teaches) (settled : Settled teaches)
    (sound : start.Sound action)
    (unwritten : ((start.store.row? action).bind horizon.outcome) = none)
    (forward : Forward start events)
    (readsAll :
      ((learner.visits start events).flatMap fun visit =>
          horizon.reads action visit.1 visit.2) =
        horizon.writtenOver action start events)
    (readsFinished :
      ∀ visit ∈ learner.visits start events,
        ReadsFinished action (learner.final start events).store visit.1 visit.2) :
    learnedOver learned action start events =
      learnedOf learned action (fullReplay (learner.final start events).store) := by
  obtain ⟨finalSound, visitsSound⟩ := forward.sound sound
  obtain ⟨later, found, laterSound⟩ := finalSound.row
  rw [learnedOf_fullReplay lawful taught laterSound found]
  have ofReads :
      learnedOver learned action start events =
        ((learner.visits start events).flatMap fun visit =>
          horizon.reads action visit.1 visit.2).flatMap
            (teaches later.toGrowthEvidence (fullMeans (learner.final start events).store)) := by
    rw [learnedOver, List.flatMap_assoc]
    refine List.flatMap_congr ?_
    intro visit member
    obtain ⟨row, rowFound, rowSound⟩ := (visitsSound visit member).row
    obtain ⟨later', found', lasts⟩ := forward.lasts sound visit member row rowFound
    rw [found] at found'
    rw [← Option.some.inj found'] at lasts
    rw [learnedOf_step lawful taught (visitsSound visit member) rowFound]
    exact flatMap_teaches_of_readsFinished lawful lasting settled rowFound
      rowSound laterSound lasts (readsFinished visit member)
  rw [ofReads]
  cases reaches : later.reachesLearner with
  | false =>
    rw [flatMap_reads_of_unreached forward sound found reaches]
    rfl
  | true =>
    rw [readsAll, Horizon.writtenOver_eq_outcome lawful sound unwritten forward, found]
    rfl

end Placement

def LearnsSameOutcomes (action : Uuid) (start : LearningState)
    (events : List TimedAct) : Prop :=
  let finished := fullReplay (learner.final start events).store
  (learnedOver y14Effect action start events).map
        ContrastedOutcome.outcome =
      (learnedOf y14Effect action finished).map ContrastedOutcome.outcome ∧
    (learnedOver y30Effect action start events).map
        ContrastedOutcome.outcome =
      (learnedOf y30Effect action finished).map ContrastedOutcome.outcome

/--
A row that is still partial is learned as observational, and one that has
resolved with the quality of the finished row, capped without a contrast.
-/
def LearnsAsRead (action : Uuid) (start : LearningState)
    (events : List TimedAct) : Prop :=
  ∀ visit ∈ learner.visits start events, ∀ row later,
    visit.1.store.row? action = some row →
    (learner.final start events).store.row? action = some later →
    ∀ learned ∈ [y14Effect, y30Effect],
      ∀ effect ∈ learnedOf learned action (learner.step visit.1 visit.2).2,
        effect.quality =
          if row.isPartial then
            .observational
          else
            earnedQualityFor later.effectiveEvidenceQuality effect.contrast

section Claimed

variable {horizon : Horizon ℚ} {learned : ModelUpdate → Option ContrastedOutcome}
  {teaches : GrowthEvidence → (Uuid → ControlMean) → ℚ → List ContrastedOutcome}
  {last : OffsetDateTime} (ev : GrowthEvidence) (means : Uuid → ControlMean) (outcome : ℚ)

theorem learnedOver_map_outcome_eq_fullReplay (lawful : horizon.Lawful)
    (taught : horizon.Taught learned teaches)
    (outcomes :
      ∀ ev means outcome, (teaches ev means outcome).map ContrastedOutcome.outcome = [outcome])
    (sound : start.Sound action)
    (unwritten : ((start.store.row? action).bind horizon.outcome) = none)
    (forward : Forward start events)
    (readsAll :
      ((learner.visits start events).flatMap fun visit =>
          horizon.reads action visit.1 visit.2) =
        horizon.writtenOver action start events) :
    (learnedOver learned action start events).map ContrastedOutcome.outcome =
      (learnedOf learned action (fullReplay (learner.final start events).store)).map
          ContrastedOutcome.outcome := by
  obtain ⟨later, found, laterSound⟩ := (forward.sound sound).1.row
  rw [learnedOver_map_outcome lawful taught outcomes sound forward,
    learnedOf_fullReplay lawful taught laterSound found]
  cases reaches : later.reachesLearner with
  | false =>
    rw [flatMap_reads_of_unreached forward sound found reaches]
    rfl
  | true =>
    rw [readsAll, Horizon.writtenOver_eq_outcome lawful sound unwritten forward, found]
    simp only [if_true, Option.bind_some, List.map_flatMap, outcomes, List.flatMap_singleton']

theorem quality_of_mem_learnedOf (lawful : horizon.Lawful) (lasting : horizon.Lasting)
    (taught : horizon.Taught learned teaches)
    (graded :
      ∀ ev means outcome, ∀ effect ∈ teaches ev means outcome,
        effect.quality = earnedQualityFor (learningQuality ev) effect.contrast)
    {state : LearningState}
    (sound : state.Sound action)
    {event : TimedAct}
    {row later : EvidenceRow}
    (found : state.store.row? action = some row)
    (rowSound : row.Sound)
    (laterSound : later.Sound)
    (lasts : row.Lasts later)
    {effect : ContrastedOutcome}
    (member : effect ∈ learnedOf learned action (learner.step state event).2) :
    effect.quality =
      if row.isPartial then
        .observational
      else
        earnedQualityFor later.effectiveEvidenceQuality effect.contrast := by
  rw [learnedOf_step lawful taught sound found] at member
  obtain ⟨outcome, isRead, isEffect⟩ := List.mem_flatMap.mp member
  obtain ⟨_, _, isOutcome⟩ := Horizon.of_mem_reads lawful found rowSound isRead
  rw [graded _ _ _ effect isEffect, learningQuality,
    lasts.effectiveEvidenceQuality_eq rowSound laterSound (lasting.measured row outcome isOutcome)]
  cases row.isPartial with
  | false => rfl
  | true =>
    simp only [if_true, EvidenceQuality.minObservational, earnedQualityFor]
    split <;> rfl

theorem y14Teaches_graded :
    ∀ effect ∈ y14Teaches ev means outcome,
      effect.quality = earnedQualityFor (learningQuality ev) effect.contrast := by
  intro effect member
  rw [List.mem_singleton.mp member]
  rfl

theorem y30Teaches_graded :
    ∀ effect ∈ y30Teaches ev means outcome,
      effect.quality = earnedQualityFor (learningQuality ev) effect.contrast := by
  intro effect member
  rw [List.mem_singleton.mp member]
  rfl

/--
Wherever the replays fall among measurements that are in time, a dispatch
teaches the outcomes one full replay would teach, each with the quality the
row has where it is read, and exactly the updates of the full replay when the
row is finished wherever it is read.
-/
theorem learns_wherever_checkpoints_fall
    (starts : start.Starts action)
    (forward : Forward start (thenReplay events last))
    (inTime :
      ∀ visit ∈ learner.visits start (thenReplay events last),
        MeasuresInTime action visit.1 visit.2) :
    LearnsSameOutcomes action start (thenReplay events last) ∧
      LearnsAsRead action start (thenReplay events last) ∧
      ((∀ visit ∈ learner.visits start (thenReplay events last),
          ReadsFinished action
            (learner.final start (thenReplay events last)).store visit.1
            visit.2) →
        LearnsAsFullReplay action start (thenReplay events last)) := by
  have sound := starts.sound
  obtain ⟨row, found, dispatched⟩ := starts.row
  have y14Unwritten : ((start.store.row? action).bind y14Horizon.outcome) = none := by
    rw [found]
    exact dispatched.y14
  have y30Unwritten : ((start.store.row? action).bind y30Horizon.outcome) = none := by
    rw [found]
    exact dispatched.y30
  have pairUnwritten : ((start.store.row? action).bind pairHorizon.outcome) = none := by
    rw [found, Option.bind_some, pairHorizon]
    simp only [dispatched.y14, Option.bind_none]
  have y14ReadsAll := (Horizon.flatMap_reads_eq_writtenOver_iff y14Horizon_lawful
      y14Horizon_measuredBy sound
      (Horizon.dueOf_start starts fun _ dispatched => dispatched.y14)
      forward).mpr fun visit member => (inTime visit member).1
  have y30ReadsAll := (Horizon.flatMap_reads_eq_writtenOver_iff y30Horizon_lawful
      y30Horizon_measuredBy sound
      (Horizon.dueOf_start starts fun _ dispatched => dispatched.y30)
      forward).mpr fun visit member => (inTime visit member).2
  have pairReadsAll :
      ((learner.visits start (thenReplay events last)).flatMap fun visit =>
          pairHorizon.reads action visit.1 visit.2) =
        pairHorizon.writtenOver action start (thenReplay events last) := by
    rw [Horizon.flatMap_reads pairHorizon_lawful sound
      (Horizon.dueOf_start starts fun row dispatched => by
        simp [pairHorizon, dispatched.y14]) forward]
    refine List.flatMap_congr ?_
    intro visit member
    exact (inTime visit member).onTime_pair
      ((forward.sound sound).2 visit member) (forward.visits visit member)
  refine ⟨⟨?_, ?_⟩, ?_, ?_⟩
  · exact learnedOver_map_outcome_eq_fullReplay y14Horizon_lawful
      y14Horizon_taught (fun _ _ _ => rfl) sound y14Unwritten forward
      y14ReadsAll
  · exact learnedOver_map_outcome_eq_fullReplay y30Horizon_lawful
      y30Horizon_taught (fun _ _ _ => rfl) sound y30Unwritten forward
      y30ReadsAll
  · intro visit visited row later rowFound laterFound
    have visitSound := (forward.sound sound).2 visit visited
    have rowSound := visitSound.row_sound rowFound
    have laterSound := (forward.sound sound).1.row_sound laterFound
    obtain ⟨later', found', lasts⟩ := forward.lasts sound visit visited row rowFound
    rw [laterFound] at found'
    rw [← Option.some.inj found'] at lasts
    simp only [List.forall_mem_cons, List.not_mem_nil, false_implies, implies_true, and_true]
    exact ⟨fun effect member =>
        quality_of_mem_learnedOf y14Horizon_lawful y14Horizon_lasting
          y14Horizon_taught y14Teaches_graded visitSound rowFound rowSound
          laterSound lasts member,
      fun effect member =>
        quality_of_mem_learnedOf y30Horizon_lawful y30Horizon_lasting
          y30Horizon_taught y30Teaches_graded visitSound rowFound rowSound
          laterSound lasts member⟩
  · intro readsFinished
    have y14 := learnedOver_eq_fullReplay y14Horizon_lawful y14Horizon_lasting
        y14Horizon_taught y14Teaches_settled sound y14Unwritten forward
        y14ReadsAll readsFinished
    have y30 := learnedOver_eq_fullReplay y30Horizon_lawful y30Horizon_lasting
        y30Horizon_taught y30Teaches_settled sound y30Unwritten forward
        y30ReadsAll readsFinished
    have bridge := learnedOver_eq_fullReplay pairHorizon_lawful pairHorizon_lasting
        pairHorizon_taught bridgeTeaches_settled sound pairUnwritten forward
        pairReadsAll readsFinished
    exact ⟨List.Perm.of_eq (congrArg _ y14), List.Perm.of_eq (congrArg _ y30),
      List.Perm.of_eq bridge⟩

end Claimed

theorem readsFinished_of_last {action : Uuid} {start : LearningState}
    {events : List TimedAct} {last : OffsetDateTime}
    (silent : ∀ event ∈ events, event.act ≠ .replay)
    (atEnd :
      ReadsFinished action (learner.final start events).store
        (learner.final start events) ⟨last, .replay⟩) :
    ∀ visit ∈ learner.visits start (thenReplay events last),
      ReadsFinished action (learner.final start (thenReplay events last)).store visit.1
        visit.2 := by
  have sameStore :
      (learner.final start (thenReplay events last)).store =
        (learner.final start events).store := by
    rw [thenReplay, learner.final_append (fun _ => rfl), learner.final_cons]
    exact learner_step_store _
  rw [sameStore, thenReplay, learner.visits_append (fun _ => rfl)]
  intro visit member
  rcases List.mem_append.mp member with earlier | isLast
  · intro replays
    exact absurd replays (silent visit.2 (learner.mem_of_mem_visits earlier))
  · rw [learner.visits_cons (fun _ => rfl)] at isLast
    rw [List.mem_singleton.mp isLast]
    exact atEnd

instance (act : LearningAct) : Decidable (act = .replay) :=
  match act with
  | .replay => isTrue rfl
  | .claim _ => isFalse fun same => by cases same
  | .complete _ _ _ _ _ => isFalse fun same => by cases same
  | .fail _ _ _ _ => isFalse fun same => by cases same

instance (holder : Option OffsetDateTime) (past : OffsetDateTime → Prop)
    [DecidablePred past] :
    Decidable (∀ time, holder = some time → past time) :=
  inferInstanceAs (Decidable (∀ time ∈ holder, past time))

instance
    (horizon : Horizon ℚ)
    (kind : AutopilotMeasurementKind)
    (action : Uuid)
    (state : LearningState)
    (event : TimedAct) :
    Decidable (horizon.InTime kind action state event) :=
  inferInstanceAs
    (Decidable
      (∀ row ∈ state.store.row? action,
        horizon.outcome row = none →
        (state.store.measures kind action event).isSome = true →
        row.reachesLearner = true ∧
          ∀ stamped, horizon.stamp row = some stamped → state.cursor < stamped))

instance (action : Uuid) (state : LearningState) (event : TimedAct) :
    Decidable (MeasuresInTime action state event) :=
  inferInstanceAs (Decidable (_ ∧ _))

/-- A dispatch of a randomised experiment. -/
def holdoutRow (action experiment : Uuid) : EvidenceRow :=
  { dispatchedRow action with
    experimentUuid := some experiment
    experimentAssignmentId := some "treated"
    experimentKind := some "randomized_holdout" }

/-- A unit of the experiment that nothing was done to. -/
def controlRow (experiment : Uuid) : EvidenceRow :=
  { dispatchedRow 0 with
    actionId := none
    treatment := .control
    executionStatus := some .control
    experimentUuid := some experiment
    experimentAssignmentId := some "control"
    experimentKind := some "randomized_holdout"
    observedIncrementalFans := some 0
    durableFans30d := some 0
    resolvedAt := some 0 }

/-- A learner of a randomised dispatch whose control arm is measured. -/
def holdoutLearner : LearningState :=
  { newLearner with
    store :=
      { evidence := [holdoutRow 7 5, controlRow 5]
        measurements := newLearner.store.measurements
        actionsDistinct := newLearner.store.actionsDistinct } }

theorem holdoutLearner_starts : holdoutLearner.Starts 7 where
  timely :=
    { stamps := by
        decide +kernel
      cursor := le_refl _ }
  row := ⟨holdoutRow 7 5, by decide +kernel, rfl, rfl, rfl, rfl, rfl⟩

def replayedWhenMeasured : List TimedAct :=
  [⟨1, .claim 14⟩, ⟨2, .complete 14 1 (fansObserved 9) none 0⟩,
    ⟨4, .claim 30⟩, ⟨5, .complete 30 1 (fansObserved 4) none 0⟩]

theorem replayedWhenMeasured_learnsAsFullReplay :
    LearnsAsFullReplay 7 holdoutLearner (thenReplay replayedWhenMeasured 6) := by
  have forward : Forward holdoutLearner (thenReplay replayedWhenMeasured 6) := by
    unfold Forward
    decide +kernel
  have inTime :
      ∀ visit ∈ learner.visits holdoutLearner
          (thenReplay replayedWhenMeasured 6),
        MeasuresInTime 7 visit.1 visit.2 := by
    decide +kernel
  have finished :
      ((learner.final holdoutLearner replayedWhenMeasured).store.row? 7).map
          (fun row => (row.resolvedAt, row.experimentUuid)) =
        some (some 5, some 5) := by
    decide +kernel
  have sameMeans :
      deltaMeans (learner.final holdoutLearner replayedWhenMeasured).store
          (learner.final holdoutLearner replayedWhenMeasured).cursor 5 =
        fullMeans
          (learner.final holdoutLearner replayedWhenMeasured).store 5 := by
    decide +kernel
  have atEnd :
      ReadsFinished 7 (learner.final holdoutLearner replayedWhenMeasured).store
        (learner.final holdoutLearner replayedWhenMeasured) ⟨6, .replay⟩ := by
    intro _ row found _
    rw [found, Option.map_some, Option.some.injEq, Prod.mk.injEq] at finished
    refine ⟨by rw [finished.1]; rfl, ?_⟩
    intro experiment isExperiment
    rw [finished.2] at isExperiment
    rw [← Option.some.inj isExperiment]
    exact sameMeans
  exact (learns_wherever_checkpoints_fall holdoutLearner_starts forward
    inTime).2.2 (readsFinished_of_last (by decide +kernel) atEnd)

def NeverFails (events : List TimedAct) : Prop :=
  ∀ event ∈ events, ∀ id attemptNumber retryable harm,
    event.act ≠ .fail id attemptNumber retryable harm

/--
A replay between the fourteen-day and the thirty-day outcome learns nine fans
of a clean randomised dispatch as observational evidence.
-/
theorem not_learnsAsFullReplay_of_partial :
    ¬ ∀ (action : Uuid) (start : LearningState) (events : List TimedAct)
        (last : OffsetDateTime),
      start.Starts action →
      Forward start (thenReplay events last) →
      NeverFails events →
      LearnsAsFullReplay action start (thenReplay events last) := by
  intro learnsAsFull
  have forward : Forward holdoutLearner (thenReplay measuredAtOnce 6) := by
    unfold Forward
    decide +kernel
  have neverFails : NeverFails measuredAtOnce := by
    simp [NeverFails, measuredAtOnce]
  have learned := (learnsAsFull 7 holdoutLearner measuredAtOnce 6 holdoutLearner_starts
      forward neverFails).1
  have asObservational :
      (learnedOver y14Effect 7 holdoutLearner
        (thenReplay measuredAtOnce 6)).map ContrastedOutcome.taken =
          [(9, 180, .observational)] := by
    decide +kernel
  have asRandomised :
      (learnedOf y14Effect 7
        (fullReplay (learner.final holdoutLearner
          (thenReplay measuredAtOnce 6)).store)).map
            ContrastedOutcome.taken =
          [(9, 18, .randomizedHoldout)] := by
    decide +kernel
  rw [asObservational, asRandomised, List.singleton_perm_singleton] at learned
  cases learned

end CrowdRelay
