import CrowdRelay.EvidenceRows

namespace CrowdRelay

open Machine Watermark

/-!
# The horizons of a row and what they teach

A horizon is an outcome with the stamp it goes by.  A replay reads it when the
stamp is past the cursor, and makes of it the updates of its posterior.
-/

/-- An outcome of a row, and the stamp it goes by. -/
structure Horizon (Value : Type) where
  outcome : EvidenceRow → Option Value
  stamp : EvidenceRow → Option OffsetDateTime

/-- The fourteen-day outcome updates the treatment effect. -/
def y14Horizon : Horizon ℚ where
  outcome row := row.observedIncrementalFans
  stamp := EvidenceRow.stamp14d

/-- The durable outcome updates the Y30 treatment effect. -/
def y30Horizon : Horizon ℚ where
  outcome row := row.durableFans30d
  stamp := EvidenceRow.stamp30d

/-- The pair of both outcomes is complete with the later of the two. -/
def pairHorizon : Horizon (ℚ × ℚ) where
  outcome row :=
    row.observedIncrementalFans.bind fun y14 =>
      row.durableFans30d.map fun y30 => (y14, y30)
  stamp row := max row.stamp14d row.stamp30d

def EvidenceRow.reachesLearner (row : EvidenceRow) : Bool :=
  row.outcomeBasis.teachesPerAction && row.executionStatus != some .unknown

section Updates

def y14Effect : ModelUpdate → Option ContrastedOutcome
  | .treatmentEffect _ _ _ effect => some effect
  | _ => none

def y30Effect : ModelUpdate → Option ContrastedOutcome
  | .treatmentEffectY30 _ _ _ effect => some effect
  | _ => none

def bridgePair : ModelUpdate → Option (ℚ × ℚ)
  | .bridge y14 y30 => some (y14, y30)
  | _ => none

variable (ev : GrowthEvidence) (means : Uuid → ControlMean)

def y14Teaches (outcome : ℚ) : List ContrastedOutcome :=
  [contrastedOutcome ev (contrastOf ev means ControlMean.y14) outcome]

def y30Teaches (outcome : ℚ) : List ContrastedOutcome :=
  [contrastedOutcome ev (contrastOf ev means ControlMean.y30) outcome]

/-- A pair teaches only when both or neither has a contrast. -/
def bridgeTeaches (pair : ℚ × ℚ) : List (ℚ × ℚ) :=
  let y14Contrast := contrastOf ev means ControlMean.y14
  let y30Contrast := contrastOf ev means ControlMean.y30
  if y14Contrast.isSome == y30Contrast.isSome then
    [(pair.1 - y14Contrast.getD 0, pair.2 - y30Contrast.getD 0)]
  else
    []

end Updates

/-- What replays taught of an action, in one kind of update. -/
def learnedOf {Learned : Type} (learned : ModelUpdate → Option Learned) (action : Uuid)
    (replays : List RowReplay) : List Learned :=
  (replays.filter fun replayed =>
      replayed.row.actionId == some action).flatMap fun replayed =>
    replayed.updates.filterMap learned

/-- Everything a run teaches of an action, in one kind of update. -/
def learnedOver {Learned : Type} (learned : ModelUpdate → Option Learned) (action : Uuid)
    (start : LearningState)
    (events : List TimedAct) : List Learned :=
  (learner.visits start events).flatMap fun visit =>
    learnedOf learned action (learner.step visit.1 visit.2).2

/-- A horizon's updates, row by row, are what its reading teaches. -/
def Horizon.Taught {Value Learned : Type} (horizon : Horizon Value)
    (learned : ModelUpdate → Option Learned)
    (teaches : GrowthEvidence → (Uuid → ControlMean) → Value → List Learned) : Prop :=
  ∀ (row : EvidenceRow) (checkpoint : Option OffsetDateTime)
      (means : Uuid → ControlMean),
    row.treatment = .treatment →
    (replayRow checkpoint row.toGrowthEvidence means).filterMap learned =
      if row.outcomeBasis.teachesPerAction then
        (dueSince checkpoint (horizon.stamp row)
            (horizon.outcome row)).flatMap
          (teaches row.toGrowthEvidence means)
      else
        []

section Teaching

variable (checkpoint : Option OffsetDateTime) (ev : GrowthEvidence)

theorem dueSince_of_isNew {Value : Type} (horizon fallback : Option OffsetDateTime)
    (value : Option Value) :
    dueSince checkpoint (horizon.or fallback) value =
      if horizonIsNew checkpoint horizon fallback then
        value.toList
      else
        [] := by
  unfold horizonIsNew dueSince
  cases checkpoint with
  | none => rfl
  | some cursor =>
    cases horizon.or fallback with
    | none => simp [due]
    | some time => simp [due]

theorem metricUpdates_filterMap {Learned : Type} (learned : ModelUpdate → Option Learned)
    (metric :
      ∀ metricKey template targetKey observed variance quality,
        learned (.metric metricKey template targetKey observed variance quality) = none) :
    (metricUpdates checkpoint ev).filterMap learned = [] := by
  rw [List.filterMap_eq_nil_iff]
  intro update member
  unfold metricUpdates at member
  split at member
  · obtain ⟨⟨metricKey, observed⟩, _, isUpdate⟩ := List.mem_filterMap.mp member
    dsimp only at isUpdate
    split at isUpdate
    · cases isUpdate
    · rw [← Option.some.inj isUpdate]
      exact metric _ _ _ _ _ _
  · cases member

variable (means : Uuid → ControlMean)

theorem outcomeUpdates_filterMap {Learned : Type} (learned : ModelUpdate → Option Learned)
    (outcome : ∀ prediction rawFans, learned (.outcomeModel prediction rawFans) = none) :
    (outcomeUpdates checkpoint ev).filterMap learned = [] := by
  unfold outcomeUpdates
  dsimp only
  split
  · split
    · simp [outcome]
    · rfl
  · rfl

theorem replayRow_filterMap {Learned : Type} (learned : ModelUpdate → Option Learned)
    (metric :
      ∀ metricKey template targetKey observed variance quality,
        learned (.metric metricKey template targetKey observed variance quality) = none)
    (outcome : ∀ prediction rawFans, learned (.outcomeModel prediction rawFans) = none)
    (treated : ev.treatment = .treatment) :
    (replayRow checkpoint ev means).filterMap learned =
      if ev.outcomeBasis.teachesPerAction then
        (y14Updates checkpoint ev means).filterMap learned ++
          (y30Updates checkpoint ev means).filterMap learned ++
          (bridgeUpdates checkpoint ev means).filterMap learned
      else
        [] := by
  have noMetric := metricUpdates_filterMap checkpoint ev learned metric
  have noOutcome := outcomeUpdates_filterMap checkpoint ev learned outcome
  cases teaches : ev.outcomeBasis.teachesPerAction <;>
    simp [replayRow, teaches, treated, TreatmentAssignment.isTreatment,
      CausalEstimand.includesInTreatmentEffect, noMetric, noOutcome]

theorem y14Updates_filterMap_y14Effect :
    (y14Updates checkpoint ev means).filterMap y14Effect =
      (dueSince checkpoint (ev.replayed14dAt.or ev.resolvedAt)
        ev.observedIncrementalFans).flatMap (y14Teaches ev means) := by
  rw [dueSince_of_isNew]
  unfold y14Updates
  dsimp only
  split
  · cases ev.observedIncrementalFans with
    | none => rfl
    | some outcome => cases ev.creativeFamily <;> rfl
  · rfl

theorem y30Updates_filterMap_y30Effect :
    (y30Updates checkpoint ev means).filterMap y30Effect =
      (dueSince checkpoint (ev.replayed30dAt.or ev.resolvedAt)
        ev.durableFans30d).flatMap (y30Teaches ev means) := by
  rw [dueSince_of_isNew]
  unfold y30Updates GrowthEvidence.y30Outcome
  dsimp only
  split
  · cases ev.durableFans30d with
    | none => rfl
    | some outcome => cases ev.decisionPosterior <;> rfl
  · rfl

theorem bridgeUpdates_filterMap_bridgePair :
    (bridgeUpdates checkpoint ev means).filterMap bridgePair =
      (dueSince checkpoint (pairCompletedAt ev)
        (ev.observedIncrementalFans.bind fun y14 =>
          ev.durableFans30d.map fun y30 => (y14, y30))).flatMap
        (bridgeTeaches ev means) := by
  rw [← Option.or_none (o := pairCompletedAt ev), dueSince_of_isNew]
  unfold bridgeUpdates GrowthEvidence.y30Outcome
  dsimp only
  split
  · cases ev.observedIncrementalFans with
    | none => rfl
    | some y14 =>
      cases ev.durableFans30d with
      | none => rfl
      | some y30 =>
        simp only [Option.bind_some, Option.map_some,
          Option.toList_some, List.flatMap_cons, List.flatMap_nil,
          List.append_nil, bridgeTeaches]
        split <;> rfl
  · rfl

theorem y14Updates_filterMap {Learned : Type} (learned : ModelUpdate → Option Learned)
    (apart :
      ∀ template subredditType targetKey effect,
        learned (.treatmentEffect template subredditType targetKey effect) = none)
    (family :
      ∀ family template subredditType targetKey effect,
        learned (.familyEffect family template subredditType targetKey effect) = none)
    (calibrated :
      ∀ regime template predicted std observed target quality,
        learned (.calibration regime template predicted std observed target quality) = none) :
    (y14Updates checkpoint ev means).filterMap learned = [] := by
  unfold y14Updates
  dsimp only
  split
  · split
    · cases ev.creativeFamily <;> simp [apart, family, calibrated]
    · rfl
  · rfl

theorem y30Updates_filterMap {Learned : Type} (learned : ModelUpdate → Option Learned)
    (apart :
      ∀ template subredditType targetKey effect,
        learned (.treatmentEffectY30 template subredditType targetKey effect) = none)
    (interval : ∀ mean std observed, learned (.y30Interval mean std observed) = none)
    (calibrated :
      ∀ regime template predicted std observed target quality,
        learned (.calibration regime template predicted std observed target quality) = none) :
    (y30Updates checkpoint ev means).filterMap learned = [] := by
  unfold y30Updates
  dsimp only
  split
  · split
    · cases ev.decisionPosterior <;> simp [apart, interval, calibrated]
    · rfl
  · rfl

theorem bridgeUpdates_filterMap {Learned : Type} (learned : ModelUpdate → Option Learned)
    (apart : ∀ y14 y30, learned (.bridge y14 y30) = none) :
    (bridgeUpdates checkpoint ev means).filterMap learned = [] := by
  unfold bridgeUpdates
  dsimp only
  split
  · split
    · split
      · simp [apart]
      · rfl
    · rfl
  · rfl

end Teaching

theorem y14Horizon_taught : y14Horizon.Taught y14Effect y14Teaches := by
  intro row checkpoint means treated
  rw [replayRow_filterMap checkpoint _ means y14Effect
      (fun _ _ _ _ _ _ => rfl) (fun _ _ => rfl) treated,
    y14Updates_filterMap_y14Effect,
    y30Updates_filterMap _ _ _ _ (fun _ _ _ _ => rfl) (fun _ _ _ => rfl) (fun _ _ _ _ _ _ _ => rfl),
    bridgeUpdates_filterMap _ _ _ _ (fun _ _ => rfl), List.append_nil,
    List.append_nil]
  rfl

theorem y30Horizon_taught : y30Horizon.Taught y30Effect y30Teaches := by
  intro row checkpoint means treated
  rw [replayRow_filterMap checkpoint _ means y30Effect
      (fun _ _ _ _ _ _ => rfl) (fun _ _ => rfl) treated,
    y30Updates_filterMap_y30Effect,
    y14Updates_filterMap _ _ _ _ (fun _ _ _ _ => rfl)
      (fun _ _ _ _ _ => rfl) (fun _ _ _ _ _ _ _ => rfl),
    bridgeUpdates_filterMap _ _ _ _ (fun _ _ => rfl), List.append_nil,
    List.nil_append]
  rfl

theorem pairHorizon_taught : pairHorizon.Taught bridgePair bridgeTeaches := by
  intro row checkpoint means treated
  rw [replayRow_filterMap checkpoint _ means bridgePair
      (fun _ _ _ _ _ _ => rfl) (fun _ _ => rfl) treated,
    bridgeUpdates_filterMap_bridgePair,
    y14Updates_filterMap _ _ _ _ (fun _ _ _ _ => rfl)
      (fun _ _ _ _ _ => rfl) (fun _ _ _ _ _ _ _ => rfl),
    y30Updates_filterMap _ _ _ _ (fun _ _ _ _ => rfl) (fun _ _ _ => rfl)
      (fun _ _ _ _ _ _ _ => rfl), List.nil_append, List.nil_append]
  rfl

/-!
## Runs of measurements and replays

Measurements complete and fail in any order, and the learner replays whenever
it likes.  What holds of the learner and of the row of one action, wherever a
run gets.
-/

structure EvidenceRow.AtDispatch (row : EvidenceRow) : Prop where
  treatment : row.treatment = .treatment
  y3 : row.observedIncrementalFans3d = none
  y14 : row.observedIncrementalFans = none
  y30 : row.durableFans30d = none
  unstamped : row.stamps = []

/-- What holds of a treated row wherever a run gets. -/
structure EvidenceRow.Sound (row : EvidenceRow) : Prop where
  treatment : row.treatment = .treatment
  wakeable : row.Wakeable
  y14 :
    row.observedIncrementalFans.isSome = true → row.stamp14d.isSome = true
  y30 : row.durableFans30d.isSome = true → row.stamp30d.isSome = true
  labelled :
    row.observedIncrementalFans.isSome = true ∨
        row.durableFans30d.isSome = true →
      row.evidenceQuality = row.measuredEvidenceQuality ∧
        (row.experimentUuid.isSome = true →
          row.finalContamination.isSome = true)

/-- The learner has read nothing that is still to come. -/
structure LearningState.Timely (state : LearningState) : Prop where
  stamps :
    ∀ row ∈ state.store.evidence, ∀ time ∈ row.stamps, time ≤ state.clock
  cursor : state.cursor ≤ state.clock

/-- What holds of a learner and of the row of one action. -/
structure LearningState.Sound
    (action : Uuid)
    (state : LearningState) : Prop where
  timely : state.Timely
  row :
    ∃ row, state.store.row? action = some row ∧ row.Sound

structure LearningState.Starts
    (action : Uuid)
    (state : LearningState) : Prop where
  timely : state.Timely
  row :
    ∃ row, state.store.row? action = some row ∧ row.AtDispatch

theorem LearningState.Sound.row_sound {action : Uuid} {state : LearningState}
    (sound : state.Sound action) {row : EvidenceRow} (found : state.store.row? action = some row) :
    row.Sound := by
  obtain ⟨row', found', rowSound⟩ := sound.row
  rw [found] at found'
  rw [Option.some.inj found']
  exact rowSound

namespace EvidenceRow

variable {row : EvidenceRow}

theorem AtDispatch.sound (dispatched : row.AtDispatch) : row.Sound where
  treatment := dispatched.treatment
  wakeable := fun stamped => absurd dispatched.unstamped stamped
  y14 := by
    intro written
    rw [dispatched.y14] at written
    cases written
  y30 := by
    intro written
    rw [dispatched.y30] at written
    cases written
  labelled := by
    rintro (written | written)
    · rw [dispatched.y14] at written
      cases written
    · rw [dispatched.y30] at written
      cases written

end EvidenceRow

namespace RowStep

variable {now : OffsetDateTime} {before after : EvidenceRow}

theorem column_eq {Column : Type} (stepped : RowStep now before after)
    (column : EvidenceRow → Column) (dispatched : ∀ row, column row.dispatch = column row) :
    column after = column before := by
  rw [← dispatched after, stepped.dispatch, dispatched before]

theorem treatment_eq (stepped : RowStep now before after) : after.treatment = before.treatment :=
  stepped.column_eq (fun row => row.treatment) (fun _ => rfl)

theorem reachesLearner_eq (stepped : RowStep now before after) :
    after.reachesLearner = before.reachesLearner :=
  stepped.column_eq EvidenceRow.reachesLearner (fun _ => rfl)

theorem stamp14d_kept (stepped : RowStep now before after) {time : OffsetDateTime}
    (isStamp : before.stamp14d = some time) :
    after.stamp14d = some time :=
  stepped.stamped14d.or_kept stepped.resolved isStamp

theorem stamp30d_kept (stepped : RowStep now before after) {time : OffsetDateTime}
    (isStamp : before.stamp30d = some time) :
    after.stamp30d = some time :=
  stepped.stamped30d.or_kept stepped.resolved isStamp

theorem sound (stepped : RowStep now before after) (sound : before.Sound) : after.Sound where
  treatment := stepped.treatment_eq.trans sound.treatment
  wakeable := stepped.wakeable sound.wakeable
  y14 := by
    intro written
    cases column : before.observedIncrementalFans with
    | none => exact stepped.y14.stamped column written
    | some held =>
      have stamped := sound.y14 (by rw [column]; rfl)
      obtain ⟨time, isStamp⟩ := Option.isSome_iff_exists.mp stamped
      rw [stepped.stamp14d_kept isStamp]
      rfl
  y30 := by
    intro written
    cases column : before.durableFans30d with
    | none => exact stepped.y30.stamped column written
    | some held =>
      have stamped := sound.y30 (by rw [column]; rfl)
      obtain ⟨time, isStamp⟩ := Option.isSome_iff_exists.mp stamped
      rw [stepped.stamp30d_kept isStamp]
      rfl
  labelled := by
    intro written
    have sameMeasured := stepped.column_eq EvidenceRow.measuredEvidenceQuality (fun _ => rfl)
    have sameExperiment := stepped.column_eq (fun row => row.experimentUuid) (fun _ => rfl)
    rw [sameMeasured, sameExperiment]
    rcases stepped.quality with ⟨y14, y30, quality⟩ | relabelled
    · rw [y14, y30] at written
      obtain ⟨label, contaminated⟩ := sound.labelled written
      refine ⟨quality.trans label, fun inExperiment => ?_⟩
      have established := contaminated inExperiment
      rw [stepped.contamination established]
      exact established
    · exact relabelled

end RowStep

theorem stamp_le_readCursor {rows : List EvidenceRow} {row : EvidenceRow}
    (member : row ∈ rows) {time : OffsetDateTime} (isStamp : time ∈ row.stamps)
    (cursor : OffsetDateTime) :
    time ≤ advanceCursor cursor (readCursor rows) := by
  have read : time ∈ rows.flatMap EvidenceRow.stamps := List.mem_flatMap.mpr ⟨row, member, isStamp⟩
  obtain ⟨latest, isLatest⟩ := Option.isSome_iff_exists.mp (List.isSome_max?_of_mem read)
  have below := (List.max?_le_iff isLatest).mp (le_refl latest) time read
  rw [readCursor, isLatest]
  exact le_trans below (le_max_right cursor latest)

theorem le_advanceCursor (cursor : OffsetDateTime) (read : Option OffsetDateTime) :
    cursor ≤ advanceCursor cursor read := by
  cases read with
  | none => exact le_refl cursor
  | some latest => exact le_max_left cursor latest

theorem advanceCursor_le {rows : List EvidenceRow} {cursor clock : OffsetDateTime}
    (cursorPast : cursor ≤ clock) (stamps : ∀ row ∈ rows, ∀ time ∈ row.stamps, time ≤ clock) :
    advanceCursor cursor (readCursor rows) ≤ clock := by
  cases isLatest : readCursor rows with
  | none => exact cursorPast
  | some latest =>
    have member := List.max?_mem isLatest
    obtain ⟨row, rowMember, isStamp⟩ := List.mem_flatMap.mp member
    exact max_le cursorPast (stamps row rowMember latest isStamp)

theorem readAfter_of_stamp {row : EvidenceRow} (wakeable : row.Wakeable)
    (reaches : row.reachesLearner = true) {cursor time : OffsetDateTime}
    (isStamp : time ∈ row.stamps) (past : cursor < time) :
    row.readAfter (some cursor) = true := by
  obtain ⟨greatest, isGreatest⟩ := Option.isSome_iff_exists.mp (List.isSome_max?_of_mem isStamp)
  have below := (List.max?_le_iff isGreatest).mp (le_refl greatest) time isStamp
  have woken := wakeable (List.ne_nil_of_mem isStamp)
  have learnable : row.learnable = true := by
    rw [EvidenceRow.learnable, Bool.and_eq_true_iff]
    refine ⟨?_, (Bool.and_eq_true_iff.mp reaches).2⟩
    rw [Bool.or_eq_true_iff, decide_eq_true_iff]
    exact woken
  rw [EvidenceRow.readAfter, learnable, EvidenceRow.greatestStamp, isGreatest, Bool.true_and]
  exact decide_eq_true (lt_of_lt_of_le past below)

/-- Rows that are about different actions are found one at a time. -/
theorem filter_eq_of_find? {Row Name : Type} [DecidableEq Name] (name : Row → Option Name)
    (wanted : Name) {rows : List Row} (distinct : (rows.filterMap name).Nodup) {row : Row}
    (found : rows.find? (fun row => name row == some wanted) = some row) :
    rows.filter (fun row => name row == some wanted) = [row] := by
  induction rows with
  | nil => cases found
  | cons first rest inductionHypothesis =>
    by_cases isWanted : name first = some wanted
    · rw [List.find?_cons_of_pos (by simpa using isWanted)] at found
      rw [List.filter_cons_of_pos (by simpa using isWanted), Option.some.inj found]
      rw [List.filterMap_cons_some isWanted, List.nodup_cons] at distinct
      refine congrArg (row :: ·) (List.filter_eq_nil_iff.mpr ?_)
      intro other member alsoWanted
      exact distinct.1 (List.mem_filterMap.mpr ⟨other, member, by simpa using alsoWanted⟩)
    · rw [List.find?_cons_of_neg (by simpa using isWanted)] at found
      rw [List.filter_cons_of_neg (by simpa using isWanted)]
      refine inductionHypothesis ?_ found
      cases named : name first with
      | none => rwa [List.filterMap_cons_none named] at distinct
      | some other =>
        rw [List.filterMap_cons_some named] at distinct
        exact distinct.of_cons

section Stepping

variable {action : Uuid} {state : LearningState}

theorem learner_step_of_replay {event : TimedAct} (replays : event.act = .replay) :
    learner.step state event =
      ({ store := state.store
         cursor := (deltaReplay state.store state.cursor).2
         clock := event.now }, (deltaReplay state.store state.cursor).1) := by
  simp only [learner, replays]

theorem learner_step_of_ne_replay {event : TimedAct} (writes : event.act ≠ .replay) :
    learner.step state event =
      ({ store := state.store.apply event
         cursor := state.cursor
         clock := event.now }, []) := by
  cases isAct : event.act with
  | replay => exact absurd isAct writes
  | claim id => simp only [learner, isAct]
  | complete id attemptNumber observation harm contamination =>
    simp only [learner, isAct]
  | fail id attemptNumber retryable harm => simp only [learner, isAct]

theorem apply_of_replay {event : TimedAct} (replays : event.act = .replay) :
    state.store.apply event = state.store := by
  simp only [EvidenceStore.apply, replays]

theorem learner_step_store (event : TimedAct) :
    (learner.step state event).1.store = state.store.apply event := by
  by_cases replays : event.act = .replay
  · rw [learner_step_of_replay replays, apply_of_replay replays]
  · rw [learner_step_of_ne_replay replays]

theorem LearningState.Timely.step (timely : state.Timely) {event : TimedAct}
    (later : state.clock < event.now) :
    (learner.step state event).1.Timely := by
  by_cases replays : event.act = .replay
  · rw [learner_step_of_replay replays]
    refine ⟨fun row member time isStamp =>
        le_trans (timely.stamps row member time isStamp) (le_of_lt later), ?_⟩
    refine le_trans (advanceCursor_le timely.cursor ?_) (le_of_lt later)
    intro row member
    exact timely.stamps row (List.mem_of_mem_filter member)
  · rw [learner_step_of_ne_replay replays]
    refine ⟨?_, le_trans timely.cursor (le_of_lt later)⟩
    intro row member time isStamp
    rcases EvidenceStore.apply_stampsWith event row member time isStamp with
      present | ⟨old, oldMember, isOld⟩
    · exact le_of_eq present
    · exact le_trans (timely.stamps old oldMember time isOld) (le_of_lt later)

theorem LearningState.Sound.step (sound : state.Sound action) {event : TimedAct}
    (later : state.clock < event.now) :
    (learner.step state event).1.Sound action where
  timely := sound.timely.step later
  row := by
    obtain ⟨row, found, rowSound⟩ := sound.row
    obtain ⟨after, afterFound, stepped⟩ := EvidenceStore.apply_row? event found rowSound.treatment
    refine ⟨after, ?_, stepped.sound rowSound⟩
    rw [learner_step_store]
    exact afterFound

theorem learner_preserves_sound (state : LearningState) (event : TimedAct)
    (later : state.clock < event.now) (sound : state.Sound action) :
    (learner.step state event).1.Sound action :=
  sound.step later

/-- The replay of the rows that were read is, of the action, that of its row. -/
theorem applyEvidence_filter {store : EvidenceStore} {row : EvidenceRow}
    (found : store.row? action = some row) (since : Option OffsetDateTime)
    (extraContrast : List GrowthEvidence) :
    ((applyEvidenceToModelWithContrast
        ((store.loadGrowthEvidence since).map EvidenceRow.toGrowthEvidence)
        extraContrast since).filter fun replayed =>
        replayed.row.actionId == some action) =
      if row.readAfter since then
        [⟨row.toGrowthEvidence, replayRow since row.toGrowthEvidence
            (contrastMeans ((store.loadGrowthEvidence since).map EvidenceRow.toGrowthEvidence)
              extraContrast)⟩]
      else
        [] := by
  have alone := filter_eq_of_find? (fun row : EvidenceRow => row.actionId) action
      store.actionsDistinct found
  have read :
      (store.loadGrowthEvidence since).filter (fun row => row.actionId == some action) =
        [row].filter fun row => row.readAfter since := by
    rw [← alone, EvidenceStore.loadGrowthEvidence, List.filter_filter, List.filter_filter]
    exact List.filter_congr fun row _ => Bool.and_comm _ _
  simp only [applyEvidenceToModelWithContrast, List.map_map,
    List.filter_map, Function.comp_def, read, List.filter_singleton]
  cases row.readAfter since <;> rfl

theorem deltaReplay_filter {row : EvidenceRow} (found : state.store.row? action = some row) :
    ((deltaReplay state.store state.cursor).1.filter fun replayed =>
        replayed.row.actionId == some action) =
      if row.readAfter (some state.cursor) then
        [⟨row.toGrowthEvidence,
          replayRow (some state.cursor) row.toGrowthEvidence (deltaMeans state.store state.cursor)⟩]
      else
        [] :=
  applyEvidence_filter found (some state.cursor) _

end Stepping

end CrowdRelay
