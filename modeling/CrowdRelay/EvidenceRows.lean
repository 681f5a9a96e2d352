import CrowdRelay.EvidenceSteps

namespace CrowdRelay

/-!
# What one event does to the rows of a store

Whatever happens to a store, the row of a treated action makes one of its
steps, and no row is stamped with anything but the time of the event.
-/

namespace EvidenceStore

variable {store : EvidenceStore} {action : Uuid} {row : EvidenceRow}
variable {measurement : ClaimedAutopilotMeasurement} {now : OffsetDateTime}

variable (other : Uuid)

variable (now) in
theorem refreshEvidenceReadiness_row? (measurementKind : Option AutopilotMeasurementKind)
    (found : store.row? action = some row) :
    ∃ after,
      (store.refreshEvidenceReadiness other measurementKind now).row? action = some after ∧
        Readied now row after ∧
        (other = action → ∀ kind, measurementKind = some kind →
          ((after.stamp (horizonColumn kind)).or after.resolvedAt).isSome = true) := by
  refine ⟨_, store.row?_updateAction action other _ _ found, ?_, ?_⟩
  · split
    · exact store.refreshRow_readied other measurementKind now row
    · exact Readied.refl
  · intro same kind isKind
    rw [if_pos same, isKind]
    exact store.refreshRow_stamped other now row kind

variable (measurement now) in
theorem settleExperiment_row? (contamination : ℚ) (found : store.row? action = some row)
    (treated : row.treatment = .treatment) :
    ∃ after,
      (store.settleExperiment measurement contamination now).row? action = some after ∧
        Readied now row after ∧
        (measurement.actionId = action →
          settlesExperiment measurement.kind = true →
          row.experimentUuid.isSome = true →
          after.finalContamination.isSome = true) := by
  unfold settleExperiment
  split
  · rename_i experiment isExperiment
    split
    · rename_i settles
      have established := store.row?_updateAction action measurement.actionId
          (establishContamination contamination) (fun _ => rfl) found
      generalize isMid :
        (if measurement.actionId = action then
          establishContamination contamination row else row) = mid
          at established
      have readied : Readied now row mid := by
        rw [← isMid]
        split
        · exact establishContamination_readied now row contamination
        · exact Readied.refl
      have stillTreated : mid.treatment = .treatment :=
        (readied.column_eq (fun row => row.treatment) (fun _ => rfl)).trans treated
      have swept := ((store.updateAction measurement.actionId (establishContamination contamination)
            (fun _ => rfl)).resolveControlEvidence experiment
              now).refreshTreatedRow_readied experiment now mid
      refine ⟨_, ?_, readied.trans swept, ?_⟩
      · rw [refreshExperimentReadiness, row?_updateEvidence,
          resolveControlEvidence, row?_updateEvidence, established,
          Option.map_some, Option.map_some,
          resolveControlRow_treated _ _ _ stillTreated]
      · intro same _ _
        have contaminated : mid.finalContamination.isSome = true := by
          rw [← isMid, if_pos same]
          simp [establishContamination]
        rw [swept.contamination contaminated]
        exact contaminated
    · rename_i unsettled
      exact ⟨row, found, Readied.refl, fun _ settles => absurd settles unsettled⟩
  · rename_i noExperiment
    refine ⟨row, found, Readied.refl, ?_⟩
    intro same _ inExperiment
    rw [same, found, Option.bind_some] at noExperiment
    rw [noExperiment] at inExperiment
    cases inExperiment

def recordedRow (measurement : ClaimedAutopilotMeasurement)
    (observation : AutopilotMeasurementObservation) (harm : Option Metrics)
    (action : Uuid)
    (row : EvidenceRow) : EvidenceRow :=
  if measurement.actionId = action then
    (row.recordOutcome measurement.kind observation.value).recordMetrics
      measurement.kind observation harm
  else
    row

variable {observation : AutopilotMeasurementObservation} {harm : Option Metrics}
variable {contamination : ℚ} {completed : EvidenceStore}

theorem completeMeasurementWithMetrics_readied
    (completes :
      store.completeMeasurementWithMetrics measurement observation harm
        contamination now = some completed)
    (found : store.row? action = some row)
    (treated : row.treatment = .treatment) :
    ∃ after,
      completed.row? action = some after ∧
        Readied now (recordedRow measurement observation harm action row) after ∧
        (measurement.actionId = action →
          ((after.stamp (horizonColumn measurement.kind)).or after.resolvedAt).isSome = true) ∧
        (measurement.actionId = action →
          settlesExperiment measurement.kind = true →
          row.experimentUuid.isSome = true →
          after.finalContamination.isSome = true) := by
  simp only [completeMeasurementWithMetrics] at completes
  split at completes
  · cases completes
  · rw [← Option.some.inj completes]
    have isRecorded := (store.setStatus measurement.id .succeeded).row?_updateAction action
        measurement.actionId
        (fun row =>
          (row.recordOutcome measurement.kind observation.value).recordMetrics
            measurement.kind observation harm)
        (fun row =>
          row.recordOutcome_actionId measurement.kind observation.value)
        found
    have records := recordOutcome_records row measurement.kind observation.value
    have sameDispatch :
        (recordedRow measurement observation harm action row).treatment = row.treatment ∧
          (recordedRow measurement observation harm action
            row).experimentUuid = row.experimentUuid := by
      unfold recordedRow
      split
      · generalize row.recordOutcome measurement.kind observation.value =
          recorded at records ⊢
        cases records <;> exact ⟨rfl, rfl⟩
      · exact ⟨rfl, rfl⟩
    obtain ⟨sameTreatment, sameExperiment⟩ := sameDispatch
    obtain ⟨settled, settledRow, settles, cleans⟩ :=
      settleExperiment_row? measurement now contamination isRecorded (sameTreatment.trans treated)
    obtain ⟨after, afterRow, refreshes, stamps⟩ :=
      refreshEvidenceReadiness_row? now measurement.actionId (some measurement.kind) settledRow
    refine ⟨after, afterRow, settles.trans refreshes,
      fun same => stamps same measurement.kind rfl, ?_⟩
    intro same isSettling inExperiment
    have contaminated := cleans same isSettling
        ((congrArg Option.isSome sameExperiment).trans inExperiment)
    rw [refreshes.contamination contaminated]
    exact contaminated

theorem completeMeasurementWithMetrics_row?
    (completes :
      store.completeMeasurementWithMetrics measurement observation harm
        contamination now = some completed)
    (found : store.row? action = some row)
    (treated : row.treatment = .treatment) :
    ∃ after, completed.row? action = some after ∧ RowStep now row after := by
  obtain ⟨after, afterRow, readied, stamps, cleans⟩ :=
    completeMeasurementWithMetrics_readied completes found treated
  refine ⟨after, afterRow, ?_⟩
  by_cases same : measurement.actionId = action
  · have stamped := stamps same
    have cleaned := cleans same
    rw [recordedRow, if_pos same] at readied
    have records := recordOutcome_records row measurement.kind observation.value
    generalize row.recordOutcome measurement.kind observation.value = recorded at records readied
    have after3 := readied.column_eq (fun row => row.observedIncrementalFans3d) (fun _ => rfl)
    have after14 := readied.column_eq (fun row => row.observedIncrementalFans) (fun _ => rfl)
    have after30 := readied.column_eq (fun row => row.durableFans30d) (fun _ => rfl)
    have afterQuality := readied.column_eq (fun row => row.evidenceQuality) (fun _ => rfl)
    cases records with
    | fans count => exact readied.rowStep_of_unrecorded rfl rfl rfl rfl rfl rfl
    | threeDays isKind =>
      rw [isKind] at stamped
      refine readied.rowStep rfl rfl (Writes.of_kept ?_ stamped)
        (Writes.of_eq after14) (Writes.of_eq after30)
        (Or.inl ⟨after14, after30, afterQuality⟩)
      intro written
      obtain ⟨held, isHeld⟩ := Option.isSome_iff_exists.mp written
      refine after3.trans ?_
      change row.observedIncrementalFans3d.or _ = _
      rw [isHeld]
      rfl
    | fourteenDays isKind unwritten =>
      rw [isKind] at stamped
      refine readied.rowStep rfl rfl (Writes.of_eq after3) (Writes.of_stamped unwritten stamped)
        (Writes.of_eq after30)
        (Or.inr ⟨afterQuality, cleaned (by rw [isKind]; rfl)⟩)
    | thirtyDays isKind unwritten =>
      rw [isKind] at stamped
      refine readied.rowStep rfl rfl (Writes.of_eq after3) (Writes.of_eq after14)
        (Writes.of_stamped unwritten stamped)
        (Or.inr ⟨afterQuality, cleaned (by rw [isKind]; rfl)⟩)
  · rw [recordedRow, if_neg same] at readied
    exact readied.rowStep_of_unrecorded rfl rfl rfl rfl rfl rfl

variable (measurement) in
theorem returnMeasurement_row? (status : MeasurementStatus) (harm : Option Metrics)
    (found : store.row? action = some row) :
    ∃ metrics,
      (store.returnMeasurement measurement status harm).row? action =
        some { row with observedMetrics := metrics } := by
  unfold returnMeasurement
  cases harm with
  | none => exact ⟨row.observedMetrics, found⟩
  | some keys =>
    dsimp only
    split
    · have merged := (store.setStatus measurement.id status).row?_updateAction action
          measurement.actionId
          (fun row =>
            { row with
              observedMetrics := mergeHarmKeys row.observedMetrics keys })
          (fun _ => rfl) found
      rw [mergeHarm, merged]
      split
      · exact ⟨_, rfl⟩
      · exact ⟨row.observedMetrics, rfl⟩
    · exact ⟨row.observedMetrics, found⟩

theorem failMeasurement_readied {retryable : Bool} (found : store.row? action = some row) :
    ∃ metrics after,
      (store.failMeasurement measurement retryable harm now).row? action = some after ∧
        Readied now { row with observedMetrics := metrics } after := by
  simp only [failMeasurement]
  split
  · exact ⟨row.observedMetrics, row, found, Readied.refl⟩
  · rename_i owned _
    obtain ⟨metrics, returned⟩ := returnMeasurement_row? measurement
        (if (retryable && decide (owned.attemptCount < 3)) = true then
          MeasurementStatus.pending else MeasurementStatus.failed)
        harm found
    obtain ⟨after, afterRow, refreshes, _⟩ := refreshEvidenceReadiness_row? now owned.actionId
        (some owned.kind) returned
    exact ⟨metrics, after, afterRow, refreshes⟩

variable (event : TimedAct)

theorem apply_row? (found : store.row? action = some row) (treated : row.treatment = .treatment) :
    ∃ after, (store.apply event).row? action = some after ∧ RowStep event.now row after := by
  unfold apply
  split
  · exact ⟨row, found, RowStep.refl⟩
  · split
    · cases completes : store.completeMeasurementWithMetrics _ _ _ _ _ with
      | none => exact ⟨row, found, RowStep.refl⟩
      | some completed =>
        exact completeMeasurementWithMetrics_row? completes found treated
    · exact ⟨row, found, RowStep.refl⟩
  · split
    · obtain ⟨metrics, after, afterRow, readied⟩ := failMeasurement_readied found
      exact ⟨after, afterRow, readied.rowStep_of_unrecorded rfl rfl rfl rfl rfl rfl⟩
    · exact ⟨row, found, RowStep.refl⟩
  · exact ⟨row, found, RowStep.refl⟩

/-- The value an event completes a kind of measurement of the action with. -/
def measures (store : EvidenceStore) (kind : AutopilotMeasurementKind) (action : Uuid)
    (event : TimedAct) : Option ℚ :=
  match event.act with
  | .complete id attemptNumber observation _ _ =>
    match store.claimed id attemptNumber with
    | some measurement =>
      if (store.ownedMeasurement measurement).isSome ∧
          measurement.kind = kind ∧ measurement.actionId = action then
        some observation.value
      else
        none
    | none => none
  | _ => none

/-- Every outcome column takes what is measured, the first time it is. -/
structure TakesOutcomes
    (measured : AutopilotMeasurementKind → Option ℚ)
    (before after : EvidenceRow) : Prop where
  y3 :
    after.observedIncrementalFans3d =
      before.observedIncrementalFans3d.or (measured .incrementalFanGrowth3d)
  y14 :
    after.observedIncrementalFans =
      before.observedIncrementalFans.or (measured .incrementalFanGrowth14d)
  y30 :
    after.durableFans30d =
      before.durableFans30d.or (measured .durableFanGrowth30d)

theorem TakesOutcomes.readied {measured : AutopilotMeasurementKind → Option ℚ}
    {recorded after : EvidenceRow} (takes : TakesOutcomes measured row recorded)
    (readied : Readied now recorded after) :
    TakesOutcomes measured row after where
  y3 := (readied.column_eq (fun row => row.observedIncrementalFans3d) (fun _ => rfl)).trans takes.y3
  y14 := (readied.column_eq (fun row => row.observedIncrementalFans) (fun _ => rfl)).trans takes.y14
  y30 := (readied.column_eq (fun row => row.durableFans30d) (fun _ => rfl)).trans takes.y30

variable {after : EvidenceRow}

theorem TakesOutcomes.none_of_eq
    (y3 : after.observedIncrementalFans3d = row.observedIncrementalFans3d)
    (y14 : after.observedIncrementalFans = row.observedIncrementalFans)
    (y30 : after.durableFans30d = row.durableFans30d) :
    TakesOutcomes (fun _ => none) row after where
  y3 := by rw [y3, Option.or_none]
  y14 := by rw [y14, Option.or_none]
  y30 := by rw [y30, Option.or_none]

theorem recordOutcome_takes (row : EvidenceRow) (kind : AutopilotMeasurementKind)
    (observedValue : ℚ) :
    TakesOutcomes (fun wanted => if kind = wanted then some observedValue else none)
      row (row.recordOutcome kind observedValue) := by
  unfold EvidenceRow.recordOutcome
  split
  case h_3 =>
    split
    · rename_i unwritten
      rw [Option.isNone_iff_eq_none] at unwritten
      exact ⟨by simp, by simp [unwritten], by simp⟩
    · rename_i written
      cases column : row.observedIncrementalFans with
      | none => exact absurd (by rw [column]; rfl) written
      | some held => exact ⟨by simp, by simp [column], by simp⟩
  case h_5 =>
    split
    · rename_i unwritten
      rw [Option.isNone_iff_eq_none] at unwritten
      exact ⟨by simp, by simp, by simp [unwritten]⟩
    · rename_i written
      cases column : row.durableFans30d with
      | none => exact absurd (by rw [column]; rfl) written
      | some held => exact ⟨by simp, by simp, by simp [column]⟩
  case h_6 _ _ not14d not3d not30d =>
    refine ⟨?_, ?_, ?_⟩
    · rw [if_neg not3d, Option.or_none]
    · rw [if_neg not14d, Option.or_none]
    · rw [if_neg not30d, Option.or_none]
  all_goals exact ⟨by simp, by simp, by simp⟩

/-- An event writes to the outcomes what it measures, and nothing else. -/
theorem apply_takesOutcomes (found : store.row? action = some row)
    (treated : row.treatment = .treatment)
    (foundAfter : (store.apply event).row? action = some after) :
    TakesOutcomes (fun kind => store.measures kind action event) row
      after := by
  have unchanged : TakesOutcomes (fun _ => none) row row := TakesOutcomes.none_of_eq rfl rfl rfl
  unfold measures
  cases isAct : event.act with
  | claim id =>
    simp only [apply, isAct] at foundAfter
    rw [(show (store.claimMeasurement id).row? action = some row from found)] at foundAfter
    rw [← Option.some.inj foundAfter]
    exact unchanged
  | replay =>
    simp only [apply, isAct] at foundAfter
    rw [found] at foundAfter
    rw [← Option.some.inj foundAfter]
    exact unchanged
  | fail id attemptNumber retryable harm =>
    simp only [apply, isAct] at foundAfter
    split at foundAfter
    · obtain ⟨metrics, after', afterRow, readied⟩ := failMeasurement_readied found
      rw [foundAfter] at afterRow
      rw [← Option.some.inj afterRow] at readied
      have recorded : TakesOutcomes (fun _ => none) row { row with observedMetrics := metrics } :=
        TakesOutcomes.none_of_eq rfl rfl rfl
      exact recorded.readied readied
    · rw [found] at foundAfter
      rw [← Option.some.inj foundAfter]
      exact unchanged
  | complete id attemptNumber observation harm contamination =>
    simp only [apply, isAct] at foundAfter
    cases isClaimed : store.claimed id attemptNumber with
    | none =>
      simp only [isClaimed] at foundAfter ⊢
      rw [found] at foundAfter
      rw [← Option.some.inj foundAfter]
      exact unchanged
    | some measurement =>
      simp only [isClaimed] at foundAfter ⊢
      cases owned : store.ownedMeasurement measurement with
      | none =>
        rw [completeMeasurementWithMetrics, owned] at foundAfter
        rw [Option.getD_none, found] at foundAfter
        rw [← Option.some.inj foundAfter]
        simp only [Option.isSome_none, Bool.false_eq_true, false_and, if_false]
        exact unchanged
      | some owner =>
        obtain ⟨completed, completes⟩ :
            ∃ completed,
              store.completeMeasurementWithMetrics measurement
                observation harm contamination event.now = some completed := by
          rw [completeMeasurementWithMetrics, owned]
          exact ⟨_, rfl⟩
        rw [completes, Option.getD_some] at foundAfter
        obtain ⟨after', afterRow, readied, _⟩ :=
          completeMeasurementWithMetrics_readied completes found treated
        rw [foundAfter] at afterRow
        rw [← Option.some.inj afterRow] at readied
        refine TakesOutcomes.readied ?_ readied
        unfold recordedRow
        have takes := recordOutcome_takes row measurement.kind observation.value
        by_cases same : measurement.actionId = action
        · simp only [same, Option.isSome_some, true_and, and_true,
            if_true]
          exact ⟨takes.y3, takes.y14, takes.y30⟩
        · simp only [same, and_false, if_false]
          exact unchanged

/-- An event stamps rows with its own time only. -/
def StampsWith (now : OffsetDateTime) (before after : EvidenceStore) : Prop :=
  ∀ row ∈ after.evidence, ∀ time ∈ row.stamps,
    time = now ∨ ∃ old ∈ before.evidence, time ∈ old.stamps

namespace StampsWith

variable {first second third : EvidenceStore}

theorem refl : StampsWith now first first :=
  fun row member _ isStamp => Or.inr ⟨row, member, isStamp⟩

theorem trans (earlier : StampsWith now first second) (later : StampsWith now second third) :
    StampsWith now first third := by
  intro row member time isStamp
  rcases later row member time isStamp with present | ⟨old, oldMember, isOld⟩
  · exact Or.inl present
  · exact earlier old oldMember time isOld

end StampsWith

variable (change : EvidenceRow → EvidenceRow)

theorem updateEvidence_stampsWith (keepsAction : ∀ row, (change row).actionId = row.actionId)
    (stamps : ∀ row, ∀ time ∈ (change row).stamps, time = now ∨ time ∈ row.stamps) :
    StampsWith now store (store.updateEvidence change keepsAction) := by
  intro changed member time isStamp
  obtain ⟨old, oldMember, isChanged⟩ := List.mem_map.mp member
  rw [← isChanged] at isStamp
  rcases stamps old time isStamp with present | isOld
  · exact Or.inl present
  · exact Or.inr ⟨old, oldMember, isOld⟩

theorem updateAction_stampsWith (keepsAction : ∀ row, (change row).actionId = row.actionId)
    (stamps : ∀ row, ∀ time ∈ (change row).stamps, time = now ∨ time ∈ row.stamps) :
    StampsWith now store (store.updateAction other change keepsAction) := by
  refine updateEvidence_stampsWith _ _ ?_
  intro row time isStamp
  simp only [onAction] at isStamp
  split at isStamp
  · exact stamps row time isStamp
  · exact Or.inr isStamp

end EvidenceStore

theorem mem_stamps_iff {row : EvidenceRow} {time : OffsetDateTime} :
    time ∈ row.stamps ↔
      row.resolvedAt = some time ∨ row.replayed3dAt = some time ∨
        row.replayed14dAt = some time ∨ row.replayed30dAt = some time ∨
        row.lastPartialResolutionAt = some time := by
  simp [EvidenceRow.stamps, eq_comm]

variable {now : OffsetDateTime}

theorem Readied.stamps {before after : EvidenceRow} (readied : Readied now before after)
    (time : OffsetDateTime) (isStamp : time ∈ after.stamps) :
    time = now ∨ time ∈ before.stamps := by
  rw [mem_stamps_iff] at isStamp ⊢
  rcases isStamp with resolved | three | fourteen | thirty | partially
  · rcases readied.resolved.eq_now resolved with old | present
    · exact Or.inr (Or.inl old)
    · exact Or.inl present
  · rcases readied.stamped3d.setOnce.eq_now three with old | present
    · exact Or.inr (Or.inr (Or.inl old))
    · exact Or.inl present
  · rcases readied.stamped14d.setOnce.eq_now fourteen with old | present
    · exact Or.inr (Or.inr (Or.inr (Or.inl old)))
    · exact Or.inl present
  · rcases readied.stamped30d.setOnce.eq_now thirty with old | present
    · exact Or.inr (Or.inr (Or.inr (Or.inr (Or.inl old))))
    · exact Or.inl present
  · rcases readied.lastPartial with old | present
    · rw [old] at partially
      exact Or.inr (Or.inr (Or.inr (Or.inr (Or.inr partially))))
    · rw [present] at partially
      exact Or.inl (Option.some.inj partially).symm

theorem resolveControlRow_stamps (experiment : Uuid) (row : EvidenceRow) (time : OffsetDateTime)
    (isStamp : time ∈ (EvidenceStore.resolveControlRow experiment now row).stamps) :
    time = now ∨ time ∈ row.stamps := by
  simp only [EvidenceStore.resolveControlRow] at isStamp
  split at isStamp
  · rw [mem_stamps_iff] at isStamp ⊢
    rcases isStamp with resolved | other
    · exact Or.inl (Option.some.inj resolved).symm
    · exact Or.inr (Or.inr other)
  · exact Or.inr isStamp

theorem recordOutcome_stamps (row : EvidenceRow) (kind : AutopilotMeasurementKind)
    (observedValue : ℚ) :
    (row.recordOutcome kind observedValue).stamps = row.stamps := by
  have records := recordOutcome_records row kind observedValue
  generalize row.recordOutcome kind observedValue = recorded at records ⊢
  cases records <;> rfl

namespace EvidenceStore

variable {store : EvidenceStore}
variable {measurement : ClaimedAutopilotMeasurement} {now : OffsetDateTime}

theorem refreshEvidenceReadiness_stampsWith (action : Uuid)
    (measurementKind : Option AutopilotMeasurementKind) :
    StampsWith now store (store.refreshEvidenceReadiness action measurementKind now) :=
  updateAction_stampsWith action _ _
    (fun row =>
      (store.refreshRow_readied action measurementKind now row).stamps)

theorem settleExperiment_stampsWith (contamination : ℚ) :
    StampsWith now store (store.settleExperiment measurement contamination now) := by
  unfold settleExperiment
  split
  · rename_i experiment _
    split
    · have established :
          StampsWith now store
            (store.updateAction measurement.actionId
              (establishContamination contamination) (fun _ => rfl)) :=
        updateAction_stampsWith _ _ _
          (fun row =>
            (establishContamination_readied now row contamination).stamps)
      have resolved := established.trans
          (updateEvidence_stampsWith _ (resolveControlRow_actionId experiment now)
            (resolveControlRow_stamps experiment))
      exact resolved.trans
        (updateEvidence_stampsWith _ _
          (fun row =>
            (refreshTreatedRow_readied _ experiment now row).stamps))
    · exact StampsWith.refl
  · exact StampsWith.refl

theorem completeMeasurementWithMetrics_stampsWith
    {observation : AutopilotMeasurementObservation} {harm : Option Metrics}
    {contamination : ℚ} {completed : EvidenceStore}
    (completes :
      store.completeMeasurementWithMetrics measurement observation harm
        contamination now = some completed) :
    StampsWith now store completed := by
  simp only [completeMeasurementWithMetrics] at completes
  split at completes
  · cases completes
  · rw [← Option.some.inj completes]
    have recorded :
        StampsWith now (store.setStatus measurement.id .succeeded)
          ((store.setStatus measurement.id .succeeded).updateAction measurement.actionId
            (fun row =>
              (row.recordOutcome measurement.kind
                observation.value).recordMetrics measurement.kind observation
                harm)
            (fun row =>
              row.recordOutcome_actionId measurement.kind observation.value)) := by
      refine updateAction_stampsWith _ _ _ ?_
      intro row time isStamp
      rw [← recordOutcome_stamps row measurement.kind observation.value]
      exact Or.inr isStamp
    exact (recorded.trans (settleExperiment_stampsWith contamination)).trans
      (refreshEvidenceReadiness_stampsWith _ _)

theorem returnMeasurement_stampsWith (status : MeasurementStatus) (harm : Option Metrics) :
    StampsWith now store (store.returnMeasurement measurement status harm) := by
  unfold returnMeasurement
  cases harm with
  | none => exact StampsWith.refl
  | some keys =>
    dsimp only
    split
    · have merged :
          StampsWith now (store.setStatus measurement.id status)
            ((store.setStatus measurement.id status).mergeHarm measurement.actionId keys) :=
        updateAction_stampsWith _ _ _ (fun _ _ isStamp => Or.inr isStamp)
      exact merged
    · exact StampsWith.refl

theorem apply_stampsWith (event : TimedAct) : StampsWith event.now store (store.apply event) := by
  unfold apply
  split
  · exact StampsWith.refl
  · split
    · cases completes : store.completeMeasurementWithMetrics _ _ _ _ _ with
      | none => exact StampsWith.refl
      | some completed => exact completeMeasurementWithMetrics_stampsWith completes
    · exact StampsWith.refl
  · split
    · unfold failMeasurement
      split
      · exact StampsWith.refl
      · exact (returnMeasurement_stampsWith _ _).trans
          (refreshEvidenceReadiness_stampsWith _ _)
    · exact StampsWith.refl
  · exact StampsWith.refl

end EvidenceStore

end CrowdRelay
