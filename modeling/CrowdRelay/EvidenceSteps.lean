import CrowdRelay.EvidenceLearning

namespace CrowdRelay

/-!
# What one event can do to a row

Readiness only adds to a row: a stamp is set once, before the row resolves,
and `resolved_at` is set once.  An outcome is written once, and the event that
writes it leaves the row stamped for its horizon.
-/

def SetOnce (now : OffsetDateTime)
    (before after : Option OffsetDateTime) : Prop :=
  after = before ∨ before = none ∧ after = some now

namespace SetOnce

variable {now : OffsetDateTime} {first second third : Option OffsetDateTime}

theorem trans (earlier : SetOnce now first second) (later : SetOnce now second third) :
    SetOnce now first third := by
  rcases later with same | ⟨unset, set⟩
  · rw [same]
    exact earlier
  · rcases earlier with same | ⟨_, set'⟩
    · rw [← same]
      exact Or.inr ⟨unset, set⟩
    · rw [unset] at set'
      cases set'

variable {time : OffsetDateTime}

section

variable (set : SetOnce now first second)
include set

theorem kept (isSet : first = some time) : second = some time := by
  rcases set with same | ⟨unset, _⟩
  · rw [same]
    exact isSet
  · rw [unset] at isSet
    cases isSet

theorem unset_before (unset : second = none) : first = none := by
  rcases set with same | ⟨unsetBefore, _⟩
  · rw [← same]
    exact unset
  · exact unsetBefore

theorem eq_now (isSet : second = some time) : first = some time ∨ time = now := by
  rcases set with same | ⟨_, setNow⟩
  · rw [← same]
    exact Or.inl isSet
  · rw [setNow] at isSet
    exact Or.inr (Option.some.inj isSet).symm

end

end SetOnce

/-- A stamp that is set at most once, and not after the row has resolved. -/
def StampedOnce (now : OffsetDateTime)
    (resolvedAt before after : Option OffsetDateTime) : Prop :=
  after = before ∨ before = none ∧ resolvedAt = none ∧ after = some now

namespace StampedOnce

variable {now : OffsetDateTime}
  {resolvedAt resolvedLater first second third : Option OffsetDateTime}

theorem setOnce (stamped : StampedOnce now resolvedAt first second) : SetOnce now first second := by
  rcases stamped with same | ⟨unset, _, set⟩
  · exact Or.inl same
  · exact Or.inr ⟨unset, set⟩

theorem trans (resolved : SetOnce now resolvedAt resolvedLater)
    (earlier : StampedOnce now resolvedAt first second)
    (later : StampedOnce now resolvedLater second third) :
    StampedOnce now resolvedAt first third := by
  rcases later with same | ⟨unset, unresolved, set⟩
  · rw [same]
    exact earlier
  · exact Or.inr
      ⟨earlier.setOnce.unset_before unset, resolved.unset_before unresolved, set⟩

variable {time : OffsetDateTime}

theorem or_kept (resolved : SetOnce now resolvedAt resolvedLater)
    (stamped : StampedOnce now resolvedAt first second) (isSet : first.or resolvedAt = some time) :
    second.or resolvedLater = some time := by
  rcases stamped with same | ⟨unset, unresolved, _⟩
  · rw [same]
    cases first with
    | none => exact resolved.kept isSet
    | some stamp => exact isSet
  · rw [unset, unresolved] at isSet
    cases isSet

theorem or_eq_now (resolved : SetOnce now resolvedAt resolvedLater)
    (stamped : StampedOnce now resolvedAt first second)
    (unset : first.or resolvedAt = none) (isSet : second.or resolvedLater = some time) :
    time = now := by
  obtain ⟨noStamp, unresolved⟩ := Option.or_eq_none_iff.mp unset
  rw [noStamp] at stamped
  rw [unresolved] at resolved
  rcases Option.or_eq_some_iff.mp isSet with fromStamp | ⟨_, fromResolved⟩
  · rcases stamped.setOnce.eq_now fromStamp with absent | now
    · cases absent
    · exact now
  · rcases resolved.eq_now fromResolved with absent | now
    · cases absent
    · exact now

end StampedOnce

namespace EvidenceRow

/-- The row without its readiness. -/
def unready (row : EvidenceRow) : EvidenceRow :=
  { row with
    finalContamination := none
    resolvedAt := none
    partialResolutionCount := 0
    replayed3dAt := none
    replayed14dAt := none
    replayed30dAt := none
    lastPartialResolutionAt := none }

/-- A stamp is only ever set with something that lets the loader see it. -/
def Wakeable (row : EvidenceRow) : Prop :=
  row.stamps ≠ [] → row.resolvedAt.isSome = true ∨ 0 < row.partialResolutionCount

end EvidenceRow

/-- What readiness can change in a row. -/
structure Readied
    (now : OffsetDateTime)
    (before after : EvidenceRow) : Prop where
  unready : after.unready = before.unready
  contamination :
    before.finalContamination.isSome = true →
    after.finalContamination = before.finalContamination
  resolved : SetOnce now before.resolvedAt after.resolvedAt
  stamped3d :
    StampedOnce now before.resolvedAt before.replayed3dAt after.replayed3dAt
  stamped14d :
    StampedOnce now before.resolvedAt before.replayed14dAt
      after.replayed14dAt
  stamped30d :
    StampedOnce now before.resolvedAt before.replayed30dAt
      after.replayed30dAt
  lastPartial :
    after.lastPartialResolutionAt = before.lastPartialResolutionAt ∨
      after.lastPartialResolutionAt = some now
  wakeable : before.Wakeable → after.Wakeable

namespace Readied

variable {now : OffsetDateTime} {row first second third : EvidenceRow}

theorem refl : Readied now row row where
  unready := rfl
  contamination := fun _ => rfl
  resolved := Or.inl rfl
  stamped3d := Or.inl rfl
  stamped14d := Or.inl rfl
  stamped30d := Or.inl rfl
  lastPartial := Or.inl rfl
  wakeable := id

theorem trans (earlier : Readied now first second) (later : Readied now second third) :
    Readied now first third where
  unready := later.unready.trans earlier.unready
  contamination := by
    intro established
    have same := earlier.contamination established
    rw [← same] at established ⊢
    exact later.contamination established
  resolved := earlier.resolved.trans later.resolved
  stamped3d := earlier.stamped3d.trans earlier.resolved later.stamped3d
  stamped14d := earlier.stamped14d.trans earlier.resolved later.stamped14d
  stamped30d := earlier.stamped30d.trans earlier.resolved later.stamped30d
  lastPartial := by
    rcases later.lastPartial with same | present
    · rw [same]
      exact earlier.lastPartial
    · exact Or.inr present
  wakeable := fun wakeable => later.wakeable (earlier.wakeable wakeable)

theorem column_eq {Column : Type} (readied : Readied now first second)
    (column : EvidenceRow → Column) (untouched : ∀ row, column row.unready = column row) :
    column second = column first := by
  rw [← untouched second, readied.unready, untouched first]

end Readied

namespace EvidenceRow

variable (row : EvidenceRow) (kind : AutopilotMeasurementKind) (now : OffsetDateTime)

theorem stampHorizon_readied : Readied now row (row.stampHorizon kind now) := by
  simp only [stampHorizon]
  split
  · rename_i unset
    obtain ⟨unresolved, noStamp⟩ := Bool.and_eq_true_iff.mp unset
    rw [Option.isNone_iff_eq_none] at unresolved noStamp
    have counted : 0 < row.partialResolutionCount + 1 := Nat.succ_pos _
    cases column : horizonColumn kind <;> rw [column] at noStamp
    case replayed3dAt =>
      exact {
        unready := rfl
        contamination := fun _ => rfl
        resolved := Or.inl rfl
        stamped3d := Or.inr ⟨noStamp, unresolved, rfl⟩
        stamped14d := Or.inl rfl
        stamped30d := Or.inl rfl
        lastPartial := Or.inr rfl
        wakeable := fun _ _ => Or.inr counted }
    case replayed14dAt =>
      exact {
        unready := rfl
        contamination := fun _ => rfl
        resolved := Or.inl rfl
        stamped3d := Or.inl rfl
        stamped14d := Or.inr ⟨noStamp, unresolved, rfl⟩
        stamped30d := Or.inl rfl
        lastPartial := Or.inr rfl
        wakeable := fun _ _ => Or.inr counted }
    case replayed30dAt =>
      exact {
        unready := rfl
        contamination := fun _ => rfl
        resolved := Or.inl rfl
        stamped3d := Or.inl rfl
        stamped14d := Or.inl rfl
        stamped30d := Or.inr ⟨noStamp, unresolved, rfl⟩
        lastPartial := Or.inr rfl
        wakeable := fun _ _ => Or.inr counted }
    case lastPartialResolutionAt =>
      exact {
        unready := rfl
        contamination := fun _ => rfl
        resolved := Or.inl rfl
        stamped3d := Or.inl rfl
        stamped14d := Or.inl rfl
        stamped30d := Or.inl rfl
        lastPartial := Or.inr rfl
        wakeable := fun _ _ => Or.inr counted }
  · exact Readied.refl

theorem stampHorizon_stamped :
    (((row.stampHorizon kind now).stamp (horizonColumn kind)).or
      (row.stampHorizon kind now).resolvedAt).isSome = true := by
  simp only [stampHorizon]
  split
  · cases horizonColumn kind <;> rfl
  · rename_i set
    rw [Bool.and_eq_true_iff, Option.isNone_iff_eq_none, Option.isNone_iff_eq_none, not_and] at set
    rw [Option.isSome_or, Bool.or_eq_true]
    cases resolved : row.resolvedAt with
    | none => exact Or.inl (Option.isSome_iff_ne_none.mpr (set resolved))
    | some time => exact Or.inr rfl

end EvidenceRow

namespace EvidenceStore

variable (store : EvidenceStore) (action experiment : Uuid)
  (measurementKind : Option AutopilotMeasurementKind) (now : OffsetDateTime) (row : EvidenceRow)

theorem resolveWhenReady_readied : Readied now row (store.resolveWhenReady action now row) := by
  simp only [resolveWhenReady]
  split
  · rename_i ready
    rw [Bool.and_eq_true_iff, Bool.and_eq_true_iff, Option.isNone_iff_eq_none] at ready
    exact {
      unready := rfl
      contamination := fun _ => rfl
      resolved := Or.inr ⟨ready.1.1, rfl⟩
      stamped3d := Or.inl rfl
      stamped14d := Or.inl rfl
      stamped30d := Or.inl rfl
      lastPartial := Or.inl rfl
      wakeable := fun _ _ => Or.inl rfl }
  · exact Readied.refl

theorem refreshRow_readied : Readied now row (store.refreshRow action measurementKind now row) := by
  cases measurementKind with
  | none => exact store.resolveWhenReady_readied action now row
  | some kind =>
    exact (row.stampHorizon_readied kind now).trans (store.resolveWhenReady_readied action now _)

theorem refreshTreatedRow_readied :
    Readied now row (store.refreshTreatedRow experiment now row) := by
  simp only [refreshTreatedRow]
  split
  · split
    · exact store.refreshRow_readied _ none now row
    · exact Readied.refl
  · exact Readied.refl

theorem establishContamination_readied (contamination : ℚ) :
    Readied now row (establishContamination contamination row) where
  unready := rfl
  contamination := by
    intro established
    obtain ⟨value, isValue⟩ := Option.isSome_iff_exists.mp established
    simp [establishContamination, isValue]
  resolved := Or.inl rfl
  stamped3d := Or.inl rfl
  stamped14d := Or.inl rfl
  stamped30d := Or.inl rfl
  lastPartial := Or.inl rfl
  wakeable := id

theorem resolveControlRow_treated (treated : row.treatment = .treatment) :
    resolveControlRow experiment now row = row := by
  simp [resolveControlRow, treated, TreatmentAssignment.isTreatment]

theorem refreshRow_stamped (kind : AutopilotMeasurementKind) :
    (((store.refreshRow action (some kind) now row).stamp (horizonColumn kind)).or
      (store.refreshRow action (some kind) now row).resolvedAt).isSome = true := by
  have stamped := row.stampHorizon_stamped kind now
  simp only [refreshRow, resolveWhenReady]
  split
  · rw [Option.isSome_or, Bool.or_eq_true]
    exact Or.inr rfl
  · exact stamped

section Lookup

variable {store action}

theorem row?_actionId {row : EvidenceRow} (found : store.row? action = some row) :
    row.actionId = some action := by
  have named := List.find?_some found
  simpa using named

theorem row?_mem {row : EvidenceRow} (found : store.row? action = some row) :
    row ∈ store.evidence :=
  List.mem_of_find?_eq_some found

end Lookup

theorem row?_updateEvidence (change : EvidenceRow → EvidenceRow)
    (keepsAction : ∀ row, (change row).actionId = row.actionId) :
    (store.updateEvidence change keepsAction).row? action = (store.row? action).map change := by
  simp only [row?, updateEvidence, List.find?_map, Function.comp_def, keepsAction]

theorem row?_updateAction (other : Uuid) (change : EvidenceRow → EvidenceRow)
    (keepsAction : ∀ row, (change row).actionId = row.actionId) {row : EvidenceRow}
    (found : store.row? action = some row) :
    (store.updateAction other change keepsAction).row? action =
      some (if other = action then change row else row) := by
  rw [updateAction, row?_updateEvidence, found, Option.map_some, onAction, row?_actionId found]
  simp only [Option.some.injEq, eq_comm]

end EvidenceStore

namespace EvidenceRow

/-- The row without its readiness and without what was measured. -/
def dispatch (row : EvidenceRow) : EvidenceRow :=
  { row.unready with
    observedFans := none
    observedIncrementalFans := none
    observedIncrementalFans3d := none
    durableFans30d := none
    evidenceQuality := .observational
    observedMetrics := [] }

/-- The columns of a row that readiness is about. -/
def readiness (row : EvidenceRow) :=
  (row.finalContamination, row.resolvedAt, row.partialResolutionCount,
    row.replayed3dAt, row.replayed14dAt, row.replayed30dAt,
    row.lastPartialResolutionAt)

end EvidenceRow

/--
What one event can do to an outcome column: it is written once, and then the
horizon of the row is stamped and the row is labelled as it was measured.
-/
structure Writes
    (column : EvidenceRow → Option ℚ)
    (stamp : EvidenceRow → Option OffsetDateTime)
    (before after : EvidenceRow) : Prop where
  kept : (column before).isSome = true → column after = column before
  stamped :
    column before = none → (column after).isSome = true →
    (stamp after).isSome = true

/-- The stamp the three-day reading goes by. -/
def EvidenceRow.stamp3d (row : EvidenceRow) : Option OffsetDateTime :=
  row.replayed3dAt.or row.resolvedAt

/-- The stamp the fourteen-day outcome goes by. -/
def EvidenceRow.stamp14d (row : EvidenceRow) : Option OffsetDateTime :=
  row.replayed14dAt.or row.resolvedAt

/-- The stamp the durable outcome goes by. -/
def EvidenceRow.stamp30d (row : EvidenceRow) : Option OffsetDateTime :=
  row.replayed30dAt.or row.resolvedAt

/-- What one event can do to a treated row. -/
structure RowStep
    (now : OffsetDateTime)
    (before after : EvidenceRow) : Prop where
  dispatch : after.dispatch = before.dispatch
  y3 :
    Writes (fun row => row.observedIncrementalFans3d) EvidenceRow.stamp3d
      before after
  y14 :
    Writes (fun row => row.observedIncrementalFans) EvidenceRow.stamp14d
      before after
  y30 :
    Writes (fun row => row.durableFans30d) EvidenceRow.stamp30d before after
  quality :
    after.observedIncrementalFans = before.observedIncrementalFans ∧
        after.durableFans30d = before.durableFans30d ∧
        after.evidenceQuality = before.evidenceQuality ∨
      after.evidenceQuality = before.measuredEvidenceQuality ∧
        (before.experimentUuid.isSome = true →
          after.finalContamination.isSome = true)
  contamination :
    before.finalContamination.isSome = true →
    after.finalContamination = before.finalContamination
  resolved : SetOnce now before.resolvedAt after.resolvedAt
  stamped3d :
    StampedOnce now before.resolvedAt before.replayed3dAt after.replayed3dAt
  stamped14d :
    StampedOnce now before.resolvedAt before.replayed14dAt
      after.replayed14dAt
  stamped30d :
    StampedOnce now before.resolvedAt before.replayed30dAt
      after.replayed30dAt
  lastPartial :
    after.lastPartialResolutionAt = before.lastPartialResolutionAt ∨
      after.lastPartialResolutionAt = some now
  wakeable : before.Wakeable → after.Wakeable

namespace Writes

variable {column : EvidenceRow → Option ℚ} {stamp : EvidenceRow → Option OffsetDateTime}
  {before after : EvidenceRow}

theorem of_eq (same : column after = column before) :
    Writes column stamp before after where
  kept := fun _ => same
  stamped := by
    intro unwritten written
    rw [same, unwritten] at written
    cases written

theorem of_stamped (unwritten : column before = none) (stamped : (stamp after).isSome = true) :
    Writes column stamp before after where
  kept := by
    intro written
    rw [unwritten] at written
    cases written
  stamped := fun _ _ => stamped

theorem of_kept (kept : (column before).isSome = true → column after = column before)
    (stamped : (stamp after).isSome = true) :
    Writes column stamp before after where
  kept := kept
  stamped := fun _ _ => stamped

end Writes

variable {now : OffsetDateTime} {before recorded after : EvidenceRow}

theorem Readied.rowStep (readied : Readied now recorded after)
    (dispatch : recorded.dispatch = before.dispatch)
    (readiness : recorded.readiness = before.readiness)
    (y3 : Writes (fun row => row.observedIncrementalFans3d) EvidenceRow.stamp3d before after)
    (y14 : Writes (fun row => row.observedIncrementalFans) EvidenceRow.stamp14d before after)
    (y30 : Writes (fun row => row.durableFans30d) EvidenceRow.stamp30d before after)
    (quality :
      after.observedIncrementalFans = before.observedIncrementalFans ∧
          after.durableFans30d = before.durableFans30d ∧
          after.evidenceQuality = before.evidenceQuality ∨
        after.evidenceQuality = before.measuredEvidenceQuality ∧
          (before.experimentUuid.isSome = true → after.finalContamination.isSome = true)) :
    RowStep now before after := by
  simp only [EvidenceRow.readiness, Prod.mk.injEq] at readiness
  obtain ⟨contamination, resolvedAt, count, replayed3dAt, replayed14dAt,
    replayed30dAt, lastPartial⟩ := readiness
  have wakes : before.Wakeable → recorded.Wakeable := by
    intro wakeable
    simpa only [EvidenceRow.Wakeable, EvidenceRow.stamps, resolvedAt, count,
      replayed3dAt, replayed14dAt, replayed30dAt, lastPartial] using wakeable
  have undispatched := readied.column_eq EvidenceRow.dispatch (fun _ => rfl)
  have contaminationKept := readied.contamination
  have resolvedOnce := readied.resolved
  have stamped3d := readied.stamped3d
  have stamped14d := readied.stamped14d
  have stamped30d := readied.stamped30d
  have lastSet := readied.lastPartial
  rw [contamination] at contaminationKept
  rw [resolvedAt] at resolvedOnce stamped3d stamped14d stamped30d
  rw [replayed3dAt] at stamped3d
  rw [replayed14dAt] at stamped14d
  rw [replayed30dAt] at stamped30d
  rw [lastPartial] at lastSet
  exact {
    dispatch := undispatched.trans dispatch
    y3 := y3
    y14 := y14
    y30 := y30
    quality := quality
    contamination := contaminationKept
    resolved := resolvedOnce
    stamped3d := stamped3d
    stamped14d := stamped14d
    stamped30d := stamped30d
    lastPartial := lastSet
    wakeable := fun wakeable => readied.wakeable (wakes wakeable) }

theorem Readied.rowStep_of_unrecorded (readied : Readied now recorded after)
    (dispatch : recorded.dispatch = before.dispatch)
    (readiness : recorded.readiness = before.readiness)
    (y3 : recorded.observedIncrementalFans3d = before.observedIncrementalFans3d)
    (y14 : recorded.observedIncrementalFans = before.observedIncrementalFans)
    (y30 : recorded.durableFans30d = before.durableFans30d)
    (quality : recorded.evidenceQuality = before.evidenceQuality) :
    RowStep now before after := by
  have after3 := readied.column_eq (fun row => row.observedIncrementalFans3d) (fun _ => rfl)
  have after14 := readied.column_eq (fun row => row.observedIncrementalFans) (fun _ => rfl)
  have after30 := readied.column_eq (fun row => row.durableFans30d) (fun _ => rfl)
  have afterQuality := readied.column_eq (fun row => row.evidenceQuality) (fun _ => rfl)
  exact readied.rowStep dispatch readiness (Writes.of_eq (after3.trans y3))
    (Writes.of_eq (after14.trans y14))
    (Writes.of_eq (after30.trans y30))
    (Or.inl ⟨after14.trans y14, after30.trans y30, afterQuality.trans quality⟩)

theorem RowStep.refl {now : OffsetDateTime}
    {row : EvidenceRow} : RowStep now row row :=
  Readied.refl.rowStep_of_unrecorded rfl rfl rfl rfl rfl rfl

/-- What recording an outcome does, kind by kind. -/
inductive Records
    (row : EvidenceRow)
    (kind : AutopilotMeasurementKind)
    (observedValue : ℚ) : EvidenceRow → Prop where
  | fans (count : Option ℚ) :
      Records row kind observedValue { row with observedFans := count }
  | threeDays (isKind : kind = .incrementalFanGrowth3d) :
      Records row kind observedValue
        { row with
          observedIncrementalFans3d :=
            row.observedIncrementalFans3d.or (some observedValue) }
  | fourteenDays
      (isKind : kind = .incrementalFanGrowth14d)
      (unwritten : row.observedIncrementalFans = none) :
      Records row kind observedValue
        { row with
          observedIncrementalFans := some observedValue
          evidenceQuality := row.measuredEvidenceQuality }
  | thirtyDays
      (isKind : kind = .durableFanGrowth30d)
      (unwritten : row.durableFans30d = none) :
      Records row kind observedValue
        { row with
          durableFans30d := some observedValue
          evidenceQuality := row.measuredEvidenceQuality }

theorem recordOutcome_records (row : EvidenceRow) (kind : AutopilotMeasurementKind)
    (observedValue : ℚ) :
    Records row kind observedValue (row.recordOutcome kind observedValue) := by
  unfold EvidenceRow.recordOutcome
  split
  case h_1 => exact .fans (some observedValue)
  case h_2 => exact .fans (row.observedFans.or (some observedValue))
  case h_3 =>
    split
    · rename_i unwritten
      exact .fourteenDays rfl (Option.isNone_iff_eq_none.mp unwritten)
    · exact .fans row.observedFans
  case h_4 => exact .threeDays rfl
  case h_5 =>
    split
    · rename_i unwritten
      exact .thirtyDays rfl (Option.isNone_iff_eq_none.mp unwritten)
    · exact .fans row.observedFans
  case h_6 => exact .fans row.observedFans

end CrowdRelay
