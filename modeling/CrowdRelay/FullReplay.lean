import CrowdRelay.LearnedOnce

namespace CrowdRelay

open Machine Watermark

/-!
# Learning as one full replay would

A replay that reads a row before it has resolved learns from it as
observational evidence, against whatever control arm there is by then.  A
replay that reads it when it has resolved learns what one replay of all of the
finished evidence learns.
-/

variable {action : Uuid}

section Full

/-- The control means a full replay measures its treated rows against. -/
def fullMeans (store : EvidenceStore) : Uuid → ControlMean :=
  contrastMeans ((store.loadGrowthEvidence none).map EvidenceRow.toGrowthEvidence) []

variable {Value Learned : Type} {horizon : Horizon Value} {learned : ModelUpdate → Option Learned}
  {teaches : GrowthEvidence → (Uuid → ControlMean) → Value → List Learned} {store : EvidenceStore}
  {row : EvidenceRow}

theorem learnedOf_fullReplay (lawful : horizon.Lawful)
    (taught : horizon.Taught learned teaches) (sound : row.Sound)
    (found : store.row? action = some row) :
    learnedOf learned action (fullReplay store) =
      if row.reachesLearner then
        (horizon.outcome row).toList.flatMap (teaches row.toGrowthEvidence (fullMeans store))
      else
        [] := by
  have isFull :
      ((fullReplay store).filter fun replayed =>
          replayed.row.actionId == some action) =
        if row.readAfter none then
          [⟨row.toGrowthEvidence, replayRow none row.toGrowthEvidence (fullMeans store)⟩]
        else
          [] :=
    applyEvidence_filter found none []
  rw [learnedOf, isFull]
  cases written : horizon.outcome row with
  | none =>
    have nothing :
        (replayRow none row.toGrowthEvidence (fullMeans store)).filterMap learned = [] := by
      rw [taught row none _ sound.treatment, written]
      split <;> rfl
    cases row.readAfter none <;> cases row.reachesLearner <;>
      simp [nothing]
  | some outcome =>
    obtain ⟨time, isStamp⟩ := Option.isSome_iff_exists.mp
        (lawful.stamped row sound (by rw [written]; rfl))
    have woken := sound.wakeable (List.ne_nil_of_mem (lawful.stamp_mem row time isStamp))
    have read : row.readAfter none = (row.executionStatus != some .unknown) := by
      rw [← decide_eq_true_iff (p := 0 < row.partialResolutionCount), ← Bool.or_eq_true] at woken
      rw [EvidenceRow.readAfter, EvidenceRow.learnable, woken, Bool.true_and, Bool.and_true]
    rw [read, EvidenceRow.reachesLearner]
    cases known : row.executionStatus != some .unknown with
    | false => simp
    | true =>
      simp only [if_true, List.flatMap_cons, List.flatMap_nil, List.append_nil, Bool.and_true]
      rw [taught row none _ sound.treatment, written]
      rfl

end Full

section Lasting

structure EvidenceRow.Lasts (before after : EvidenceRow) : Prop where
  dispatch : after.dispatch = before.dispatch
  y14 :
    ∀ outcome, before.observedIncrementalFans = some outcome →
      after.observedIncrementalFans = some outcome
  y30 :
    ∀ outcome, before.durableFans30d = some outcome →
      after.durableFans30d = some outcome
  resolved :
    before.resolvedAt.isSome = true → after.resolvedAt.isSome = true
  contamination :
    before.finalContamination.isSome = true →
    after.finalContamination = before.finalContamination

namespace EvidenceRow.Lasts

variable {first second third before after : EvidenceRow}

theorem refl : first.Lasts first where
  dispatch := rfl
  y14 := fun _ => id
  y30 := fun _ => id
  resolved := id
  contamination := fun _ => rfl

theorem trans (earlier : first.Lasts second) (later : second.Lasts third) :
    first.Lasts third where
  dispatch := later.dispatch.trans earlier.dispatch
  y14 := fun outcome held => later.y14 outcome (earlier.y14 outcome held)
  y30 := fun outcome held => later.y30 outcome (earlier.y30 outcome held)
  resolved := fun resolved => later.resolved (earlier.resolved resolved)
  contamination := by
    intro established
    have same := earlier.contamination established
    rw [← same] at established ⊢
    exact later.contamination established

theorem column_eq {Column : Type} (lasts : before.Lasts after) (column : EvidenceRow → Column)
    (dispatched : ∀ row, column row.dispatch = column row) :
    column after = column before := by
  rw [← dispatched after, lasts.dispatch, dispatched before]

/-- A row with a measured outcome keeps the quality it has earned. -/
theorem effectiveEvidenceQuality_eq (lasts : before.Lasts after)
    (soundBefore : before.Sound) (soundAfter : after.Sound)
    (measured :
      before.observedIncrementalFans.isSome = true ∨ before.durableFans30d.isSome = true) :
    after.effectiveEvidenceQuality = before.effectiveEvidenceQuality := by
  have measuredAfter :
      after.observedIncrementalFans.isSome = true ∨ after.durableFans30d.isSome = true := by
    rcases measured with y14 | y30
    · obtain ⟨outcome, held⟩ := Option.isSome_iff_exists.mp y14
      exact Or.inl (by rw [lasts.y14 outcome held]; rfl)
    · obtain ⟨outcome, held⟩ := Option.isSome_iff_exists.mp y30
      exact Or.inr (by rw [lasts.y30 outcome held]; rfl)
  obtain ⟨label, contaminated⟩ := soundBefore.labelled measured
  obtain ⟨labelAfter, _⟩ := soundAfter.labelled measuredAfter
  have sameLabel : after.evidenceQuality = before.evidenceQuality := by
    rw [label, labelAfter]
    exact lasts.column_eq EvidenceRow.measuredEvidenceQuality (fun _ => rfl)
  unfold GrowthEvidence.effectiveEvidenceQuality
  rw [sameLabel]
  cases inExperiment : before.experimentUuid.isSome with
  | true => rw [lasts.contamination (contaminated inExperiment)]
  | false =>
    have observational : before.evidenceQuality = .observational := by
      rw [label, EvidenceRow.measuredEvidenceQuality, inExperiment]
      rfl
    rw [observational]
    rfl

end EvidenceRow.Lasts

theorem RowStep.lasts {now : OffsetDateTime} {before after : EvidenceRow}
    (stepped : RowStep now before after) : before.Lasts after where
  dispatch := stepped.dispatch
  y14 := by
    intro outcome held
    exact (stepped.y14.kept (by rw [held]; rfl)).trans held
  y30 := by
    intro outcome held
    exact (stepped.y30.kept (by rw [held]; rfl)).trans held
  resolved := by
    intro isResolved
    obtain ⟨time, isTime⟩ := Option.isSome_iff_exists.mp isResolved
    rw [stepped.resolved.kept isTime]
    rfl
  contamination := stepped.contamination

def LearningState.Lasts (action : Uuid)
    (before after : LearningState) : Prop :=
  ∀ row, before.store.row? action = some row →
    ∃ later, after.store.row? action = some later ∧ row.Lasts later

variable {start : LearningState} {events : List TimedAct}

theorem Forward.lasts (forward : Forward start events) (sound : start.Sound action) :
    ∀ visit ∈ learner.visits start events, visit.1.Lasts action (learner.final start events) := by
  have stepped :
      ∀ (state : LearningState) (event : TimedAct),
        state.clock < event.now →
        state.Sound action →
        state.Lasts action (learner.step state event).1 := by
    intro state event _ sound row found
    obtain ⟨row', found', rowSound⟩ := sound.row
    rw [found] at found'
    rw [← Option.some.inj found'] at rowSound
    obtain ⟨after, afterFound, stepped⟩ := EvidenceStore.apply_row? event found rowSound.treatment
    refine ⟨after, ?_, stepped.lasts⟩
    rw [learner_step_store]
    exact afterFound
  refine (learner.lasts_of_visits (fun _ => rfl) ?_ ?_
    learner_preserves_sound stepped sound forward.visits).2
  · intro state _ row found
    exact ⟨row, found, EvidenceRow.Lasts.refl⟩
  · intro first second third earlier later row found
    obtain ⟨middle, middleFound, lasts⟩ := earlier row found
    obtain ⟨last, lastFound, lasts'⟩ := later middle middleFound
    exact ⟨last, lastFound, lasts.trans lasts'⟩

end Lasting

end CrowdRelay
