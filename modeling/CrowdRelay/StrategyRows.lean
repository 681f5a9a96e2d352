import CrowdRelay.EvidenceHorizons
import CrowdRelay.StrategyLearning

namespace CrowdRelay

open MachineInt PrecisionWeighted

/-!
# What a dispatch has been read for

A belief is the prior and the observations of its cell, in any order.  What a
row says from scratch is what was seen of it and what is new of it, unless its
fourteen-day reading overtakes a three-day one that was already read.
-/

/-! ## Beliefs as lists of observations -/

/-- The observations among some updates that are of the cell. -/
def observationsIn (cell : StrategyCell) (updates : List (StrategyCell × Observation ℚ)) :
    List (Observation ℚ) :=
  (updates.filter fun update => update.1 = cell).map Prod.snd

variable (cell : StrategyCell)

theorem observationsIn_cons (update : StrategyCell × Observation ℚ)
    (rest : List (StrategyCell × Observation ℚ)) :
    observationsIn cell (update :: rest) =
      if update.1 = cell then
        update.2 :: observationsIn cell rest
      else
        observationsIn cell rest := by
  unfold observationsIn
  rw [List.filter_cons]
  simp only [decide_eq_true_eq]
  split
  · rfl
  · rfl

theorem observationsIn_append (first second : List (StrategyCell × Observation ℚ)) :
    observationsIn cell (first ++ second) =
      observationsIn cell first ++ observationsIn cell second := by
  unfold observationsIn
  rw [List.filter_append, List.map_append]

theorem observationsIn_perm {first second : List (StrategyCell × Observation ℚ)}
    (permuted : first.Perm second) :
    (observationsIn cell first).Perm (observationsIn cell second) :=
  (permuted.filter _).map _

namespace StateConditionedStrategyPosterior

variable (posterior : StateConditionedStrategyPosterior) (cell : StrategyCell)

/-- The belief of a cell; the prior where nothing was learned. -/
def belief : NormalPosterior := (posterior cell).getD strategyPrior

theorem confidence_eq : posterior.confidence cell = (posterior.belief cell).count := by
  unfold confidence belief
  cases posterior cell with
  | none => rfl
  | some belief => rfl

theorem predict_eq :
    posterior.predict cell = ((posterior.belief cell).mean, (posterior.belief cell).variance) := by
  unfold predict belief
  cases posterior cell with
  | none => rfl
  | some belief => rfl

theorem belief_update (updated : StrategyCell) (observation : Observation ℚ) :
    (posterior.update updated observation).belief cell =
      if updated = cell then
        updateSigned (posterior.belief cell) observation
      else
        posterior.belief cell := by
  unfold belief update
  by_cases same : cell = updated
  · rw [if_pos same, if_pos same.symm, same]
    rfl
  · rw [if_neg same, if_neg (Ne.symm same)]

end StateConditionedStrategyPosterior

theorem strategyPrior_spread : 0 < strategyPrior.variance := four_pos

section Beliefs

variable {posterior : StateConditionedStrategyPosterior} {checkpoint : Option OffsetDateTime}

theorem GrowthEvidence.strategyUpdate_noisy {ev : GrowthEvidence}
    {update : StrategyCell × Observation ℚ} (updates : ev.strategyUpdate checkpoint = some update) :
    update.1 = ev.strategyCell ∧ 0 < update.2.variance := by
  unfold strategyUpdate at updates
  split at updates
  · obtain ⟨learned, observed, rfl⟩ := Option.map_eq_some_iff.mp updates
    obtain ⟨reading, isReading, kept⟩ := Option.bind_eq_some_iff.mp observed
    have multiplier : 0 < reading.2 := by
      unfold incrementalFansForLearning at isReading
      split at isReading
      · cases isReading
        exact one_pos
      · obtain ⟨early, _, rfl⟩ := Option.map_eq_some_iff.mp isReading
        exact four_pos
    split at kept
    · cases kept
      refine ⟨rfl, ?_⟩
      refine mul_pos (mul_pos (mul_pos two_pos ?_) multiplier)
          (EvidenceQuality.varianceMultiplier_pos _)
      exact lt_of_lt_of_le one_pos (le_max_right _ _)
    · cases kept
  · cases updates

/-- A belief after a replay is the one before it and the new observations. -/
theorem belief_applyEvidence (evidence : List GrowthEvidence) (cell : StrategyCell) :
    (applyEvidenceToStrategyPosterior posterior evidence checkpoint).belief cell =
      (observationsIn cell
        (evidence.filterMap fun ev =>
          ev.strategyUpdate checkpoint)).foldl
        Estimate.observe (posterior.belief cell) := by
  unfold applyEvidenceToStrategyPosterior
  induction evidence generalizing posterior with
  | nil => rfl
  | cons ev rest inductionHypothesis =>
    rw [List.foldl_cons, inductionHypothesis]
    cases updates : ev.strategyUpdate checkpoint with
    | none =>
      have skipped :
          ((ev :: rest).filterMap fun ev =>
              ev.strategyUpdate checkpoint) =
            rest.filterMap fun ev => ev.strategyUpdate checkpoint :=
        List.filterMap_cons_none updates
      rw [skipped]
    | some update =>
      have taken :
          ((ev :: rest).filterMap fun ev =>
              ev.strategyUpdate checkpoint) =
            update :: rest.filterMap fun ev => ev.strategyUpdate checkpoint :=
        List.filterMap_cons_some updates
      have noisy := (GrowthEvidence.strategyUpdate_noisy updates).2
      have observed : ∀ belief, updateSigned belief update.2 = Estimate.observe belief update.2 :=
        fun belief => if_neg (not_le_of_gt noisy)
      dsimp only
      rw [taken, StateConditionedStrategyPosterior.belief_update, observationsIn_cons]
      by_cases same : update.1 = cell
      · rw [if_pos same, if_pos same, observed, List.foldl_cons]
      · rw [if_neg same, if_neg same]

end Beliefs

/-! ## What a row has been read for -/

/-- The observation that a row makes of a reading. -/
def GrowthEvidence.observationOf (ev : GrowthEvidence)
    (learned : ℚ × ℚ) : StrategyCell × Observation ℚ :=
  (ev.strategyCell,
    { value := learned.1
      variance :=
        2 * max |learned.1| 1 * learned.2 * ev.effectiveEvidenceQuality.varianceMultiplier })

namespace EvidenceRow

variable (row : EvidenceRow) (cursor : Option OffsetDateTime)

def replayUpdate : Option (StrategyCell × Observation ℚ) :=
  if row.readAfter cursor && row.acceptedAt cursor then row.strategyUpdate cursor else none

/-- Readings and stamps come together, and none from the future. -/
structure Measured
    (clock : OffsetDateTime)
    (row : EvidenceRow) : Prop where
  threeDay :
    row.observedIncrementalFans3d.isSome = row.replayed3dAt.isSome
  fourteenDay :
    row.observedIncrementalFans.isSome = row.replayed14dAt.isSome
  dated : ∀ stamp ∈ row.stamps, stamp ≤ clock
  wakeable : row.Wakeable

/-- The fourteen-day reading is new, and the three-day one is not. -/
def overtaken : Bool :=
  match cursor, row.replayed3dAt, row.replayed14dAt with
  | some cursor, some early, some late =>
    decide (early ≤ cursor) && decide (cursor < late)
  | _, _, _ => false

end EvidenceRow

variable {clock : OffsetDateTime} {cursor : Option OffsetDateTime} {stamp : OffsetDateTime}

section Reading

variable {row : EvidenceRow}

theorem replayed3dAt_mem_stamps (isStamp : row.replayed3dAt = some stamp) : stamp ∈ row.stamps := by
  rw [mem_stamps_iff]
  exact Or.inr (Or.inl isStamp)

theorem replayed14dAt_mem_stamps (isStamp : row.replayed14dAt = some stamp) :
    stamp ∈ row.stamps := by
  rw [mem_stamps_iff]
  exact Or.inr (Or.inr (Or.inl isStamp))

theorem exists_horizon (measured : row.Measured clock) {learned : ℚ × ℚ}
    (isReading : row.incrementalFansForLearning = some learned) :
    ∃ stamp, row.learningHorizon = some stamp ∧ stamp ∈ row.stamps := by
  unfold GrowthEvidence.incrementalFansForLearning at isReading
  unfold GrowthEvidence.learningHorizon
  cases fourteenDay : row.observedIncrementalFans with
  | some fans =>
    have stamped := measured.fourteenDay
    rw [fourteenDay] at stamped
    obtain ⟨stamp, isStamp⟩ := Option.isSome_iff_exists.mp stamped.symm
    exact ⟨stamp, isStamp, replayed14dAt_mem_stamps isStamp⟩
  | none =>
    rw [fourteenDay] at isReading
    obtain ⟨fans, threeDay, _⟩ := Option.map_eq_some_iff.mp isReading
    have stamped := measured.threeDay
    rw [threeDay] at stamped
    obtain ⟨stamp, isStamp⟩ := Option.isSome_iff_exists.mp stamped.symm
    exact ⟨stamp, isStamp, replayed3dAt_mem_stamps isStamp⟩

theorem exists_stamp_of_observationTime (timed : row.observationTime.isSome = true) :
    ∃ stamp, stamp ∈ row.stamps := by
  obtain ⟨stamp, isTime⟩ := Option.isSome_iff_exists.mp timed
  refine ⟨stamp, mem_stamps_iff.mpr ?_⟩
  unfold GrowthEvidence.observationTime GrowthEvidence.learningHorizon at isTime
  rcases Option.or_eq_some_iff.mp isTime with isHorizon | ⟨_, isResolved⟩
  · split at isHorizon
    · exact Or.inr (Or.inr (Or.inl isHorizon))
    · exact Or.inr (Or.inl isHorizon)
  · exact Or.inl isResolved

theorem readAfter_of_reading (measured : row.Measured clock)
    (reaches : row.reachesLearner = true) (isStamp : stamp ∈ row.stamps)
    (past : ∀ time, cursor = some time → time < stamp) :
    row.readAfter cursor = true := by
  cases cursor with
  | some time =>
    exact readAfter_of_stamp measured.wakeable reaches isStamp (past time rfl)
  | none =>
    have woken := measured.wakeable (List.ne_nil_of_mem isStamp)
    have known := (Bool.and_eq_true_iff.mp reaches).2
    unfold EvidenceRow.readAfter EvidenceRow.learnable
    rw [known, Bool.and_true, Bool.and_true, Bool.or_eq_true_iff, decide_eq_true_iff]
    exact woken

theorem horizonIsNew_iff {fallback : Option OffsetDateTime} :
    horizonIsNew cursor (some stamp) fallback = true ↔
      ∀ time, cursor = some time → time < stamp := by
  cases cursor with
  | none => exact ⟨fun _ => nofun, fun _ => rfl⟩
  | some time =>
    refine decide_eq_true_iff.trans ⟨?_, fun past => past time rfl⟩
    intro past other same
    rw [← Option.some.inj same]
    exact past

theorem replayUpdate_noisy {update : StrategyCell × Observation ℚ}
    (updates : row.replayUpdate cursor = some update) :
    update.1 = row.strategyCell ∧ 0 < update.2.variance := by
  unfold EvidenceRow.replayUpdate at updates
  split at updates
  · exact GrowthEvidence.strategyUpdate_noisy updates
  · cases updates

theorem observationsIn_noisy (cell : StrategyCell) (rows : List EvidenceRow)
    (cursor : Option OffsetDateTime) :
    ∀ observation ∈ observationsIn cell (rows.filterMap fun row => row.replayUpdate cursor),
      0 < observation.variance := by
  intro observation member
  obtain ⟨update, inCell, rfl⟩ := List.mem_map.mp member
  obtain ⟨row, _, updates⟩ := List.mem_filterMap.mp (List.mem_filter.mp inCell).1
  exact (replayUpdate_noisy updates).2

theorem reading_of_fourteenDay (measured : row.Measured clock)
    (isStamp : row.replayed14dAt = some stamp) :
    row.incrementalFansForLearning.isSome = true := by
  have stamped := measured.fourteenDay
  rw [isStamp] at stamped
  obtain ⟨fans, fourteenDay⟩ := Option.isSome_iff_exists.mp stamped
  unfold GrowthEvidence.incrementalFansForLearning
  rw [fourteenDay]
  rfl

theorem reading_of_threeDay (measured : row.Measured clock)
    (isStamp : row.replayed3dAt = some stamp) :
    row.incrementalFansForLearning.isSome = true := by
  have stamped := measured.threeDay
  rw [isStamp] at stamped
  unfold GrowthEvidence.incrementalFansForLearning
  split
  · rfl
  · rw [Option.isSome_map]
    exact stamped

/-- A replay makes every update that a row it can learn from has for it. -/
theorem replayUpdate_eq (measured : row.Measured clock) :
    row.replayUpdate cursor =
      if row.reachesLearner then
        (row.strategyObservation cursor).map row.observationOf
      else
        none := by
  unfold EvidenceRow.replayUpdate
  cases reaches : row.reachesLearner with
  | false =>
    rw [if_neg Bool.false_ne_true, if_neg]
    intro accepted
    obtain ⟨read, taken⟩ := Bool.and_eq_true_iff.mp accepted
    unfold EvidenceRow.readAfter EvidenceRow.learnable at read
    unfold GrowthEvidence.acceptedAt at taken
    have known := (Bool.and_eq_true_iff.mp (Bool.and_eq_true_iff.mp read).1).2
    have teaches := (Bool.and_eq_true_iff.mp (Bool.and_eq_true_iff.mp taken).1).1
    unfold EvidenceRow.reachesLearner at reaches
    rw [known, teaches] at reaches
    cases reaches
  | true =>
    have teaches := (Bool.and_eq_true_iff.mp reaches).1
    have updates :
        row.strategyUpdate cursor = (row.strategyObservation cursor).map row.observationOf :=
      if_pos teaches
    rw [if_pos rfl, updates]
    cases observed : row.strategyObservation cursor with
    | none =>
      split
      · rfl
      · rfl
    | some learned =>
      rw [if_pos]
      obtain ⟨reading, isReading, kept⟩ := Option.bind_eq_some_iff.mp observed
      obtain ⟨stamp, isHorizon, isStamp⟩ := exists_horizon measured isReading
      split at kept
      · rename_i isNew
        rw [isHorizon] at isNew
        unfold GrowthEvidence.acceptedAt GrowthEvidence.observationTime
        rw [readAfter_of_reading measured reaches isStamp (horizonIsNew_iff.mp isNew),
          teaches, isHorizon, observed]
        rfl
      · cases kept

end Reading

/-! ## How far a row has moved on since it was seen -/

/-- A reading that was there and was read, or came after the cursor. -/
def Acquired (cursor stampBefore stampAfter : Option OffsetDateTime)
    (before after : Option ℚ) : Prop :=
  (stampAfter = stampBefore ∧ after = before ∧
      ∀ stamp,
        stampAfter = some stamp →
        ∃ time, cursor = some time ∧ stamp ≤ time) ∨
    (before = none ∧ ∃ stamp, stampAfter = some stamp ∧ ∀ time, cursor = some time → time < stamp)

/-- A row as it was seen, and as it is. -/
structure Follows
    (cursor : Option OffsetDateTime)
    (clock : OffsetDateTime)
    (old row : EvidenceRow) : Prop where
  seen : old.Measured clock
  measured : row.Measured clock
  observes : old.observationOf = row.observationOf
  reaches : old.reachesLearner = row.reachesLearner
  threeDay :
    row.reachesLearner = true →
    Acquired cursor old.replayed3dAt row.replayed3dAt
      old.observedIncrementalFans3d row.observedIncrementalFans3d
  fourteenDay :
    row.reachesLearner = true →
    Acquired cursor old.replayed14dAt row.replayed14dAt
      old.observedIncrementalFans row.observedIncrementalFans

section Splitting

variable {old row : EvidenceRow} {ev : GrowthEvidence}

theorem strategyObservation_scratch (ev : GrowthEvidence) :
    ev.strategyObservation none = ev.incrementalFansForLearning := by
  unfold GrowthEvidence.strategyObservation
  cases ev.incrementalFansForLearning with
  | none => rfl
  | some learned => rfl

theorem strategyObservation_of_reached {stamp time : OffsetDateTime}
    (isHorizon : row.learningHorizon = some stamp) (isCursor : cursor = some time)
    (reached : stamp ≤ time) :
    row.strategyObservation cursor = none := by
  unfold GrowthEvidence.strategyObservation
  cases row.incrementalFansForLearning with
  | none => rfl
  | some learned =>
    refine if_neg ?_
    rw [isHorizon, horizonIsNew_iff]
    exact fun past => not_lt_of_ge reached (past time isCursor)

theorem strategyObservation_of_past {stamp : OffsetDateTime}
    (isHorizon : row.learningHorizon = some stamp)
    (past : ∀ time, cursor = some time → time < stamp) :
    row.strategyObservation cursor = row.incrementalFansForLearning := by
  unfold GrowthEvidence.strategyObservation
  cases row.incrementalFansForLearning with
  | none => rfl
  | some learned =>
    refine if_pos ?_
    rw [isHorizon, horizonIsNew_iff]
    exact past

theorem incrementalFansForLearning_of_fourteenDay {fans : ℚ}
    (fourteenDay : ev.observedIncrementalFans = some fans) :
    ev.incrementalFansForLearning = some (fans, 1) := by
  unfold GrowthEvidence.incrementalFansForLearning
  rw [fourteenDay]

theorem incrementalFansForLearning_of_threeDay (none14 : ev.observedIncrementalFans = none) :
    ev.incrementalFansForLearning = ev.observedIncrementalFans3d.map fun incremental =>
        (incremental, earlyEstimateVarianceMultiplier) := by
  unfold GrowthEvidence.incrementalFansForLearning
  rw [none14]

theorem learningHorizon_of_fourteenDay {fans : ℚ}
    (fourteenDay : ev.observedIncrementalFans = some fans) :
    ev.learningHorizon = ev.replayed14dAt := by
  unfold GrowthEvidence.learningHorizon
  rw [fourteenDay]
  rfl

theorem learningHorizon_of_threeDay (none14 : ev.observedIncrementalFans = none) :
    ev.learningHorizon = ev.replayed3dAt := by
  unfold GrowthEvidence.learningHorizon
  rw [none14]
  rfl

section

variable (follows : Follows cursor clock old row)
include follows

theorem reading_split_of_threeDay (reaches : row.reachesLearner = true)
    (none14 : row.observedIncrementalFans = none) (oldNone : old.observedIncrementalFans = none) :
    row.incrementalFansForLearning.toList =
      old.incrementalFansForLearning.toList ++ (row.strategyObservation cursor).toList := by
  have horizon := learningHorizon_of_threeDay none14
  rw [incrementalFansForLearning_of_threeDay none14, incrementalFansForLearning_of_threeDay oldNone]
  rcases follows.threeDay reaches with
    ⟨same3, kept3, reached3⟩ | ⟨old3, early, isEarly, past3⟩
  · cases threeDay : row.observedIncrementalFans3d with
    | some fans =>
      have stamped := follows.measured.threeDay
      rw [threeDay] at stamped
      obtain ⟨stamp, isStamp⟩ := Option.isSome_iff_exists.mp stamped.symm
      obtain ⟨time, isCursor, reached⟩ := reached3 stamp isStamp
      rw [strategyObservation_of_reached (horizon.trans isStamp) isCursor
        reached, ← kept3, threeDay]
      rfl
    | none =>
      have unread : row.strategyObservation cursor = none := by
        unfold GrowthEvidence.strategyObservation
        rw [incrementalFansForLearning_of_threeDay none14, threeDay]
        rfl
      rw [unread, ← kept3, threeDay]
      rfl
  · rw [strategyObservation_of_past (horizon.trans isEarly) past3,
      incrementalFansForLearning_of_threeDay none14, old3]
    rfl

/-- Where the final reading is new the three-day one was never read: it would
be overtaken. -/
theorem threeDay_unread_of_late (reaches : row.reachesLearner = true)
    (current : row.overtaken cursor = false) {late : OffsetDateTime}
    (isLate : row.replayed14dAt = some late) (past : ∀ time, cursor = some time → time < late) :
    old.observedIncrementalFans3d = none := by
  rcases follows.threeDay reaches with ⟨_, kept3, reached3⟩ | ⟨old3, _⟩
  · by_contra wasRead
    rw [← kept3] at wasRead
    have isSome := Option.isSome_iff_ne_none.mpr wasRead
    rw [follows.measured.threeDay] at isSome
    obtain ⟨early, isEarly⟩ := Option.isSome_iff_exists.mp isSome
    obtain ⟨time, isCursor, reached⟩ := reached3 early isEarly
    have overtaken : row.overtaken cursor = true := by
      unfold EvidenceRow.overtaken
      rw [isCursor, isEarly, isLate]
      exact Bool.and_eq_true_iff.mpr ⟨decide_eq_true reached, decide_eq_true (past time isCursor)⟩
    rw [current] at overtaken
    cases overtaken
  · exact old3

/-- The reading of a row, in what was seen of it and in what is new. -/
theorem reading_split (reaches : row.reachesLearner = true)
    (current : row.overtaken cursor = false) :
    row.incrementalFansForLearning.toList =
      old.incrementalFansForLearning.toList ++ (row.strategyObservation cursor).toList := by
  rcases follows.fourteenDay reaches with
    ⟨same14, kept14, reached14⟩ | ⟨old14, late, isLate, past14⟩
  · cases fourteenDay : row.observedIncrementalFans with
    | some fans =>
      -- Read before, and read for good.
      have stamped := follows.measured.fourteenDay
      rw [fourteenDay] at stamped
      obtain ⟨stamp, isStamp⟩ := Option.isSome_iff_exists.mp stamped.symm
      obtain ⟨time, isCursor, reached⟩ := reached14 stamp isStamp
      rw [strategyObservation_of_reached
          ((learningHorizon_of_fourteenDay fourteenDay).trans isStamp)
          isCursor reached,
        incrementalFansForLearning_of_fourteenDay fourteenDay,
        incrementalFansForLearning_of_fourteenDay (kept14 ▸ fourteenDay)]
      rfl
    | none =>
      exact reading_split_of_threeDay follows reaches fourteenDay (kept14 ▸ fourteenDay)
  · have stamped := follows.measured.fourteenDay
    rw [isLate] at stamped
    obtain ⟨fans, fourteenDay⟩ := Option.isSome_iff_exists.mp stamped
    have horizon := learningHorizon_of_fourteenDay fourteenDay
    rw [strategyObservation_of_past (horizon.trans isLate) past14,
      incrementalFansForLearning_of_threeDay old14,
      threeDay_unread_of_late follows reaches current isLate past14]
    rfl

theorem replayUpdate_split (current : row.reachesLearner = true → row.overtaken cursor = false) :
    (row.replayUpdate none).toList =
      (old.replayUpdate none).toList ++ (row.replayUpdate cursor).toList := by
  rw [replayUpdate_eq follows.measured, replayUpdate_eq follows.measured,
    replayUpdate_eq follows.seen, follows.reaches, follows.observes]
  cases reaches : row.reachesLearner with
  | false => rfl
  | true =>
    rw [if_pos rfl, if_pos rfl, if_pos rfl,
      strategyObservation_scratch, strategyObservation_scratch,
      Option.toList_map, Option.toList_map, Option.toList_map,
      ← List.map_append,
      reading_split follows reaches (current reaches)]

end

end Splitting

/-! ## Acquiring a reading -/

section Acquiring

variable {row : EvidenceRow} {reading : Reading} {now : OffsetDateTime}

/-- All that a reading can do to a row. -/
theorem acquire_cases (row : EvidenceRow) (reading : Reading) (now : OffsetDateTime) :
    row.acquire reading now = row ∨
      (∃ fans, row.replayed3dAt = none ∧
          row.acquire reading now =
            { row.acquireAt .replayed3dAt now with
              observedIncrementalFans3d := some fans }) ∨
      (∃ fans, row.replayed14dAt = none ∧
          row.acquire reading now =
            { row.acquireAt .replayed14dAt now with
              observedIncrementalFans := some fans }) ∨
      (∃ fans, row.acquire reading now =
          { row.acquireAt .replayed30dAt now with
            durableFans30d := some fans }) ∨
      row.acquire reading now = { row with resolvedAt := some now } := by
  cases reading with
  | threeDay fans =>
    by_cases acquired : row.replayed3dAt.isSome = true
    · exact Or.inl (if_pos acquired)
    · exact Or.inr
          (Or.inl ⟨fans, Option.not_isSome_iff_eq_none.mp acquired, if_neg acquired⟩)
  | fourteenDay fans =>
    by_cases acquired : row.replayed14dAt.isSome = true
    · exact Or.inl (if_pos acquired)
    · exact Or.inr
          (Or.inr (Or.inl ⟨fans, Option.not_isSome_iff_eq_none.mp acquired, if_neg acquired⟩))
  | thirtyDay fans =>
    by_cases acquired : row.replayed30dAt.isSome = true
    · exact Or.inl (if_pos acquired)
    · exact Or.inr (Or.inr (Or.inr (Or.inl ⟨fans, if_neg acquired⟩)))
  | resolution =>
    by_cases resolved : row.resolvedAt.isSome = true
    · exact Or.inl (if_pos resolved)
    · exact Or.inr (Or.inr (Or.inr (Or.inr (if_neg resolved))))

theorem acquire_observationOf : (row.acquire reading now).observationOf = row.observationOf := by
  obtain same | ⟨_, _, same⟩ | ⟨_, _, same⟩ | ⟨_, same⟩ | same := acquire_cases row reading now
  · rw [same]
  all_goals
    rw [same]
    rfl

theorem acquire_reachesLearner : (row.acquire reading now).reachesLearner = row.reachesLearner := by
  obtain same | ⟨_, _, same⟩ | ⟨_, _, same⟩ | ⟨_, same⟩ | same := acquire_cases row reading now
  · rw [same]
  all_goals
    rw [same]
    rfl

theorem acquire_threeDay :
    ((row.acquire reading now).replayed3dAt = row.replayed3dAt ∧
        (row.acquire reading now).observedIncrementalFans3d = row.observedIncrementalFans3d) ∨
      (row.replayed3dAt = none ∧
        (row.acquire reading now).replayed3dAt = some now ∧
        (row.acquire reading now).observedIncrementalFans3d.isSome = true) := by
  obtain same | ⟨_, unset, same⟩ | ⟨_, _, same⟩ | ⟨_, same⟩ | same := acquire_cases row reading now
  · rw [same]
    exact Or.inl ⟨rfl, rfl⟩
  · rw [same]
    exact Or.inr ⟨unset, rfl, rfl⟩
  · rw [same]
    exact Or.inl ⟨rfl, rfl⟩
  · rw [same]
    exact Or.inl ⟨rfl, rfl⟩
  · rw [same]
    exact Or.inl ⟨rfl, rfl⟩

theorem acquire_fourteenDay :
    ((row.acquire reading now).replayed14dAt = row.replayed14dAt ∧
        (row.acquire reading now).observedIncrementalFans = row.observedIncrementalFans) ∨
      (row.replayed14dAt = none ∧
        (row.acquire reading now).replayed14dAt = some now ∧
        (row.acquire reading now).observedIncrementalFans.isSome = true) := by
  obtain same | ⟨_, _, same⟩ | ⟨_, unset, same⟩ | ⟨_, same⟩ | same := acquire_cases row reading now
  · rw [same]
    exact Or.inl ⟨rfl, rfl⟩
  · rw [same]
    exact Or.inl ⟨rfl, rfl⟩
  · rw [same]
    exact Or.inr ⟨unset, rfl, rfl⟩
  · rw [same]
    exact Or.inl ⟨rfl, rfl⟩
  · rw [same]
    exact Or.inl ⟨rfl, rfl⟩

theorem mem_stamps_acquireAt {column : HorizonColumn}
    (isStamp : stamp ∈ (row.acquireAt column now).stamps) :
    stamp ∈ row.stamps ∨ stamp = now := by
  rw [mem_stamps_iff] at isStamp ⊢
  cases column <;>
    simp only [EvidenceRow.acquireAt, EvidenceRow.setStamp, Option.some.injEq] at isStamp <;>
    grind

theorem mem_stamps_acquire (isStamp : stamp ∈ (row.acquire reading now).stamps) :
    stamp ∈ row.stamps ∨ stamp = now := by
  obtain same | ⟨_, _, same⟩ | ⟨_, _, same⟩ | ⟨_, same⟩ | same := acquire_cases row reading now
  · rw [same] at isStamp
    exact Or.inl isStamp
  · rw [same] at isStamp
    exact mem_stamps_acquireAt isStamp
  · rw [same] at isStamp
    exact mem_stamps_acquireAt isStamp
  · rw [same] at isStamp
    exact mem_stamps_acquireAt isStamp
  · rw [same, mem_stamps_iff] at isStamp
    rw [mem_stamps_iff]
    rcases isStamp with resolved | other
    · exact Or.inr (Option.some.inj resolved).symm
    · exact Or.inl (Or.inr other)

theorem acquire_wakeable (wakeable : row.Wakeable) : (row.acquire reading now).Wakeable := by
  obtain same | ⟨_, _, same⟩ | ⟨_, _, same⟩ | ⟨_, same⟩ | same := acquire_cases row reading now
  · rw [same]
    exact wakeable
  · rw [same]
    exact fun _ => Or.inr (Nat.succ_pos _)
  · rw [same]
    exact fun _ => Or.inr (Nat.succ_pos _)
  · rw [same]
    exact fun _ => Or.inr (Nat.succ_pos _)
  · rw [same]
    exact fun _ => Or.inl rfl

end Acquiring

section Moving

variable {clock now : OffsetDateTime} {old row : EvidenceRow}

theorem EvidenceRow.Measured.later (measured : row.Measured clock) (passes : clock ≤ now) :
    row.Measured now where
  threeDay := measured.threeDay
  fourteenDay := measured.fourteenDay
  dated := fun stamp isStamp => (measured.dated stamp isStamp).trans passes
  wakeable := measured.wakeable

theorem EvidenceRow.Measured.acquire (measured : row.Measured clock)
    (passes : clock ≤ now) (reading : Reading) :
    (row.acquire reading now).Measured now where
  threeDay := by
    rcases acquire_threeDay with ⟨stamp, fans⟩ | ⟨_, stamp, fans⟩
    · rw [stamp, fans]
      exact measured.threeDay
    · rw [stamp, fans]
      rfl
  fourteenDay := by
    rcases acquire_fourteenDay with ⟨stamp, fans⟩ | ⟨_, stamp, fans⟩
    · rw [stamp, fans]
      exact measured.fourteenDay
    · rw [stamp, fans]
      rfl
  dated := by
    intro stamp isStamp
    rcases mem_stamps_acquire isStamp with isOld | isNow
    · exact (measured.dated stamp isOld).trans passes
    · exact isNow.le
  wakeable := acquire_wakeable measured.wakeable

theorem Acquired.later {stampBefore stampAfter stampLater : Option OffsetDateTime}
    {before after later : Option ℚ} (acquired : Acquired cursor stampBefore stampAfter before after)
    (paired : after.isSome = stampAfter.isSome) (past : ∀ time, cursor = some time → time < now)
    (moves :
      (stampLater = stampAfter ∧ later = after) ∨
        (stampAfter = none ∧ stampLater = some now ∧ later.isSome = true)) :
    Acquired cursor stampBefore stampLater before later := by
  rcases moves with ⟨rfl, rfl⟩ | ⟨unset, rfl, _⟩
  · exact acquired
  · rcases acquired with ⟨_, kept, _⟩ | ⟨_, stamp, isStamp, _⟩
    · refine Or.inr ⟨?_, now, rfl, past⟩
      rw [unset, Option.isSome_none] at paired
      rw [← kept]
      exact Option.not_isSome_iff_eq_none.mp (Bool.eq_false_iff.mp paired)
    · rw [unset] at isStamp
      cases isStamp

theorem Follows.later (follows : Follows cursor clock old row) (passes : clock ≤ now) :
    Follows cursor now old row where
  seen := follows.seen.later passes
  measured := follows.measured.later passes
  observes := follows.observes
  reaches := follows.reaches
  threeDay := follows.threeDay
  fourteenDay := follows.fourteenDay

theorem Follows.acquire (follows : Follows cursor clock old row)
    (behind : ∀ time, cursor = some time → time ≤ clock) (passes : clock < now)
    (reading : Reading) :
    Follows cursor now old (row.acquire reading now) := by
  have past : ∀ time, cursor = some time → time < now :=
    fun time isCursor => lt_of_le_of_lt (behind time isCursor) passes
  refine
    { seen := follows.seen.later passes.le
      measured := follows.measured.acquire passes.le reading
      observes := follows.observes.trans acquire_observationOf.symm
      reaches := follows.reaches.trans acquire_reachesLearner.symm
      threeDay := ?_
      fourteenDay := ?_ }
  · intro reaches
    rw [acquire_reachesLearner] at reaches
    exact (follows.threeDay reaches).later follows.measured.threeDay past acquire_threeDay
  · intro reaches
    rw [acquire_reachesLearner] at reaches
    exact (follows.fourteenDay reaches).later follows.measured.fourteenDay past acquire_fourteenDay

end Moving

end CrowdRelay
