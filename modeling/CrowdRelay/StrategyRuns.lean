import Mathlib.Data.List.Forall2
import CrowdRelay.LearnedOnce
import CrowdRelay.StrategyRows

namespace CrowdRelay

open MachineInt PrecisionWeighted

/-!
# One dispatch is one observation

As long as no replay reads a fourteen-day reading whose three-day reading an
earlier one has taken, what a learner has learned is what it would learn from
scratch.
-/

/-! ## One replay -/

section Replaying

variable {rows : List EvidenceRow} {saved : StrategyCheckpoint} {clock : OffsetDateTime}
  {cursor : Option OffsetDateTime} {row : EvidenceRow} {stamp : OffsetDateTime}

theorem filterMap_acceptedSince (rows : List EvidenceRow) (cursor : Option OffsetDateTime) :
    (((acceptedSince rows cursor).map EvidenceRow.toGrowthEvidence).filterMap fun ev =>
          ev.strategyUpdate cursor) =
      rows.filterMap fun row => row.replayUpdate cursor := by
  unfold acceptedSince rowsSince
  rw [List.filterMap_map, List.filterMap_filter, List.filterMap_filter]
  refine List.filterMap_congr fun row _ => ?_
  unfold EvidenceRow.replayUpdate
  cases row.readAfter cursor with
  | false => rfl
  | true =>
    cases row.acceptedAt cursor with
    | false => rfl
    | true => rfl

theorem refreshDelta_cases (rows : List EvidenceRow) (saved : StrategyCheckpoint) :
    (refreshDelta rows saved = saved ∧
        acceptedSince rows saved.cursor = [] ∧
        learnedThrough rows saved.cursor ≤ saved.cursor.getD 0) ∨
      (refreshDelta rows saved =
          { posterior :=
              applyEvidenceToStrategyPosterior saved.posterior
                ((acceptedSince rows saved.cursor).map EvidenceRow.toGrowthEvidence)
                saved.cursor
            cursor := some (learnedThrough rows saved.cursor) } ∧
        (acceptedSince rows saved.cursor = [] →
          saved.cursor.getD 0 < learnedThrough rows saved.cursor)) := by
  unfold refreshDelta
  dsimp only
  split
  · rename_i nothing
    obtain ⟨isEmpty, unmoved⟩ := Bool.and_eq_true_iff.mp nothing
    exact Or.inl ⟨rfl, List.isEmpty_iff.mp isEmpty, of_decide_eq_true unmoved⟩
  · rename_i something
    refine Or.inr ⟨rfl, fun isEmpty => lt_of_not_ge fun unmoved => ?_⟩
    exact something
        (Bool.and_eq_true_iff.mpr ⟨List.isEmpty_iff.mpr isEmpty, decide_eq_true unmoved⟩)

theorem belief_refreshDelta (rows : List EvidenceRow) (saved : StrategyCheckpoint)
    (cell : StrategyCell) :
    (refreshDelta rows saved).posterior.belief cell =
      (observationsIn cell (rows.filterMap fun row => row.replayUpdate saved.cursor)).foldl
        Estimate.observe (saved.posterior.belief cell) := by
  rw [← filterMap_acceptedSince]
  rcases refreshDelta_cases rows saved with
    ⟨same, isEmpty, _⟩ | ⟨moved, _⟩
  · rw [same, isEmpty]
    rfl
  · rw [moved]
    exact belief_applyEvidence _ cell

theorem belief_replayFromScratch (rows : List EvidenceRow) (cell : StrategyCell) :
    (replayFromScratch rows).belief cell =
      (observationsIn cell (rows.filterMap fun row => row.replayUpdate none)).foldl
        Estimate.observe strategyPrior := by
  rw [← filterMap_acceptedSince]
  exact belief_applyEvidence _ cell

theorem le_learnedThrough
    (read : stamp ∈ (readCursor (rowsSince rows cursor)).toList ++ cursor.toList) :
    stamp ≤ learnedThrough rows cursor := by
  obtain ⟨latest, isLatest⟩ := Option.isSome_iff_exists.mp (List.isSome_max?_of_mem read)
  unfold learnedThrough
  rw [isLatest]
  exact (List.max?_le_iff isLatest).mp (le_refl latest) stamp read

theorem cursor_le_learnedThrough (isCursor : cursor = some stamp) :
    stamp ≤ learnedThrough rows cursor := by
  refine le_learnedThrough (List.mem_append_right _ ?_)
  rw [isCursor]
  exact List.mem_cons_self

theorem stamp_le_learnedThrough (member : row ∈ rowsSince rows cursor)
    (isStamp : stamp ∈ row.stamps) :
    stamp ≤ learnedThrough rows cursor := by
  have read : stamp ∈ (rowsSince rows cursor).flatMap EvidenceRow.stamps :=
    List.mem_flatMap.mpr ⟨row, member, isStamp⟩
  obtain ⟨latest, isLatest⟩ := Option.isSome_iff_exists.mp (List.isSome_max?_of_mem read)
  have isRead : readCursor (rowsSince rows cursor) = some latest := isLatest
  have below := (List.max?_le_iff isLatest).mp (le_refl latest) stamp read
  refine below.trans (le_learnedThrough (List.mem_append_left _ ?_))
  rw [isRead]
  exact List.mem_cons_self

theorem reached_learnedThrough (measured : row.Measured clock)
    (reaches : row.reachesLearner = true) (member : row ∈ rows) (isStamp : stamp ∈ row.stamps) :
    stamp ≤ learnedThrough rows cursor := by
  cases read : row.readAfter cursor with
  | true =>
    exact stamp_le_learnedThrough (List.mem_filter.mpr ⟨member, read⟩) isStamp
  | false =>
    have behind : ∃ time, cursor = some time ∧ stamp ≤ time := by
      by_contra ahead
      have past : ∀ time, cursor = some time → time < stamp :=
        fun time isCursor =>
          lt_of_not_ge fun reached => ahead ⟨time, isCursor, reached⟩
      rw [readAfter_of_reading measured reaches isStamp past] at read
      cases read
    obtain ⟨time, isCursor, reached⟩ := behind
    exact reached.trans (cursor_le_learnedThrough isCursor)

/-- After a replay the cursor is past every reading there is. -/
theorem reached_refreshDelta (measured : row.Measured clock)
    (reaches : row.reachesLearner = true) (member : row ∈ rows) (isStamp : stamp ∈ row.stamps)
    (isReading : row.incrementalFansForLearning.isSome = true) :
    ∃ time, (refreshDelta rows saved).cursor = some time ∧ stamp ≤ time := by
  have reached := @reached_learnedThrough rows clock saved.cursor row stamp measured reaches
      member isStamp
  rcases refreshDelta_cases rows saved with
    ⟨same, isEmpty, unmoved⟩ | ⟨moved, _⟩
  · rw [same]
    cases isCursor : saved.cursor with
    | some time =>
      rw [isCursor] at unmoved reached
      exact ⟨time, rfl, reached.trans unmoved⟩
    | none =>
      -- Without a cursor the row itself would have been accepted.
      obtain ⟨learned, isLearned⟩ := Option.isSome_iff_exists.mp isReading
      have update : row.replayUpdate none = some (row.observationOf learned) := by
        rw [replayUpdate_eq measured, reaches, if_pos rfl, strategyObservation_scratch, isLearned]
        rfl
      have updates := filterMap_acceptedSince rows saved.cursor
      rw [isEmpty, isCursor] at updates
      have isUpdate : row.observationOf learned ∈ rows.filterMap fun row => row.replayUpdate none :=
        List.mem_filterMap.mpr ⟨row, member, update⟩
      rw [← updates] at isUpdate
      cases isUpdate
  · rw [moved]
    exact ⟨_, rfl, reached⟩

/-- The cursor never runs ahead of the clock. -/
theorem refreshDelta_behind (measured : ∀ row ∈ rows, row.Measured clock)
    (behind : ∀ time, saved.cursor = some time → time ≤ clock) (time : OffsetDateTime)
    (isCursor : (refreshDelta rows saved).cursor = some time) :
    time ≤ clock := by
  rcases refreshDelta_cases rows saved with ⟨same, _⟩ | ⟨moved, advances⟩
  · rw [same] at isCursor
    exact behind time isCursor
  · rw [moved] at isCursor
    rw [← Option.some.inj isCursor]
    unfold learnedThrough at advances ⊢
    cases isLatest :
        ((readCursor (rowsSince rows saved.cursor)).toList ++ saved.cursor.toList).max? with
    | some latest =>
      rcases List.mem_append.mp (List.max?_mem isLatest) with read | old
      · have isRead := List.max?_mem (Option.mem_toList.mp read)
        obtain ⟨row, isRow, isStamp⟩ := List.mem_flatMap.mp isRead
        exact (measured row (List.mem_filter.mp isRow).1).dated latest isStamp
      · exact behind latest (Option.mem_toList.mp old)
    | none =>
      -- Nothing has a stamp, so that nothing was accepted.
      have nothing := List.max?_eq_none_iff.mp isLatest
      obtain ⟨unread, unsaved⟩ := List.append_eq_nil_iff.mp nothing
      have isEmpty : acceptedSince rows saved.cursor = [] := by
        refine List.eq_nil_iff_forall_not_mem.mpr fun row accepted => ?_
        obtain ⟨isRow, taken⟩ := List.mem_filter.mp accepted
        have timed := (Bool.and_eq_true_iff.mp (Bool.and_eq_true_iff.mp taken).1).2
        obtain ⟨stamp, isStamp⟩ := exists_stamp_of_observationTime timed
        have read : stamp ∈ (rowsSince rows saved.cursor).flatMap EvidenceRow.stamps :=
          List.mem_flatMap.mpr ⟨row, isRow, isStamp⟩
        have found := List.isSome_max?_of_mem read
        rw [Option.toList_eq_nil_iff] at unread
        unfold readCursor at unread
        rw [unread] at found
        cases found
      have unmoved := advances isEmpty
      rw [isLatest, Option.toList_eq_nil_iff.mp unsaved] at unmoved
      exact absurd unmoved (lt_irrefl _)

end Replaying

/-! ## Runs -/

abbrev RowsFollow
    (cursor : Option OffsetDateTime)
    (clock : OffsetDateTime)
    (seen rows : List EvidenceRow) : Prop :=
  List.Forall₂ (Follows cursor clock) seen rows

section Rows

variable {cursor : Option OffsetDateTime} {clock now : OffsetDateTime}
  {seen rows : List EvidenceRow}

section

variable (follow : RowsFollow cursor clock seen rows)
include follow

theorem RowsFollow.measured : ∀ row ∈ rows, row.Measured clock := by
  induction follow with
  | nil => exact fun _ absent => absurd absent List.not_mem_nil
  | cons first _ inductionHypothesis =>
    intro row member
    rcases List.mem_cons.mp member with rfl | inRest
    · exact first.measured
    · exact inductionHypothesis row inRest

theorem RowsFollow.acquire (behind : ∀ time, cursor = some time → time ≤ clock)
    (passes : clock < now) (index : Nat) (reading : Reading) :
    RowsFollow cursor now seen (rows.modify index fun row => row.acquire reading now) := by
  induction follow generalizing index with
  | nil =>
    rw [List.modify_nil]
    exact List.Forall₂.nil
  | cons first rest inductionHypothesis =>
    cases index with
    | zero =>
      rw [List.modify_zero_cons]
      exact List.Forall₂.cons (first.acquire behind passes reading)
          (rest.imp fun _ _ follows => follows.later passes.le)
    | succ index =>
      rw [List.modify_succ_cons]
      exact List.Forall₂.cons (first.later passes.le) (inductionHypothesis index)

theorem RowsFollow.updates_perm
    (current : ∀ row ∈ rows, row.reachesLearner = true → row.overtaken cursor = false) :
    (rows.filterMap fun row => row.replayUpdate none).Perm
      ((seen.filterMap fun row => row.replayUpdate none) ++
        rows.filterMap fun row => row.replayUpdate cursor) := by
  rw [List.filterMap_eq_flatMap_toList, List.filterMap_eq_flatMap_toList,
    List.filterMap_eq_flatMap_toList]
  induction follow with
  | nil => exact List.Perm.refl _
  | @cons old row _ _ first _ inductionHypothesis =>
    have rest := inductionHypothesis fun later inRest =>
        current later (List.mem_cons_of_mem _ inRest)
    rw [List.flatMap_cons, List.flatMap_cons, List.flatMap_cons,
      replayUpdate_split first (current row List.mem_cons_self),
      List.append_assoc, List.append_assoc]
    refine List.Perm.append_left _ ?_
    exact (List.Perm.append_left _ rest).trans (List.perm_append_comm_assoc _ _ _)

theorem RowsFollow.length_observationsIn_le (cell : StrategyCell) :
    (observationsIn cell (seen.filterMap fun row => row.replayUpdate none)).length ≤
      rows.countP fun row => row.strategyCell = cell := by
  induction follow with
  | nil => exact le_refl 0
  | @cons old row _ _ first _ inductionHypothesis =>
    have sameCell : old.strategyCell = row.strategyCell :=
      congrArg Prod.fst (congrFun first.observes (0, 0))
    rw [List.filterMap_eq_flatMap_toList, List.flatMap_cons,
      observationsIn_append, List.length_append,
      ← List.filterMap_eq_flatMap_toList, List.countP_cons, Nat.add_comm]
    refine Nat.add_le_add inductionHypothesis ?_
    cases updates : old.replayUpdate none with
    | none => exact Nat.zero_le _
    | some update =>
      rw [Option.toList_some, observationsIn_cons]
      have isCell := (replayUpdate_noisy updates).1
      rw [isCell, sameCell]
      simp only [decide_eq_true_eq]
      split
      · exact le_refl 1
      · exact le_refl 0

end

end Rows

structure StrategyKept (state : StrategyState) : Prop where
  behind :
    ∀ time, state.saved.cursor = some time → time ≤ state.clock
  follow :
    RowsFollow state.saved.cursor state.clock state.seen state.rows
  learned :
    ∀ cell,
      state.saved.posterior.belief cell =
        (replayFromScratch state.seen).belief cell

/-- At a replay no row has a reading that overtakes one already read. -/
def NothingOvertaken (state : StrategyState)
    (event : StrategyEvent) : Prop :=
  match event.act with
  | .acquire _ _ => True
  | .replay =>
    ∀ row ∈ state.rows,
      row.reachesLearner = true →
      row.overtaken state.saved.cursor = false

theorem strategyKept_unlearned (dispatches : Dispatches) (clock : OffsetDateTime) :
    StrategyKept (dispatches.unlearned clock) := by
  have blank : ∀ row ∈ dispatches.rows, Follows none clock row row := by
    intro row member
    have unmeasured := dispatches.unmeasured row member
    have unstamped : ∀ stamp, stamp ∉ row.stamps := by
      intro stamp isStamp
      rw [unmeasured.unstamped] at isStamp
      cases isStamp
    have no3 : row.replayed3dAt = none := Option.eq_none_iff_forall_ne_some.mpr fun stamp isStamp =>
        unstamped stamp (replayed3dAt_mem_stamps isStamp)
    have no14 : row.replayed14dAt = none :=
      Option.eq_none_iff_forall_ne_some.mpr fun stamp isStamp =>
        unstamped stamp (replayed14dAt_mem_stamps isStamp)
    have measured : row.Measured clock :=
      { threeDay := by
          rw [unmeasured.threeDay, no3]
          rfl
        fourteenDay := by
          rw [unmeasured.fourteenDay, no14]
          rfl
        dated := fun stamp isStamp => absurd isStamp (unstamped stamp)
        wakeable := fun stamped => absurd unmeasured.unstamped stamped }
    refine
      { seen := measured
        measured := measured
        observes := rfl
        reaches := rfl
        threeDay := fun _ => Or.inl ⟨rfl, rfl, ?_⟩
        fourteenDay := fun _ => Or.inl ⟨rfl, rfl, ?_⟩ }
    · intro stamp isStamp
      rw [no3] at isStamp
      cases isStamp
    · intro stamp isStamp
      rw [no14] at isStamp
      cases isStamp
  refine
    { behind := nofun
      follow := List.forall₂_same.mpr blank
      learned := fun cell => ?_ }
  rw [belief_replayFromScratch]
  have nothing :
      ((dispatches.unlearned clock).seen.filterMap fun row =>
        row.replayUpdate none) = [] := by
    refine List.filterMap_eq_nil_iff.mpr fun row member => ?_
    have unmeasured := dispatches.unmeasured row member
    rw [replayUpdate_eq (blank row member).measured, strategyObservation_scratch,
      incrementalFansForLearning_of_threeDay unmeasured.fourteenDay,
      unmeasured.threeDay]
    split
    · rfl
    · rfl
  rw [nothing]
  rfl

variable {state : StrategyState}

/-- One step keeps what a replay from scratch would say. -/
theorem StrategyKept.step {event : StrategyEvent} (current : NothingOvertaken state event)
    (kept : StrategyKept state) :
    StrategyKept (strategyStep state event) := by
  have passes : state.clock < state.clock + (event.elapsed + 1) :=
    Int.lt_add_of_pos_right _ (Int.natCast_succ_pos event.elapsed)
  obtain ⟨elapsed, act⟩ := event
  cases act with
  | acquire index reading =>
    exact
      { behind := fun time isCursor =>
          (kept.behind time isCursor).trans passes.le
        follow := kept.follow.acquire kept.behind passes index reading
        learned := kept.learned }
  | replay =>
    have measured := kept.follow.measured
    refine
      { behind := fun time isCursor =>
          (refreshDelta_behind measured kept.behind time isCursor).trans passes.le
        follow := List.forall₂_same.mpr fun row member => ?_
        learned := fun cell => ?_ }
    · have here := measured row member
      refine
        { seen := here.later passes.le
          measured := here.later passes.le
          observes := rfl
          reaches := rfl
          threeDay := fun reaches => Or.inl ⟨rfl, rfl, ?_⟩
          fourteenDay := fun reaches => Or.inl ⟨rfl, rfl, ?_⟩ }
      · intro stamp isStamp
        exact reached_refreshDelta here reaches member (replayed3dAt_mem_stamps isStamp)
            (reading_of_threeDay here isStamp)
      · intro stamp isStamp
        exact reached_refreshDelta here reaches member (replayed14dAt_mem_stamps isStamp)
            (reading_of_fourteenDay here isStamp)
    · have permuted := observationsIn_perm cell (kept.follow.updates_perm current)
      rw [observationsIn_append] at permuted
      have scratch := belief_replayFromScratch state.rows cell
      rw [foldl_observe_perm permuted strategyPrior_spread
        (observationsIn_noisy cell state.rows none)] at scratch
      rw [List.foldl_append, ← belief_replayFromScratch, ← kept.learned] at scratch
      exact (belief_refreshDelta state.rows state.saved cell).trans scratch.symm

/-- The fourteen-day reading of the row has been replayed. -/
def EvidenceRow.settledAt (row : EvidenceRow)
    (cursor : Option OffsetDateTime) : Prop :=
  ∃ time stamp, cursor = some time ∧ row.replayed14dAt = some stamp ∧ stamp ≤ time

/-- What is promised of a learner. -/
structure OneObservation (state : StrategyState) : Prop where
  counted :
    ∀ cell,
      state.saved.posterior.confidence cell ≤
        state.rows.countP fun row => row.strategyCell = cell
  settled :
    ∀ row ∈ state.rows,
      row.settledAt state.saved.cursor →
      state.saved.posterior.predict row.strategyCell =
        (replayFromScratch state.seen).predict row.strategyCell

theorem StrategyKept.oneObservation (kept : StrategyKept state) :
    OneObservation state where
  counted := by
    intro cell
    obtain ⟨_, _, _, counts⟩ := foldl_observe strategyPrior_spread
        (observationsIn_noisy cell state.seen none)
    rw [← belief_replayFromScratch, ← kept.learned] at counts
    rw [StateConditionedStrategyPosterior.confidence_eq, counts]
    refine le_of_eq_of_le (Nat.zero_add _) ?_
    exact kept.follow.length_observationsIn_le cell
  settled := by
    intro row _ _
    rw [StateConditionedStrategyPosterior.predict_eq,
      StateConditionedStrategyPosterior.predict_eq, kept.learned]

instance (state : StrategyState) (event : StrategyEvent) :
    Decidable (NothingOvertaken state event) := by
  unfold NothingOvertaken
  split <;> infer_instance

/-- One dispatch, before anything is known of it. -/
def oneDispatch : Dispatches where
  rows := [dispatchedRow 1]
  unmeasured := by
    intro row member
    rw [List.mem_singleton.mp member]
    exact
      { threeDay := rfl
        fourteenDay := rfl
        unstamped := rfl }

end CrowdRelay
