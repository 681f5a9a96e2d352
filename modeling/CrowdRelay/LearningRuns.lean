import CrowdRelay.Learning
import CrowdRelay.Machine
import CrowdRelay.Streak

namespace CrowdRelay

open MachineInt

/-!
# Retirement over whole histories of evidence

The record keeps one saturating counter of failures in a row.  Over every
history of outcomes and operator verdicts that counter is the length of the
run of failures the measured history ends in, cut off at the largest count.
-/

/-- What can happen to a record. -/
inductive LearningEvent where
  | outcome (assessment : Option EffectAssessment)
  | feedback (approved fast : Bool)
  deriving Repr, DecidableEq

def LearningEvent.measuredOutcome? :
    LearningEvent → Option EffectAssessment
  | .outcome assessment => assessment
  | .feedback .. => none

variable (events : List LearningEvent)

/-- The outcomes of a history that said something, in order. -/
def measuredOutcomes : List EffectAssessment := events.filterMap LearningEvent.measuredOutcome?

def OutcomeRecord.apply
    (record : OutcomeRecord) : LearningEvent → OutcomeRecord
  | .outcome assessment => record.observe assessment
  | .feedback approved fast => record.observeOperator approved fast

variable (policy : StandingPolicy)

/-- A record that is assessed after every event it takes in. -/
def learning :
    Machine.Transducer OutcomeRecord LearningEvent Standing where
  step record event := (record.apply event, assessStanding (record.apply event) policy)

section Steps

variable (record : OutcomeRecord)

@[simp] theorem observeOperator_operatorRetired (approved fast : Bool) :
    (record.observeOperator approved fast).operatorRetired =
      record.operatorRetired := by
  cases approved <;> cases fast <;> rfl

@[simp] theorem observeOperator_consecutiveWorsened (approved fast : Bool) :
    (record.observeOperator approved fast).consecutiveWorsened =
      record.consecutiveWorsened := by
  cases approved <;> cases fast <;> rfl

@[simp] theorem apply_operatorRetired (event : LearningEvent) :
    (record.apply event).operatorRetired = record.operatorRetired := by
  cases event with
  | outcome assessment => rcases assessment with _ | _ | _ | _ <;> rfl
  | feedback approved fast =>
    exact observeOperator_operatorRetired record approved fast

theorem apply_consecutiveWorsened (event : LearningEvent) :
    (record.apply event).consecutiveWorsened =
      match event.measuredOutcome? with
      | some .worsened => record.consecutiveWorsened.saturatingAdd 1
      | some _ => 0
      | none => record.consecutiveWorsened := by
  cases event with
  | outcome assessment => rcases assessment with _ | _ | _ | _ <;> rfl
  | feedback approved fast =>
    exact observeOperator_consecutiveWorsened record approved fast

theorem assessStanding_observe_none (policy : StandingPolicy) :
    assessStanding (record.observe none) policy = assessStanding record policy :=
  rfl

theorem isRetired_observeOperator (policy : StandingPolicy) (approved fast : Bool) :
    (assessStanding (record.observeOperator approved fast) policy).isRetired =
      (assessStanding record policy).isRetired := by
  rw [Bool.eq_iff_iff, assessStanding_isRetired_iff,
    assessStanding_isRetired_iff, observeOperator_operatorRetired,
    observeOperator_consecutiveWorsened]

end Steps

section Reach

variable (ceiling : U32) {standing : Standing}

theorem scaled_le_ceiling (bounded : standing.weightBasisPoints.val ≤ 10000) :
    (((widen ceiling).saturatingMul
        (effectiveRecipientCeiling.widenWeight standing.weightBasisPoints)).quotient 10000).val ≤
      ceiling.val := by
  have lower := ceiling.lower
  have upper := ceiling.upper
  have weightLower := standing.weightBasisPoints.lower
  have product : ceiling.val * standing.weightBasisPoints.val ≤ ceiling.val * 10000 :=
    Int.mul_le_mul_of_nonneg_left bounded lower
  have productLower : 0 ≤ ceiling.val * standing.weightBasisPoints.val :=
    Int.mul_nonneg lower weightLower
  have divisor : (10000 : U64).val = 10000 := rfl
  simp only [Ranged.quotient, Ranged.saturatingMul, Ranged.val_saturate,
    widen, effectiveRecipientCeiling.widenWeight, divisor]
  omega

theorem effectiveRecipientCeiling_le (bounded : standing.weightBasisPoints.val ≤ 10000) :
    effectiveRecipientCeiling ceiling standing ≤ ceiling := by
  have lower := ceiling.lower
  unfold effectiveRecipientCeiling
  split
  · exact Ranged.le_iff_val.mpr lower
  · split
    · exact Ranged.le_iff_val.mpr lower
    · rename_i configured
      have scaled := scaled_le_ceiling ceiling bounded
      have positive : 1 ≤ ceiling := by
        rw [Ranged.le_iff_val]
        have nonzero : ceiling.val ≠ 0 := by
          intro isZero
          exact configured (Ranged.val_injective isZero)
        have one : (1 : U32).val = 1 := rfl
        omega
      refine max_le ?_ positive
      simp only [Ranged.tryFrom]
      split
      · exact Ranged.le_iff_val.mpr scaled
      · exact le_refl _

theorem effectiveRecipientCeiling_eq_zero_iff :
    effectiveRecipientCeiling ceiling standing = 0 ↔ standing.isRetired = true ∨ ceiling = 0 := by
  unfold effectiveRecipientCeiling
  split
  · simp_all
  · split
    · simp_all
    · rename_i running configured
      constructor
      · intro isZero
        have atLeastOne := le_of_eq isZero
        rw [max_le_iff] at atLeastOne
        exact absurd atLeastOne.2 (by decide)
      · rintro (retired | isZero)
        · exact absurd retired running
        · exact absurd isZero configured

end Reach

variable {record : OutcomeRecord}

/--
What a history of events leaves in a record: the counter of failures in a row
is the run the measured history ends in, cut off at the largest count, and
nobody but an operator has retired it.
-/
structure RecordsHistory
    (events : List LearningEvent)
    (record : OutcomeRecord) : Prop where
  run :
    record.consecutiveWorsened.val =
      min
        (Streak.trailing .worsened (measuredOutcomes events) : Int)
        4294967295
  notByOperator : record.operatorRetired = false

theorem recordsHistory_nil : RecordsHistory [] .default := ⟨rfl, rfl⟩

theorem measuredOutcomes_concat (event : LearningEvent) :
    measuredOutcomes (events ++ [event]) =
      measuredOutcomes events ++ event.measuredOutcome?.toList := by
  unfold measuredOutcomes
  rw [List.filterMap_append]
  cases shape : event.measuredOutcome? <;> simp [shape]

theorem recordsHistory_apply {events : List LearningEvent}
    (recorded : RecordsHistory events record) (event : LearningEvent) :
    RecordsHistory (events ++ [event]) (record.apply event) := by
  have run := recorded.run
  refine ⟨?_, ?_⟩
  · rw [apply_consecutiveWorsened, measuredOutcomes_concat]
    cases event.measuredOutcome? with
    | none => simpa using run
    | some assessment =>
      rw [Option.toList_some, Streak.trailing_concat]
      cases assessment with
      | worsened =>
        have one : (1 : U32).val = 1 := rfl
        rw [if_pos rfl, Ranged.val_saturatingAdd, one, run]
        push_cast
        omega
      | improved => rfl
      | neutral => rfl
  · rw [apply_operatorRetired]
    exact recorded.notByOperator

theorem recordsHistory_final (events : List LearningEvent) :
    RecordsHistory events ((learning policy).final .default events) := by
  have recorded := (learning policy).final_history RecordsHistory (fun _ => rfl)
      (fun past record event holds => recordsHistory_apply holds event)
      recordsHistory_nil events
  simpa using recorded

theorem threshold_le_consecutiveWorsened_iff {events : List LearningEvent}
    (recorded : RecordsHistory events record) (threshold : U32) :
    threshold ≤ record.consecutiveWorsened ↔
      List.replicate threshold.val.toNat .worsened <:+ measuredOutcomes events := by
  have run := recorded.run
  have upper := threshold.upper
  have lower := threshold.lower
  rw [Streak.replicate_suffix_iff, Ranged.le_iff_val, run]
  omega

/--
Over every history: a record reads as repeatedly worsened exactly when the
last so many measured outcomes all were failures; what could not be measured
changes no standing, an operator verdict retires nobody, and the reach a
record grants stays within the ceiling and is zero only by retirement or by a
ceiling of zero.
-/
theorem retirement_from_evidence
    (policy : StandingPolicy)
    (events : List LearningEvent)
    (ceiling : U32) :
    let record := (learning policy).final .default events
    (assessStanding record policy = .retired .repeatedlyWorsened ↔
      List.replicate policy.retirementThreshold.val.toNat .worsened <:+
        measuredOutcomes events) ∧
    assessStanding (record.observe none) policy = assessStanding record policy ∧
    (∀ approved fast,
      (assessStanding (record.observeOperator approved fast)
          policy).isRetired =
        (assessStanding record policy).isRetired) ∧
    effectiveRecipientCeiling ceiling (assessStanding record policy) ≤ ceiling ∧
    (effectiveRecipientCeiling ceiling (assessStanding record policy) = 0 ↔
      (assessStanding record policy).isRetired = true ∨ ceiling = 0) := by
  intro record
  have recorded : RecordsHistory events record := recordsHistory_final policy events
  refine ⟨?_, ?_, ?_, ?_, ?_⟩
  · rw [assessStanding_eq_repeatedlyWorsened_iff,
      threshold_le_consecutiveWorsened_iff recorded]
    exact and_iff_right recorded.notByOperator
  · exact assessStanding_observe_none record policy
  · exact isRetired_observeOperator record policy
  · exact effectiveRecipientCeiling_le ceiling
        (weightBasisPoints_assessStanding_le record policy)
  · exact effectiveRecipientCeiling_eq_zero_iff ceiling

section AfterRetirement

variable {policy : StandingPolicy}

theorem retired_apply_iff (retired : assessStanding record policy = .retired .repeatedlyWorsened)
    (event : LearningEvent) :
    (assessStanding (record.apply event) policy).isRetired = true ↔
      ∀ outcome ∈ event.measuredOutcome?, outcome = .worsened := by
  obtain ⟨notByOperator, reached⟩ := assessStanding_eq_repeatedlyWorsened_iff.mp retired
  rw [assessStanding_isRetired_iff, apply_operatorRetired, notByOperator, apply_consecutiveWorsened]
  have atLeastOne : (1 : U32) ≤ policy.retirementThreshold := le_max_right _ _
  have notZero : ¬ policy.retirementThreshold ≤ 0 := by
    intro isZero
    exact absurd (atLeastOne.trans isZero) (by decide)
  have oneMore : policy.retirementThreshold ≤ record.consecutiveWorsened.saturatingAdd 1 :=
    reached.trans (Ranged.le_saturatingAdd _ (by decide))
  rcases event.measuredOutcome? with _ | _ | _ | _
  · simp [reached]
  · simp [notZero]
  · simp [notZero]
  · simp [oneMore]

theorem retired_of_isRetired (retired : assessStanding record policy = .retired .repeatedlyWorsened)
    {event : LearningEvent}
    (stillRetired : (assessStanding (record.apply event) policy).isRetired = true) :
    assessStanding (record.apply event) policy = .retired .repeatedlyWorsened := by
  obtain ⟨notByOperator, -⟩ := assessStanding_eq_repeatedlyWorsened_iff.mp retired
  rw [assessStanding_isRetired_iff, apply_operatorRetired, notByOperator] at stillRetired
  rw [assessStanding_eq_repeatedlyWorsened_iff, apply_operatorRetired]
  exact ⟨notByOperator, stillRetired.resolve_left Bool.false_ne_true⟩

/--
A play that retired itself stays retired through a whole history of further
events exactly when none of them is a measured outcome other than a failure.
-/
theorem retirement_absorbing_iff
    (retired :
      assessStanding record policy = .retired .repeatedlyWorsened)
    (events : List LearningEvent) :
    (∀ standing ∈ (learning policy).log record events,
      standing.isRetired = true) ↔
      ∀ outcome ∈ measuredOutcomes events, outcome = .worsened := by
  induction events generalizing record with
  | nil =>
    simp [measuredOutcomes]
  | cons event later inductionHypothesis =>
    have first := retired_apply_iff retired event
    rw [Machine.Transducer.log_cons]
    constructor
    · intro allRetired outcome member
      have stillRetired := allRetired _ List.mem_cons_self
      have rest := (inductionHypothesis
          (retired_of_isRetired retired stillRetired)).mp
          (fun standing inRest =>
            allRetired standing (List.mem_cons_of_mem _ inRest))
      rcases List.mem_filterMap.mp member with
        ⟨origin, originMember, brings⟩
      rcases List.mem_cons.mp originMember with isFirst | inLater
      · subst isFirst
        exact first.mp stillRetired outcome brings
      · exact rest outcome
          (List.mem_filterMap.mpr ⟨origin, inLater, brings⟩)
    · intro allWorsened standing member
      have stillRetired :=
        first.mpr fun outcome brings =>
          allWorsened outcome
            (List.mem_filterMap.mpr
              ⟨event, List.mem_cons_self, brings⟩)
      rcases List.mem_cons.mp member with isFirst | inRest
      · subst isFirst
        exact stillRetired
      · refine (inductionHypothesis
            (retired_of_isRetired retired stillRetired)).mpr
            ?_ standing inRest
        intro outcome inLater
        rcases List.mem_filterMap.mp inLater with
          ⟨origin, originMember, brings⟩
        exact allWorsened outcome
          (List.mem_filterMap.mpr
            ⟨origin, List.mem_cons_of_mem _ originMember, brings⟩)

/-- Three failures in a row, as the default policy retires on. -/
def thriceWorsened : OutcomeRecord :=
  (learning .default).final .default (List.replicate 3 (.outcome (some .worsened)))

/-- One late failure keeps the default policy's retirement. -/
theorem thriceWorsened_stays_retired :
    assessStanding thriceWorsened .default =
        .retired .repeatedlyWorsened ∧
      ((∀ standing ∈
          (learning .default).log thriceWorsened
            [.outcome (some .worsened)],
        standing.isRetired = true) ↔
        ∀ outcome ∈
          measuredOutcomes [.outcome (some .worsened)],
          outcome = .worsened) :=
  ⟨by decide, retirement_absorbing_iff (by decide) _⟩

/-- One late improvement brings a retired play back without an operator. -/
theorem thriceWorsened_comes_back :
    assessStanding thriceWorsened .default =
        .retired .repeatedlyWorsened ∧
      ¬ (assessStanding
          ((learning .default).final thriceWorsened
            [.outcome (some .improved)])
          .default).isRetired = true := by
  decide

end AfterRetirement

end CrowdRelay
