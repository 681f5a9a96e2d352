import CrowdRelay.LearningFeedback

namespace CrowdRelay

open MachineInt

/-!
# A better outcome in the same history

Two histories that differ in one measured outcome leave records that agree in
everything but the counts of those two outcomes and the run of failures.  The
better history weighs less in one case only: where the improvements are past
the largest count, an improvement in the place of a neutral outcome is not
counted while the neutral one is missed.
-/

/-- Outcomes from the worst to the best. -/
def EffectAssessment.rank : EffectAssessment → Nat
  | .worsened => 0
  | .neutral => 1
  | .improved => 2

namespace OutcomeRecord

def outcomeCount (record : OutcomeRecord) : EffectAssessment → U32
  | .improved => record.improved
  | .neutral => record.neutral
  | .worsened => record.worsened

/-- The record a history of events leaves. -/
def learn (record : OutcomeRecord)
    (events : List LearningEvent) : OutcomeRecord :=
  events.foldl OutcomeRecord.apply record

end OutcomeRecord

section Counting

variable (kind : EffectAssessment) (record : OutcomeRecord)

theorem outcomeCount_apply (event : LearningEvent) :
    ((record.apply event).outcomeCount kind).val = min largestCount
        ((record.outcomeCount kind).val + if event.measuredOutcome? = some kind then 1 else 0) := by
  have counted := Ranged.val_saturatingAdd (record.outcomeCount kind) 1
  have lower := (record.outcomeCount kind).lower
  have upper := (record.outcomeCount kind).upper
  have one : (1 : U32).val = 1 := rfl
  rw [one] at counted
  unfold largestCount
  cases event with
  | outcome assessment =>
    rcases assessment with _ | _ | _ | _ <;> cases kind <;>
      simp only [OutcomeRecord.apply, OutcomeRecord.observe,
        OutcomeRecord.outcomeCount, LearningEvent.measuredOutcome?,
        Option.some.injEq, reduceCtorEq, if_true, if_false] at * <;>
      omega
  | feedback approved fast =>
    cases approved <;> cases fast <;> cases kind <;>
      simp only [OutcomeRecord.apply, OutcomeRecord.observeOperator,
        OutcomeRecord.outcomeCount, LearningEvent.measuredOutcome?,
        reduceCtorEq, if_false] at * <;>
      omega

theorem outcomeCount_learn (events : List LearningEvent) :
    ((record.learn events).outcomeCount kind).val =
      min largestCount ((record.outcomeCount kind).val + (measuredOutcomes events).count kind) := by
  induction events generalizing record with
  | nil =>
    have upper := (record.outcomeCount kind).upper
    simp only [OutcomeRecord.learn, List.foldl_nil, measuredOutcomes,
      List.filterMap_nil, List.count_nil]
    unfold largestCount
    omega
  | cons event later inductionHypothesis =>
    have rest := inductionHypothesis (record.apply event)
    have step := outcomeCount_apply kind record event
    have tally :
        (measuredOutcomes (event :: later)).count kind =
          (if event.measuredOutcome? = some kind then 1 else 0) +
            (measuredOutcomes later).count kind := by
      unfold measuredOutcomes
      cases brought : event.measuredOutcome? with
      | none =>
        rw [List.filterMap_cons_none brought]
        simp
      | some assessment =>
        rw [List.filterMap_cons_some brought, List.count_cons]
        simp only [Option.some.injEq, beq_iff_eq]
        omega
    rw [tally]
    change ((OutcomeRecord.learn (record.apply event) later).outcomeCount kind).val = _
    rw [rest, step]
    unfold largestCount
    split <;> omega

/-- What one counter would hold of everything but the replaced outcome. -/
def countElsewhere (record : OutcomeRecord)
    (front back : List LearningEvent) : Int :=
  (record.outcomeCount kind).val + (measuredOutcomes (front ++ back)).count kind

theorem outcomeCount_learn_around (front back : List LearningEvent) (outcome : EffectAssessment) :
    ((record.learn (front ++ .outcome (some outcome) :: back)).outcomeCount kind).val =
      min largestCount
        (countElsewhere kind record front back + if outcome = kind then 1 else 0) := by
  rw [outcomeCount_learn]
  have tally :
      (measuredOutcomes (front ++ .outcome (some outcome) :: back)).count kind =
        (measuredOutcomes (front ++ back)).count kind + if outcome = kind then 1 else 0 := by
    simp only [measuredOutcomes, List.filterMap_append,
      List.filterMap_cons, LearningEvent.measuredOutcome?,
      List.count_append, List.count_cons, beq_iff_eq]
    omega
  rw [tally, countElsewhere]
  congr 1
  split <;> omega

end Counting

/-- Two records that differ in their measured outcomes only. -/
structure SameFeedback (first second : OutcomeRecord) : Prop where
  fastApprovals :
    first.operatorFastApprovals = second.operatorFastApprovals
  slowApprovals :
    first.operatorSlowApprovals = second.operatorSlowApprovals
  fastCancellations :
    first.operatorFastCancellations = second.operatorFastCancellations
  slowCancellations :
    first.operatorSlowCancellations = second.operatorSlowCancellations
  retired : first.operatorRetired = second.operatorRetired

namespace SameFeedback

variable {first second : OutcomeRecord}

theorem apply (same : SameFeedback first second) (event : LearningEvent) :
    SameFeedback (first.apply event) (second.apply event) := by
  obtain ⟨fastApprovals, slowApprovals, fastCancellations, slowCancellations, retired⟩ := same
  cases event with
  | outcome assessment =>
    rcases assessment with _ | _ | _ | _ <;>
      exact ⟨fastApprovals, slowApprovals, fastCancellations, slowCancellations, retired⟩
  | feedback approved fast =>
    cases approved <;> cases fast <;>
      constructor <;>
      simp only [OutcomeRecord.apply, OutcomeRecord.observeOperator, *]

theorem learn (same : SameFeedback first second) (events : List LearningEvent) :
    SameFeedback (first.learn events) (second.learn events) := by
  induction events generalizing first second with
  | nil => exact same
  | cons event later inductionHypothesis =>
    exact inductionHypothesis (same.apply event)

theorem outcomes (record : OutcomeRecord) (one other : EffectAssessment) :
    SameFeedback (record.apply (.outcome (some one))) (record.apply (.outcome (some other))) := by
  cases one <;> cases other <;> exact ⟨rfl, rfl, rfl, rfl, rfl⟩

theorem operatorFeedbackCount_eq (same : SameFeedback first second) :
    first.operatorFeedbackCount = second.operatorFeedbackCount := by
  unfold OutcomeRecord.operatorFeedbackCount
  rw [same.fastApprovals, same.slowApprovals, same.fastCancellations, same.slowCancellations]

end SameFeedback

theorem consecutiveWorsened_learn_le {first second : OutcomeRecord}
    (shorter : first.consecutiveWorsened ≤ second.consecutiveWorsened)
    (events : List LearningEvent) :
    (first.learn events).consecutiveWorsened ≤ (second.learn events).consecutiveWorsened := by
  induction events generalizing first second with
  | nil => exact shorter
  | cons event later inductionHypothesis =>
    apply inductionHypothesis
    rw [apply_consecutiveWorsened, apply_consecutiveWorsened]
    cases event.measuredOutcome? with
    | none => exact shorter
    | some assessment =>
      cases assessment with
      | improved => exact le_refl _
      | neutral => exact le_refl _
      | worsened =>
        rw [Ranged.le_iff_val] at shorter ⊢
        rw [Ranged.val_saturatingAdd, Ranged.val_saturatingAdd]
        omega

section Replacement

variable (start : OutcomeRecord) (front back : List LearningEvent)

/-- The record of a history with one outcome between what came around it. -/
def learnedAround (outcome : EffectAssessment) : OutcomeRecord :=
  start.learn (front ++ .outcome (some outcome) :: back)

variable (one other : EffectAssessment)

theorem learnedAround_eq (outcome : EffectAssessment) :
    learnedAround start front back outcome =
      ((start.learn front).apply (.outcome (some outcome))).learn back := by
  simp only [learnedAround, OutcomeRecord.learn, List.foldl_append, List.foldl_cons]

theorem sameFeedback_learnedAround :
    SameFeedback (learnedAround start front back one) (learnedAround start front back other) := by
  rw [learnedAround_eq, learnedAround_eq]
  exact (SameFeedback.outcomes _ one other).learn back

theorem measured_learnedAround :
    (learnedAround start front back one).measured =
      (learnedAround start front back other).measured := by
  have tally := fun kind outcome =>
    outcomeCount_learn_around kind start front back outcome
  have improvedOne := tally .improved one
  have neutralOne := tally .neutral one
  have worsenedOne := tally .worsened one
  have improvedOther := tally .improved other
  have neutralOther := tally .neutral other
  have worsenedOther := tally .worsened other
  have improvedLower := start.improved.lower
  have neutralLower := start.neutral.lower
  have worsenedLower := start.worsened.lower
  rw [Ranged.eq_iff_val, OutcomeRecord.val_measured, OutcomeRecord.val_measured]
  simp only [OutcomeRecord.outcomeCount, countElsewhere] at *
  unfold learnedAround largestCount at *
  cases one <;> cases other <;>
    simp only [reduceCtorEq, if_true, if_false] at * <;> omega

theorem exactDenom_learnedAround :
    (learnedAround start front back one).exactDenom =
      (learnedAround start front back other).exactDenom := by
  have feedback := (sameFeedback_learnedAround start front back one other).operatorFeedbackCount_eq
  rw [OutcomeRecord.exactDenom, OutcomeRecord.exactDenom,
    measured_learnedAround start front back one other, feedback]

theorem tooShort_learnedAround_iff (policy : StandingPolicy) :
    TooShort policy (learnedAround start front back one) ↔
      TooShort policy (learnedAround start front back other) := by
  have feedback := (sameFeedback_learnedAround start front back one other).operatorFeedbackCount_eq
  unfold TooShort effectiveMeasured
  rw [measured_learnedAround start front back one other, feedback]

theorem exactCredit_learnedAround :
    (learnedAround start front back other).exactCredit -
        (learnedAround start front back one).exactCredit =
      200 *
          (((learnedAround start front back other).improved).val -
            ((learnedAround start front back one).improved).val) +
        100 *
          (((learnedAround start front back other).neutral).val -
            ((learnedAround start front back one).neutral).val) := by
  have same := sameFeedback_learnedAround start front back one other
  unfold OutcomeRecord.exactCredit
  rw [same.fastApprovals, same.slowApprovals, same.slowCancellations]
  omega

/--
The improvement is past the largest count, so that it is not counted, while
the neutral outcome in its place is.
-/
def Overcounted : Prop :=
  one = .neutral ∧ other = .improved ∧
    largestCount ≤ countElsewhere .improved start front back ∧
    countElsewhere .neutral start front back < largestCount

variable {one other}

theorem exactCredit_learnedAround_le (better : one.rank < other.rank)
    (counted : ¬ Overcounted start front back one other) :
    (learnedAround start front back one).exactCredit ≤
      (learnedAround start front back other).exactCredit := by
  have moved := exactCredit_learnedAround start front back one other
  have tally := fun kind outcome =>
    outcomeCount_learn_around kind start front back outcome
  have improvedOne := tally .improved one
  have neutralOne := tally .neutral one
  have improvedOther := tally .improved other
  have neutralOther := tally .neutral other
  simp only [OutcomeRecord.outcomeCount, Overcounted] at *
  unfold learnedAround largestCount at *
  cases one <;> cases other <;>
    simp only [reduceCtorEq, if_true, if_false, EffectAssessment.rank,
      true_and, false_and, and_false, not_false_eq_true] at * <;>
    omega

theorem exactCredit_learnedAround_of_overcounted (past : Overcounted start front back one other) :
    (learnedAround start front back other).exactCredit =
      (learnedAround start front back one).exactCredit - 100 := by
  have moved := exactCredit_learnedAround start front back one other
  have tally := fun kind outcome =>
    outcomeCount_learn_around kind start front back outcome
  obtain ⟨rfl, rfl, many, few⟩ := past
  have improvedOne := tally .improved .neutral
  have neutralOne := tally .neutral .neutral
  have improvedOther := tally .improved .improved
  have neutralOther := tally .neutral .improved
  simp only [OutcomeRecord.outcomeCount, reduceCtorEq, if_true, if_false] at *
  unfold learnedAround largestCount at *
  omega

theorem consecutiveWorsened_learnedAround_le (better : one.rank < other.rank) :
    (learnedAround start front back other).consecutiveWorsened ≤
      (learnedAround start front back one).consecutiveWorsened := by
  rw [learnedAround_eq, learnedAround_eq]
  apply consecutiveWorsened_learn_le
  rw [apply_consecutiveWorsened, apply_consecutiveWorsened]
  cases other with
  | worsened => cases better
  | neutral => exact Ranged.le_iff_val.mpr (Ranged.lower _)
  | improved => exact Ranged.le_iff_val.mpr (Ranged.lower _)

variable (policy : StandingPolicy)

/--
When the better of two histories weighs no less: the improvement is counted,
or nothing can move the weight, or no share above the floor is lost with the
credit of one neutral outcome.
-/
def ReplacementCounts (start : OutcomeRecord) (front back : List LearningEvent)
    (one other : EffectAssessment) : Prop :=
  Overcounted start front back one other →
    RetiredBy policy (learnedAround start front back one) ∨
      TooShort policy (learnedAround start front back one) ∨
      KeepsShares policy
        (learnedAround start front back one).exactCredit
        (learnedAround start front back one).exactDenom
        ((learnedAround start front back one).exactCredit - 100)
        (learnedAround start front back one).exactDenom

theorem weightOf_learnedAround_le_iff (better : one.rank < other.rank) :
    weightOf policy (learnedAround start front back one) ≤
        weightOf policy (learnedAround start front back other) ↔
      ReplacementCounts policy start front back one other := by
  by_cases retired : RetiredBy policy (learnedAround start front back one)
  · have lower := (weightOf policy (learnedAround start front back other)).lower
    rw [Ranged.le_iff_val, weightOf_of_retired retired]
    exact iff_of_true lower (fun _ => Or.inl retired)
  have otherRunning : ¬ RetiredBy policy (learnedAround start front back other) := by
    have same := sameFeedback_learnedAround start front back one other
    have shorter := consecutiveWorsened_learnedAround_le start front back better
    rintro (byOperator | byRun)
    · exact retired (Or.inl (same.retired.trans byOperator))
    · exact retired (Or.inr (byRun.trans shorter))
  have shortIff := tooShort_learnedAround_iff start front back one other policy
  by_cases short : TooShort policy (learnedAround start front back one)
  · rw [Ranged.le_iff_val, weightOf_of_tooShort retired short,
      weightOf_of_tooShort otherRunning (shortIff.mp short)]
    exact iff_of_true (le_refl _) (fun _ => Or.inr (Or.inl short))
  have otherLong := fun other => short (shortIff.mpr other)
  rw [weightOf_le_weightOf_iff retired short otherRunning otherLong,
    exactDenom_learnedAround start front back other one]
  simp only [ReplacementCounts, retired, short, false_or]
  by_cases past : Overcounted start front back one other
  · rw [exactCredit_learnedAround_of_overcounted start front back past]
    simp only [past, forall_const]
  · have more := exactCredit_learnedAround_le start front back better past
    exact iff_of_true (KeepsShares.of_more_credit more) (fun happened => absurd happened past)

end Replacement

/--
Feedback moves a weight in its own direction exactly under the conditions
spelled out above: for an approval, for a cancellation, and for one measured
outcome of a history in the place of a worse one.
-/
theorem feedback_direction_iff (policy : StandingPolicy) :
    (∀ (record : OutcomeRecord) (fast : Bool),
      weightOf policy record ≤
          weightOf policy (record.observeOperator true fast) ↔
        ApprovalCounts policy record fast) ∧
    (∀ (record : OutcomeRecord) (fast : Bool),
      weightOf policy (record.observeOperator false fast) ≤
          weightOf policy record ↔
        CancellationCounts policy record fast) ∧
    (∀ (start : OutcomeRecord) (front back : List LearningEvent)
        (one other : EffectAssessment),
      one.rank < other.rank →
      (weightOf policy
          (start.learn (front ++ .outcome (some one) :: back)) ≤
          weightOf policy
            (start.learn (front ++ .outcome (some other) :: back)) ↔
        ReplacementCounts policy start front back one other)) :=
  ⟨fun _ fast => weightOf_le_approval_iff fast,
    fun _ fast => cancellation_le_weightOf_iff fast,
    fun start front back _ _ better =>
      weightOf_learnedAround_le_iff start front back policy better⟩

def threeImprovements : OutcomeRecord := { OutcomeRecord.default with improved := 3 }

/-- One improvement among five outcomes, the failures not all in a row. -/
def oneInFive : OutcomeRecord :=
  { OutcomeRecord.default with
    improved := 1
    worsened := 4
    consecutiveWorsened := 2 }

theorem feedback_direction_witness :
    weightOf .default
        (OutcomeRecord.default.learn
          ([] ++ .outcome (some .worsened) :: [])) ≤
      weightOf .default
        (OutcomeRecord.default.learn
          ([] ++ .outcome (some .improved) :: [])) :=
  ((feedback_direction_iff .default).2.2 .default [] [] .worsened .improved
    (by decide)).mpr (by rintro ⟨impossible, _⟩; cases impossible)

/--
A slow approval takes a perfect record down to nine tenths, and a slow
cancellation lifts a poor one off its floor.
-/
theorem slow_feedback_moves_backwards :
    (weightOf .default threeImprovements).val = 10000 ∧
      (weightOf .default
        (threeImprovements.observeOperator true false)).val = 9285 ∧
      (weightOf .agentDefaults oneInFive).val = 2000 ∧
      (weightOf .agentDefaults
        (oneInFive.observeOperator false false)).val = 2045 := by
  decide +kernel

end CrowdRelay
