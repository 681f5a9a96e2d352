import CrowdRelay.LearningWeight
import CrowdRelay.LearningRuns

namespace CrowdRelay

open MachineInt

/-!
# Which way feedback moves a weight

One operator verdict adds its credit to the record's and a full signal to what
the record could have had.  A fast approval adds as much of both; a slow one
adds half its signal, which lowers a share above one half, and a slow
cancellation adds a quarter, which raises a share below one quarter.
-/

namespace OutcomeRecord

variable (record : OutcomeRecord)

def verdictCount : (approved fast : Bool) → U32
  | true, true => record.operatorFastApprovals
  | true, false => record.operatorSlowApprovals
  | false, true => record.operatorFastCancellations
  | false, false => record.operatorSlowCancellations

end OutcomeRecord

def verdictCredit : (approved fast : Bool) → Int
  | true, true => 100
  | true, false => 50
  | false, true => 0
  | false, false => 25

variable {policy : StandingPolicy}

section Verdict

variable (record : OutcomeRecord) (approved fast : Bool)

theorem verdictCredit_nonneg : 0 ≤ verdictCredit approved fast := by
  cases approved <;> cases fast <;> decide

@[simp] theorem observeOperator_measured :
    (record.observeOperator approved fast).measured = record.measured := by
  cases approved <;> cases fast <;> rfl

theorem exactCredit_observeOperator :
    (record.observeOperator approved fast).exactCredit = record.exactCredit +
        if (record.verdictCount approved fast).val < largestCount then
          verdictCredit approved fast
        else
          0 := by
  have counted := Ranged.val_saturatingAdd (record.verdictCount approved fast) 1
  have lower := (record.verdictCount approved fast).lower
  have upper := (record.verdictCount approved fast).upper
  have one : (1 : U32).val = 1 := rfl
  rw [one] at counted
  unfold largestCount
  split <;> cases approved <;> cases fast <;>
    simp only [OutcomeRecord.observeOperator, OutcomeRecord.exactCredit,
      OutcomeRecord.verdictCount, verdictCredit] at * <;>
    omega

theorem operatorFeedbackCount_observeOperator :
    (record.observeOperator approved fast).operatorFeedbackCount.val =
      min largestCount (record.operatorFeedbackCount.val + 1) := by
  have counted := Ranged.val_saturatingAdd (record.verdictCount approved fast) 1
  have one : (1 : U32).val = 1 := rfl
  have fastApprovals := record.operatorFastApprovals.lower
  have slowApprovals := record.operatorSlowApprovals.lower
  have fastCancellations := record.operatorFastCancellations.lower
  have slowCancellations := record.operatorSlowCancellations.lower
  rw [one] at counted
  rw [OutcomeRecord.val_operatorFeedbackCount, OutcomeRecord.val_operatorFeedbackCount]
  unfold largestCount
  cases approved <;> cases fast <;>
    simp only [OutcomeRecord.observeOperator, OutcomeRecord.verdictCount] at * <;>
    omega

theorem verdictCount_le :
    (record.verdictCount approved fast).val ≤
      record.operatorFeedbackCount.val := by
  have fastApprovals := record.operatorFastApprovals.lower
  have slowApprovals := record.operatorSlowApprovals.lower
  have fastCancellations := record.operatorFastCancellations.lower
  have slowCancellations := record.operatorSlowCancellations.lower
  have upper := (record.verdictCount approved fast).upper
  rw [OutcomeRecord.val_operatorFeedbackCount]
  unfold largestCount
  cases approved <;> cases fast <;>
    simp only [OutcomeRecord.verdictCount] at * <;> omega

theorem retiredBy_observeOperator_iff (policy : StandingPolicy) :
    RetiredBy policy (record.observeOperator approved fast) ↔ RetiredBy policy record := by
  unfold RetiredBy
  rw [observeOperator_operatorRetired, observeOperator_consecutiveWorsened]

theorem exactDenom_observeOperator :
    (record.observeOperator approved fast).exactDenom = 200 * record.measured.val +
        100 * min largestCount (record.operatorFeedbackCount.val + 1) := by
  rw [OutcomeRecord.exactDenom, observeOperator_measured, operatorFeedbackCount_observeOperator]

theorem not_tooShort_observeOperator (long : ¬ TooShort policy record) :
    ¬ TooShort policy (record.observeOperator approved fast) := by
  have upper := record.operatorFeedbackCount.upper
  unfold TooShort at long ⊢
  rw [Ranged.lt_iff_val, OutcomeRecord.val_effectiveMeasured] at long ⊢
  rw [observeOperator_measured, operatorFeedbackCount_observeOperator]
  unfold largestCount at *
  omega

/-- One more verdict makes up the last half outcome of the minimum. -/
def CompletesMinimum (policy : StandingPolicy)
    (record : OutcomeRecord) : Prop :=
  record.operatorFeedbackCount.val % 2 = 1 ∧
    record.operatorFeedbackCount.val < largestCount ∧
    (effectiveMeasured record).val + 1 = max policy.minimumMeasuredRecord.val 1

theorem tooShort_observeOperator_iff (short : TooShort policy record) :
    TooShort policy (record.observeOperator approved fast) ↔ ¬ CompletesMinimum policy record := by
  have upper := record.operatorFeedbackCount.upper
  have minimum := policy.minimumMeasuredRecord.upper
  have one : (1 : U32).val = 1 := rfl
  unfold TooShort at short ⊢
  unfold CompletesMinimum
  rw [Ranged.lt_iff_val, Ranged.val_max, one, OutcomeRecord.val_effectiveMeasured] at short ⊢
  rw [observeOperator_measured, operatorFeedbackCount_observeOperator,
    OutcomeRecord.val_effectiveMeasured]
  unfold largestCount at *
  omega

end Verdict

theorem KeepsShares.of_more_credit {credit credit' denom : Int} (more : credit ≤ credit') :
    KeepsShares policy credit denom credit' denom := by
  intro share _ _ earned
  unfold Earned at *
  omega

section Operator

variable (policy : StandingPolicy) (record : OutcomeRecord) (fast : Bool)

/--
When an approval does not lower the weight: nothing can move it, the record
stays too short or is weighed at full reach, or no share above the floor is
lost to a signal worth less than it could be.
-/
def ApprovalCounts : Prop :=
  RetiredBy policy record ∨
    record.operatorFeedbackCount.val = largestCount ∨
    (TooShort policy record ∧
      (CompletesMinimum policy record →
        10000 ≤ policy.floorBasisPoints.val ∨
          record.exactDenom + 100 ≤ record.exactCredit + verdictCredit true fast)) ∨
    (¬ TooShort policy record ∧
      KeepsShares policy record.exactCredit record.exactDenom
        (record.exactCredit + verdictCredit true fast)
        (record.exactDenom + 100))

/--
When a cancellation does not raise the weight: nothing can move it, the record
was too short to lower it, or no share above the floor is won by the credit a
cancellation is worth.
-/
def CancellationCounts : Prop :=
  RetiredBy policy record ∨
    TooShort policy record ∨
    (record.verdictCount false fast).val = largestCount ∨
    KeepsShares policy
      (record.exactCredit + verdictCredit false fast)
      (200 * record.measured.val + 100 * min largestCount (record.operatorFeedbackCount.val + 1))
      record.exactCredit record.exactDenom

variable {policy record}

theorem weightOf_observeOperator_of_retired (retired : RetiredBy policy record) (approved : Bool) :
    weightOf policy (record.observeOperator approved fast) = weightOf policy record := by
  have after := (retiredBy_observeOperator_iff record approved fast policy).mpr retired
  rw [Ranged.eq_iff_val, weightOf_of_retired retired, weightOf_of_retired after]

theorem approval_of_room (room : record.operatorFeedbackCount.val ≠ largestCount) :
    (record.observeOperator true fast).exactCredit = record.exactCredit + verdictCredit true fast ∧
      (record.observeOperator true fast).exactDenom = record.exactDenom + 100 := by
  have upper := record.operatorFeedbackCount.upper
  have own := verdictCount_le record true fast
  rw [exactCredit_observeOperator, exactDenom_observeOperator, OutcomeRecord.exactDenom]
  unfold largestCount at *
  rw [if_pos (by omega)]
  exact ⟨rfl, by omega⟩

/-- Approvals on a record whose counters are full change no possible credit. -/
theorem weightOf_le_approval_of_full (running : ¬ RetiredBy policy record)
    (full : record.operatorFeedbackCount.val = largestCount) :
    weightOf policy record ≤ weightOf policy (record.observeOperator true fast) := by
  have after : ¬ RetiredBy policy (record.observeOperator true fast) := by
    rwa [retiredBy_observeOperator_iff]
  by_cases short : TooShort policy record
  · have still : TooShort policy (record.observeOperator true fast) := by
      rw [tooShort_observeOperator_iff record true fast short]
      rintro ⟨_, room, _⟩
      omega
    rw [Ranged.le_iff_val, weightOf_of_tooShort running short, weightOf_of_tooShort after still]
  · have long := not_tooShort_observeOperator record true fast short
    rw [weightOf_le_weightOf_iff running short after long,
      exactCredit_observeOperator, exactDenom_observeOperator, full]
    have same :
        200 * record.measured.val + 100 * min largestCount (largestCount + 1) =
          record.exactDenom := by
      rw [OutcomeRecord.exactDenom, full]
      unfold largestCount
      omega
    rw [same]
    apply KeepsShares.of_more_credit
    have nonnegative := verdictCredit_nonneg true fast
    split <;> omega

theorem weightOf_le_approval_iff :
    weightOf policy record ≤ weightOf policy (record.observeOperator true fast) ↔
      ApprovalCounts policy record fast := by
  by_cases retired : RetiredBy policy record
  · rw [weightOf_observeOperator_of_retired fast retired]
    exact iff_of_true (le_refl _) (Or.inl retired)
  have after : ¬ RetiredBy policy (record.observeOperator true fast) := by
    rwa [retiredBy_observeOperator_iff]
  by_cases full : record.operatorFeedbackCount.val = largestCount
  · exact iff_of_true (weightOf_le_approval_of_full fast retired full)
        (Or.inr (Or.inl full))
  obtain ⟨credit, denom⟩ := approval_of_room fast full
  simp only [ApprovalCounts, retired, full, false_or]
  by_cases short : TooShort policy record
  · simp only [short, true_and, not_true_eq_false, false_and, or_false]
    by_cases completes : CompletesMinimum policy record
    · have long : ¬ TooShort policy (record.observeOperator true fast) := by
        rw [tooShort_observeOperator_iff record true fast short]
        exact not_not_intro completes
      rw [Ranged.le_iff_val, weightOf_of_tooShort retired short,
        le_weightOf_iff after long, credit, denom]
      simp only [completes, forall_const, le_refl, true_and, Earned]
      omega
    · have still := (tooShort_observeOperator_iff record true fast short).mpr
          completes
      rw [Ranged.le_iff_val, weightOf_of_tooShort retired short, weightOf_of_tooShort after still]
      exact iff_of_true (le_refl _) (fun made => absurd made completes)
  · have long := not_tooShort_observeOperator record true fast short
    rw [weightOf_le_weightOf_iff retired short after long, credit, denom]
    simp only [short, false_and, not_false_eq_true, true_and, false_or]

theorem cancellation_le_weightOf_iff :
    weightOf policy (record.observeOperator false fast) ≤ weightOf policy record ↔
      CancellationCounts policy record fast := by
  by_cases retired : RetiredBy policy record
  · rw [weightOf_observeOperator_of_retired fast retired]
    exact iff_of_true (le_refl _) (Or.inl retired)
  by_cases short : TooShort policy record
  · rw [Ranged.le_iff_val, weightOf_of_tooShort retired short]
    exact iff_of_true (weightOf_le policy _) (Or.inr (Or.inl short))
  have after : ¬ RetiredBy policy (record.observeOperator false fast) := by
    rwa [retiredBy_observeOperator_iff]
  have long := not_tooShort_observeOperator record false fast short
  rw [weightOf_le_weightOf_iff after long retired short,
    exactCredit_observeOperator, exactDenom_observeOperator]
  simp only [CancellationCounts, retired, short, false_or]
  by_cases full : (record.verdictCount false fast).val = largestCount
  · -- A full counter is all there is to count: nothing has moved.
    have own := verdictCount_le record false fast
    have upper := record.operatorFeedbackCount.upper
    refine iff_of_true ?_ (Or.inl full)
    have same :
        200 * record.measured.val + 100 * min largestCount (record.operatorFeedbackCount.val + 1) =
          record.exactDenom := by
      rw [OutcomeRecord.exactDenom]
      unfold largestCount at *
      omega
    rw [if_neg (by omega), same, Int.add_zero]
    exact KeepsShares.of_more_credit (le_refl _)
  · have upper := (record.verdictCount false fast).upper
    rw [if_pos (by unfold largestCount at *; omega)]
    simp only [full, false_or]

end Operator

end CrowdRelay
