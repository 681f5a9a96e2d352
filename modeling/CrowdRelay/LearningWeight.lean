import CrowdRelay.Learning

namespace CrowdRelay

open MachineInt

/-!
# The weight a record derives

The credit of a record and the credit it could have had, as exact integers.
A weight is compared share by share: it reaches a share of full reach if the
floor does, or if the record earned that share of its possible credit.
-/

/-- The greatest number of events one counter holds. -/
def largestCount : Int := 4294967295

/-- The share of full reach a record is granted. -/
def weightOf (policy : StandingPolicy) (record : OutcomeRecord) : U16 :=
  (assessStanding record policy).weightBasisPoints

/-- The play is retired, by an operator or by its own run of failures. -/
def RetiredBy (policy : StandingPolicy) (record : OutcomeRecord) : Prop :=
  record.operatorRetired = true ∨ policy.retirementThreshold ≤ record.consecutiveWorsened

def TooShort (policy : StandingPolicy) (record : OutcomeRecord) : Prop :=
  effectiveMeasured record < max policy.minimumMeasuredRecord 1

namespace OutcomeRecord

variable (record : OutcomeRecord)

/-- Centi-credit of the whole record. -/
def exactCredit : Int :=
  200 * record.improved.val + 100 * record.neutral.val +
    100 * record.operatorFastApprovals.val +
    50 * record.operatorSlowApprovals.val +
    25 * record.operatorSlowCancellations.val

/-- The credit the record would have without a single failure. -/
def exactDenom : Int := 200 * record.measured.val + 100 * record.operatorFeedbackCount.val

theorem val_measured :
    record.measured.val =
      min largestCount (record.improved.val + record.neutral.val + record.worsened.val) := by
  have improved := record.improved.lower
  have neutral := record.neutral.lower
  have worsened := record.worsened.lower
  simp only [measured, Ranged.val_saturatingAdd, largestCount]
  omega

theorem val_operatorFeedbackCount :
    record.operatorFeedbackCount.val = min largestCount
        (record.operatorFastApprovals.val + record.operatorSlowApprovals.val +
          record.operatorFastCancellations.val +
          record.operatorSlowCancellations.val) := by
  have fastApprovals := record.operatorFastApprovals.lower
  have slowApprovals := record.operatorSlowApprovals.lower
  have fastCancellations := record.operatorFastCancellations.lower
  have slowCancellations := record.operatorSlowCancellations.lower
  simp only [operatorFeedbackCount, Ranged.val_saturatingAdd, largestCount]
  omega

theorem val_effectiveMeasured :
    (effectiveMeasured record).val =
      min largestCount (record.measured.val + record.operatorFeedbackCount.val / 2) := by
  have measured := record.measured.lower
  have feedback := record.operatorFeedbackCount.lower
  have feedbackUpper := record.operatorFeedbackCount.upper
  have two : (2 : U32).val = 2 := rfl
  simp only [effectiveMeasured, Ranged.val_saturatingAdd,
    Ranged.quotient, Ranged.val_saturate, two, largestCount]
  omega

end OutcomeRecord

section Exactness

variable (record : OutcomeRecord)

theorem val_wrappingMul_widen (count : U32) (factor : U64) (small : factor.val ≤ 1000) :
    ((widen count).wrappingMul factor).val = count.val * factor.val := by
  have lower := count.lower
  have upper := count.upper
  have factorLower := factor.lower
  have product : count.val * factor.val ≤ 4294967295 * 1000 :=
    Int.mul_le_mul upper small factorLower (by decide)
  have nonnegative : 0 ≤ count.val * factor.val := Int.mul_nonneg lower factorLower
  have remainder :
      (count.val * factor.val - 0) % (18446744073709551615 - 0 + 1) = count.val * factor.val - 0 :=
    Int.emod_eq_of_lt (by omega) (by omega)
  simp only [Ranged.wrappingMul, Ranged.val_saturate, widen]
  rw [remainder]
  omega

theorem val_totalCredit : (totalCredit record).val = record.exactCredit := by
  have improved := record.improved.lower
  have improvedUpper := record.improved.upper
  have neutral := record.neutral.lower
  have neutralUpper := record.neutral.upper
  have fast := record.operatorFastApprovals.lower
  have fastUpper := record.operatorFastApprovals.upper
  have slow := record.operatorSlowApprovals.lower
  have slowUpper := record.operatorSlowApprovals.upper
  have late := record.operatorSlowCancellations.lower
  have lateUpper := record.operatorSlowCancellations.upper
  have two : (2 : U64).val = 2 := rfl
  have quarter : (25 : U64).val = 25 := rfl
  have half : (50 : U64).val = 50 := rfl
  have full : (100 : U64).val = 100 := rfl
  have slowCredit := val_wrappingMul_widen record.operatorSlowApprovals 50 (by decide)
  have lateCredit := val_wrappingMul_widen record.operatorSlowCancellations 25 (by decide)
  rw [half] at slowCredit
  rw [quarter] at lateCredit
  simp only [totalCredit, Ranged.saturatingMul, Ranged.saturatingAdd,
    Ranged.val_saturate, slowCredit, lateCredit, two, full,
    OutcomeRecord.exactCredit]
  simp only [widen]
  omega

theorem val_totalDenom : (totalDenom record).val = record.exactDenom := by
  have measured := record.measured.lower
  have measuredUpper := record.measured.upper
  have feedback := record.operatorFeedbackCount.lower
  have feedbackUpper := record.operatorFeedbackCount.upper
  have double : (200 : U64).val = 200 := rfl
  have full : (100 : U64).val = 100 := rfl
  have feedbackCredit := val_wrappingMul_widen record.operatorFeedbackCount 100 (by decide)
  rw [full] at feedbackCredit
  simp only [totalDenom, Ranged.saturatingMul, Ranged.saturatingAdd,
    Ranged.val_saturate, feedbackCredit, double,
    OutcomeRecord.exactDenom]
  simp only [widen]
  omega

theorem exactCredit_bounds : 0 ≤ record.exactCredit ∧ record.exactCredit ≤ 2040109465125 := by
  have improved := record.improved.lower
  have improvedUpper := record.improved.upper
  have neutral := record.neutral.lower
  have neutralUpper := record.neutral.upper
  have fast := record.operatorFastApprovals.lower
  have fastUpper := record.operatorFastApprovals.upper
  have slow := record.operatorSlowApprovals.lower
  have slowUpper := record.operatorSlowApprovals.upper
  have late := record.operatorSlowCancellations.lower
  have lateUpper := record.operatorSlowCancellations.upper
  unfold OutcomeRecord.exactCredit
  omega

/-- The share of its possible credit a record reaches, cut at full reach. -/
theorem val_creditBasisPoints :
    (creditBasisPoints record).val = min (record.exactCredit * 10000 / max record.exactDenom 1)
        10000 := by
  have credit := exactCredit_bounds record
  have one : (1 : U64).val = 1 := rfl
  have whole : (10000 : U64).val = 10000 := rfl
  have scaled : ((totalCredit record).saturatingMul 10000).val = record.exactCredit * 10000 := by
    simp only [Ranged.saturatingMul, Ranged.val_saturate, val_totalCredit, whole]
    omega
  have divisor : (max (totalDenom record) 1).val = max record.exactDenom 1 := by
    rw [Ranged.val_max, val_totalDenom, one]
  have nonnegative : 0 ≤ record.exactCredit * 10000 / max record.exactDenom 1 :=
    Int.ediv_nonneg (by omega) (by omega)
  have share :
      (min (((totalCredit record).saturatingMul 10000).quotient
        (max (totalDenom record) 1)) 10000).val =
        min (record.exactCredit * 10000 / max record.exactDenom 1)
          10000 := by
    have small :
        record.exactCredit * 10000 / max record.exactDenom 1 ≤ record.exactCredit * 10000 :=
      Int.ediv_le_self _ (by omega)
    rw [Ranged.val_min, Ranged.quotient, Ranged.val_saturate, scaled, divisor, whole]
    omega
  simp only [creditBasisPoints, share, Ranged.tryFrom]
  rw [dif_pos ⟨by omega, by omega⟩]
  rfl

end Exactness

section Weights

variable {policy : StandingPolicy} {record : OutcomeRecord}

theorem weightOf_of_retired (retired : RetiredBy policy record) :
    (weightOf policy record).val = 0 := by
  have standing := assessStanding_isRetired_iff.mpr retired
  unfold weightOf
  cases assessed : assessStanding record policy with
  | retired reason => rfl
  | untested measured =>
    rw [assessed] at standing
    cases standing
  | weighted basisPoints measured =>
    rw [assessed] at standing
    cases standing

theorem weightOf_of_tooShort (running : ¬ RetiredBy policy record)
    (short : TooShort policy record) :
    (weightOf policy record).val = 10000 := by
  simp only [RetiredBy, not_or, Bool.not_eq_true] at running
  simp only [weightOf, assessStanding, running.1, Bool.false_eq_true, if_false, if_neg running.2]
  unfold TooShort at short
  rw [if_pos short]
  rfl

theorem weightOf_of_long (running : ¬ RetiredBy policy record) (long : ¬ TooShort policy record) :
    (weightOf policy record).val =
      max (min (record.exactCredit * 10000 / max record.exactDenom 1)
        10000) (min policy.floorBasisPoints.val 10000) := by
  have whole : (10000 : U16).val = 10000 := rfl
  simp only [RetiredBy, not_or, Bool.not_eq_true] at running
  simp only [weightOf, assessStanding, running.1, Bool.false_eq_true, if_false, if_neg running.2]
  unfold TooShort at long
  rw [if_neg long]
  simp only [Standing.weightBasisPoints, Ranged.val_max, Ranged.val_min,
    val_creditBasisPoints, whole]

theorem exactDenom_pos_of_long (long : ¬ TooShort policy record) : 0 < record.exactDenom := by
  have measured := record.measured.lower
  have feedback := record.operatorFeedbackCount.lower
  have one : (1 : U32).val = 1 := rfl
  have effective := record.val_effectiveMeasured
  simp only [TooShort, Ranged.lt_iff_val, Ranged.val_max, one] at long
  unfold OutcomeRecord.exactDenom
  omega

theorem weightOf_le (policy : StandingPolicy) (record : OutcomeRecord) :
    (weightOf policy record).val ≤ 10000 :=
  weightBasisPoints_assessStanding_le record policy

/-- A record earned a share of its possible credit. -/
def Earned (share credit denom : Int) : Prop := share * denom ≤ 10000 * credit

/--
Every share above the floor that the first credit earns out of the first
possible credit, the second earns out of the second.
-/
def KeepsShares (policy : StandingPolicy)
    (credit denom credit' denom' : Int) : Prop :=
  ∀ share : Int,
    policy.floorBasisPoints.val < share →
    share ≤ 10000 →
    Earned share credit denom →
    Earned share credit' denom'

theorem le_weightOf_iff (running : ¬ RetiredBy policy record)
    (long : ¬ TooShort policy record) {share : Int} :
    share ≤ (weightOf policy record).val ↔
      share ≤ 10000 ∧
        (share ≤ policy.floorBasisPoints.val ∨
          Earned share record.exactCredit record.exactDenom) := by
  have positive := exactDenom_pos_of_long long
  have reached :
      share ≤ record.exactCredit * 10000 / record.exactDenom ↔
        Earned share record.exactCredit record.exactDenom := by
    rw [Int.le_ediv_iff_mul_le positive, Earned, Int.mul_comm 10000]
  have atLeastOne : max record.exactDenom 1 = record.exactDenom := by
    omega
  rw [weightOf_of_long running long, atLeastOne, ← reached]
  omega

theorem weightOf_le_weightOf_iff {other : OutcomeRecord}
    (running : ¬ RetiredBy policy record) (long : ¬ TooShort policy record)
    (otherRunning : ¬ RetiredBy policy other) (otherLong : ¬ TooShort policy other) :
    weightOf policy record ≤ weightOf policy other ↔
      KeepsShares policy record.exactCredit record.exactDenom
        other.exactCredit other.exactDenom := by
  rw [Ranged.le_iff_val]
  constructor
  · intro ordered share above atMost earned
    have reached : share ≤ (weightOf policy record).val :=
      (le_weightOf_iff running long).mpr ⟨atMost, Or.inr earned⟩
    have kept := ((le_weightOf_iff otherRunning otherLong).mp (reached.trans ordered)).2
    exact kept.resolve_left (by omega)
  · intro keeps
    have atMost := weightOf_le policy record
    rw [le_weightOf_iff otherRunning otherLong]
    refine ⟨atMost, ?_⟩
    by_cases floor : (weightOf policy record).val ≤ policy.floorBasisPoints.val
    · exact Or.inl floor
    · have earned := ((le_weightOf_iff running long).mp (le_refl _)).2.resolve_left
          floor
      exact Or.inr (keeps _ (by omega) atMost earned)

end Weights

end CrowdRelay
