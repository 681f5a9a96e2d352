import Mathlib.Data.Nat.Cast.Order.Field
import Mathlib.Data.Rat.Cast.Order
import CrowdRelay.Extremes
import CrowdRelay.TourEconomics

namespace CrowdRelay

open MachineInt Ranged Extremes

/-!
# What a show was predicted to cost and what it cost

A settled show is held against the costing that was frozen before it: the
model drifts when the total is out by more than the tolerance and some line
moved enough money, and the line that moved the most is named.  A total for
which no variance can be written down counts as no variance at all.
-/

inductive CostLine where
  | transport
  | accommodation
  | perDiem
  | overhead
  | unmodelled
  | fee
  deriving Repr, DecidableEq

/-- What somebody who was there reports. -/
structure SettledShowCost where
  transportMinor : I64
  accommodationMinor : I64
  perDiemMinor : I64
  overheadMinor : I64
  otherMinor : I64
  feeReceivedMinor : I64
  deriving Repr, DecidableEq

def SettledShowCost.totalCostMinor (settled : SettledShowCost) : I64 :=
  (((settled.transportMinor.saturatingAdd
    settled.accommodationMinor).saturatingAdd
      settled.perDiemMinor).saturatingAdd settled.overheadMinor).saturatingAdd settled.otherMinor

/-- How far one line was out. -/
structure LineVariance where
  line : CostLine
  predictedMinor : I64
  settledMinor : I64
  varianceBasisPoints : Option I32
  deriving Repr, DecidableEq

def LineVariance.deltaMinor (variance : LineVariance) : I64 :=
  variance.settledMinor.saturatingSub variance.predictedMinor

def LineVariance.moved (variance : LineVariance) : Nat := variance.deltaMinor.val.natAbs

inductive SettlementGap where
  | noPrediction
  | predictionIncomplete
  | noSettlement
  deriving Repr, DecidableEq

inductive ModelAccuracy where
  | calibrated (totalVarianceBasisPoints : I32)
  | drifting
      (totalVarianceBasisPoints : I32)
      (worstLine : CostLine)
      (worstLineDeltaMinor : I64)
  | insufficient (reason : SettlementGap)
  deriving Repr, DecidableEq

namespace ModelAccuracy

def isCalibrated : ModelAccuracy → Bool
  | .calibrated _ => true
  | .drifting .. | .insufficient _ => false

def isDrifting : ModelAccuracy → Bool
  | .drifting .. => true
  | .calibrated _ | .insufficient _ => false

end ModelAccuracy

structure SettlementPolicy where
  toleranceBasisPoints : U16
  minimumMaterialMinor : I64
  deriving Repr, DecidableEq

def SettlementPolicy.default : SettlementPolicy where
  toleranceBasisPoints := 1500
  minimumMaterialMinor := 5000

/-- The magnitude of a value, which wraps at the least one. -/
def wrappingAbs (value : I64) : I64 := wrap (value.val.natAbs : Int)

/-- Settled against predicted, where that is a number that can be written. -/
def relativeVariance (predictedMinor settledMinor : I64) : Option I32 :=
  if predictedMinor = 0 then
    none
  else
    tryFrom
      (((settledMinor.saturatingSub predictedMinor).val * 10000).tdiv
        (wrappingAbs predictedMinor).val)

section Assessment

variable (predicted : ShowCost) (predictedFeeMinor : I64) (settled : SettledShowCost)
  (policy : SettlementPolicy)

def lineVarianceOf (line : CostLine)
    (predictedMinor settledMinor : I64) : LineVariance where
  line := line
  predictedMinor := predictedMinor
  settledMinor := settledMinor
  varianceBasisPoints := relativeVariance predictedMinor settledMinor

/-- Every line, predicted against settled; nothing predicts the unmodelled
one. -/
def lineVariances : List LineVariance :=
  [lineVarianceOf .transport predicted.transportMinor settled.transportMinor,
    lineVarianceOf .accommodation predicted.accommodationMinor settled.accommodationMinor,
    lineVarianceOf .perDiem predicted.perDiemMinor settled.perDiemMinor,
    lineVarianceOf .overhead predicted.overheadMinor settled.overheadMinor,
    lineVarianceOf .unmodelled 0 settled.otherMinor,
    lineVarianceOf .fee predictedFeeMinor settled.feeReceivedMinor]

/-- The last of the lines that moved the most money, if any moved enough. -/
def worstVariance : Option LineVariance :=
  maxByKey LineVariance.moved
    ((lineVariances predicted predictedFeeMinor settled).filter fun variance =>
      policy.minimumMaterialMinor.val.natAbs ≤ variance.moved)

/-- The model held against one settled show. -/
def assessModelAccuracy : ModelAccuracy :=
  let totalVarianceBasisPoints :=
    (relativeVariance predicted.totalCostMinor settled.totalCostMinor).getD 0
  match worstVariance predicted predictedFeeMinor settled policy with
  | some worst =>
    if policy.toleranceBasisPoints.val <
        totalVarianceBasisPoints.val.natAbs then
      .drifting totalVarianceBasisPoints worst.line worst.deltaMinor
    else
      .calibrated totalVarianceBasisPoints
  | none => .calibrated totalVarianceBasisPoints

end Assessment

def wholeBasisPoints (predictedMinor settledMinor : I64) : Int :=
  ((settledMinor.saturatingSub predictedMinor).val * 10000).tdiv predictedMinor.val.natAbs

/-- A number of basis points that can be written down. -/
def Representable (basisPoints : Int) : Prop := -2147483648 ≤ basisPoints ∧ basisPoints ≤ 2147483647

instance decidableRepresentable (basisPoints : Int) : Decidable (Representable basisPoints) :=
  inferInstanceAs (Decidable (_ ∧ _))

/-- How far the settled amount is from the predicted one, in basis points of
that. -/
def exactVariance (predictedMinor settledMinor : I64) : ℚ :=
  |(settledMinor.val : ℚ) - predictedMinor.val| / |(predictedMinor.val : ℚ)| * 10000

section Statements

variable (predicted : ShowCost) (predictedFeeMinor : I64) (settled : SettledShowCost)
  (policy : SettlementPolicy)

def SomeLineMaterial : Prop :=
  ∃ variance ∈ lineVariances predicted predictedFeeMinor settled,
    policy.minimumMaterialMinor.val.natAbs ≤ variance.moved

structure FollowsVariance : Prop where
  drifts :
    (assessModelAccuracy predicted predictedFeeMinor settled
        policy).isDrifting = true ↔
      policy.toleranceBasisPoints.val <
          exactVariance predicted.totalCostMinor settled.totalCostMinor ∧
        SomeLineMaterial predicted predictedFeeMinor settled policy
  tooLarge :
    predicted.totalCostMinor ≠ 0 →
    ¬ Representable
      (wholeBasisPoints predicted.totalCostMinor settled.totalCostMinor) →
    (assessModelAccuracy predicted predictedFeeMinor settled
      policy).isCalibrated = false
  againstZero :
    predicted.totalCostMinor = 0 →
    settled.totalCostMinor ≠ 0 →
    (assessModelAccuracy predicted predictedFeeMinor settled
      policy).isCalibrated = false
  worstLine :
    ∀ total worst delta,
      assessModelAccuracy predicted predictedFeeMinor settled policy =
        .drifting total worst delta →
      ∃ variance ∈ lineVariances predicted predictedFeeMinor settled,
        variance.line = worst ∧ variance.deltaMinor = delta ∧
          ∀ other ∈ lineVariances predicted predictedFeeMinor settled,
            other.moved ≤ variance.moved

/-- The variance can be written down, and its fraction decides nothing. -/
structure VarianceReadable : Prop where
  zero :
    predicted.totalCostMinor = 0 →
    settled.totalCostMinor = 0
  representable :
    predicted.totalCostMinor ≠ 0 →
    Representable
      (wholeBasisPoints predicted.totalCostMinor settled.totalCostMinor)
  fraction :
    SomeLineMaterial predicted predictedFeeMinor settled policy →
    policy.toleranceBasisPoints.val <
      exactVariance predicted.totalCostMinor settled.totalCostMinor →
    policy.toleranceBasisPoints.val <
      (wholeBasisPoints predicted.totalCostMinor
        settled.totalCostMinor).natAbs

end Statements

section Variance

variable {predictedMinor settledMinor : I64}

/-- Against the least amount there is, no variance reaches twice the
amount. -/
theorem wholeBasisPoints_small (least : predictedMinor.val = -9223372036854775808) :
    (wholeBasisPoints predictedMinor settledMinor).natAbs ≤ 10000 := by
  have lower := (settledMinor.saturatingSub predictedMinor).lower
  have upper := (settledMinor.saturatingSub predictedMinor).upper
  rw [wholeBasisPoints, Int.natAbs_tdiv, least]
  exact Nat.div_le_of_le_mul (by omega)

/-- The magnitude wraps at the least amount only, where it turns the sign of
the variance. -/
theorem relativeVariance_eq (predictedNonzero : predictedMinor ≠ 0) :
    relativeVariance predictedMinor settledMinor =
        tryFrom (wholeBasisPoints predictedMinor settledMinor) ∨
      (predictedMinor.val = -9223372036854775808 ∧
        relativeVariance predictedMinor settledMinor =
          tryFrom (-wholeBasisPoints predictedMinor settledMinor)) := by
  have lower := predictedMinor.lower
  have upper := predictedMinor.upper
  rw [relativeVariance, if_neg predictedNonzero]
  by_cases least : predictedMinor.val = -9223372036854775808
  · have wraps : (wrappingAbs predictedMinor).val = -9223372036854775808 := by
      rw [wrappingAbs, least]
      decide
    refine .inr ⟨least, ?_⟩
    rw [wraps, wholeBasisPoints, least, Int.tdiv_neg]
    rfl
  · refine .inl ?_
    rw [wrappingAbs, val_wrap_of_fits (by omega) (by omega)]
    rfl

theorem exists_relativeVariance (predictedNonzero : predictedMinor ≠ 0)
    (representable : Representable (wholeBasisPoints predictedMinor settledMinor)) :
    ∃ variance,
      relativeVariance predictedMinor settledMinor = some variance ∧
        variance.val.natAbs = (wholeBasisPoints predictedMinor settledMinor).natAbs := by
  rcases @relativeVariance_eq predictedMinor settledMinor predictedNonzero with
    same | ⟨least, turned⟩
  · rw [same]
    exact ⟨⟨_, representable.1, representable.2⟩, tryFrom_eq_some_iff.mpr rfl, rfl⟩
  · have small := @wholeBasisPoints_small predictedMinor settledMinor least
    rw [turned]
    exact ⟨⟨-wholeBasisPoints predictedMinor settledMinor, by omega, by omega⟩,
      tryFrom_eq_some_iff.mpr rfl, Int.natAbs_neg _⟩

theorem relativeVariance_eq_none (predictedNonzero : predictedMinor ≠ 0)
    (unrepresentable : ¬ Representable (wholeBasisPoints predictedMinor settledMinor)) :
    relativeVariance predictedMinor settledMinor = none := by
  rcases @relativeVariance_eq predictedMinor settledMinor predictedNonzero with
    same | ⟨least, -⟩
  · rw [same]
    exact dif_neg unrepresentable
  · have small := @wholeBasisPoints_small predictedMinor settledMinor least
    have fits : Representable (wholeBasisPoints predictedMinor settledMinor) := by
      constructor <;> omega
    exact absurd fits unrepresentable

/-- Where it can be written down, the variance that counts is the one without
a fraction; against nothing both are zero. -/
theorem natAbs_relativeVariance
    (representable :
      predictedMinor ≠ 0 →
      Representable (wholeBasisPoints predictedMinor settledMinor)) :
    ((relativeVariance predictedMinor settledMinor).getD 0).val.natAbs =
      (wholeBasisPoints predictedMinor settledMinor).natAbs := by
  by_cases nothing : predictedMinor = 0
  · have zero : (0 : I64).val.natAbs = 0 := rfl
    rw [relativeVariance, if_pos nothing, wholeBasisPoints, nothing, zero,
      Int.natCast_zero, Int.tdiv_zero]
    rfl
  · obtain ⟨variance, written, same⟩ := exists_relativeVariance nothing (representable nothing)
    rw [written]
    exact same

/-- Dropping the fraction, and cutting down the difference before, makes the
variance no larger. -/
theorem wholeBasisPoints_le_exactVariance :
    ((wholeBasisPoints predictedMinor settledMinor).natAbs : ℚ) ≤
      exactVariance predictedMinor settledMinor := by
  have settledLower := settledMinor.lower
  have settledUpper := settledMinor.upper
  have predictedLower := predictedMinor.lower
  have predictedUpper := predictedMinor.upper
  have cut :
      ((settledMinor.saturatingSub predictedMinor).val * 10000).natAbs ≤
        (settledMinor.val - predictedMinor.val).natAbs * 10000 := by
    rw [val_saturatingSub]
    omega
  have exact :
      exactVariance predictedMinor settledMinor =
        (((settledMinor.val - predictedMinor.val).natAbs * 10000 : Nat) : ℚ)
          / ((predictedMinor.val.natAbs : Nat) : ℚ) := by
    rw [exactVariance, Nat.cast_mul, Nat.cast_natAbs, Nat.cast_natAbs,
      Int.cast_abs, Int.cast_abs, Int.cast_sub, div_mul_eq_mul_div]
    rfl
  rw [exact, wholeBasisPoints, Int.natAbs_tdiv, Int.natAbs_natCast]
  exact le_trans Nat.cast_div_le
    (div_le_div_of_nonneg_right (Nat.cast_le.mpr cut) (Nat.cast_nonneg _))

end Variance

section Verdicts

variable {predicted : ShowCost} {predictedFeeMinor : I64} {settled : SettledShowCost}
  {policy : SettlementPolicy}

theorem exists_worstVariance_iff :
    (∃ worst, worstVariance predicted predictedFeeMinor settled policy = some worst) ↔
      SomeLineMaterial predicted predictedFeeMinor settled policy := by
  rw [← Option.isSome_iff_exists, Option.isSome_iff_ne_none, worstVariance,
    maxByKey, Ne, maxBy_eq_none_iff, List.filter_eq_nil_iff]
  simp [SomeLineMaterial]

theorem worstVariance_greatest {worst : LineVariance}
    (isWorst : worstVariance predicted predictedFeeMinor settled policy = some worst) :
    worst ∈ lineVariances predicted predictedFeeMinor settled ∧
      ∀ other ∈ lineVariances predicted predictedFeeMinor settled, other.moved ≤ worst.moved := by
  have kept := List.mem_filter.mp (maxBy_mem isWorst)
  have worstMaterial := of_decide_eq_true kept.2
  refine ⟨kept.1, ?_⟩
  intro other isLine
  by_cases material : policy.minimumMaterialMinor.val.natAbs ≤ other.moved
  · exact le_maxByKey isWorst other
      (List.mem_filter.mpr ⟨isLine, decide_eq_true material⟩)
  · exact (not_le.mp material).le.trans worstMaterial

/-- The model drifts when the variance as it was written down exceeds the
tolerance and a line moved enough money. -/
theorem isDrifting_iff :
    (assessModelAccuracy predicted predictedFeeMinor settled policy).isDrifting = true ↔
      policy.toleranceBasisPoints.val <
          ((relativeVariance predicted.totalCostMinor settled.totalCostMinor).getD 0).val.natAbs ∧
        SomeLineMaterial predicted predictedFeeMinor settled policy := by
  rw [← exists_worstVariance_iff, assessModelAccuracy]
  cases worstVariance predicted predictedFeeMinor settled policy with
  | none => simp [ModelAccuracy.isDrifting]
  | some worst =>
    dsimp only
    split
    next exceeds => exact ⟨fun _ => ⟨exceeds, worst, rfl⟩, fun _ => rfl⟩
    next within => exact ⟨nofun, fun both => absurd both.1 within⟩

theorem isCalibrated_eq_not_isDrifting :
    (assessModelAccuracy predicted predictedFeeMinor settled policy).isCalibrated =
      !(assessModelAccuracy predicted predictedFeeMinor settled policy).isDrifting := by
  rw [assessModelAccuracy]
  cases worstVariance predicted predictedFeeMinor settled policy with
  | none => rfl
  | some worst =>
    dsimp only
    split <;> rfl

theorem worstLine_of_drifting {total : I32} {line : CostLine} {delta : I64}
    (drifting :
      assessModelAccuracy predicted predictedFeeMinor settled policy = .drifting total line delta) :
    ∃ variance ∈ lineVariances predicted predictedFeeMinor settled,
      variance.line = line ∧ variance.deltaMinor = delta ∧
        ∀ other ∈ lineVariances predicted predictedFeeMinor settled,
          other.moved ≤ variance.moved := by
  unfold assessModelAccuracy at drifting
  cases isWorst : worstVariance predicted predictedFeeMinor settled policy with
  | none =>
    rw [isWorst] at drifting
    cases drifting
  | some worst =>
    rw [isWorst] at drifting
    obtain ⟨isLine, greatest⟩ := worstVariance_greatest isWorst
    dsimp only at drifting
    split at drifting
    · cases drifting
      exact ⟨worst, isLine, rfl, rfl, greatest⟩
    · cases drifting

/-- What has no variance written down is not drifting, whatever the lines
are. -/
theorem isCalibrated_of_none
    (unwritten : relativeVariance predicted.totalCostMinor settled.totalCostMinor = none) :
    (assessModelAccuracy predicted predictedFeeMinor settled policy).isCalibrated = true := by
  have tolerance := policy.toleranceBasisPoints.lower
  rw [isCalibrated_eq_not_isDrifting, Bool.not_eq_true',
    ← Bool.not_eq_true, isDrifting_iff, unwritten]
  rintro ⟨exceeds, -⟩
  have zero : ((none : Option I32).getD 0).val.natAbs = 0 := rfl
  rw [zero] at exceeds
  omega

/-- The verdict follows the exact variance exactly when that can be written
down and its fraction does not decide it. -/
theorem verdict_follows_variance_iff :
    FollowsVariance predicted predictedFeeMinor settled policy ↔
      VarianceReadable predicted predictedFeeMinor settled policy := by
  constructor
  · intro follows
    have representable :
        predicted.totalCostMinor ≠ 0 →
        Representable
          (wholeBasisPoints predicted.totalCostMinor
            settled.totalCostMinor) := by
      intro predictedNonzero
      by_contra unrepresentable
      have calibrated := @isCalibrated_of_none predicted predictedFeeMinor settled policy
          (relativeVariance_eq_none predictedNonzero unrepresentable)
      rw [follows.tooLarge predictedNonzero unrepresentable] at calibrated
      cases calibrated
    refine ⟨?_, representable, ?_⟩
    · intro nothing
      by_contra spent
      have calibrated := @isCalibrated_of_none predicted predictedFeeMinor settled policy
          (if_pos nothing)
      rw [follows.againstZero nothing spent] at calibrated
      cases calibrated
    · intro material exceeds
      have written := (isDrifting_iff.mp (follows.drifts.mpr ⟨exceeds, material⟩)).1
      rw [natAbs_relativeVariance representable] at written
      exact written
  · intro readable
    refine ⟨?_, ?_, ?_, fun _ _ _ => worstLine_of_drifting⟩
    · rw [isDrifting_iff, natAbs_relativeVariance readable.representable]
      constructor
      · rintro ⟨written, material⟩
        have exceeds :
            (policy.toleranceBasisPoints.val : ℚ) <
              (wholeBasisPoints predicted.totalCostMinor
                settled.totalCostMinor).natAbs := by
          rw [← Int.cast_natCast]
          exact Int.cast_lt.mpr written
        exact ⟨exceeds.trans_le wholeBasisPoints_le_exactVariance, material⟩
      · rintro ⟨exceeds, material⟩
        exact ⟨readable.fraction material exceeds, material⟩
    · intro predictedNonzero unrepresentable
      exact absurd (readable.representable predictedNonzero) unrepresentable
    · intro nothing spent
      exact absurd (readable.zero nothing) spent

def aroundTheCorner : ShowCost where
  transportBasis := .flatRate
  transportMinor := 100
  vehicles := 1
  roundTripKm := 2
  nightsAway := 0
  rooms := 3
  fuelMinor := 0
  tollsMinor := 0
  accommodationMinor := 0
  perDiemMinor := 0
  overheadMinor := 0
  totalCostMinor := 100
  netMarginMinor := 199900
  walkAwayFeeMinor := 100

/-- It cost a million. -/
def ruinousTrip : SettledShowCost where
  transportMinor := 100000000
  accommodationMinor := 0
  perDiemMinor := 0
  overheadMinor := 0
  otherMinor := 0
  feeReceivedMinor := 200000

/-- A total that is out too far to be written down reads as calibrated. -/
theorem ruinous_trip_reads_calibrated :
    ¬ ∀ (predicted : ShowCost)
        (predictedFeeMinor : I64)
        (settled : SettledShowCost)
        (policy : SettlementPolicy),
      FollowsVariance predicted predictedFeeMinor settled policy := by
  intro follow
  have follows := follow aroundTheCorner 200000 ruinousTrip SettlementPolicy.default
  have unread := follows.tooLarge (by decide) (by decide)
  exact absurd unread (by decide)

end Verdicts

end CrowdRelay
