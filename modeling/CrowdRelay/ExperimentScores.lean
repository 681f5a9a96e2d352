import Mathlib.Data.Prod.Lex
import Mathlib.Tactic.Linarith
import Mathlib.Tactic.FieldSimp
import Mathlib.Tactic.Ring
import CrowdRelay.Experimentation
import CrowdRelay.FlooredRatio
import CrowdRelay.RankedPrefix

namespace CrowdRelay.Experimentation

open MachineInt Ranged Extremes RankedPrefix FlooredRatio

/-!
# What a score says about a variant

A score is the observed metric in basis points, rounded down, and the bonus
for what was observed less.  Without saturation it is within one of the exact
sum, and of two variants the less observed one has the larger bonus.
-/

variable (metric : ExperimentMetric)

/-- What was observed of a variant, exactly. -/
def observedMetric
    (variant : ExperimentVariantSnapshot) : ℚ :=
  match metric with
  | .conversion => variant.conversions.val / variant.exposures.val
  | .revenuePerExposure => variant.valueMinor.val / variant.exposures.val

/-- What all basis points stand for: everybody, or the best ratio. -/
def metricUnit
    (best : ExperimentVariantSnapshot) : ℚ :=
  match metric with
  | .conversion => 1
  | .revenuePerExposure => observedMetric metric best

theorem observed_iff {variant : ExperimentVariantSnapshot} :
    variant.observed = true ↔
      0 < variant.exposures.val ∧
        variant.conversions.val ≤ variant.exposures.val ∧
        0 ≤ variant.valueMinor.val := by
  have zero : (0 : U64).val = 0 := rfl
  have zeroValue : (0 : I64).val = 0 := rfl
  simp [ExperimentVariantSnapshot.observed, lt_iff_val, le_iff_val, zero, zeroValue, and_assoc]

section Values

/-- The largest 128-bit count. -/
def u128Max : Int := 340282366920938463463374607431768211455

theorem val_saturatingMul_u128 (first second : U128) :
    (first.saturatingMul second).val = min u128Max (first.val * second.val) := by
  have nonnegative : 0 ≤ first.val * second.val := Int.mul_nonneg first.lower second.lower
  have ceiling : u128Max = 340282366920938463463374607431768211455 := rfl
  unfold saturatingMul
  rw [val_saturate, ceiling]
  omega

theorem mul_le_u128Max {value count : Int} (valueUpper : value ≤ 18446744073709551615)
    (countLower : 0 ≤ count) (countUpper : count ≤ 18446744073709551615) :
    value * count ≤ u128Max := by
  have first : value * count ≤ 18446744073709551615 * count :=
    mul_le_mul_of_nonneg_right valueUpper countLower
  have ceiling : u128Max = 340282366920938463463374607431768211455 := rfl
  omega

theorem val_inBasisPoints (numerator : U128) {denominator : U128} (positive : 0 < denominator.val) :
    (inBasisPoints numerator denominator).val = min (numerator.val / denominator.val) 10000 := by
  have nonzero : denominator ≠ 0 := by
    intro same
    rw [same] at positive
    have zero : (0 : U128).val = 0 := rfl
    omega
  have nonnegative : 0 ≤ numerator.val / denominator.val :=
    Int.ediv_nonneg numerator.lower positive.le
  unfold inBasisPoints
  rw [if_neg nonzero]
  cases converted : (tryFrom (min (numerator.val / denominator.val) 10000) : Option U16) with
  | none =>
    have outside := not_congr
        (@tryFrom_isSome_iff 0 65535 (min (numerator.val / denominator.val) 10000))
    rw [converted] at outside
    have impossible := outside.mp (by simp)
    omega
  | some points => exact tryFrom_eq_some_iff.mp converted

variable {variant reference : ExperimentVariantSnapshot}

theorem val_ratioBasisPoints (observed : variant.observed = true) :
    (ratioBasisPoints variant.conversions variant.exposures).val =
      variant.conversions.val * 10000 / variant.exposures.val := by
  obtain ⟨seen, within, _⟩ := observed_iff.mp observed
  have lower := variant.conversions.lower
  have upper := variant.conversions.upper
  have ceiling : u128Max = 340282366920938463463374607431768211455 := rfl
  have whole : (10000 : U128).val = 10000 := rfl
  have atMost : variant.conversions.val * 10000 / variant.exposures.val ≤ 10000 := by
    refine Int.ediv_le_of_le_mul seen ?_
    omega
  have exact : min u128Max (variant.conversions.val * 10000) = variant.conversions.val * 10000 :=
    min_eq_right (by omega)
  have counted :
      ((asU128 variant.conversions).saturatingMul 10000).val = variant.conversions.val * 10000 :=
    (val_saturatingMul_u128 _ _).trans exact
  have exposed : (asU128 variant.exposures).val = variant.exposures.val := rfl
  unfold ratioBasisPoints
  rw [val_inBasisPoints _ seen, counted, exposed, min_eq_left atMost]

theorem tryFrom_u128 {value : I64} (nonnegative : 0 ≤ value.val) :
    ∃ converted : U128, tryFrom value.val = some converted ∧ converted.val = value.val := by
  have upper := value.upper
  exact ⟨⟨value.val, nonnegative, by omega⟩, tryFrom_eq_some_iff.mpr rfl, rfl⟩

theorem val_revenueBasisPoints (observed : variant.observed = true)
    (positive : 0 < reference.valueMinor.val) :
    (revenueBasisPoints variant reference).val = min
        (min u128Max (variant.valueMinor.val * reference.exposures.val * 10000) /
          (variant.exposures.val * reference.valueMinor.val))
        10000 := by
  obtain ⟨seen, _, nonnegative⟩ := observed_iff.mp observed
  obtain ⟨value, isValue, valueVal⟩ := tryFrom_u128 nonnegative
  obtain ⟨referenceValue, isReference, referenceVal⟩ := tryFrom_u128 positive.le
  have valueUpper := variant.valueMinor.upper
  have referenceUpper := reference.valueMinor.upper
  have whole : (10000 : U128).val = 10000 := rfl
  have crossed :
      (value.saturatingMul (asU128 reference.exposures)).val =
        variant.valueMinor.val * reference.exposures.val := by
    rw [val_saturatingMul_u128, valueVal]
    exact min_eq_right
        (mul_le_u128Max (by omega) reference.exposures.lower reference.exposures.upper)
  have divisor :
      ((asU128 variant.exposures).saturatingMul referenceValue).val =
        variant.exposures.val * reference.valueMinor.val := by
    rw [val_saturatingMul_u128, referenceVal]
    exact min_eq_right (mul_le_u128Max variant.exposures.upper positive.le (by omega))
  have nonzero : referenceValue ≠ 0 := by
    intro same
    rw [← referenceVal, same] at positive
    have zero : (0 : U128).val = 0 := rfl
    omega
  unfold revenueBasisPoints
  rw [isValue, isReference]
  dsimp only
  rw [if_neg nonzero, val_inBasisPoints _ (by
    rw [divisor]
    exact Int.mul_pos seen positive), divisor, val_saturatingMul_u128, crossed,
    whole]

theorem revenueBasisPoints_eq_zero (worthless : reference.valueMinor.val = 0) :
    revenueBasisPoints variant reference = 0 := by
  obtain ⟨referenceValue, isReference, referenceVal⟩ := tryFrom_u128 worthless.ge
  have none : referenceValue = 0 := by
    rw [eq_iff_val, referenceVal, worthless]
    rfl
  unfold revenueBasisPoints
  rw [isReference, none]
  split <;> simp_all

end Values

variable {metric : ExperimentMetric}

section Parts

variable {worse better : ExperimentVariantSnapshot}

/-- A variant with a smaller metric and at least the exposures performs no
better, saturation included. -/
theorem performance_le (reference : Option ExperimentVariantSnapshot)
    (referenceObserved : ∀ variant, reference = some variant → variant.observed = true)
    (worseObserved : worse.observed = true) (betterObserved : better.observed = true)
    (smaller : observedMetric metric worse ≤ observedMetric metric better)
    (exposed : better.exposures.val ≤ worse.exposures.val) :
    (performanceBasisPoints metric worse reference).val ≤
      (performanceBasisPoints metric better reference).val := by
  obtain ⟨worseSeen, _, _⟩ := observed_iff.mp worseObserved
  obtain ⟨betterSeen, _, _⟩ := observed_iff.mp betterObserved
  cases metric with
  | conversion =>
    have cross := (ratio_le_iff_cross worseSeen betterSeen).mp smaller
    unfold performanceBasisPoints
    rw [val_ratioBasisPoints worseObserved, val_ratioBasisPoints betterObserved]
    exact ediv_le_ediv_of_cross worseSeen betterSeen (by linarith)
  | revenuePerExposure =>
    cases reference with
    | none => exact le_rfl
    | some variant =>
      obtain ⟨seen, _, nonnegative⟩ := observed_iff.mp (referenceObserved variant rfl)
      unfold performanceBasisPoints
      dsimp only
      rcases nonnegative.eq_or_lt with worthless | positive
      · rw [revenueBasisPoints_eq_zero worthless.symm, revenueBasisPoints_eq_zero worthless.symm]
      · have cross := (ratio_le_iff_cross worseSeen betterSeen).mp smaller
        have scaled :
            worse.valueMinor.val * variant.exposures.val * 10000 * better.exposures.val ≤
              better.valueMinor.val * variant.exposures.val * 10000 *
                worse.exposures.val := by
          have multiplied := mul_le_mul_of_nonneg_right cross
              (Int.mul_pos seen (by decide : (0 : Int) < 10000)).le
          linarith
        have capped := capped_cross betterSeen exposed (by decide : (0 : Int) ≤ u128Max) scaled
        rw [val_revenueBasisPoints worseObserved positive,
          val_revenueBasisPoints betterObserved positive]
        refine min_le_min_right _ (ediv_le_ediv_of_cross (Int.mul_pos worseSeen positive)
          (Int.mul_pos betterSeen positive) ?_)
        rw [← mul_assoc, ← mul_assoc]
        exact mul_le_mul_of_nonneg_right capped positive.le

theorem val_explorationBonus {exposures most : U64} (positive : 0 < most.val)
    (within : exposures.val ≤ most.val) :
    (explorationBonusBasisPoints exposures most).val =
      (most.val - exposures.val) * 1000 / most.val := by
  have lower := exposures.lower
  have upper := most.upper
  have thousand : (1000 : U128).val = 1000 := rfl
  have cap : (1000 : U32).val = 1000 := rfl
  have nonnegative : 0 ≤ (most.val - exposures.val) * 1000 / most.val :=
    Int.ediv_nonneg (by omega) positive.le
  have atMost : (most.val - exposures.val) * 1000 / most.val ≤ 1000 :=
    Int.ediv_le_of_le_mul positive (by omega)
  unfold explorationBonusBasisPoints
  by_cases none : most = 0 ∨ most ≤ exposures
  · rw [if_pos (by simpa using none)]
    have same : most.val = exposures.val := by
      rcases none with zero | beyond
      · rw [zero] at positive
        have nothing : (0 : U64).val = 0 := rfl
        omega
      · rw [le_iff_val] at beyond
        omega
    rw [same, sub_self, zero_mul, Int.zero_ediv]
    rfl
  · rw [if_neg (by simpa using none)]
    have deficit :
        ((asU128 (most.saturatingSub exposures)).saturatingMul 1000).val =
          (most.val - exposures.val) * 1000 := by
      have counted : (asU128 (most.saturatingSub exposures)).val = most.val - exposures.val := by
        have exact : (most.saturatingSub exposures).val = _ := val_saturatingSub most exposures
        refine exact.trans ?_
        omega
      have ceiling : u128Max = 340282366920938463463374607431768211455 := rfl
      rw [val_saturatingMul_u128, counted, thousand]
      omega
    dsimp only
    rw [deficit]
    cases converted : (tryFrom ((most.val - exposures.val) * 1000 / most.val) : Option U32) with
    | none =>
      have outside := not_congr
          (@tryFrom_isSome_iff 0 4294967295 ((most.val - exposures.val) * 1000 / most.val))
      rw [converted] at outside
      have impossible := outside.mp (by simp)
      omega
    | some points =>
      have same := tryFrom_eq_some_iff.mp converted
      rw [Option.getD_some, val_min, cap, same]
      omega

end Parts

variable {active : List ExperimentVariantSnapshot}

section Scored

variable {variant worse better : ExperimentVariantSnapshot}

theorem le_maximumExposures (member : variant ∈ active) :
    variant.exposures.val ≤ (maximumExposures active).val := by
  unfold maximumExposures
  cases most : maxByKey ExperimentVariantSnapshot.exposures active with
  | none =>
    rw [maxBy_eq_none_iff.mp most] at member
    cases member
  | some best => exact le_iff_val.mp (le_maxByKey most variant member)

theorem revenueReference_mem (referred : revenueReference metric active = some variant) :
    variant ∈ active := by
  cases metric with
  | conversion => cases referred
  | revenuePerExposure => exact maxBy_mem referred

theorem val_scoreOf (observed : variant.observed = true) (member : variant ∈ active) :
    (scoreOf metric active variant).val =
      (performanceBasisPoints metric variant (revenueReference metric active)).val +
        ((maximumExposures active).val - variant.exposures.val) * 1000 /
          (maximumExposures active).val := by
  obtain ⟨seen, _, _⟩ := observed_iff.mp observed
  have most := le_maximumExposures member
  have performance := (performanceBasisPoints metric variant (revenueReference metric active)).lower
  have performanceUpper := (performanceBasisPoints metric variant
      (revenueReference metric active)).upper
  have bonus := val_explorationBonus (by omega) most
  have bonusNonneg :
      0 ≤ ((maximumExposures active).val - variant.exposures.val) * 1000 /
          (maximumExposures active).val :=
    Int.ediv_nonneg (by omega) (by omega)
  have bonusUpper :
      ((maximumExposures active).val - variant.exposures.val) * 1000 /
          (maximumExposures active).val ≤ 1000 :=
    Int.ediv_le_of_le_mul (by omega) (by omega)
  unfold scoreOf
  dsimp only
  rw [val_saturatingAdd, val_saturate, bonus]
  omega

theorem scoreOf_le (allObserved : ∀ one ∈ active, one.observed = true)
    (worseMember : worse ∈ active) (betterMember : better ∈ active)
    (smaller : observedMetric metric worse ≤ observedMetric metric better)
    (exposed : better.exposures.val ≤ worse.exposures.val) :
    scoreOf metric active worse ≤ scoreOf metric active better := by
  have worseObserved := allObserved worse worseMember
  have betterObserved := allObserved better betterMember
  obtain ⟨worseSeen, _, _⟩ := observed_iff.mp worseObserved
  have most := le_maximumExposures worseMember
  have performance := performance_le (revenueReference metric active)
      (fun one referred => allObserved one (revenueReference_mem referred))
      worseObserved betterObserved smaller exposed
  have bonus :
      ((maximumExposures active).val - worse.exposures.val) * 1000 / (maximumExposures active).val ≤
        ((maximumExposures active).val - better.exposures.val) * 1000 /
          (maximumExposures active).val :=
    Int.ediv_le_ediv (by omega) (by omega)
  rw [le_iff_val, val_scoreOf worseObserved worseMember, val_scoreOf betterObserved betterMember]
  exact add_le_add performance bonus

end Scored

variable {snapshot : ExperimentSnapshot} {policy : ExperimentPolicy} {winnerScore : U32}
  {others : List (ExperimentVariantSnapshot × U32)}

section Ranking

variable {left right : ExperimentVariantSnapshot × U32}

def rankKey (scored : ExperimentVariantSnapshot × U32) : ℤ ×ₗ ℤ ×ₗ ℕ :=
  toLex (-scored.2.val, toLex (-scored.1.exposures.val, scored.1.variantId.toNat))

theorem isLE_compareScored_iff :
    (compareScored left right).isLE = true ↔ rankKey left ≤ rankKey right := by
  unfold compareScored rankKey
  rw [Ordering.isLE_then_iff_or, Ordering.then_eq_eq, Ordering.then_eq_lt,
    isLE_compare_uuid_iff, Prod.Lex.toLex_le_toLex, Prod.Lex.toLex_le_toLex]
  simp only [compare_lt_iff_lt, compare_eq_iff_eq, lt_iff_val, eq_iff_val, neg_lt_neg_iff, neg_inj]
  constructor
  · rintro ((higher | ⟨same, more⟩) | ⟨⟨same, equal⟩, smaller⟩)
    · exact .inl higher
    · exact .inr ⟨same.symm, .inl more⟩
    · exact .inr ⟨same.symm, .inr ⟨equal.symm, smaller⟩⟩
  · rintro (higher | ⟨same, more | ⟨equal, smaller⟩⟩)
    · exact .inl (.inl higher)
    · exact .inl (.inr ⟨same.symm, more⟩)
    · exact .inr ⟨⟨same.symm, equal.symm⟩, smaller⟩

theorem rankVariants_ranked (distinct : (active.map ExperimentVariantSnapshot.variantId).Nodup) :
    Ranked rankKey (rankVariants metric active) := by
  have byKey (left right : ExperimentVariantSnapshot × U32) :
      (compareScored left right).isLE = true ↔ rankKey left ≤ rankKey right :=
    isLE_compareScored_iff
  refine ranked_insertionSort byKey ?_
  rw [List.map_map]
  rw [List.Nodup, List.pairwise_map] at distinct ⊢
  refine distinct.imp ?_
  intro left right apart same
  have later := (Prod.ext_iff.mp (toLex.injective same)).2
  have sameId := (Prod.ext_iff.mp (toLex.injective later)).2
  exact apart (BitVec.eq_of_toNat_eq sameId)

theorem score_le_of_rankKey_lt (before : rankKey left < rankKey right) : right.2 ≤ left.2 := by
  rw [le_iff_val]
  rcases (Prod.Lex.toLex_lt_toLex.mp before) with higher | ⟨same, _⟩
  · have ordered : -left.2.val < -right.2.val := higher
    omega
  · have equal : -left.2.val = -right.2.val := same
    omega

theorem lt_of_margin {winner runner : U32} (positive : 0 < scoreMarginBasisPoints winner runner) :
    runner < winner := by
  by_contra behind
  have none : scoreMarginBasisPoints winner runner = 0 := by
    unfold scoreMarginBasisPoints
    rw [if_pos (by simp [not_lt.mp behind])]
  rw [none] at positive
  exact lt_irrefl _ positive

variable {winner other : ExperimentVariantSnapshot}

/-- Under a positive margin the declared winner has the one best score. -/
theorem Declared.leads (declared : Declared snapshot policy winner winnerScore others)
    (margin : 0 < policy.winnerMarginBasisPoints)
    (distinct : (snapshot.activeVariants.map ExperimentVariantSnapshot.variantId).Nodup)
    (member : other ∈ snapshot.activeVariants) (apart : other ≠ winner) :
    scoreOf snapshot.metric snapshot.activeVariants other <
      scoreOf snapshot.metric snapshot.activeVariants winner := by
  have ranked := @rankVariants_ranked snapshot.metric _ distinct
  have ahead := lt_of_margin (lt_of_lt_of_le margin declared.margin)
  have winnerListed :
      (winner, winnerScore) ∈ rankVariants snapshot.metric snapshot.activeVariants := by
    rw [declared.ranked]
    exact List.mem_cons_self
  have listed :
      (other, scoreOf snapshot.metric snapshot.activeVariants other) ∈
        rankVariants snapshot.metric snapshot.activeVariants :=
    mem_rankVariants.mpr ⟨member, rfl⟩
  rw [(mem_rankVariants.mp winnerListed).2]
  rw [declared.ranked] at ranked listed
  have behind := (List.mem_cons.mp listed).resolve_left fun same =>
      apart (congrArg Prod.fst same)
  cases others with
  | nil => cases behind
  | cons runner rest =>
    refine lt_of_le_of_lt ?_ ahead
    rcases List.mem_cons.mp behind with isRunner | inRest
    · exact (congrArg Prod.snd isRunner).le
    · have tail := (List.pairwise_cons.mp ranked).2
      exact score_le_of_rankKey_lt ((List.pairwise_cons.mp tail).1 _ inRest)

end Ranking

/-!
## Who is declared the winner

The declared winner has a better metric than every variant that was observed
no more than it; one that was observed more it may trail, by less than what
its bonus is larger.
-/

/-! ## The reference -/

section Reference

variable {left right reference : ExperimentVariantSnapshot}

/-- Revenue per exposure, exactly; of equals the smaller id. -/
def compareRatio (left right : ExperimentVariantSnapshot) : Ordering :=
  (compare (observedMetric .revenuePerExposure left)
      (observedMetric .revenuePerExposure right)).then
    (compare right.variantId left.variantId)

instance transCmpRatio : Std.TransCmp compareRatio :=
  inferInstanceAs
    (Std.TransCmp
      (compareLex (compareOn (observedMetric .revenuePerExposure))
        fun left right =>
          compareOn ExperimentVariantSnapshot.variantId right left))

theorem compare_congr {First Second : Type} [LinearOrder First] [LinearOrder Second]
    {one other : First} {same another : Second} (less : one < other ↔ same < another)
    (equal : one = other ↔ same = another) :
    compare one other = compare same another := by
  rcases lt_trichotomy one other with below | level | above
  · rw [compare_lt_iff_lt.mpr below, compare_lt_iff_lt.mpr (less.mp below)]
  · rw [compare_eq_iff_eq.mpr level, compare_eq_iff_eq.mpr (equal.mp level)]
  · have beyond : another < same := by
      refine lt_of_le_of_ne (not_lt.mp fun reversed => ?_) fun level => ?_
      · exact lt_asymm above (less.mpr reversed)
      · exact above.ne' (equal.mpr level.symm)
    rw [compare_gt_iff_gt.mpr above, compare_gt_iff_gt.mpr beyond]

/-- On sensible counters the cross products compare the ratios. -/
theorem compareRevenue_eq (leftObserved : left.observed = true)
    (rightObserved : right.observed = true) :
    compareRevenue left right = compareRatio left right := by
  obtain ⟨leftSeen, _, leftNonneg⟩ := observed_iff.mp leftObserved
  obtain ⟨rightSeen, _, rightNonneg⟩ := observed_iff.mp rightObserved
  obtain ⟨leftValue, isLeft, leftVal⟩ := tryFrom_u128 leftNonneg
  obtain ⟨rightValue, isRight, rightVal⟩ := tryFrom_u128 rightNonneg
  have leftUpper := left.valueMinor.upper
  have rightUpper := right.valueMinor.upper
  have leftCross :
      (leftValue.saturatingMul (asU128 right.exposures)).val =
        left.valueMinor.val * right.exposures.val := by
    rw [val_saturatingMul_u128, leftVal]
    exact min_eq_right (mul_le_u128Max (by omega) right.exposures.lower right.exposures.upper)
  have rightCross :
      (rightValue.saturatingMul (asU128 left.exposures)).val =
        right.valueMinor.val * left.exposures.val := by
    rw [val_saturatingMul_u128, rightVal]
    exact min_eq_right (mul_le_u128Max (by omega) left.exposures.lower left.exposures.upper)
  unfold compareRevenue compareRatio
  rw [isLeft, isRight]
  dsimp only [Option.getD_some]
  congr 1
  refine compare_congr ?_ ?_
  · rw [lt_iff_val, leftCross, rightCross]
    exact (ratio_lt_iff_cross leftSeen rightSeen).symm
  · rw [eq_iff_val, leftCross, rightCross]
    exact (ratio_eq_iff_cross leftSeen rightSeen).symm

theorem bestRevenueVariant_eq (allObserved : ∀ variant ∈ active, variant.observed = true) :
    bestRevenueVariant active = maxBy compareRatio active := by
  have same := @maxBy_map _ compareRatio _ compareRevenue id active
      fun one oneMember other otherMember =>
        compareRevenue_eq (allObserved one oneMember) (allObserved other otherMember)
  rw [List.map_id, Option.map_id] at same
  exact same

theorem le_bestRevenueVariant (allObserved : ∀ variant ∈ active, variant.observed = true)
    (best : bestRevenueVariant active = some reference) (member : left ∈ active) :
    observedMetric .revenuePerExposure left ≤ observedMetric .revenuePerExposure reference := by
  rw [bestRevenueVariant_eq allObserved] at best
  have below := isLE_maxBy best left member
  unfold compareRatio at below
  rw [Ordering.isLE_then_iff_or, compare_lt_iff_lt, compare_eq_iff_eq] at below
  rcases below with less | ⟨same, _⟩
  · exact less.le
  · exact same.le

end Reference

/-! ## The bonus -/

section Bonus

variable {best variant : ExperimentVariantSnapshot}

/-- No product of a value that a score is computed from saturates. -/
def Unsaturated (metric : ExperimentMetric)
    (active : List ExperimentVariantSnapshot) : Prop :=
  ∀ reference, revenueReference metric active = some reference →
    ∀ variant ∈ active, variant.valueMinor.val * reference.exposures.val * 10000 ≤ u128Max

/-- The metric in basis points of its unit, exactly. -/
def exactPerformance (metric : ExperimentMetric)
    (best variant : ExperimentVariantSnapshot) : ℚ :=
  10000 * observedMetric metric variant / metricUnit metric best

theorem conversionPoints_bounds (observed : variant.observed = true) :
    ((ratioBasisPoints variant.conversions variant.exposures).val : ℚ) ≤
        exactPerformance .conversion best variant ∧
      exactPerformance .conversion best variant <
        (ratioBasisPoints variant.conversions variant.exposures).val + 1 := by
  obtain ⟨seen, _, _⟩ := observed_iff.mp observed
  have exact :
      exactPerformance .conversion best variant = ((variant.conversions.val * 10000 : Int) : ℚ) /
          variant.exposures.val := by
    simp only [exactPerformance, observedMetric, metricUnit]
    push_cast
    ring
  rw [val_ratioBasisPoints observed, exact]
  exact ⟨ediv_le_ratio seen, ratio_lt_ediv_add_one seen⟩

/-- The points of a variant beside a reference that is as good as the best. -/
theorem revenuePoints_bounds {reference : ExperimentVariantSnapshot}
    (observed : variant.observed = true) (referenceObserved : reference.observed = true)
    (unit : observedMetric .revenuePerExposure best = observedMetric .revenuePerExposure reference)
    (below :
      observedMetric .revenuePerExposure variant ≤ observedMetric .revenuePerExposure reference)
    (exactProduct : variant.valueMinor.val * reference.exposures.val * 10000 ≤ u128Max) :
    ((revenueBasisPoints variant reference).val : ℚ) ≤
        exactPerformance .revenuePerExposure best variant ∧
      exactPerformance .revenuePerExposure best variant <
        (revenueBasisPoints variant reference).val + 1 := by
  obtain ⟨seen, _, _⟩ := observed_iff.mp observed
  obtain ⟨referenceSeen, _, referenceNonneg⟩ := observed_iff.mp referenceObserved
  unfold exactPerformance metricUnit
  rw [unit]
  rcases referenceNonneg.eq_or_lt with worthless | positive
  · have nothing : observedMetric .revenuePerExposure reference = 0 := by
      simp [observedMetric, ← worthless]
    have zero : (0 : U16).val = 0 := rfl
    rw [revenueBasisPoints_eq_zero worthless.symm, nothing, div_zero, zero]
    norm_num
  · have cross := (ratio_le_iff_cross seen referenceSeen).mp below
    have divisor := Int.mul_pos seen positive
    have atMost :
        variant.valueMinor.val * reference.exposures.val * 10000 /
            (variant.exposures.val * reference.valueMinor.val) ≤
          10000 :=
      Int.ediv_le_of_le_mul divisor (by linarith)
    have floored := val_revenueBasisPoints observed positive
    rw [min_eq_right exactProduct, min_eq_left atMost] at floored
    have exact :
        10000 * observedMetric .revenuePerExposure variant /
            observedMetric .revenuePerExposure reference =
          ((variant.valueMinor.val * reference.exposures.val * 10000 : Int) : ℚ) /
            ((variant.exposures.val * reference.valueMinor.val : Int) : ℚ) := by
      have seenCast : (variant.exposures.val : ℚ) ≠ 0 := Int.cast_ne_zero.mpr seen.ne'
      have referenceCast : (reference.exposures.val : ℚ) ≠ 0 :=
        Int.cast_ne_zero.mpr referenceSeen.ne'
      have valueCast : (reference.valueMinor.val : ℚ) ≠ 0 := Int.cast_ne_zero.mpr positive.ne'
      unfold observedMetric
      push_cast
      field_simp
    rw [floored, exact]
    exact ⟨ediv_le_ratio divisor, ratio_lt_ediv_add_one divisor⟩

/-- The performance is the exact one rounded down. -/
theorem performance_bounds (allObserved : ∀ one ∈ active, one.observed = true)
    (unsaturated : Unsaturated metric active) (bestMember : best ∈ active)
    (isBest : ∀ one ∈ active, observedMetric metric one ≤ observedMetric metric best)
    (member : variant ∈ active) :
    ((performanceBasisPoints metric variant (revenueReference metric active)).val : ℚ) ≤
        exactPerformance metric best variant ∧
      exactPerformance metric best variant <
        (performanceBasisPoints metric variant (revenueReference metric active)).val + 1 := by
  have observed := allObserved variant member
  cases metric with
  | conversion => exact conversionPoints_bounds observed
  | revenuePerExposure =>
    cases referred : revenueReference .revenuePerExposure active with
    | none =>
      have empty := maxBy_eq_none_iff.mp referred
      rw [empty] at member
      cases member
    | some reference =>
      have referenceMember := revenueReference_mem referred
      have unit :
          observedMetric .revenuePerExposure best = observedMetric .revenuePerExposure reference :=
        le_antisymm (le_bestRevenueVariant allObserved referred bestMember)
          (isBest reference referenceMember)
      exact revenuePoints_bounds observed (allObserved reference referenceMember) unit
          (le_bestRevenueVariant allObserved referred member)
          (unsaturated reference referred variant member)

end Bonus

/-! ## The lead -/

section Lead

variable {winner other best : ExperimentVariantSnapshot}
  (declared : Declared snapshot policy winner winnerScore others)
  (margin : 0 < policy.winnerMarginBasisPoints)
  (distinct : (snapshot.activeVariants.map ExperimentVariantSnapshot.variantId).Nodup)
  (member : other ∈ snapshot.activeVariants) (apart : other ≠ winner)

/-- What a variant gets for being observed less than the most observed one. -/
def explorationBonus (active : List ExperimentVariantSnapshot)
    (variant : ExperimentVariantSnapshot) : Int :=
  (explorationBonusBasisPoints variant.exposures (maximumExposures active)).val

theorem explorationBonus_eq {active : List ExperimentVariantSnapshot}
    {variant : ExperimentVariantSnapshot} (observed : variant.observed = true)
    (listed : variant ∈ active) :
    explorationBonus active variant =
      ((maximumExposures active).val - variant.exposures.val) * 1000 /
        (maximumExposures active).val := by
  have seen := (observed_iff.mp observed).1
  have most := le_maximumExposures listed
  exact val_explorationBonus (by omega) most

include declared margin distinct member apart in
theorem Declared.better (exposed : other.exposures ≤ winner.exposures) :
    observedMetric snapshot.metric other < observedMetric snapshot.metric winner := by
  have ahead := declared.leads margin distinct member apart
  by_contra behind
  have scores := scoreOf_le (validExperiment_iff.mp declared.valid).2.2.2
      declared.winner_mem member (not_lt.mp behind)
      (le_iff_val.mp exposed)
  exact not_lt_of_ge scores ahead

include declared margin distinct member apart in
theorem Declared.better_with_bonus
    (unsaturated : Unsaturated snapshot.metric snapshot.activeVariants)
    (bestMember : best ∈ snapshot.activeVariants)
    (isBest :
      ∀ one ∈ snapshot.activeVariants,
        observedMetric snapshot.metric one ≤ observedMetric snapshot.metric best) :
    exactPerformance snapshot.metric best other + explorationBonus snapshot.activeVariants other <
      exactPerformance snapshot.metric best winner +
        explorationBonus snapshot.activeVariants winner := by
  have allObserved := (validExperiment_iff.mp declared.valid).2.2.2
  have ahead := declared.leads margin distinct member apart
  have above := (performance_bounds allObserved unsaturated bestMember isBest member).2
  have below := (performance_bounds allObserved unsaturated bestMember isBest declared.winner_mem).1
  rw [lt_iff_val, val_scoreOf (allObserved other member) member,
    val_scoreOf (allObserved winner declared.winner_mem) declared.winner_mem,
    ← explorationBonus_eq (allObserved other member) member,
    ← explorationBonus_eq (allObserved winner declared.winner_mem) declared.winner_mem] at ahead
  have scores := Int.add_one_le_of_lt ahead
  rw [← @Int.cast_le ℚ] at scores
  push_cast at scores
  linarith

end Lead

end CrowdRelay.Experimentation
