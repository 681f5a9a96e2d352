import Mathlib.Tactic.LinearCombination
import CrowdRelay.ExperimentAdjustments
import CrowdRelay.ExperimentScores

namespace CrowdRelay.Experimentation

open MachineInt Ranged Extremes RankedPrefix FlooredRatio ExperimentSnapshot

/-!
# What a verdict depends on

Neither the order of the variants nor the scale of their values has a part in
who wins and in what comes of it.
-/

/-! ## What the verdict depends on -/

inductive DecisionKind where
  | hold (reason : ExperimentHoldReason)
  | reallocate
  | complete
  deriving Repr, DecidableEq

def ExperimentDecision.kind : ExperimentDecision → DecisionKind
  | hold reason => .hold reason
  | reallocate _ _ _ => .reallocate
  | complete _ _ => .complete

/-- Two decisions of one kind that name the same winner, or none. -/
structure SameVerdict (first second : ExperimentDecision) : Prop where
  winner : first.winner? = second.winner?
  kind : first.kind = second.kind

theorem SameVerdict.rfl {decision : ExperimentDecision} : SameVerdict decision decision :=
  { winner := Eq.refl _
    kind := Eq.refl _ }

theorem decideLead_sameVerdict (active others : List ExperimentVariantSnapshot)
    (policy : ExperimentPolicy) (samples : U64) (winner : Uuid) (margin : U16) :
    SameVerdict (decideLead active policy samples winner margin)
      (decideLead others policy samples winner margin) := by
  unfold decideLead
  split
  · exact .rfl
  · dsimp only
    split
    · exact .rfl
    · exact { winner := rfl, kind := rfl }

/-- What is left of a ranking when only ids and scores are kept. -/
def standings
    (ranked : List (ExperimentVariantSnapshot × U32)) : List (Uuid × U32) :=
  ranked.map fun scored => (scored.1.variantId, scored.2)

theorem runnerScore_eq_of_standings {winnerScore : U32}
    {first second : List (ExperimentVariantSnapshot × U32)}
    (same : standings first = standings second) :
    runnerScore winnerScore first = runnerScore winnerScore second := by
  cases first with
  | nil => rw [List.map_eq_nil_iff.mp same.symm]
  | cons one rest =>
    cases second with
    | nil => cases same
    | cons other others =>
      have sameHead : (one.1.variantId, one.2) = (other.1.variantId, other.2) :=
        (List.cons.inj same).1
      exact (Prod.mk.inj sameHead).2

variable {first second : ExperimentSnapshot}

/-- Experiments that look alike in their validity, their samples and their
standings get the same verdict. -/
theorem evaluateExperiment_sameVerdict (policy : ExperimentPolicy)
    (running : first.running = second.running)
    (valid :
      validExperiment first.version first.activeVariants =
        validExperiment second.version second.activeVariants)
    (exposures :
      ∀ floor : U64,
        first.activeVariants.any (fun variant => variant.exposures < floor) =
          second.activeVariants.any fun variant => variant.exposures < floor)
    (samples : totalSamples first.activeVariants = totalSamples second.activeVariants)
    (ranked :
      validExperiment first.version first.activeVariants = true →
        standings (rankVariants first.metric first.activeVariants) =
          standings (rankVariants second.metric second.activeVariants)) :
    SameVerdict (evaluateExperiment first policy) (evaluateExperiment second policy) := by
  unfold evaluateExperiment
  dsimp only
  rw [← running, ← valid, ← exposures, ← samples]
  split
  · exact .rfl
  · split
    · exact .rfl
    · split
      · exact .rfl
      next accepted =>
        split
        · exact .rfl
        · have alike := ranked (by simpa using accepted)
          cases counted : totalSamples first.activeVariants with
          | none => exact .rfl
          | some count =>
            cases firstRanked : rankVariants first.metric first.activeVariants with
            | nil =>
              rw [firstRanked] at alike
              rw [List.map_eq_nil_iff.mp alike.symm]
              exact .rfl
            | cons winner others =>
              cases secondRanked : rankVariants second.metric second.activeVariants with
              | nil =>
                rw [firstRanked, secondRanked] at alike
                cases alike
              | cons another rest =>
                rw [firstRanked, secondRanked] at alike
                obtain ⟨sameFirst, sameRest⟩ := List.cons.inj alike
                have sameId := congrArg Prod.fst sameFirst
                have sameScore := congrArg Prod.snd sameFirst
                dsimp only at sameId sameScore ⊢
                rw [sameId, sameScore, runnerScore_eq_of_standings sameRest]
                exact decideLead_sameVerdict ..

/-! ## The order of the variants -/

variable {active : List ExperimentVariantSnapshot}

theorem totalSamples_eq :
    totalSamples active = tryFrom (active.map fun variant => variant.exposures.val).sum := by
  have counted :
      ∀ start : U64,
        active.foldlM (fun total variant => total.checkedAdd variant.exposures) start =
          (tryFrom (start.val + (active.map fun variant => variant.exposures.val).sum) :
            Option U64) := by
    induction active with
    | nil =>
      intro start
      rw [List.map_nil, List.sum_nil, add_zero]
      exact (tryFrom_eq_some_iff.mpr rfl).symm
    | cons variant rest inductionHypothesis =>
      intro start
      have lower := start.lower
      have variantLower := variant.exposures.lower
      have restLower : 0 ≤ (rest.map fun other => other.exposures.val).sum := by
        refine List.sum_nonneg ?_
        intro exposures listed
        obtain ⟨other, _, rfl⟩ := List.mem_map.mp listed
        exact other.exposures.lower
      rw [List.foldlM_cons, List.map_cons, List.sum_cons]
      cases added : start.checkedAdd variant.exposures with
      | none =>
        have outside := not_congr
            (@tryFrom_isSome_iff 0 18446744073709551615 (start.val + variant.exposures.val))
        unfold checkedAdd at added
        rw [added] at outside
        have beyond := outside.mp (by simp)
        have refused :
            ¬ (tryFrom
                (start.val +
                  (variant.exposures.val + (rest.map fun other => other.exposures.val).sum)) :
                Option U64).isSome := by
          rw [tryFrom_isSome_iff]
          omega
        exact (Option.not_isSome_iff_eq_none.mp refused).symm
      | some next =>
        have exact : next.val = start.val + variant.exposures.val := tryFrom_eq_some_iff.mp added
        rw [← add_assoc, ← exact]
        exact inductionHypothesis next
  have fromZero := counted 0
  have zero : (0 : U64).val = 0 := rfl
  rw [zero, zero_add] at fromZero
  exact fromZero

variable {metric : ExperimentMetric}

section Order

variable {first second : List ExperimentVariantSnapshot} (rearranged : first.Perm second)

include rearranged in
theorem maximumExposures_perm : maximumExposures first = maximumExposures second := by
  have upTo :
      ∀ {one other : List ExperimentVariantSnapshot},
        one.Perm other →
          ∀ {best},
            maxByKey ExperimentVariantSnapshot.exposures one = some best →
              best.exposures.val ≤ (maximumExposures other).val := by
    intro one other same best isBest
    exact le_maximumExposures (same.mem_iff.mp (maxBy_mem isBest))
  cases firstMost : maxByKey ExperimentVariantSnapshot.exposures first with
  | none =>
    rw [maxBy_eq_none_iff.mp firstMost] at rearranged ⊢
    rw [rearranged.symm.eq_nil]
  | some best =>
    cases secondMost : maxByKey ExperimentVariantSnapshot.exposures second with
    | none =>
      rw [maxBy_eq_none_iff.mp secondMost] at rearranged ⊢
      rw [rearranged.eq_nil]
    | some other =>
      have below := upTo rearranged firstMost
      have above := upTo rearranged.symm secondMost
      unfold maximumExposures at below above ⊢
      rw [firstMost] at above ⊢
      rw [secondMost] at below ⊢
      rw [Option.elim_some] at below above
      exact le_antisymm (le_iff_val.mpr below) (le_iff_val.mpr above)

variable (allObserved : ∀ variant ∈ first, variant.observed = true)
  (distinct : (first.map ExperimentVariantSnapshot.variantId).Nodup)

include rearranged allObserved distinct in
theorem revenueReference_perm : revenueReference metric first = revenueReference metric second := by
  cases metric with
  | conversion => rfl
  | revenuePerExposure =>
    have otherObserved : ∀ variant ∈ second, variant.observed = true :=
      fun variant member =>
        allObserved variant (rearranged.mem_iff.mpr member)
    unfold revenueReference
    rw [bestRevenueVariant_eq allObserved, bestRevenueVariant_eq otherObserved]
    refine maxBy_perm rearranged ?_
    intro left leftMember right rightMember same
    unfold compareRatio at same
    rw [Ordering.then_eq_eq] at same
    exact eq_of_variantId_eq distinct leftMember rightMember
        (Std.LawfulEqCmp.eq_of_compare same.2).symm

include rearranged allObserved distinct in
theorem rankVariants_perm : rankVariants metric first = rankVariants metric second := by
  have sameScore :
      (fun variant => (variant, scoreOf metric first variant)) =
        fun variant => (variant, scoreOf metric second variant) := by
    funext variant
    unfold scoreOf
    rw [revenueReference_perm rearranged allObserved distinct, maximumExposures_perm rearranged]
  have otherDistinct := (rearranged.map ExperimentVariantSnapshot.variantId).nodup_iff.mp distinct
  have same : (rankVariants metric first).Perm (rankVariants metric second) := by
    refine (List.perm_insertionSort _ _).trans
      (List.Perm.trans ?_ (List.perm_insertionSort _ _).symm)
    rw [sameScore]
    exact rearranged.map _
  exact Ranked.eq_of_perm same (rankVariants_ranked distinct) (rankVariants_ranked otherDistinct)

include rearranged in
theorem validExperiment_perm (version : I64) :
    validExperiment version first = validExperiment version second := by
  have sameShares : allocated first = allocated second := (rearranged.map _).sum_eq
  rw [Bool.eq_iff_iff, validExperiment_iff, validExperiment_iff, sameShares, rearranged.length_eq]
  simp only [rearranged.mem_iff]

end Order

theorem evaluateExperiment_perm (version : first.version = second.version)
    (metric : first.metric = second.metric) (running : first.running = second.running)
    (rearranged : first.variants.Perm second.variants) (policy : ExperimentPolicy) :
    SameVerdict (evaluateExperiment first policy) (evaluateExperiment second policy) := by
  have active : first.activeVariants.Perm second.activeVariants := rearranged.filter _
  refine evaluateExperiment_sameVerdict policy running ?_ ?_ ?_ ?_
  · rw [version]
    exact validExperiment_perm active _
  · intro floor
    exact active.any_eq
  · rw [totalSamples_eq, totalSamples_eq, (active.map _).sum_eq]
  · intro valid
    rw [metric,
      rankVariants_perm active (validExperiment_iff.mp valid).2.2.2 (activeVariants_distinct first)]

/-! ## The scale of the values -/

section Scale

/-- A variant with another value. -/
def revalued (values : ExperimentVariantSnapshot → I64)
    (variant : ExperimentVariantSnapshot) : ExperimentVariantSnapshot :=
  { variant with valueMinor := values variant }

/-- The values of some variants are multiplied by a factor. -/
def ScaledBy (factor : ℚ) (values : ExperimentVariantSnapshot → I64)
    (variants : List ExperimentVariantSnapshot) : Prop :=
  ∀ variant ∈ variants, ((values variant).val : ℚ) = factor * variant.valueMinor.val

variable {values : ExperimentVariantSnapshot → I64} {factor : ℚ}
  {left right variant reference : ExperimentVariantSnapshot} (positive : 0 < factor)
  (scaled : ScaledBy factor values active)

include positive scaled in
theorem revalued_observed (member : variant ∈ active) :
    (revalued values variant).observed = variant.observed := by
  have sameSign : 0 ≤ (values variant).val ↔ 0 ≤ variant.valueMinor.val := by
    have here := scaled variant member
    rw [← @Int.cast_nonneg_iff ℚ, ← @Int.cast_nonneg_iff ℚ, here]
    exact mul_nonneg_iff_of_pos_left positive
  rw [Bool.eq_iff_iff, observed_iff, observed_iff]
  unfold revalued
  dsimp only
  rw [sameSign]

include scaled in
theorem observedMetric_revalued (member : variant ∈ active) :
    observedMetric .revenuePerExposure (revalued values variant) =
      factor * observedMetric .revenuePerExposure variant := by
  unfold observedMetric revalued
  dsimp only
  rw [scaled variant member, mul_div_assoc]

include positive scaled in
theorem compareRatio_revalued (leftMember : left ∈ active) (rightMember : right ∈ active) :
    compareRatio (revalued values left) (revalued values right) = compareRatio left right := by
  unfold compareRatio
  rw [observedMetric_revalued scaled leftMember, observedMetric_revalued scaled rightMember]
  congr 1
  exact compare_congr (mul_lt_mul_iff_right₀ positive) (mul_right_inj' positive.ne')

variable (allObserved : ∀ variant ∈ active, variant.observed = true)

include positive scaled allObserved in
theorem revaluedAll_observed :
    ∀ variant ∈ active.map (revalued values), variant.observed = true := by
  intro variant member
  obtain ⟨before, listed, rfl⟩ := List.mem_map.mp member
  rw [revalued_observed positive scaled listed]
  exact allObserved before listed

include positive scaled allObserved in
theorem revenueReference_revalued :
    revenueReference metric (active.map (revalued values)) =
      (revenueReference metric active).map (revalued values) := by
  cases metric with
  | conversion => rfl
  | revenuePerExposure =>
    unfold revenueReference
    rw [bestRevenueVariant_eq allObserved,
      bestRevenueVariant_eq (revaluedAll_observed positive scaled allObserved)]
    exact maxBy_map fun one oneMember other otherMember =>
        compareRatio_revalued positive scaled oneMember otherMember

theorem maximumExposures_revalued :
    maximumExposures (active.map (revalued values)) = maximumExposures active := by
  have same :
      maxByKey ExperimentVariantSnapshot.exposures (active.map (revalued values)) =
        (maxByKey ExperimentVariantSnapshot.exposures active).map (revalued values) :=
    maxBy_map fun _ _ _ _ => rfl
  unfold maximumExposures
  rw [same]
  cases maxByKey ExperimentVariantSnapshot.exposures active <;> rfl

include positive scaled in
/-- Two values on one scale divide as they did on the other. -/
theorem revenueBasisPoints_revalued (observed : variant.observed = true)
    (referenceObserved : reference.observed = true) (member : variant ∈ active)
    (referenceMember : reference ∈ active)
    (unsaturated : variant.valueMinor.val * reference.exposures.val * 10000 ≤ u128Max)
    (laterUnsaturated : (values variant).val * reference.exposures.val * 10000 ≤ u128Max) :
    revenueBasisPoints (revalued values variant) (revalued values reference) =
      revenueBasisPoints variant reference := by
  obtain ⟨seen, _, _⟩ := observed_iff.mp observed
  obtain ⟨_, _, nonnegative⟩ := observed_iff.mp referenceObserved
  have variantScaled := scaled variant member
  have referenceScaled := scaled reference referenceMember
  have laterObserved : (revalued values variant).observed = true :=
    (revalued_observed positive scaled member).trans observed
  rcases nonnegative.eq_or_lt with worthless | worth
  · have laterWorthless : (revalued values reference).valueMinor.val = 0 := by
      rw [← worthless, Int.cast_zero, mul_zero] at referenceScaled
      exact Int.cast_eq_zero.mp referenceScaled
    rw [revenueBasisPoints_eq_zero worthless.symm, revenueBasisPoints_eq_zero laterWorthless]
  · have laterWorth : 0 < (revalued values reference).valueMinor.val := by
      have product : (0 : ℚ) < factor * reference.valueMinor.val :=
        mul_pos positive (Int.cast_pos.mpr worth)
      rw [← referenceScaled] at product
      exact Int.cast_pos.mp product
    have cross :
        (values variant).val * reference.valueMinor.val =
          variant.valueMinor.val * (values reference).val := by
      have rational :
          ((values variant).val : ℚ) * reference.valueMinor.val =
            variant.valueMinor.val * (values reference).val := by
        rw [variantScaled, referenceScaled]
        ring
      exact_mod_cast rational
    have quotients :
        (values variant).val * reference.exposures.val * 10000 /
            (variant.exposures.val * (values reference).val) =
          variant.valueMinor.val * reference.exposures.val * 10000 /
            (variant.exposures.val * reference.valueMinor.val) := by
      refine ediv_eq_ediv_of_cross (Int.mul_pos seen laterWorth) (Int.mul_pos seen worth) ?_
      linear_combination reference.exposures.val * 10000 * variant.exposures.val * cross
    rw [eq_iff_val, val_revenueBasisPoints laterObserved laterWorth,
      val_revenueBasisPoints observed worth]
    unfold revalued
    dsimp only
    rw [min_eq_right unsaturated, min_eq_right laterUnsaturated, quotients]

variable (unsaturated : Unsaturated metric active)
  (laterUnsaturated : Unsaturated metric (active.map (revalued values)))

include positive scaled allObserved unsaturated laterUnsaturated in
theorem scoreOf_revalued (member : variant ∈ active) :
    scoreOf metric (active.map (revalued values)) (revalued values variant) =
      scoreOf metric active variant := by
  have performance :
      performanceBasisPoints metric (revalued values variant)
          ((revenueReference metric active).map (revalued values)) =
        performanceBasisPoints metric variant (revenueReference metric active) := by
    cases metric with
    | conversion => rfl
    | revenuePerExposure =>
      cases referred : revenueReference .revenuePerExposure active with
      | none => rfl
      | some reference =>
        have referenceMember := revenueReference_mem referred
        have laterReferred :
            revenueReference .revenuePerExposure (active.map (revalued values)) =
              some (revalued values reference) := by
          rw [revenueReference_revalued positive scaled allObserved, referred]
          rfl
        exact revenueBasisPoints_revalued positive scaled (allObserved variant member)
            (allObserved reference referenceMember) member
            referenceMember
            (unsaturated reference referred variant member)
            (laterUnsaturated _ laterReferred _ (List.mem_map_of_mem member))
  have exposed : (revalued values variant).exposures = variant.exposures := rfl
  unfold scoreOf
  rw [revenueReference_revalued positive scaled allObserved,
    maximumExposures_revalued, performance, exposed]

include positive scaled allObserved unsaturated laterUnsaturated in
theorem standings_revalued :
    standings (rankVariants metric (active.map (revalued values))) =
      standings (rankVariants metric active) := by
  have scored :
      (active.map (revalued values)).map (fun variant =>
          (variant, scoreOf metric (active.map (revalued values)) variant)) =
        (active.map fun variant =>
          (variant, scoreOf metric active variant)).map
          (Prod.map (revalued values) id) := by
    rw [List.map_map, List.map_map]
    refine List.map_congr_left fun variant member => ?_
    exact congrArg (Prod.mk (revalued values variant))
        (scoreOf_revalued positive scaled allObserved unsaturated laterUnsaturated member)
  have ranked :
      rankVariants metric (active.map (revalued values)) =
        (rankVariants metric active).map (Prod.map (revalued values) id) := by
    unfold rankVariants
    rw [scored]
    exact (List.map_insertionSort (fun left right => (compareScored left right).isLE = true)
        (fun left right => (compareScored left right).isLE = true)
        (Prod.map (revalued values) id) _ fun _ _ _ _ => Iff.rfl).symm
  unfold standings
  rw [ranked, List.map_map]
  rfl

end Scale

/-- The verdict does not depend on the scale the values are counted on. -/
theorem evaluateExperiment_revalued (snapshot : ExperimentSnapshot)
    (policy : ExperimentPolicy) {factor : ℚ} (positive : 0 < factor)
    {values : ExperimentVariantSnapshot → I64}
    (scaled : ScaledBy factor values snapshot.activeVariants)
    (unsaturated : Unsaturated snapshot.metric snapshot.activeVariants)
    (laterUnsaturated :
      Unsaturated snapshot.metric (snapshot.activeVariants.map (revalued values))) :
    SameVerdict (evaluateExperiment (snapshot.mapVariants (revalued values) fun _ => rfl) policy)
      (evaluateExperiment snapshot policy) := by
  have active :
      (snapshot.mapVariants (revalued values) fun _ => rfl).activeVariants =
        snapshot.activeVariants.map (revalued values) :=
    activeVariants_mapVariants _ fun _ => rfl
  have shares :
      allocated (snapshot.activeVariants.map (revalued values)) =
        allocated snapshot.activeVariants := by
    unfold allocated
    rw [List.map_map]
    rfl
  have valid :
      validExperiment snapshot.version (snapshot.activeVariants.map (revalued values)) =
        validExperiment snapshot.version snapshot.activeVariants := by
    rw [Bool.eq_iff_iff, validExperiment_iff, validExperiment_iff, shares,
      List.length_map, List.forall_mem_map]
    refine and_congr_right' (and_congr_right' (and_congr_right' ?_))
    refine forall₂_congr fun variant member => ?_
    rw [revalued_observed positive scaled member]
  refine evaluateExperiment_sameVerdict policy rfl ?_ ?_ ?_ ?_
  · rw [active]
    exact valid
  · intro floor
    rw [active, List.any_map]
    rfl
  · rw [active, totalSamples_eq, totalSamples_eq, List.map_map]
    rfl
  · rw [active]
    intro accepted
    have allObserved := (validExperiment_iff.mp (valid.symm.trans accepted)).2.2.2
    exact standings_revalued positive scaled allObserved unsaturated laterUnsaturated

/-! ## Winners -/

/--
The named winner takes part, is better than whatever was observed no more than
it, and is with its bonus better than every other variant with its own.  Who is
named and whether the experiment goes on depends neither on the scale of the
values nor on the order of the variants.
-/
theorem winner_better_up_to_bonus :
    (∀ snapshot policy, 0 < policy.winnerMarginBasisPoints →
      ∀ named, (evaluateExperiment snapshot policy).winner? = some named →
        ∃ winner ∈ snapshot.activeVariants,
          winner.variantId = named ∧
          ∀ other ∈ snapshot.activeVariants, other.variantId ≠ named →
            (other.exposures ≤ winner.exposures →
              observedMetric snapshot.metric other < observedMetric snapshot.metric winner) ∧
            (Unsaturated snapshot.metric snapshot.activeVariants →
              ∀ best ∈ snapshot.activeVariants,
                (∀ one ∈ snapshot.activeVariants,
                  observedMetric snapshot.metric one ≤ observedMetric snapshot.metric best) →
                exactPerformance snapshot.metric best other +
                    explorationBonus snapshot.activeVariants other <
                  exactPerformance snapshot.metric best winner +
                    explorationBonus snapshot.activeVariants winner)) ∧
    (∀ snapshot policy (factor : ℚ), 0 < factor →
      ∀ values,
        ScaledBy factor values snapshot.activeVariants →
        Unsaturated snapshot.metric snapshot.activeVariants →
        Unsaturated snapshot.metric
          (snapshot.activeVariants.map (revalued values)) →
          SameVerdict
            (evaluateExperiment
              (snapshot.mapVariants (revalued values) fun _ => rfl) policy)
            (evaluateExperiment snapshot policy)) ∧
    ∀ first second : ExperimentSnapshot, ∀ policy,
      first.version = second.version → first.metric = second.metric →
        first.running = second.running →
          first.variants.Perm second.variants →
            SameVerdict (evaluateExperiment first policy)
              (evaluateExperiment second policy) := by
  refine ⟨?_, ?_, ?_⟩
  · intro snapshot policy margin named found
    obtain ⟨winner, winnerScore, others, declared, isNamed⟩ := exists_declared_of_winner found
    refine ⟨winner, declared.winner_mem, isNamed, ?_⟩
    intro other member otherId
    have distinct := activeVariants_distinct snapshot
    have apart : other ≠ winner := by
      intro same
      exact otherId (by rw [same, isNamed])
    refine ⟨declared.better margin distinct member apart, ?_⟩
    intro unsaturated best bestMember isBest
    exact declared.better_with_bonus margin distinct member apart unsaturated
        bestMember isBest
  · intro snapshot policy factor positive values scaled unsaturated later
    exact evaluateExperiment_revalued snapshot policy positive scaled unsaturated
        later
  · intro first second policy version metric running rearranged
    exact evaluateExperiment_perm version metric running rearranged policy

/-- An active variant with half of the shares. -/
def halfShare (variantId : Uuid) (exposures conversions : U64)
    (valueMinor : I64) : ExperimentVariantSnapshot where
  variantId := variantId
  exposures := exposures
  conversions := conversions
  valueMinor := valueMinor
  allocationBasisPoints := 5000
  active := true

/-- Two variants with half of the shares each. -/
def pairOf (metric : ExperimentMetric) (one other : ExperimentVariantSnapshot)
    (apart : one.variantId ≠ other.variantId) : ExperimentSnapshot where
  experimentId := 9
  version := 1
  metric := metric
  running := true
  variants := [one, other]
  distinct := by simpa using apart

def sold (values : I64 × I64) : ExperimentSnapshot :=
  pairOf .revenuePerExposure (halfShare 1 100 0 values.1)
    (halfShare 2 100 0 values.2)
    (show (1 : Uuid) ≠ 2 by decide)

/-- Of two equally observed variants the one that sold more is named, also
when both are listed the other way and when both sold twice as much. -/
theorem soldMore_better :
    (∃ winner ∈ (sold (50000, 10000)).activeVariants,
      winner.variantId = 1 ∧
        observedMetric .revenuePerExposure (halfShare 2 100 0 10000) <
          observedMetric .revenuePerExposure winner) ∧
      SameVerdict
        (evaluateExperiment
          ((sold (50000, 10000)).mapVariants
            (revalued fun variant =>
              saturate (2 * variant.valueMinor.val))
            fun _ => rfl)
          .default)
        (evaluateExperiment (sold (50000, 10000)) .default) ∧
      SameVerdict
        (evaluateExperiment (sold (50000, 10000)) .default)
        (evaluateExperiment
          (pairOf .revenuePerExposure (halfShare 2 100 0 10000)
            (halfShare 1 100 0 50000) (by decide))
          .default) := by
  have small :
      ∀ {variants : List ExperimentVariantSnapshot},
        (∀ one ∈ variants, one.valueMinor.val ≤ 100000 ∧
          one.exposures.val ≤ 100) →
          Unsaturated .revenuePerExposure variants := by
    intro variants bounded reference referred variant member
    have value := (bounded variant member).1
    have exposed := (bounded reference (revenueReference_mem referred)).2
    have product :
        variant.valueMinor.val * reference.exposures.val ≤ 100000 * reference.exposures.val :=
      mul_le_mul_of_nonneg_right value reference.exposures.lower
    have ceiling : u128Max = 340282366920938463463374607431768211455 := rfl
    omega
  refine ⟨?_, ?_, ?_⟩
  · obtain ⟨winner, member, isNamed, better⟩ :=
      winner_better_up_to_bonus.1 (sold (50000, 10000)) .default (by decide)
        1 (by decide +kernel)
    have second : halfShare 2 100 0 10000 ∈
        (sold (50000, 10000)).activeVariants := by
      decide
    have level : (halfShare 2 100 0 10000).exposures ≤ winner.exposures := by
      have listed :
          ∀ one ∈ (sold (50000, 10000)).activeVariants,
            (halfShare 2 100 0 10000).exposures ≤ one.exposures := by
        decide
      exact listed winner member
    exact ⟨winner, member, isNamed, (better _ second (by decide)).1 level⟩
  · refine winner_better_up_to_bonus.2.1 _ _ 2 (by norm_num) _ ?_ ?_ ?_
    · have doubled :
          ∀ one ∈ (sold (50000, 10000)).activeVariants,
            (saturate (2 * one.valueMinor.val) : I64).val = 2 * one.valueMinor.val := by
        decide
      intro variant member
      rw [doubled variant member]
      push_cast
      rfl
    · exact small (by decide)
    · exact small (by decide)
  · refine winner_better_up_to_bonus.2.2 _ _ _ rfl rfl rfl ?_
    exact List.Perm.swap _ _ _

/--
A variant that one of thirty took is declared the winner for good over one
that one of twenty took: it was observed less, and its bonus outweighs that.
-/
theorem lessObserved_declaredOverBetter :
    (evaluateExperiment
        (pairOf .conversion (halfShare 1 1000 50 0) (halfShare 2 30 1 0)
          (by decide))
        .default = .complete 2 10000) ∧
      observedMetric .conversion (halfShare 2 30 1 0) <
        observedMetric .conversion (halfShare 1 1000 50 0) := by
  refine ⟨by decide +kernel, ?_⟩
  have first : (50 : U64).val = 50 ∧ (1000 : U64).val = 1000 := by decide
  have second : (1 : U64).val = 1 ∧ (30 : U64).val = 30 := by decide
  unfold observedMetric halfShare
  dsimp only
  rw [first.1, first.2, second.1, second.2]
  norm_num

end CrowdRelay.Experimentation
