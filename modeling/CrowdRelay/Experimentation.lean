import Mathlib.Algebra.Ring.Int.Defs
import Mathlib.Algebra.BigOperators.Group.List.Basic
import Mathlib.Data.List.Sort
import CrowdRelay.Extremes
import CrowdRelay.FanLifecycle

namespace CrowdRelay.Experimentation

open MachineInt Ranged Extremes

/-!
# Deterministic experiment optimisation

Aggregate observations are scored in basis points, with a small bonus for
variants that were observed less.  The best score wins; how far it leads
decides whether traffic is shifted to it or the experiment is completed.
-/

abbrev U128 := Ranged 0 340282366920938463463374607431768211455

instance u128Inhabited : Fact ((0 : Int) ≤ 340282366920938463463374607431768211455) := ⟨by decide⟩

/-- A 64-bit count as a 128-bit one. -/
def asU128 (value : U64) : U128 where
  val := value.val
  lower := value.lower
  upper := by
    have upper := value.upper
    omega

inductive ExperimentMetric where
  | conversion
  | revenuePerExposure
  deriving Repr, DecidableEq

structure ExperimentVariantSnapshot where
  variantId : Uuid
  exposures : U64
  conversions : U64
  valueMinor : I64
  allocationBasisPoints : U16
  active : Bool
  deriving Repr, DecidableEq

/-- What an assignment may look at: no outcome counters. -/
structure ExperimentAllocationSlot where
  variantId : Uuid
  allocationBasisPoints : U16
  active : Bool
  deriving Repr, DecidableEq

/-- The ids of the variants are primary keys of their table. -/
structure ExperimentSnapshot where
  experimentId : Uuid
  version : I64
  metric : ExperimentMetric
  running : Bool
  variants : List ExperimentVariantSnapshot
  distinct : (variants.map ExperimentVariantSnapshot.variantId).Nodup

structure ExperimentPolicy where
  minimumSamplesPerVariant : U64
  maximumAllocationStepBasisPoints : U16
  winnerMarginBasisPoints : U16
  winnerMinimumTotalSamples : U64
  deriving Repr, DecidableEq

def ExperimentPolicy.default : ExperimentPolicy where
  minimumSamplesPerVariant := 30
  maximumAllocationStepBasisPoints := 1000
  winnerMarginBasisPoints := 1000
  winnerMinimumTotalSamples := 200

inductive ExperimentHoldReason where
  | notRunning
  | invalidPolicy
  | invalidExperiment
  | insufficientSamples
  | noMaterialDifference
  deriving Repr, DecidableEq

inductive ExperimentDecision where
  | hold (reason : ExperimentHoldReason)
  | reallocate
      (winner : Uuid)
      (allocations : List (Uuid × U16))
      (confidence : Confidence)
  | complete
      (winner : Uuid)
      (confidence : Confidence)
  deriving Repr, DecidableEq

namespace ExperimentDecision

/-- The variant a decision names as the winner. -/
def winner? : ExperimentDecision → Option Uuid
  | hold _ => none
  | reallocate winner _ _ => some winner
  | complete winner _ => some winner

end ExperimentDecision

namespace ExperimentSnapshot

def activeVariants
    (snapshot : ExperimentSnapshot) : List ExperimentVariantSnapshot :=
  snapshot.variants.filter ExperimentVariantSnapshot.active

end ExperimentSnapshot

def validPolicy (policy : ExperimentPolicy) : Bool :=
  0 < policy.minimumSamplesPerVariant &&
    0 < policy.maximumAllocationStepBasisPoints &&
    policy.maximumAllocationStepBasisPoints ≤ 2500 &&
    policy.winnerMarginBasisPoints ≤ 10000 &&
    0 < policy.winnerMinimumTotalSamples

/-- What the shares of the variants add up to. -/
def allocated (active : List ExperimentVariantSnapshot) : Int :=
  (active.map fun variant => variant.allocationBasisPoints.val).sum

/-- The counters of a variant make sense. -/
def ExperimentVariantSnapshot.observed
    (variant : ExperimentVariantSnapshot) : Bool :=
  0 < variant.exposures &&
    variant.conversions ≤ variant.exposures &&
    0 ≤ variant.valueMinor

def validExperiment (version : I64)
    (active : List ExperimentVariantSnapshot) : Bool :=
  0 < version &&
    2 ≤ active.length &&
    allocated active = 10000 &&
    active.all ExperimentVariantSnapshot.observed

theorem validExperiment_iff {version : I64} {active : List ExperimentVariantSnapshot} :
    validExperiment version active = true ↔
      0 < version ∧ 2 ≤ active.length ∧ allocated active = 10000 ∧
        ∀ variant ∈ active, variant.observed = true := by
  simp [validExperiment, and_assoc]

section Scores

/-- Revenue per exposure by cross products; of equals the smaller id. -/
def compareRevenue (left right : ExperimentVariantSnapshot) : Ordering :=
  let leftValue : U128 := (tryFrom left.valueMinor.val).getD 0
  let rightValue : U128 := (tryFrom right.valueMinor.val).getD 0
  (compare
      (leftValue.saturatingMul (asU128 right.exposures))
      (rightValue.saturatingMul (asU128 left.exposures))).then
    (compare right.variantId left.variantId)

def bestRevenueVariant (active : List ExperimentVariantSnapshot) :
    Option ExperimentVariantSnapshot :=
  maxBy compareRevenue active

def inBasisPoints (numerator denominator : U128) : U16 :=
  if denominator = 0 then 0 else (tryFrom (min (numerator.val / denominator.val) 10000)).getD 10000

def ratioBasisPoints (numerator denominator : U64) : U16 :=
  inBasisPoints ((asU128 numerator).saturatingMul 10000) (asU128 denominator)

/-- Revenue per exposure relative to that of the reference. -/
def revenueBasisPoints (variant reference : ExperimentVariantSnapshot) : U16 :=
  match (tryFrom variant.valueMinor.val : Option U128),
      (tryFrom reference.valueMinor.val : Option U128) with
  | some value, some referenceValue =>
    if referenceValue = 0 then
      0
    else
      inBasisPoints
        ((value.saturatingMul (asU128 reference.exposures)).saturatingMul 10000)
        ((asU128 variant.exposures).saturatingMul referenceValue)
  | _, _ => 0

def performanceBasisPoints (metric : ExperimentMetric) (variant : ExperimentVariantSnapshot)
    (revenueReference : Option ExperimentVariantSnapshot) : U16 :=
  match metric, revenueReference with
  | .conversion, _ => ratioBasisPoints variant.conversions variant.exposures
  | .revenuePerExposure, none => 0
  | .revenuePerExposure, some reference => revenueBasisPoints variant reference

/-- A bonus for what was observed less than the most observed variant. -/
def explorationBonusBasisPoints
    (exposures maximumExposures : U64) : U32 :=
  if maximumExposures = 0 || maximumExposures ≤ exposures then
    0
  else
    let deficit := asU128 (maximumExposures.saturatingSub exposures)
    min
      ((tryFrom ((deficit.saturatingMul 1000).val / maximumExposures.val)).getD 1000)
      1000

/-- How far the first score leads the second, relative to itself. -/
def scoreMarginBasisPoints (winner runner : U32) : U16 :=
  if winner = 0 || winner ≤ runner then
    0
  else
    (tryFrom
        (min ((winner.val - runner.val) * 10000 / winner.val) 10000)).getD
      10000

variable (metric : ExperimentMetric) (active : List ExperimentVariantSnapshot)

def maximumExposures : U64 :=
  (maxByKey ExperimentVariantSnapshot.exposures active).elim 1 ExperimentVariantSnapshot.exposures

def revenueReference : Option ExperimentVariantSnapshot :=
  match metric with
  | .conversion => none
  | .revenuePerExposure => bestRevenueVariant active

def scoreOf (variant : ExperimentVariantSnapshot) : U32 :=
  let performance := performanceBasisPoints metric variant (revenueReference metric active)
  let exploration := explorationBonusBasisPoints variant.exposures (maximumExposures active)
  (saturate performance.val : U32).saturatingAdd exploration

/-- The higher score first, then the more exposures, then the smaller id. -/
def compareScored
    (left right : ExperimentVariantSnapshot × U32) : Ordering :=
  ((compare right.2 left.2).then
      (compare right.1.exposures left.1.exposures)).then
    (compare left.1.variantId right.1.variantId)

/-- The variants with their scores, the best first. -/
def rankVariants : List (ExperimentVariantSnapshot × U32) :=
  (active.map fun variant =>
      (variant, scoreOf metric active variant)).insertionSort
    fun left right => (compareScored left right).isLE

variable {metric active} in
theorem mem_rankVariants {variant : ExperimentVariantSnapshot} {score : U32} :
    (variant, score) ∈ rankVariants metric active ↔
      variant ∈ active ∧ scoreOf metric active variant = score := by
  unfold rankVariants
  rw [(List.perm_insertionSort _ _).mem_iff, List.mem_map]
  constructor
  · rintro ⟨other, member, same⟩
    cases same
    exact ⟨member, rfl⟩
  · rintro ⟨member, rfl⟩
    exact ⟨variant, member, rfl⟩

end Scores

section Shifting

variable (winner : Uuid)

/--
The new shares, in the order of the variants.  The losers are counted on the
way: the first of them give up the remainder of the shift.
-/
def shiftFrom (shift base remainder : Int) :
    Nat → List ExperimentVariantSnapshot → List (Uuid × U16)
  | _, [] => []
  | loserIndex, variant :: rest =>
    if variant.variantId = winner then
      (variant.variantId,
          (tryFrom (variant.allocationBasisPoints.val + shift)).getD 10000) ::
        shiftFrom shift base remainder loserIndex rest
    else
      let take := base + if (loserIndex : Int) < remainder then 1 else 0
      (variant.variantId,
          variant.allocationBasisPoints.saturatingSub
            ((tryFrom take).getD variant.allocationBasisPoints)) ::
        shiftFrom shift base remainder (loserIndex + 1) rest

/-- Moves shares to the winner, bounded by what the losers hold above 500. -/
def shiftAllocation (active : List ExperimentVariantSnapshot)
    (step : U16) : List (Uuid × U16) :=
  let losers : Nat := active.length - 1
  if losers = 0 then
    active.map fun variant =>
      (variant.variantId, variant.allocationBasisPoints)
  else
    let winnerCurrent : U16 :=
      (active.find? fun variant => variant.variantId = winner).elim 0
        ExperimentVariantSnapshot.allocationBasisPoints
    let available : Int :=
      ((active.filter fun variant => variant.variantId ≠ winner).map
        fun variant =>
          (variant.allocationBasisPoints.saturatingSub 500).val).sum
    let shift := min (min step.val available) (max 0 (10000 - winnerCurrent.val))
    shiftFrom winner shift (shift / losers) (shift % losers) 0 active

end Shifting

section Evaluation

variable {named : Uuid} (active : List ExperimentVariantSnapshot)

/-- How many samples there are, where a 64-bit count can tell. -/
def totalSamples : Option U64 :=
  active.foldlM (fun total variant => total.checkedAdd variant.exposures) 0

/-- The score a winner is measured against; its own where it is alone. -/
def runnerScore (winnerScore : U32)
    (others : List (ExperimentVariantSnapshot × U32)) : U32 :=
  others.head?.elim winnerScore Prod.snd

/-- What the leading variant's margin comes to. -/
def decideLead (policy : ExperimentPolicy) (samples : U64) (winner : Uuid)
    (margin : U16) : ExperimentDecision :=
  if margin < policy.winnerMarginBasisPoints then
    .hold .noMaterialDifference
  else
    let confidence : Confidence := saturate (8000 + min margin.val 2000)
    if policy.winnerMinimumTotalSamples ≤ samples &&
        policy.winnerMarginBasisPoints.saturatingMul 2 ≤ margin then
      .complete winner confidence
    else
      .reallocate winner
        (shiftAllocation winner active policy.maximumAllocationStepBasisPoints)
        confidence

def evaluateExperiment (snapshot : ExperimentSnapshot)
    (policy : ExperimentPolicy) : ExperimentDecision :=
  let active := snapshot.activeVariants
  if !snapshot.running then
    .hold .notRunning
  else if !validPolicy policy then
    .hold .invalidPolicy
  else if !validExperiment snapshot.version active then
    .hold .invalidExperiment
  else if active.any fun variant =>
      variant.exposures < policy.minimumSamplesPerVariant then
    .hold .insufficientSamples
  else
    match totalSamples active, rankVariants snapshot.metric active with
    | some samples, (winner, winnerScore) :: others =>
      decideLead active policy samples winner.variantId
        (scoreMarginBasisPoints winnerScore (runnerScore winnerScore others))
    | _, _ => .hold .invalidExperiment

variable {snapshot : ExperimentSnapshot} {policy : ExperimentPolicy}

/-- What stands behind a decision that names a winner. -/
structure Declared
    (snapshot : ExperimentSnapshot)
    (policy : ExperimentPolicy)
    (winner : ExperimentVariantSnapshot)
    (winnerScore : U32)
    (others : List (ExperimentVariantSnapshot × U32)) : Prop where
  running : snapshot.running = true
  policyValid : validPolicy policy = true
  valid : validExperiment snapshot.version snapshot.activeVariants = true
  ranked :
    rankVariants snapshot.metric snapshot.activeVariants =
      (winner, winnerScore) :: others
  margin :
    policy.winnerMarginBasisPoints ≤
      scoreMarginBasisPoints winnerScore (runnerScore winnerScore others)

theorem Declared.winner_mem {winner : ExperimentVariantSnapshot} {winnerScore : U32}
    {others : List (ExperimentVariantSnapshot × U32)}
    (declared : Declared snapshot policy winner winnerScore others) :
    winner ∈ snapshot.activeVariants := by
  have listed : (winner, winnerScore) ∈ rankVariants snapshot.metric snapshot.activeVariants := by
    rw [declared.ranked]
    exact List.mem_cons_self
  exact (mem_rankVariants.mp listed).1

theorem decideLead_cases (policy : ExperimentPolicy) (samples : U64) (winner : Uuid)
    (margin : U16) :
    decideLead active policy samples winner margin = .hold .noMaterialDifference ∨
      policy.winnerMarginBasisPoints ≤ margin ∧
        ∃ confidence,
          decideLead active policy samples winner margin = .complete winner confidence ∨
            decideLead active policy samples winner margin = .reallocate winner
                (shiftAllocation winner active policy.maximumAllocationStepBasisPoints)
                confidence := by
  unfold decideLead
  by_cases narrow : margin < policy.winnerMarginBasisPoints
  · exact .inl (if_pos narrow)
  · refine .inr ⟨not_lt.mp narrow, saturate (8000 + min margin.val 2000), ?_⟩
    rw [if_neg narrow]
    dsimp only
    split
    · exact .inl rfl
    · exact .inr rfl

/-- An evaluation holds, or a variant that leads by the margin is declared. -/
theorem evaluateExperiment_cases (snapshot : ExperimentSnapshot) (policy : ExperimentPolicy) :
    (∃ reason, evaluateExperiment snapshot policy = .hold reason) ∨
      ∃ winner winnerScore others confidence,
        Declared snapshot policy winner winnerScore others ∧
          (evaluateExperiment snapshot policy = .complete winner.variantId confidence ∨
            evaluateExperiment snapshot policy = .reallocate winner.variantId
                (shiftAllocation winner.variantId snapshot.activeVariants
                  policy.maximumAllocationStepBasisPoints)
                confidence) := by
  unfold evaluateExperiment
  dsimp only
  split
  · exact .inl ⟨_, rfl⟩
  next running =>
    split
    · exact .inl ⟨_, rfl⟩
    next policyValid =>
      split
      · exact .inl ⟨_, rfl⟩
      next valid =>
        split
        · exact .inl ⟨_, rfl⟩
        · split
          next samples winner winnerScore others _ ranked =>
            rcases decideLead_cases snapshot.activeVariants policy samples winner.variantId
                (scoreMarginBasisPoints winnerScore (runnerScore winnerScore others)) with
              narrow | ⟨margin, confidence, declared⟩
            · exact .inl ⟨_, narrow⟩
            · exact .inr ⟨winner, winnerScore, others, confidence,
                { running := by simpa using running
                  policyValid := by simpa using policyValid
                  valid := by simpa using valid
                  ranked := ranked
                  margin := margin },
                declared⟩
          · exact .inl ⟨_, rfl⟩

theorem exists_declared_of_winner
    (found : (evaluateExperiment snapshot policy).winner? = some named) :
    ∃ winner winnerScore others,
      Declared snapshot policy winner winnerScore others ∧ winner.variantId = named := by
  rcases evaluateExperiment_cases snapshot policy with
    ⟨reason, held⟩ | ⟨winner, winnerScore, others, confidence, declared, came⟩
  · rw [held] at found
    cases found
  · refine ⟨winner, winnerScore, others, declared, ?_⟩
    rcases came with completes | reallocates
    · rw [completes] at found
      exact Option.some.inj found
    · rw [reallocates] at found
      exact Option.some.inj found

theorem exists_declared_of_reallocate {allocations : List (Uuid × U16)} {confidence : Confidence}
    (reallocates : evaluateExperiment snapshot policy = .reallocate named allocations confidence) :
    ∃ winner winnerScore others,
      Declared snapshot policy winner winnerScore others ∧
        winner.variantId = named ∧
          allocations = shiftAllocation winner.variantId snapshot.activeVariants
              policy.maximumAllocationStepBasisPoints := by
  rcases evaluateExperiment_cases snapshot policy with
    ⟨reason, held⟩ | ⟨winner, winnerScore, others, _, declared, completed | shifted⟩
  · rw [held] at reallocates
    cases reallocates
  · rw [completed] at reallocates
    cases reallocates
  · rw [shifted] at reallocates
    cases reallocates
    exact ⟨winner, winnerScore, others, declared, rfl, rfl⟩

end Evaluation

/-- The bytes of an id, the high ones first. -/
def uuidBytes (id : Uuid) : List (BitVec 8) :=
  (List.range 16).map fun place => (id >>> (8 * (15 - place))).truncate 8

variable (experimentId : Uuid) (assignmentKey : List (BitVec 8))

/-- FNV-1a over the experiment and the key. -/
def assignmentHash : BitVec 64 :=
  (uuidBytes experimentId ++ assignmentKey).foldl
    (fun hash byte => (hash ^^^ byte.zeroExtend 64) * 1099511628211)
    14695981039346656037

/-- The first slot whose shares, with those before it, pass the bucket. -/
def slotOfBucket (bucket : Int) :
    Int → List ExperimentAllocationSlot → Option Uuid
  | _, [] => none
  | cumulative, slot :: rest =>
    let reached := cumulative + slot.allocationBasisPoints.val
    if bucket < reached then some slot.variantId else slotOfBucket bucket reached rest

/-- The same subject stays in the same variant while the shares stay. -/
def assignVariant
    (variants : List ExperimentAllocationSlot) : Option Uuid :=
  let active := variants.filter fun slot =>
    slot.active && 0 < slot.allocationBasisPoints
  if active.isEmpty ||
      (active.map fun slot => slot.allocationBasisPoints.val).sum ≠ 10000 then
    none
  else
    slotOfBucket
      ((assignmentHash experimentId assignmentKey).toNat % 10000)
      0
      (active.insertionSort fun left right =>
        left.variantId ≤ right.variantId)

end CrowdRelay.Experimentation
