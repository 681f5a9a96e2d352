import CrowdRelay.DecisionLedger
import CrowdRelay.FanLifecycle
import CrowdRelay.Learning

namespace CrowdRelay.Merchandising

open Machine MachineInt Ranged

/-!
# Bounded repricing of merchandise

One evaluation moves a price by one step at most, on strong signals of demand
and stock, within the range and the margin that the operator owns.
-/

structure MerchPriceSnapshot where
  currentPriceMinor : U64
  minimumPriceMinor : U64
  maximumPriceMinor : U64
  unitCostMinor : Option U64
  economicsVersion : I64
  availableQuantity : U32
  soldLast7d : U32
  soldLast30d : U32
  lastPriceChangeAt : Option OffsetDateTime
  deriving Repr, DecidableEq

structure MerchPricePolicy where
  priceStepMinor : U64 := 500
  minimumSales30d : U32 := 4
  increaseVelocityRatioBasisPoints : U32 := 14000
  decreaseVelocityRatioBasisPoints : U32 := 5000
  scarceCoverageDays : U32 := 21
  excessCoverageDays : U32 := 60
  priceCooldownDays : U32 := 7
  minimumGrossMarginBasisPoints : U32 := 4000
  deriving Repr, DecidableEq

inductive MerchPriceDirection where
  | increase
  | decrease
  deriving Repr, DecidableEq

inductive MerchPriceHoldReason where
  | invalidPolicy
  | invalidSnapshot
  | insufficientDemandHistory
  | cooldownActive
  | demandBalanced
  | priceBoundary
  | marginGuard
  deriving Repr, DecidableEq

inductive MerchPriceDecision where
  | hold (reason : MerchPriceHoldReason)
  | changePrice
      (direction : MerchPriceDirection)
      (toMinor : U64)
      (confidence : Confidence)
  deriving Repr, DecidableEq

section Evaluation

def validPricePolicy (policy : MerchPricePolicy) : Bool :=
  0 < policy.priceStepMinor &&
    0 < policy.minimumSales30d &&
    10000 < policy.increaseVelocityRatioBasisPoints &&
    policy.decreaseVelocityRatioBasisPoints < 10000 &&
    0 < policy.scarceCoverageDays &&
    policy.scarceCoverageDays < policy.excessCoverageDays &&
    0 < policy.priceCooldownDays &&
    policy.minimumGrossMarginBasisPoints < 10000

def validPriceSnapshot (snapshot : MerchPriceSnapshot)
    (now : OffsetDateTime) : Bool :=
  snapshot.minimumPriceMinor ≤ snapshot.currentPriceMinor &&
    snapshot.currentPriceMinor ≤ snapshot.maximumPriceMinor &&
    snapshot.minimumPriceMinor ≤ snapshot.maximumPriceMinor &&
    snapshot.soldLast7d ≤ snapshot.soldLast30d &&
    0 < snapshot.economicsVersion &&
    (snapshot.lastPriceChangeAt.all fun changedAt => changedAt ≤ now) &&
    (snapshot.unitCostMinor.all fun cost => cost ≤ snapshot.maximumPriceMinor)

def stockCoverageDays (availableQuantity soldLast30d : U32) : U64 :=
  if soldLast30d = 0 then
    18446744073709551615
  else
    (((widen availableQuantity).saturatingMul 30).saturatingAdd
      ((widen soldLast30d).saturatingSub 1)).quotient (widen soldLast30d)

/-- The rate of seven days over that of thirty, in basis points. -/
def recentVelocityRatioBasisPoints (soldLast7d soldLast30d : U32) : U64 :=
  if soldLast30d = 0 then
    0
  else
    (((widen soldLast7d).saturatingMul 30).saturatingMul 10000).quotient
      ((widen soldLast30d).saturatingMul 7)

variable (snapshot : MerchPriceSnapshot) (policy : MerchPricePolicy)

/-- The least price that keeps the operator's minimum and margin. -/
def minimumSafePrice : U64 :=
  match snapshot.unitCostMinor with
  | none => snapshot.minimumPriceMinor
  | some unitCost =>
    let retained := (10000 : U64).saturatingSub (widen policy.minimumGrossMarginBasisPoints)
    if retained = 0 then
      snapshot.maximumPriceMinor.saturatingAdd 1
    else
      let costFloor :=
        ((unitCost.saturatingMul 10000).saturatingAdd (retained.saturatingSub 1)).quotient retained
      max snapshot.minimumPriceMinor costFloor

/-- Demand has picked up and stock is scarce. -/
def raises : Bool :=
  widen policy.increaseVelocityRatioBasisPoints ≤
      recentVelocityRatioBasisPoints snapshot.soldLast7d snapshot.soldLast30d &&
    stockCoverageDays snapshot.availableQuantity snapshot.soldLast30d ≤
      widen policy.scarceCoverageDays

/-- Demand has stopped and there is too much stock. -/
def lowers : Bool :=
  recentVelocityRatioBasisPoints snapshot.soldLast7d snapshot.soldLast30d ≤
      widen policy.decreaseVelocityRatioBasisPoints &&
    widen policy.excessCoverageDays ≤
      stockCoverageDays snapshot.availableQuantity snapshot.soldLast30d

def sampleConfidence (base perSale : Int) : Confidence :=
  saturate (base + (min snapshot.soldLast30d 20).val * perSale)

def raisedPrice : MerchPriceDecision :=
  let target := snapshot.currentPriceMinor.saturatingAdd policy.priceStepMinor
  if snapshot.maximumPriceMinor < target then
    .hold .priceBoundary
  else
    .changePrice .increase target (sampleConfidence snapshot 8200 60)

def loweredPrice : MerchPriceDecision :=
  let safeFloor := minimumSafePrice snapshot policy
  if snapshot.currentPriceMinor < safeFloor then
    .hold .marginGuard
  else
    let target := snapshot.currentPriceMinor.saturatingSub policy.priceStepMinor
    if target < safeFloor || target = snapshot.currentPriceMinor then
      .hold .priceBoundary
    else
      .changePrice .decrease target (sampleConfidence snapshot 8000 40)

/-- The last change is too recent. -/
def coolingDown (now : OffsetDateTime) : Bool :=
  snapshot.lastPriceChangeAt.any fun changedAt =>
    now - changedAt < policy.priceCooldownDays.val * nanosPerDay

/-- One conservative step, or the reason for none. -/
def evaluateMerchPrice (now : OffsetDateTime) : MerchPriceDecision :=
  if !validPricePolicy policy then
    .hold .invalidPolicy
  else if !validPriceSnapshot snapshot now then
    .hold .invalidSnapshot
  else if coolingDown snapshot policy now then
    .hold .cooldownActive
  else if snapshot.soldLast30d < policy.minimumSales30d then
    .hold .insufficientDemandHistory
  else if raises snapshot policy then
    raisedPrice snapshot policy
  else if lowers snapshot policy then
    loweredPrice snapshot policy
  else
    .hold .demandBalanced

end Evaluation

variable {snapshot : MerchPriceSnapshot} {policy : MerchPricePolicy}
  {now : OffsetDateTime} {target : U64} {confidence : Confidence}

section Changes

variable {direction : MerchPriceDirection}

/-- What every change of a price is made on. -/
structure Admitted
    (snapshot : MerchPriceSnapshot)
    (policy : MerchPricePolicy)
    (now : OffsetDateTime) : Prop where
  policyIsValid : validPricePolicy policy = true
  snapshotIsValid : validPriceSnapshot snapshot now = true
  rested : coolingDown snapshot policy now = false
  enoughSold : policy.minimumSales30d ≤ snapshot.soldLast30d

theorem changePrice_cases
    (changes : evaluateMerchPrice snapshot policy now = .changePrice direction target confidence) :
    Admitted snapshot policy now ∧
      (raises snapshot policy = true ∧
          raisedPrice snapshot policy = .changePrice direction target confidence ∨
        lowers snapshot policy = true ∧
          loweredPrice snapshot policy = .changePrice direction target confidence) := by
  unfold evaluateMerchPrice at changes
  split_ifs at changes with
    invalid unfit cooling thin up down
  · exact ⟨⟨by simpa using invalid, by simpa using unfit,
      by simpa using cooling, not_lt.mp thin⟩, Or.inl ⟨up, changes⟩⟩
  · exact ⟨⟨by simpa using invalid, by simpa using unfit,
      by simpa using cooling, not_lt.mp thin⟩, Or.inr ⟨down, changes⟩⟩

theorem raisedPrice_cases
    (changes : raisedPrice snapshot policy = .changePrice direction target confidence) :
    direction = .increase ∧
      target = snapshot.currentPriceMinor.saturatingAdd policy.priceStepMinor ∧
      target ≤ snapshot.maximumPriceMinor := by
  simp only [raisedPrice] at changes
  split_ifs at changes with beyond
  cases changes
  exact ⟨rfl, rfl, not_lt.mp beyond⟩

theorem loweredPrice_cases
    (changes : loweredPrice snapshot policy = .changePrice direction target confidence) :
    direction = .decrease ∧
      target = snapshot.currentPriceMinor.saturatingSub policy.priceStepMinor ∧
      minimumSafePrice snapshot policy ≤ target ∧
      target ≠ snapshot.currentPriceMinor := by
  simp only [loweredPrice] at changes
  split_ifs at changes with guarded beyond
  cases changes
  rw [Bool.or_eq_true, not_or, decide_eq_true_eq, decide_eq_true_eq] at beyond
  exact ⟨rfl, rfl, not_lt.mp beyond.1, beyond.2⟩

end Changes

/-!
# Runs of repricing

Every accepted change becomes the new price with its time recorded. The range
and the cooldown hold on every run; the exact step and the margin hold while
no evaluation reaches the ends of the 64-bit integers.
-/

/-- What the operator keeps of a price in basis points, below the margin. -/
def retainedBasisPoints (policy : MerchPricePolicy) : Int :=
  10000 - policy.minimumGrossMarginBasisPoints.val

/-- Where the price may move, nothing computed for it leaves 64 bits. -/
structure Unsaturated
    (policy : MerchPricePolicy)
    (snapshot : MerchPriceSnapshot)
    (now : OffsetDateTime) : Prop where
  raised :
    Admitted snapshot policy now →
      raises snapshot policy = true →
      snapshot.currentPriceMinor.val + policy.priceStepMinor.val ≤
          18446744073709551615 ∨
        snapshot.maximumPriceMinor.val < 18446744073709551615
  lowered :
    Admitted snapshot policy now →
      lowers snapshot policy = true →
      policy.priceStepMinor ≤ snapshot.currentPriceMinor ∨
        snapshot.currentPriceMinor.val = 0 ∨
        0 < snapshot.minimumPriceMinor.val ∨
        ∃ cost ∈ snapshot.unitCostMinor, 0 < cost.val
  costFloor :
    Admitted snapshot policy now →
      lowers snapshot policy = true →
      ∀ cost ∈ snapshot.unitCostMinor,
        cost.val * 10000 + (retainedBasisPoints policy - 1) ≤
          18446744073709551615

section

variable (admitted : Admitted snapshot policy now)
include admitted

theorem Admitted.retained_pos : 0 < retainedBasisPoints policy := by
  have valid := admitted.policyIsValid
  simp only [validPricePolicy, Bool.and_eq_true, decide_eq_true_eq] at valid
  have margin := lt_iff_val.mp valid.2
  have whole : (10000 : U32).val = 10000 := rfl
  unfold retainedBasisPoints
  omega

theorem Admitted.within :
    snapshot.minimumPriceMinor ≤ snapshot.currentPriceMinor ∧
      snapshot.currentPriceMinor ≤ snapshot.maximumPriceMinor := by
  have valid := admitted.snapshotIsValid
  simp only [validPriceSnapshot, Bool.and_eq_true, decide_eq_true_eq] at valid
  obtain ⟨⟨⟨⟨⟨⟨lower, upper⟩, -⟩, -⟩, -⟩, -⟩, -⟩ := valid
  exact ⟨lower, upper⟩

/-- With a known cost, the floor is a quotient rounded up. -/
theorem Admitted.minimumSafePrice_eq {cost : U64} (known : snapshot.unitCostMinor = some cost)
    (fits : cost.val * 10000 + (retainedBasisPoints policy - 1) ≤ 18446744073709551615) :
    (minimumSafePrice snapshot policy).val = max snapshot.minimumPriceMinor.val
        ((cost.val * 10000 + (retainedBasisPoints policy - 1)) / retainedBasisPoints policy) := by
  have positive := admitted.retained_pos
  have margin := policy.minimumGrossMarginBasisPoints.lower
  have costNonneg := cost.lower
  have whole : (10000 : U64).val = 10000 := rfl
  have one : (1 : U64).val = 1 := rfl
  have retained :
      ((10000 : U64).saturatingSub (widen policy.minimumGrossMarginBasisPoints)).val =
        retainedBasisPoints policy := by
    have widened :
        (widen policy.minimumGrossMarginBasisPoints).val =
          policy.minimumGrossMarginBasisPoints.val :=
      rfl
    unfold retainedBasisPoints at positive ⊢
    rw [val_saturatingSub, whole, widened]
    omega
  have notZero : (10000 : U64).saturatingSub (widen policy.minimumGrossMarginBasisPoints) ≠ 0 := by
    rw [ne_eq, eq_iff_val, retained]
    exact ne_of_gt positive
  have numerator :
      ((cost.saturatingMul 10000).saturatingAdd
          (((10000 : U64).saturatingSub
            (widen policy.minimumGrossMarginBasisPoints)).saturatingSub 1)).val =
        cost.val * 10000 + (retainedBasisPoints policy - 1) := by
    rw [val_saturatingAdd, val_saturatingSub, retained, saturatingMul, val_saturate, whole, one]
    omega
  have quotientNonneg :
      0 ≤ (cost.val * 10000 + (retainedBasisPoints policy - 1)) / retainedBasisPoints policy :=
    Int.ediv_nonneg (by omega) positive.le
  have quotientLe :
      (cost.val * 10000 + (retainedBasisPoints policy - 1)) / retainedBasisPoints policy ≤
        cost.val * 10000 + (retainedBasisPoints policy - 1) :=
    Int.ediv_le_self _ (by omega)
  simp only [minimumSafePrice, known]
  rw [if_neg notZero, val_max, quotient, val_saturate, numerator, retained,
    max_eq_right (le_min (by decide) quotientNonneg),
    min_eq_right (quotientLe.trans fits)]

theorem Admitted.minimum_le_floor :
    snapshot.minimumPriceMinor ≤ minimumSafePrice snapshot policy := by
  have within := admitted.within
  simp only [minimumSafePrice]
  split
  · exact le_rfl
  · split
    · exact (within.1.trans within.2).trans
          (le_saturatingAdd _ (by decide))
    · exact le_max_left _ _

end

theorem le_mul_of_ceiling_le {amount share price : Int} (positive : 0 < share)
    (above : (amount + (share - 1)) / share ≤ price) :
    amount ≤ price * share := by
  have below := Int.lt_ediv_add_one_mul_self (amount + (share - 1)) positive
  have larger : ((amount + (share - 1)) / share + 1) * share ≤ (price + 1) * share :=
    Int.mul_le_mul_of_nonneg_right (by omega) positive.le
  have expanded : (price + 1) * share = price * share + share := by
    rw [Int.add_mul, Int.one_mul]
  omega

theorem Unsaturated.raised_step (unsaturated : Unsaturated policy snapshot now)
    (admitted : Admitted snapshot policy now) (up : raises snapshot policy = true)
    (isTarget : target = snapshot.currentPriceMinor.saturatingAdd policy.priceStepMinor)
    (bounded : target ≤ snapshot.maximumPriceMinor) :
    target.val = snapshot.currentPriceMinor.val + policy.priceStepMinor.val := by
  have fits := unsaturated.raised admitted up
  have stepNonneg := policy.priceStepMinor.lower
  have priceNonneg := snapshot.currentPriceMinor.lower
  rw [le_iff_val, isTarget, val_saturatingAdd] at bounded
  rw [isTarget, val_saturatingAdd]
  omega

/-- A cut without saturation is one step, and keeps the margin. -/
theorem Unsaturated.lowered_step (unsaturated : Unsaturated policy snapshot now)
    (admitted : Admitted snapshot policy now) (down : lowers snapshot policy = true)
    (isTarget : target = snapshot.currentPriceMinor.saturatingSub policy.priceStepMinor)
    (safe : minimumSafePrice snapshot policy ≤ target)
    (moved : target ≠ snapshot.currentPriceMinor) :
    target.val = snapshot.currentPriceMinor.val - policy.priceStepMinor.val ∧
      ∀ cost ∈ snapshot.unitCostMinor,
        policy.minimumGrossMarginBasisPoints.val * target.val ≤
          10000 * (target.val - cost.val) := by
  have positive := admitted.retained_pos
  have stepNonneg := policy.priceStepMinor.lower
  have priceUpper := snapshot.currentPriceMinor.upper
  have minimumLe := le_iff_val.mp (admitted.minimum_le_floor.trans safe)
  have above : ∀ cost ∈ snapshot.unitCostMinor,
      cost.val * 10000 ≤ target.val * retainedBasisPoints policy := by
    intro cost known
    have fits := unsaturated.costFloor admitted down cost known
    rw [le_iff_val, admitted.minimumSafePrice_eq known fits] at safe
    exact le_mul_of_ceiling_le positive ((le_max_right _ _).trans safe)
  constructor
  · have priceLower := snapshot.currentPriceMinor.lower
    rw [ne_eq, eq_iff_val] at moved
    rw [isTarget, val_saturatingSub] at minimumLe above moved ⊢
    rcases unsaturated.lowered admitted down with enough | nothing |
      someMinimum | ⟨cost, known, someCost⟩
    · have enough := le_iff_val.mp enough
      omega
    · omega
    · omega
    · by_contra notExact
      have zero :
          max 0 (min 18446744073709551615
            (snapshot.currentPriceMinor.val - policy.priceStepMinor.val)) = 0 := by
        omega
      have nothing := above cost known
      rw [zero, Int.zero_mul] at nothing
      omega
  · intro cost known
    have kept := above cost known
    have expanded :
        target.val * retainedBasisPoints policy =
          10000 * target.val - policy.minimumGrossMarginBasisPoints.val * target.val := by
      rw [retainedBasisPoints, Int.mul_sub, Int.mul_comm target.val 10000, Int.mul_comm target.val]
    omega

/-- The range of prices the operator allows. -/
structure PriceRange where
  minimumPriceMinor : U64
  maximumPriceMinor : U64
  deriving Repr, DecidableEq

/-- The price of a product and when it last changed. -/
structure PriceTag where
  priceMinor : U64
  lastChangeAt : Option OffsetDateTime
  deriving Repr, DecidableEq

structure PriceReading where
  now : OffsetDateTime
  unitCostMinor : Option U64
  economicsVersion : I64
  availableQuantity : U32
  soldLast7d : U32
  soldLast30d : U32
  deriving Repr, DecidableEq

structure PriceChange where
  direction : MerchPriceDirection
  fromMinor : U64
  toMinor : U64
  unitCostMinor : Option U64
  changedAt : OffsetDateTime
  deriving Repr, DecidableEq

section Runs

def snapshotOf (range : PriceRange) (tag : PriceTag)
    (reading : PriceReading) : MerchPriceSnapshot where
  currentPriceMinor := tag.priceMinor
  minimumPriceMinor := range.minimumPriceMinor
  maximumPriceMinor := range.maximumPriceMinor
  unitCostMinor := reading.unitCostMinor
  economicsVersion := reading.economicsVersion
  availableQuantity := reading.availableQuantity
  soldLast7d := reading.soldLast7d
  soldLast30d := reading.soldLast30d
  lastPriceChangeAt := tag.lastChangeAt

variable (policy : MerchPricePolicy) (range : PriceRange)

/-- Every accepted change is applied and its time recorded. -/
def reprice (tag : PriceTag)
    (reading : PriceReading) : PriceTag × Option PriceChange :=
  match evaluateMerchPrice (snapshotOf range tag reading) policy reading.now with
  | .hold _ => (tag, none)
  | .changePrice direction target _ =>
    (⟨target, some reading.now⟩,
      some
        { direction := direction
          fromMinor := tag.priceMinor
          toMinor := target
          unitCostMinor := reading.unitCostMinor
          changedAt := reading.now })

def repricing : Transducer PriceTag PriceReading (Option PriceChange) where
  step := reprice policy range

def Within (tag : PriceTag) : Prop :=
  range.minimumPriceMinor ≤ tag.priceMinor ∧ tag.priceMinor ≤ range.maximumPriceMinor

def cooldown : Int := policy.priceCooldownDays.val * nanosPerDay

/-- One step of the policy, with its margin after a decrease. -/
structure ExactChange (change : PriceChange) : Prop where
  raised :
    change.direction = .increase →
      change.toMinor.val = change.fromMinor.val + policy.priceStepMinor.val
  lowered :
    change.direction = .decrease →
      change.toMinor.val = change.fromMinor.val - policy.priceStepMinor.val
  margin :
    change.direction = .decrease →
      ∀ cost ∈ change.unitCostMinor,
        policy.minimumGrossMarginBasisPoints.val * change.toMinor.val ≤
          10000 * (change.toMinor.val - cost.val)

variable {policy range} {tag : PriceTag} {reading : PriceReading}

/-- A change rests on the last one, stays in the range and is the new tag. -/
theorem reprice_changes {change : PriceChange}
    (changes : (reprice policy range tag reading).2 = some change) :
    (reprice policy range tag reading).1 = ⟨change.toMinor, some change.changedAt⟩ ∧
      Within range (reprice policy range tag reading).1 ∧
      (∀ last ∈ tag.lastChangeAt, last + cooldown policy ≤ change.changedAt) ∧
      (Unsaturated policy (snapshotOf range tag reading) reading.now →
        ExactChange policy change) := by
  unfold reprice at changes ⊢
  split at changes
  · cases changes
  next direction target confidence decided =>
    cases changes
    obtain ⟨admitted, moves⟩ := changePrice_cases decided
    have within := admitted.within
    refine ⟨rfl, ?_, ?_, ?_⟩
    · rcases moves with ⟨_, up⟩ | ⟨_, down⟩
      · obtain ⟨-, isTarget, bounded⟩ := raisedPrice_cases up
        have grows := le_saturatingAdd tag.priceMinor policy.priceStepMinor.lower
        exact ⟨within.1.trans (grows.trans_eq isTarget.symm), bounded⟩
      · obtain ⟨-, isTarget, safe, -⟩ := loweredPrice_cases down
        have shrinks := saturatingSub_le tag.priceMinor policy.priceStepMinor.lower
        exact ⟨admitted.minimum_le_floor.trans safe, (isTarget.trans_le shrinks).trans within.2⟩
    · intro last isLast
      have notRecent := admitted.rested
      rw [coolingDown, Option.any_eq_false] at notRecent
      have apart := of_decide_eq_false (notRecent last isLast)
      exact Int.add_le_of_le_sub_left (not_lt.mp apart)
    · intro unsaturated
      rcases moves with ⟨rises, up⟩ | ⟨falls, down⟩
      · obtain ⟨rfl, isTarget, bounded⟩ := raisedPrice_cases up
        exact
          { raised := fun _ =>
              unsaturated.raised_step admitted rises isTarget bounded
            lowered := fun other => nomatch other
            margin := fun other => nomatch other }
      · obtain ⟨rfl, isTarget, safe, moved⟩ := loweredPrice_cases down
        obtain ⟨oneStep, margin⟩ := unsaturated.lowered_step admitted falls isTarget safe moved
        exact
          { raised := fun other => nomatch other
            lowered := fun _ => oneStep
            margin := fun _ => margin }

theorem reprice_holds (holds : (reprice policy range tag reading).2 = none) :
    (reprice policy range tag reading).1 = tag := by
  unfold reprice at holds ⊢
  split at holds
  · rfl
  · cases holds

/-- What never happens to a price in the hands of the machine. -/
structure RepricingHolds
    (policy : MerchPricePolicy)
    (range : PriceRange)
    (start : PriceTag)
    (readings : List PriceReading) : Prop where
  within :
    Within range ((repricing policy range).final start readings) ∧
      ∀ visit ∈ (repricing policy range).visits start readings,
        Within range visit.1
  rested :
    ((repricing policy range).log start readings).Pairwise fun first second =>
      ∀ earlier ∈ first, ∀ later ∈ second,
        earlier.changedAt + cooldown policy ≤ later.changedAt
  exactly :
    ∀ change, some change ∈ (repricing policy range).log start readings →
      ExactChange policy change

theorem within_reprice (within : Within range tag) :
    Within range (reprice policy range tag reading).1 := by
  cases outcome : (reprice policy range tag reading).2 with
  | none => rw [reprice_holds outcome]; exact within
  | some change => exact (reprice_changes outcome).2.1

/-- Every later change is a cooldown after the last one. -/
def RestedFrom (policy : MerchPricePolicy) (tag : PriceTag) : Option PriceChange → Prop :=
  fun output =>
    ∀ change ∈ output, ∀ last ∈ tag.lastChangeAt, last + cooldown policy ≤ change.changedAt

theorem restedFrom_of_step {output : Option PriceChange}
    (restedAfter : RestedFrom policy (reprice policy range tag reading).1 output) :
    RestedFrom policy tag output ∧
      ∀ earlier ∈ (reprice policy range tag reading).2, ∀ later ∈ output,
        earlier.changedAt + cooldown policy ≤ later.changedAt := by
  have cooldownNonneg : 0 ≤ cooldown policy :=
    Int.mul_nonneg policy.priceCooldownDays.lower (by decide)
  cases outcome : (reprice policy range tag reading).2 with
  | none =>
    rw [reprice_holds outcome] at restedAfter
    exact ⟨restedAfter, fun earlier none => nomatch none⟩
  | some change =>
    obtain ⟨shape, -, rested, -⟩ := reprice_changes outcome
    rw [shape] at restedAfter
    have next : ∀ later ∈ output, change.changedAt + cooldown policy ≤ later.changedAt :=
      fun later isLater => restedAfter later isLater _ rfl
    constructor
    · intro later isLater last isLast
      have first : last + cooldown policy ≤ change.changedAt := rested last isLast
      have second := next later isLater
      exact (first.trans (Int.le_add_of_nonneg_right cooldownNonneg)).trans second
    · rintro earlier ⟨⟩
      exact next

/--
On every run the price keeps to its range and changes rest for the cooldown;
while nothing saturates every change is one exact step with its margin.
-/
theorem repricing_holds
    (policy : MerchPricePolicy)
    (range : PriceRange)
    (start : PriceTag)
    (readings : List PriceReading)
    (begins : Within range start)
    (unsaturated :
      ∀ visit ∈ (repricing policy range).visits start readings,
        Unsaturated policy (snapshotOf range visit.1 visit.2) visit.2.now) :
    RepricingHolds policy range start readings where
  within :=
    (repricing policy range).final_invariant_of_visits
      (fun _ _ (_ : True) => within_reprice) begins fun _ _ => trivial
  rested :=
    (repricing policy range).log_pairwise
      (fun _ _ (_ : True) => trivial)
      (fun _ _ _ change isChange =>
        (reprice_changes isChange).2.2.1)
      (fun _ _ _ _ restedAfter => (restedFrom_of_step restedAfter).1)
      (fun _ _ _ _ restedAfter => (restedFrom_of_step restedAfter).2)
      trivial readings
  exactly := by
    intro change changed
    rw [Transducer.log_eq_map_visits, List.mem_map] at changed
    obtain ⟨visit, visited, isChange⟩ := changed
    exact (reprice_changes isChange).2.2.2 (unsaturated visit visited)

/-- Demand picks up while stock is scarce, and later stops. -/
def busyThenQuiet : List PriceReading :=
  [⟨20000 * nanosPerDay, some 3000, 1, 4, 5, 10⟩,
    ⟨20003 * nanosPerDay, some 3000, 1, 4, 5, 10⟩,
    ⟨20008 * nanosPerDay, some 3000, 1, 40, 0, 10⟩]

theorem repricing_holds_of_shirt :
    RepricingHolds {} ⟨5900, 8900⟩ ⟨6900, none⟩ busyThenQuiet ∧
      (((repricing {} ⟨5900, 8900⟩).log ⟨6900, none⟩ busyThenQuiet).map
          fun change => change.map fun change => change.toMinor.val) =
        [some 7400, none, some 6900] := by
  refine ⟨?_, by decide +kernel⟩
  have small :
      ∀ visit ∈
          (repricing {} ⟨5900, 8900⟩).visits ⟨6900, none⟩ busyThenQuiet,
        visit.1.priceMinor.val + 500 ≤ 18446744073709551615 ∧
          (500 : U64) ≤ visit.1.priceMinor ∧
          ∀ cost ∈ visit.2.unitCostMinor, cost.val * 10000 + (6000 - 1) ≤ 18446744073709551615 := by
    decide +kernel
  refine repricing_holds {} _ _ _ ⟨by decide, by decide⟩ fun visit visited => ?_
  have fits := small visit visited
  exact
    { raised := fun _ _ => Or.inl fits.1
      lowered := fun _ _ => Or.inl fits.2.1
      costFloor := fun _ _ => fits.2.2 }

/-- Ten thousand times the cost does not fit, and the cut goes below it. -/
theorem cut_below_the_cost :
    let range : PriceRange := ⟨1, 20000000000000000⟩
    let start : PriceTag := ⟨10000000000000000, none⟩
    let quiet : PriceReading := ⟨20000 * nanosPerDay, some 10000000000000000, 1, 100, 0, 4⟩
    ((repricing {} range).log start [quiet]).map
          (fun change => change.map fun change => change.toMinor.val) =
        [some 9999999999999500] ∧
      ¬ RepricingHolds {} range start [quiet] := by
  intro range start quiet
  have cut :
      (repricing {} range).log start [quiet] =
        [some ⟨.decrease, 10000000000000000, 9999999999999500,
          some 10000000000000000, 20000 * nanosPerDay⟩] := by
    decide +kernel
  refine ⟨by rw [cut]; decide +kernel, fun holds => ?_⟩
  have margin := (holds.exactly _ (by rw [cut]; exact List.mem_singleton_self _)).margin rfl
      _ rfl
  exact absurd margin (by decide +kernel)

end Runs

end CrowdRelay.Merchandising
