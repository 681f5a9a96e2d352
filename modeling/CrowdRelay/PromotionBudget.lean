import CrowdRelay.FanLifecycle

namespace CrowdRelay

open MachineInt Ranged

/-!
# The budget of a paid promotion

One campaign is moved by one bounded step at a time, on the performance its
provider reported.  A raise has to fit the operator's caps over the budgets
that were reported for the whole workspace.
-/

structure PromotionPerformanceSnapshot where
  campaignId : Uuid
  currentDailyBudgetMinor : I64
  minimumDailyBudgetMinor : I64
  maximumDailyBudgetMinor : I64
  spendLast7dMinor : I64
  attributedRevenueLast7dMinor : I64
  workspaceDailyBudgetMinor : I64
  workspaceSpendMonthToDateMinor : I64
  workspaceMaximumDailyBudgetMinor : Option I64
  workspaceMaximumMonthlySpendMinor : Option I64
  daysToEvent : U32
  active : Bool
  lastBudgetChangeAt : Option OffsetDateTime
  observedAt : OffsetDateTime
  expiresAt : OffsetDateTime
  deriving Repr, DecidableEq

structure PromotionBudgetPolicy where
  minimumObservationSpendMinor : I64
  increaseRoasBasisPoints : U32
  decreaseRoasBasisPoints : U32
  maximumChangeBasisPoints : U16
  cooldownHours : U32
  minimumDaysToEvent : U32
  deriving Repr, DecidableEq

def PromotionBudgetPolicy.default : PromotionBudgetPolicy where
  minimumObservationSpendMinor := 2000
  increaseRoasBasisPoints := 20000
  decreaseRoasBasisPoints := 8000
  maximumChangeBasisPoints := 2000
  cooldownHours := 24
  minimumDaysToEvent := 2

inductive BudgetDirection where
  | increase
  | decrease
  deriving Repr, DecidableEq

inductive PromotionBudgetHoldReason where
  | inactive
  | staleSnapshot
  | invalidSnapshot
  | invalidPolicy
  | tooCloseToEvent
  | insufficientObservation
  | cooldown
  | performanceInBand
  | missingWorkspaceGuardrail
  | workspaceBudgetCap
  | atBound
  deriving Repr, DecidableEq

inductive PromotionBudgetDecision where
  | hold (reason : PromotionBudgetHoldReason)
  | adjust
      (fromMinor toMinor : I64)
      (direction : BudgetDirection)
      (roasBasisPoints : U32)
      (confidence : Confidence)
  deriving Repr, DecidableEq

def nanosPerHour : Int := 3600 * 1000000000

/-- The last point of the calendar, at the end of the year 9999. -/
def lastOffsetDateTime : OffsetDateTime := 253402300799999999999

section Evaluation

variable (snapshot : PromotionPerformanceSnapshot) (policy : PromotionBudgetPolicy)
  (now : OffsetDateTime)

def snapshotIsValid : Bool :=
  0 < snapshot.currentDailyBudgetMinor &&
    0 < snapshot.minimumDailyBudgetMinor &&
    snapshot.minimumDailyBudgetMinor ≤ snapshot.currentDailyBudgetMinor &&
    snapshot.currentDailyBudgetMinor ≤ snapshot.maximumDailyBudgetMinor &&
    0 ≤ snapshot.spendLast7dMinor &&
    0 ≤ snapshot.attributedRevenueLast7dMinor &&
    snapshot.currentDailyBudgetMinor ≤ snapshot.workspaceDailyBudgetMinor &&
    0 ≤ snapshot.workspaceSpendMonthToDateMinor &&
    snapshot.workspaceMaximumDailyBudgetMinor.all (fun value => 0 < value) &&
    snapshot.workspaceMaximumMonthlySpendMinor.all (fun value => 0 < value) &&
    snapshot.observedAt ≤ now &&
    snapshot.observedAt < snapshot.expiresAt &&
    snapshot.lastBudgetChangeAt.all (fun changedAt => changedAt ≤ now)

def policyIsValid : Bool :=
  0 < policy.minimumObservationSpendMinor &&
    policy.decreaseRoasBasisPoints < policy.increaseRoasBasisPoints &&
    1 ≤ policy.maximumChangeBasisPoints &&
    policy.maximumChangeBasisPoints ≤ 5000 &&
    0 < policy.cooldownHours

/-- Revenue per spend, clamped into the type; 128 bits hold the product. -/
def roasBasisPoints (revenueMinor spendMinor : I64) : U32 :=
  if spendMinor ≤ 0 then 0 else saturate ((revenueMinor.val * 10000).tdiv spendMinor.val)

/-- The share of a value, rounded up; what is out of range is the maximum. -/
def mulBasisPointsCeil (value : I64) (basisPoints : U16) : I64 :=
  (tryFrom ((value.val * basisPoints.val + 9999).tdiv 10000)).getD 9223372036854775807

/-- The last change is too recent; a wait that leaves the calendar is none. -/
def coolingDown : Bool :=
  snapshot.lastBudgetChangeAt.any fun changedAt =>
    let nextAllowed := changedAt + policy.cooldownHours.val * nanosPerHour
    nextAllowed ≤ lastOffsetDateTime && now < nextAllowed

def proposedBudget (direction : BudgetDirection) : I64 :=
  let change :=
    max (mulBasisPointsCeil snapshot.currentDailyBudgetMinor policy.maximumChangeBasisPoints) 1
  match direction with
  | .increase =>
    min (snapshot.currentDailyBudgetMinor.saturatingAdd change) snapshot.maximumDailyBudgetMinor
  | .decrease =>
    max (snapshot.currentDailyBudgetMinor.saturatingSub change) snapshot.minimumDailyBudgetMinor

/-- Whether a raise leaves one of the operator's caps. -/
def overWorkspaceCap (proposed : I64) : Bool :=
  let delta := proposed.saturatingSub snapshot.currentDailyBudgetMinor
  snapshot.workspaceMaximumDailyBudgetMinor.getD 0 <
      snapshot.workspaceDailyBudgetMinor.saturatingAdd delta ||
    snapshot.workspaceMaximumMonthlySpendMinor.getD 0 ≤ snapshot.workspaceSpendMonthToDateMinor

variable (roas : U32) (direction : BudgetDirection)

def adjustmentConfidence : Confidence :=
  let sampleBonus : Int := max 0 (min 1000 (snapshot.spendLast7dMinor.val.tdiv 1000))
  let distanceBonus : Int :=
    min 1000
      (match direction with
      | .increase => (roas.saturatingSub policy.increaseRoasBasisPoints).val
      | .decrease => (policy.decreaseRoasBasisPoints.saturatingSub roas).val)
  saturate (8000 + sampleBonus + distanceBonus)

def adjustment : PromotionBudgetDecision :=
  let proposed := proposedBudget snapshot policy direction
  if proposed = snapshot.currentDailyBudgetMinor then
    .hold .atBound
  else if direction = .increase ∧ overWorkspaceCap snapshot proposed then
    .hold .workspaceBudgetCap
  else
    .adjust snapshot.currentDailyBudgetMinor proposed direction roas
      (adjustmentConfidence snapshot policy roas direction)

def evaluatePromotionBudget : PromotionBudgetDecision :=
  if !policyIsValid policy then
    .hold .invalidPolicy
  else if !snapshotIsValid snapshot now then
    .hold .invalidSnapshot
  else if !snapshot.active then
    .hold .inactive
  else if snapshot.expiresAt ≤ now then
    .hold .staleSnapshot
  else if snapshot.daysToEvent < policy.minimumDaysToEvent then
    .hold .tooCloseToEvent
  else if snapshot.spendLast7dMinor < policy.minimumObservationSpendMinor then
    .hold .insufficientObservation
  else if coolingDown snapshot policy now then
    .hold .cooldown
  else
    let roas := roasBasisPoints snapshot.attributedRevenueLast7dMinor snapshot.spendLast7dMinor
    if policy.increaseRoasBasisPoints ≤ roas then
      if snapshot.workspaceMaximumDailyBudgetMinor.isNone ||
          snapshot.workspaceMaximumMonthlySpendMinor.isNone then
        .hold .missingWorkspaceGuardrail
      else
        adjustment snapshot policy roas .increase
    else if roas ≤ policy.decreaseRoasBasisPoints then
      adjustment snapshot policy roas .decrease
    else
      .hold .performanceInBand

end Evaluation

section Bounds

variable {snapshot : PromotionPerformanceSnapshot} {policy : PromotionBudgetPolicy}
  {now : OffsetDateTime} {fromMinor toMinor : I64} {confidence : Confidence}

theorem within_of_snapshotIsValid (valid : snapshotIsValid snapshot now) :
    snapshot.minimumDailyBudgetMinor ≤ snapshot.currentDailyBudgetMinor ∧
      snapshot.currentDailyBudgetMinor ≤ snapshot.maximumDailyBudgetMinor := by
  simp only [snapshotIsValid, Bool.and_eq_true, decide_eq_true_eq] at valid
  obtain ⟨⟨⟨⟨⟨⟨⟨⟨⟨⟨⟨_, lower⟩, upper⟩, _⟩, _⟩, _⟩, _⟩, _⟩, _⟩, _⟩, _⟩, _⟩ := valid
  exact ⟨lower, upper⟩

theorem one_le_change :
    1 ≤ (max (mulBasisPointsCeil snapshot.currentDailyBudgetMinor
      policy.maximumChangeBasisPoints) 1).val := by
  rw [val_max]
  exact le_max_right _ _

theorem proposedBudget_increase
    (within : snapshot.currentDailyBudgetMinor ≤ snapshot.maximumDailyBudgetMinor) :
    snapshot.currentDailyBudgetMinor ≤ proposedBudget snapshot policy .increase ∧
      proposedBudget snapshot policy .increase ≤ snapshot.maximumDailyBudgetMinor := by
  have change := @one_le_change snapshot policy
  refine ⟨le_min ?_ within, min_le_right _ _⟩
  exact le_saturatingAdd _ (le_trans Int.one_nonneg change)

theorem proposedBudget_decrease
    (within : snapshot.minimumDailyBudgetMinor ≤ snapshot.currentDailyBudgetMinor) :
    snapshot.minimumDailyBudgetMinor ≤ proposedBudget snapshot policy .decrease ∧
      proposedBudget snapshot policy .decrease ≤ snapshot.currentDailyBudgetMinor := by
  have change := @one_le_change snapshot policy
  refine ⟨le_max_right _ _, max_le ?_ within⟩
  exact saturatingSub_le _ (le_trans Int.one_nonneg change)

/-- What every evaluated change of a budget keeps to. -/
structure BoundedChange
    (snapshot : PromotionPerformanceSnapshot)
    (fromMinor toMinor : I64)
    (direction : BudgetDirection) : Prop where
  base : fromMinor = snapshot.currentDailyBudgetMinor
  lower : snapshot.minimumDailyBudgetMinor ≤ toMinor
  upper : toMinor ≤ snapshot.maximumDailyBudgetMinor
  cuts : direction = .decrease → toMinor < fromMinor
  raises :
    direction = .increase →
      fromMinor < toMinor ∧ overWorkspaceCap snapshot toMinor = false

theorem adjustment_bounded (valid : snapshotIsValid snapshot now) {roas readRoas : U32}
    {direction taken : BudgetDirection}
    (adjusts :
      adjustment snapshot policy roas direction =
        .adjust fromMinor toMinor taken readRoas confidence) :
    BoundedChange snapshot fromMinor toMinor taken := by
  obtain ⟨lower, upper⟩ := within_of_snapshotIsValid valid
  unfold adjustment at adjusts
  simp only at adjusts
  split at adjusts
  · cases adjusts
  · rename_i moved
    split at adjusts
    · cases adjusts
    · rename_i fits
      cases adjusts
      cases direction with
      | increase =>
        obtain ⟨grows, bounded⟩ := @proposedBudget_increase snapshot policy upper
        exact
          { base := rfl
            lower := le_trans lower grows
            upper := bounded
            cuts := fun other => by cases other
            raises := fun _ =>
              ⟨lt_of_le_of_ne grows (Ne.symm moved),
                Bool.eq_false_iff.mpr fun beyond => fits ⟨rfl, beyond⟩⟩ }
      | decrease =>
        obtain ⟨bounded, shrinks⟩ := @proposedBudget_decrease snapshot policy lower
        exact
          { base := rfl
            lower := bounded
            upper := le_trans shrinks upper
            cuts := fun _ => lt_of_le_of_ne shrinks moved
            raises := fun other => by cases other }

/-- A change is one adjustment of a valid snapshot, out of the cooldown and on
the side of the band its return lies on. -/
theorem adjustment_of_evaluate {roas : U32} {direction : BudgetDirection}
    (adjusts :
      evaluatePromotionBudget snapshot policy now =
        .adjust fromMinor toMinor direction roas confidence) :
    snapshotIsValid snapshot now = true ∧
      coolingDown snapshot policy now = false ∧
      adjustment snapshot policy roas direction =
        .adjust fromMinor toMinor direction roas confidence ∧
      (direction = .increase → policy.increaseRoasBasisPoints ≤ roas) ∧
      (direction = .decrease → roas ≤ policy.decreaseRoasBasisPoints) := by
  have kept :
      ∀ {read : U32} {side : BudgetDirection},
        adjustment snapshot policy read side = .adjust fromMinor toMinor direction roas confidence →
          read = roas ∧ side = direction := by
    intro read side isAdjusted
    unfold adjustment at isAdjusted
    dsimp only at isAdjusted
    split at isAdjusted
    · cases isAdjusted
    split at isAdjusted
    · cases isAdjusted
    cases isAdjusted
    exact ⟨rfl, rfl⟩
  unfold evaluatePromotionBudget at adjusts
  split at adjusts
  · cases adjusts
  split at adjusts
  · cases adjusts
  rename_i valid
  split at adjusts
  · cases adjusts
  split at adjusts
  · cases adjusts
  split at adjusts
  · cases adjusts
  split at adjusts
  · cases adjusts
  split at adjusts
  · cases adjusts
  rename_i rested
  refine ⟨by simpa using valid, by simpa using rested, ?_⟩
  dsimp only at adjusts
  split at adjusts
  · rename_i earned
    split at adjusts
    · cases adjusts
    obtain ⟨rfl, rfl⟩ := kept adjusts
    exact ⟨adjusts, fun _ => earned, BudgetDirection.noConfusion⟩
  split at adjusts
  · rename_i lost
    obtain ⟨rfl, rfl⟩ := kept adjusts
    exact ⟨adjusts, BudgetDirection.noConfusion, fun _ => lost⟩
  · cases adjusts

/-- The most the policy moves a budget by at once. -/
def largestChange (policy : PromotionBudgetPolicy) (budget : I64) : I64 :=
  max (mulBasisPointsCeil budget policy.maximumChangeBasisPoints) 1

theorem proposedBudget_near (valid : snapshotIsValid snapshot now = true)
    (direction : BudgetDirection) :
    (proposedBudget snapshot policy direction).val ≤ snapshot.currentDailyBudgetMinor.val +
          (largestChange policy snapshot.currentDailyBudgetMinor).val ∧
      snapshot.currentDailyBudgetMinor.val ≤ (proposedBudget snapshot policy direction).val +
          (largestChange policy snapshot.currentDailyBudgetMinor).val := by
  obtain ⟨lower, upper⟩ := within_of_snapshotIsValid valid
  rw [le_iff_val] at lower upper
  have change := @one_le_change snapshot policy
  have inRange := snapshot.currentDailyBudgetMinor.lower
  have below := snapshot.currentDailyBudgetMinor.upper
  cases direction with
  | increase =>
    have grows := (@proposedBudget_increase snapshot policy upper).1
    rw [le_iff_val] at grows
    refine ⟨?_, le_trans grows (Int.le_add_of_nonneg_right (le_trans Int.one_nonneg change))⟩
    refine le_trans (le_iff_val.mp (min_le_left _ _)) ?_
    rw [val_saturatingAdd]
    exact max_le (by unfold largestChange; omega) (min_le_right _ _)
  | decrease =>
    have shrinks := (@proposedBudget_decrease snapshot policy lower).2
    rw [le_iff_val] at shrinks
    refine ⟨le_trans shrinks (Int.le_add_of_nonneg_right (le_trans Int.one_nonneg change)), ?_⟩
    refine Int.le_add_of_sub_right_le (le_trans ?_ (le_iff_val.mp (le_max_left _ _)))
    rw [val_saturatingSub]
    exact le_max_of_le_right (le_min (by unfold largestChange; omega) le_rfl)

end Bounds

/-- A campaign that earns three times what it spends. -/
def earningCampaign : PromotionPerformanceSnapshot where
  campaignId := 1
  currentDailyBudgetMinor := 10000
  minimumDailyBudgetMinor := 1000
  maximumDailyBudgetMinor := 20000
  spendLast7dMinor := 70000
  attributedRevenueLast7dMinor := 210000
  workspaceDailyBudgetMinor := 30000
  workspaceSpendMonthToDateMinor := 100000
  workspaceMaximumDailyBudgetMinor := some 50000
  workspaceMaximumMonthlySpendMinor := some 1000000
  daysToEvent := 10
  active := true
  lastBudgetChangeAt := some 0
  observedAt := 24 * nanosPerHour
  expiresAt := 48 * nanosPerHour

end CrowdRelay
