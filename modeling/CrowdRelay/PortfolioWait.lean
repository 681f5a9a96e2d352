import CrowdRelay.DiminishingReturns
import CrowdRelay.PortfolioReasons

namespace CrowdRelay

open MachineInt GreedySelection

/-!
# Waiting as a candidate

Doing nothing is worth something too: what pending measurements will teach, and
what a tired audience recovers.  Before it selects, the optimizer asks whether
waiting is worth more than acting, unless acting is the only way to learn what
the waiting is for.
-/

/-- What waiting is worth, in expected fans. -/
structure WaitCandidateValue where
  valueOfInformation : ℚ
  fatigueRecoveryValue : ℚ
  opportunityCost : ℚ
  optionValue : ℚ
  deriving DecidableEq

namespace WaitCandidateValue

def total (wait : WaitCandidateValue) : ℚ :=
  wait.valueOfInformation + wait.fatigueRecoveryValue + wait.optionValue + wait.opportunityCost

/-- What waiting is worth for reasons that acting cannot supply. -/
def totalExcludingInformation (wait : WaitCandidateValue) : ℚ :=
  wait.fatigueRecoveryValue + wait.optionValue + wait.opportunityCost

def decisionSensitivity : ℚ := 1 / 10

def voiPendingMeasurementCap : U32 := 10

/-- The value of waiting in the current state. -/
def compute (bestCandidateExpectedY30 : ℚ) (countPendingMeasurements : U32)
    (avgTreatmentStd fatigueRecoveryValue : ℚ) : WaitCandidateValue where
  valueOfInformation :=
    (min countPendingMeasurements voiPendingMeasurementCap).val
      * avgTreatmentStd * decisionSensitivity
  fatigueRecoveryValue := fatigueRecoveryValue
  opportunityCost := -bestCandidateExpectedY30
  optionValue := 0

end WaitCandidateValue

def twoDecimals (amount : ℚ) : String :=
  let scaled := |amount| * 100
  let below := scaled.num.toNat / scaled.den
  let twice := 2 * (scaled.num.toNat % scaled.den)
  let cents :=
    if scaled.den < twice ∨ (twice = scaled.den ∧ below % 2 = 1) then below + 1 else below
  (if amount < 0 then "-" else "") ++ toString (cents / 100) ++ "."
    ++ toString (cents % 100 / 10) ++ toString (cents % 10)

namespace PortfolioOptimizer

variable (optimizer : PortfolioOptimizer) (candidates : List PortfolioCandidate)
  (wait : WaitCandidateValue)

/-- Waiting for information must not keep the brain from ever acting. -/
def minDispatchesOverridesWait : Bool :=
  decide (0 < optimizer.config.minDispatches)
    && candidates.any (fun candidate => decide (0 < candidate.total))
    && decide (wait.totalExcludingInformation ≤ optimizer.config.minMarginalValue)

/-- Whether nothing is done because waiting is worth more. -/
def waitWins : Bool :=
  decide (0 < wait.total)
    && decide (optimizer.config.minMarginalValue < wait.total)
    && !optimizer.minDispatchesOverridesWait candidates wait

def noCandidatesReason (wait : WaitCandidateValue) : String :=
  "WAIT wins: no action candidates. VOI="
    ++ twoDecimals wait.valueOfInformation
    ++ ", fatigue_recovery=" ++ twoDecimals wait.fatigueRecoveryValue
    ++ ", opportunity_cost=" ++ twoDecimals wait.opportunityCost
    ++ ", total=" ++ twoDecimals wait.total

def waitWinsReason (wait : WaitCandidateValue) (bestActionValue : ℚ) : String :=
  "WAIT wins: VOI=" ++ twoDecimals wait.valueOfInformation
    ++ ", fatigue_recovery=" ++ twoDecimals wait.fatigueRecoveryValue
    ++ ", option_value=" ++ twoDecimals wait.optionValue
    ++ ", opportunity_cost=" ++ twoDecimals wait.opportunityCost
    ++ ", net_utility=" ++ twoDecimals wait.total
    ++ " > 0 (best_action_value=" ++ twoDecimals bestActionValue ++ ")"

def overriddenIdleReason : String :=
  "WAIT overridden by min_dispatches: VOI="
    ++ twoDecimals wait.valueOfInformation
    ++ ", net_utility=" ++ twoDecimals wait.total
    ++ " > 0 but min_dispatches="
    ++ toString optimizer.config.minDispatches.val ++ " forced action"

def overriddenReason
    (selectedCount : Nat) : String :=
  "WAIT overridden by min_dispatches="
    ++ toString optimizer.config.minDispatches.val
    ++ ": VOI=" ++ twoDecimals wait.valueOfInformation
    ++ ", net_utility=" ++ twoDecimals wait.total
    ++ " > 0, dispatched " ++ toString selectedCount
    ++ " candidate(s) with positive value"

def selectWithWait : PortfolioSelection :=
  if candidates.isEmpty then
    { PortfolioSelection.default with
      doNothing := true
      waitReason := if 0 < wait.total then some (noCandidatesReason wait) else none }
  else if optimizer.waitWins candidates wait then
    { selected := []
      rejected := candidates.map (PortfolioCandidate.rejection .negativeMarginalValue)
      totalExpectedFans := 0
      doNothing := true
      waitReason :=
        some (waitWinsReason wait ((candidates.map PortfolioCandidate.total).foldl max 0))
      marginalAdjustments := fun _ => none }
  else
    let selection := optimizer.select candidates
    if 0 < wait.total ∧ selection.selected.isEmpty = true ∧
        optimizer.minDispatchesOverridesWait candidates wait = true then
      { selection with
        waitReason := some (optimizer.overriddenIdleReason wait) }
    else if 0 < wait.total ∧ selection.selected.isEmpty = false ∧
        optimizer.minDispatchesOverridesWait candidates wait = true then
      { selection with
        waitReason := some (optimizer.overriddenReason wait selection.selected.length) }
    else
      selection

section Waiting

variable {optimizer : PortfolioOptimizer} {candidates : List PortfolioCandidate}
  {wait : WaitCandidateValue}

/-- An optimizer that is to act, and a candidate worth acting on. -/
structure ActivityAsked
    (optimizer : PortfolioOptimizer)
    (candidates : List PortfolioCandidate) : Prop where
  minDispatches : 1 ≤ optimizer.config.minDispatches.val
  maxDispatches : 1 ≤ optimizer.config.maxDispatches.val
  noBudget : ¬ 0 < optimizer.config.costBudget
  noProvenBound : optimizer.provenOnlyBeyond = none
  promising :
    ∃ candidate ∈ candidates,
      0 < candidate.total ∧ 0 < (optimizer.inputsBeside 0 candidate).factor

/-- Waiting is worth more than the threshold, even with nothing to learn. -/
structure WaitingOutweighs
    (optimizer : PortfolioOptimizer)
    (wait : WaitCandidateValue) : Prop where
  excludingInformation :
    optimizer.config.minMarginalValue < wait.totalExcludingInformation
  inTotal : max 0 optimizer.config.minMarginalValue < wait.total

theorem waitWins_iff (asked : optimizer.ActivityAsked candidates) :
    optimizer.waitWins candidates wait = true ↔ optimizer.WaitingOutweighs wait := by
  obtain ⟨candidate, isCandidate, worth, -⟩ := asked.promising
  have some_positive : candidates.any (fun candidate => decide (0 < candidate.total)) = true :=
    List.any_eq_true.mpr ⟨candidate, isCandidate, decide_eq_true worth⟩
  have asks : (0 : U32) < optimizer.config.minDispatches := by
    rw [Ranged.lt_iff_val]
    exact asked.minDispatches
  simp only [waitWins, minDispatchesOverridesWait, some_positive,
    decide_eq_true asks, Bool.true_and, Bool.and_eq_true,
    Bool.not_eq_true', decide_eq_true_eq, decide_eq_false_iff_not, not_le]
  constructor
  · rintro ⟨⟨positive, above⟩, survives⟩
    exact ⟨survives, max_lt positive above⟩
  · rintro ⟨survives, outweighs⟩
    exact ⟨⟨(le_max_left _ _).trans_lt outweighs, (le_max_right _ _).trans_lt outweighs⟩, survives⟩

/-- With a slot to give, an optimizer that is to act acts. -/
theorem select_ne_nil (asked : optimizer.ActivityAsked candidates)
    (slotLeft : 0 < optimizer.totalSlotLimit.val) :
    (optimizer.select candidates).selected ≠ [] := by
  obtain ⟨candidate, isCandidate, worth, factor⟩ := asked.promising
  obtain ⟨last, reason, -, stops, -, outcome⟩ := optimizer.exists_ending candidates
  rw [outcome.selected]
  intro nothing
  have nonePicked : last.picked = [] := List.map_eq_nil_iff.mp nothing
  obtain ⟨picked, round⟩ := last
  subst nonePicked
  have tracks := outcome.tracks
  have isLeft : candidate ∈ round.remaining := tracks.allPlaced.mem_iff.mpr isCandidate
  have noneSelected : round.selected.length = 0 := tracks.length_selected
  have isEligible : optimizer.Eligible (0 : Multiset _) candidate := by
    refine ⟨slotLeft, fun hasBudget => absurd hasBudget asked.noBudget, ?_, ?_⟩
    · intro full
      have maxDispatches := asked.maxDispatches
      rw [Multiset.card_zero] at full
      omega
    · intro base isBase
      rw [asked.noProvenBound] at isBase
      cases isBase
  have marginal : 0 < (optimizer.adjustmentsBeside 0 candidate).marginalY30 := by
    rw [marginal_beside]
    exact mul_pos worth factor
  cases stops with
  | closed noRound =>
    refine noRound ⟨?_, List.ne_nil_of_mem isLeft⟩
    rw [noneSelected]
    exact slotLeft
  | decided roundOpen stops =>
    rcases verdict_stop stops with
      ⟨none, -⟩ | ⟨index, best, found, notWorth, -⟩
    · exact tracks.bestRemaining_none roundOpen none candidate isLeft
        isEligible
    · have atMost := (tracks.bestRemaining_some roundOpen found).2 candidate isLeft
          isEligible
      have positive : 0 < best.marginalY30 := marginal.trans_le atMost
      have asks := asked.minDispatches
      have isWorth : optimizer.worthTaking 0 best.marginalY30 = true :=
        (worthTaking_iff (by norm_num) best.marginalY30).mpr (.inr ⟨by omega, positive⟩)
      rw [noneSelected, isWorth] at notWorth
      cases notWorth

theorem select_eq_nil_of_no_slot (noSlot : optimizer.totalSlotLimit.val = 0) :
    (optimizer.select candidates).selected = [] := by
  obtain ⟨last, reason, -, -, -, outcome⟩ := optimizer.exists_ending candidates
  have fewer := outcome.tracks.placed.length_le
  have none : last.picked = [] := List.length_eq_zero_iff.mp (by omega)
  rw [outcome.selected, none, List.map_nil]

/-- The two slot counts are added in 32 bits, so together they may be
nothing. -/
theorem totalSlotLimit_eq_zero_iff (some_normal : 1 ≤ optimizer.config.maxDispatches.val) :
    optimizer.totalSlotLimit.val = 0 ↔
      optimizer.config.maxDispatches.val + optimizer.config.experimentalDispatchBudget.val =
        4294967296 := by
  have normal := optimizer.config.maxDispatches.upper
  have experimental := optimizer.config.experimentalDispatchBudget.upper
  have experimentalNonneg := optimizer.config.experimentalDispatchBudget.lower
  rw [totalSlotLimit, Ranged.val_wrap]
  omega

theorem selectWithWait_waits (wins : optimizer.waitWins candidates wait = true) :
    (optimizer.selectWithWait candidates wait).selected = [] ∧
      (optimizer.selectWithWait candidates wait).rejected =
        candidates.map (PortfolioCandidate.rejection .negativeMarginalValue) := by
  cases candidates with
  | nil => exact ⟨rfl, rfl⟩
  | cons first rest =>
    rw [selectWithWait, if_neg (by simp), if_pos wins]
    exact ⟨rfl, rfl⟩

theorem selectWithWait_acts (loses : optimizer.waitWins candidates wait = false) :
    (optimizer.selectWithWait candidates wait).selected =
      (optimizer.select candidates).selected := by
  cases candidates with
  | nil => rfl
  | cons first rest =>
    rw [selectWithWait, if_neg (by simp), if_neg (Bool.eq_false_iff.mp loses)]
    dsimp only
    split_ifs <;> rfl

end Waiting

/-- What is asked of waiting: it keeps an optimizer that is to act from acting
only where it outweighs acting, and then every candidate is told so, once. -/
structure WaitsRightly
    (optimizer : PortfolioOptimizer)
    (candidates : List PortfolioCandidate)
    (wait : WaitCandidateValue) : Prop where
  activity :
    optimizer.ActivityAsked candidates →
      (optimizer.selectWithWait candidates wait).selected ≠ [] ∨
        optimizer.WaitingOutweighs wait
  waiting :
    optimizer.waitWins candidates wait = true →
      (optimizer.selectWithWait candidates wait).selected = [] ∧
        (optimizer.selectWithWait candidates wait).rejected =
          candidates.map
            (PortfolioCandidate.rejection .negativeMarginalValue)

/-- Waiting never overrides the minimum activity, except that an optimizer
whose slots add up to exactly 2 to the 32nd has none. -/
theorem waits_rightly_iff
    (optimizer : PortfolioOptimizer)
    (candidates : List PortfolioCandidate)
    (wait : WaitCandidateValue) :
    optimizer.WaitsRightly candidates wait ↔
      (optimizer.ActivityAsked candidates →
        optimizer.config.maxDispatches.val
              + optimizer.config.experimentalDispatchBudget.val ≠
            4294967296 ∨
          optimizer.WaitingOutweighs wait) := by
  constructor
  · intro rightly asked
    by_cases outweighs : optimizer.WaitingOutweighs wait
    · exact .inr outweighs
    · left
      intro overflow
      have acts := (rightly.activity asked).resolve_right outweighs
      have loses : optimizer.waitWins candidates wait = false :=
        Bool.eq_false_iff.mpr fun wins =>
          outweighs ((waitWins_iff asked).mp wins)
      rw [selectWithWait_acts loses] at acts
      exact acts (select_eq_nil_of_no_slot
        ((totalSlotLimit_eq_zero_iff asked.maxDispatches).mpr overflow))
  · intro fits
    refine ⟨fun asked => ?_, selectWithWait_waits⟩
    by_cases outweighs : optimizer.WaitingOutweighs wait
    · exact .inr outweighs
    · left
      have loses : optimizer.waitWins candidates wait = false :=
        Bool.eq_false_iff.mpr fun wins =>
          outweighs ((waitWins_iff asked).mp wins)
      have limited := (fits asked).resolve_right outweighs
      have nonzero : optimizer.totalSlotLimit.val ≠ 0 :=
        fun zero =>
          limited
            ((totalSlotLimit_eq_zero_iff asked.maxDispatches).mp zero)
      have lower := optimizer.totalSlotLimit.lower
      rw [selectWithWait_acts loses]
      exact select_ne_nil asked (by omega)

/-- One normal slot, and as many for experiments as 32 bits hold. -/
def overflowingSlots : PortfolioOptimizer where
  config :=
    { PortfolioConfig.default with
      maxDispatches := 1
      experimentalDispatchBudget := 4294967295 }
  actHistory := fun _ => none
  provenOnlyBeyond := none
  provenAudiences := ∅

/-- With nothing to wait for, a post of value is left undone. -/
theorem overflowing_slots_stay_idle :
    ¬ overflowingSlots.WaitsRightly [communityPost "black" 5]
        ⟨0, 0, 0, 0⟩ := by
  intro rightly
  have asked : overflowingSlots.ActivityAsked [communityPost "black" 5] :=
    ⟨by decide +kernel, by decide +kernel, by decide +kernel, rfl,
      communityPost "black" 5, List.mem_singleton_self _,
      by decide +kernel, by decide +kernel⟩
  rcases rightly.activity asked with acts | outweighs
  · exact absurd acts (by decide +kernel)
  · exact absurd outweighs.excludingInformation (by decide +kernel)

end PortfolioOptimizer

end CrowdRelay
