import Mathlib.Algebra.Ring.Int.Defs
import Mathlib.Algebra.Order.BigOperators.Group.List
import Mathlib.Algebra.Order.Group.Int
import CrowdRelay.Fallible
import CrowdRelay.KeyedTable
import CrowdRelay.Persist
import CrowdRelay.PromotionBudget

namespace CrowdRelay

open MachineInt Ranged KeyedTable Fallible

/-!
# The check before a budget is raised

A raise is asked of the provider only where the budgets that are reported and
not expired, the raises that are reserved and not expired, and the raise
itself fit the operator's daily cap.  The reservation is made in the same
transaction.
-/

structure PromotionCampaignFacts where
  provider : String
  externalCampaignKey : String
  currency : String
  currentDailyBudgetMinor : I64
  spendMonthToDateMinor : I64
  active : Bool
  observedAt : OffsetDateTime
  expiresAt : OffsetDateTime
  budgetPositive : 0 < currentDailyBudgetMinor.val
  spendNonnegative : 0 ≤ spendMonthToDateMinor.val
  expires : observedAt < expiresAt
  deriving Repr, DecidableEq

structure PromotionCampaignState extends PromotionCampaignFacts where
  id : Uuid
  deriving Repr, DecidableEq

structure PromotionBudgetGuardrail where
  currency : String
  maximumTotalDailyBudgetMinor : I64
  maximumMonthlySpendMinor : I64
  deriving Repr, DecidableEq

structure PromotionBudgetReservation where
  actionId : Uuid
  campaignId : Uuid
  currency : String
  dailyDeltaMinor : I64
  expiresAt : OffsetDateTime
  deltaPositive : 0 < dailyDeltaMinor.val
  deriving Repr, DecidableEq

/-- The tables that the check reads and writes. -/
structure PromotionStore where
  states : List PromotionCampaignState
  guardrails : List PromotionBudgetGuardrail
  reservations : List PromotionBudgetReservation
  deriving Repr, DecidableEq

/-- The action: one campaign's budget, and what it is to become. -/
structure BudgetChangeRequest where
  actionId : Uuid
  campaignId : Uuid
  expectedBudgetMinor : I64
  proposedBudgetMinor : I64
  deriving Repr, DecidableEq

section Preflight

variable (store : PromotionStore) (now : OffsetDateTime)

/-- The report counts while it is active and has not expired. -/
def PromotionCampaignState.isLive (state : PromotionCampaignState) : Bool :=
  state.active && now < state.expiresAt

def PromotionStore.liveState
    (campaignId : Uuid) : Option PromotionCampaignState :=
  store.states.find? fun state => state.id = campaignId && state.isLive now

def PromotionStore.guardrail
    (currency : String) : Option PromotionBudgetGuardrail :=
  store.guardrails.find? fun guardrail => guardrail.currency = currency

def PromotionStore.liveStates
    (currency : String) : List PromotionCampaignState :=
  store.states.filter fun state =>
    state.currency = currency && state.isLive now

def PromotionStore.dailyBudgetMinor (currency : String) : Int :=
  ((store.liveStates now currency).map fun state =>
    state.currentDailyBudgetMinor.val).sum

def PromotionStore.monthToDateMinor (currency : String) : Int :=
  ((store.liveStates now currency).map fun state =>
    state.spendMonthToDateMinor.val).sum

def PromotionStore.reservedDeltaMinor (currency : String) : Int :=
  ((store.reservations.filter fun reservation =>
      reservation.currency = currency && now < reservation.expiresAt).map
    fun reservation => reservation.dailyDeltaMinor.val).sum

/-- Exact arithmetic of the transaction, or its failure. -/
def checked (answer : Option I64) : Except RepositoryError I64 :=
  answer.elim (.error .unexpected) .ok

/-- A sum that the database casts to a column's type, or fails on. -/
def castToBigint (sum : Int) : Except RepositoryError I64 := checked (tryFrom sum)

variable (request : BudgetChangeRequest)

/-- Reserves the raise for a day, unless the action holds a reservation. -/
def PromotionStore.reserve (currency : String) (delta : I64)
    (positive : 0 < delta.val) : PromotionStore :=
  { store with
    reservations :=
      insertUnlessPresent PromotionBudgetReservation.actionId
        { actionId := request.actionId
          campaignId := request.campaignId
          currency := currency
          dailyDeltaMinor := delta
          expiresAt := now + 24 * nanosPerHour
          deltaPositive := positive }
        store.reservations }

/-- The check of a raise against the caps of its currency. -/
def PromotionStore.ensureRaiseFits (currency : String) (guardrail : PromotionBudgetGuardrail) :
    Except RepositoryError PromotionStore := do
  let dailyBudget ← castToBigint (store.dailyBudgetMinor now currency)
  let monthToDate ← castToBigint (store.monthToDateMinor now currency)
  let reservedDelta ← castToBigint (store.reservedDeltaMinor now currency)
  let delta ← checked (request.proposedBudgetMinor.checkedSub request.expectedBudgetMinor)
  let projectedDaily ←
    checked ((dailyBudget.checkedAdd reservedDelta).bind fun value =>
      value.checkedAdd delta)
  if guardrail.maximumTotalDailyBudgetMinor < projectedDaily ∨
      guardrail.maximumMonthlySpendMinor ≤ monthToDate then
    .error .conflict
  else if positive : 0 < delta.val then
    .ok (store.reserve now request currency delta positive)
  else
    .error .unexpected

def PromotionStore.ensurePromotionStateCurrent : Except RepositoryError PromotionStore :=
  match store.liveState now request.campaignId with
  | none => .error .notFound
  | some current =>
    if current.currentDailyBudgetMinor ≠ request.expectedBudgetMinor then
      .error .conflict
    else if request.proposedBudgetMinor ≤ request.expectedBudgetMinor then
      .ok store
    else
      match store.guardrail current.currency with
      | none => .error .conflict
      | some guardrail =>
        store.ensureRaiseFits now request current.currency guardrail

/-- A report replaces an older one of its campaign, or starts a new row. -/
def PromotionStore.upsertPromotionCampaignState (newId : Uuid) (facts : PromotionCampaignFacts) :
    Except RepositoryError PromotionStore :=
  match store.states.find? fun state =>
      state.provider = facts.provider && state.externalCampaignKey = facts.externalCampaignKey with
  | none =>
    .ok { store with
      states := store.states ++ [{ facts with id := newId }] }
  | some existing =>
    if existing.observedAt < facts.observedAt then
      .ok { store with
        states := store.states.map fun state =>
          if state.id = existing.id then { facts with id := existing.id } else state }
    else
      .error .conflict

end Preflight

section Specs

variable {store after : PromotionStore} {now : OffsetDateTime} {request : BudgetChangeRequest}
  {currency : String} {guardrail : PromotionBudgetGuardrail}

/-- What the check counts as spent per day: reports and reservations. -/
def PromotionStore.countedMinor (store : PromotionStore) (now : OffsetDateTime)
    (currency : String) : Int :=
  store.dailyBudgetMinor now currency + store.reservedDeltaMinor now currency

def BudgetChangeRequest.deltaMinor (request : BudgetChangeRequest) : Int :=
  request.proposedBudgetMinor.val - request.expectedBudgetMinor.val

/-- The caps leave room for what is counted and the raise. -/
def PromotionStore.RaiseFits (store : PromotionStore) (now : OffsetDateTime)
    (request : BudgetChangeRequest) (currency : String)
    (guardrail : PromotionBudgetGuardrail) : Prop :=
  store.countedMinor now currency + request.deltaMinor ≤
      guardrail.maximumTotalDailyBudgetMinor.val ∧
    store.monthToDateMinor now currency < guardrail.maximumMonthlySpendMinor.val

theorem dailyBudgetMinor_nonneg : 0 ≤ store.dailyBudgetMinor now currency := by
  refine List.sum_nonneg fun value member => ?_
  obtain ⟨state, _, rfl⟩ := List.mem_map.mp member
  exact le_of_lt state.budgetPositive

theorem monthToDateMinor_nonneg : 0 ≤ store.monthToDateMinor now currency := by
  refine List.sum_nonneg fun value member => ?_
  obtain ⟨state, _, rfl⟩ := List.mem_map.mp member
  exact state.spendNonnegative

theorem reservedDeltaMinor_nonneg : 0 ≤ store.reservedDeltaMinor now currency := by
  refine List.sum_nonneg fun value member => ?_
  obtain ⟨reservation, _, rfl⟩ := List.mem_map.mp member
  exact le_of_lt reservation.deltaPositive

@[simp] theorem checked_eq_ok_iff {answer : Option I64} {value : I64} :
    checked answer = .ok value ↔ answer = some value := by
  cases answer <;> simp [checked]

theorem castToBigint_eq_ok_iff {sum : Int} {value : I64} :
    castToBigint sum = .ok value ↔ value.val = sum := by
  rw [castToBigint, checked_eq_ok_iff, tryFrom_eq_some_iff]

theorem ensureRaiseFits_ok
    (passed : store.ensureRaiseFits now request currency guardrail = .ok after) :
    store.RaiseFits now request currency guardrail ∧
      ∃ (delta : I64) (positive : 0 < delta.val),
        delta.val = request.deltaMinor ∧
          after = store.reserve now request currency delta positive := by
  simp only [PromotionStore.ensureRaiseFits, bind_eq_ok_iff,
    castToBigint_eq_ok_iff, checked_eq_ok_iff, Option.bind_eq_some_iff]
    at passed
  obtain ⟨daily, isDaily, spent, isSpent, reserved, isReserved, delta, isDelta,
    projected, ⟨between, isBetween, isProjected⟩, decided⟩ := passed
  rw [checkedAdd, tryFrom_eq_some_iff] at isBetween isProjected
  rw [checkedSub, tryFrom_eq_some_iff] at isDelta
  split at decided
  · cases decided
  · rename_i fits
    rw [not_or, not_lt, not_le, le_iff_val, lt_iff_val] at fits
    split at decided
    · rename_i positive
      refine ⟨⟨?_, ?_⟩, delta, positive, isDelta, (Except.ok.inj decided).symm⟩
      · rw [PromotionStore.countedMinor, BudgetChangeRequest.deltaMinor,
          ← isDaily, ← isReserved, ← isDelta, ← isBetween, ← isProjected]
        exact fits.1
      · rw [← isSpent]
        exact fits.2
    · cases decided

theorem ensureRaiseFits_of_fits (positive : 0 < request.expectedBudgetMinor.val)
    (raises : request.expectedBudgetMinor < request.proposedBudgetMinor)
    (fits : store.RaiseFits now request currency guardrail) :
    ∃ after, store.ensureRaiseFits now request currency guardrail = .ok after := by
  obtain ⟨underCap, underSpend⟩ := fits
  have daily := @dailyBudgetMinor_nonneg store now currency
  have spent := @monthToDateMinor_nonneg store now currency
  have reserved := @reservedDeltaMinor_nonneg store now currency
  have capped := guardrail.maximumTotalDailyBudgetMinor.upper
  have limited := guardrail.maximumMonthlySpendMinor.upper
  have bounded := request.proposedBudgetMinor.upper
  rw [lt_iff_val] at raises
  rw [PromotionStore.countedMinor, BudgetChangeRequest.deltaMinor] at underCap
  have exact :
      ∀ sum : Int,
        0 ≤ sum →
        sum ≤ 9223372036854775807 →
        ∃ value : I64, value.val = sum :=
    fun sum nonneg fitting =>
      ⟨⟨sum, by omega, fitting⟩, rfl⟩
  obtain ⟨dailyBudget, isDaily⟩ := exact _ daily (by omega)
  obtain ⟨monthToDate, isSpent⟩ := exact _ spent (by omega)
  obtain ⟨reservedDelta, isReserved⟩ := exact _ reserved (by omega)
  obtain ⟨delta, isDelta⟩ :=
    exact (request.proposedBudgetMinor.val - request.expectedBudgetMinor.val) (by omega) (by omega)
  obtain ⟨between, isBetween⟩ := exact (dailyBudget.val + reservedDelta.val) (by omega) (by omega)
  obtain ⟨projected, isProjected⟩ := exact (between.val + delta.val) (by omega) (by omega)
  have fits :
      ¬ (guardrail.maximumTotalDailyBudgetMinor < projected ∨
          guardrail.maximumMonthlySpendMinor ≤ monthToDate) := by
    rw [not_or, not_lt, not_le, le_iff_val, lt_iff_val]
    omega
  have grows : 0 < delta.val := by omega
  refine ⟨store.reserve now request currency delta grows, ?_⟩
  simp only [PromotionStore.ensureRaiseFits, bind_eq_ok_iff,
    castToBigint_eq_ok_iff, checked_eq_ok_iff, Option.bind_eq_some_iff]
  refine ⟨dailyBudget, isDaily, monthToDate, isSpent, reservedDelta, isReserved,
    delta, tryFrom_eq_some_iff.mpr isDelta, projected,
    ⟨between, tryFrom_eq_some_iff.mpr isBetween, tryFrom_eq_some_iff.mpr isProjected⟩, ?_⟩
  rw [if_neg fits, dif_pos grows]

/-- The check lets the change through. -/
def PromotionStore.Passes (store : PromotionStore) (now : OffsetDateTime)
    (request : BudgetChangeRequest) : Prop :=
  ∃ current ∈ store.liveState now request.campaignId,
    current.currentDailyBudgetMinor = request.expectedBudgetMinor ∧
      (request.proposedBudgetMinor ≤ request.expectedBudgetMinor ∨
        ∃ guardrail ∈ store.guardrail current.currency,
          store.RaiseFits now request current.currency guardrail)

theorem ensurePromotionStateCurrent_ok_iff :
    (∃ after, store.ensurePromotionStateCurrent now request = .ok after) ↔
      store.Passes now request := by
  unfold PromotionStore.ensurePromotionStateCurrent PromotionStore.Passes
  cases live : store.liveState now request.campaignId with
  | none => simp
  | some current =>
    simp only [Option.mem_def, Option.some.injEq, exists_eq_left']
    by_cases same : current.currentDailyBudgetMinor = request.expectedBudgetMinor
    · rw [if_neg (not_not.mpr same)]
      by_cases cut : request.proposedBudgetMinor ≤ request.expectedBudgetMinor
      · simp [same, cut]
      · have positive : 0 < request.expectedBudgetMinor.val := by
          rw [← same]
          exact current.budgetPositive
        rw [if_neg cut]
        simp only [same, cut, true_and, false_or]
        cases store.guardrail current.currency with
        | none => simp
        | some guardrail =>
          simp only [Option.some.injEq, exists_eq_left']
          constructor
          · rintro ⟨after, passed⟩
            exact (ensureRaiseFits_ok passed).1
          · exact ensureRaiseFits_of_fits positive (not_le.mp cut)
    · simp [same]

end Specs

end CrowdRelay
