import Mathlib.Data.List.Sort
import CrowdRelay.PromotionSpend

namespace CrowdRelay

open MachineInt Ranged KeyedTable Machine Fallible

/-!
# The spend cap over runs

The provider has the true budget of every campaign.  It learns of an accepted
raise whenever the executor gets to it, the reports of a campaign come and
expire, and reservations expire.  What a campaign is committed to is its
budget, or the largest raise that was accepted and is still to be applied.
-/

structure ProviderCampaign where
  id : Uuid
  currency : String
  dailyBudgetMinor : Int
  deriving Repr, DecidableEq

/-- A raise that was accepted and is still to be applied. -/
structure AcceptedIncrease where
  campaignId : Uuid
  proposedBudgetMinor : Int
  deriving Repr, DecidableEq

structure SpendState where
  now : OffsetDateTime
  store : PromotionStore
  provider : List ProviderCampaign
  accepted : List AcceptedIncrease
  deriving Repr, DecidableEq

inductive SpendEvent where
  | elapse (nanos : Nat)
  | report (newId : Uuid) (facts : PromotionCampaignFacts)
  | preflight (request : BudgetChangeRequest)
  /-- The executor applies one of the accepted raises. -/
  | applyIncrease (position : Nat)
  /-- A budget is cut at the provider. -/
  | lower (campaignId : Uuid) (amount : Int)
  deriving Repr, DecidableEq

def ProviderCampaign.setTo (increase : AcceptedIncrease)
    (campaign : ProviderCampaign) : ProviderCampaign :=
  if campaign.id = increase.campaignId then
    { campaign with dailyBudgetMinor := increase.proposedBudgetMinor }
  else
    campaign

def ProviderCampaign.lowerTo (campaignId : Uuid) (amount : Int)
    (campaign : ProviderCampaign) : ProviderCampaign :=
  if campaign.id = campaignId then
    { campaign with dailyBudgetMinor := min campaign.dailyBudgetMinor amount }
  else
    campaign

/-- The raise that an accepted request asks the executor for. -/
def BudgetChangeRequest.increases
    (request : BudgetChangeRequest) : List AcceptedIncrease :=
  if request.expectedBudgetMinor < request.proposedBudgetMinor then
    [{ campaignId := request.campaignId
       proposedBudgetMinor := request.proposedBudgetMinor.val }]
  else
    []

def spendStep (state : SpendState) : SpendEvent → SpendState
  | .elapse nanos => { state with now := state.now + nanos }
  | .report newId facts =>
    match state.store.upsertPromotionCampaignState newId facts with
    | .ok store => { state with store := store }
    | .error _ => state
  | .preflight request =>
    match state.store.ensurePromotionStateCurrent state.now request with
    | .ok store =>
      { state with
        store := store
        accepted := request.increases ++ state.accepted }
    | .error _ => state
  | .applyIncrease position =>
    match state.accepted[position]? with
    | some increase =>
      { state with
        provider := state.provider.map (ProviderCampaign.setTo increase)
        accepted := state.accepted.eraseIdx position }
    | none => state
  | .lower campaignId amount =>
    { state with
      provider := state.provider.map (ProviderCampaign.lowerTo campaignId amount) }

def spending : Transducer SpendState SpendEvent Unit where
  step := fun state event => (spendStep state event, ())

/-! ## What the provider is committed to -/

/-- The largest budget that a campaign has, or will be raised to. -/
def commitment (accepted : List AcceptedIncrease)
    (campaign : ProviderCampaign) : Int :=
  accepted.foldr
    (fun increase reached =>
      if increase.campaignId = campaign.id then
        max reached increase.proposedBudgetMinor
      else
        reached)
    campaign.dailyBudgetMinor

/-- The true daily budgets of a currency. -/
def SpendState.dailySpend (state : SpendState) (currency : String) : Int :=
  ((state.provider.filter fun campaign => campaign.currency = currency).map
    ProviderCampaign.dailyBudgetMinor).sum

def SpendState.committed (state : SpendState) (currency : String) : Int :=
  ((state.provider.filter fun campaign => campaign.currency = currency).map
    (commitment state.accepted)).sum

/-- The true budgets of every currency are within the operator's daily cap. -/
def SpendState.WithinCap (state : SpendState) : Prop :=
  ∀ currency, ∀ guardrail ∈ state.store.guardrail currency,
    state.dailySpend currency ≤ guardrail.maximumTotalDailyBudgetMinor.val

section Commitments

variable {accepted : List AcceptedIncrease} {campaign : ProviderCampaign}
  {increase : AcceptedIncrease}

theorem commitment_le_iff {bound : Int} :
    commitment accepted campaign ≤ bound ↔
      campaign.dailyBudgetMinor ≤ bound ∧
        ∀ increase ∈ accepted,
          increase.campaignId = campaign.id →
          increase.proposedBudgetMinor ≤ bound := by
  induction accepted with
  | nil => simp [commitment]
  | cons increase rest inductionHypothesis =>
    rw [commitment, List.foldr_cons, ← commitment, List.forall_mem_cons]
    by_cases here : increase.campaignId = campaign.id
    · rw [if_pos here, max_le_iff, inductionHypothesis]
      simp only [here, true_implies]
      tauto
    · rw [if_neg here, inductionHypothesis]
      simp only [here, false_implies, true_and]

theorem le_commitment : campaign.dailyBudgetMinor ≤ commitment accepted campaign :=
  (commitment_le_iff.mp (le_refl _)).1

theorem proposed_le_commitment (member : increase ∈ accepted)
    (here : increase.campaignId = campaign.id) :
    increase.proposedBudgetMinor ≤ commitment accepted campaign :=
  (commitment_le_iff.mp (le_refl _)).2 increase member here

theorem commitment_setTo_le {position : Nat} (found : accepted[position]? = some increase) :
    commitment (accepted.eraseIdx position) (campaign.setTo increase) ≤
      commitment accepted campaign := by
  have member : increase ∈ accepted := List.mem_of_getElem? found
  rw [commitment_le_iff]
  have sameId : (campaign.setTo increase).id = campaign.id := by
    unfold ProviderCampaign.setTo
    split <;> rfl
  constructor
  · unfold ProviderCampaign.setTo
    split
    · rename_i here
      exact proposed_le_commitment member here.symm
    · exact le_commitment
  · intro other remains here
    rw [sameId] at here
    exact proposed_le_commitment (List.mem_of_mem_eraseIdx remains) here

theorem commitment_lowerTo_le (campaignId : Uuid) (amount : Int) :
    commitment accepted (campaign.lowerTo campaignId amount) ≤ commitment accepted campaign := by
  have sameId : (campaign.lowerTo campaignId amount).id = campaign.id := by
    unfold ProviderCampaign.lowerTo
    split <;> rfl
  rw [commitment_le_iff, sameId]
  refine ⟨?_, fun increase member => proposed_le_commitment member⟩
  refine le_trans ?_ le_commitment
  unfold ProviderCampaign.lowerTo
  split
  · exact min_le_left _ _
  · exact le_refl _

end Commitments

section Sums

variable {accepted later : List AcceptedIncrease} {provider : List ProviderCampaign}
  {currency : String}

theorem committed_map_le {update : ProviderCampaign → ProviderCampaign}
    (keeps : ∀ campaign, (update campaign).currency = campaign.currency)
    (lowers : ∀ campaign, commitment later (update campaign) ≤ commitment accepted campaign) :
    (((provider.map update).filter fun campaign =>
        campaign.currency = currency).map (commitment later)).sum ≤
      ((provider.filter fun campaign => campaign.currency = currency).map
        (commitment accepted)).sum := by
  have sameFilter :
      ((fun campaign : ProviderCampaign =>
          decide (campaign.currency = currency)) ∘ update) =
        fun campaign => decide (campaign.currency = currency) := by
    funext campaign
    rw [Function.comp_apply, keeps]
  rw [List.filter_map, sameFilter, List.map_map]
  exact List.sum_le_sum fun campaign _ => lowers campaign

/-- A raise of one campaign commits the currency to no more than the raise. -/
theorem sum_commitment_cons_le {increase : AcceptedIncrease}
    (unique : Unique ProviderCampaign.id provider) {delta : Int} (nonneg : 0 ≤ delta)
    (reached :
      ∀ campaign ∈ provider,
        increase.campaignId = campaign.id →
        increase.proposedBudgetMinor ≤ commitment accepted campaign + delta) :
    (provider.map (commitment (increase :: accepted))).sum ≤
      (provider.map (commitment accepted)).sum + delta := by
  have other :
      ∀ campaign,
        increase.campaignId ≠ campaign.id →
        commitment (increase :: accepted) campaign = commitment accepted campaign :=
    fun campaign elsewhere => if_neg elsewhere
  induction provider with
  | nil => simpa using nonneg
  | cons campaign rest inductionHypothesis =>
    obtain ⟨fresh, restUnique⟩ := List.nodup_cons.mp unique
    rw [List.map_cons, List.map_cons, List.sum_cons, List.sum_cons]
    by_cases here : increase.campaignId = campaign.id
    · have restSame :
          rest.map (commitment (increase :: accepted)) = rest.map (commitment accepted) := by
        refine List.map_congr_left fun remaining member => ?_
        refine other remaining fun same => fresh ?_
        rw [← here, same]
        exact List.mem_map_of_mem member
      have raised :
          commitment (increase :: accepted) campaign ≤ commitment accepted campaign + delta := by
        rw [commitment, List.foldr_cons, ← commitment, if_pos here]
        refine max_le (le_add_of_nonneg_right nonneg) ?_
        exact reached campaign List.mem_cons_self here
      rw [restSame]
      omega
    · rw [other campaign here]
      have rest := inductionHypothesis restUnique
          fun remaining member =>
            reached remaining (List.mem_cons_of_mem _ member)
      omega

end Sums

/-! ## Steps -/

/-- Whether the action already holds a reservation. -/
def PromotionStore.Holds (store : PromotionStore) (actionId : Uuid) : Prop :=
  ∃ reservation ∈ store.reservations, reservation.actionId = actionId

def PromotionStore.withoutReservation (store : PromotionStore)
    (actionId : Uuid) : PromotionStore :=
  { store with
    reservations :=
      store.reservations.filter fun reservation =>
        reservation.actionId ≠ actionId }

/-- No action that holds a reservation is refused because it holds it. -/
def RetryIsNotRefused (state : SpendState) : SpendEvent → Prop
  | .preflight request =>
    state.store.Holds request.actionId →
    (∃ after,
      (state.store.withoutReservation
          request.actionId).ensurePromotionStateCurrent
        state.now request = .ok after) →
    ∃ after, state.store.ensurePromotionStateCurrent state.now request = .ok after
  | _ => True

/-- The cap holds all along a run, and no reservation refuses its own action. -/
def SpendCapHolds (start : SpendState) (events : List SpendEvent) : Prop :=
  (spending.final start events).WithinCap ∧
    ∀ visit ∈ spending.visits start events, visit.1.WithinCap ∧ RetryIsNotRefused visit.1 visit.2

/-- What the check counts covers what the provider is committed to. -/
structure SpendState.Covered
    (state : SpendState)
    (request : BudgetChangeRequest)
    (currency : String) : Prop where
  counted :
    state.committed currency ≤ state.store.countedMinor state.now currency
  reported :
    ∀ campaign ∈ state.provider,
      campaign.id = request.campaignId →
      campaign.currency = currency ∧
        request.expectedBudgetMinor.val ≤
          commitment state.accepted campaign

/--
A raise that passes the check is asked for while no budget is overlooked, and
an action that holds a reservation asks again only while its raise fits twice.
-/
def NothingOverlooked (state : SpendState) : SpendEvent → Prop
  | .preflight request =>
    request.expectedBudgetMinor < request.proposedBudgetMinor →
    ∀ current ∈ state.store.liveState state.now request.campaignId,
    ∀ guardrail ∈ state.store.guardrail current.currency,
      (state.store.RaiseFits state.now request current.currency guardrail →
        state.Covered request current.currency) ∧
      (state.store.Holds request.actionId →
        (state.store.withoutReservation request.actionId).RaiseFits
          state.now request current.currency guardrail →
        state.store.RaiseFits state.now request current.currency guardrail)
  | _ => True

/-- What the provider is committed to is within the caps. -/
structure SpendState.Sound (state : SpendState) : Prop where
  unique : Unique ProviderCampaign.id state.provider
  within :
    ∀ currency, ∀ guardrail ∈ state.store.guardrail currency,
      state.committed currency ≤ guardrail.maximumTotalDailyBudgetMinor.val

section Steps

variable {state : SpendState} {store after : PromotionStore}
  {request : BudgetChangeRequest} {event : SpendEvent}

theorem SpendState.Sound.withinCap (sound : state.Sound) :
    state.WithinCap := by
  intro currency guardrail found
  refine le_trans ?_ (sound.within currency guardrail found)
  exact List.sum_le_sum fun campaign _ => le_commitment

theorem SpendState.Sound.lowered (sound : state.Sound)
    {update : ProviderCampaign → ProviderCampaign} {later : List AcceptedIncrease}
    (keepsId : ∀ campaign, (update campaign).id = campaign.id)
    (keepsCurrency : ∀ campaign, (update campaign).currency = campaign.currency)
    (lowers : ∀ campaign, commitment later (update campaign) ≤ commitment state.accepted campaign) :
    SpendState.Sound
      { state with
        provider := state.provider.map update
        accepted := later } where
  unique := sound.unique.map fun campaign _ => keepsId campaign
  within := fun currency guardrail found =>
    le_trans (committed_map_le keepsCurrency lowers) (sound.within currency guardrail found)

theorem upsert_guardrail {newId : Uuid} {facts : PromotionCampaignFacts}
    (reported : store.upsertPromotionCampaignState newId facts = .ok after) :
    after.guardrail = store.guardrail := by
  unfold PromotionStore.upsertPromotionCampaignState at reported
  split at reported
  · cases reported
    rfl
  · split at reported
    · cases reported
      rfl
    · cases reported

theorem ensurePromotionStateCurrent_guardrail {now : OffsetDateTime}
    (passed : store.ensurePromotionStateCurrent now request = .ok after) :
    after.guardrail = store.guardrail := by
  unfold PromotionStore.ensurePromotionStateCurrent at passed
  split at passed
  · cases passed
  · split at passed
    · cases passed
    · split at passed
      · cases passed
        rfl
      · split at passed
        · cases passed
        · obtain ⟨_, delta, positive, _, rfl⟩ := ensureRaiseFits_ok passed
          rfl

/-- A raise that passes a check which overlooks nothing keeps the caps. -/
theorem SpendState.Sound.raised (sound : state.Sound)
    (raises : request.expectedBudgetMinor < request.proposedBudgetMinor)
    (overlooked : NothingOverlooked state (.preflight request))
    (passes : state.store.Passes state.now request) {currency : String}
    {guardrail : PromotionBudgetGuardrail} (found : guardrail ∈ state.store.guardrail currency) :
    ({ state with
        accepted := request.increases ++ state.accepted }).committed currency ≤
      guardrail.maximumTotalDailyBudgetMinor.val := by
  obtain ⟨current, live, _, fitting⟩ := passes
  obtain ⟨ofCurrent, foundCurrent, fits⟩ := fitting.resolve_left (not_le.mpr raises)
  have covered := (overlooked raises current live ofCurrent foundCurrent).1 fits
  have grows : 0 ≤ request.deltaMinor := Int.sub_nonneg_of_le (le_iff_val.mp (le_of_lt raises))
  have reached :
      ∀ campaign ∈ state.provider,
        request.campaignId = campaign.id →
        request.proposedBudgetMinor.val ≤
          commitment state.accepted campaign + request.deltaMinor := by
    intro campaign member here
    have base := (covered.reported campaign member here.symm).2
    rw [BudgetChangeRequest.deltaMinor]
    omega
  unfold SpendState.committed
  simp only [BudgetChangeRequest.increases, if_pos raises, List.singleton_append]
  by_cases same : currency = current.currency
  · rw [same] at found ⊢
    rw [Option.mem_unique found foundCurrent]
    refine le_trans
      (sum_commitment_cons_le (sound.unique.filter _) grows
        fun campaign member =>
          reached campaign (List.mem_of_mem_filter member))
      (le_trans ?_ fits.1)
    exact Int.add_le_add_right covered.counted _
  · refine le_trans (le_of_eq ?_) (sound.within currency guardrail found)
    refine congrArg List.sum (List.map_congr_left fun campaign member => ?_)
    obtain ⟨present, ofCurrency⟩ := List.mem_filter.mp member
    refine if_neg fun here => same ?_
    rw [← (covered.reported campaign present here.symm).1]
    exact (of_decide_eq_true ofCurrency).symm

theorem SpendState.Sound.step (overlooked : NothingOverlooked state event) (sound : state.Sound) :
    (spendStep state event).Sound := by
  cases event with
  | elapse nanos => exact ⟨sound.unique, sound.within⟩
  | report newId facts =>
    simp only [spendStep]
    split
    · rename_i after reported
      refine ⟨sound.unique, fun currency guardrail found => ?_⟩
      rw [upsert_guardrail reported] at found
      exact sound.within currency guardrail found
    · exact sound
  | preflight request =>
    simp only [spendStep]
    split
    · rename_i after passed
      refine ⟨sound.unique, fun currency guardrail found => ?_⟩
      rw [ensurePromotionStateCurrent_guardrail passed] at found
      by_cases raises : request.expectedBudgetMinor < request.proposedBudgetMinor
      · exact sound.raised raises overlooked
          (ensurePromotionStateCurrent_ok_iff.mp ⟨after, passed⟩) found
      · have cut : request.increases = [] := if_neg raises
        rw [cut]
        exact sound.within currency guardrail found
    · exact sound
  | applyIncrease position =>
    simp only [spendStep]
    split
    · rename_i increase found
      refine sound.lowered ?_ ?_ fun campaign => commitment_setTo_le found
      all_goals
        intro campaign
        unfold ProviderCampaign.setTo
        split <;> rfl
    · exact sound
  | lower campaignId amount =>
    refine sound.lowered ?_ ?_ fun campaign =>
      commitment_lowerTo_le campaignId amount
    all_goals
      intro campaign
      unfold ProviderCampaign.lowerTo
      split <;> rfl

theorem retryIsNotRefused_of_nothingOverlooked (overlooked : NothingOverlooked state event) :
    RetryIsNotRefused state event := by
  cases event with
  | preflight request =>
    intro holds passedWithout
    rw [ensurePromotionStateCurrent_ok_iff] at passedWithout ⊢
    obtain ⟨current, live, same, fitting⟩ := passedWithout
    refine ⟨current, live, same, ?_⟩
    rcases le_or_gt request.proposedBudgetMinor request.expectedBudgetMinor with cut | raises
    · exact Or.inl cut
    · obtain ⟨guardrail, found, fits⟩ := fitting.resolve_left (not_le.mpr raises)
      exact Or.inr ⟨guardrail, found, (overlooked raises current live guardrail found).2 holds fits⟩
  | _ => trivial

end Steps

/--
The cap holds over every run in which no accepted raise overlooks a budget,
from true budgets within the cap and no raise still to be applied.
-/
theorem spendCapHolds_of_nothingOverlooked
    {start : SpendState}
    (unique : Unique ProviderCampaign.id start.provider)
    (nothingAccepted : start.accepted = [])
    (within : start.WithinCap)
    {events : List SpendEvent}
    (overlooked :
      ∀ visit ∈ spending.visits start events, NothingOverlooked visit.1 visit.2) :
    SpendCapHolds start events := by
  have sound : start.Sound := by
    refine ⟨unique, fun currency guardrail found => ?_⟩
    rw [SpendState.committed, nothingAccepted]
    exact within currency guardrail found
  obtain ⟨atEnd, everywhere⟩ := spending.final_invariant_of_visits
      (fun state event permitted (holds : state.Sound) => holds.step permitted)
      sound overlooked
  exact ⟨atEnd.withinCap, fun visit member =>
    ⟨(everywhere visit member).withinCap,
      retryIsNotRefused_of_nothingOverlooked (overlooked visit member)⟩⟩

/-! ## A report that expires -/

def reportedCampaign (id : Uuid) (key : String) (budget : I64) (positive : 0 < budget.val)
    (expiresAt : Nat) : PromotionCampaignState where
  id := id
  provider := "meta"
  externalCampaignKey := key
  currency := "PLN"
  currentDailyBudgetMinor := budget
  spendMonthToDateMinor := 0
  active := true
  observedAt := -1
  expiresAt := expiresAt
  budgetPositive := positive
  spendNonnegative := le_refl _
  expires := lt_of_lt_of_le (by decide) (Int.natCast_nonneg expiresAt)

/-- Two campaigns that spend a hundred; one report expires at ten. -/
def campaignsUnder (cap : I64) : SpendState where
  now := 0
  store :=
    { states :=
        [reportedCampaign 1 "teaser" 40 (by decide) 10,
          reportedCampaign 2 "video" 60 (by decide) 1000]
      guardrails :=
        [{ currency := "PLN"
           maximumTotalDailyBudgetMinor := cap
           maximumMonthlySpendMinor := 5000 }]
      reservations := [] }
  provider :=
    [{ id := 1, currency := "PLN", dailyBudgetMinor := 40 },
      { id := 2, currency := "PLN", dailyBudgetMinor := 60 }]
  accepted := []

/-- Raises the second campaign by half. -/
def raiseByHalf : BudgetChangeRequest where
  actionId := 7
  campaignId := 2
  expectedBudgetMinor := 60
  proposedBudgetMinor := 90

variable {cap : I64}

theorem campaignsUnder_guardrail {currency : String} {guardrail : PromotionBudgetGuardrail}
    (found : guardrail ∈ (campaignsUnder cap).store.guardrail currency) :
    currency = "PLN" ∧ guardrail.maximumTotalDailyBudgetMinor = cap := by
  have isPln := List.find?_some (Option.mem_def.mp found)
  have member := List.mem_of_find?_eq_some (Option.mem_def.mp found)
  rw [List.mem_singleton.mp member] at isPln ⊢
  exact ⟨(of_decide_eq_true isPln).symm, rfl⟩

theorem campaignsUnder_unique (cap : I64) :
    KeyedTable.Unique ProviderCampaign.id (campaignsUnder cap).provider := by
  have distinct : ([1, 2] : List Uuid).Nodup := by decide
  exact distinct

theorem campaignsUnder_withinCap (enough : 100 ≤ cap) : (campaignsUnder cap).WithinCap := by
  intro currency guardrail found
  obtain ⟨rfl, isCap⟩ := campaignsUnder_guardrail found
  rw [isCap]
  exact enough

/--
The first report expires while its campaign goes on spending: the raise of the
second is accepted, its retry is refused for the raise's own reservation, and
the true budgets leave the cap.
-/
theorem expiredReport_overspends :
    KeyedTable.Unique ProviderCampaign.id (campaignsUnder 100).provider ∧
      (campaignsUnder 100).accepted = [] ∧
      (campaignsUnder 100).WithinCap ∧
      ¬ (spending.final (campaignsUnder 100)
          [.elapse 20, .preflight raiseByHalf, .applyIncrease 0]).WithinCap ∧
      ¬ SpendCapHolds (campaignsUnder 100)
          [.elapse 20, .preflight raiseByHalf, .preflight raiseByHalf] := by
  refine ⟨campaignsUnder_unique 100, rfl,
    campaignsUnder_withinCap (le_refl _), ?_, ?_⟩
  · intro within
    have bounded := within "PLN"
        { currency := "PLN"
          maximumTotalDailyBudgetMinor := 100
          maximumMonthlySpendMinor := 5000 }
        (by decide +kernel)
    exact absurd bounded (by decide +kernel)
  · rintro ⟨_, visited⟩
    have retried := (visited
        (spending.final (campaignsUnder 100) [.elapse 20, .preflight raiseByHalf],
          .preflight raiseByHalf)
        (by decide +kernel)).2
    have holds :
        (spending.final (campaignsUnder 100)
          [.elapse 20, .preflight raiseByHalf]).store.Holds 7 := by
      refine ⟨_, List.mem_cons_self, ?_⟩
      decide +kernel
    have passesWithout :
        ((PromotionStore.withoutReservation
            (spending.final (campaignsUnder 100)
              [.elapse 20, .preflight raiseByHalf]).store
            7).ensurePromotionStateCurrent 20 raiseByHalf).toOption.isSome =
          true := by
      decide +kernel
    have refused :
        ¬ ((spending.final (campaignsUnder 100)
              [.elapse 20, .preflight raiseByHalf]
            ).store.ensurePromotionStateCurrent
              20 raiseByHalf).toOption.isSome = true := by
      decide +kernel
    exact refused
      (exists_ok_iff.mp (retried holds (exists_ok_iff.mpr passesWithout)))

/-- While both reports are live, the raise is asked for within its cap. -/
theorem liveReports_holdCap :
    SpendCapHolds (campaignsUnder 140)
      [.preflight raiseByHalf, .applyIncrease 0] := by
  refine spendCapHolds_of_nothingOverlooked (campaignsUnder_unique 140) rfl
    (campaignsUnder_withinCap (by decide)) fun visit member => ?_
  rw [spending.visits_cons (fun _ => rfl), spending.visits_cons (fun _ => rfl)]
    at member
  rcases List.mem_cons.mp member with isRaise | isApplied
  · rw [isRaise]
    rintro _ current live guardrail found
    have isSecond : current = reportedCampaign 2 "video" 60 (by decide) 1000 := by
      refine Option.mem_unique live ?_
      decide +kernel
    rw [isSecond]
    refine ⟨fun _ => ⟨by decide +kernel, by decide +kernel⟩, ?_⟩
    rintro ⟨reservation, absent, _⟩
    cases absent
  · rw [List.mem_singleton.mp isApplied]
    trivial

end CrowdRelay
