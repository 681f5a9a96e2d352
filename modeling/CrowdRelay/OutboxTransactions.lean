import CrowdRelay.Machine
import CrowdRelay.OutboxStore

namespace CrowdRelay

open KeyedTable Machine

/-!
# Interleaved transactions of the store

Any number of workers, the operators and the rest of the program reach the
store one transaction at a time, in any order and with any arguments: a worker
that crashes sends no more, and one that comes late sends what it had.
-/

inductive StoreTransaction where
  | enqueue
      (id workspaceId : Uuid)
      (eventType : String)
      (actionId : Option Uuid)
      (maxAttempts : Nat)
  | addEndpoint (endpoint : WebhookEndpoint)
  | reviseEndpoint
      (id : Uuid)
      (active : Bool)
      (eventTypes : Option (List String))
  | addAction (action : LinkedAction)
  | moveAction (id : Uuid) (status : ActionStatus)
  | claimOutbox
      (workerId : String)
      (batchSize leaseMillis : Nat)
      (skipLocked : List Uuid)
  | materialize (claims : List OutboxEventClaim) (workerId : String)
  | failOutbox
      (claim : OutboxEventClaim)
      (workerId : String)
      (retryable : Bool)
      (retryDelayMillis : Nat)
      (errorKind : String)
      (refundAttempt : Bool)
  | claimDeliveries
      (workerId : String)
      (batchSize leaseMillis : Nat)
      (skipLocked : List Nat)
  | finish
      (claim : DeliveryClaim)
      (workerId : String)
      (resolution : AttemptResolution)
  deriving Repr, DecidableEq

structure TimedTransaction where
  now : OffsetDateTime
  transaction : StoreTransaction
  deriving Repr, DecidableEq

inductive StoreReply where
  | done
  | eventClaims (claims : List OutboxEventClaim)
  | deliveryClaims (claims : List DeliveryClaim)
  | refused (error : StoreError)
  deriving Repr, DecidableEq

namespace OutboxStore

def empty : OutboxStore :=
  { events := []
    endpoints := []
    deliveries := []
    attempts := []
    actions := [] }

variable (store : OutboxStore)

def enqueue
    (event : OutboxEvent) : OutboxStore :=
  { store with
    events := insertUnlessPresent OutboxEvent.id event store.events }

def addEndpoint
    (endpoint : WebhookEndpoint) : OutboxStore :=
  { store with
    endpoints := insertUnlessPresent WebhookEndpoint.id endpoint store.endpoints }

variable (id : Uuid)

def reviseEndpoint (active : Bool)
    (eventTypes : Option (List String)) : OutboxStore :=
  { store with
    endpoints :=
      store.endpoints.map fun endpoint =>
        if endpoint.id = id then
          { endpoint with active := active, eventTypes := eventTypes }
        else
          endpoint }

def addAction
    (action : LinkedAction) : OutboxStore :=
  { store with
    actions := insertUnlessPresent LinkedAction.id action store.actions }

def moveAction
    (status : ActionStatus) : OutboxStore :=
  { store with
    actions :=
      store.actions.map fun action =>
        if action.id = id then { action with status := status } else action }

/-- A transaction that fails leaves the store as it was. -/
def settle {Reply : Type} (store : OutboxStore) (reply : Reply → OutboxStore × StoreReply) :
    Except StoreError Reply → OutboxStore × StoreReply
  | .ok result => reply result
  | .error error => (store, .refused error)

def apply
    (step : TimedTransaction) : OutboxStore × StoreReply :=
  match step.transaction with
  | .enqueue id workspaceId eventType actionId maxAttempts =>
    (store.enqueue
      { id := id
        workspaceId := workspaceId
        eventType := eventType
        actionId := actionId
        status := .pending
        attempts := 0
        maxAttempts := maxAttempts
        availableAt := step.now
        lastErrorKind := none }, .done)
  | .addEndpoint endpoint => (store.addEndpoint endpoint, .done)
  | .reviseEndpoint id active eventTypes =>
    (store.reviseEndpoint id active eventTypes, .done)
  | .addAction action => (store.addAction action, .done)
  | .moveAction id status => (store.moveAction id status, .done)
  | .claimOutbox workerId batchSize leaseMillis skipLocked =>
    store.settle (fun claimed => (claimed.1, .eventClaims claimed.2))
      (store.claimOutboxEvents workerId batchSize leaseMillis skipLocked step.now)
  | .materialize claims workerId =>
    store.settle (fun next => (next, .done))
      (store.materializeDeliveriesBatch claims workerId step.now)
  | .failOutbox claim workerId retryable retryDelayMillis errorKind
      refundAttempt =>
      (store.failOutboxEvent claim workerId retryable retryDelayMillis
        errorKind refundAttempt step.now, .done)
  | .claimDeliveries workerId batchSize leaseMillis skipLocked =>
    store.settle (fun claimed => (claimed.1, .deliveryClaims claimed.2))
      (store.claimDeliveries workerId batchSize leaseMillis skipLocked step.now)
  | .finish claim workerId resolution =>
    store.settle (fun next => (next, .done))
      (store.finishDelivery claim workerId resolution step.now)

end OutboxStore

def outboxMachine :
    Transducer OutboxStore TimedTransaction StoreReply where
  step := OutboxStore.apply

theorem outboxMachine_neverHalts (reply : StoreReply) : outboxMachine.halts reply = false := rfl

def storeAfter (run : List TimedTransaction) : OutboxStore := outboxMachine.final .empty run

theorem storeAfter_append_singleton (before : List TimedTransaction) (step : TimedTransaction) :
    storeAfter (before ++ [step]) = ((storeAfter before).apply step).1 := by
  rw [storeAfter, outboxMachine.final_append outboxMachine_neverHalts,
    outboxMachine.final_cons, outboxMachine_neverHalts,
    if_neg Bool.false_ne_true]
  rfl

/-! ## What one transaction does to one row -/

/-- A delivery nobody works on: it waits, or its lease has run out. -/
def WebhookDelivery.Idle (now : OffsetDateTime)
    (delivery : WebhookDelivery) : Prop :=
  delivery.status = .pending ∨ delivery.expired now = true

def StoreTransaction.ClaimsDeliveries
    (transaction : StoreTransaction) : Prop :=
  ∃ workerId batchSize leaseMillis skipLocked,
    transaction = .claimDeliveries workerId batchSize leaseMillis skipLocked

/-- What a transaction can make of a delivery that is there. -/
inductive DeliveryMove
    (step : TimedTransaction)
    (before : WebhookDelivery) : WebhookDelivery → Prop where
  | kept :
      DeliveryMove step before before
  | claimed
      (lease : StoreLease)
      (isClaim : step.transaction.ClaimsDeliveries)
      (idle : before.Idle step.now)
      (left : before.exhausted = false) :
      DeliveryMove step before
        { before with
          status := .processing lease
          attemptCount := before.attemptCount + 1
          lastErrorKind := none }
  | lapsed
      (status : DeliveryStatus)
      (errorKind : Option String)
      (isClaim : step.transaction.ClaimsDeliveries)
      (idle : before.Idle step.now)
      (ended : status = .cancelled ∨ status = .dead) :
      DeliveryMove step before
        { before with
          status := status
          lastErrorKind := errorKind }
  | finished
      (claim : DeliveryClaim)
      (workerId : String)
      (resolution : AttemptResolution)
      (isFinish : step.transaction = .finish claim workerId resolution)
      (finishes : OutboxStore.finishes claim workerId before = true) :
      DeliveryMove step before
        (OutboxStore.finishedRow claim workerId resolution step.now before)

/-- What a transaction can make of an event that is there. -/
inductive EventMove
    (step : TimedTransaction)
    (before : OutboxEvent) : OutboxEvent → Prop where
  | kept :
      EventMove step before before
  | claimed
      (lease : StoreLease)
      (idle : before.status = .pending ∨ before.expired step.now = true) :
      EventMove step before
        { before with
          status := .processing lease
          attempts := before.attempts + 1
          lastErrorKind := none }
  | exhausted
      (expired : before.expired step.now = true) :
      EventMove step before
        { before with
          status := .dead
          lastErrorKind := some "lease_expired_after_max_attempts" }
  | fannedOut
      (claims : List OutboxEventClaim)
      (workerId : String)
      (store : OutboxStore)
      (isMaterialize : step.transaction = .materialize claims workerId)
      (held : before.heldBy workerId = true) :
      EventMove step before (store.fannedOut before)
  | failed
      (status : OutboxStatus)
      (attempts : Nat)
      (availableAt : OffsetDateTime)
      (errorKind : Option String)
      (workerId : String)
      (held : before.heldBy workerId = true)
      (released : status = .pending ∨ status = .dead) :
      EventMove step before
        { before with
          attempts := attempts
          status := status
          availableAt := availableAt
          lastErrorKind := errorKind }

variable (step : TimedTransaction) (store next : OutboxStore)

def MovesDeliveries : Prop :=
  ∃ update : WebhookDelivery → WebhookDelivery,
    next.deliveries = store.deliveries.map update ∧
      ∀ delivery, DeliveryMove step delivery (update delivery)

def MovesEvents : Prop :=
  ∃ update : OutboxEvent → OutboxEvent,
    next.events = store.events.map update ∧
      ∀ event, EventMove step event (update event)

section Moves

variable {store : OutboxStore} {step : TimedTransaction} {next : OutboxStore} {now : OffsetDateTime}
  {delivery : WebhookDelivery} {workerId : String} {claim : DeliveryClaim}
  {resolution : AttemptResolution} {claims : List OutboxEventClaim} {skipLocked : List Uuid}
  {claimed : OutboxStore × List OutboxEventClaim} {event : OutboxEvent}

theorem movesDeliveries_of_eq (same : next.deliveries = store.deliveries) :
    MovesDeliveries step store next :=
  ⟨fun delivery => delivery, by rw [same, List.map_id'], fun _ => .kept⟩

theorem not_idle_of_ended (ended : delivery.status = .cancelled ∨ delivery.status = .dead) :
    ¬ delivery.Idle now := by
  rintro (waits | expired)
  · rcases ended with isCancelled | isDead
    · rw [isCancelled] at waits
      cases waits
    · rw [isDead] at waits
      cases waits
  · unfold WebhookDelivery.expired at expired
    rcases ended with isCancelled | isDead
    · rw [isCancelled] at expired
      cases expired
    · rw [isDead] at expired
      cases expired

theorem claimable_of_mem_deliveryCandidates {batchSize : Nat} {skipLocked : List Nat}
    (taken : delivery ∈ store.deliveryCandidates now batchSize skipLocked) :
    delivery.Idle now ∧ delivery.exhausted = false := by
  have kept := (List.perm_insertionSort _ _).mem_iff.mp (List.mem_of_mem_take taken)
  have claimable := (List.mem_filter.mp kept).2
  simp only [OutboxStore.deliveryClaimable, Bool.and_eq_true,
    Bool.or_eq_true, Bool.not_eq_true', decide_eq_true_eq] at claimable
  obtain ⟨⟨⟨_, idle⟩, left⟩, _⟩ := claimable
  exact ⟨idle.imp And.left id, left⟩

theorem cancelledIfInactive_move (isClaim : step.transaction.ClaimsDeliveries)
    (delivery : WebhookDelivery) :
    DeliveryMove step delivery (store.cancelledIfInactive step.now delivery) ∧
      (store.cancelledIfInactive step.now delivery = delivery ∨
        ¬ (store.cancelledIfInactive step.now delivery).Idle step.now) := by
  unfold OutboxStore.cancelledIfInactive
  split
  · rename_i inactive
    simp only [Bool.and_eq_true, Bool.or_eq_true, decide_eq_true_eq] at inactive
    exact ⟨.lapsed .cancelled _ isClaim inactive.2 (Or.inl rfl),
        Or.inr (not_idle_of_ended (Or.inl rfl))⟩
  · exact ⟨.kept, Or.inl rfl⟩

theorem deadIfExhausted_move (isClaim : step.transaction.ClaimsDeliveries)
    (delivery : WebhookDelivery) :
    DeliveryMove step delivery (OutboxStore.deadIfExhausted step.now delivery) ∧
      (OutboxStore.deadIfExhausted step.now delivery = delivery ∨
        ¬ (OutboxStore.deadIfExhausted step.now delivery).Idle step.now) := by
  unfold OutboxStore.deadIfExhausted
  split
  · rename_i ran
    simp only [Bool.and_eq_true] at ran
    exact ⟨.lapsed .dead _ isClaim (Or.inr ran.1) (Or.inr rfl),
        Or.inr (not_idle_of_ended (Or.inr rfl))⟩
  · exact ⟨.kept, Or.inl rfl⟩

theorem deadIfExhausted_of_not_idle (busy : ¬ delivery.Idle now) :
    OutboxStore.deadIfExhausted now delivery = delivery := by
  refine if_neg fun ran => busy (Or.inr ?_)
  simp only [Bool.and_eq_true] at ran
  exact ran.1

theorem sweptRow_move (isClaim : step.transaction.ClaimsDeliveries) (delivery : WebhookDelivery) :
    let swept := OutboxStore.deadIfExhausted step.now (store.cancelledIfInactive step.now delivery)
    DeliveryMove step delivery swept ∧ (swept = delivery ∨ ¬ swept.Idle step.now) := by
  obtain ⟨cancelMove, same | busy⟩ := @cancelledIfInactive_move store step isClaim delivery
  · rw [same]
    exact deadIfExhausted_move isClaim delivery
  · rw [deadIfExhausted_of_not_idle busy]
    exact ⟨cancelMove, Or.inr busy⟩

theorem claimedRow_move (isClaim : step.transaction.ClaimsDeliveries) {lease : StoreLease}
    {candidates : List WebhookDelivery}
    (claimable : ∀ delivery ∈ candidates, delivery.Idle step.now ∧ delivery.exhausted = false)
    {delivery swept : WebhookDelivery}
    (sweep : DeliveryMove step delivery swept)
    (fresh : swept = delivery ∨ ¬ swept.Idle step.now) :
    DeliveryMove step delivery (OutboxStore.claimedRow lease candidates swept) := by
  unfold OutboxStore.claimedRow
  by_cases taken : swept ∈ candidates
  · rw [if_pos taken]
    obtain ⟨idle, left⟩ := claimable swept taken
    rcases fresh with same | busy
    · rw [same] at idle left ⊢
      exact .claimed lease isClaim idle left
    · exact absurd idle busy
  · rw [if_neg taken]
    exact sweep

theorem claimDeliveries_cases {batchSize leaseMillis : Nat} {skipLocked : List Nat}
    {claimed : OutboxStore × List DeliveryClaim}
    (ok : store.claimDeliveries workerId batchSize leaseMillis skipLocked now = .ok claimed) :
    claimed.1 = store.sweepDeliveries now ∨
      ∃ lease,
        claimed.1 =
          { store.sweepDeliveries now with
            deliveries := (store.sweepDeliveries now).deliveries.map
                (OutboxStore.claimedRow lease
                  ((store.sweepDeliveries now).deliveryCandidates now batchSize skipLocked)) } := by
  unfold OutboxStore.claimDeliveries at ok
  dsimp only at ok
  split at ok
  · cases ok
    exact Or.inl rfl
  · cases ok
  · rename_i lease _ _
    cases ok
    exact Or.inr ⟨lease, rfl⟩

theorem sweepDeliveries_deliveries (now : OffsetDateTime) :
    (store.sweepDeliveries now).deliveries = store.deliveries.map fun delivery =>
        OutboxStore.deadIfExhausted now (store.cancelledIfInactive now delivery) := by
  simp only [OutboxStore.sweepDeliveries, OutboxStore.markExhaustedDeliveryLeasesDead,
    OutboxStore.cancelInactiveEndpointDeliveries,
    OutboxStore.recordExpiredDeliveryAttempts, List.map_map]
  rfl

theorem claimDeliveries_moves (isClaim : step.transaction.ClaimsDeliveries)
    {batchSize leaseMillis : Nat} {skipLocked : List Nat}
    {claimed : OutboxStore × List DeliveryClaim}
    (ok : store.claimDeliveries workerId batchSize leaseMillis skipLocked step.now = .ok claimed) :
    MovesDeliveries step store claimed.1 := by
  rcases claimDeliveries_cases ok with swept | ⟨lease, isClaimed⟩
  · refine
      ⟨fun delivery =>
          OutboxStore.deadIfExhausted step.now (store.cancelledIfInactive step.now delivery),
        ?_, fun delivery => (sweptRow_move isClaim delivery).1⟩
    rw [swept, sweepDeliveries_deliveries]
  · refine
      ⟨fun delivery =>
          OutboxStore.claimedRow lease
            ((store.sweepDeliveries step.now).deliveryCandidates step.now batchSize skipLocked)
            (OutboxStore.deadIfExhausted step.now (store.cancelledIfInactive step.now delivery)),
        ?_, fun delivery => ?_⟩
    · rw [isClaimed]
      simp only [sweepDeliveries_deliveries, List.map_map]
      rfl
    · obtain ⟨sweep, fresh⟩ := @sweptRow_move store step isClaim delivery
      exact claimedRow_move isClaim (fun _ taken => claimable_of_mem_deliveryCandidates taken)
          sweep fresh

/-- What a finish that succeeds leaves behind. -/
structure FinishedBy
    (store : OutboxStore)
    (claim : DeliveryClaim)
    (workerId : String)
    (resolution : AttemptResolution)
    (now : OffsetDateTime)
    (next : OutboxStore) : Prop where
  one :
    (store.deliveries.filter
      (OutboxStore.finishes claim workerId)).length = 1
  fresh :
    (claim.deliveryId, claim.attemptNumber) ∉
      store.attempts.map DeliveryAttempt.key
  events : next.events = store.events
  endpoints : next.endpoints = store.endpoints
  actions : next.actions = store.actions
  deliveries :
    next.deliveries =
      store.deliveries.map
        (OutboxStore.finishedRow claim workerId resolution now)
  attempts :
    next.attempts =
      store.attempts ++
        [{ deliveryId := claim.deliveryId
           attemptNumber := claim.attemptNumber
           outcome := resolution.outcome.recorded
           errorKind := resolution.errorKind }]

theorem not_ambiguous_of_deadStampAgrees {outcome : AttemptOutcome}
    (stamped : ¬ (!OutboxStore.deadStampAgrees outcome) = true) :
    outcome ≠ .ambiguous := by
  rintro rfl
  exact stamped rfl

theorem finishDelivery_ok (ok : store.finishDelivery claim workerId resolution now = .ok next) :
    FinishedBy store claim workerId resolution now next := by
  unfold OutboxStore.finishDelivery at ok
  split at ok
  · cases ok
  · rename_i one
    dsimp only at ok
    split at ok
    · cases ok
    rename_i stamped
    split at ok
    · cases ok
    · rename_i taken
      cases ok
      exact
        { one := not_not.mp one
          fresh := fun present => taken (Or.inl present)
          events := rfl
          endpoints := rfl
          actions := if_neg (not_ambiguous_of_deadStampAgrees stamped)
          deliveries := rfl
          attempts := rfl }

theorem finishDelivery_moves (isFinish : step.transaction = .finish claim workerId resolution)
    (ok : store.finishDelivery claim workerId resolution step.now = .ok next) :
    MovesDeliveries step store next := by
  refine ⟨_, (finishDelivery_ok ok).deliveries, fun delivery => ?_⟩
  by_cases finishes : OutboxStore.finishes claim workerId delivery
  · exact .finished claim workerId resolution isFinish finishes
  · rw [OutboxStore.finishedRow, if_neg finishes]
    exact .kept

/-- What a materialisation that succeeds leaves behind. -/
structure MaterializedBy
    (store : OutboxStore)
    (claims : List OutboxEventClaim)
    (workerId : String)
    (now : OffsetDateTime)
    (next : OutboxStore) : Prop where
  endpoints : next.endpoints = store.endpoints
  actions : next.actions = store.actions
  attempts : next.attempts = store.attempts
  deliveries :
    next.deliveries =
      ((store.eligibleEvents claims workerId).flatMap fun event =>
        store.owedDeliveries now event).foldl OutboxStore.insertDelivery
        store.deliveries
  events :
    next.events =
      store.events.map
        (store.materializedEvent (store.eligibleEvents claims workerId))

theorem materializeDeliveriesBatch_ok
    (ok : store.materializeDeliveriesBatch claims workerId now = .ok next) :
    MaterializedBy store claims workerId now next := by
  unfold OutboxStore.materializeDeliveriesBatch at ok
  dsimp only at ok
  split at ok
  · cases ok
  · cases ok
    exact
      { endpoints := rfl
        actions := rfl
        attempts := rfl
        deliveries := rfl
        events := rfl }

theorem claimOutboxEvents_deliveries {batchSize leaseMillis : Nat}
    (ok : store.claimOutboxEvents workerId batchSize leaseMillis skipLocked now = .ok claimed) :
    claimed.1.deliveries = store.deliveries ∧
      claimed.1.attempts = store.attempts ∧
      claimed.1.endpoints = store.endpoints ∧
      claimed.1.actions = store.actions := by
  unfold OutboxStore.claimOutboxEvents at ok
  dsimp only at ok
  split at ok <;> cases ok <;> exact ⟨rfl, rfl, rfl, rfl⟩

/-- A transaction moves the deliveries, or it materialises new ones. -/
theorem apply_deliveries_cases :
    MovesDeliveries step store (store.apply step).1 ∨
      ∃ claims workerId,
        step.transaction = .materialize claims workerId ∧
        MaterializedBy store claims workerId step.now (store.apply step).1 := by
  unfold OutboxStore.apply
  split
  · exact Or.inl (movesDeliveries_of_eq rfl)
  · exact Or.inl (movesDeliveries_of_eq rfl)
  · exact Or.inl (movesDeliveries_of_eq rfl)
  · exact Or.inl (movesDeliveries_of_eq rfl)
  · exact Or.inl (movesDeliveries_of_eq rfl)
  · rename_i workerId batchSize leaseMillis skipLocked _
    cases result : store.claimOutboxEvents workerId batchSize leaseMillis skipLocked step.now with
    | error _ => exact Or.inl (movesDeliveries_of_eq rfl)
    | ok claimed =>
      exact Or.inl (movesDeliveries_of_eq (claimOutboxEvents_deliveries result).1)
  · rename_i claims workerId isMaterialize
    cases result : store.materializeDeliveriesBatch claims workerId step.now with
    | error _ => exact Or.inl (movesDeliveries_of_eq rfl)
    | ok next =>
      right
      exact ⟨claims, workerId, isMaterialize, materializeDeliveriesBatch_ok result⟩
  · exact Or.inl (movesDeliveries_of_eq rfl)
  · rename_i workerId batchSize leaseMillis skipLocked isClaim
    cases result : store.claimDeliveries workerId batchSize leaseMillis skipLocked step.now with
    | error _ => exact Or.inl (movesDeliveries_of_eq rfl)
    | ok claimed =>
      exact Or.inl (claimDeliveries_moves ⟨_, _, _, _, isClaim⟩ result)
  · rename_i claim workerId resolution isFinish
    cases result : store.finishDelivery claim workerId resolution step.now with
    | error _ => exact Or.inl (movesDeliveries_of_eq rfl)
    | ok next => exact Or.inl (finishDelivery_moves isFinish result)

/--
A transaction records no attempt, or the claims record the expired ones, or a
finish records its own; a failed transaction changes nothing.
-/
theorem apply_attempts_cases :
    (store.apply step).1 = store ∨
      (¬ step.transaction.ClaimsDeliveries ∧
        (∀ claim workerId resolution, step.transaction ≠ .finish claim workerId resolution) ∧
        (store.apply step).1.attempts = store.attempts) ∨
      (step.transaction.ClaimsDeliveries ∧
        (store.apply step).1.attempts = (store.recordExpiredDeliveryAttempts step.now).attempts) ∨
      ∃ claim workerId resolution,
        step.transaction = .finish claim workerId resolution ∧
        FinishedBy store claim workerId resolution step.now (store.apply step).1 := by
  cases transaction : step.transaction with
  | claimDeliveries workerId batchSize leaseMillis skipLocked =>
    simp only [OutboxStore.apply, transaction]
    cases result : store.claimDeliveries workerId batchSize leaseMillis skipLocked step.now with
    | error _ => exact Or.inl rfl
    | ok claimed =>
      right; right; left
      refine ⟨⟨_, _, _, _, rfl⟩, ?_⟩
      change claimed.1.attempts = (store.recordExpiredDeliveryAttempts step.now).attempts
      rcases claimDeliveries_cases result with swept | ⟨lease, isClaimed⟩
      · rw [swept]
        rfl
      · rw [isClaimed]
        rfl
  | finish claim workerId resolution =>
    simp only [OutboxStore.apply, transaction]
    cases result : store.finishDelivery claim workerId resolution step.now with
    | error _ => exact Or.inl rfl
    | ok next =>
      right; right; right
      exact ⟨claim, workerId, resolution, rfl, finishDelivery_ok result⟩
  | materialize claims workerId =>
    simp only [OutboxStore.apply, transaction]
    cases result : store.materializeDeliveriesBatch claims workerId step.now with
    | error _ => exact Or.inl rfl
    | ok next =>
      right; left
      exact ⟨nofun, nofun, (materializeDeliveriesBatch_ok result).attempts⟩
  | claimOutbox workerId batchSize leaseMillis skipLocked =>
    simp only [OutboxStore.apply, transaction]
    cases result : store.claimOutboxEvents workerId batchSize leaseMillis skipLocked step.now with
    | error _ => exact Or.inl rfl
    | ok claimed =>
      right; left
      exact ⟨nofun, nofun, (claimOutboxEvents_deliveries result).2.1⟩
  | enqueue =>
    simp only [OutboxStore.apply, transaction]
    exact Or.inr (Or.inl ⟨nofun, nofun, rfl⟩)
  | addEndpoint =>
    simp only [OutboxStore.apply, transaction]
    exact Or.inr (Or.inl ⟨nofun, nofun, rfl⟩)
  | reviseEndpoint =>
    simp only [OutboxStore.apply, transaction]
    exact Or.inr (Or.inl ⟨nofun, nofun, rfl⟩)
  | addAction =>
    simp only [OutboxStore.apply, transaction]
    exact Or.inr (Or.inl ⟨nofun, nofun, rfl⟩)
  | moveAction =>
    simp only [OutboxStore.apply, transaction]
    exact Or.inr (Or.inl ⟨nofun, nofun, rfl⟩)
  | failOutbox =>
    simp only [OutboxStore.apply, transaction]
    exact Or.inr (Or.inl ⟨nofun, nofun, rfl⟩)

theorem idle_of_mem_outboxCandidates {batchSize : Nat}
    (taken : event ∈ store.outboxCandidates now batchSize skipLocked) :
    event.status = .pending ∨ event.expired now = true := by
  have kept := (List.perm_insertionSort _ _).mem_iff.mp (List.mem_of_mem_take taken)
  have claimable := (List.mem_filter.mp kept).2
  simp only [OutboxEvent.claimable, Bool.and_eq_true, Bool.or_eq_true,
    Bool.not_eq_true', decide_eq_true_eq] at claimable
  exact claimable.1.1.imp And.left id

theorem OutboxEvent.not_idle_of_dead (isDead : event.status = .dead) :
    ¬ (event.status = .pending ∨ event.expired now = true) := by
  rintro (waits | expired)
  · rw [isDead] at waits
    cases waits
  · rw [OutboxEvent.expired, isDead] at expired
    cases expired

theorem claimOutboxEvents_cases {batchSize leaseMillis : Nat}
    (ok : store.claimOutboxEvents workerId batchSize leaseMillis skipLocked now = .ok claimed) :
    claimed.1 = store.markExhaustedOutboxLeasesDead now ∨
      ∃ lease,
        claimed.1 =
          { store.markExhaustedOutboxLeasesDead now with
            events := (store.markExhaustedOutboxLeasesDead now).events.map
                (OutboxStore.claimedEvent lease
                  ((store.markExhaustedOutboxLeasesDead
                    now).outboxCandidates now batchSize skipLocked)) } := by
  unfold OutboxStore.claimOutboxEvents at ok
  dsimp only at ok
  split at ok
  · cases ok
    exact Or.inl rfl
  · cases ok
  · rename_i lease _ _
    cases ok
    exact Or.inr ⟨lease, rfl⟩

theorem eventDeadIfExhausted_move (event : OutboxEvent) :
    EventMove step event (OutboxStore.eventDeadIfExhausted step.now event) ∧
      (OutboxStore.eventDeadIfExhausted step.now event = event ∨
        (OutboxStore.eventDeadIfExhausted step.now event).status = .dead) := by
  unfold OutboxStore.eventDeadIfExhausted
  split
  · rename_i ran
    simp only [Bool.and_eq_true] at ran
    exact ⟨.exhausted ran.1, Or.inr rfl⟩
  · exact ⟨.kept, Or.inl rfl⟩

theorem movesEvents_of_eq (same : next.events = store.events) : MovesEvents step store next :=
  ⟨fun event => event, by rw [same, List.map_id'], fun _ => .kept⟩

theorem claimOutboxEvents_moves {batchSize leaseMillis : Nat}
    (ok :
      store.claimOutboxEvents workerId batchSize leaseMillis skipLocked step.now = .ok claimed) :
    MovesEvents step store claimed.1 := by
  rcases claimOutboxEvents_cases ok with swept | ⟨lease, isClaimed⟩
  · refine ⟨OutboxStore.eventDeadIfExhausted step.now, ?_,
        fun event => (eventDeadIfExhausted_move event).1⟩
    rw [swept]
    rfl
  · refine
      ⟨fun event =>
          OutboxStore.claimedEvent lease
            ((store.markExhaustedOutboxLeasesDead
              step.now).outboxCandidates step.now batchSize skipLocked)
            (OutboxStore.eventDeadIfExhausted step.now event),
        ?_, fun event => ?_⟩
    · rw [isClaimed]
      simp only [OutboxStore.markExhaustedOutboxLeasesDead, List.map_map]
      rfl
    · obtain ⟨sweep, fresh⟩ := @eventDeadIfExhausted_move step event
      dsimp only [OutboxStore.claimedEvent]
      split
      · rename_i taken
        have idle := idle_of_mem_outboxCandidates taken
        rcases fresh with same | isDead
        · rw [same] at idle ⊢
          exact .claimed lease idle
        · exact absurd idle (OutboxEvent.not_idle_of_dead isDead)
      · exact sweep

theorem materializeDeliveriesBatch_movesEvents
    (isMaterialize : step.transaction = .materialize claims workerId)
    (ok : store.materializeDeliveriesBatch claims workerId step.now = .ok next) :
    MovesEvents step store next := by
  refine ⟨_, (materializeDeliveriesBatch_ok ok).events, fun event => ?_⟩
  unfold OutboxStore.materializedEvent
  split
  · rename_i eligible
    have held := (List.mem_filter.mp eligible).2
    simp only [Bool.and_eq_true] at held
    exact .fannedOut claims workerId store isMaterialize held.2
  · exact .kept

theorem failedEvent_move (claim : OutboxEventClaim) (workerId : String) (retryable : Bool)
    (retryDelayMillis : Nat) (errorKind : String) (refundAttempt : Bool) (event : OutboxEvent) :
    EventMove step event
      (OutboxStore.failedEvent claim workerId retryable retryDelayMillis
        errorKind refundAttempt step.now event) := by
  unfold OutboxStore.failedEvent
  split
  · rename_i holds
    simp only [Bool.and_eq_true] at holds
    refine .failed _ _ _ _ workerId holds.2 ?_
    split
    · exact Or.inl rfl
    · exact Or.inr rfl
  · exact .kept

/-- A transaction moves the events, or it enqueues a pending one. -/
theorem apply_events_cases :
    MovesEvents step store (store.apply step).1 ∨
      ∃ event : OutboxEvent,
        event.status = .pending ∧
        (store.apply step).1.events = insertUnlessPresent OutboxEvent.id event store.events := by
  unfold OutboxStore.apply
  split
  · exact Or.inr ⟨_, rfl, rfl⟩
  · exact Or.inl (movesEvents_of_eq rfl)
  · exact Or.inl (movesEvents_of_eq rfl)
  · exact Or.inl (movesEvents_of_eq rfl)
  · exact Or.inl (movesEvents_of_eq rfl)
  · rename_i workerId batchSize leaseMillis skipLocked _
    cases result : store.claimOutboxEvents workerId batchSize leaseMillis skipLocked step.now with
    | error _ => exact Or.inl (movesEvents_of_eq rfl)
    | ok claimed => exact Or.inl (claimOutboxEvents_moves result)
  · rename_i claims workerId isMaterialize
    cases result : store.materializeDeliveriesBatch claims workerId step.now with
    | error _ => exact Or.inl (movesEvents_of_eq rfl)
    | ok next =>
      exact Or.inl (materializeDeliveriesBatch_movesEvents isMaterialize result)
  · left
    exact ⟨_, rfl, fun event => failedEvent_move _ _ _ _ _ _ event⟩
  · rename_i workerId batchSize leaseMillis skipLocked _
    cases result : store.claimDeliveries workerId batchSize leaseMillis skipLocked step.now with
    | error _ => exact Or.inl (movesEvents_of_eq rfl)
    | ok claimed =>
      refine Or.inl (movesEvents_of_eq ?_)
      change claimed.1.events = store.events
      rcases claimDeliveries_cases result with swept | ⟨lease, isClaimed⟩
      · rw [swept]
        rfl
      · rw [isClaimed]
        rfl
  · rename_i claim workerId resolution _
    cases result : store.finishDelivery claim workerId resolution step.now with
    | error _ => exact Or.inl (movesEvents_of_eq rfl)
    | ok next => exact Or.inl (movesEvents_of_eq (finishDelivery_ok result).events)

end Moves

end CrowdRelay
