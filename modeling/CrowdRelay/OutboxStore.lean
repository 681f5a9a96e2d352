import Mathlib.Data.List.Sort
import CrowdRelay.ActionPayload
import CrowdRelay.KeyedTable
import CrowdRelay.LiveOpportunity

namespace CrowdRelay

open KeyedTable

/-!
# The outbox store

Events wait in the outbox until a worker materialises a delivery of each for
every endpoint that subscribes to it; deliveries are claimed under a lease,
attempted and finished.  Every transaction reads one clock.
-/

/-- Who holds a row, since when and until when. -/
@[ext]
structure StoreLease where
  owner : String
  lockedAt : OffsetDateTime
  expiresAt : OffsetDateTime
  ordered : lockedAt < expiresAt
  deriving Repr

instance : DecidableEq StoreLease := fun _ _ => decidable_of_iff' _ StoreLease.ext_iff

/-- The lease that a claim takes; the table refuses one that ends at once. -/
def StoreLease.grant? (owner : String) (now : OffsetDateTime)
    (leaseMillis : Nat) : Option StoreLease :=
  if positive : now < now + 1000000 * (leaseMillis : Int) then
    some
      { owner := owner
        lockedAt := now
        expiresAt := now + 1000000 * (leaseMillis : Int)
        ordered := positive }
  else
    none

/-- The lock columns are set exactly while the row is in processing. -/
inductive OutboxStatus where
  | pending
  | processing (lease : StoreLease)
  | delivered
  | dead
  deriving Repr, DecidableEq

structure OutboxEvent where
  id : Uuid
  workspaceId : Uuid
  eventType : String
  actionId : Option Uuid
  status : OutboxStatus
  attempts : Nat
  maxAttempts : Nat
  availableAt : OffsetDateTime
  lastErrorKind : Option String
  deriving Repr, DecidableEq

structure WebhookEndpoint where
  id : Uuid
  workspaceId : Uuid
  active : Bool
  eventTypes : Option (List String)
  maxAttempts : Nat
  deriving Repr, DecidableEq

inductive DeliveryStatus where
  | pending
  | processing (lease : StoreLease)
  | delivered
  | dead
  | cancelled
  deriving Repr, DecidableEq

/-- Deliveries are numbered in the order of their insertion. -/
structure WebhookDelivery where
  id : Nat
  workspaceId : Uuid
  outboxEventId : Uuid
  endpointId : Uuid
  status : DeliveryStatus
  attemptCount : Nat
  maxAttempts : Nat
  availableAt : OffsetDateTime
  lastErrorKind : Option String
  deriving Repr, DecidableEq

inductive RecordedOutcome where
  | delivered
  | retry
  | dead
  | cancelled
  | ambiguous
  deriving Repr, DecidableEq

structure DeliveryAttempt where
  deliveryId : Nat
  attemptNumber : Nat
  outcome : RecordedOutcome
  errorKind : Option String
  deriving Repr, DecidableEq

inductive ActionStatus where
  | awaitingApproval
  | queued
  | processing
  | succeeded
  | failed
  | cancelled
  | unknown
  deriving Repr, DecidableEq

structure LinkedAction where
  id : Uuid
  workspaceId : Uuid
  status : ActionStatus
  deriving Repr, DecidableEq

structure OutboxStore where
  events : List OutboxEvent
  endpoints : List WebhookEndpoint
  deliveries : List WebhookDelivery
  attempts : List DeliveryAttempt
  actions : List LinkedAction
  deriving Repr, DecidableEq

structure OutboxEventClaim where
  id : Uuid
  workspaceId : Uuid
  attemptNumber : Nat
  deriving Repr, DecidableEq

structure DeliveryClaim where
  deliveryId : Nat
  workspaceId : Uuid
  actionId : Option Uuid
  attemptNumber : Nat
  maxAttempts : Nat
  deriving Repr, DecidableEq

inductive StoreError where
  | database
  | lostLease
  deriving Repr, DecidableEq

namespace OutboxEvent

def expired (now : OffsetDateTime) (event : OutboxEvent) : Bool :=
  match event.status with
  | .processing lease => lease.expiresAt ≤ now
  | _ => false

def heldBy (workerId : String) (event : OutboxEvent) : Bool :=
  match event.status with
  | .processing lease => lease.owner = workerId
  | _ => false

def claimable (now : OffsetDateTime) (event : OutboxEvent) : Bool :=
  ((event.status = .pending && event.availableAt ≤ now) ||
    event.expired now) &&
    event.attempts < event.maxAttempts

/-- The mail that must not be called delivered without a route. -/
def authenticates (event : OutboxEvent) : Bool :=
  event.eventType = "fan.confirmation_requested" || event.eventType = "fan.session_requested"

end OutboxEvent

namespace WebhookEndpoint

def subscribes (endpoint : WebhookEndpoint) (eventType : String) : Bool :=
  endpoint.eventTypes.all fun types => types.contains eventType

/-- The endpoint takes deliveries of the event. -/
def routes (endpoint : WebhookEndpoint) (event : OutboxEvent) : Bool :=
  endpoint.workspaceId = event.workspaceId && endpoint.active && endpoint.subscribes event.eventType

end WebhookEndpoint

namespace WebhookDelivery

/-- What there is at most one delivery of. -/
def key (delivery : WebhookDelivery) : Uuid × Uuid × Uuid :=
  (delivery.workspaceId, delivery.outboxEventId, delivery.endpointId)

def expired (now : OffsetDateTime) (delivery : WebhookDelivery) : Bool :=
  match delivery.status with
  | .processing lease => lease.expiresAt ≤ now
  | _ => false

def heldBy (workerId : String) (delivery : WebhookDelivery) : Bool :=
  match delivery.status with
  | .processing lease => lease.owner = workerId
  | _ => false

def exhausted (delivery : WebhookDelivery) : Bool := delivery.maxAttempts ≤ delivery.attemptCount

end WebhookDelivery

def DeliveryAttempt.key (attempt : DeliveryAttempt) : Nat × Nat :=
  (attempt.deliveryId, attempt.attemptNumber)

/-- Only a running or a succeeded action can become unknown. -/
def LinkedAction.lost (action : LinkedAction) : LinkedAction :=
  if action.status = .succeeded ∨ action.status = .processing then
    { action with status := .unknown }
  else
    action

namespace OutboxStore

variable (store : OutboxStore) (delivery : WebhookDelivery)

def endpointOf : Option WebhookEndpoint :=
  store.endpoints.find? fun endpoint =>
    endpoint.workspaceId = delivery.workspaceId && endpoint.id = delivery.endpointId

def eventOf : Option OutboxEvent :=
  store.events.find? fun event =>
    event.workspaceId = delivery.workspaceId && event.id = delivery.outboxEventId

def endpointInactive : Bool := (store.endpointOf delivery).any fun endpoint => !endpoint.active

def endpointActive : Bool := (store.endpointOf delivery).any fun endpoint => endpoint.active

/-! ## Claiming, materialising and failing events -/

variable (now : OffsetDateTime) (event : OutboxEvent)

def eventDeadIfExhausted : OutboxEvent :=
  if event.expired now && event.maxAttempts ≤ event.attempts then
    { event with
      status := .dead
      lastErrorKind := some "lease_expired_after_max_attempts" }
  else
    event

def markExhaustedOutboxLeasesDead : OutboxStore :=
  { store with
    events := store.events.map (eventDeadIfExhausted now) }

/-- The rows a claim takes: due first, those locked elsewhere skipped. -/
def outboxCandidates (batchSize : Nat)
    (skipLocked : List Uuid) : List OutboxEvent :=
  ((store.events.filter fun event =>
      event.claimable now && !skipLocked.contains event.id).insertionSort
    fun first second =>
      first.availableAt < second.availableAt ∨
        first.availableAt = second.availableAt ∧
          first.id ≤ second.id).take batchSize

variable (lease : StoreLease)

def claimedEvent (candidates : List OutboxEvent)
    (event : OutboxEvent) : OutboxEvent :=
  if event ∈ candidates then
    { event with
      status := .processing lease
      attempts := event.attempts + 1
      lastErrorKind := none }
  else
    event

variable (workerId : String)

def claimOutboxEvents (batchSize leaseMillis : Nat) (skipLocked : List Uuid)
    (now : OffsetDateTime) :
    Except StoreError (OutboxStore × List OutboxEventClaim) :=
  let swept := store.markExhaustedOutboxLeasesDead now
  let candidates := swept.outboxCandidates now batchSize skipLocked
  match candidates, StoreLease.grant? workerId now leaseMillis with
  | [], _ => .ok (swept, [])
  | _ :: _, none => .error .database
  | _ :: _, some lease =>
    .ok
      ({ swept with
          events := swept.events.map (claimedEvent lease candidates) },
        candidates.map fun event =>
          { id := event.id
            workspaceId := event.workspaceId
            attemptNumber := event.attempts + 1 })

variable (claims : List OutboxEventClaim)

/-- The claimed events that the worker still holds. -/
def eligibleEvents
    (workerId : String) : List OutboxEvent :=
  store.events.filter fun event =>
    (claims.map OutboxEventClaim.id).contains event.id && event.heldBy workerId

def owedDeliveries : List WebhookDelivery :=
  (store.endpoints.filter fun endpoint => endpoint.routes event).map
    fun endpoint =>
      { id := 0
        workspaceId := endpoint.workspaceId
        outboxEventId := event.id
        endpointId := endpoint.id
        status := .pending
        attemptCount := 0
        maxAttempts := endpoint.maxAttempts
        availableAt := now
        lastErrorKind := none }

/-- Inserts a delivery, under the next number, unless the pair has one. -/
def insertDelivery (deliveries : List WebhookDelivery)
    (delivery : WebhookDelivery) : List WebhookDelivery :=
  insertUnlessPresent WebhookDelivery.key { delivery with id := deliveries.length } deliveries

/-- An authentication mail without any route is dead, not delivered. -/
def fannedOut (store : OutboxStore) (event : OutboxEvent) : OutboxEvent :=
  if event.authenticates &&
      !(store.endpoints.any fun endpoint => endpoint.routes event) then
    { event with
      status := .dead
      lastErrorKind := some "endpoint_missing_route" }
  else
    { event with
      status := .delivered
      lastErrorKind := none }

/-- An event that the worker held is done; the others stay. -/
def materializedEvent (eligible : List OutboxEvent)
    (event : OutboxEvent) : OutboxEvent :=
  if event ∈ eligible then store.fannedOut event else event

def materializeDeliveriesBatch (workerId : String)
    (now : OffsetDateTime) : Except StoreError OutboxStore :=
  let eligible := store.eligibleEvents claims workerId
  if eligible.length ≠ claims.length then
    .error .lostLease
  else
    .ok
      { store with
        deliveries :=
          (eligible.flatMap fun event =>
            store.owedDeliveries now event).foldl insertDelivery
            store.deliveries
        events := store.events.map (store.materializedEvent eligible) }

/-- Whether a failed event waits for another attempt. -/
def retries
    (retryable refundAttempt : Bool) : Bool :=
  retryable && (refundAttempt || event.attempts < event.maxAttempts)

variable (claim : OutboxEventClaim)

def failedEvent (workerId : String) (retryable : Bool) (retryDelayMillis : Nat)
    (errorKind : String) (refundAttempt : Bool) (now : OffsetDateTime)
    (event : OutboxEvent) : OutboxEvent :=
  if event.workspaceId = claim.workspaceId && event.id = claim.id &&
      event.heldBy workerId then
    { event with
      attempts := if refundAttempt then event.attempts - 1 else event.attempts
      status :=
        if retries event retryable refundAttempt then .pending else .dead
      availableAt :=
        if retries event retryable refundAttempt then
          now + 1000000 * (retryDelayMillis : Int)
        else
          event.availableAt
      lastErrorKind := some errorKind }
  else
    event

def failOutboxEvent (workerId : String) (retryable : Bool) (retryDelayMillis : Nat)
    (errorKind : String) (refundAttempt : Bool)
    (now : OffsetDateTime) : OutboxStore :=
  { store with
    events :=
      store.events.map
        (failedEvent claim workerId retryable retryDelayMillis errorKind refundAttempt now) }

/-! ## Claiming and finishing deliveries -/

/-- What the sweep writes about an attempt whose lease ran out. -/
def expiredAttempt : DeliveryAttempt :=
  { deliveryId := delivery.id
    attemptNumber := delivery.attemptCount
    outcome :=
      if store.endpointInactive delivery then
        .cancelled
      else if delivery.exhausted then
        .dead
      else
        .retry
    errorKind :=
      if store.endpointInactive delivery then some "endpoint_inactive" else some "lease_expired" }

def recordExpiredDeliveryAttempts : OutboxStore :=
  { store with
    attempts :=
      insertAll DeliveryAttempt.key store.attempts
        ((store.deliveries.filter fun delivery =>
            delivery.expired now && (store.endpointOf delivery).isSome).map
          store.expiredAttempt) }

def cancelledIfInactive
    (delivery : WebhookDelivery) : WebhookDelivery :=
  if store.endpointInactive delivery &&
      (delivery.status = .pending || delivery.expired now) then
    { delivery with
      status := .cancelled
      lastErrorKind := some "endpoint_inactive" }
  else
    delivery

def cancelInactiveEndpointDeliveries : OutboxStore :=
  { store with
    deliveries := store.deliveries.map (store.cancelledIfInactive now) }

def deadIfExhausted
    (delivery : WebhookDelivery) : WebhookDelivery :=
  if delivery.expired now && delivery.exhausted then
    { delivery with
      status := .dead
      lastErrorKind := some "lease_expired_after_max_attempts" }
  else
    delivery

/-- The lease ran out in the last attempt: nobody knows what it did. -/
def markExhaustedDeliveryLeasesDead : OutboxStore :=
  let died :=
    store.deliveries.filter fun delivery =>
      delivery.expired now && delivery.exhausted
  { store with
    deliveries := store.deliveries.map (deadIfExhausted now)
    actions :=
      store.actions.map fun action =>
        if died.any fun delivery =>
            (store.eventOf delivery).any fun event =>
              event.actionId = some action.id then
          LinkedAction.lost action
        else
          action }

def deliveryClaimable
    (delivery : WebhookDelivery) : Bool :=
  store.endpointActive delivery &&
    ((delivery.status = .pending && delivery.availableAt ≤ now) || delivery.expired now) &&
    !delivery.exhausted

def deliveryCandidates (batchSize : Nat)
    (skipLocked : List Nat) : List WebhookDelivery :=
  ((store.deliveries.filter fun delivery =>
      store.deliveryClaimable now delivery && !skipLocked.contains delivery.id).insertionSort
    fun first second =>
      first.availableAt < second.availableAt ∨
        first.availableAt = second.availableAt ∧
          first.id ≤ second.id).take batchSize

def claimedRow (candidates : List WebhookDelivery)
    (delivery : WebhookDelivery) : WebhookDelivery :=
  if delivery ∈ candidates then
    { delivery with
      status := .processing lease
      attemptCount := delivery.attemptCount + 1
      lastErrorKind := none }
  else
    delivery

/-- The three sweeps that run before a claim. -/
def sweepDeliveries : OutboxStore :=
  (((store.recordExpiredDeliveryAttempts now).cancelInactiveEndpointDeliveries
    now).markExhaustedDeliveryLeasesDead now)

def claimDeliveries (batchSize leaseMillis : Nat) (skipLocked : List Nat) (now : OffsetDateTime) :
    Except StoreError (OutboxStore × List DeliveryClaim) :=
  let swept := store.sweepDeliveries now
  let candidates := swept.deliveryCandidates now batchSize skipLocked
  match candidates, StoreLease.grant? workerId now leaseMillis with
  | [], _ => .ok (swept, [])
  | _ :: _, none => .error .database
  | _ :: _, some lease =>
    .ok
      ({ swept with
          deliveries := swept.deliveries.map (claimedRow lease candidates) },
        candidates.map fun delivery =>
          { deliveryId := delivery.id
            workspaceId := delivery.workspaceId
            actionId := (swept.eventOf delivery).bind OutboxEvent.actionId
            attemptNumber := delivery.attemptCount + 1
            maxAttempts := delivery.maxAttempts })

end OutboxStore

/-- What one attempt came to, as the dispatcher tells it. -/
inductive DispatchDisposition where
  | delivered
  | retryable
  | permanent
  | ambiguous
  deriving Repr, DecidableEq

inductive AttemptOutcome where
  | delivered
  | retry
  | dead
  | ambiguous
  deriving Repr, DecidableEq

namespace AttemptOutcome

def deliveryStatus : AttemptOutcome → DeliveryStatus
  | .delivered => .delivered
  | .retry => .pending
  | .dead | .ambiguous => .dead

def recorded : AttemptOutcome → RecordedOutcome
  | .delivered => .delivered
  | .retry => .retry
  | .dead => .dead
  | .ambiguous => .ambiguous

end AttemptOutcome

/-- What an attempt is finished as: retried while attempts are left. -/
def finalOutcome (disposition : DispatchDisposition)
    (attemptNumber maxAttempts : Nat) : AttemptOutcome :=
  match disposition with
  | .delivered => .delivered
  | .retryable => if attemptNumber < maxAttempts then .retry else .dead
  | .permanent => .dead
  | .ambiguous => if attemptNumber < maxAttempts then .retry else .ambiguous

structure AttemptResolution where
  outcome : AttemptOutcome
  responseStatus : Option Nat
  errorKind : Option String
  retryDelayMillis : Nat
  deriving Repr, DecidableEq

namespace OutboxStore

variable (claim : DeliveryClaim) (workerId : String)

/-- The rows a finish may change: one, held by the worker in this attempt. -/
def finishes
    (delivery : WebhookDelivery) : Bool :=
  delivery.workspaceId = claim.workspaceId &&
    delivery.id = claim.deliveryId &&
    delivery.heldBy workerId &&
    delivery.attemptCount = claim.attemptNumber

def finishedRow (resolution : AttemptResolution) (now : OffsetDateTime)
    (delivery : WebhookDelivery) : WebhookDelivery :=
  if finishes claim workerId delivery then
    { delivery with
      status := resolution.outcome.deliveryStatus
      availableAt :=
        if resolution.outcome = .retry then
          now + 1000000 * (resolution.retryDelayMillis : Int)
        else
          delivery.availableAt
      lastErrorKind := resolution.errorKind }
  else
    delivery

/--
A finish stamps `dead_at` when the recorded outcome is `dead`, and the table of
deliveries wants the stamp exactly on its dead rows.
-/
def deadStampAgrees (outcome : AttemptOutcome) : Bool :=
  (outcome.deliveryStatus = .dead) = (outcome.recorded = .dead)

/-- What the table of attempts takes of a resolution. -/
def attemptAllowed (resolution : AttemptResolution) : Bool :=
  resolution.responseStatus.all (fun status =>
      100 ≤ status && status ≤ 599) &&
    (resolution.outcome ≠ .delivered ||
      resolution.responseStatus.any fun status =>
        200 ≤ status && status ≤ 299)

def finishDelivery (store : OutboxStore) (claim : DeliveryClaim) (workerId : String)
    (resolution : AttemptResolution)
    (now : OffsetDateTime) : Except StoreError OutboxStore :=
  if (store.deliveries.filter (finishes claim workerId)).length ≠ 1 then
    .error .lostLease
  else if !deadStampAgrees resolution.outcome then
    .error .database
  else
    let attempt : DeliveryAttempt :=
      { deliveryId := claim.deliveryId
        attemptNumber := claim.attemptNumber
        outcome := resolution.outcome.recorded
        errorKind := resolution.errorKind }
    if attempt.key ∈ store.attempts.map DeliveryAttempt.key ∨
        !attemptAllowed resolution then
      .error .database
    else
      .ok
        { store with
          deliveries := store.deliveries.map (finishedRow claim workerId resolution now)
          attempts := store.attempts ++ [attempt]
          actions :=
            if resolution.outcome = .ambiguous then
              store.actions.map fun action =>
                if claim.actionId = some action.id &&
                    action.workspaceId = claim.workspaceId then
                  LinkedAction.lost action
                else
                  action
            else
              store.actions }

end OutboxStore

end CrowdRelay
