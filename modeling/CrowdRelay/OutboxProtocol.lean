import CrowdRelay.OutboxTransactions

namespace CrowdRelay

open KeyedTable Machine

/-!
# The delivery protocol

What holds of the store in every run: one delivery for a pair, no attempt
past the limit, terminal rows that never change, one attempt row for every
attempt, and leases that keep everybody else away.
-/

namespace WebhookDelivery

/-- Nothing in the store works on the delivery any more. -/
def Terminal (delivery : WebhookDelivery) : Prop :=
  delivery.status = .delivered ∨ delivery.status = .dead ∨ delivery.status = .cancelled

def InProcessing (delivery : WebhookDelivery) : Prop := ∃ lease, delivery.status = .processing lease

def settledAttempts (delivery : WebhookDelivery) : Nat :=
  match delivery.status with
  | .processing _ => delivery.attemptCount - 1
  | _ => delivery.attemptCount

end WebhookDelivery

def OutboxEvent.Terminal (event : OutboxEvent) : Prop :=
  event.status = .delivered ∨ event.status = .dead

/-- The delivery, outbox and lease guarantees of a run of transactions. -/
structure DeliveryProtocol (run : List TimedTransaction) : Prop where
  identified :
    Unique WebhookDelivery.id (storeAfter run).deliveries
  onePerPair :
    ∀ first ∈ (storeAfter run).deliveries,
      ∀ second ∈ (storeAfter run).deliveries,
        first.outboxEventId = second.outboxEventId →
        first.endpointId = second.endpointId →
        first = second
  withinLimit :
    ∀ delivery ∈ (storeAfter run).deliveries,
      delivery.attemptCount ≤ delivery.maxAttempts
  frozenDeliveries :
    ∀ before later,
      run = before ++ later →
      ∀ delivery ∈ (storeAfter before).deliveries,
        delivery.Terminal → delivery ∈ (storeAfter run).deliveries
  frozenEvents :
    ∀ before later,
      run = before ++ later →
      ∀ event ∈ (storeAfter before).events,
        event.Terminal → event ∈ (storeAfter run).events
  attemptedOnce :
    Unique DeliveryAttempt.key (storeAfter run).attempts
  attemptsRecorded :
    ∀ delivery ∈ (storeAfter run).deliveries,
      ¬ delivery.InProcessing →
      ∀ number,
        1 ≤ number →
        number ≤ delivery.attemptCount →
        ∃! attempt,
          attempt ∈ (storeAfter run).attempts ∧
            attempt.key = (delivery.id, number)
  leaseHeld :
    ∀ before step later,
      run = before ++ step :: later →
      ∀ delivery ∈ (storeAfter before).deliveries,
        ∀ lease,
          delivery.status = .processing lease →
          step.now < lease.expiresAt →
          (∀ claim resolution,
            step.transaction = .finish claim lease.owner resolution →
            claim.deliveryId = delivery.id →
            claim.attemptNumber ≠ delivery.attemptCount) →
          delivery ∈ (storeAfter (before ++ [step])).deliveries
  fanOut :
    ∀ before step later,
      run = before ++ step :: later →
      ∀ event ∈ (storeAfter (before ++ [step])).events,
        event.status = .delivered →
        event ∈ (storeAfter before).events ∨
          (∃ claims workerId,
            step.transaction = .materialize claims workerId) ∧
          ∀ endpoint ∈ (storeAfter before).endpoints,
            endpoint.routes event →
            ∃ delivery ∈ (storeAfter (before ++ [step])).deliveries,
              delivery.outboxEventId = event.id ∧
                delivery.endpointId = endpoint.id

variable {step : TimedTransaction}

section Moves

variable {store : OutboxStore}

theorem not_idle_of_terminal {now : OffsetDateTime} {delivery : WebhookDelivery}
    (terminal : delivery.Terminal) :
    ¬ delivery.Idle now := by
  rintro (waits | expired)
  · rcases terminal with ended | ended | ended <;>
      rw [ended] at waits <;> cases waits
  · unfold WebhookDelivery.expired at expired
    rcases terminal with ended | ended | ended <;>
      rw [ended] at expired <;> cases expired

theorem inProcessing_of_finishes {claim : DeliveryClaim} {workerId : String}
    {delivery : WebhookDelivery} (finishes : OutboxStore.finishes claim workerId delivery = true) :
    (∃ lease, delivery.status = .processing lease ∧ lease.owner = workerId) ∧
      delivery.id = claim.deliveryId ∧
      delivery.attemptCount = claim.attemptNumber := by
  simp only [OutboxStore.finishes, Bool.and_eq_true, decide_eq_true_eq] at finishes
  obtain ⟨⟨⟨_, isNamed⟩, held⟩, current⟩ := finishes
  refine ⟨?_, isNamed, current⟩
  unfold WebhookDelivery.heldBy at held
  split at held
  · rename_i lease isProcessing
    exact ⟨lease, isProcessing, of_decide_eq_true held⟩
  · cases held

theorem DeliveryMove.eq_of_terminal {delivery moved : WebhookDelivery}
    (move : DeliveryMove step delivery moved) (terminal : delivery.Terminal) :
    moved = delivery := by
  cases move with
  | kept => rfl
  | claimed lease isClaim idle left =>
    exact absurd idle (not_idle_of_terminal terminal)
  | lapsed status errorKind isClaim idle ended =>
    exact absurd idle (not_idle_of_terminal terminal)
  | finished claim workerId resolution isFinish finishes =>
    obtain ⟨⟨lease, isProcessing, _⟩, _⟩ := inProcessing_of_finishes finishes
    rcases terminal with ended | ended | ended <;>
      rw [ended] at isProcessing <;> cases isProcessing

/-- Under a lease that runs only its holder moves a delivery. -/
theorem DeliveryMove.eq_of_held {delivery moved : WebhookDelivery}
    (move : DeliveryMove step delivery moved) {lease : StoreLease}
    (isProcessing : delivery.status = .processing lease) (runs : step.now < lease.expiresAt)
    (notHolder :
      ∀ claim resolution,
        step.transaction = .finish claim lease.owner resolution →
        claim.deliveryId = delivery.id →
        claim.attemptNumber ≠ delivery.attemptCount) :
    moved = delivery := by
  have busy : ¬ delivery.Idle step.now := by
    rintro (waits | expired)
    · rw [waits] at isProcessing
      cases isProcessing
    · rw [WebhookDelivery.expired, isProcessing] at expired
      exact absurd (of_decide_eq_true expired) (not_le_of_gt runs)
  cases move with
  | kept => rfl
  | claimed other isClaim idle left => exact absurd idle busy
  | lapsed status errorKind isClaim idle ended => exact absurd idle busy
  | finished claim workerId resolution isFinish finishes =>
    obtain ⟨⟨held, isHeld, isOwner⟩, isNamed, current⟩ := inProcessing_of_finishes finishes
    rw [isHeld] at isProcessing
    obtain rfl := DeliveryStatus.processing.inj isProcessing
    rw [← isOwner] at isFinish
    exact absurd current.symm (notHolder claim resolution isFinish isNamed.symm)

theorem DeliveryMove.key_eq {delivery moved : WebhookDelivery}
    (move : DeliveryMove step delivery moved) :
    moved.id = delivery.id ∧ moved.key = delivery.key ∧
      moved.maxAttempts = delivery.maxAttempts := by
  cases move with
  | kept => exact ⟨rfl, rfl, rfl⟩
  | claimed => exact ⟨rfl, rfl, rfl⟩
  | lapsed => exact ⟨rfl, rfl, rfl⟩
  | finished claim workerId resolution isFinish finishes =>
    rw [OutboxStore.finishedRow, if_pos finishes]
    exact ⟨rfl, rfl, rfl⟩

theorem EventMove.id_eq {event moved : OutboxEvent} (move : EventMove step event moved) :
    moved.id = event.id ∧ moved.workspaceId = event.workspaceId := by
  cases move with
  | kept => exact ⟨rfl, rfl⟩
  | claimed => exact ⟨rfl, rfl⟩
  | exhausted => exact ⟨rfl, rfl⟩
  | fannedOut =>
    unfold OutboxStore.fannedOut
    split <;> exact ⟨rfl, rfl⟩
  | failed => exact ⟨rfl, rfl⟩

theorem EventMove.eq_of_terminal {event moved : OutboxEvent}
    (move : EventMove step event moved) (terminal : event.Terminal) :
    moved = event := by
  have notExpired : ¬ event.expired step.now = true := by
    unfold OutboxEvent.expired
    rcases terminal with ended | ended <;> rw [ended] <;> exact nofun
  have notHeld : ∀ workerId, ¬ event.heldBy workerId = true := by
    unfold OutboxEvent.heldBy
    rcases terminal with ended | ended <;> rw [ended] <;> exact nofun
  cases move with
  | kept => rfl
  | claimed lease idle =>
    rcases idle with waits | expired
    · rcases terminal with ended | ended <;>
        rw [ended] at waits <;> cases waits
    · exact absurd expired notExpired
  | exhausted expired => exact absurd expired notExpired
  | fannedOut claims workerId other isMaterialize held =>
    exact absurd held (notHeld workerId)
  | failed status attempts availableAt errorKind workerId held =>
    exact absurd held (notHeld workerId)

theorem EventMove.materialize_of_delivered {event moved : OutboxEvent}
    (move : EventMove step event moved) (delivered : moved.status = .delivered) :
    moved = event ∨ ∃ claims workerId, step.transaction = .materialize claims workerId := by
  cases move with
  | kept => exact Or.inl rfl
  | claimed => cases delivered
  | exhausted => cases delivered
  | fannedOut claims workerId other isMaterialize =>
    exact Or.inr ⟨claims, workerId, isMaterialize⟩
  | failed status attempts availableAt errorKind workerId held released =>
    rcases released with pending | isDead
    · rw [pending] at delivered
      cases delivered
    · rw [isDead] at delivered
      cases delivered

end Moves

/-- What the attempts say of one delivery. -/
structure RowSound
    (attempts : List DeliveryAttempt)
    (delivery : WebhookDelivery) : Prop where
  limited : delivery.attemptCount ≤ delivery.maxAttempts
  recorded :
    ∀ number,
      1 ≤ number →
      number ≤ delivery.settledAttempts →
      (delivery.id, number) ∈ attempts.map DeliveryAttempt.key

/-- The rows that a delivery refers to are there. -/
def Linked (store : OutboxStore) (delivery : WebhookDelivery) : Prop :=
  (∃ event ∈ store.events,
    event.workspaceId = delivery.workspaceId ∧ event.id = delivery.outboxEventId) ∧
    ∃ endpoint ∈ store.endpoints,
      endpoint.workspaceId = delivery.workspaceId ∧ endpoint.id = delivery.endpointId

structure DeliveriesSound
    (store : OutboxStore)
    (deliveries : List WebhookDelivery) : Prop where
  numbered :
    deliveries.map WebhookDelivery.id = List.range deliveries.length
  pairs : Unique WebhookDelivery.key deliveries
  linked : ∀ delivery ∈ deliveries, Linked store delivery
  rows : ∀ delivery ∈ deliveries, RowSound store.attempts delivery

variable {store : OutboxStore}

theorem DeliveriesSound.identified {deliveries : List WebhookDelivery}
    (sound : DeliveriesSound store deliveries) :
    KeyedTable.Unique WebhookDelivery.id deliveries := by
  unfold KeyedTable.Unique
  rw [sound.numbered]
  exact List.nodup_range

structure StoreSound (store : OutboxStore) : Prop where
  events : Unique OutboxEvent.id store.events
  attempts : Unique DeliveryAttempt.key store.attempts
  deliveries : DeliveriesSound store store.deliveries

theorem storeSound_empty : StoreSound .empty where
  events := unique_nil
  attempts := unique_nil
  deliveries :=
    { numbered := rfl
      pairs := unique_nil
      linked := by
        intro delivery absent
        cases absent
      rows := by
        intro delivery absent
        cases absent }

section Sound

variable {store next : OutboxStore} {delivery : WebhookDelivery} {now : OffsetDateTime}
  {event : OutboxEvent} {claims : List OutboxEventClaim} {workerId : String}

theorem Linked.endpointOf_isSome (linked : Linked store delivery) :
    (store.endpointOf delivery).isSome := by
  obtain ⟨_, endpoint, isThere, workspace, named⟩ := linked
  unfold OutboxStore.endpointOf
  rw [List.find?_isSome]
  exact ⟨endpoint, isThere, by simp [workspace, named]⟩

theorem Linked.mono {delivery other : WebhookDelivery} (linked : Linked store delivery)
    (sameKey : other.key = delivery.key)
    (events :
      ∀ event ∈ store.events,
        ∃ kept ∈ next.events, kept.workspaceId = event.workspaceId ∧ kept.id = event.id)
    (endpoints :
      ∀ endpoint ∈ store.endpoints,
        ∃ kept ∈ next.endpoints, kept.workspaceId = endpoint.workspaceId ∧ kept.id = endpoint.id) :
    Linked next other := by
  simp only [WebhookDelivery.key, Prod.mk.injEq] at sameKey
  obtain ⟨workspace, eventId, endpointId⟩ := sameKey
  obtain
    ⟨⟨event, hasEvent, ofWorkspace, isEvent⟩,
      endpoint, hasEndpoint, inWorkspace, isEndpoint⟩ := linked
  obtain ⟨keptEvent, isKept, sameWorkspace, sameId⟩ := events event hasEvent
  obtain ⟨keptEndpoint, isKeptEndpoint, sameSpace, sameName⟩ := endpoints endpoint hasEndpoint
  refine ⟨⟨keptEvent, isKept, ?_, ?_⟩, keptEndpoint, isKeptEndpoint, ?_, ?_⟩
  · rw [sameWorkspace, ofWorkspace, workspace]
  · rw [sameId, isEvent, eventId]
  · rw [sameSpace, inWorkspace, workspace]
  · rw [sameName, isEndpoint, endpointId]

theorem apply_events_kept :
    ∀ event ∈ store.events,
      ∃ kept ∈ (store.apply step).1.events,
        kept.workspaceId = event.workspaceId ∧ kept.id = event.id := by
  intro event member
  rcases @apply_events_cases store step with
    ⟨update, mapped, moves⟩ | ⟨added, _, inserted⟩
  · refine ⟨update event, ?_, (moves event).id_eq.2, (moves event).id_eq.1⟩
    rw [mapped]
    exact List.mem_map_of_mem member
  · refine ⟨event, ?_, rfl, rfl⟩
    rw [inserted]
    exact subset_insertUnlessPresent member

/-- Endpoints keep their identity through every transaction. -/
theorem apply_endpoints_kept :
    ∀ endpoint ∈ store.endpoints,
      ∃ kept ∈ (store.apply step).1.endpoints,
        kept.workspaceId = endpoint.workspaceId ∧ kept.id = endpoint.id := by
  intro endpoint member
  have same :
      ∀ {other : OutboxStore},
        other.endpoints = store.endpoints →
        ∃ kept ∈ other.endpoints, kept.workspaceId = endpoint.workspaceId ∧ kept.id = endpoint.id :=
    fun equal => ⟨endpoint, equal ▸ member, rfl, rfl⟩
  unfold OutboxStore.apply
  split
  · exact same rfl
  · exact ⟨endpoint, subset_insertUnlessPresent member, rfl, rfl⟩
  · refine ⟨_, List.mem_map_of_mem member, ?_⟩
    split <;> exact ⟨rfl, rfl⟩
  · exact same rfl
  · exact same rfl
  · rename_i workerId batchSize leaseMillis skipLocked _
    cases result : store.claimOutboxEvents workerId batchSize leaseMillis skipLocked step.now with
    | error _ => exact same rfl
    | ok claimed => exact same (claimOutboxEvents_deliveries result).2.2.1
  · rename_i claims workerId _
    cases result : store.materializeDeliveriesBatch claims workerId step.now with
    | error _ => exact same rfl
    | ok materialized => exact same (materializeDeliveriesBatch_ok result).endpoints
  · exact same rfl
  · rename_i workerId batchSize leaseMillis skipLocked _
    cases result : store.claimDeliveries workerId batchSize leaseMillis skipLocked step.now with
    | error _ => exact same rfl
    | ok claimed =>
      refine same ?_
      change claimed.1.endpoints = store.endpoints
      rcases claimDeliveries_cases result with swept | ⟨lease, isClaimed⟩
      · rw [swept]
        rfl
      · rw [isClaimed]
        rfl
  · rename_i claim workerId resolution _
    cases result : store.finishDelivery claim workerId resolution step.now with
    | error _ => exact same rfl
    | ok finished => exact same (finishDelivery_ok result).endpoints

theorem recordExpired_recorded (linked : ∀ delivery ∈ store.deliveries, Linked store delivery)
    (member : delivery ∈ store.deliveries) (expired : delivery.expired now = true) :
    (delivery.id, delivery.attemptCount) ∈ (store.recordExpiredDeliveryAttempts now).attempts.map
        DeliveryAttempt.key := by
  have recorded :
      store.expiredAttempt delivery ∈
        (store.deliveries.filter fun delivery =>
          delivery.expired now && (store.endpointOf delivery).isSome).map
          store.expiredAttempt := by
    refine List.mem_map_of_mem (List.mem_filter.mpr ⟨member, ?_⟩)
    rw [expired, (linked delivery member).endpointOf_isSome]
    rfl
  exact key_mem_insertAll recorded

theorem apply_attempts_subset : store.attempts ⊆ (store.apply step).1.attempts := by
  rcases @apply_attempts_cases store step with
    same | ⟨_, _, same⟩ | ⟨_, recorded⟩ | ⟨claim, workerId, resolution, _, finished⟩
  · rw [same]
    exact List.Subset.refl _
  · rw [same]
    exact List.Subset.refl _
  · rw [recorded]
    exact subset_insertAll
  · rw [finished.attempts]
    exact List.subset_append_left _ _

theorem apply_attempts_unique (unique : Unique DeliveryAttempt.key store.attempts) :
    Unique DeliveryAttempt.key (store.apply step).1.attempts := by
  rcases @apply_attempts_cases store step with
    same | ⟨_, _, same⟩ | ⟨_, recorded⟩ | ⟨claim, workerId, resolution, _, finished⟩
  · rw [same]
    exact unique
  · rw [same]
    exact unique
  · rw [recorded]
    exact unique.insertAll
  · rw [finished.attempts]
    refine unique.append_singleton fun other member same => ?_
    exact finished.fresh (List.mem_map.mpr ⟨other, member, same⟩)

/-- A move of a delivery finds its attempts recorded. -/
theorem RowSound.move {delivery moved : WebhookDelivery}
    {attempts recordedNow : List DeliveryAttempt} (sound : RowSound attempts delivery)
    (move : DeliveryMove step delivery moved) (grows : attempts ⊆ recordedNow)
    (lapses :
      step.transaction.ClaimsDeliveries →
      delivery.expired step.now = true →
      (delivery.id, delivery.attemptCount) ∈ recordedNow.map DeliveryAttempt.key)
    (finishes :
      ∀ claim workerId resolution,
        step.transaction = .finish claim workerId resolution →
        OutboxStore.finishes claim workerId delivery = true →
        (delivery.id, delivery.attemptCount) ∈ recordedNow.map DeliveryAttempt.key) :
    RowSound recordedNow moved := by
  have earlier :
      ∀ number,
        1 ≤ number →
        number ≤ delivery.settledAttempts →
        (delivery.id, number) ∈ recordedNow.map DeliveryAttempt.key :=
    fun number positive settled =>
      List.map_subset _ grows (sound.recorded number positive settled)
  -- Once the current attempt is recorded too, all of them are.
  have upToCount :
      delivery.status = .pending ∨
          (delivery.id, delivery.attemptCount) ∈ recordedNow.map DeliveryAttempt.key →
        ∀ number,
          1 ≤ number →
          number ≤ delivery.attemptCount →
          (delivery.id, number) ∈ recordedNow.map DeliveryAttempt.key := by
    intro current number positive within
    by_cases settled : number ≤ delivery.settledAttempts
    · exact earlier number positive settled
    · rcases current with waits | recorded
      · rw [WebhookDelivery.settledAttempts, waits] at settled
        exact absurd within settled
      · have isCurrent : number = delivery.attemptCount := by
          unfold WebhookDelivery.settledAttempts at settled
          split at settled <;> omega
        rw [isCurrent]
        exact recorded
  have idleRecorded :
      step.transaction.ClaimsDeliveries →
      delivery.Idle step.now →
      delivery.status = .pending ∨
        (delivery.id, delivery.attemptCount) ∈ recordedNow.map DeliveryAttempt.key :=
    fun isClaim idle => idle.imp id (lapses isClaim)
  cases move with
  | kept => exact ⟨sound.limited, earlier⟩
  | claimed lease isClaim idle left =>
    refine ⟨?_, upToCount (idleRecorded isClaim idle)⟩
    unfold WebhookDelivery.exhausted at left
    exact not_le.mp (of_decide_eq_false left)
  | lapsed status errorKind isClaim idle ended =>
    refine ⟨sound.limited, fun number positive settled => ?_⟩
    refine upToCount (idleRecorded isClaim idle) number positive ?_
    rcases ended with isCancelled | isDead
    · rw [isCancelled] at settled
      exact settled
    · rw [isDead] at settled
      exact settled
  | finished claim workerId resolution isFinish holds =>
    have recorded := finishes claim workerId resolution isFinish holds
    rw [OutboxStore.finishedRow, if_pos holds]
    refine ⟨sound.limited, fun number positive settled => ?_⟩
    refine upToCount (Or.inr recorded) number positive ?_
    unfold WebhookDelivery.settledAttempts at settled
    cases outcome : resolution.outcome <;>
      rw [outcome] at settled <;> exact settled

structure RecordsAttempts
    (step : TimedTransaction)
    (store next : OutboxStore) : Prop where
  lapses :
    step.transaction.ClaimsDeliveries →
    ∀ delivery ∈ store.deliveries,
      delivery.expired step.now = true →
      (delivery.id, delivery.attemptCount) ∈
        next.attempts.map DeliveryAttempt.key
  finishes :
    ∀ claim workerId resolution,
      step.transaction = .finish claim workerId resolution →
      ∀ delivery ∈ store.deliveries,
        OutboxStore.finishes claim workerId delivery = true →
        (delivery.id, delivery.attemptCount) ∈
          next.attempts.map DeliveryAttempt.key

theorem apply_recordsAttempts (linked : ∀ delivery ∈ store.deliveries, Linked store delivery) :
    (store.apply step).1 = store ∨ RecordsAttempts step store (store.apply step).1 := by
  rcases @apply_attempts_cases store step with
    same | ⟨notClaim, notFinish, same⟩ | ⟨isClaim, recorded⟩ |
      ⟨claim, workerId, resolution, isFinish, finished⟩
  · exact Or.inl same
  · right
    exact
      { lapses := fun isClaim => absurd isClaim notClaim
        finishes := fun claim workerId resolution isFinish =>
          absurd isFinish (notFinish claim workerId resolution) }
  · right
    refine
      { lapses := fun _ delivery member expired => ?_
        finishes := fun claim workerId resolution isFinish => ?_ }
    · rw [recorded]
      exact recordExpired_recorded linked member expired
    · obtain ⟨_, _, _, _, claims⟩ := isClaim
      rw [claims] at isFinish
      cases isFinish
  · right
    refine
      { lapses := fun isClaim => ?_
        finishes := fun other worker chosen isOther delivery _ holds => ?_ }
    · obtain ⟨_, _, _, _, claims⟩ := isClaim
      rw [claims] at isFinish
      cases isFinish
    · rw [isFinish] at isOther
      cases isOther
      obtain ⟨_, isNamed, current⟩ := inProcessing_of_finishes holds
      rw [isNamed, current, finished.attempts]
      exact List.mem_map.mpr ⟨_, List.mem_append_right _ List.mem_cons_self, rfl⟩

theorem DeliveriesSound.moves (sound : DeliveriesSound store store.deliveries)
    (records : RecordsAttempts step store (store.apply step).1)
    {update : WebhookDelivery → WebhookDelivery}
    (moves : ∀ delivery, DeliveryMove step delivery (update delivery)) :
    DeliveriesSound (store.apply step).1 (store.deliveries.map update) where
  numbered := by
    have same :
        (store.deliveries.map update).map WebhookDelivery.id =
          store.deliveries.map WebhookDelivery.id := by
      rw [List.map_map]
      exact List.map_congr_left fun delivery _ => (moves delivery).key_eq.1
    rw [same, sound.numbered, List.length_map]
  pairs := sound.pairs.map fun delivery _ => (moves delivery).key_eq.2.1
  linked := by
    intro moved member
    obtain ⟨delivery, isOld, rfl⟩ := List.mem_map.mp member
    exact (sound.linked delivery isOld).mono (moves delivery).key_eq.2.1
        apply_events_kept apply_endpoints_kept
  rows := by
    intro moved member
    obtain ⟨delivery, isOld, rfl⟩ := List.mem_map.mp member
    exact (sound.rows delivery isOld).move (moves delivery) apply_attempts_subset
        (fun isClaim => records.lapses isClaim delivery isOld)
        (fun claim workerId resolution isFinish =>
          records.finishes claim workerId resolution isFinish delivery isOld)

/-- A delivery that waits for its first attempt, linked to its rows. -/
def Owed (store : OutboxStore) (delivery : WebhookDelivery) : Prop :=
  Linked store delivery ∧ delivery.status = .pending ∧ delivery.attemptCount = 0

theorem DeliveriesSound.insert {deliveries : List WebhookDelivery}
    (sound : DeliveriesSound store deliveries) (owed : Owed store delivery) :
    DeliveriesSound store (OutboxStore.insertDelivery deliveries delivery) := by
  obtain ⟨linked, waits, unattempted⟩ := owed
  unfold OutboxStore.insertDelivery
  refine
    { numbered := ?_
      pairs := sound.pairs.insertUnlessPresent
      linked := fun other member => ?_
      rows := fun other member => ?_ }
  · unfold insertUnlessPresent
    split
    · exact sound.numbered
    · rw [List.map_append, sound.numbered, List.length_append,
        List.length_singleton, List.range_succ]
      rfl
  · rcases eq_or_mem_of_mem_insertUnlessPresent member with
      ⟨isNew, _⟩ | isOld
    · rw [isNew]
      exact linked
    · exact sound.linked other isOld
  · rcases eq_or_mem_of_mem_insertUnlessPresent member with
      ⟨isNew, _⟩ | isOld
    · rw [isNew]
      refine ⟨?_, fun number positive settled => ?_⟩
      · change delivery.attemptCount ≤ delivery.maxAttempts
        rw [unattempted]
        exact Nat.zero_le _
      · simp only [WebhookDelivery.settledAttempts, waits, unattempted]
          at settled
        exact absurd positive (Nat.not_le_of_gt (Nat.lt_succ_of_le settled))
    · exact sound.rows other isOld

theorem DeliveriesSound.insertAll {deliveries more : List WebhookDelivery}
    (sound : DeliveriesSound store deliveries) (owed : ∀ delivery ∈ more, Owed store delivery) :
    DeliveriesSound store (more.foldl OutboxStore.insertDelivery deliveries) := by
  induction more generalizing deliveries with
  | nil => exact sound
  | cons delivery rest inductionHypothesis =>
    exact inductionHypothesis (sound.insert (owed delivery List.mem_cons_self))
        fun other inRest => owed other (List.mem_cons_of_mem _ inRest)

theorem mem_owedDeliveries :
    delivery ∈ store.owedDeliveries now event ↔
      ∃ endpoint ∈ store.endpoints,
        endpoint.routes event = true ∧
        { id := 0
          workspaceId := endpoint.workspaceId
          outboxEventId := event.id
          endpointId := endpoint.id
          status := .pending
          attemptCount := 0
          maxAttempts := endpoint.maxAttempts
          availableAt := now
          lastErrorKind := none } =
          delivery := by
  simp only [OutboxStore.owedDeliveries, List.mem_map, List.mem_filter, and_assoc]

theorem owed_of_mem_owedDeliveries (isThere : event ∈ store.events)
    (owed : delivery ∈ store.owedDeliveries now event) :
    Owed store delivery := by
  obtain ⟨endpoint, hasEndpoint, routes, rfl⟩ := mem_owedDeliveries.mp owed
  simp only [WebhookEndpoint.routes, Bool.and_eq_true, decide_eq_true_eq] at routes
  exact ⟨⟨⟨event, isThere, routes.1.1.symm, rfl⟩, endpoint, hasEndpoint, rfl, rfl⟩, rfl, rfl⟩

theorem key_mem_insertDeliveries {deliveries more : List WebhookDelivery}
    (member : delivery.key ∈ deliveries.map WebhookDelivery.key ∨ delivery ∈ more) :
    delivery.key ∈ (more.foldl OutboxStore.insertDelivery deliveries).map
        WebhookDelivery.key := by
  induction more generalizing deliveries with
  | nil =>
    rcases member with present | absent
    · exact present
    · cases absent
  | cons first rest inductionHypothesis =>
    refine inductionHypothesis ?_
    rcases member with present | isMore
    · left
      exact List.map_subset _ subset_insertUnlessPresent present
    · rcases List.mem_cons.mp isMore with isFirst | inRest
      · left
        rw [isFirst]
        have inserted :
            ({ first with id := deliveries.length } :
                WebhookDelivery).key ∈
              (OutboxStore.insertDelivery deliveries first).map
                WebhookDelivery.key :=
          key_mem_insertUnlessPresent
        exact inserted
      · exact Or.inr inRest

theorem DeliveriesSound.mono {deliveries : List WebhookDelivery}
    (sound : DeliveriesSound store deliveries)
    (events :
      ∀ event ∈ store.events,
        ∃ kept ∈ next.events, kept.workspaceId = event.workspaceId ∧ kept.id = event.id)
    (endpoints :
      ∀ endpoint ∈ store.endpoints,
        ∃ kept ∈ next.endpoints, kept.workspaceId = endpoint.workspaceId ∧ kept.id = endpoint.id)
    (attempts : next.attempts = store.attempts) :
    DeliveriesSound next deliveries where
  numbered := sound.numbered
  pairs := sound.pairs
  linked delivery member := (sound.linked delivery member).mono rfl events endpoints
  rows delivery member := attempts ▸ sound.rows delivery member

theorem apply_events_unique (unique : Unique OutboxEvent.id store.events) :
    Unique OutboxEvent.id (store.apply step).1.events := by
  rcases @apply_events_cases store step with
    ⟨update, mapped, moves⟩ | ⟨added, _, inserted⟩
  · rw [mapped]
    exact unique.map fun event _ => (moves event).id_eq.1
  · rw [inserted]
    exact unique.insertUnlessPresent

theorem StoreSound.apply (sound : StoreSound store) : StoreSound (store.apply step).1 := by
  rcases @apply_recordsAttempts step store sound.deliveries.linked with
    same | records
  · rw [same]
    exact sound
  · refine
      { events := apply_events_unique sound.events
        attempts := apply_attempts_unique sound.attempts
        deliveries := ?_ }
    rcases @apply_deliveries_cases store step with
      ⟨update, mapped, moves⟩ | ⟨claims, workerId, _, materialized⟩
    · rw [mapped]
      exact sound.deliveries.moves records moves
    · rw [materialized.deliveries]
      have inserted :
          DeliveriesSound store
            (((store.eligibleEvents claims workerId).flatMap fun event =>
              store.owedDeliveries step.now event).foldl
              OutboxStore.insertDelivery store.deliveries) := by
        refine sound.deliveries.insertAll fun delivery owed => ?_
        obtain ⟨event, eligible, isOwed⟩ := List.mem_flatMap.mp owed
        exact owed_of_mem_owedDeliveries (List.mem_filter.mp eligible).1 isOwed
      exact inserted.mono apply_events_kept apply_endpoints_kept materialized.attempts

/-! ## What stays, and who an event reaches -/

theorem subset_insertDeliveries {deliveries more : List WebhookDelivery} :
    deliveries ⊆ more.foldl OutboxStore.insertDelivery deliveries := by
  induction more generalizing deliveries with
  | nil => exact List.Subset.refl _
  | cons delivery rest inductionHypothesis =>
    have inserted : deliveries ⊆ OutboxStore.insertDelivery deliveries delivery :=
      subset_insertUnlessPresent
    exact List.Subset.trans inserted inductionHypothesis

theorem apply_keeps_delivery (member : delivery ∈ store.deliveries)
    (unmoved : ∀ moved, DeliveryMove step delivery moved → moved = delivery) :
    delivery ∈ (store.apply step).1.deliveries := by
  rcases @apply_deliveries_cases store step with
    ⟨update, mapped, moves⟩ | ⟨claims, workerId, _, materialized⟩
  · rw [mapped]
    exact List.mem_map.mpr ⟨delivery, member, unmoved _ (moves delivery)⟩
  · rw [materialized.deliveries]
    exact subset_insertDeliveries member

theorem apply_keeps_terminalEvent (member : event ∈ store.events) (terminal : event.Terminal) :
    event ∈ (store.apply step).1.events := by
  rcases @apply_events_cases store step with
    ⟨update, mapped, moves⟩ | ⟨added, _, inserted⟩
  · rw [mapped]
    exact List.mem_map.mpr ⟨event, member, (moves event).eq_of_terminal terminal⟩
  · rw [inserted]
    exact subset_insertUnlessPresent member

theorem fannedOut_routes (endpoint : WebhookEndpoint) (event : OutboxEvent) :
    (store.fannedOut event).id = event.id ∧
      endpoint.routes (store.fannedOut event) = endpoint.routes event := by
  unfold OutboxStore.fannedOut
  split <;> exact ⟨rfl, rfl⟩

theorem MaterializedBy.delivers (materialized : MaterializedBy store claims workerId step.now next)
    (eligible : event ∈ store.eligibleEvents claims workerId) {endpoint : WebhookEndpoint}
    (isThere : endpoint ∈ store.endpoints) (routes : endpoint.routes event = true) :
    ∃ delivery ∈ next.deliveries,
      delivery.outboxEventId = event.id ∧ delivery.endpointId = endpoint.id := by
  have owed :
      ∃ delivery ∈ store.owedDeliveries step.now event,
        delivery.outboxEventId = event.id ∧ delivery.endpointId = endpoint.id :=
    ⟨_, mem_owedDeliveries.mpr ⟨endpoint, isThere, routes, rfl⟩, rfl, rfl⟩
  obtain ⟨wanted, isOwed, ofEvent, toEndpoint⟩ := owed
  have inserted : wanted.key ∈ next.deliveries.map WebhookDelivery.key := by
    rw [materialized.deliveries]
    exact key_mem_insertDeliveries (Or.inr (List.mem_flatMap.mpr ⟨event, eligible, isOwed⟩))
  obtain ⟨delivery, member, sameKey⟩ := List.mem_map.mp inserted
  simp only [WebhookDelivery.key, Prod.mk.injEq] at sameKey
  exact ⟨delivery, member, sameKey.2.1.trans ofEvent, sameKey.2.2.trans toEndpoint⟩

theorem MaterializedBy.fanOut (materialized : MaterializedBy store claims workerId step.now next)
    (member : event ∈ next.events) :
    event ∈ store.events ∨
      ∀ endpoint ∈ store.endpoints,
        endpoint.routes event →
        ∃ delivery ∈ next.deliveries,
          delivery.outboxEventId = event.id ∧ delivery.endpointId = endpoint.id := by
  rw [materialized.events] at member
  obtain ⟨old, isOld, rfl⟩ := List.mem_map.mp member
  unfold OutboxStore.materializedEvent
  by_cases eligible : old ∈ store.eligibleEvents claims workerId
  · rw [if_pos eligible]
    right
    intro endpoint isThere routes
    obtain ⟨sameId, sameRoutes⟩ := @fannedOut_routes store endpoint old
    rw [sameRoutes] at routes
    rw [sameId]
    exact materialized.delivers eligible isThere routes
  · rw [if_neg eligible]
    exact Or.inl isOld

theorem apply_fanOut (member : event ∈ (store.apply step).1.events)
    (delivered : event.status = .delivered) :
    event ∈ store.events ∨
      (∃ claims workerId, step.transaction = .materialize claims workerId) ∧
      ∀ endpoint ∈ store.endpoints,
        endpoint.routes event →
        ∃ delivery ∈ (store.apply step).1.deliveries,
          delivery.outboxEventId = event.id ∧ delivery.endpointId = endpoint.id := by
  rcases @apply_events_cases store step with
    ⟨update, mapped, moves⟩ | ⟨added, waits, inserted⟩
  · have moved := member
    rw [mapped] at moved
    obtain ⟨old, isOld, isMoved⟩ := List.mem_map.mp moved
    have move := moves old
    rw [isMoved] at move
    rcases move.materialize_of_delivered delivered with
      same | ⟨claims, workerId, isMaterialize⟩
    · left
      rw [same]
      exact isOld
    · have applied :
          store.apply step = store.settle (fun next => (next, .done))
              (store.materializeDeliveriesBatch claims workerId step.now) := by
        unfold OutboxStore.apply
        rw [isMaterialize]
      rw [applied] at member ⊢
      cases result : store.materializeDeliveriesBatch claims workerId step.now with
      | error _ =>
        rw [result] at member
        exact Or.inl member
      | ok next =>
        rw [result] at member
        exact ((materializeDeliveriesBatch_ok result).fanOut member).imp id
            fun reached => ⟨⟨claims, workerId, isMaterialize⟩, reached⟩
  · rw [inserted] at member
    rcases eq_or_mem_of_mem_insertUnlessPresent member with
      ⟨isNew, _⟩ | isOld
    · rw [isNew, waits] at delivered
      cases delivered
    · exact Or.inl isOld

end Sound

theorem storeSound_storeAfter (run : List TimedTransaction) : StoreSound (storeAfter run) :=
  outboxMachine.final_invariant (fun _ _ sound => sound.apply) storeSound_empty run

theorem holds_storeAfter_append {holds : OutboxStore → Prop}
    (kept : ∀ store step, holds store → holds (OutboxStore.apply store step).1)
    {before : List TimedTransaction} (start : holds (storeAfter before))
    (later : List TimedTransaction) :
    holds (storeAfter (before ++ later)) := by
  induction later using List.reverseRecOn with
  | nil =>
    rw [List.append_nil]
    exact start
  | append_singleton rest step inductionHypothesis =>
    rw [← List.append_assoc, storeAfter_append_singleton]
    exact kept _ _ inductionHypothesis

theorem StoreSound.one_delivery (sound : StoreSound store)
    {first second : WebhookDelivery} (isFirst : first ∈ store.deliveries)
    (isSecond : second ∈ store.deliveries) (sameEvent : first.outboxEventId = second.outboxEventId)
    (sameEndpoint : first.endpointId = second.endpointId) :
    first = second := by
  obtain ⟨⟨event, hasEvent, inWorkspace, isEvent⟩, _⟩ := sound.deliveries.linked first isFirst
  obtain ⟨⟨other, hasOther, ofWorkspace, isOther⟩, _⟩ := sound.deliveries.linked second isSecond
  -- One event has one workspace, and so the keys agree whole.
  have one : event = other := sound.events.eq_of_key_eq hasEvent hasOther
      (isEvent.trans (sameEvent.trans isOther.symm))
  have sameWorkspace : first.workspaceId = second.workspaceId := by
    rw [← inWorkspace, ← ofWorkspace, one]
  refine sound.deliveries.pairs.eq_of_key_eq isFirst isSecond ?_
  unfold WebhookDelivery.key
  rw [sameWorkspace, sameEvent, sameEndpoint]

theorem StoreSound.one_attempt (sound : StoreSound store) {delivery : WebhookDelivery}
    (member : delivery ∈ store.deliveries) (atRest : ¬ delivery.InProcessing)
    {number : Nat} (positive : 1 ≤ number) (within : number ≤ delivery.attemptCount) :
    ∃! attempt, attempt ∈ store.attempts ∧ attempt.key = (delivery.id, number) := by
  have settled : delivery.settledAttempts = delivery.attemptCount := by
    unfold WebhookDelivery.settledAttempts
    split
    · rename_i lease isProcessing
      exact absurd ⟨lease, isProcessing⟩ atRest
    · rfl
  have recorded := (sound.deliveries.rows delivery member).recorded number positive
      (settled ▸ within)
  obtain ⟨attempt, isRecorded, isKey⟩ := List.mem_map.mp recorded
  refine ⟨attempt, ⟨isRecorded, isKey⟩, ?_⟩
  rintro other ⟨isOther, sameKey⟩
  exact sound.attempts.eq_of_key_eq isOther isRecorded (sameKey.trans isKey.symm)

/-- The protocol holds of every interleaving of transactions. -/
theorem deliveryProtocol (run : List TimedTransaction) :
    DeliveryProtocol run where
  identified := (storeSound_storeAfter run).deliveries.identified
  onePerPair first isFirst second isSecond sameEvent sameEndpoint :=
    (storeSound_storeAfter run).one_delivery isFirst isSecond sameEvent
      sameEndpoint
  withinLimit delivery member :=
    ((storeSound_storeAfter run).deliveries.rows delivery member).limited
  frozenDeliveries := by
    rintro before later rfl delivery member terminal
    refine @holds_storeAfter_append (fun store => delivery ∈ store.deliveries)
        (fun store step isThere => ?_) before member later
    exact
      apply_keeps_delivery isThere fun moved move =>
        move.eq_of_terminal terminal
  frozenEvents := by
    rintro before later rfl event member terminal
    exact @holds_storeAfter_append (fun store => event ∈ store.events)
        (fun store step isThere => apply_keeps_terminalEvent isThere terminal)
        before member later
  attemptedOnce := (storeSound_storeAfter run).attempts
  attemptsRecorded delivery member atRest number positive within :=
    (storeSound_storeAfter run).one_attempt member atRest positive within
  leaseHeld := by
    rintro before step later rfl delivery member lease isProcessing runs
      notHolder
    rw [storeAfter_append_singleton]
    exact
      apply_keeps_delivery member fun moved move =>
        move.eq_of_held isProcessing runs notHolder
  fanOut := by
    rintro before step later rfl event member delivered
    rw [storeAfter_append_singleton] at member ⊢
    exact apply_fanOut member delivered

end CrowdRelay
