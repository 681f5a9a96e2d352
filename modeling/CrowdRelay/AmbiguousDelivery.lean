import CrowdRelay.OutboxProtocol

namespace CrowdRelay

open KeyedTable Machine

/-!
# Ambiguous attempts

A worker reports what became of each attempt.  A delivery is in doubt once an
attempt of it was ambiguous or lost its lease, for then the provider may have
the request.  The action of a delivery that ends in doubt is reconciled only
when it becomes unknown.
-/

/-- What a worker knows when it finishes an attempt. -/
structure DispatchReport where
  claim : DeliveryClaim
  workerId : String
  disposition : DispatchDisposition
  responseStatus : Option Nat
  errorKind : Option String
  retryDelayMillis : Nat
  deriving Repr, DecidableEq

namespace DispatchReport

def outcome (report : DispatchReport) : AttemptOutcome :=
  finalOutcome report.disposition report.claim.attemptNumber report.claim.maxAttempts

def resolution (report : DispatchReport) : AttemptResolution :=
  { outcome := report.outcome
    responseStatus := report.responseStatus
    errorKind := report.errorKind
    retryDelayMillis := if report.outcome = .retry then report.retryDelayMillis else 0 }

end DispatchReport

inductive WorkerAction where
  | dispatchOne (report : DispatchReport)
  | store (transaction : StoreTransaction)
  deriving Repr, DecidableEq

structure TimedAction where
  now : OffsetDateTime
  action : WorkerAction
  deriving Repr, DecidableEq

/-- The transaction of the store that an action of a worker comes to. -/
def TimedAction.timed (step : TimedAction) : TimedTransaction :=
  { now := step.now
    transaction :=
      match step.action with
      | .dispatchOne report =>
        .finish report.claim report.workerId report.resolution
      | .store transaction => transaction }

def TimedAction.report? (step : TimedAction) : Option DispatchReport :=
  match step.action with
  | .dispatchOne report => some report
  | .store _ => none

/-- The store after a run of the workers. -/
def storeOf (run : List TimedAction) : OutboxStore := storeAfter (run.map TimedAction.timed)

theorem storeOf_append_singleton (before : List TimedAction) (step : TimedAction) :
    storeOf (before ++ [step]) = ((storeOf before).apply step.timed).1 := by
  unfold storeOf
  rw [List.map_append, List.map_singleton, storeAfter_append_singleton]

/-! ## Deliveries in doubt -/

/-- Some attempt of the delivery was reported with the disposition. -/
def Reported (disposition : DispatchDisposition) (run : List TimedAction)
    (deliveryId : Nat) : Prop :=
  ∃ report ∈ run.filterMap TimedAction.report?,
    report.claim.deliveryId = deliveryId ∧ report.disposition = disposition

/-- A sweep found the delivery in the middle of an attempt, its lease over. -/
def LeaseRanOut (run : List TimedAction)
    (deliveryId : Nat) : Prop :=
  ∃ before step later,
    run = before ++ step :: later ∧
      step.timed.transaction.ClaimsDeliveries ∧
      ∃ delivery ∈ (storeOf before).deliveries,
        delivery.id = deliveryId ∧ delivery.expired step.now = true

/-- The delivery ends undelivered although the provider may have it. -/
structure EndsInDoubt
    (before : List TimedAction)
    (step : TimedAction)
    (delivery : WebhookDelivery)
    (action : LinkedAction) : Prop where
  member : delivery ∈ (storeOf before).deliveries
  unfinished : ¬ delivery.Terminal
  ended :
    ∃ moved ∈ (storeOf (before ++ [step])).deliveries,
      moved.id = delivery.id ∧
        (moved.status = .dead ∨ moved.status = .cancelled)
  doubted :
    Reported .ambiguous (before ++ [step]) delivery.id ∨
      LeaseRanOut (before ++ [step]) delivery.id
  undelivered : ¬ Reported .delivered (before ++ [step]) delivery.id
  linked :
    ∃ event,
      (storeOf before).eventOf delivery = some event ∧
        event.actionId = some action.id
  present : action ∈ (storeOf before).actions
  running : action.status = .processing ∨ action.status = .succeeded

/-- Every delivery that ends in doubt leaves its action unknown. -/
def DoubtReconciled (run : List TimedAction) : Prop :=
  ∀ before step later,
    run = before ++ step :: later →
    ∀ delivery action,
      EndsInDoubt before step delivery action →
      { action with status := .unknown } ∈
        (storeOf (before ++ [step])).actions

/--
The lease of a delivery of the action has run out in the last attempt that it
is allowed, and its endpoint is not inactive.
-/
def LostInSweep (store : OutboxStore) (now : OffsetDateTime)
    (action : LinkedAction) : Prop :=
  ∃ delivery ∈ store.deliveries,
    delivery.expired now = true ∧
      delivery.exhausted = true ∧
      store.endpointInactive delivery = false ∧
      ∃ event, store.eventOf delivery = some event ∧ event.actionId = some action.id

/--
A delivery in doubt ends in a sweep that finds the last lease run out, never
by a definite failure and never by the cancellation of its endpoint.
-/
def DoubtEndsInSweep (run : List TimedAction) : Prop :=
  ∀ before step later,
    run = before ++ step :: later →
    ∀ delivery action,
      EndsInDoubt before step delivery action →
      step.timed.transaction.ClaimsDeliveries ∧ LostInSweep (storeOf before) step.now action

section Actions

variable {store : OutboxStore} {step : TimedTransaction} {action : LinkedAction}

theorem LinkedAction.lost_id (action : LinkedAction) : action.lost.id = action.id := by
  unfold LinkedAction.lost
  split <;> rfl

theorem LinkedAction.lost_of_running
    (running : action.status = .processing ∨ action.status = .succeeded) :
    action.lost = { action with status := .unknown } :=
  if_pos running.symm

/-- The actions a sweep calls unknown. -/
def OutboxStore.sweptAction (store : OutboxStore) (now : OffsetDateTime)
    (action : LinkedAction) : LinkedAction :=
  if ((store.deliveries.map (store.cancelledIfInactive now)).filter
      fun delivery => delivery.expired now && delivery.exhausted).any
      fun delivery =>
        (store.eventOf delivery).any fun event =>
          event.actionId = some action.id then
    action.lost
  else
    action

theorem sweepDeliveries_actions (now : OffsetDateTime) :
    (store.sweepDeliveries now).actions = store.actions.map (store.sweptAction now) :=
  rfl

theorem claimDeliveries_actions {workerId : String} {batchSize leaseMillis : Nat}
    {skipLocked : List Nat} {now : OffsetDateTime} {claimed : OutboxStore × List DeliveryClaim}
    (ok : store.claimDeliveries workerId batchSize leaseMillis skipLocked now = .ok claimed) :
    claimed.1.actions = store.actions.map (store.sweptAction now) := by
  rcases claimDeliveries_cases ok with swept | ⟨lease, isClaimed⟩
  · rw [swept, sweepDeliveries_actions]
  · rw [isClaimed, ← sweepDeliveries_actions]

theorem cancelledIfInactive_of_expired {now : OffsetDateTime} {delivery : WebhookDelivery}
    (expired : (store.cancelledIfInactive now delivery).expired now = true) :
    store.cancelledIfInactive now delivery = delivery ∧
      store.endpointInactive delivery = false := by
  unfold OutboxStore.cancelledIfInactive at expired ⊢
  split at expired
  · cases expired
  · rename_i kept
    refine ⟨if_neg kept, ?_⟩
    cases inactive : store.endpointInactive delivery with
    | false => rfl
    | true =>
      refine absurd ?_ kept
      rw [inactive, expired, Bool.or_true, Bool.and_true]

/-- The sweep loses an action exactly with a lease of its own. -/
theorem sweptAction_eq {now : OffsetDateTime} {action : LinkedAction} :
    LostInSweep store now action ∧
        store.sweptAction now action = action.lost ∨
      ¬ LostInSweep store now action ∧ store.sweptAction now action = action := by
  unfold OutboxStore.sweptAction
  split
  · rename_i lost
    left
    refine ⟨?_, rfl⟩
    simp only [List.any_eq_true, List.mem_filter, Bool.and_eq_true,
      Option.any_eq_true, decide_eq_true_eq] at lost
    obtain ⟨swept, ⟨member, expired, exhausted⟩, event, joins, linked⟩ := lost
    obtain ⟨delivery, isThere, rfl⟩ := List.mem_map.mp member
    obtain ⟨kept, active⟩ := cancelledIfInactive_of_expired expired
    rw [kept] at expired exhausted joins
    exact ⟨delivery, isThere, expired, exhausted, active, event, joins, linked⟩
  · rename_i notLost
    right
    refine ⟨?_, rfl⟩
    rintro ⟨delivery, isThere, expired, exhausted, active, event, joins, linked⟩
    have kept : store.cancelledIfInactive now delivery = delivery := by
      unfold OutboxStore.cancelledIfInactive
      rw [active]
      rfl
    refine notLost ?_
    simp only [List.any_eq_true, List.mem_filter, Bool.and_eq_true,
      Option.any_eq_true, decide_eq_true_eq]
    refine ⟨delivery, ⟨?_, expired, exhausted⟩, event, joins, linked⟩
    exact List.mem_map.mpr ⟨delivery, isThere, kept⟩

/-- What a transaction can make of the actions. -/
theorem apply_actions_cases :
    (∃ update : LinkedAction → LinkedAction,
      (store.apply step).1.actions = store.actions.map update ∧
        ∀ action, (update action).id = action.id) ∨
      ∃ action : LinkedAction,
        (store.apply step).1.actions =
          insertUnlessPresent LinkedAction.id action store.actions := by
  have same :
      ∀ {next : OutboxStore},
        next.actions = store.actions →
        ∃ update : LinkedAction → LinkedAction,
          next.actions = store.actions.map update ∧ ∀ action, (update action).id = action.id :=
    fun equal =>
      ⟨fun action => action, by rw [equal, List.map_id'], fun _ => rfl⟩
  cases transaction : step.transaction with
  | addAction action =>
    simp only [OutboxStore.apply, transaction]
    exact Or.inr ⟨action, rfl⟩
  | moveAction id status =>
    simp only [OutboxStore.apply, transaction]
    refine Or.inl ⟨_, rfl, fun action => ?_⟩
    split <;> rfl
  | claimDeliveries workerId batchSize leaseMillis skipLocked =>
    simp only [OutboxStore.apply, transaction]
    cases result : store.claimDeliveries workerId batchSize leaseMillis skipLocked step.now with
    | error _ => exact Or.inl (same rfl)
    | ok claimed =>
      left
      refine ⟨store.sweptAction step.now, claimDeliveries_actions result, fun action => ?_⟩
      rcases @sweptAction_eq store step.now action with
        ⟨_, lost⟩ | ⟨_, kept⟩
      · rw [lost, LinkedAction.lost_id]
      · rw [kept]
  | finish claim workerId resolution =>
    simp only [OutboxStore.apply, transaction]
    cases result : store.finishDelivery claim workerId resolution step.now with
    | error _ => exact Or.inl (same rfl)
    | ok next => exact Or.inl (same (finishDelivery_ok result).actions)
  | materialize claims workerId =>
    simp only [OutboxStore.apply, transaction]
    cases result : store.materializeDeliveriesBatch claims workerId step.now with
    | error _ => exact Or.inl (same rfl)
    | ok next => exact Or.inl (same (materializeDeliveriesBatch_ok result).actions)
  | claimOutbox workerId batchSize leaseMillis skipLocked =>
    simp only [OutboxStore.apply, transaction]
    cases result : store.claimOutboxEvents workerId batchSize leaseMillis skipLocked step.now with
    | error _ => exact Or.inl (same rfl)
    | ok claimed => exact Or.inl (same (claimOutboxEvents_deliveries result).2.2.2)
  | enqueue =>
    simp only [OutboxStore.apply, transaction]
    exact Or.inl (same rfl)
  | addEndpoint =>
    simp only [OutboxStore.apply, transaction]
    exact Or.inl (same rfl)
  | reviseEndpoint =>
    simp only [OutboxStore.apply, transaction]
    exact Or.inl (same rfl)
  | failOutbox =>
    simp only [OutboxStore.apply, transaction]
    exact Or.inl (same rfl)

theorem apply_actions_unique (unique : Unique LinkedAction.id store.actions) :
    Unique LinkedAction.id (store.apply step).1.actions := by
  rcases @apply_actions_cases store step with
    ⟨update, mapped, keeps⟩ | ⟨action, inserted⟩
  · rw [mapped]
    exact unique.map fun action _ => keeps action
  · rw [inserted]
    exact unique.insertUnlessPresent

theorem actions_unique (run : List TimedAction) : Unique LinkedAction.id (storeOf run).actions := by
  have start : Unique LinkedAction.id (OutboxStore.empty).actions := unique_nil
  exact outboxMachine.final_invariant
      (fun store step (unique : Unique LinkedAction.id store.actions) =>
        apply_actions_unique unique)
      start _

/-- A transaction that ends a delivery is a claim or a finish. -/
theorem apply_ends (sound : StoreSound store) {delivery moved : WebhookDelivery}
    (member : delivery ∈ store.deliveries) (unfinished : ¬ delivery.Terminal)
    (isMoved : moved ∈ (store.apply step).1.deliveries) (sameId : moved.id = delivery.id)
    (ended : moved.status = .dead ∨ moved.status = .cancelled) :
    step.transaction.ClaimsDeliveries ∧
        (store.apply step).1.actions = store.actions.map (store.sweptAction step.now) ∨
      ¬ step.transaction.ClaimsDeliveries ∧ (store.apply step).1.actions = store.actions := by
  have changed : moved ≠ delivery := by
    rintro rfl
    exact unfinished (Or.inr ended)
  have notKept : delivery ∉ (store.apply step).1.deliveries :=
    fun kept =>
      changed (sound.apply.deliveries.identified.eq_of_key_eq isMoved kept sameId)
  cases transaction : step.transaction with
  | claimDeliveries workerId batchSize leaseMillis skipLocked =>
    left
    refine ⟨⟨_, _, _, _, rfl⟩, ?_⟩
    simp only [OutboxStore.apply, transaction] at notKept ⊢
    cases result : store.claimDeliveries workerId batchSize leaseMillis skipLocked step.now with
    | error _ =>
      rw [result] at notKept
      exact absurd member notKept
    | ok claimed => exact claimDeliveries_actions result
  | finish claim workerId resolution =>
    right
    have noClaim : ¬ (StoreTransaction.finish claim workerId resolution).ClaimsDeliveries := by
      rintro ⟨_, _, _, _, isClaim⟩
      cases isClaim
    refine ⟨noClaim, ?_⟩
    simp only [OutboxStore.apply, transaction]
    cases result : store.finishDelivery claim workerId resolution step.now with
    | error _ => rfl
    | ok next => exact (finishDelivery_ok result).actions
  | _ =>
    refine absurd ?_ notKept
    refine apply_keeps_delivery member fun moved move => ?_
    cases move with
    | kept => rfl
    | claimed lease isClaim =>
      obtain ⟨_, _, _, _, claims⟩ := isClaim
      rw [claims] at transaction
      cases transaction
    | lapsed status errorKind isClaim =>
      obtain ⟨_, _, _, _, claims⟩ := isClaim
      rw [claims] at transaction
      cases transaction
    | finished claim workerId resolution isFinish =>
      rw [isFinish] at transaction
      cases transaction

/-- A running action becomes unknown in a step that loses it, only there. -/
theorem unknown_mem_map_iff {actions : List LinkedAction}
    (unique : Unique LinkedAction.id actions) (present : action ∈ actions)
    (running : action.status = .processing ∨ action.status = .succeeded)
    {update : LinkedAction → LinkedAction} {loses : LinkedAction → Prop}
    (cases :
      ∀ other, loses other ∧ update other = other.lost ∨ ¬ loses other ∧ update other = other) :
    { action with status := .unknown } ∈ actions.map update ↔
      loses action := by
  constructor
  · intro unknown
    obtain ⟨other, isOther, updated⟩ := List.mem_map.mp unknown
    rcases cases other with ⟨lost, isLost⟩ | ⟨_, kept⟩
    · have sameId : other.id = action.id := by
        rw [← LinkedAction.lost_id other, ← isLost, updated]
      rw [← unique.eq_of_key_eq isOther present sameId]
      exact lost
    · rw [kept] at updated
      have same : other = action := unique.eq_of_key_eq isOther present (by rw [updated])
      rw [same] at updated
      rw [updated] at running
      rcases running with isUnknown | isUnknown <;> cases isUnknown
  · intro lost
    rcases cases action with ⟨_, isLost⟩ | ⟨notLost, _⟩
    · rw [LinkedAction.lost_of_running running] at isLost
      exact List.mem_map.mpr ⟨action, present, isLost⟩
    · exact absurd lost notLost

end Actions

theorem EndsInDoubt.unknown_iff {before : List TimedAction} {step : TimedAction}
    {delivery : WebhookDelivery} {action : LinkedAction}
    (ends : EndsInDoubt before step delivery action) :
    { action with status := .unknown } ∈
        (storeOf (before ++ [step])).actions ↔
      step.timed.transaction.ClaimsDeliveries ∧ LostInSweep (storeOf before) step.now action := by
  obtain ⟨moved, isMoved, sameId, ended⟩ := ends.ended
  have unique := actions_unique before
  have sound : StoreSound (storeOf before) := storeSound_storeAfter _
  rw [storeOf_append_singleton] at isMoved ⊢
  rcases apply_ends sound ends.member ends.unfinished isMoved sameId ended with
    ⟨isClaim, swept⟩ | ⟨notClaim, same⟩
  · rw [swept,
      unknown_mem_map_iff unique ends.present ends.running fun other => sweptAction_eq]
    exact ⟨fun lost => ⟨isClaim, lost⟩, And.right⟩
  · rw [same]
    refine ⟨fun unknown => ?_, fun claimed => absurd claimed.1 notClaim⟩
    have isUnknown : { action with status := .unknown } = action :=
      unique.eq_of_key_eq unknown ends.present rfl
    have running := ends.running
    rw [← isUnknown] at running
    rcases running with absurdly | absurdly <;> cases absurdly

/-- No doubt is lost exactly when doubt only ends in a sweep. -/
theorem doubtReconciled_iff (run : List TimedAction) :
    DoubtReconciled run ↔ DoubtEndsInSweep run := by
  constructor
  · intro reconciled before step later isRun delivery action ends
    exact ends.unknown_iff.mp
        (reconciled before step later isRun delivery action ends)
  · intro inSweep before step later isRun delivery action ends
    exact ends.unknown_iff.mpr
        (inSweep before step later isRun delivery action ends)

/-- The report of an attempt of the first delivery, two being allowed. -/
def secondOfTwo (attemptNumber : Nat)
    (disposition : DispatchDisposition) : DispatchReport :=
  { claim :=
      { deliveryId := 0
        workspaceId := 1
        actionId := some 7
        attemptNumber := attemptNumber
        maxAttempts := 2 }
    workerId := "worker"
    disposition := disposition
    responseStatus := none
    errorKind := none
    retryDelayMillis := 0 }

/-- The first attempt times out and the second one is under way. -/
def timedOutOnce : List TimedAction :=
  [ ⟨0, .store (.addAction ⟨7, 1, .processing⟩)⟩,
    ⟨0, .store (.addEndpoint ⟨3, 1, true, none, 2⟩)⟩,
    ⟨0, .store (.enqueue 5 1 "crowdrelay.outreach" (some 7) 12)⟩,
    ⟨1, .store (.claimOutbox "worker" 10 60000 [])⟩,
    ⟨2, .store (.materialize [⟨5, 1, 1⟩] "worker")⟩,
    ⟨3, .store (.claimDeliveries "worker" 10 60000 [])⟩,
    ⟨4, .dispatchOne (secondOfTwo 1 .ambiguous)⟩,
    ⟨5, .store (.claimDeliveries "worker" 10 60000 [])⟩ ]

/-- A definite failure of the second attempt forgets the first one. -/
theorem timedOutOnce_then_refused :
    ¬ DoubtReconciled
        (timedOutOnce ++ [⟨6, .dispatchOne (secondOfTwo 2 .permanent)⟩]) := by
  intro reconciled
  let delivery : WebhookDelivery :=
    { id := 0
      workspaceId := 1
      outboxEventId := 5
      endpointId := 3
      status :=
        .processing
          { owner := "worker"
            lockedAt := 5
            expiresAt := 60000000005
            ordered := by decide }
      attemptCount := 2
      maxAttempts := 2
      availableAt := 4
      lastErrorKind := none }
  have ends :
      EndsInDoubt timedOutOnce
        ⟨6, .dispatchOne (secondOfTwo 2 .permanent)⟩ delivery
        ⟨7, 1, .processing⟩ :=
    { member := by decide +kernel
      unfinished := by
        rintro (delivered | isDead | cancelled)
        · cases delivered
        · cases isDead
        · cases cancelled
      ended := ⟨{ delivery with status := .dead }, by decide +kernel, rfl, Or.inl rfl⟩
      doubted :=
        Or.inl
          ⟨secondOfTwo 1 .ambiguous, by decide +kernel, rfl, rfl⟩
      undelivered := by
        unfold Reported
        decide +kernel
      linked := ⟨_, rfl, rfl⟩
      present := by decide +kernel
      running := Or.inl rfl }
  exact absurd (reconciled timedOutOnce _ [] rfl delivery _ ends)
      (by decide +kernel)

end CrowdRelay
