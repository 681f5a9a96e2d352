import CrowdRelay.ActionPayload
import CrowdRelay.LiveOpportunity
import CrowdRelay.Machine

namespace CrowdRelay

open Machine

/-!
# The executor circuit breaker

One row an executor: a count of consecutive failures, the time of the last one
and the guard it earned.  A success wipes the row.  Receipts arrive in any
order, and more than once.
-/

/-- Consecutive failures before the breaker guards the executor. -/
def tripThreshold : Nat := 3

/--
How long failures count as consecutive, and how long a tripped breaker guards
for: fifteen minutes.
-/
def circuitWindow : Int := 900000000000

structure ExecutorCircuitBreaker where
  failureCount : Nat
  lastFailureAt : Option OffsetDateTime
  guardedUntil : Option OffsetDateTime
  reason : Option String
  deriving Repr, DecidableEq

namespace ExecutorCircuitBreaker

variable (breaker : ExecutorCircuitBreaker) (occurredAt : OffsetDateTime)

/-- The count after a failure at the given time. -/
def consecutive : Nat :=
  match breaker.lastFailureAt with
  | some last =>
    if occurredAt - circuitWindow ≤ last then breaker.failureCount + 1 else 1
  | none => 1

/-- What a success leaves of the row. -/
def cleared : ExecutorCircuitBreaker :=
  { failureCount := 0
    lastFailureAt := none
    guardedUntil := none
    reason := none }

/-- The row after a failure that its condition lets through. -/
def failed
    (reason : String) : ExecutorCircuitBreaker :=
  { failureCount := breaker.consecutive occurredAt
    lastFailureAt := some occurredAt
    guardedUntil :=
      if tripThreshold ≤ breaker.consecutive occurredAt then
        some (max (breaker.guardedUntil.getD occurredAt) (occurredAt + circuitWindow))
      else
        breaker.guardedUntil.filter fun guard => occurredAt < guard
    reason :=
      if tripThreshold ≤ breaker.consecutive occurredAt then some reason else breaker.reason }

end ExecutorCircuitBreaker

variable (row : Option ExecutorCircuitBreaker)

/-- The time of the failure the row remembers. -/
def lastFailure : Option OffsetDateTime := row.bind fun breaker => breaker.lastFailureAt

variable (occurredAt : OffsetDateTime)

/-- The condition both statements put on the row they would change. -/
def letsThrough : Bool := (lastFailure row).all fun last => last ≤ occurredAt

def recordFailure
    (reason : String) : Option ExecutorCircuitBreaker :=
  match row with
  | none =>
    some
      { failureCount := 1
        lastFailureAt := some occurredAt
        guardedUntil := none
        reason := some reason }
  | some breaker =>
    if letsThrough row occurredAt then some (breaker.failed occurredAt reason) else row

def recordSuccess : Option ExecutorCircuitBreaker :=
  match row with
  | none => none
  | some _ =>
    if letsThrough row occurredAt then some .cleared else row

inductive ObservedOutcome where
  | failure (reason : String)
  | success
  deriving Repr, DecidableEq

/-- What an executor reported about one action. -/
structure ExecutorObservation where
  receipt : Uuid
  outcome : ObservedOutcome
  occurredAt : OffsetDateTime
  deriving Repr, DecidableEq

namespace ExecutorObservation

def Failed (observation : ExecutorObservation) : Prop := observation.outcome ≠ .success

def Succeeded (observation : ExecutorObservation) : Prop := observation.outcome = .success

instance (observation : ExecutorObservation) : Decidable observation.Failed :=
  inferInstanceAs (Decidable (observation.outcome ≠ .success))

instance (observation : ExecutorObservation) : Decidable observation.Succeeded :=
  inferInstanceAs (Decidable (observation.outcome = .success))

end ExecutorObservation

/-- One receipt reaches the breaker. -/
def deliver
    (observation : ExecutorObservation) : Option ExecutorCircuitBreaker :=
  match observation.outcome with
  | .failure reason => recordFailure row observation.occurredAt reason
  | .success => recordSuccess row observation.occurredAt

/-- The breaker reading receipts; it reports which ones it let through. -/
def circuit :
    Transducer (Option ExecutorCircuitBreaker) ExecutorObservation Bool where
  step row observation := (deliver row observation, letsThrough row observation.occurredAt)

variable (deliveries : List ExecutorObservation)

/-- The row of an executor that starts without one. -/
def breakerAfter : Option ExecutorCircuitBreaker := circuit.final none deliveries

/-- The observations the breaker let through. -/
def applied : List ExecutorObservation :=
  ((circuit.visits none deliveries).filter
    fun visit => letsThrough visit.1 visit.2.occurredAt).map Prod.snd

def Guarded (row : Option ExecutorCircuitBreaker) : Prop :=
  ∃ breaker ∈ row, breaker.guardedUntil.isSome

/--
Three different failures, each at most a window after the one before, and no
success between the first and the third.
-/
abbrev Tripped (observations : List ExecutorObservation) : Prop :=
  ∃ first ∈ observations, ∃ second ∈ observations, ∃ third ∈ observations,
    (first.Failed ∧ second.Failed ∧ third.Failed) ∧
    (first ≠ second ∧ second ≠ third ∧ first ≠ third) ∧
    (first.occurredAt ≤ second.occurredAt ∧ second.occurredAt ≤ first.occurredAt + circuitWindow) ∧
    (second.occurredAt ≤ third.occurredAt ∧ third.occurredAt ≤ second.occurredAt + circuitWindow) ∧
    ∀ success ∈ observations,
      success.Succeeded →
      first.occurredAt < success.occurredAt →
      third.occurredAt ≤ success.occurredAt

/-- No stale or repeated receipt moves the breaker. -/
structure OnlyRealEvidence
    (deliveries : List ExecutorObservation) : Prop where
  guarded :
    ∀ before later,
      deliveries = before ++ later →
      Guarded (breakerAfter before) →
      Tripped deliveries
  stale :
    ∀ before observation later,
      deliveries = before ++ observation :: later →
      (∃ newer ∈ applied before,
        observation.occurredAt < newer.occurredAt) →
      breakerAfter (before ++ [observation]) = breakerAfter before
  repeated :
    ∀ before observation later,
      deliveries = before ++ observation :: later →
      observation ∈ applied before →
      breakerAfter (before ++ [observation]) = breakerAfter before

end CrowdRelay
