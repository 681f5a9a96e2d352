import Mathlib.Data.List.Chain
import CrowdRelay.ExecutorCircuit

namespace CrowdRelay

open Machine

/-!
# The breaker under an unordered transport

The row remembers the last failure and forgets the successes, so what it lets
through is not always new.  Where every failure it lets through is, and no
success arrives late between two failures it counts together, the breaker
moves on real evidence only.
-/

/-- What a receipt must be for the breaker to judge it rightly. -/
def Timely (past : List ExecutorObservation) (row : Option ExecutorCircuitBreaker)
    (observation : ExecutorObservation) : Prop :=
  match observation.outcome with
  | .failure _ =>
    letsThrough row observation.occurredAt →
    observation ∉ past ∧
      ∀ success ∈ past, success.Succeeded → success.occurredAt < observation.occurredAt
  | .success =>
    ∀ earlier ∈ past, ∀ later ∈ past,
      earlier.Failed →
      later.Failed →
      earlier.occurredAt < observation.occurredAt →
      observation.occurredAt < later.occurredAt →
      earlier.occurredAt + 2 * circuitWindow < later.occurredAt

def failureCount (row : Option ExecutorCircuitBreaker) : Nat :=
  (row.map fun breaker => breaker.failureCount).getD 0

section Statements

variable {row : Option ExecutorCircuitBreaker} {occurredAt : OffsetDateTime} {reason : String}

theorem letsThrough_iff :
    letsThrough row occurredAt ↔ ∀ last ∈ lastFailure row, last ≤ occurredAt := by
  unfold letsThrough
  cases lastFailure row <;> simp

section

variable (refused : ¬ letsThrough row occurredAt)
include refused

theorem exists_later_of_refused : ∃ last ∈ lastFailure row, occurredAt < last := by
  rw [letsThrough_iff] at refused
  push Not at refused
  exact refused

theorem recordFailure_of_not_letsThrough : recordFailure row occurredAt reason = row := by
  cases row with
  | none => exact absurd rfl refused
  | some breaker => rw [recordFailure, if_neg refused]

theorem recordSuccess_of_not_letsThrough : recordSuccess row occurredAt = row := by
  cases row with
  | none => rfl
  | some breaker => rw [recordSuccess, if_neg refused]

end

theorem recordFailure_of_letsThrough (through : letsThrough row occurredAt) :
    ∃ breaker,
      recordFailure row occurredAt reason = some breaker ∧
      breaker.lastFailureAt = some occurredAt ∧
      (breaker.guardedUntil.isSome → Guarded row ∨ tripThreshold ≤ breaker.failureCount) ∧
      (breaker.failureCount = 1 ∨
        ∃ last ∈ lastFailure row,
          occurredAt ≤ last + circuitWindow ∧
          breaker.failureCount = failureCount row + 1) := by
  cases row with
  | none => exact ⟨_, rfl, rfl, fun guarded => (by cases guarded), Or.inl rfl⟩
  | some breaker =>
    refine ⟨breaker.failed occurredAt reason, ?_, rfl, fun guarded => ?_, ?_⟩
    · rw [recordFailure, if_pos through]
    · by_cases trips :
          tripThreshold ≤ breaker.consecutive occurredAt
      · exact Or.inr trips
      · left
        refine ⟨breaker, rfl, ?_⟩
        simp only [ExecutorCircuitBreaker.failed, if_neg trips] at guarded
        obtain ⟨guard, kept⟩ := Option.isSome_iff_exists.mp guarded
        exact Option.isSome_iff_exists.mpr ⟨guard, (Option.filter_eq_some_iff.mp kept).1⟩
    · simp only [ExecutorCircuitBreaker.failed,
        ExecutorCircuitBreaker.consecutive]
      cases remembered : breaker.lastFailureAt with
      | none => exact Or.inl rfl
      | some last =>
        by_cases recent : occurredAt - circuitWindow ≤ last
        · right
          exact ⟨last, remembered, Int.le_add_of_sub_right_le recent, if_pos recent⟩
        · exact Or.inl (if_neg recent)

theorem recordSuccess_of_letsThrough (through : letsThrough row occurredAt) :
    ∀ breaker ∈ recordSuccess row occurredAt, breaker = .cleared := by
  intro breaker kept
  cases row with
  | none => cases kept
  | some before =>
    rw [recordSuccess, if_pos through] at kept
    exact (Option.some.inj kept).symm

end Statements

/-- The failures that the count of a row stands for, newest first. -/
structure CountedStreak
    (past : List ExecutorObservation)
    (row : Option ExecutorCircuitBreaker)
    (streak : List ExecutorObservation) : Prop where
  counted : streak.length = min tripThreshold (failureCount row)
  members : ∀ failure ∈ streak, failure ∈ past ∧ failure.Failed
  newest :
    streak.head?.map ExecutorObservation.occurredAt = lastFailure row
  close :
    streak.IsChain fun later earlier =>
      earlier.occurredAt ≤ later.occurredAt ∧
        later.occurredAt ≤ earlier.occurredAt + circuitWindow
  distinct : streak.Nodup
  afterSuccesses :
    ∀ success ∈ past,
      success.Succeeded →
      ∀ failure ∈ streak, success.occurredAt ≤ failure.occurredAt

/-- What the row says of the receipts delivered so far. -/
structure CircuitHistory
    (past : List ExecutorObservation)
    (row : Option ExecutorCircuitBreaker) : Prop where
  wiped :
    ∀ breaker ∈ row,
      breaker.lastFailureAt = none → breaker = .cleared
  failuresSeen :
    ∀ failure ∈ past,
      failure.Failed →
      (∃ last ∈ lastFailure row, failure.occurredAt ≤ last) ∨
        ∃ success ∈ past,
          success.Succeeded ∧ failure.occurredAt ≤ success.occurredAt
  successesBefore :
    ∀ success ∈ past,
      success.Succeeded →
      ∀ last ∈ lastFailure row, success.occurredAt < last
  streak : ∃ streak, CountedStreak past row streak
  guarded : Guarded row → Tripped past

theorem circuitHistory_nil : CircuitHistory [] none where
  wiped := by
    intro breaker absent
    cases absent
  failuresSeen := by
    intro failure absent
    cases absent
  successesBefore := by
    intro success absent
    cases absent
  streak := ⟨[], rfl, by simp, rfl, .nil, .nil, by simp⟩
  guarded := by
    rintro ⟨breaker, absent, _⟩
    cases absent

section Deliveries

variable {past : List ExecutorObservation} {row : Option ExecutorCircuitBreaker}
  {observation : ExecutorObservation} {streak : List ExecutorObservation}
  {last : OffsetDateTime} {breaker : ExecutorCircuitBreaker} {reason : String}

theorem CountedStreak.span (counted : CountedStreak past row streak)
    (remembered : last ∈ lastFailure row) :
    ∀ failure ∈ streak,
      failure.occurredAt ≤ last ∧ last ≤ failure.occurredAt + 2 * circuitWindow := by
  have short := counted.counted
  have newest := counted.newest
  have close := counted.close
  rw [Option.mem_def.mp remembered] at newest
  have window : 0 ≤ circuitWindow := by decide
  have atMostThree : streak.length ≤ 3 := short ▸ Nat.min_le_left _ _
  match streak with
  | [] => simp
  | [third] =>
    simp at newest ⊢
    grind
  | [third, second] =>
    simp at newest close ⊢
    grind
  | [third, second, first] =>
    simp at newest close ⊢
    grind
  | _ :: _ :: _ :: _ :: _ =>
    simp only [List.length_cons] at atMostThree
    omega

theorem CountedStreak.tripped (counted : CountedStreak past row streak)
    (full : tripThreshold ≤ failureCount row) :
    Tripped past := by
  have three : streak.length = 3 := by
    rw [counted.counted, Nat.min_eq_left full]
    rfl
  match streak, three with
  | [third, second, first], _ =>
    have members := counted.members
    have close := counted.close
    have distinct := counted.distinct
    have after := counted.afterSuccesses
    simp at members close distinct
    refine ⟨first, members.2.2.1, second, members.2.1.1, third, members.1.1,
        ⟨members.2.2.2, members.2.1.2, members.1.2⟩,
        ⟨Ne.symm distinct.2, Ne.symm distinct.1.1, Ne.symm distinct.1.2⟩,
        close.2, close.1, ?_⟩
    intro success delivered succeeded later
    have early := after success delivered succeeded first (by simp)
    exact absurd later (not_lt_of_ge early)

theorem Tripped.append (tripped : Tripped past) (timely : Timely past row observation) :
    Tripped (past ++ [observation]) := by
  rcases tripped with
    ⟨first, hasFirst, second, hasSecond, third, hasThird, failed, distinct,
      ⟨ordered, near⟩, ⟨orderedLast, nearLast⟩, quiet⟩
  refine ⟨first, List.mem_append_left _ hasFirst, second, List.mem_append_left _ hasSecond,
      third, List.mem_append_left _ hasThird, failed, distinct,
      ⟨ordered, near⟩, ⟨orderedLast, nearLast⟩, ?_⟩
  intro success delivered succeeded later
  rcases List.mem_append.mp delivered with inPast | isLast
  · exact quiet success inPast succeeded later
  · obtain rfl := List.mem_singleton.mp isLast
    by_contra early
    have outcome : success.outcome = .success := succeeded
    rw [Timely, outcome] at timely
    have apart := timely first hasFirst third hasThird failed.1 failed.2.2 later (not_le.mp early)
    grind

theorem CountedStreak.append (counted : CountedStreak past row streak)
    (behind :
      observation.Succeeded →
      ∀ failure ∈ streak, observation.occurredAt ≤ failure.occurredAt) :
    CountedStreak (past ++ [observation]) row streak where
  counted := counted.counted
  members failure counts :=
    ⟨List.mem_append_left _ (counted.members failure counts).1, (counted.members failure counts).2⟩
  newest := counted.newest
  close := counted.close
  distinct := counted.distinct
  afterSuccesses := by
    intro success delivered succeeded
    rcases List.mem_append.mp delivered with inPast | isLast
    · exact counted.afterSuccesses success inPast succeeded
    · obtain rfl := List.mem_singleton.mp isLast
      exact behind succeeded

theorem mem_past_of_not {Kind : ExecutorObservation → Prop} (isNot : ¬ Kind observation)
    {receipt : ExecutorObservation} (delivered : receipt ∈ past ++ [observation])
    (isKind : Kind receipt) :
    receipt ∈ past := by
  rcases List.mem_append.mp delivered with inPast | isLast
  · exact inPast
  · rw [List.mem_singleton.mp isLast] at isKind
    exact absurd isKind isNot

theorem not_succeeded_of_failed (failed : observation.Failed) : ¬ observation.Succeeded :=
  fun succeeded => failed succeeded

theorem successes_before (failed : observation.Failed)
    (later :
      ∀ success ∈ past,
        success.Succeeded →
        success.occurredAt < observation.occurredAt)
    {success : ExecutorObservation}
    (delivered : success ∈ past ++ [observation])
    (succeeded : success.Succeeded) :
    success ∈ past ∧ success.occurredAt ≤ observation.occurredAt := by
  have inPast := mem_past_of_not (not_succeeded_of_failed failed) delivered succeeded
  exact ⟨inPast, le_of_lt (later success inPast succeeded)⟩

theorem countedStreak_single (failed : observation.Failed)
    (later :
      ∀ success ∈ past,
        success.Succeeded →
        success.occurredAt < observation.occurredAt)
    (remembers : breaker.lastFailureAt = some observation.occurredAt)
    (restarted : breaker.failureCount = 1) :
    CountedStreak (past ++ [observation]) (some breaker) [observation] where
  counted := by
    have one : failureCount (some breaker) = 1 := restarted
    rw [one]
    rfl
  members := by
    intro failure counts
    obtain rfl := List.mem_singleton.mp counts
    exact ⟨by simp, failed⟩
  newest := remembers.symm
  close := .singleton _
  distinct := by simp
  afterSuccesses := by
    intro success delivered succeeded failure counts
    obtain rfl := List.mem_singleton.mp counts
    exact (successes_before failed later delivered succeeded).2

theorem CountedStreak.join (counted : CountedStreak past row streak)
    (failed : observation.Failed) (through : letsThrough row observation.occurredAt)
    (fresh : observation ∉ past)
    (later :
      ∀ success ∈ past,
        success.Succeeded →
        success.occurredAt < observation.occurredAt)
    (remembers : breaker.lastFailureAt = some observation.occurredAt)
    (remembered : last ∈ lastFailure row)
    (near : observation.occurredAt ≤ last + circuitWindow)
    (longer : breaker.failureCount = failureCount row + 1) :
    CountedStreak (past ++ [observation]) (some breaker) (observation :: streak.take 2) := by
  refine
    { counted := ?_
      members := ?_
      newest := remembers.symm
      close := ?_
      distinct := ?_
      afterSuccesses := ?_ }
  · have total :
        failureCount (some breaker) = failureCount row + 1 := longer
    have three : tripThreshold = 3 := rfl
    rw [List.length_cons, List.length_take, counted.counted, total, three]
    omega
  · intro failure counts
    rcases List.mem_cons.mp counts with isObservation | older
    · rw [isObservation]
      exact ⟨by simp, failed⟩
    · obtain ⟨delivered, failedBefore⟩ := counted.members failure (List.mem_of_mem_take older)
      exact ⟨List.mem_append_left _ delivered, failedBefore⟩
  · refine (counted.close.take 2).cons fun newest isHead => ?_
    have head : newest ∈ streak.head? := by
      simpa [List.head?_take] using isHead
    have newestAt : last = newest.occurredAt := by
      have same := counted.newest
      rw [Option.mem_def.mp head, Option.mem_def.mp remembered] at same
      exact (Option.some.inj same).symm
    rw [newestAt] at near remembered
    exact ⟨letsThrough_iff.mp through _ remembered, near⟩
  · refine List.nodup_cons.mpr
        ⟨fun repeated => ?_, counted.distinct.sublist (List.take_sublist 2 streak)⟩
    exact fresh (counted.members _ (List.mem_of_mem_take repeated)).1
  · intro success delivered succeeded failure counts
    obtain ⟨inPast, before⟩ := successes_before failed later delivered succeeded
    rcases List.mem_cons.mp counts with isObservation | older
    · rw [isObservation]
      exact before
    · exact counted.afterSuccesses success inPast succeeded failure
          (List.mem_of_mem_take older)

theorem CountedStreak.failure (counted : CountedStreak past row streak)
    (failed : observation.Failed) (through : letsThrough row observation.occurredAt)
    (fresh : observation ∉ past)
    (later :
      ∀ success ∈ past,
        success.Succeeded →
        success.occurredAt < observation.occurredAt)
    (remembers : breaker.lastFailureAt = some observation.occurredAt)
    (count :
      breaker.failureCount = 1 ∨
        ∃ last ∈ lastFailure row,
          observation.occurredAt ≤ last + circuitWindow ∧
          breaker.failureCount = failureCount row + 1) :
    ∃ longer, CountedStreak (past ++ [observation]) (some breaker) longer := by
  rcases count with restarted | ⟨last, remembered, near, longer⟩
  · exact ⟨_, countedStreak_single failed later remembers restarted⟩
  · exact ⟨_, counted.join failed through fresh later remembers remembered near
        longer⟩

section

variable (history : CircuitHistory past row)
include history

/-- A failure stays seen where a row forgets its last failure for a later
success only. -/
theorem CircuitHistory.seen_append {after : Option ExecutorCircuitBreaker}
    (carried :
      ∀ last ∈ lastFailure row,
        (∃ later ∈ lastFailure after, last ≤ later) ∨
          observation.Succeeded ∧ last ≤ observation.occurredAt)
    {failure : ExecutorObservation}
    (inPast : failure ∈ past)
    (failed : failure.Failed) :
    (∃ last ∈ lastFailure after, failure.occurredAt ≤ last) ∨
      ∃ success ∈ past ++ [observation],
        success.Succeeded ∧ failure.occurredAt ≤ success.occurredAt := by
  rcases history.failuresSeen failure inPast failed with
    ⟨last, remembered, before⟩ | ⟨success, has, succeeded, before⟩
  · rcases carried last remembered with
      ⟨later, remembersNow, notEarlier⟩ | ⟨succeeded, notEarlier⟩
    · exact Or.inl ⟨later, remembersNow, le_trans before notEarlier⟩
    · exact Or.inr
          ⟨observation, by simp, succeeded, le_trans before notEarlier⟩
  · exact Or.inr ⟨success, List.mem_append_left _ has, succeeded, before⟩

theorem CircuitHistory.failure_through (failed : observation.outcome = .failure reason)
    (isFailure : observation.Failed) (timely : Timely past row observation)
    (through : letsThrough row observation.occurredAt) :
    CircuitHistory (past ++ [observation]) (recordFailure row observation.occurredAt reason) := by
  have stillTripped : Tripped past → Tripped (past ++ [observation]) :=
    fun tripped => tripped.append timely
  rw [Timely, failed] at timely
  obtain ⟨fresh, later⟩ := timely through
  obtain ⟨streak, counted⟩ := history.streak
  obtain ⟨breaker, stepped, remembers, guardedBy, count⟩ :=
    @recordFailure_of_letsThrough _ _ reason through
  obtain ⟨longer, countedNow⟩ := counted.failure isFailure through fresh later remembers count
  rw [stepped]
  refine
    { wiped := ?_
      failuresSeen := ?_
      successesBefore := ?_
      streak := ⟨longer, countedNow⟩
      guarded := ?_ }
  · intro kept isKept forgets
    obtain rfl := Option.some.inj isKept
    rw [remembers] at forgets
    cases forgets
  · intro failure delivered failedThen
    rcases List.mem_append.mp delivered with inPast | isLast
    · refine history.seen_append (fun last remembered => ?_) inPast failedThen
      exact Or.inl ⟨_, remembers, letsThrough_iff.mp through last remembered⟩
    · rw [List.mem_singleton.mp isLast]
      exact Or.inl ⟨_, remembers, le_refl _⟩
  · intro success delivered succeeded last isLast
    obtain rfl := Option.some.inj (remembers.symm.trans isLast)
    exact later success (mem_past_of_not (not_succeeded_of_failed isFailure) delivered succeeded)
        succeeded
  · rintro ⟨kept, isKept, guard⟩
    obtain rfl := Option.some.inj isKept
    rcases guardedBy guard with guardedBefore | trips
    · exact stillTripped (history.guarded guardedBefore)
    · exact countedNow.tripped trips

theorem CircuitHistory.failure_ignored (isFailure : observation.Failed)
    (stillTripped : Tripped past → Tripped (past ++ [observation]))
    (refused : ¬ letsThrough row observation.occurredAt) :
    CircuitHistory (past ++ [observation]) row := by
  have notSuccess := not_succeeded_of_failed isFailure
  obtain ⟨streak, counted⟩ := history.streak
  refine
    { wiped := history.wiped
      failuresSeen := ?_
      successesBefore := ?_
      streak := ⟨streak, counted.append fun succeeded => absurd succeeded notSuccess⟩
      guarded := fun guard => stillTripped (history.guarded guard) }
  · intro failure delivered failedThen
    rcases List.mem_append.mp delivered with inPast | isLast
    · exact history.seen_append
          (fun last remembered => Or.inl ⟨last, remembered, le_refl _⟩)
          inPast failedThen
    · obtain ⟨last, remembered, after⟩ := exists_later_of_refused refused
      rw [List.mem_singleton.mp isLast]
      exact Or.inl ⟨last, remembered, le_of_lt after⟩
  · intro success delivered succeeded
    exact history.successesBefore success (mem_past_of_not notSuccess delivered succeeded) succeeded

theorem CircuitHistory.failure (failed : observation.outcome = .failure reason)
    (timely : Timely past row observation) :
    CircuitHistory (past ++ [observation]) (recordFailure row observation.occurredAt reason) := by
  have isFailure : observation.Failed := by
    rw [ExecutorObservation.Failed, failed]
    exact nofun
  by_cases through : letsThrough row observation.occurredAt
  · exact history.failure_through failed isFailure timely through
  · rw [recordFailure_of_not_letsThrough through]
    exact history.failure_ignored isFailure (fun tripped => tripped.append timely) through

end

theorem forgotten_of_letsThrough {occurredAt : OffsetDateTime}
    (through : letsThrough row occurredAt) :
    lastFailure (recordSuccess row occurredAt) = none ∧
      failureCount (recordSuccess row occurredAt) = 0 := by
  have wiped := recordSuccess_of_letsThrough through
  cases kept : recordSuccess row occurredAt with
  | none => exact ⟨rfl, rfl⟩
  | some breaker =>
    rw [wiped breaker kept]
    exact ⟨rfl, rfl⟩

theorem CircuitHistory.success_through (history : CircuitHistory past row)
    (succeeded : observation.Succeeded) (through : letsThrough row observation.occurredAt) :
    CircuitHistory (past ++ [observation]) (recordSuccess row observation.occurredAt) := by
  have wiped := recordSuccess_of_letsThrough through
  obtain ⟨forgets, uncounted⟩ := forgotten_of_letsThrough through
  refine
    { wiped := fun breaker kept _ => wiped breaker kept
      failuresSeen := ?_
      successesBefore := ?_
      streak :=
        ⟨[],
          { counted := by rw [uncounted]; rfl
            members := by simp
            newest := forgets.symm
            close := .nil
            distinct := .nil
            afterSuccesses := by simp }⟩
      guarded := ?_ }
  · intro failure delivered failedThen
    refine history.seen_append (fun last remembered => ?_)
        (mem_past_of_not (fun failed => failed succeeded) delivered failedThen)
        failedThen
    exact Or.inr ⟨succeeded, letsThrough_iff.mp through last remembered⟩
  · intro success _ _ last remembered
    rw [forgets] at remembered
    cases remembered
  · rintro ⟨breaker, kept, guard⟩
    rw [wiped breaker kept] at guard
    cases guard

theorem CountedStreak.behind_of_refused (counted : CountedStreak past row streak)
    (succeeded : observation.outcome = .success) (timely : Timely past row observation)
    (refused : ¬ letsThrough row observation.occurredAt) :
    ∀ failure ∈ streak, observation.occurredAt ≤ failure.occurredAt := by
  intro failure counts
  by_contra splits
  obtain ⟨last, remembered, after⟩ := exists_later_of_refused refused
  rw [Timely, succeeded] at timely
  obtain ⟨newest, isHead, newestAt⟩ : ∃ newest ∈ streak, newest.occurredAt = last := by
    have same := counted.newest
    rw [Option.mem_def.mp remembered] at same
    obtain ⟨newest, isHead, newestAt⟩ := Option.map_eq_some_iff.mp same
    exact ⟨newest, List.mem_of_mem_head? isHead, newestAt⟩
  have apart := timely failure (counted.members failure counts).1
      newest (counted.members newest isHead).1
      (counted.members failure counts).2
      (counted.members newest isHead).2
      (not_le.mp splits) (newestAt ▸ after)
  have span := (counted.span remembered failure counts).2
  grind

section

variable (history : CircuitHistory past row)
include history

theorem CircuitHistory.success_ignored (succeeded : observation.outcome = .success)
    (timely : Timely past row observation) (refused : ¬ letsThrough row observation.occurredAt) :
    CircuitHistory (past ++ [observation]) row := by
  obtain ⟨last, remembered, after⟩ := exists_later_of_refused refused
  obtain ⟨streak, counted⟩ := history.streak
  refine
    { wiped := history.wiped
      failuresSeen := ?_
      successesBefore := ?_
      streak :=
        ⟨streak, counted.append fun _ =>
          counted.behind_of_refused succeeded timely refused⟩
      guarded := fun guard => (history.guarded guard).append timely }
  · intro failure delivered failedThen
    exact history.seen_append (fun last remembered => Or.inl ⟨last, remembered, le_refl _⟩)
        (mem_past_of_not (fun failed => failed succeeded) delivered failedThen)
        failedThen
  · intro success delivered succeededThen query isQuery
    rcases List.mem_append.mp delivered with inPast | isObservation
    · exact history.successesBefore success inPast succeededThen query isQuery
    · rw [List.mem_singleton.mp isObservation,
        ← Option.mem_unique remembered isQuery]
      exact after

theorem CircuitHistory.success (succeeded : observation.outcome = .success)
    (timely : Timely past row observation) :
    CircuitHistory (past ++ [observation]) (recordSuccess row observation.occurredAt) := by
  by_cases through : letsThrough row observation.occurredAt
  · exact history.success_through succeeded through
  · rw [recordSuccess_of_not_letsThrough through]
    exact history.success_ignored succeeded timely through

theorem CircuitHistory.deliver (timely : Timely past row observation) :
    CircuitHistory (past ++ [observation]) (deliver row observation) := by
  unfold CrowdRelay.deliver
  cases outcome : observation.outcome with
  | failure reason => exact history.failure outcome timely
  | success => exact history.success outcome timely

theorem CircuitHistory.recordSuccess_eq
    (notNewer : ∀ last ∈ lastFailure row, observation.occurredAt < last) :
    recordSuccess row observation.occurredAt = row := by
  by_cases through : letsThrough row observation.occurredAt
  · have forgets : lastFailure row = none := by
      rw [Option.eq_none_iff_forall_not_mem]
      intro last remembered
      exact absurd (letsThrough_iff.mp through last remembered)
          (not_le_of_gt (notNewer last remembered))
    cases row with
    | none => rfl
    | some breaker =>
      rw [recordSuccess, if_pos through, history.wiped breaker rfl forgets]
  · exact recordSuccess_of_not_letsThrough through

/-- A timely receipt older than one delivered before changes nothing. -/
theorem CircuitHistory.deliver_of_stale (timely : Timely past row observation)
    {newer : ExecutorObservation} (delivered : newer ∈ past)
    (stale : observation.occurredAt < newer.occurredAt) :
    CrowdRelay.deliver row observation = row := by
  have newerThanRow :
      newer.Succeeded →
      ∀ last ∈ lastFailure row, observation.occurredAt < last :=
    fun succeeded last remembered =>
      lt_trans stale (history.successesBefore newer delivered succeeded last remembered)
  unfold CrowdRelay.deliver
  cases outcome : observation.outcome with
  | failure reason =>
    refine recordFailure_of_not_letsThrough fun through => ?_
    rw [Timely, outcome] at timely
    obtain ⟨_, later⟩ := timely through
    by_cases succeeded : newer.Succeeded
    · exact absurd (later newer delivered succeeded) (not_lt_of_gt stale)
    · rcases history.failuresSeen newer delivered succeeded with
        ⟨last, remembered, before⟩ | ⟨success, has, succeededThen, before⟩
      · exact absurd (letsThrough_iff.mp through last remembered)
            (not_le_of_gt (lt_of_lt_of_le stale before))
      · exact absurd (later success has succeededThen)
            (not_lt_of_gt (lt_of_lt_of_le stale before))
  | success =>
    refine history.recordSuccess_eq fun last remembered => ?_
    by_cases succeeded : newer.Succeeded
    · exact newerThanRow succeeded last remembered
    · rcases history.failuresSeen newer delivered succeeded with
        ⟨latest, isLatest, before⟩ | ⟨success, has, succeededThen, before⟩
      · rw [Option.mem_unique remembered isLatest]
        exact lt_of_lt_of_le stale before
      · exact lt_of_lt_of_le stale
            (le_trans before
              (le_of_lt (history.successesBefore success has succeededThen last remembered)))

theorem CircuitHistory.deliver_of_repeated (timely : Timely past row observation)
    (delivered : observation ∈ past) :
    CrowdRelay.deliver row observation = row := by
  unfold CrowdRelay.deliver
  cases outcome : observation.outcome with
  | failure reason =>
    refine recordFailure_of_not_letsThrough fun through => ?_
    rw [Timely, outcome] at timely
    exact (timely through).1 delivered
  | success =>
    exact history.recordSuccess_eq (history.successesBefore observation delivered outcome)

end

end Deliveries

theorem circuit_neverHalts (through : Bool) : circuit.halts through = false := rfl

theorem breakerAfter_append_singleton (before : List ExecutorObservation)
    (observation : ExecutorObservation) :
    breakerAfter (before ++ [observation]) = deliver (breakerAfter before) observation := by
  rw [breakerAfter, circuit.final_append circuit_neverHalts,
    circuit.final_cons, circuit_neverHalts, if_neg Bool.false_ne_true]
  rfl

variable {deliveries : List ExecutorObservation}

theorem mem_of_mem_applied {observation : ExecutorObservation}
    (wasApplied : observation ∈ applied deliveries) :
    observation ∈ deliveries := by
  obtain ⟨visit, visited, rfl⟩ := List.mem_map.mp wasApplied
  exact circuit.mem_of_mem_visits (List.mem_filter.mp visited).1

def TimelyRun (deliveries : List ExecutorObservation) : Prop :=
  circuit.EveryStep Timely none deliveries

theorem circuitHistory_of_timelyRun (timely : TimelyRun deliveries) :
    CircuitHistory deliveries (breakerAfter deliveries) :=
  circuit.final_history_of_everyStep CircuitHistory circuit_neverHalts
    (fun _ _ _ isTimely history => history.deliver isTimely)
    circuitHistory_nil timely

theorem timelyRun_of_increasing
    (increasing :
      deliveries.Pairwise fun earlier later =>
        earlier.occurredAt < later.occurredAt) :
    TimelyRun deliveries := by
  intro before observation later split
  rw [split] at increasing
  have newest : ∀ past ∈ before, past.occurredAt < observation.occurredAt :=
    fun past delivered =>
      (List.pairwise_append.mp increasing).2.2 past delivered observation List.mem_cons_self
  unfold Timely
  cases observation.outcome with
  | failure reason =>
    intro _
    exact ⟨fun repeated => lt_irrefl _ (newest observation repeated),
        fun success delivered _ => newest success delivered⟩
  | success =>
    intro earlier _ last delivered _ _ _ late
    exact absurd (newest last delivered) (not_lt_of_gt late)

/--
Where every receipt is timely, the breaker guards only after three real
failures in a row, and stale and repeated receipts change nothing.
-/
theorem onlyRealEvidence_of_timelyRun
    (deliveries : List ExecutorObservation)
    (timely : TimelyRun deliveries) :
    OnlyRealEvidence deliveries where
  guarded := by
    intro before later split guarded
    have tripped := (circuitHistory_of_timelyRun (timely.of_append split)).guarded guarded
    clear guarded
    induction later using List.reverseRecOn generalizing deliveries with
    | nil =>
      rw [split, List.append_nil]
      exact tripped
    | append_singleton rest observation inductionHypothesis =>
      rw [← List.append_assoc] at split
      have earlier := inductionHypothesis _ (timely.of_append split) rfl
      have last := timely (before ++ rest) observation [] split
      rw [split]
      exact earlier.append last
  stale := by
    rintro before observation later split ⟨newer, wasApplied, isStale⟩
    rw [breakerAfter_append_singleton]
    exact (circuitHistory_of_timelyRun (timely.of_append split)).deliver_of_stale
        (timely before observation later split)
        (mem_of_mem_applied wasApplied) isStale
  repeated := by
    intro before observation later split wasApplied
    rw [breakerAfter_append_singleton]
    exact (circuitHistory_of_timelyRun (timely.of_append split)).deliver_of_repeated
        (timely before observation later split)
        (mem_of_mem_applied wasApplied)

/-- A receipt that says what happened at one minute of the hour. -/
def receiptAt (minute : Int)
    (outcome : ObservedOutcome) : ExecutorObservation :=
  { receipt := BitVec.ofInt 128 minute
    outcome := outcome
    occurredAt := minute * 60000000000 }

def threeFailures : List ExecutorObservation :=
  [0, 1, 2].map fun minute => receiptAt minute (.failure "timeout")

theorem onlyRealEvidence_threeFailures :
    OnlyRealEvidence threeFailures ∧ Guarded (breakerAfter threeFailures) :=
  ⟨onlyRealEvidence_of_timelyRun threeFailures
      (timelyRun_of_increasing (by decide)),
    _, rfl, rfl⟩

/-- The executor recovered after its first failure, and is told so late. -/
def lateSuccess : List ExecutorObservation :=
  [receiptAt 0 (.failure "timeout"),
    receiptAt 2 (.failure "timeout"),
    receiptAt 1 .success,
    receiptAt 3 (.failure "timeout")]

theorem lateSuccess_guards : ¬ OnlyRealEvidence lateSuccess := by
  intro real
  have tripped : Tripped lateSuccess :=
    real.guarded lateSuccess [] (List.append_nil _).symm ⟨_, rfl, rfl⟩
  exact absurd tripped (by decide +kernel)

end CrowdRelay
