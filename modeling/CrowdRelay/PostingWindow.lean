import Mathlib.Algebra.Order.Ring.Int
import Mathlib.Data.Nat.Cast.Basic
import Mathlib.Data.Nat.Find
import Mathlib.Tactic.Linarith
import Mathlib.Tactic.Ring
import CrowdRelay.ContentSupply

namespace CrowdRelay

/-!
# When a community post may go out

A draft settles for some minutes after it is ready and then waits for an active
hour of its community.  An hour that opens is entered some minutes late.
-/

/-- The hours of a UTC day in which a community is awake. -/
abbrev ActiveHours := Fin 24 → Bool

def isActiveHour (active : ActiveHours)
    (hour : Nat) : Bool :=
  if inRange : hour < 24 then active ⟨hour, inRange⟩ else false

/-- The UTC hour of the day of an instant. -/
def hourOf (atTime : OffsetDateTime) : Nat := (atTime % nanosPerDay / nanosPerHour).toNat

/-- The midnight an instant follows on its day. -/
def midnightOf (atTime : OffsetDateTime) : OffsetDateTime := atTime - atTime % nanosPerDay

/-- The time a draft settles, from 10 to 49 minutes, fixed by the key of its post. -/
def settleTime (key : Nat) : Int := (10 + (key % 40 : Nat)) * nanosPerMinute

/-- The minutes an opening window is entered late, from 0 to 45. -/
def openingOffset (key : Nat) : Int := ((key >>> 16) % 46 : Nat) * nanosPerMinute

section Window

variable (active : ActiveHours)

/-- The start of the first active hour among those after the one probed. -/
def nextOpening (probe : OffsetDateTime) : Nat → Option OffsetDateTime
  | 0 => none
  | hours + 1 =>
    if isActiveHour active (hourOf (probe + nanosPerHour)) then
      some (probe + nanosPerHour)
    else
      nextOpening (probe + nanosPerHour) hours

variable (now readyAt : OffsetDateTime) (key : Nat)

/-- The earliest instant the draft has settled and the poll has come. -/
def settledAt : OffsetDateTime := max (readyAt + settleTime key) now

def waitBeforePosting : Option Int :=
  if !(List.finRange 24).any active then
    none
  else
    let earliest := settledAt now readyAt key
    let opening :=
      if isActiveHour active (hourOf earliest) then
        some earliest
      else
        (nextOpening active
          (midnightOf earliest + hourOf earliest * nanosPerHour) 24).map (· + openingOffset key)
    opening.bind fun postAt =>
      if now < postAt then some (postAt - now) else none

/-- The instant a poll promises: its own and the wait. -/
def promisedAt : Option OffsetDateTime := (waitBeforePosting active now readyAt key).map (now + ·)

end Window

variable {active : ActiveHours}

def hourNumber (atTime : Int) : Int := atTime / nanosPerHour

/-- Whether the community is awake in the hour of a number. -/
def ActiveIn (active : ActiveHours)
    (number : Int) : Prop :=
  isActiveHour active (number % 24).toNat = true

instance (active : ActiveHours) (number : Int) : Decidable (ActiveIn active number) :=
  inferInstanceAs (Decidable (_ = true))

theorem hourOf_eq (atTime : Int) : hourOf atTime = (hourNumber atTime % 24).toNat := by
  have sameHour : atTime % nanosPerDay / nanosPerHour = atTime / nanosPerHour % 24 := by
    simp only [nanosPerDay, nanosPerHour]
    omega
  rw [hourOf, hourNumber, sameHour]

theorem isActiveHour_hourOf (atTime : Int) :
    isActiveHour active (hourOf atTime) = true ↔ ActiveIn active (hourNumber atTime) := by
  rw [hourOf_eq, ActiveIn]

theorem midnightOf_add_hourOf (atTime : Int) :
    midnightOf atTime + hourOf atTime * nanosPerHour = hourNumber atTime * nanosPerHour := by
  have wholeHours :
      atTime - atTime % nanosPerDay + (atTime % nanosPerDay / nanosPerHour).toNat * nanosPerHour =
        atTime / nanosPerHour * nanosPerHour := by
    simp only [nanosPerDay, nanosPerHour]
    omega
  exact wholeHours

theorem hourNumber_mul_add {number rest : Int} (notBefore : 0 ≤ rest)
    (within : rest < nanosPerHour) :
    hourNumber (number * nanosPerHour + rest) = number := by
  simp only [hourNumber, nanosPerHour] at *
  omega

theorem hourNumber_bounds (atTime : Int) :
    hourNumber atTime * nanosPerHour ≤ atTime ∧
      atTime < hourNumber atTime * nanosPerHour + nanosPerHour := by
  simp only [hourNumber, nanosPerHour]
  omega

theorem hourNumber_mono {first second : Int} (later : first ≤ second) :
    hourNumber first ≤ hourNumber second := by
  simp only [hourNumber, nanosPerHour]
  omega

/-- The first hour after another in which the community is awake. -/
structure OpensAt
    (active : ActiveHours)
    (number opening : Int) : Prop where
  after : number < opening
  isActive : ActiveIn active opening
  first : ∀ between, number < between → between < opening →
    ¬ ActiveIn active between

theorem OpensAt.later {number later opening : Int} (opens : OpensAt active number opening)
    (notSooner : number ≤ later) (before : later < opening) :
    OpensAt active later opening where
  after := before
  isActive := opens.isActive
  first := fun between after => opens.first between (lt_of_le_of_lt notSooner after)

/-- The scan finds the first active hour it reaches. -/
theorem nextOpening_eq_some {number opening : Int} {hours : Nat}
    (opens : OpensAt active number opening) (reached : opening ≤ number + hours) :
    nextOpening active (number * nanosPerHour) hours = some (opening * nanosPerHour) := by
  have isAfter := opens.after
  induction hours generalizing number with
  | zero =>
    simp only [Nat.cast_zero, add_zero] at reached
    exact absurd isAfter (not_lt.mpr reached)
  | succ hours inductionHypothesis =>
    have nextHour : number * nanosPerHour + nanosPerHour = (number + 1) * nanosPerHour := by
      ring
    have itsNumber : hourNumber ((number + 1) * nanosPerHour) = number + 1 := by
      simpa using @hourNumber_mul_add (number + 1) 0 (le_refl 0) (by decide)
    simp only [nextOpening, nextHour, isActiveHour_hourOf, itsNumber]
    rcases lt_or_eq_of_le (Int.add_one_le_of_lt isAfter) with sooner | here
    · have asleep : ¬ ActiveIn active (number + 1) := opens.first _ (lt_add_one number) sooner
      rw [if_neg asleep]
      refine inductionHypothesis (opens.later (le_of_lt (lt_add_one number)) sooner) ?_ sooner
      push_cast at reached
      linarith
    · rw [here, if_pos opens.isActive]

theorem exists_opensAt (someActive : ∃ hour, active hour = true) (number : Int) :
    ∃ opening, OpensAt active number opening ∧ opening ≤ number + 24 := by
  obtain ⟨hour, isActive⟩ := someActive
  let isAwake : Nat → Prop := fun hours => ActiveIn active (number + 1 + hours)
  let ahead : Nat := ((hour.val - number - 1) % 24).toNat
  have wakes : isAwake ahead := by
    have sameHour : ((number + 1 + ahead) % 24).toNat = hour.val := by
      have inDay := hour.isLt
      omega
    simp only [isAwake, ActiveIn, sameHour, isActiveHour, hour.isLt, dif_pos]
    exact isActive
  have soon : ahead < 24 := by
    omega
  refine ⟨number + 1 + Nat.find ⟨ahead, wakes⟩, ⟨?_, ?_, ?_⟩, ?_⟩
  · omega
  · exact Nat.find_spec ⟨ahead, wakes⟩
  · intro between after before awake
    have least := Nat.find_min ⟨ahead, wakes⟩ (show (between - number - 1).toNat < _ by omega)
    have sameHour : number + 1 + ((between - number - 1).toNat : Int) = between := by
      omega
    exact least (by rwa [← sameHour] at awake)
  · have notLater := Nat.find_min' ⟨ahead, wakes⟩ wakes
    omega

section Promises

variable {now readyAt : Int} {key : Nat} {first second instant : Int}

theorem any_finRange_of_exists (someActive : ∃ hour, active hour = true) :
    (List.finRange 24).any active = true := by
  obtain ⟨hour, isActive⟩ := someActive
  exact List.any_eq_true.mpr ⟨hour, List.mem_finRange hour, isActive⟩

theorem openingOffset_bounds (key : Nat) :
    0 ≤ openingOffset key ∧ openingOffset key < nanosPerHour := by
  have inWindow := Nat.mod_lt (key >>> 16) (show 46 > 0 by decide)
  simp only [openingOffset, nanosPerMinute, nanosPerHour]
  omega

theorem opening_bounds {atTime opening : Int} (key : Nat) (isAfter : hourNumber atTime < opening)
    (withinDay : opening ≤ hourNumber atTime + 24) :
    atTime < opening * nanosPerHour + openingOffset key ∧
      opening * nanosPerHour + openingOffset key < atTime + 25 * nanosPerHour := by
  have inHour := hourNumber_bounds atTime
  have offset := openingOffset_bounds key
  simp only [nanosPerHour] at *
  omega

theorem le_settledAt : now ≤ settledAt now readyAt key := le_max_right _ _

theorem settled_le_settledAt : readyAt + settleTime key ≤ settledAt now readyAt key :=
  le_max_left _ _

theorem settledAt_eq_of_lt (waiting : now < settledAt now readyAt key) :
    settledAt now readyAt key = readyAt + settleTime key := by
  rcases max_choice (readyAt + settleTime key) now with settling | polled
  · exact settling
  · exact absurd waiting (not_lt.mpr (le_of_eq polled))

theorem promisedAt_of_active (someActive : ∃ hour, active hour = true)
    (awake : ActiveIn active (hourNumber (settledAt now readyAt key))) :
    promisedAt active now readyAt key =
      if now < settledAt now readyAt key then
        some (settledAt now readyAt key)
      else
        none := by
  simp only [promisedAt, waitBeforePosting, any_finRange_of_exists someActive,
    Bool.not_true, Bool.false_eq_true, if_false,
    if_pos (isActiveHour_hourOf _ |>.mpr awake), Option.bind_some]
  split
  · simp
  · rfl

theorem promisedAt_of_asleep {opening : Int} (someActive : ∃ hour, active hour = true)
    (asleep : ¬ ActiveIn active (hourNumber (settledAt now readyAt key)))
    (opens : OpensAt active (hourNumber (settledAt now readyAt key)) opening)
    (withinDay : opening ≤ hourNumber (settledAt now readyAt key) + 24) :
    promisedAt active now readyAt key = some (opening * nanosPerHour + openingOffset key) := by
  have reached := nextOpening_eq_some opens withinDay
  have isLater : now < opening * nanosPerHour + openingOffset key :=
    lt_of_le_of_lt le_settledAt (opening_bounds key opens.after withinDay).1
  simp only [promisedAt, waitBeforePosting, any_finRange_of_exists someActive,
    Bool.not_true, Bool.false_eq_true, if_false,
    if_neg (mt (isActiveHour_hourOf _).mp asleep), midnightOf_add_hourOf,
    reached, Option.map_some, Option.bind_some, if_pos isLater]
  simp

structure PromiseWithin
    (active : ActiveHours)
    (now readyAt : OffsetDateTime)
    (key : Nat)
    (instant : OffsetDateTime) : Prop where
  settled : readyAt + settleTime key ≤ instant
  awake : isActiveHour active (hourOf instant) = true
  soon :
    instant < max now (readyAt + settleTime key) + 25 * nanosPerHour

theorem hourNumber_opening (opening : Int) (key : Nat) :
    hourNumber (opening * nanosPerHour + openingOffset key) = opening :=
  hourNumber_mul_add (openingOffset_bounds key).1 (openingOffset_bounds key).2

section

variable (someActive : ∃ hour, active hour = true)
include someActive

theorem promise_within {instant : Int}
    (promised : promisedAt active now readyAt key = some instant) :
    PromiseWithin active now readyAt key instant := by
  have settled : readyAt + settleTime key ≤ settledAt now readyAt key := settled_le_settledAt
  by_cases awake : ActiveIn active (hourNumber (settledAt now readyAt key))
  · rw [promisedAt_of_active someActive awake] at promised
    split at promised
    · obtain rfl := Option.some.inj promised
      refine ⟨settled, (isActiveHour_hourOf _).mpr awake, ?_⟩
      rw [max_comm]
      exact lt_add_of_pos_right (settledAt now readyAt key) (by decide)
    · cases promised
  · obtain ⟨opening, opens, withinDay⟩ :=
      exists_opensAt someActive (hourNumber (settledAt now readyAt key))
    rw [promisedAt_of_asleep someActive awake opens withinDay] at promised
    obtain rfl := Option.some.inj promised
    have bounds := opening_bounds key opens.after withinDay
    refine ⟨le_trans settled (le_of_lt bounds.1), ?_, ?_⟩
    · rw [isActiveHour_hourOf, hourNumber_opening]
      exact opens.isActive
    · rw [max_comm]
      exact bounds.2

theorem settledAt_eq_of_awake (awake : ActiveIn active (hourNumber (settledAt first readyAt key)))
    (promised : promisedAt active first readyAt key = some instant) (before : second < instant) :
    settledAt second readyAt key = instant ∧ settledAt first readyAt key = instant := by
  rw [promisedAt_of_active someActive awake] at promised
  split at promised
  · rename_i waiting
    obtain rfl := Option.some.inj promised
    have settles := settledAt_eq_of_lt waiting
    refine ⟨?_, rfl⟩
    rw [settles] at before ⊢
    exact max_eq_left (le_of_lt before)
  · cases promised

/-- A community that has woken since gets its draft once it has settled, not
at the opening that was promised. -/
theorem promise_broken_of_woken
    (asleep : ¬ ActiveIn active (hourNumber (settledAt first readyAt key)))
    (awakeNow : ActiveIn active (hourNumber (settledAt second readyAt key)))
    (notSooner : settledAt first readyAt key ≤ settledAt second readyAt key) :
    promisedAt active second readyAt key ≠ some instant := by
  rw [promisedAt_of_active someActive awakeNow]
  split
  · rename_i waiting
    have settledThen : settledAt second readyAt key = settledAt first readyAt key := by
      refine le_antisymm ?_ notSooner
      rw [settledAt_eq_of_lt waiting]
      exact settled_le_settledAt
    exact fun _ => asleep (settledThen ▸ awakeNow)
  · simp

end

/-- A community that still sleeps before the instant of its opening is still
before the opening. -/
theorem hourNumber_lt_opening {first second opening : Int}
    (opens : OpensAt active (hourNumber (settledAt first readyAt key)) opening)
    (withinDay : opening ≤ hourNumber (settledAt first readyAt key) + 24)
    (asleepNow : ¬ ActiveIn active (hourNumber (settledAt second readyAt key)))
    (before : second < opening * nanosPerHour + openingOffset key) :
    hourNumber (settledAt second readyAt key) < opening := by
  have settledBefore : readyAt + settleTime key < opening * nanosPerHour + openingOffset key :=
    lt_of_le_of_lt settled_le_settledAt (opening_bounds key opens.after withinDay).1
  have beforeInstant : settledAt second readyAt key < opening * nanosPerHour + openingOffset key :=
    max_lt settledBefore before
  have notAfter := hourNumber_mono (le_of_lt beforeInstant)
  rw [hourNumber_opening] at notAfter
  refine lt_of_le_of_ne notAfter fun sameHour => ?_
  exact asleepNow (sameHour ▸ opens.isActive)

/--
Two polls of one post, the second before the instant the first promised, agree
unless the first found its community asleep and the second finds it awake: it
has woken, and the offset of the opening is not over.
-/
theorem samePromise_iff (someActive : ∃ hour, active hour = true)
    (promised : promisedAt active first readyAt key = some instant)
    (later : first ≤ second) (before : second < instant) :
    promisedAt active second readyAt key = some instant ↔
      isActiveHour active (hourOf (settledAt first readyAt key)) = true ∨
        isActiveHour active (hourOf (settledAt second readyAt key)) = false := by
  rw [← Bool.not_eq_true, isActiveHour_hourOf, isActiveHour_hourOf]
  by_cases awake : ActiveIn active (hourNumber (settledAt first readyAt key))
  · obtain ⟨sameSecond, sameFirst⟩ := settledAt_eq_of_awake someActive awake promised before
    have stillAwake : ActiveIn active (hourNumber (settledAt second readyAt key)) := by
      rwa [sameSecond, ← sameFirst]
    rw [promisedAt_of_active someActive stillAwake, sameSecond, if_pos before]
    exact iff_of_true rfl (Or.inl awake)
  · obtain ⟨opening, opens, withinDay⟩ :=
      exists_opensAt someActive (hourNumber (settledAt first readyAt key))
    rw [promisedAt_of_asleep someActive awake opens withinDay] at promised
    obtain rfl := Option.some.inj promised
    have notSooner : settledAt first readyAt key ≤ settledAt second readyAt key :=
      max_le_max_left _ later
    by_cases awakeNow : ActiveIn active (hourNumber (settledAt second readyAt key))
    · exact iff_of_false
        (promise_broken_of_woken someActive awake awakeNow notSooner)
        (by simp [awake, awakeNow])
    · -- It still sleeps, so the same opening comes first.
      have untilOpening := hourNumber_lt_opening opens withinDay awakeNow before
      rw [promisedAt_of_asleep someActive awakeNow
        (opens.later (hourNumber_mono notSooner) untilOpening)
        (le_trans withinDay (add_le_add_left (hourNumber_mono notSooner) 24))]
      exact iff_of_true rfl (Or.inr awakeNow)

/--
The polls of a post agree, and all their promises are kept to the same bounds,
exactly unless the first found its community asleep and the second awake.
-/
theorem pollsAgree_iff
    {first second instant : OffsetDateTime}
    (someActive : ∃ hour, active hour = true)
    (promised : promisedAt active first readyAt key = some instant)
    (later : first ≤ second)
    (before : second < instant) :
    (promisedAt active second readyAt key = some instant ∧
        ∀ poll promise, promisedAt active poll readyAt key = some promise →
          PromiseWithin active poll readyAt key promise) ↔
      isActiveHour active (hourOf (settledAt first readyAt key)) = true ∨
        isActiveHour active (hourOf (settledAt second readyAt key)) = false := by
  rw [samePromise_iff someActive promised later before]
  exact and_iff_left fun poll promise => promise_within someActive

/-- A community that wakes at 07:00, polled at 02:30 and at 03:00. -/
theorem pollsAgree_asleep :
    (promisedAt (fun hour => hour.val = 7) (180 * nanosPerMinute) 0 0 =
        some (420 * nanosPerMinute) ∧
      ∀ poll promise,
        promisedAt (fun hour => hour.val = 7) poll 0 0 = some promise →
          PromiseWithin (fun hour => hour.val = 7) poll 0 0 promise) ↔
      isActiveHour (fun hour => hour.val = 7)
          (hourOf (settledAt (150 * nanosPerMinute) 0 0)) = true ∨
        isActiveHour (fun hour => hour.val = 7)
          (hourOf (settledAt (180 * nanosPerMinute) 0 0)) = false :=
  pollsAgree_iff ⟨7, by decide⟩ (by decide) (by decide) (by decide)

/-- Polled at 02:30 the post goes at 07:30; polled at 07:15 it goes at once. -/
theorem pollAfterOpening_goes :
    promisedAt (fun hour => hour.val = 7) (150 * nanosPerMinute) 0 (30 <<< 16) =
        some (450 * nanosPerMinute) ∧
      435 * nanosPerMinute < 450 * nanosPerMinute ∧
      waitBeforePosting (fun hour => hour.val = 7) (435 * nanosPerMinute) 0
          (30 <<< 16) =
        none := by
  decide

end Promises

end CrowdRelay
