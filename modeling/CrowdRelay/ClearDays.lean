import Mathlib.Algebra.Order.Group.Int
import Mathlib.Algebra.Order.Group.Abs
import Mathlib.Order.Bounds.Basic
import CrowdRelay.Extremes

namespace ClearDays

open Extremes

/-!
# The first clear day

Points on a line of days each block the days within a guard around them.  A
walk that jumps past a blocking point as long as there is one ends on the first
clear day, after no more jumps than there are points.
-/

variable (guard : Int) (points : List Int)

/-- A day is clear if it is farther than the guard from every point. -/
def Clear (day : Int) : Prop := ∀ point ∈ points, guard < |day - point|

def blocking (day : Int) : List Int := points.filter fun point => |day - point| ≤ guard

/-- The walk: the day it stands on and the last point it jumped past. -/
def walk : Nat → Int × Option Int → Int × Option Int
  | 0, place => place
  | rounds + 1, (day, passed) =>
    match (blocking guard points day).min? with
    | none => (day, passed)
    | some point => walk rounds (point + guard + 1, some point)

/-- What is true of every place of a walk from a first day on. -/
structure Walked (first : Int) (place : Int × Option Int) : Prop where
  notBefore : first ≤ place.1
  /-- No clear day was jumped over. -/
  passedOver :
    ∀ day, first ≤ day → day < place.1 → ¬ Clear guard points day
  unmoved : place.2 = none → place.1 = first
  moved :
    ∀ point,
      place.2 = some point →
        point ∈ points ∧ place.1 = point + guard + 1 ∧ first < place.1

/-- The points that can still block a walk that has come to a day. -/
def ahead (day : Int) : Nat := points.countP fun point => day - guard ≤ point

variable {guard points}

theorem mem_blocking_iff {day point : Int} :
    point ∈ blocking guard points day ↔ point ∈ points ∧ |day - point| ≤ guard := by
  simp [blocking]

theorem clear_iff_blocking_eq_nil {day : Int} :
    Clear guard points day ↔ blocking guard points day = [] := by
  rw [blocking, List.filter_eq_nil_iff]
  exact forall₂_congr fun point _ => by
    rw [decide_eq_true_eq, not_le]

theorem not_clear_of_blocked {day later point : Int} (isPoint : point ∈ points)
    (blocks : |day - point| ≤ guard) (fromDay : day ≤ later) (before : later < point + guard + 1) :
    ¬ Clear guard points later := by
  intro clear
  have away := clear point isPoint
  rw [abs_le] at blocks
  rw [lt_abs] at away
  omega

theorem Walked.start (first : Int) :
    Walked guard points first (first, none) where
  notBefore := le_refl first
  passedOver := fun _ fromFirst before =>
    absurd fromFirst (not_le.mpr before)
  unmoved := fun _ => rfl
  moved := fun _ isPassed => by cases isPassed

theorem Walked.jump {first day point : Int} {passed : Option Int}
    (walked : Walked guard points first (day, passed)) (isPoint : point ∈ points)
    (blocks : |day - point| ≤ guard) :
    Walked guard points first (point + guard + 1, some point) := by
  have further : day < point + guard + 1 := by
    have bound := (abs_le.mp blocks).2
    omega
  have notBefore : first ≤ day := walked.notBefore
  refine ⟨le_of_lt (lt_of_le_of_lt notBefore further), ?_, ?_, ?_⟩
  · intro other fromFirst before
    cases lt_or_ge other day with
    | inl earlier => exact walked.passedOver other fromFirst earlier
    | inr fromDay => exact not_clear_of_blocked isPoint blocks fromDay before
  · intro isUnmoved
    cases isUnmoved
  · rintro _ ⟨⟩
    exact ⟨isPoint, rfl, lt_of_le_of_lt notBefore further⟩

theorem ahead_lt_of_jump {day point : Int} (isPoint : point ∈ points)
    (blocks : |day - point| ≤ guard) :
    ahead guard points (point + guard + 1) < ahead guard points day := by
  rw [abs_le] at blocks
  unfold ahead
  rw [List.countP_eq_length_filter, List.countP_eq_length_filter]
  have kept :
      (points.filter fun other => point + guard + 1 - guard ≤ other) =
        (points.filter fun other => day - guard ≤ other).filter
          fun other => point + guard + 1 - guard ≤ other := by
    rw [List.filter_filter]
    refine List.filter_congr fun other _ => ?_
    rw [← Bool.decide_and, decide_eq_decide]
    omega
  rw [kept]
  refine List.length_filter_lt_length_iff_exists.mpr ⟨point, ?_, ?_⟩
  · exact List.mem_filter.mpr ⟨isPoint, decide_eq_true (by omega)⟩
  · simp

theorem walk_walked {first : Int} :
    ∀ (rounds : Nat) (place : Int × Option Int),
      Walked guard points first place → Walked guard points first (walk guard points rounds place)
  | 0, _, walked => walked
  | rounds + 1, (day, passed), walked => by
      rw [walk]
      split
      · exact walked
      · rename_i point isEarliest
        obtain ⟨isPoint, blocks⟩ := mem_blocking_iff.mp (List.min?_mem isEarliest)
        exact walk_walked rounds _ (walked.jump isPoint blocks)

theorem clear_walk :
    ∀ (rounds : Nat) (place : Int × Option Int),
      ahead guard points place.1 < rounds → Clear guard points (walk guard points rounds place).1
  | 0, _, enough => absurd enough (Nat.not_lt_zero _)
  | rounds + 1, (day, passed), enough => by
      rw [walk]
      split
      · rename_i nothing
        exact clear_iff_blocking_eq_nil.mpr (List.min?_eq_none_iff.mp nothing)
      · rename_i point isEarliest
        obtain ⟨isPoint, blocks⟩ := mem_blocking_iff.mp (List.min?_mem isEarliest)
        refine clear_walk rounds _ ?_
        exact lt_of_lt_of_le (ahead_lt_of_jump isPoint blocks) (Nat.le_of_lt_succ enough)

theorem ahead_le_length (day : Int) : ahead guard points day ≤ points.length :=
  List.countP_le_length

theorem walk_isLeast (first : Int) :
    IsLeast {day | first ≤ day ∧ Clear guard points day}
      (walk guard points (points.length + 1) (first, none)).1 := by
  have walked : Walked guard points first (walk guard points (points.length + 1) (first, none)) :=
    walk_walked _ _ (Walked.start first)
  refine ⟨⟨walked.notBefore, clear_walk _ _ ?_⟩, ?_⟩
  · exact Nat.lt_succ_of_le (ahead_le_length first)
  · rintro day ⟨fromFirst, clear⟩
    exact not_lt.mp fun before =>
      walked.passedOver day fromFirst before clear

theorem walk_congr {others : List Int} (same : points.Perm others) :
    ∀ (rounds : Nat) (place : Int × Option Int),
      walk guard points rounds place = walk guard others rounds place
  | 0, _ => rfl
  | rounds + 1, (day, passed) => by
      have sameEarliest : (blocking guard points day).min? = (blocking guard others day).min? :=
        min?_eq_of_perm (same.filter _)
      rw [walk, walk, sameEarliest]
      split
      · rfl
      · exact walk_congr same rounds _

end ClearDays
