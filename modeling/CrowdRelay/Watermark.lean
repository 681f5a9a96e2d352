import Mathlib.Data.List.Basic
import Mathlib.Order.Lattice

namespace Watermark

/-!
# Readers that go by a watermark

A value is written under a stamp, and a reader takes it when the stamp is past
the reader's watermark.  What is still to be read only grows by what is
written under a fresh stamp, and a reading that moves the watermark to the
stamp takes it away.
-/

variable {Value Time : Type} [LinearOrder Time] {watermark later : Time}
  {stamp stampAfter : Option Time} {value valueAfter : Option Value}

/-- The stamp is past the watermark. -/
def Fresh (watermark : Time) (stamp : Option Time) : Prop :=
  ∃ time, stamp = some time ∧ watermark < time

instance (watermark : Time) (stamp : Option Time) : Decidable (Fresh watermark stamp) :=
  match stamp with
  | none => isFalse fun ⟨_, absent, _⟩ => by cases absent
  | some time =>
    if past : watermark < time then
      isTrue ⟨time, rfl, past⟩
    else
      isFalse fun ⟨_, same, past'⟩ => past (Option.some.inj same ▸ past')

@[simp] theorem not_fresh_none : ¬ Fresh watermark (none : Option Time) := by
  rintro ⟨_, absent, _⟩
  cases absent

@[simp] theorem fresh_some {time : Time} : Fresh watermark (some time) ↔ watermark < time := by
  constructor
  · rintro ⟨_, same, past⟩
    rw [Option.some.inj same]
    exact past
  · intro past
    exact ⟨time, rfl, past⟩

variable {other : Option Time}

theorem Fresh.max_left (fresh : Fresh watermark stamp) : Fresh watermark (max stamp other) := by
  obtain ⟨time, rfl, past⟩ := fresh
  cases other with
  | none => exact fresh_some.mpr past
  | some second =>
    exact fresh_some.mpr (lt_of_lt_of_le past (le_max_left time second))

theorem Fresh.max_right (fresh : Fresh watermark stamp) : Fresh watermark (max other stamp) := by
  obtain ⟨time, rfl, past⟩ := fresh
  cases other with
  | none => exact fresh_some.mpr past
  | some first =>
    exact fresh_some.mpr (lt_of_lt_of_le past (le_max_right first time))

/-- What a reader at the watermark has still to read. -/
def due (watermark : Time) (stamp : Option Time)
    (value : Option Value) : List Value :=
  if Fresh watermark stamp then value.toList else []

/-- A reader without a watermark reads everything. -/
def dueSince (watermark : Option Time) (stamp : Option Time)
    (value : Option Value) : List Value :=
  match watermark with
  | none => value.toList
  | some watermark => due watermark stamp value

/-- What a change of a column writes. -/
def written [DecidableEq Value] (before after : Option Value) : List Value :=
  if before = after then [] else after.toList

/-- What a change of a column writes under a stamp past the watermark. -/
def writtenOnTime [DecidableEq Value] (watermark : Time) (stamp : Option Time)
    (before after : Option Value) : List Value :=
  if Fresh watermark stamp then written before after else []

theorem due_of_not_fresh (stale : ¬ Fresh watermark stamp) : due watermark stamp value = [] :=
  if_neg stale

@[simp] theorem due_unwritten : due watermark stamp (none : Option Value) = [] := by
  simp [due]

theorem due_of_passed (passed : ∀ time, stamp = some time → time ≤ watermark) :
    due watermark stamp value = [] := by
  refine due_of_not_fresh ?_
  rintro ⟨time, isStamp, past⟩
  exact not_lt_of_ge (passed time isStamp) past

section Writing

variable [DecidableEq Value]

@[simp] theorem written_self : written value value = [] := if_pos rfl

theorem written_of_none : written (none : Option Value) value = value.toList := by
  cases value with
  | none => exact written_self
  | some value => exact if_neg (by simp)

theorem writtenOnTime_sublist (before after : Option Value) :
    (writtenOnTime watermark stamp before after).Sublist (written before after) := by
  simp only [writtenOnTime]
  split
  · exact List.Sublist.refl _
  · exact List.nil_sublist _

/--
When a value stays once it is written, and its stamp with it, what is due
grows by exactly what is written on time.
-/
theorem due_after_write
    (kept : ∀ held, value = some held → valueAfter = value ∧ stampAfter = stamp) :
    due watermark stampAfter valueAfter =
      due watermark stamp value ++ writtenOnTime watermark stampAfter value valueAfter := by
  cases value with
  | none =>
    rw [due_unwritten, List.nil_append, writtenOnTime, written_of_none]
    rfl
  | some held =>
    obtain ⟨sameValue, sameStamp⟩ := kept held rfl
    rw [sameValue, sameStamp, writtenOnTime, written_self]
    simp

theorem writtenOnTime_eq_iff {before after : Option Value} :
    writtenOnTime watermark stamp before after = written before after ↔
      (written before after = [] ∨ Fresh watermark stamp) := by
  by_cases fresh : Fresh watermark stamp
  · simp [writtenOnTime, fresh]
  · simp only [writtenOnTime, fresh, or_false]
    exact eq_comm

end Writing

/-- Parts of a list make up the whole exactly when each part is whole. -/
theorem flatMap_eq_iff {Source : Type} {part whole : Source → List Value} {sources : List Source}
    (parts : ∀ source ∈ sources, (part source).Sublist (whole source)) :
    sources.flatMap part = sources.flatMap whole ↔
      ∀ source ∈ sources, part source = whole source := by
  induction sources with
  | nil => simp
  | cons source rest inductionHypothesis =>
    have first := parts source List.mem_cons_self
    have later : ∀ other ∈ rest, (part other).Sublist (whole other) :=
      fun other member => parts other (List.mem_cons_of_mem _ member)
    have laterSublist : (rest.flatMap part).Sublist (rest.flatMap whole) := by
      clear inductionHypothesis parts
      induction rest with
      | nil => exact List.Sublist.refl _
      | cons other rest inductionHypothesis =>
        exact (later other List.mem_cons_self).append
          (inductionHypothesis fun next member => later next (List.mem_cons_of_mem _ member))
    rw [List.flatMap_cons, List.flatMap_cons, List.forall_mem_cons, ← inductionHypothesis later]
    constructor
    · intro same
      have lengths := congrArg List.length same
      rw [List.length_append, List.length_append] at lengths
      have firstLength := first.length_le
      have laterLength := laterSublist.length_le
      exact ⟨first.eq_of_length (by omega), laterSublist.eq_of_length (by omega)⟩
    · rintro ⟨sameFirst, sameLater⟩
      rw [sameFirst, sameLater]

end Watermark
