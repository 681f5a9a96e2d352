import Mathlib.Data.List.Sort

namespace Watermark

/-!
# Reading in the order of the stamps

A reader that takes what is stamped up to one point in the order of the
stamps, and later what is stamped past it, has taken everything in the order
of the stamps.
-/

variable {Value Time : Type} [LinearOrder Time] (stamp : Value → Time)

def inStampOrder (values : List Value) : List Value :=
  values.insertionSort fun first second => stamp first ≤ stamp second

theorem inStampOrder_perm (values : List Value) : (inStampOrder stamp values).Perm values :=
  List.perm_insertionSort _ values

variable {stamp} in
theorem mem_inStampOrder {value : Value} {values : List Value} :
    value ∈ inStampOrder stamp values ↔ value ∈ values :=
  (inStampOrder_perm stamp values).mem_iff

variable {value : Value}

theorem orderedInsert_append_of_forall_le (early : List Value) {late : List Value}
    (before : ∀ other ∈ late, stamp value ≤ stamp other) :
    (early ++ late).orderedInsert (fun first second => stamp first ≤ stamp second) value =
      early.orderedInsert (fun first second => stamp first ≤ stamp second) value ++ late := by
  induction early with
  | nil =>
    cases late with
    | nil => rfl
    | cons other rest =>
      rw [List.nil_append, List.orderedInsert_cons, if_pos (before other List.mem_cons_self)]
      rfl
  | cons other rest inductionHypothesis =>
    simp only [List.cons_append, List.orderedInsert_cons, inductionHypothesis]
    split <;> rfl

theorem orderedInsert_append_of_forall_lt {early : List Value} (late : List Value)
    (after : ∀ other ∈ early, stamp other < stamp value) :
    (early ++ late).orderedInsert (fun first second => stamp first ≤ stamp second) value =
      early ++ late.orderedInsert (fun first second => stamp first ≤ stamp second) value := by
  induction early with
  | nil => rfl
  | cons other rest inductionHypothesis =>
    have first := after other List.mem_cons_self
    rw [List.cons_append, List.orderedInsert_cons, if_neg (not_le_of_gt first),
      inductionHypothesis fun query inRest =>
        after query (List.mem_cons_of_mem _ inRest),
      List.cons_append]

theorem inStampOrder_split (values : List Value) (point : Time) :
    inStampOrder stamp values =
      inStampOrder stamp (values.filter fun value => stamp value ≤ point) ++
        inStampOrder stamp (values.filter fun value => point < stamp value) := by
  induction values with
  | nil => rfl
  | cons value rest inductionHypothesis =>
    have sorted :
        inStampOrder stamp (value :: rest) = (inStampOrder stamp rest).orderedInsert
            (fun first second => stamp first ≤ stamp second) value :=
      rfl
    by_cases early : stamp value ≤ point
    · rw [sorted, inductionHypothesis,
        orderedInsert_append_of_forall_le stamp, List.filter_cons_of_pos,
        List.filter_cons_of_neg]
      · rfl
      · simpa using early
      · simpa using early
      · intro other isLate
        have past := (List.mem_filter.mp (mem_inStampOrder.mp isLate)).2
        exact le_of_lt (lt_of_le_of_lt early (of_decide_eq_true past))
    · rw [sorted, inductionHypothesis,
        orderedInsert_append_of_forall_lt stamp, List.filter_cons_of_neg,
        List.filter_cons_of_pos]
      · rfl
      · simpa using early
      · simpa using early
      · intro other isEarly
        have upTo := (List.mem_filter.mp (mem_inStampOrder.mp isEarly)).2
        exact lt_of_le_of_lt (of_decide_eq_true upTo) (not_le.mp early)

theorem filter_orderedInsert (value : Value) (time : Time) (values : List Value) :
    (values.orderedInsert (fun first second => stamp first ≤ stamp second) value).filter
        (fun other => stamp other = time) =
      (value :: values).filter fun other => stamp other = time := by
  induction values with
  | nil => rfl
  | cons first rest inductionHypothesis =>
    rw [List.orderedInsert_cons]
    split
    · rfl
    · rename_i later
      rw [List.filter_cons, inductionHypothesis, List.filter_cons, List.filter_cons]
      by_cases isValue : stamp value = time
      · have isFirst : stamp first ≠ time := fun same =>
          later (le_of_eq (isValue.trans same.symm))
        simp [isValue, isFirst]
      · simp [isValue, List.filter_cons]

theorem filter_inStampOrder (values : List Value) (time : Time) :
    (inStampOrder stamp values).filter (fun value => stamp value = time) =
      values.filter fun value => stamp value = time := by
  induction values with
  | nil => rfl
  | cons value rest inductionHypothesis =>
    have sorted :
        inStampOrder stamp (value :: rest) = (inStampOrder stamp rest).orderedInsert
            (fun first second => stamp first ≤ stamp second) value :=
      rfl
    rw [sorted, filter_orderedInsert, List.filter_cons, List.filter_cons, inductionHypothesis]

theorem inStampOrder_pairwise (values : List Value) :
    (inStampOrder stamp values).Pairwise fun first second =>
      stamp first ≤ stamp second := by
  have isTotal : Std.Total fun first second : Value =>
      stamp first ≤ stamp second :=
    ⟨fun first second => le_total (stamp first) (stamp second)⟩
  have isTrans : IsTrans Value fun first second =>
      stamp first ≤ stamp second :=
    ⟨fun _ _ _ first second => first.trans second⟩
  exact List.pairwise_insertionSort _ values

theorem map_stamp_inStampOrder (values : List Value) :
    (inStampOrder stamp values).map stamp = (values.map stamp).insertionSort (· ≤ ·) :=
  List.map_insertionSort _ _ stamp values fun _ _ _ _ => Iff.rfl

end Watermark
