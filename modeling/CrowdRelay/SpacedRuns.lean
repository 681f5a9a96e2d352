import Mathlib.Algebra.Order.Group.Defs
import CrowdRelay.StampOrder

namespace SpacedRuns

/-!
# Values after a rest

In a list in the order of its stamps, a value comes after a rest if its stamp
is far enough from the one before it.  Which stamps come after a rest is a
matter of the stamps alone; which value of such a stamp does is the first one
the list holds.
-/

variable {Value Time : Type} [AddCommGroup Time] [LinearOrder Time]

section Rested

variable (rest : Time) (stamp : Value → Time) {value : Value}

/-- The values that come after a rest. -/
def rested : List Value → List Value
  | [] => []
  | [_] => []
  | before :: value :: later =>
    if rest ≤ stamp value - stamp before then
      value :: rested (value :: later)
    else
      rested (value :: later)

def restedStamps (stamps : List Time) : List Time := rested rest id stamps

variable {rest stamp}

theorem map_stamp_rested :
    ∀ values : List Value,
      (rested rest stamp values).map stamp = restedStamps rest (values.map stamp)
  | [] => rfl
  | [_] => rfl
  | before :: value :: later => by
      have tail := map_stamp_rested (value :: later)
      simp only [restedStamps, List.map_cons] at tail ⊢
      rw [rested, rested, ← tail]
      simp only [id]
      split <;> rfl

theorem map_snd_filter_zip_tail :
    ∀ values : List Value,
      ((values.zip values.tail).filter fun pair =>
          decide (rest ≤ stamp pair.2 - stamp pair.1)).map Prod.snd =
        rested rest stamp values
  | [] => rfl
  | [_] => rfl
  | before :: value :: later => by
      have tail := map_snd_filter_zip_tail (value :: later)
      rw [List.tail_cons, List.zip_cons_cons, List.filter_cons, rested]
      by_cases afterRest : rest ≤ stamp value - stamp before
      · simp only [afterRest, decide_true, if_true, List.map_cons]
        rw [← tail]
        rfl
      · simp only [afterRest, decide_false, Bool.false_eq_true, if_false]
        exact tail

theorem mem_of_mem_rested :
    ∀ {values : List Value}, value ∈ rested rest stamp values → value ∈ values
  | before :: second :: later, isRested => by
      rw [rested] at isRested
      split at isRested
      · obtain rfl | isLater := List.mem_cons.mp isRested
        · exact List.mem_cons_of_mem _ List.mem_cons_self
        · exact List.mem_cons_of_mem _ (mem_of_mem_rested isLater)
      · exact List.mem_cons_of_mem _ (mem_of_mem_rested isRested)

variable [IsOrderedAddMonoid Time]

theorem lt_of_mem_rested (isRest : 0 < rest) :
    ∀ {first : Value} {later : List Value},
      (first :: later).Pairwise (fun one other => stamp one ≤ stamp other) →
      value ∈ rested rest stamp (first :: later) → stamp first < stamp value
  | first, second :: later, inOrder, isRested => by
      obtain ⟨notAfter, laterInOrder⟩ := List.pairwise_cons.mp inOrder
      have firstLe : stamp first ≤ stamp second := notAfter second List.mem_cons_self
      rw [rested] at isRested
      split at isRested
      · rename_i afterRest
        obtain rfl | isLater := List.mem_cons.mp isRested
        · exact sub_pos.mp (lt_of_lt_of_le isRest afterRest)
        · exact lt_of_le_of_lt firstLe
            (lt_of_mem_rested isRest laterInOrder isLater)
      · exact lt_of_le_of_lt firstLe
          (lt_of_mem_rested isRest laterInOrder isRested)

theorem find?_of_mem_rested (isRest : 0 < rest) :
    ∀ {values : List Value},
      values.Pairwise (fun one other => stamp one ≤ stamp other) →
      value ∈ rested rest stamp values →
        values.find? (fun other => stamp other = stamp value) = some value
  | first :: second :: later, inOrder, isRested => by
      have after := lt_of_mem_rested isRest inOrder isRested
      obtain ⟨notAfter, laterInOrder⟩ := List.pairwise_cons.mp inOrder
      rw [List.find?_cons_of_neg (by simpa using ne_of_lt after)]
      rw [rested] at isRested
      split at isRested
      · obtain rfl | isLater := List.mem_cons.mp isRested
        · exact List.find?_cons_of_pos (by simp)
        · exact find?_of_mem_rested isRest laterInOrder isLater
      · exact find?_of_mem_rested isRest laterInOrder isRested

theorem rested_eq_filterMap (isRest : 0 < rest) {values : List Value}
    (inOrder : values.Pairwise fun one other => stamp one ≤ stamp other) :
    rested rest stamp values = (restedStamps rest (values.map stamp)).filterMap fun time =>
        values.find? fun value => stamp value = time := by
  rw [← map_stamp_rested, List.filterMap_map]
  have found :
      (rested rest stamp values).filterMap
          ((fun time => values.find? fun value => stamp value = time) ∘ stamp) =
        (rested rest stamp values).filterMap some :=
    List.filterMap_congr fun value isRested =>
      find?_of_mem_rested isRest inOrder isRested
  rw [found, List.filterMap_some]

end Rested

end SpacedRuns
