import Mathlib.Data.List.Nodup

namespace KeyedTable

/-!
# Tables with a unique key

A table is the list of its rows in the order of their insertion.  An insert
that finds its key leaves the table as it is, and an update changes rows one
by one without moving them.
-/

variable {Row Key : Type} {key : Row → Key} {rows more : List Row} {row other : Row}

/-- No two rows share a key. -/
def Unique (key : Row → Key) (rows : List Row) : Prop := (rows.map key).Nodup

theorem unique_nil : Unique key [] := List.nodup_nil

section

variable (unique : Unique key rows)
include unique

theorem Unique.eq_of_key_eq (first : row ∈ rows) (second : other ∈ rows)
    (same : key row = key other) :
    row = other :=
  List.inj_on_of_nodup_map unique first second same

theorem Unique.map {update : Row → Row} (keeps : ∀ row ∈ rows, key (update row) = key row) :
    Unique key (rows.map update) := by
  have same : (rows.map update).map key = rows.map key := by
    rw [List.map_map]
    exact List.map_congr_left keeps
  rw [Unique, same]
  exact unique

theorem Unique.filter (keeps : Row → Bool) : Unique key (rows.filter keeps) :=
  List.Nodup.sublist ((List.filter_sublist).map key) unique

theorem Unique.append_singleton (fresh : ∀ other ∈ rows, key other ≠ key row) :
    Unique key (rows ++ [row]) := by
  rw [Unique, List.map_append, List.map_singleton, List.nodup_append]
  refine ⟨unique, by simp, ?_⟩
  rintro first isOld second isNew same
  obtain ⟨other, member, rfl⟩ := List.mem_map.mp isOld
  exact fresh other member (same.trans (List.mem_singleton.mp isNew))

end

variable [DecidableEq Key]

def insertUnlessPresent (key : Row → Key) (row : Row)
    (rows : List Row) : List Row :=
  if key row ∈ rows.map key then rows else rows ++ [row]

theorem insertUnlessPresent_of_mem (present : key row ∈ rows.map key) :
    insertUnlessPresent key row rows = rows :=
  if_pos present

theorem insertUnlessPresent_of_not_mem (absent : key row ∉ rows.map key) :
    insertUnlessPresent key row rows = rows ++ [row] :=
  if_neg absent

theorem Unique.insertUnlessPresent (unique : Unique key rows) :
    Unique key (insertUnlessPresent key row rows) := by
  by_cases present : key row ∈ rows.map key
  · rw [insertUnlessPresent_of_mem present]
    exact unique
  · rw [insertUnlessPresent_of_not_mem present]
    refine unique.append_singleton fun other member same => ?_
    exact present (List.mem_map.mpr ⟨other, member, same⟩)

theorem subset_insertUnlessPresent : rows ⊆ insertUnlessPresent key row rows := by
  intro other member
  unfold KeyedTable.insertUnlessPresent
  split
  · exact member
  · exact List.mem_append_left _ member

theorem eq_or_mem_of_mem_insertUnlessPresent (member : other ∈ insertUnlessPresent key row rows) :
    other = row ∧ key row ∉ rows.map key ∨ other ∈ rows := by
  by_cases present : key row ∈ rows.map key
  · rw [insertUnlessPresent_of_mem present] at member
    exact Or.inr member
  · rw [insertUnlessPresent_of_not_mem present] at member
    rcases List.mem_append.mp member with isOld | isNew
    · exact Or.inr isOld
    · exact Or.inl ⟨List.mem_singleton.mp isNew, present⟩

theorem key_mem_insertUnlessPresent : key row ∈ (insertUnlessPresent key row rows).map key := by
  by_cases present : key row ∈ rows.map key
  · rw [insertUnlessPresent_of_mem present]
    exact present
  · rw [insertUnlessPresent_of_not_mem present]
    exact List.mem_map.mpr ⟨row, by simp, rfl⟩

/-- Inserts a list of rows in their order. -/
def insertAll (key : Row → Key)
    (rows more : List Row) : List Row :=
  more.foldl (fun table row => insertUnlessPresent key row table) rows

theorem Unique.insertAll (unique : Unique key rows) : Unique key (insertAll key rows more) := by
  induction more generalizing rows with
  | nil => exact unique
  | cons row rest inductionHypothesis =>
    exact inductionHypothesis unique.insertUnlessPresent

theorem subset_insertAll : rows ⊆ insertAll key rows more := by
  induction more generalizing rows with
  | nil => exact List.Subset.refl _
  | cons row rest inductionHypothesis =>
    exact List.Subset.trans subset_insertUnlessPresent inductionHypothesis

theorem key_mem_insertAll (member : row ∈ more) : key row ∈ (insertAll key rows more).map key := by
  induction more generalizing rows with
  | nil => cases member
  | cons first rest inductionHypothesis =>
    rcases List.mem_cons.mp member with isFirst | inRest
    · subst isFirst
      have inserted : key row ∈ (insertUnlessPresent key row rows).map key :=
        key_mem_insertUnlessPresent
      obtain ⟨kept, isKept, same⟩ := List.mem_map.mp inserted
      have stays : kept ∈ insertAll key (insertUnlessPresent key row rows) rest :=
        subset_insertAll isKept
      exact List.mem_map.mpr ⟨kept, stays, same⟩
    · exact inductionHypothesis inRest

end KeyedTable
