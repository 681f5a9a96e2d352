import Mathlib.Algebra.BigOperators.Group.List.Basic
import Mathlib.Data.List.AList
import Mathlib.Data.List.Dedup

namespace Grouping

/-!
# Rows grouped in a map

A loop over rows keeps one entry for every key it has met and lets each row
change the entry of its own key.  The map it ends with holds, for every key
of a row, the entry that the rows of that key make of the default one, so
whatever an entry adds up over its rows is added up once over all of them.
-/

variable {Key Row Entry : Type} [DecidableEq Key] [Inhabited Entry]

/-- The entry of a key, the default one if the key was not met. -/
def orDefault (groups : AList fun _ : Key => Entry) (key : Key) : Entry :=
  (groups.lookup key).getD default

variable (key : Row → Key) (add : Entry → Row → Entry)

/-- Lets a row change the entry of its key. -/
def record (groups : AList fun _ : Key => Entry)
    (row : Row) : AList fun _ : Key => Entry :=
  groups.insert (key row) (add (orDefault groups (key row)) row)

variable (rows : List Row)

def group : AList fun _ : Key => Entry := rows.foldl (record key add) ∅

/-- The entries of a map, without their keys. -/
def values (groups : AList fun _ : Key => Entry) : List Entry := groups.entries.map Sigma.snd

/-- What the rows of one key make of the default entry. -/
def share
    (name : Key) : Entry :=
  (rows.filter fun row => decide (key row = name)).foldl add default

section Entries

variable {key : Row → Key} {add : Entry → Row → Entry} (rows : List Row)
  (groups : AList fun _ : Key => Entry)

theorem orDefault_record (row : Row) (name : Key) :
    orDefault (record key add groups row) name =
      if key row = name then
        add (orDefault groups name) row
      else
        orDefault groups name := by
  by_cases same : key row = name
  · subst same
    simp [record, orDefault]
  · have other : name ≠ key row := Ne.symm same
    simp [record, orDefault, AList.lookup_insert_ne other, same]

variable (name : Key)

theorem orDefault_foldl_record :
    orDefault (rows.foldl (record key add) groups) name =
      (rows.filter fun row => decide (key row = name)).foldl add (orDefault groups name) := by
  induction rows generalizing groups with
  | nil => rfl
  | cons row rest inductionHypothesis =>
    rw [List.foldl_cons, inductionHypothesis, orDefault_record]
    by_cases same : key row = name
    · rw [if_pos same, List.filter_cons_of_pos (by simpa using same), List.foldl_cons]
    · rw [if_neg same, List.filter_cons_of_neg (by simpa using same)]

theorem mem_foldl_record :
    name ∈ rows.foldl (record key add) groups ↔ name ∈ rows.map key ∨ name ∈ groups := by
  induction rows generalizing groups with
  | nil => simp
  | cons row rest inductionHypothesis =>
    rw [List.foldl_cons, inductionHypothesis]
    simp only [record, AList.mem_insert, List.map_cons, List.mem_cons]
    tauto

omit [Inhabited Entry] in
theorem lookup_of_mem_entries {groups : AList fun _ : Key => Entry}
    {entry : Sigma fun _ : Key => Entry} (member : entry ∈ groups.entries) :
    groups.lookup entry.1 = some entry.2 :=
  AList.mem_lookup_iff.mpr member

theorem values_eq_map_keys (groups : AList fun _ : Key => Entry) :
    values groups = groups.keys.map (orDefault groups) := by
  unfold values AList.keys List.keys
  rw [List.map_map]
  refine List.map_congr_left ?_
  intro entry member
  simp [orDefault, lookup_of_mem_entries member]

theorem values_group_perm (rows : List Row) :
    (values (group key add rows)).Perm ((rows.map key).dedup.map (share key add rows)) := by
  have sameKeys : (group key add rows).keys.Perm (rows.map key).dedup := by
    refine (List.perm_ext_iff_of_nodup (AList.keys_nodup _) (List.nodup_dedup _)).mpr ?_
    intro name
    rw [← AList.mem_keys, group, mem_foldl_record, List.mem_dedup]
    simp
  have sameEntries : orDefault (group key add rows) = share key add rows := by
    funext name
    exact orDefault_foldl_record rows ∅ name
  rw [values_eq_map_keys, sameEntries]
  exact sameKeys.map _

end Entries

section Rearranged

variable {key : Row → Key} {add : Entry → Row → Entry} {rows others : List Row}

theorem share_perm (same : rows.Perm others)
    (commutes :
      ∀ one other, key one = key other → ∀ entry,
        add (add entry one) other = add (add entry other) one) :
    share key add rows = share key add others := by
  funext name
  refine (same.filter _).foldl_eq' ?_ default
  intro one oneIn other otherIn entry
  have ofOne : key one = name := by simpa using (List.mem_filter.mp oneIn).2
  have ofOther : key other = name := by
    simpa using (List.mem_filter.mp otherIn).2
  exact commutes one other (ofOne.trans ofOther.symm) entry

theorem values_group_perm_of_perm (same : rows.Perm others)
    (commutes :
      ∀ one other, key one = key other → ∀ entry,
        add (add entry one) other = add (add entry other) one) :
    (values (group key add rows)).Perm (values (group key add others)) := by
  have sameShares : share key add rows = share key add others := share_perm same commutes
  have sameKeys := ((same.map key).dedup).map (share key add others)
  have first :
      (values (group key add rows)).Perm ((rows.map key).dedup.map (share key add others)) :=
    sameShares ▸ values_group_perm rows
  exact first.trans (sameKeys.trans (values_group_perm others).symm)

end Rearranged

section Conserved

variable {Amount : Type} [AddCommMonoid Amount] {key : Row → Key}
  {add : Entry → Row → Entry} {read : Entry → Amount} {amount : Row → Amount}

omit [Inhabited Entry] in
theorem read_foldl_add
    (adds : ∀ entry row, read (add entry row) = read entry + amount row) (rows : List Row)
    (entry : Entry) :
    read (rows.foldl add entry) = read entry + (rows.map amount).sum := by
  induction rows generalizing entry with
  | nil => simp
  | cons row rest inductionHypothesis =>
    rw [List.foldl_cons, inductionHypothesis, adds, List.map_cons, List.sum_cons, add_assoc]

theorem read_share (empty : read default = 0)
    (adds : ∀ entry row, read (add entry row) = read entry + amount row) (rows : List Row)
    (name : Key) :
    read (share key add rows name) =
      ((rows.filter fun row => decide (key row = name)).map amount).sum := by
  rw [share, read_foldl_add adds, empty, zero_add]

theorem sum_fibers (amount : Row → Amount) {names : List Key} (distinct : names.Nodup)
    (rows : List Row) (named : ∀ row ∈ rows, key row ∈ names) :
    (names.map fun name =>
        ((rows.filter fun row => decide (key row = name)).map amount).sum).sum =
      (rows.map amount).sum := by
  induction rows with
  | nil => simp
  | cons row rest inductionHypothesis =>
    have split (name : Key) :
        (((row :: rest).filter fun other =>
            decide (key other = name)).map amount).sum =
          (if key row = name then amount row else 0) +
            ((rest.filter fun other =>
              decide (key other = name)).map amount).sum := by
      by_cases same : key row = name <;> simp [same]
    have once :
        (names.map fun name =>
          if key row = name then amount row else 0).sum = amount row := by
      rw [List.sum_map_eq_nsmul_single (key row) _ fun name other _ =>
          if_neg (Ne.symm other),
        List.count_eq_one_of_mem distinct (named row (by simp)),
        if_pos rfl, one_nsmul]
    simp only [split, List.sum_map_add, once]
    rw [inductionHypothesis fun other member =>
        named other (List.mem_cons_of_mem row member),
      List.map_cons, List.sum_cons]

theorem sum_values_group (empty : read default = 0)
    (adds : ∀ entry row, read (add entry row) = read entry + amount row) (rows : List Row) :
    ((values (group key add rows)).map read).sum = (rows.map amount).sum := by
  calc
    ((values (group key add rows)).map read).sum
        = (((rows.map key).dedup.map (share key add rows)).map read).sum :=
      ((values_group_perm rows).map read).sum_eq
    _ = ((rows.map key).dedup.map fun name =>
          ((rows.filter fun row =>
            decide (key row = name)).map amount).sum).sum := by
      rw [List.map_map]
      congr 2
      funext name
      exact read_share empty adds rows name
    _ = (rows.map amount).sum := by
      refine sum_fibers amount (List.nodup_dedup _) rows ?_
      intro row member
      exact List.mem_dedup.mpr (List.mem_map_of_mem member)

end Conserved

end Grouping
