import Mathlib.Algebra.Order.BigOperators.Group.List
import Mathlib.Algebra.Order.Ring.Nat
import CrowdRelay.Grouping
import CrowdRelay.StableRanking

namespace GroupedRanking

/-!
# Rankings of grouped rows

Rows are grouped in a map, the map gives up its entries in an order of its
own, every entry is finished and the entries are ranked by descending value.
The ranking is a function of the rows, whatever their order and the order of
the map, exactly when the entries of no two keys have the same value.
-/

open Grouping StableRanking

variable {Key Row Entry Value : Type} [DecidableEq Key] [Inhabited Entry] [LinearOrder Value]

/-- An order in which a map gives up its entries. -/
structure IterationOrder (Entry : Type) where
  walk : List Entry → List Entry
  walk_perm : ∀ entries, (walk entries).Perm entries

/-- The entries in the order the map holds them in. -/
instance : Inhabited (IterationOrder Entry) :=
  ⟨{ walk := id, walk_perm := fun entries => List.Perm.refl entries }⟩

/-- The order that lists the given entries as they are given. -/
def IterationOrder.as {Entry : Type} [DecidableEq Entry]
    (entries : List Entry) : IterationOrder Entry where
  walk others := if entries.Perm others then entries else others
  walk_perm others := by
    split
    · assumption
    · exact List.Perm.refl others

/-- The entries of the groups, finished and ranked. -/
def breakdown (key : Row → Key) (add : Entry → Row → Entry) (finish : Entry → Entry)
    (value : Entry → Value) (order : IterationOrder Entry)
    (rows : List Row) : List Entry :=
  descending value ((order.walk (values (group key add rows))).map finish)

section Entries

variable {key : Row → Key} {add : Entry → Row → Entry} {finish : Entry → Entry}
  {value : Entry → Value}

theorem breakdown_perm_values (order : IterationOrder Entry) (rows : List Row) :
    (breakdown key add finish value order rows).Perm ((values (group key add rows)).map finish) :=
  (descending_perm value _).trans ((order.walk_perm _).map finish)

theorem breakdown_perm (order : IterationOrder Entry) (rows : List Row) :
    (breakdown key add finish value order rows).Perm
      ((rows.map key).dedup.map fun name =>
        finish (share key add rows name)) := by
  have walked :
      (breakdown key add finish value order rows).Perm ((values (group key add rows)).map finish) :=
    breakdown_perm_values order rows
  have grouped :
      (values (group key add rows)).Perm ((rows.map key).dedup.map (share key add rows)) :=
    values_group_perm rows
  have finished := grouped.map finish
  rw [List.map_map] at finished
  exact walked.trans finished

section Sums

variable {Amount : Type} [AddCommMonoid Amount] {read : Entry → Amount} {amount : Row → Amount}

theorem sum_breakdown_keys (read : Entry → Amount) (order : IterationOrder Entry)
    (rows : List Row) :
    ((breakdown key add finish value order rows).map read).sum =
      ((rows.map key).dedup.map fun name =>
        read (finish (share key add rows name))).sum := by
  have entries :
      (breakdown key add finish value order rows).Perm
        ((rows.map key).dedup.map fun name =>
          finish (share key add rows name)) :=
    breakdown_perm order rows
  have same := (entries.map read).sum_eq
  rw [List.map_map] at same
  exact same

theorem sum_breakdown (kept : ∀ entry, read (finish entry) = read entry) (empty : read default = 0)
    (adds : ∀ entry row, read (add entry row) = read entry + amount row)
    (order : IterationOrder Entry) (rows : List Row) :
    ((breakdown key add finish value order rows).map read).sum = (rows.map amount).sum := by
  have entries :
      (breakdown key add finish value order rows).Perm ((values (group key add rows)).map finish) :=
    breakdown_perm_values order rows
  have sameField : read ∘ finish = read := by
    funext entry
    exact kept entry
  rw [(entries.map read).sum_eq, List.map_map, sameField, sum_values_group empty adds]

end Sums

end Entries

section Counters

variable {key : Row → Key} {add : Entry → Row → Entry} {finish : Entry → Entry}
  {value : Entry → Value} {count : Entry → UInt32}

/-- No key has more rows than a counter of 32 bits can count. -/
def CountersHold (key : Row → Key) (rows : List Row) : Prop :=
  ∀ row ∈ rows, (rows.filter fun other => decide (key other = key row)).length < 2 ^ 32

omit [Inhabited Entry] in
theorem toNat_count_foldl (counts : ∀ entry row, count (add entry row) = count entry + 1)
    (rows : List Row) (entry : Entry) :
    (count (rows.foldl add entry)).toNat = ((count entry).toNat + rows.length) % 2 ^ 32 := by
  induction rows generalizing entry with
  | nil => exact (Nat.mod_eq_of_lt (count entry).toNat_lt).symm
  | cons row rest inductionHypothesis =>
    have next : (count (add entry row)).toNat = ((count entry).toNat + 1) % 2 ^ 32 := by
      rw [counts, UInt32.toNat_add]
      rfl
    rw [List.foldl_cons, inductionHypothesis, next, Nat.mod_add_mod,
      List.length_cons, Nat.add_assoc, Nat.add_comm 1]

omit [DecidableEq Key] in
theorem sum_mod_eq_iff {size : Nat} (positive : 0 < size) (number : Key → Nat) (names : List Key) :
    (names.map fun name => number name % size).sum = (names.map number).sum ↔
      ∀ name ∈ names, number name < size := by
  constructor
  · intro same name member
    by_contra large
    have drops : number name % size < number name :=
      (Nat.mod_lt _ positive).trans_le (not_lt.mp large)
    have less : (names.map fun name => number name % size).sum < (names.map number).sum :=
      List.sum_lt_sum _ number (fun other _ => Nat.mod_le _ _) ⟨name, member, drops⟩
    exact less.ne same
  · intro small
    congr 1
    refine List.map_congr_left ?_
    intro name member
    exact Nat.mod_eq_of_lt (small name member)

/-- The counters add up to the rows exactly while none of them wraps. -/
theorem sum_counts_eq_iff (kept : ∀ entry, count (finish entry) = count entry)
    (empty : count default = 0) (counts : ∀ entry row, count (add entry row) = count entry + 1)
    (order : IterationOrder Entry) (rows : List Row) :
    ((breakdown key add finish value order rows).map fun entry =>
          (count entry).toNat).sum = rows.length ↔
      CountersHold key rows := by
  have wraps (name : Key) :
      (count (finish (share key add rows name))).toNat =
        (rows.filter fun row => decide (key row = name)).length % 2 ^ 32 := by
    rw [kept, share, toNat_count_foldl counts, empty]
    simp
  have named (row : Row) (member : row ∈ rows) : key row ∈ (rows.map key).dedup :=
    List.mem_dedup.mpr (List.mem_map_of_mem member)
  have everyRow :
      ((rows.map key).dedup.map fun name =>
        (rows.filter fun row => decide (key row = name)).length).sum = rows.length := by
    have fibers := sum_fibers (fun _ : Row => 1) (List.nodup_dedup _) rows named
    simpa using fibers
  rw [sum_breakdown_keys]
  simp only [wraps]
  rw [← everyRow, sum_mod_eq_iff (by decide)]
  constructor
  · intro small row member
    exact small (key row) (named row member)
  · intro holds name member
    obtain ⟨row, rowIn, rfl⟩ := List.mem_map.mp (List.mem_dedup.mp member)
    exact holds row rowIn

end Counters

section Order

variable {key : Row → Key} {add : Entry → Row → Entry} {finish : Entry → Entry}
  {value : Entry → Value} {name : Entry → Key}
  (named : ∀ entry row, name (finish (add entry row)) = key row) {rows : List Row}

omit [LinearOrder Value] in
include named in
theorem name_finish_share {row : Row} (member : row ∈ rows) :
    name (finish (share key add rows (key row))) = key row := by
  have nonempty : (rows.filter fun other => decide (key other = key row)) ≠ [] :=
    List.ne_nil_of_mem (List.mem_filter.mpr ⟨member, by simp⟩)
  obtain ⟨before, last, split⟩ := List.eq_nil_or_concat' _ |>.resolve_left nonempty
  have lastIn : last ∈ rows.filter fun other => decide (key other = key row) := by
    simp [split]
  have sameKey : key last = key row := by
    simpa using (List.mem_filter.mp lastIn).2
  rw [share, split, List.foldl_append, List.foldl_cons, List.foldl_nil, named, sameKey]

include named in
theorem finished_nodup (rows : List Row) : ((values (group key add rows)).map finish).Nodup := by
  have bears :
      (((values (group key add rows)).map finish).map name).Perm ((rows.map key).dedup.map id) := by
    refine (((values_group_perm rows).map finish).map name).trans ?_
    rw [List.map_map, List.map_map]
    refine List.Perm.of_eq (List.map_congr_left ?_)
    intro met member
    obtain ⟨row, rowIn, rfl⟩ := List.mem_map.mp (List.mem_dedup.mp member)
    exact name_finish_share named rowIn
  rw [List.map_id] at bears
  exact List.Nodup.of_map name (bears.nodup_iff.mpr (List.nodup_dedup _))

/-- No two keys have entries of the same value. -/
def KeysUntied (key : Row → Key) (add : Entry → Row → Entry) (finish : Entry → Entry)
    (value : Entry → Value)
    (rows : List Row) : Prop :=
  ∀ one ∈ rows, ∀ other ∈ rows,
    value (finish (share key add rows (key one))) =
        value (finish (share key add rows (key other))) →
      key one = key other

theorem mem_values_group {entry : Entry} :
    entry ∈ values (group key add rows) ↔ ∃ row ∈ rows, share key add rows (key row) = entry := by
  rw [(values_group_perm rows).mem_iff, List.mem_map]
  simp only [List.mem_dedup, List.mem_map]
  constructor
  · rintro ⟨_, ⟨row, member, rfl⟩, same⟩
    exact ⟨row, member, same⟩
  · rintro ⟨row, member, same⟩
    exact ⟨key row, ⟨row, member, rfl⟩, same⟩

theorem breakdown_eq_of_perm {others : List Row} (untied : KeysUntied key add finish value rows)
    (commutes :
      ∀ one other, key one = key other → ∀ entry,
        add (add entry one) other = add (add entry other) one)
    (same : rows.Perm others)
    (first second : IterationOrder Entry) :
    breakdown key add finish value first rows = breakdown key add finish value second others := by
  have sameEntries :
      (first.walk (values (group key add rows))).Perm
        (second.walk (values (group key add others))) :=
    (first.walk_perm _).trans
      ((values_group_perm_of_perm same commutes).trans (second.walk_perm _).symm)
  refine descending_eq_of_perm ?_ (sameEntries.map finish)
  -- entries of one value are of one key, so they are one entry
  intro one oneIn other otherIn tied
  obtain ⟨oneEntry, oneWalked, rfl⟩ := List.mem_map.mp oneIn
  obtain ⟨otherEntry, otherWalked, rfl⟩ := List.mem_map.mp otherIn
  obtain ⟨oneRow, oneMet, rfl⟩ := mem_values_group.mp ((first.walk_perm _).mem_iff.mp oneWalked)
  obtain ⟨otherRow, otherMet, rfl⟩ :=
    mem_values_group.mp ((first.walk_perm _).mem_iff.mp otherWalked)
  rw [untied oneRow oneMet otherRow otherMet tied]

theorem breakdown_as [DecidableEq Entry] (finish : Entry → Entry) (value : Entry → Value)
    {entries : List Entry} (listed : entries.Perm (values (group key add rows))) :
    breakdown key add finish value (IterationOrder.as entries) rows =
      descending value (entries.map finish) := by
  simp only [breakdown, IterationOrder.as, if_pos listed]

include named in
theorem keysUntied_of_eq
    (forgets :
      ∀ first second : IterationOrder Entry,
        breakdown key add finish value first rows = breakdown key add finish value second rows) :
    KeysUntied key add finish value rows := by
  classical
  intro one oneIn other otherIn tied
  by_contra differentKeys
  have differentEntries : share key add rows (key one) ≠ share key add rows (key other) := by
    intro same
    apply differentKeys
    rw [← name_finish_share named oneIn, same, name_finish_share named otherIn]
  obtain ⟨rest, front⟩ := exists_front (mem_values_group.mpr ⟨one, oneIn, rfl⟩)
      (mem_values_group.mpr ⟨other, otherIn, rfl⟩) differentEntries
  -- one map may give up either of the two first
  have swapped := front.trans (List.Perm.swap _ _ rest)
  have distinct := (front.map finish).nodup_iff.mp (finished_nodup named rows)
  refine descending_ne_of_tie distinct tied ?_
  have oneFirst := breakdown_as finish value front.symm
  have otherFirst := breakdown_as finish value swapped.symm
  exact oneFirst.symm.trans ((forgets _ _).trans otherFirst)

end Order

end GroupedRanking
