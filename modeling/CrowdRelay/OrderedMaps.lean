import Mathlib.Data.List.Induction
import Mathlib.Data.List.Sort

namespace OrderedMaps

/-!
# Maps in the order of their keys

A map keeps its entries in the order of their keys, each key once, so two maps
that answer every key alike are equal.  Lookups need no order: the lemmas about
them hold for any list of entries, of which the first under a key counts.
-/

section Entries

variable {Key Value : Type} [DecidableEq Key] (key : Key) {entries : List (Key × Value)}

/-- The value under a key. -/
def lookup (key : Key) (entries : List (Key × Value)) : Option Value :=
  (entries.find? fun entry => entry.1 = key).map Prod.snd

@[simp] theorem lookup_nil (key : Key) : lookup key ([] : List (Key × Value)) = none := rfl

theorem lookup_cons (entry : Key × Value) (rest : List (Key × Value)) :
    lookup key (entry :: rest) = if entry.1 = key then some entry.2 else lookup key rest := by
  unfold lookup
  rw [List.find?_cons]
  by_cases here : entry.1 = key
  · simp [here]
  · simp [here]

theorem lookup_eq_none {key : Key} (elsewhere : ∀ entry ∈ entries, entry.1 ≠ key) :
    lookup key entries = none := by
  refine Option.map_eq_none_iff.mpr (List.find?_eq_none.mpr ?_)
  intro entry isThere
  rw [decide_eq_true_eq]
  exact elsewhere entry isThere

/-- Puts another value where a key stands. -/
def replace (key : Key) (value : Value) :
    List (Key × Value) → List (Key × Value)
  | [] => []
  | entry :: rest =>
    if entry.1 = key then (entry.1, value) :: rest else entry :: replace key value rest

@[simp] theorem keys_replace (value : Value) (entries : List (Key × Value)) :
    (replace key value entries).map Prod.fst = entries.map Prod.fst := by
  induction entries with
  | nil => rfl
  | cons entry rest inductionHypothesis =>
    rw [replace]
    split
    · rfl
    · rw [List.map_cons, List.map_cons, inductionHypothesis]

theorem lookup_replace (key other : Key) (value : Value) (entries : List (Key × Value)) :
    lookup other (replace key value entries) =
      if other = key then
        (lookup key entries).map fun _ => value
      else
        lookup other entries := by
  induction entries with
  | nil => simp [replace]
  | cons entry rest inductionHypothesis =>
    rw [replace]
    by_cases here : entry.1 = key
    · rw [if_pos here, lookup_cons, lookup_cons, lookup_cons, if_pos here]
      by_cases isKey : other = key
      · rw [if_pos isKey, if_pos (here.trans isKey.symm)]
        rfl
      · have elsewhere : entry.1 ≠ other := fun same =>
          isKey (same.symm.trans here)
        rw [if_neg isKey, if_neg elsewhere, if_neg elsewhere]
    · rw [if_neg here, lookup_cons, lookup_cons, lookup_cons, if_neg here,
        inductionHypothesis]
      by_cases isKey : other = key
      · subst isKey
        rw [if_neg here, if_pos rfl, if_pos rfl]
      · rw [if_neg isKey, if_neg isKey]

theorem replace_of_lookup {key : Key} {value : Value} (found : lookup key entries = some value) :
    replace key value entries = entries := by
  induction entries with
  | nil => rfl
  | cons entry rest inductionHypothesis =>
    rw [lookup_cons] at found
    rw [replace]
    split
    · rename_i here
      rw [if_pos here] at found
      cases found
      rfl
    · rename_i elsewhere
      rw [if_neg elsewhere] at found
      rw [inductionHypothesis found]

end Entries

variable {Key Value : Type} [LinearOrder Key]

/-- Puts a value under a key, where the order of the keys has it. -/
def insertEntry (key : Key) (value : Value) :
    List (Key × Value) → List (Key × Value)
  | [] => [(key, value)]
  | entry :: rest =>
    if key < entry.1 then
      (key, value) :: entry :: rest
    else if key = entry.1 then
      (key, value) :: rest
    else
      entry :: insertEntry key value rest

theorem lookup_insertEntry (key other : Key) (value : Value) (entries : List (Key × Value)) :
    lookup other (insertEntry key value entries) =
      if other = key then some value else lookup other entries := by
  induction entries with
  | nil => simp [insertEntry, lookup_cons, eq_comm]
  | cons entry rest inductionHypothesis =>
    rw [insertEntry]
    split
    · simp [lookup_cons, eq_comm]
    · split
      · rename_i here
        rw [lookup_cons, lookup_cons, ← here]
        by_cases isKey : other = key
        · simp [isKey]
        · rw [if_neg (Ne.symm isKey), if_neg isKey, if_neg (Ne.symm isKey)]
      · rename_i elsewhere
        rw [lookup_cons, lookup_cons, inductionHypothesis]
        by_cases isKey : other = key
        · subst isKey
          rw [if_neg (Ne.symm elsewhere), if_pos rfl, if_pos rfl]
        · rw [if_neg isKey, if_neg isKey]

variable {key : Key} {value : Value} {entries : List (Key × Value)}

theorem mem_insertEntry {entry : Key × Value} (isThere : entry ∈ insertEntry key value entries) :
    entry = (key, value) ∨ entry ∈ entries := by
  induction entries with
  | nil => exact Or.inl (List.mem_singleton.mp isThere)
  | cons first rest inductionHypothesis =>
    rw [insertEntry] at isThere
    split at isThere
    · exact List.mem_cons.mp isThere
    · split at isThere
      · obtain isNew | isOld := List.mem_cons.mp isThere
        · exact Or.inl isNew
        · exact Or.inr (List.mem_cons_of_mem _ isOld)
      · obtain isFirst | isLater := List.mem_cons.mp isThere
        · exact Or.inr (isFirst ▸ List.mem_cons_self)
        · exact (inductionHypothesis isLater).imp_right
            (List.mem_cons_of_mem _)

theorem insertEntry_increasing (increasing : entries.Pairwise fun one other => one.1 < other.1) :
    (insertEntry key value entries).Pairwise fun one other => one.1 < other.1 := by
  induction entries with
  | nil => exact List.pairwise_singleton _ _
  | cons entry rest inductionHypothesis =>
    obtain ⟨before, restIncreasing⟩ := List.pairwise_cons.mp increasing
    rw [insertEntry]
    split
    · rename_i first
      refine List.pairwise_cons.mpr ⟨fun other isThere => ?_, increasing⟩
      obtain rfl | isLater := List.mem_cons.mp isThere
      · exact first
      · exact lt_trans first (before other isLater)
    · split
      · rename_i here
        refine List.pairwise_cons.mpr ⟨fun other isLater => ?_, restIncreasing⟩
        exact lt_of_eq_of_lt here (before other isLater)
      · rename_i notFirst elsewhere
        refine List.pairwise_cons.mpr ⟨fun other isThere => ?_, inductionHypothesis restIncreasing⟩
        obtain rfl | isLater := mem_insertEntry isThere
        · exact lt_of_le_of_ne (not_lt.mp notFirst) (Ne.symm elsewhere)
        · exact before other isLater

structure OrderedMap (Key Value : Type) [LinearOrder Key] where
  entries : List (Key × Value)
  increasing : entries.Pairwise fun one other => one.1 < other.1

namespace OrderedMap

instance emptyMap : EmptyCollection (OrderedMap Key Value) := ⟨⟨[], List.Pairwise.nil⟩⟩

def get? (map : OrderedMap Key Value) (key : Key) : Option Value := lookup key map.entries

def insert (map : OrderedMap Key Value) (key : Key)
    (value : Value) : OrderedMap Key Value where
  entries := insertEntry key value map.entries
  increasing := insertEntry_increasing map.increasing

/-- The map with the entries of another put over its own. -/
def override (map other : OrderedMap Key Value) : OrderedMap Key Value :=
  other.entries.foldl (fun sofar entry => sofar.insert entry.1 entry.2) map

@[simp] theorem get?_empty (key : Key) : (∅ : OrderedMap Key Value).get? key = none := rfl

variable (map : OrderedMap Key Value)

@[simp] theorem get?_insert (key other : Key) (value : Value) :
    (map.insert key value).get? other = if other = key then some value else map.get? other :=
  lookup_insertEntry key other value map.entries

theorem mem_entries_iff {entry : Key × Value} :
    entry ∈ map.entries ↔ map.get? entry.1 = some entry.2 := by
  obtain ⟨entries, increasing⟩ := map
  simp only [get?]
  induction entries with
  | nil => simp
  | cons first rest inductionHypothesis =>
    obtain ⟨before, restIncreasing⟩ := List.pairwise_cons.mp increasing
    rw [List.mem_cons, lookup_cons]
    split
    · rename_i here
      constructor
      · rintro (rfl | isLater)
        · rfl
        · exact absurd here (ne_of_lt (before entry isLater))
      · intro same
        exact Or.inl (Prod.ext here.symm (Option.some.inj same).symm)
    · rename_i elsewhere
      rw [← inductionHypothesis restIncreasing]
      exact or_iff_right fun same => elsewhere (same ▸ rfl)

theorem ext_get? {map other : OrderedMap Key Value} (same : ∀ key, map.get? key = other.get? key) :
    map = other := by
  have sameEntries : map.entries.Perm other.entries := by
    refine (List.perm_ext_iff_of_nodup ?_ ?_).mpr fun entry => ?_
    · refine map.increasing.imp fun less => ?_
      rintro rfl
      exact lt_irrefl _ less
    · refine other.increasing.imp fun less => ?_
      rintro rfl
      exact lt_irrefl _ less
    · rw [map.mem_entries_iff, other.mem_entries_iff, same]
  have equal : map.entries = other.entries := sameEntries.eq_of_pairwise
      (fun _ _ _ _ less more => absurd less (lt_asymm more))
      map.increasing other.increasing
  cases map
  cases other
  cases equal
  rfl

theorem get?_foldl_insert (key : Key) :
    ∀ (entries : List (Key × Value)) (map : OrderedMap Key Value),
      entries.Pairwise (fun one other => one.1 < other.1) →
        (entries.foldl (fun sofar entry => sofar.insert entry.1 entry.2) map).get? key =
          (lookup key entries).or (map.get? key)
  | [], _, _ => rfl
  | entry :: rest, map, increasing => by
      obtain ⟨before, restIncreasing⟩ := List.pairwise_cons.mp increasing
      rw [List.foldl_cons, get?_foldl_insert key rest _ restIncreasing, get?_insert, lookup_cons]
      by_cases here : entry.1 = key
      · have notLater : lookup key rest = none :=
          lookup_eq_none fun other isLater =>
            here ▸ ne_of_gt (before other isLater)
        rw [notLater, if_pos here, if_pos here.symm]
        rfl
      · rw [if_neg here, if_neg (Ne.symm here)]

theorem get?_override (map other : OrderedMap Key Value) (key : Key) :
    (map.override other).get? key = (other.get? key).or (map.get? key) :=
  get?_foldl_insert key other.entries map other.increasing

def keys (map : OrderedMap Key Value) : List Key := map.entries.map Prod.fst

theorem mem_keys_iff (map : OrderedMap Key Value) {key : Key} :
    key ∈ map.keys ↔ (map.get? key).isSome := by
  rw [keys, List.mem_map, Option.isSome_iff_exists]
  constructor
  · rintro ⟨entry, isEntry, rfl⟩
    exact ⟨entry.2, map.mem_entries_iff.mp isEntry⟩
  · rintro ⟨value, answered⟩
    exact ⟨(key, value), map.mem_entries_iff.mpr answered, rfl⟩

theorem keys_increasing (map : OrderedMap Key Value) : map.keys.Pairwise (· < ·) :=
  List.pairwise_map.mpr map.increasing

theorem keys_eq {Other : Type} {map : OrderedMap Key Value} {other : OrderedMap Key Other}
    (same : ∀ key, (map.get? key).isSome = (other.get? key).isSome) :
    map.keys = other.keys := by
  have sameKeys : map.keys.Perm other.keys := by
    refine (List.perm_ext_iff_of_nodup ?_ ?_).mpr fun key => ?_
    · exact map.keys_increasing.imp fun less => ne_of_lt less
    · exact other.keys_increasing.imp fun less => ne_of_lt less
    · rw [map.mem_keys_iff, other.mem_keys_iff, same]
  exact sameKeys.eq_of_pairwise (fun _ _ _ _ less more => absurd less (lt_asymm more))
      map.keys_increasing other.keys_increasing

theorem filterMap_entries {Output : Type} (read : Key → Value → Option Output)
    (map : OrderedMap Key Value) :
    map.entries.filterMap (fun entry => read entry.1 entry.2) =
      map.keys.filterMap fun key => (map.get? key).bind (read key) := by
  rw [keys, List.filterMap_map]
  refine List.filterMap_congr fun entry isEntry => ?_
  rw [Function.comp_apply, map.mem_entries_iff.mp isEntry]
  rfl

section Groups

variable {Row : Type}

/-- The rows of each key, in the order they come in. -/
def grouped (key : Row → Key) (rows : List Row) : OrderedMap Key (List Row) :=
  rows.foldl
    (fun map row =>
      map.insert (key row) ((map.get? (key row)).getD [] ++ [row]))
    ∅

theorem grouped_concat (key : Row → Key) (rows : List Row) (row : Row) :
    grouped key (rows ++ [row]) = (grouped key rows).insert (key row)
        (((grouped key rows).get? (key row)).getD [] ++ [row]) := by
  rw [grouped, List.foldl_append]
  rfl

theorem get?_grouped (key : Row → Key) (rows : List Row) (name : Key) :
    (grouped key rows).get? name =
      if rows.filter (fun row => key row = name) = [] then
        none
      else
        some (rows.filter fun row => key row = name) := by
  induction rows using List.reverseRecOn with
  | nil => rfl
  | append_singleton earlier row inductionHypothesis =>
    rw [grouped_concat, get?_insert, List.filter_append]
    by_cases here : name = key row
    · subst here
      rw [inductionHypothesis]
      by_cases nothing : earlier.filter (fun other => key other = key row) = []
      · simp [nothing]
      · simp [nothing]
    · have elsewhere : key row ≠ name := fun same => here same.symm
      simp [here, elsewhere, inductionHypothesis]

end Groups

end OrderedMap

end OrderedMaps
