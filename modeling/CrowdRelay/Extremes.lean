import Mathlib.Data.List.Induction
import Mathlib.Order.Compare
import Mathlib.Order.MinMax
import Mathlib.Data.List.Perm.Basic

namespace Extremes

/-!
# The greatest and the least item of a list

An iterator's maximum under a comparison keeps the last of several greatest
items, its minimum the first of several least ones.  Which of them is kept
depends on the order of the list only where two items compare equal.
-/

variable {Item : Type} (order : Item → Item → Ordering) (held next : Item)

/-- The later of two items that compare equal, the greater one otherwise. -/
def laterGreater :
    Item :=
  match order held next with
  | .gt => held
  | .lt | .eq => next

/-- The last of the greatest items. -/
def maxBy (order : Item → Item → Ordering) : List Item → Option Item
  | [] => none
  | first :: rest => some (rest.foldl (laterGreater order) first)

/-- The last of the items with the greatest key. -/
def maxByKey {Key : Type} [Ord Key] (key : Item → Key) : List Item → Option Item :=
  maxBy fun left right => compare (key left) (key right)

/-- The earlier of two items that compare equal, the lesser one otherwise. -/
def earlierLesser :
    Item :=
  match order held next with
  | .gt => next
  | .lt | .eq => held

/-- The first of the least items. -/
def minBy (order : Item → Item → Ordering) : List Item → Option Item
  | [] => none
  | first :: rest => some (rest.foldl (earlierLesser order) first)

section Membership

variable {order : Item → Item → Ordering} {items : List Item}

theorem laterGreater_mem {held next : Item} (heldMember : held ∈ items)
    (nextMember : next ∈ items) :
    laterGreater order held next ∈ items := by
  unfold laterGreater
  split <;> assumption

theorem foldl_chosen_mem {choose : Item → Item → Item}
    (chooses : ∀ held next, held ∈ items → next ∈ items → choose held next ∈ items)
    {rest : List Item} (within : ∀ item ∈ rest, item ∈ items) {held : Item}
    (heldMember : held ∈ items) :
    rest.foldl choose held ∈ items := by
  induction rest generalizing held with
  | nil => exact heldMember
  | cons next later inductionHypothesis =>
    have nextMember : next ∈ items := within next (List.mem_cons_self ..)
    exact inductionHypothesis (fun item member => within item (List.mem_cons_of_mem _ member))
      (chooses held next heldMember nextMember)

theorem maxBy_mem {best : Item} (isBest : maxBy order items = some best) : best ∈ items := by
  cases items with
  | nil => simp [maxBy] at isBest
  | cons first rest =>
    simp only [maxBy, Option.some.injEq] at isBest
    rw [← isBest]
    exact foldl_chosen_mem
      (fun _ _ heldMember nextMember =>
        laterGreater_mem heldMember nextMember)
      (fun _ member => List.mem_cons_of_mem _ member)
      (List.mem_cons_self ..)

@[simp] theorem maxBy_eq_none_iff {items : List Item} : maxBy order items = none ↔ items = [] := by
  cases items <;> simp [maxBy]

theorem maxBy_concat (front : List Item) (last : Item) :
    maxBy order (front ++ [last]) =
      match maxBy order front with
      | none => some last
      | some held => some (laterGreater order held last) := by
  cases front with
  | nil => rfl
  | cons first rest => simp [maxBy, List.foldl_append]

theorem maxBy_map {Image : Type} {imageOrder : Image → Image → Ordering}
    {image : Item → Image} {items : List Item}
    (compares :
      ∀ left ∈ items, ∀ right ∈ items, imageOrder (image left) (image right) = order left right) :
    maxBy imageOrder (items.map image) = (maxBy order items).map image := by
  induction items using List.reverseRecOn with
  | nil => rfl
  | append_singleton front last inductionHypothesis =>
    have frontSame := inductionHypothesis fun left leftMember right rightMember =>
        compares left (List.mem_append_left _ leftMember) right (List.mem_append_left _ rightMember)
    rw [List.map_append, List.map_cons, List.map_nil, maxBy_concat, maxBy_concat, frontSame]
    cases isBest : maxBy order front with
    | none => rfl
    | some held =>
      have heldMember := List.mem_append_left [last] (maxBy_mem isBest)
      have lastMember : last ∈ front ++ [last] := List.mem_append_right _ List.mem_cons_self
      have same := compares held heldMember last lastMember
      simp only [Option.map_some, laterGreater, same]
      cases order held last <;> rfl

theorem maxBy_concat_of_greatest {front : List Item} {last : Item}
    (greatest : ∀ item ∈ front, (order item last).isLE = true) :
    maxBy order (front ++ [last]) = some last := by
  rw [maxBy_concat]
  cases isBest : maxBy order front with
  | none => rfl
  | some held =>
    have below := greatest held (maxBy_mem isBest)
    have keepsLast : laterGreater order held last = last := by
      unfold laterGreater
      split <;> simp_all
    simp [keepsLast]

end Membership

section Greatest

variable {order : Item → Item → Ordering} [Std.TransCmp order] {items : List Item} {best : Item}

theorem isLE_laterGreater_left (held next : Item) :
    (order held (laterGreater order held next)).isLE = true := by
  unfold laterGreater
  split
  · simp [Std.ReflCmp.compare_self]
  · simp_all
  · simp_all

theorem isLE_laterGreater_right (held next : Item) :
    (order next (laterGreater order held next)).isLE = true := by
  unfold laterGreater
  split
  next greater => simp [Std.OrientedCmp.lt_of_gt greater]
  all_goals simp [Std.ReflCmp.compare_self]

/-- A running maximum is as great as the item it started from and as every
item it has seen. -/
theorem isLE_foldl_laterGreater (rest : List Item) (held : Item) :
    (order held (rest.foldl (laterGreater order) held)).isLE = true ∧
      ∀ item ∈ rest, (order item (rest.foldl (laterGreater order) held)).isLE = true := by
  induction rest generalizing held with
  | nil => simp [Std.ReflCmp.compare_self]
  | cons next later inductionHypothesis =>
    obtain ⟨fromHeld, fromLater⟩ := inductionHypothesis (laterGreater order held next)
    refine ⟨Std.TransCmp.isLE_trans (isLE_laterGreater_left held next) fromHeld, ?_⟩
    intro item member
    rcases List.mem_cons.mp member with isNext | inLater
    · rw [isNext]
      exact Std.TransCmp.isLE_trans (isLE_laterGreater_right held next) fromHeld
    · exact fromLater item inLater

theorem isLE_maxBy (isBest : maxBy order items = some best) :
    ∀ item ∈ items, (order item best).isLE = true := by
  cases items with
  | nil => simp
  | cons first rest =>
    simp only [maxBy, Option.some.injEq] at isBest
    have fromAll := @isLE_foldl_laterGreater Item order _ rest first
    obtain ⟨fromFirst, fromRest⟩ := fromAll
    rw [isBest] at fromFirst fromRest
    intro item member
    rcases List.mem_cons.mp member with isFirst | inRest
    · rw [isFirst]
      exact fromFirst
    · exact fromRest item inRest

/-- An item as great as all the others, and equal to none of them, is the
maximum wherever it stands. -/
theorem maxBy_eq_some (member : best ∈ items)
    (greatest : ∀ item ∈ items, (order item best).isLE = true)
    (alone : ∀ item ∈ items, order item best = .eq → item = best) :
    maxBy order items = some best := by
  cases isChosen : maxBy order items with
  | none =>
    rw [maxBy_eq_none_iff.mp isChosen] at member
    simp at member
  | some chosen =>
    have chosenMember := maxBy_mem isChosen
    have below := isLE_maxBy isChosen best member
    have above := greatest chosen chosenMember
    have sameRank : order chosen best = .eq := Std.OrientedCmp.isLE_antisymm above below
    rw [alone chosen chosenMember sameRank]

theorem maxBy_perm {first second : List Item} (rearranged : first.Perm second)
    (noTies : ∀ left ∈ first, ∀ right ∈ first, order left right = .eq → left = right) :
    maxBy order first = maxBy order second := by
  cases isBest : maxBy order first with
  | none =>
    rw [maxBy_eq_none_iff] at isBest
    subst isBest
    simp [rearranged.symm.eq_nil, maxBy]
  | some best =>
    have member := maxBy_mem isBest
    refine (maxBy_eq_some (rearranged.mem_iff.mp member) ?_ ?_).symm
    · intro item itemMember
      exact isLE_maxBy isBest item (rearranged.mem_iff.mpr itemMember)
    · intro item itemMember sameRank
      exact noTies item (rearranged.mem_iff.mpr itemMember) best member sameRank

end Greatest

variable {Key : Type}

section Keys

variable [LinearOrder Key] {key : Item → Key}

theorem isLE_compare_iff {left right : Key} : (compare left right).isLE = true ↔ left ≤ right := by
  rw [Ordering.isLE_iff_ne_gt, compare_gt_iff_gt, not_lt]

instance transCmpKey :
    Std.TransCmp fun left right : Item =>
      compare (key left) (key right) :=
  inferInstanceAs (Std.TransCmp (compareOn key))

theorem le_maxByKey {items : List Item} {best : Item} (isBest : maxByKey key items = some best) :
    ∀ item ∈ items, key item ≤ key best := by
  intro item member
  exact isLE_compare_iff.mp (isLE_maxBy isBest item member)

theorem maxByKey_concat_of_greatest {front : List Item} {last : Item}
    (greatest : ∀ item ∈ front, key item ≤ key last) :
    maxByKey key (front ++ [last]) = some last :=
  maxBy_concat_of_greatest fun item member =>
    isLE_compare_iff.mpr (greatest item member)

end Keys

section Least

variable {order : Item → Item → Ordering}

theorem minBy_concat (front : List Item) (last : Item) :
    minBy order (front ++ [last]) =
      match minBy order front with
      | none => some last
      | some held => some (earlierLesser order held last) := by
  cases front with
  | nil => rfl
  | cons first rest => simp [minBy, List.foldl_append]

@[simp] theorem minBy_eq_none_iff {items : List Item} : minBy order items = none ↔ items = [] := by
  cases items <;> simp [minBy]

/-- A minimum by a key is one of the items, and its key is the least. -/
theorem minBy_eq_some {Key : Type} [LinearOrder Key] {key : Item → Key}
    (byKey : ∀ left right, order left right = compare (key left) (key right))
    {items : List Item} {best : Item} (isBest : minBy order items = some best) :
    best ∈ items ∧ ∀ item ∈ items, key best ≤ key item := by
  induction items using List.reverseRecOn generalizing best with
  | nil => cases isBest
  | append_singleton front last inductionHypothesis =>
    rw [minBy_concat] at isBest
    rw [List.forall_mem_append, List.forall_mem_singleton]
    cases before : minBy order front with
    | none =>
      rw [before] at isBest
      cases isBest
      rw [minBy_eq_none_iff.mp before]
      simp
    | some held =>
      rw [before] at isBest
      obtain ⟨isItem, least⟩ := inductionHypothesis before
      simp only [earlierLesser, byKey, Option.some.injEq] at isBest
      split at isBest <;> subst isBest
      next greater =>
        have below := (compare_gt_iff_gt.mp greater).le
        exact ⟨List.mem_append_right _ (List.mem_singleton_self _),
          fun item isItem => below.trans (least item isItem), le_rfl⟩
      next lesser =>
        exact ⟨List.mem_append_left _ isItem, least, (compare_lt_iff_lt.mp lesser).le⟩
      next equal =>
        exact ⟨List.mem_append_left _ isItem, least, (compare_eq_iff_eq.mp equal).le⟩

theorem minBy_map {Image : Type} {imageOrder : Image → Image → Ordering} {image : Item → Image}
    (compares : ∀ left right, imageOrder (image left) (image right) = order left right)
    (items : List Item) :
    minBy imageOrder (items.map image) = (minBy order items).map image := by
  induction items using List.reverseRecOn with
  | nil => rfl
  | append_singleton front last inductionHypothesis =>
    rw [List.map_append, List.map_cons, List.map_nil, minBy_concat,
      minBy_concat, inductionHypothesis]
    cases minBy order front with
    | none => rfl
    | some held =>
      simp only [Option.map_some, earlierLesser, compares]
      split <;> rfl

end Least

section Running

variable [LinearOrder Key] {score : Item → Key}

/-- The better of what was best so far and the next item; before the first item
every score is better. -/
def keepBetter (score : Item → Key) (best : Item × Option Key)
    (next : Item) : Item × Option Key :=
  if best.2.all (fun bestScore => decide (bestScore < score next)) then
    (next, some (score next))
  else
    best

/-- What is held after some items is one of the best of them. -/
def HoldsBest (score : Item → Key) (seen : List Item)
    (best : Item × Option Key) : Prop :=
  match best.2 with
  | none => seen = []
  | some bestScore =>
    bestScore = score best.1 ∧ best.1 ∈ seen ∧ ∀ item ∈ seen, score item ≤ bestScore

theorem keepBetter_holdsBest {seen : List Item} {best : Item × Option Key}
    (holds : HoldsBest score seen best) (next : Item) :
    HoldsBest score (seen ++ [next]) (keepBetter score best next) := by
  obtain ⟨held, heldScore⟩ := best
  cases heldScore with
  | none =>
    obtain rfl : seen = [] := holds
    simp [keepBetter, HoldsBest]
  | some bestScore =>
    obtain ⟨isScore, isSeen, greatest⟩ := holds
    by_cases better : bestScore < score next
    · simp only [keepBetter, HoldsBest, Option.all_some, better, decide_true,
        if_true, List.forall_mem_append, List.forall_mem_singleton]
      refine ⟨trivial, by simp, ?_, le_rfl⟩
      intro item isItem
      exact (greatest item isItem).trans better.le
    · simp only [keepBetter, HoldsBest, Option.all_some, better, decide_false,
        Bool.false_eq_true, if_false, List.forall_mem_append,
        List.forall_mem_singleton]
      exact ⟨isScore, List.mem_append_left _ isSeen, greatest, not_lt.mp better⟩

theorem foldl_holdsBest (items : List Item) (start : Item) :
    HoldsBest score items (items.foldl (keepBetter score) (start, none)) := by
  induction items using List.reverseRecOn with
  | nil => rfl
  | append_singleton earlier next inductionHypothesis =>
    rw [List.foldl_append]
    exact keepBetter_holdsBest inductionHypothesis next

theorem foldl_keepBetter_best {items : List Item} (hasOne : items ≠ []) (start : Item) :
    (items.foldl (keepBetter score) (start, none)).1 ∈ items ∧
      ∀ item ∈ items, score item ≤ score (items.foldl (keepBetter score) (start, none)).1 := by
  have holds := @foldl_holdsBest Item Key _ score items start
  cases held : (items.foldl (keepBetter score) (start, none)).2 with
  | none =>
    rw [HoldsBest, held] at holds
    exact absurd holds hasOne
  | some bestScore =>
    rw [HoldsBest, held] at holds
    obtain ⟨isScore, isItem, greatest⟩ := holds
    exact ⟨isItem, isScore ▸ greatest⟩

end Running

section Values

variable {Value : Type} [LinearOrder Value] {values others : List Value}

instance lawfulMin : Std.LawfulOrderMin Value := .of_le_min_iff (fun _ _ _ => le_min_iff) min_choice

instance lawfulMax : Std.LawfulOrderMax Value := .of_max_le_iff (fun _ _ _ => max_le_iff) max_choice

theorem min?_eq_of_perm (same : values.Perm others) : values.min? = others.min? := by
  refine Option.ext fun value => ?_
  rw [List.min?_eq_some_iff, List.min?_eq_some_iff]
  simp only [same.mem_iff]

theorem max?_eq_of_perm (same : values.Perm others) : values.max? = others.max? := by
  refine Option.ext fun value => ?_
  rw [List.max?_eq_some_iff, List.max?_eq_some_iff]
  simp only [same.mem_iff]

theorem exists_least_greatest (hasOne : values ≠ []) :
    ∃ least greatest,
      values.min? = some least ∧ values.max? = some greatest ∧
        ∀ value ∈ values, least ≤ value ∧ value ≤ greatest := by
  obtain ⟨least, isLeast⟩ := Option.isSome_iff_exists.mp (List.isSome_min?_of_ne_nil hasOne)
  obtain ⟨greatest, isGreatest⟩ := Option.isSome_iff_exists.mp (List.isSome_max?_of_ne_nil hasOne)
  refine ⟨least, greatest, isLeast, isGreatest, fun value isValue => ⟨?_, ?_⟩⟩
  · exact (List.min?_eq_some_iff.mp isLeast).2 value isValue
  · exact (List.max?_eq_some_iff.mp isGreatest).2 value isValue

end Values

end Extremes
