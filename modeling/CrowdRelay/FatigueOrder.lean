import Mathlib.Algebra.Order.BigOperators.Group.List
import Mathlib.Algebra.Order.Field.Basic
import Mathlib.Algebra.Order.Field.Rat
import Mathlib.Tactic.Linarith
import CrowdRelay.Extremes
import CrowdRelay.Fatigue
import CrowdRelay.StableRanking

namespace CrowdRelay

open Extremes MachineInt Medians Ranged SpacedRuns Watermark

/-!
# What the order of arrival changes in the fatigue measure

Posts of one instant keep their order of arrival.  Where such an instant opens
the history of a community or comes after a rest, the first of them to arrive
is in another arm than the others, or in none.
-/

/-- The measure from the sizes and the sums of its arms. -/
def measureOf (quickCount restedCount : Nat) (quick rested : ℚ) : Option FatigueMeasure :=
  if quickCount < minPerArm || restedCount < minPerArm then
    none
  else if rested / restedCount ≤ 0 then
    none
  else
    some
      { discount :=
          max 0 (min 1 (1 - quick / quickCount / (rested / restedCount)))
        quickPosts := saturate quickCount
        restedPosts := saturate restedCount }

/-- The scores of every instant that opens a run of posts are the same. -/
def SameOpeners (posts : List SpacedPost) : Prop :=
  ∀ instant ∈ firstInstants posts ++ restedInstants posts,
    ∀ one ∈ tiedScores posts instant, ∀ other ∈ tiedScores posts instant, one = other

/--
The order of arrival is forgotten: there is no answer in any order, the openers
are the same in any order, or the discount is at one of its ends in any order.
-/
def OrderForgotten (posts : List SpacedPost) : Prop :=
  quickCount posts < minPerArm ∨ restedCount posts < minPerArm ∨
    SameOpeners posts ∨
    restedSum List.max? posts ≤ 0 ∨
    0 < restedSum List.min? posts ∧
      (quickSum List.min? posts ≤ 0 ∨
        restedSum List.max? posts * quickCount posts ≤ quickSum List.max? posts * restedCount posts)

variable {posts others : List SpacedPost}

theorem measureFatigue_eq :
    measureFatigue posts = measureOf (quickCount posts) (restedCount posts)
        (quickSum List.head? posts) (restedSum List.head? posts) := by
  unfold measureFatigue measureOf mean
  simp only [quickArm_length, restedArm_length, quickArm_sum, restedArm_sum]

theorem community_perm (same : posts.Perm others) (audience : String) :
    (community posts audience).Perm (community others audience) :=
  same.filter _

theorem baseOf_eq_of_perm (same : posts.Perm others) : baseOf posts = baseOf others := by
  rw [baseOf, baseOf, same.length_eq, median_eq_of_perm (same.map SpacedPost.score)]

theorem counted_eq (same : posts.Perm others) : counted posts = counted others := by
  have sameAudiences : audiences posts = audiences others :=
    insertionSort_eq_of_perm (same.map SpacedPost.audience).dedup
  rw [counted, counted, sameAudiences]
  refine List.filterMap_congr fun audience _ => ?_
  rw [baseOf_eq_of_perm (community_perm same audience)]

theorem communityDays_eq_of_perm (same : posts.Perm others) (audience : String) :
    communityDays posts audience = communityDays others audience :=
  insertionSort_eq_of_perm ((community_perm same audience).map _)

theorem firstInstants_eq (same : posts.Perm others) :
    firstInstants posts = firstInstants others := by
  rw [firstInstants, firstInstants, counted_eq same]
  refine List.flatMap_congr fun entry _ => ?_
  rw [communityDays_eq_of_perm same]

theorem restedInstants_eq (same : posts.Perm others) :
    restedInstants posts = restedInstants others := by
  rw [restedInstants, restedInstants, counted_eq same]
  refine List.flatMap_congr fun entry _ => ?_
  rw [communityDays_eq_of_perm same]

theorem totalScore_eq (same : posts.Perm others) : totalScore posts = totalScore others := by
  rw [totalScore, totalScore, counted_eq same]
  congr 1
  refine List.map_congr_left fun entry _ => ?_
  exact ((community_perm same entry.1).map _).sum_eq

theorem restedCount_eq (same : posts.Perm others) : restedCount posts = restedCount others := by
  rw [restedCount, restedCount, restedInstants_eq same]

theorem quickCount_eq (same : posts.Perm others) : quickCount posts = quickCount others := by
  have samePairs : pairCount posts = pairCount others := by
    rw [pairCount, pairCount, counted_eq same]
    congr 1
    refine List.map_congr_left fun entry _ => ?_
    rw [(community_perm same entry.1).length_eq]
  rw [quickCount, quickCount, samePairs, restedCount_eq same]

theorem tiedScores_perm (same : posts.Perm others) (instant : Instant) :
    (tiedScores posts instant).Perm (tiedScores others instant) :=
  ((community_perm same instant.1.1).filter _).map _

section Picks

variable {instant : Instant} {pick : List ℚ → Option ℚ}

theorem base_pos_of_mem_counted {entry : String × ℚ} (isCounted : entry ∈ counted posts) :
    0 < entry.2 := by
  obtain ⟨audience, _, isEntry⟩ := List.mem_filterMap.mp isCounted
  obtain ⟨base, isBase, rfl⟩ := Option.map_eq_some_iff.mp isEntry
  rw [baseOf] at isBase
  split at isBase
  · cases isBase
  · exact of_decide_eq_true (Option.filter_eq_some_iff.mp isBase).2

theorem opening_instant (opens : instant ∈ firstInstants posts ++ restedInstants posts) :
    0 < instant.1.2 ∧ tiedScores posts instant ≠ [] := by
  have ofDay :
      ∀ entry ∈ counted posts, ∀ day ∈ communityDays posts entry.1,
        0 < (entry, day).1.2 ∧ tiedScores posts (entry, day) ≠ [] := by
    intro entry isCounted day isDay
    obtain ⟨post, isHead⟩ := exists_head_of_day (mem_communityDays_iff.mp isDay)
    refine ⟨base_pos_of_mem_counted isCounted, fun nothing => ?_⟩
    rw [List.map_eq_nil_iff.mp nothing] at isHead
    cases isHead
  obtain isFirst | isRested := List.mem_append.mp opens
  · obtain ⟨entry, isCounted, isEntry⟩ := List.mem_flatMap.mp isFirst
    obtain ⟨day, isDay, rfl⟩ := List.mem_map.mp isEntry
    exact ofDay entry isCounted day (List.mem_of_mem_take isDay)
  · obtain ⟨entry, isCounted, isEntry⟩ := List.mem_flatMap.mp isRested
    obtain ⟨day, isDay, rfl⟩ := List.mem_map.mp isEntry
    exact ofDay entry isCounted day (mem_of_mem_rested isDay)

/-- The scores picked at an instant: the one that arrives first lies between
the least and the greatest, which differ if two of the scores do. -/
theorem pickedScore_bounds (opens : instant ∈ firstInstants posts ++ restedInstants posts) :
    pickedScore List.min? posts instant ≤ pickedScore List.head? posts instant ∧
      pickedScore List.head? posts instant ≤ pickedScore List.max? posts instant ∧
      ∀ one ∈ tiedScores posts instant,
        ∀ other ∈ tiedScores posts instant,
          one < other →
            pickedScore List.min? posts instant < pickedScore List.max? posts instant := by
  obtain ⟨positive, hasOne⟩ := opening_instant opens
  obtain ⟨least, greatest, isLeast, isGreatest, between⟩ := exists_least_greatest hasOne
  obtain ⟨first, later, shape⟩ := List.exists_cons_of_ne_nil hasOne
  have isFirst : first ∈ tiedScores posts instant := by
    rw [shape]
    exact List.mem_cons_self
  have isHead : (tiedScores posts instant).head? = some first := by
    rw [shape]
    rfl
  simp only [pickedScore, isLeast, isGreatest, isHead, Option.getD_some]
  refine ⟨?_, ?_, ?_⟩
  · exact div_le_div_of_nonneg_right (between first isFirst).1
      (le_of_lt positive)
  · exact div_le_div_of_nonneg_right (between first isFirst).2
      (le_of_lt positive)
  · intro one isOne other isOther less
    refine div_lt_div_of_pos_right ?_ positive
    exact lt_of_le_of_lt (between one isOne).1 (lt_of_lt_of_le less (between other isOther).2)

theorem restedSum_bounds :
    restedSum List.min? posts ≤ restedSum List.head? posts ∧
      restedSum List.head? posts ≤ restedSum List.max? posts :=
  ⟨List.sum_le_sum fun _ isRested =>
      (pickedScore_bounds (List.mem_append_right _ isRested)).1,
    List.sum_le_sum fun _ isRested =>
      (pickedScore_bounds (List.mem_append_right _ isRested)).2.1⟩

theorem firstSum_bounds :
    firstSum List.min? posts ≤ firstSum List.head? posts ∧
      firstSum List.head? posts ≤ firstSum List.max? posts :=
  ⟨List.sum_le_sum fun _ isFirst =>
      (pickedScore_bounds (List.mem_append_left _ isFirst)).1,
    List.sum_le_sum fun _ isFirst =>
      (pickedScore_bounds (List.mem_append_left _ isFirst)).2.1⟩

theorem pickedScore_eq_of_perm
    (forgets : ∀ {scores others : List ℚ}, scores.Perm others → pick scores = pick others)
    (same : posts.Perm others) (instant : Instant) :
    pickedScore pick posts instant = pickedScore pick others instant := by
  rw [pickedScore, pickedScore, forgets (tiedScores_perm same instant)]

theorem restedSum_eq_of_perm
    (forgets : ∀ {scores others : List ℚ}, scores.Perm others → pick scores = pick others)
    (same : posts.Perm others) :
    restedSum pick posts = restedSum pick others := by
  rw [restedSum, restedSum, restedInstants_eq same]
  congr 1
  exact List.map_congr_left fun instant _ =>
    pickedScore_eq_of_perm forgets same instant

theorem firstSum_eq_of_perm
    (forgets : ∀ {scores others : List ℚ}, scores.Perm others → pick scores = pick others)
    (same : posts.Perm others) :
    firstSum pick posts = firstSum pick others := by
  rw [firstSum, firstSum, firstInstants_eq same]
  congr 1
  exact List.map_congr_left fun instant _ =>
    pickedScore_eq_of_perm forgets same instant

theorem sums_of_heads (same : others.Perm posts)
    (heads : ∀ instant, (tiedScores others instant).head? = pick (tiedScores posts instant)) :
    restedSum List.head? others = restedSum pick posts ∧
      firstSum List.head? others = firstSum pick posts := by
  have samePick : pickedScore List.head? others = pickedScore pick posts := by
    funext instant
    rw [pickedScore, pickedScore, heads]
  rw [restedSum, restedSum, firstSum, firstSum, restedInstants_eq same,
    firstInstants_eq same, samePick]
  exact ⟨rfl, rfl⟩

/-- The measure of the posts in an order in which the picked scores arrive
first. -/
theorem measureFatigue_of_heads (same : others.Perm posts)
    (heads : ∀ instant, (tiedScores others instant).head? = pick (tiedScores posts instant)) :
    measureFatigue others = measureOf (quickCount posts) (restedCount posts)
        (quickSum pick posts) (restedSum pick posts) := by
  obtain ⟨sameRested, sameFirst⟩ := sums_of_heads same heads
  rw [measureFatigue_eq, quickCount_eq same, restedCount_eq same, quickSum,
    quickSum, totalScore_eq same, sameRested, sameFirst]

theorem measureFatigue_worstFirst (posts : List SpacedPost) :
    measureFatigue (inStampOrder SpacedPost.score posts) =
      measureOf (quickCount posts) (restedCount posts)
        (quickSum List.min? posts) (restedSum List.min? posts) := by
  have same := inStampOrder_perm SpacedPost.score posts
  refine measureFatigue_of_heads same fun instant => ?_
  rw [← min?_eq_of_perm (tiedScores_perm same instant)]
  refine (List.min?_eq_head? (List.pairwise_map.mpr ?_)).symm
  refine (List.Pairwise.filter _ (List.Pairwise.filter _ ?_))
  exact (inStampOrder_pairwise SpacedPost.score posts).imp min_eq_left

theorem measureFatigue_bestFirst (posts : List SpacedPost) :
    measureFatigue (StableRanking.descending SpacedPost.score posts) =
      measureOf (quickCount posts) (restedCount posts)
        (quickSum List.max? posts) (restedSum List.max? posts) := by
  have same := StableRanking.descending_perm SpacedPost.score posts
  refine measureFatigue_of_heads same fun instant => ?_
  rw [← max?_eq_of_perm (tiedScores_perm same instant)]
  refine (List.max?_eq_head? (List.pairwise_map.mpr ?_)).symm
  refine (List.Pairwise.filter _ (List.Pairwise.filter _ ?_))
  exact (StableRanking.descending_pairwise SpacedPost.score posts).imp max_eq_left

theorem sums_of_sameOpeners (same : SameOpeners posts) :
    restedSum List.min? posts = restedSum List.max? posts ∧
      firstSum List.min? posts = firstSum List.max? posts := by
  have samePick :
      ∀ instant ∈ firstInstants posts ++ restedInstants posts,
        pickedScore List.min? posts instant = pickedScore List.max? posts instant := by
    intro instant opens
    obtain ⟨_, hasOne⟩ := opening_instant opens
    obtain ⟨least, greatest, isLeast, isGreatest, _⟩ := exists_least_greatest hasOne
    have equal := same instant opens least (List.min?_mem isLeast) greatest
        (List.max?_mem isGreatest)
    rw [pickedScore, pickedScore, isLeast, isGreatest, equal]
  rw [restedSum, restedSum, firstSum, firstSum]
  exact
    ⟨congrArg List.sum (List.map_congr_left fun instant isRested =>
        samePick instant (List.mem_append_right _ isRested)),
      congrArg List.sum (List.map_congr_left fun instant isFirst =>
        samePick instant (List.mem_append_left _ isFirst))⟩

theorem sums_of_not_sameOpeners (differ : ¬ SameOpeners posts) :
    restedSum List.min? posts < restedSum List.max? posts ∨
      firstSum List.min? posts < firstSum List.max? posts := by
  have least_le_greatest :
      ∀ instant ∈ firstInstants posts ++ restedInstants posts,
        pickedScore List.min? posts instant ≤
          pickedScore List.max? posts instant := fun instant opens =>
    le_trans (pickedScore_bounds opens).1 (pickedScore_bounds opens).2.1
  obtain ⟨instant, opens, less⟩ :
      ∃ instant ∈ firstInstants posts ++ restedInstants posts,
        pickedScore List.min? posts instant < pickedScore List.max? posts instant := by
    by_contra none
    refine differ fun instant opens one isOne other isOther => ?_
    by_contra different
    have less := (pickedScore_bounds opens).2.2
    obtain below | above := lt_or_gt_of_ne different
    · exact none ⟨instant, opens, less one isOne other isOther below⟩
    · exact none ⟨instant, opens, less other isOther one isOne above⟩
  obtain isFirst | isRested := List.mem_append.mp opens
  · refine Or.inr (List.sum_lt_sum _ _ ?_ ⟨instant, isFirst, less⟩)
    exact fun other otherFirst =>
      least_le_greatest other (List.mem_append_left _ otherFirst)
  · refine Or.inl (List.sum_lt_sum _ _ ?_ ⟨instant, isRested, less⟩)
    exact fun other otherRested =>
      least_le_greatest other (List.mem_append_right _ otherRested)

end Picks

/-! ## The ends of the discount -/

section Ends

variable {quickCount restedCount : Nat} {quick rested otherQuick otherRested : ℚ}

/-- Both arms are thick enough for an answer. -/
structure Thick (quickCount restedCount : Nat) : Prop where
  quickEnough : minPerArm ≤ quickCount
  restedEnough : minPerArm ≤ restedCount

theorem Thick.quick_pos (thick : Thick quickCount restedCount) : (0 : ℚ) < quickCount :=
  Nat.cast_pos.mpr (Nat.lt_of_lt_of_le (by decide) thick.quickEnough)

theorem Thick.rested_pos (thick : Thick quickCount restedCount) : (0 : ℚ) < restedCount :=
  Nat.cast_pos.mpr (Nat.lt_of_lt_of_le (by decide) thick.restedEnough)

theorem measureOf_thick (thick : Thick quickCount restedCount) :
    measureOf quickCount restedCount quick rested =
      if rested ≤ 0 then
        none
      else
        some
          { discount :=
              max 0 (min 1 (1 - quick * restedCount / (rested * quickCount)))
            quickPosts := saturate quickCount
            restedPosts := saturate restedCount } := by
  have notThin : (decide (quickCount < minPerArm) || decide (restedCount < minPerArm)) = false := by
    simp [thick.quickEnough, thick.restedEnough]
  have sameSign : rested / restedCount ≤ 0 ↔ rested ≤ 0 := by
    rw [div_le_iff₀ thick.rested_pos, zero_mul]
  have sameRatio :
      quick / quickCount / (rested / restedCount) =
        quick * restedCount / (rested * quickCount) := by
    rw [div_div_div_eq, mul_comm (quickCount : ℚ)]
  simp only [measureOf, notThin, Bool.false_eq_true, if_false, sameSign, sameRatio]

theorem measureOf_none_iff (thick : Thick quickCount restedCount) :
    measureOf quickCount restedCount quick rested = none ↔ rested ≤ 0 := by
  rw [measureOf_thick thick]
  split <;> simp_all

section

variable (thick : Thick quickCount restedCount)
include thick

theorem measureOf_whole (positive : 0 < rested) (worthless : quick ≤ 0) :
    measureOf quickCount restedCount quick rested = some
        { discount := 1
          quickPosts := saturate quickCount
          restedPosts := saturate restedCount } := by
  have bottom : quick * restedCount / (rested * quickCount) ≤ 0 := div_nonpos_of_nonpos_of_nonneg
      (mul_nonpos_of_nonpos_of_nonneg worthless (le_of_lt thick.rested_pos))
      (le_of_lt (mul_pos positive thick.quick_pos))
  rw [measureOf_thick thick, if_neg (not_le.mpr positive),
    min_eq_left (by linarith), max_eq_right zero_le_one]

theorem measureOf_zero (positive : 0 < rested)
    (noWorse : rested * quickCount ≤ quick * restedCount) :
    measureOf quickCount restedCount quick rested = some
        { discount := 0
          quickPosts := saturate quickCount
          restedPosts := saturate restedCount } := by
  have top : 1 ≤ quick * restedCount / (rested * quickCount) :=
    (one_le_div (mul_pos positive thick.quick_pos)).mpr noWorse
  rw [measureOf_thick thick, if_neg (not_le.mpr positive),
    max_eq_left (min_le_of_right_le (by linarith))]

/-- Different ratios of the arms give one discount only at its ends. -/
theorem ends_of_measureOf_eq (positive : 0 < rested) (otherPositive : 0 < otherRested)
    (less : otherQuick * rested < quick * otherRested)
    (same :
      measureOf quickCount restedCount quick rested =
        measureOf quickCount restedCount otherQuick otherRested) :
    quick ≤ 0 ∨ otherRested * quickCount ≤ otherQuick * restedCount := by
  have scaled : 0 < rested * quickCount := mul_pos positive thick.quick_pos
  have otherScaled : 0 < otherRested * quickCount := mul_pos otherPositive thick.quick_pos
  have ratios :
      otherQuick * restedCount / (otherRested * quickCount) <
        quick * restedCount / (rested * quickCount) := by
    rw [div_lt_div_iff₀ otherScaled scaled]
    have weighted := mul_lt_mul_of_pos_right less (mul_pos thick.quick_pos thick.rested_pos)
    calc
      otherQuick * restedCount * (rested * quickCount) =
          otherQuick * rested * (quickCount * restedCount) := by ring
      _ < quick * otherRested * (quickCount * restedCount) := weighted
      _ = quick * restedCount * (otherRested * quickCount) := by ring
  rw [measureOf_thick thick, measureOf_thick thick,
    if_neg (not_le.mpr positive), if_neg (not_le.mpr otherPositive)] at same
  have sameDiscount := congrArg FatigueMeasure.discount (Option.some.inj same)
  dsimp only at sameDiscount
  by_contra inside
  obtain ⟨someLeft, worse⟩ := not_or.mp inside
  have above : 0 < quick * restedCount / (rested * quickCount) :=
    div_pos (mul_pos (not_le.mp someLeft) thick.rested_pos) scaled
  have below : otherQuick * restedCount / (otherRested * quickCount) < 1 :=
    (div_lt_one otherScaled).mpr (not_le.mp worse)
  refine absurd sameDiscount (ne_of_lt ?_)
  refine max_lt ?_ ?_
  · exact lt_max_of_lt_right (lt_min one_pos (by linarith))
  · refine lt_max_of_lt_right (lt_min ?_ ?_)
    · exact lt_of_le_of_lt (min_le_right _ _) (by linarith)
    · exact lt_of_le_of_lt (min_le_right _ _) (by linarith)

end

end Ends

/-! ## The order of arrival -/

theorem thin_or_thick (quickCount restedCount : Nat) :
    quickCount < minPerArm ∨ restedCount < minPerArm ∨ Thick quickCount restedCount := by
  cases lt_or_ge quickCount minPerArm with
  | inl quickThin => exact Or.inl quickThin
  | inr quickEnough =>
    cases lt_or_ge restedCount minPerArm with
    | inl restedThin => exact Or.inr (Or.inl restedThin)
    | inr restedEnough => exact Or.inr (Or.inr ⟨quickEnough, restedEnough⟩)

theorem measureOf_thin {quickCount restedCount : Nat}
    (thin : quickCount < minPerArm ∨ restedCount < minPerArm) (quick rested : ℚ) :
    measureOf quickCount restedCount quick rested = none := by
  rw [measureOf, if_pos]
  simpa using thin

/-- With the best posts in front the quick arm does worse beside the rested
one than with the worst in front, if openers differ at all. -/
theorem ratio_of_not_sameOpeners (differ : ¬ SameOpeners posts)
    (positive : 0 < restedSum List.min? posts) (worthy : 0 < quickSum List.min? posts) :
    quickSum List.max? posts * restedSum List.min? posts <
      quickSum List.min? posts * restedSum List.max? posts := by
  obtain ⟨restedLow, restedHigh⟩ := @restedSum_bounds posts
  obtain ⟨firstLow, firstHigh⟩ := @firstSum_bounds posts
  have quickSpread :
      quickSum List.min? posts - quickSum List.max? posts =
        (firstSum List.max? posts - firstSum List.min? posts) +
          (restedSum List.max? posts - restedSum List.min? posts) := by
    rw [quickSum, quickSum]
    ring
  have spread :
      0 < quickSum List.min? posts * (restedSum List.max? posts - restedSum List.min? posts) +
          (quickSum List.min? posts - quickSum List.max? posts) * restedSum List.min? posts := by
    obtain restedDiffers | firstDiffers := sums_of_not_sameOpeners differ
    · refine add_pos_of_pos_of_nonneg
        (mul_pos worthy (sub_pos.mpr restedDiffers)) ?_
      exact mul_nonneg (by linarith) (le_of_lt positive)
    · refine add_pos_of_nonneg_of_pos
        (mul_nonneg (le_of_lt worthy) (by linarith)) ?_
      exact mul_pos (by linarith) positive
  linarith [spread]

/-- If one order of arrival measures like every other, it is forgotten. -/
theorem orderForgotten_of_invariant
    (invariant : ∀ others, posts.Perm others → measureFatigue others = measureFatigue posts) :
    OrderForgotten posts := by
  obtain quickThin | restedThin | thick := thin_or_thick (quickCount posts) (restedCount posts)
  · exact Or.inl quickThin
  · exact Or.inr (Or.inl restedThin)
  refine Or.inr (Or.inr ?_)
  by_cases sameOpeners : SameOpeners posts
  · exact Or.inl sameOpeners
  refine Or.inr ?_
  -- The worst posts in front give one measure, the best ones another.
  have same :
      measureOf (quickCount posts) (restedCount posts)
          (quickSum List.min? posts) (restedSum List.min? posts) =
        measureOf (quickCount posts) (restedCount posts)
          (quickSum List.max? posts) (restedSum List.max? posts) := by
    rw [← measureFatigue_worstFirst, ← measureFatigue_bestFirst,
      invariant _ (inStampOrder_perm _ posts).symm,
      invariant _ (StableRanking.descending_perm _ posts).symm]
  obtain ⟨restedLow, restedHigh⟩ := @restedSum_bounds posts
  cases le_or_gt (restedSum List.min? posts) 0 with
  | inl notPositive =>
    have noAnswer := same.symm.trans ((measureOf_none_iff thick).mpr notPositive)
    exact Or.inl ((measureOf_none_iff thick).mp noAnswer)
  | inr positive =>
    refine Or.inr ⟨positive, ?_⟩
    cases le_or_gt (quickSum List.min? posts) 0 with
    | inl worthless => exact Or.inl worthless
    | inr worthy =>
      have otherPositive : 0 < restedSum List.max? posts :=
        lt_of_lt_of_le positive (restedLow.trans restedHigh)
      exact ends_of_measureOf_eq thick positive otherPositive
        (ratio_of_not_sameOpeners sameOpeners positive worthy) same

theorem sums_between (same : posts.Perm others) :
    restedSum List.min? posts ≤ restedSum List.head? others ∧
      restedSum List.head? others ≤ restedSum List.max? posts ∧
      quickSum List.max? posts ≤ quickSum List.head? others ∧
      quickSum List.head? others ≤ quickSum List.min? posts := by
  obtain ⟨restedLow, restedHigh⟩ := @restedSum_bounds others
  obtain ⟨firstLow, firstHigh⟩ := @firstSum_bounds others
  rw [← restedSum_eq_of_perm min?_eq_of_perm same] at restedLow
  rw [← restedSum_eq_of_perm max?_eq_of_perm same] at restedHigh
  rw [← firstSum_eq_of_perm min?_eq_of_perm same] at firstLow
  rw [← firstSum_eq_of_perm max?_eq_of_perm same] at firstHigh
  have sameTotal := totalScore_eq same
  refine ⟨restedLow, restedHigh, ?_, ?_⟩
  · rw [quickSum, quickSum]
    linarith
  · rw [quickSum, quickSum]
    linarith

theorem measureFatigue_of_perm (same : posts.Perm others) :
    measureFatigue others = measureOf (quickCount posts) (restedCount posts)
        (quickSum List.head? others) (restedSum List.head? others) := by
  rw [measureFatigue_eq, quickCount_eq same, restedCount_eq same]

theorem measureFatigue_thin (thin : quickCount posts < minPerArm ∨ restedCount posts < minPerArm)
    (same : posts.Perm others) :
    measureFatigue others = none :=
  (measureFatigue_of_perm same).trans (measureOf_thin thin _ _)

/-- Where the order of arrival is forgotten, every order has one answer. -/
theorem exists_answer (forgotten : OrderForgotten posts) :
    ∃ answer, ∀ others, posts.Perm others → measureFatigue others = answer := by
  obtain quickThin | restedThin | thick := thin_or_thick (quickCount posts) (restedCount posts)
  · exact ⟨none, fun _ => measureFatigue_thin (Or.inl quickThin)⟩
  · exact ⟨none, fun _ => measureFatigue_thin (Or.inr restedThin)⟩
  obtain quickThin | restedThin | sameOpeners | notPositive |
      ⟨positive, worthless | noWorse⟩ := forgotten
  · exact ⟨none, fun _ => measureFatigue_thin (Or.inl quickThin)⟩
  · exact ⟨none, fun _ => measureFatigue_thin (Or.inr restedThin)⟩
  · obtain ⟨sameRested, sameFirst⟩ := sums_of_sameOpeners sameOpeners
    have sameQuick : quickSum List.min? posts = quickSum List.max? posts := by
      rw [quickSum, quickSum, sameRested, sameFirst]
    refine ⟨measureOf (quickCount posts) (restedCount posts)
      (quickSum List.min? posts) (restedSum List.min? posts),
      fun others same => ?_⟩
    obtain ⟨restedLow, restedHigh, quickLow, quickHigh⟩ := sums_between same
    rw [measureFatigue_of_perm same,
      le_antisymm (restedHigh.trans (le_of_eq sameRested.symm)) restedLow,
      le_antisymm quickHigh ((le_of_eq sameQuick).trans quickLow)]
  · refine ⟨none, fun others same => ?_⟩
    obtain ⟨_, restedHigh, _, _⟩ := sums_between same
    rw [measureFatigue_of_perm same]
    exact (measureOf_none_iff thick).mpr (restedHigh.trans notPositive)
  · refine ⟨some
        { discount := 1
          quickPosts := saturate (quickCount posts)
          restedPosts := saturate (restedCount posts) },
        fun others same => ?_⟩
    obtain ⟨restedLow, _, _, quickHigh⟩ := sums_between same
    rw [measureFatigue_of_perm same]
    exact measureOf_whole thick (lt_of_lt_of_le positive restedLow) (quickHigh.trans worthless)
  · refine ⟨some
        { discount := 0
          quickPosts := saturate (quickCount posts)
          restedPosts := saturate (restedCount posts) },
        fun others same => ?_⟩
    obtain ⟨restedLow, restedHigh, quickLow, _⟩ := sums_between same
    rw [measureFatigue_of_perm same]
    refine measureOf_zero thick (lt_of_lt_of_le positive restedLow) ?_
    calc
      restedSum List.head? others * quickCount posts ≤
          restedSum List.max? posts * quickCount posts :=
        mul_le_mul_of_nonneg_right restedHigh (le_of_lt thick.quick_pos)
      _ ≤ quickSum List.max? posts * restedCount posts := noWorse
      _ ≤ quickSum List.head? others * restedCount posts :=
        mul_le_mul_of_nonneg_right quickLow (le_of_lt thick.rested_pos)

/-!
## The laws of the fatigue measure

What is measured is a matter of the posts alone: not of the order they were
loaded in, and not of how a community's scores compare with another's.
-/

def SpacedPost.scaled (factor : ℚ) (post : SpacedPost) : SpacedPost :=
  { post with score := post.score * factor }

/-- The history with all scores of one community multiplied. -/
def rescale (audience : String) (factor : ℚ)
    (posts : List SpacedPost) : List SpacedPost :=
  posts.map fun post =>
    if post.audience = audience then post.scaled factor else post

structure FatigueLaws (posts : List SpacedPost) : Prop where
  orderFree :
    ∀ others, posts.Perm others →
      measureFatigue others = measureFatigue posts
  scaleFree :
    ∀ audience factor, 0 < factor →
      measureFatigue (rescale audience factor posts) = measureFatigue posts
  everyPair :
    (quickArm posts).length + (restedArm posts).length = pairCount posts
  inRange :
    ∀ measure, measureFatigue posts = some measure →
      0 ≤ measure.discount ∧ measure.discount ≤ 1

section Rescaled

variable {posts : List SpacedPost} {audience : String} {factor : ℚ}

theorem audience_rescaled (post : SpacedPost) :
    (if post.audience = audience then post.scaled factor else post).audience =
      post.audience := by
  split <;> rfl

theorem audiences_rescale : audiences (rescale audience factor posts) = audiences posts := by
  simp only [audiences, rescale, List.map_map, Function.comp_def, audience_rescaled]

theorem community_rescale :
    community (rescale audience factor posts) audience =
      (community posts audience).map (SpacedPost.scaled factor) := by
  simp only [community, rescale, List.filter_map, Function.comp_def, audience_rescaled]
  refine List.map_congr_left fun post isOurs => ?_
  rw [if_pos (of_decide_eq_true (List.mem_filter.mp isOurs).2)]

theorem community_rescale_of_ne {other : String} (differs : other ≠ audience) :
    community (rescale audience factor posts) other = community posts other := by
  simp only [community, rescale, List.filter_map, Function.comp_def, audience_rescaled]
  conv_rhs => rw [← List.map_id (List.filter _ posts)]
  refine List.map_congr_left fun post isTheirs => ?_
  have isOther := of_decide_eq_true (List.mem_filter.mp isTheirs).2
  rw [if_neg fun isOurs => differs (isOther.symm.trans isOurs), id]

theorem median_scaled (positive : 0 < factor) :
    median averageScore ((posts.map (SpacedPost.scaled factor)).map SpacedPost.score) =
      (median averageScore (posts.map SpacedPost.score)).map (· * factor) := by
  have scores :
      (posts.map (SpacedPost.scaled factor)).map SpacedPost.score =
        (posts.map SpacedPost.score).map (· * factor) := by
    rw [List.map_map, List.map_map]
    rfl
  rw [scores]
  refine median_map ?_ ?_ _
  · intro one other
    exact (mul_le_mul_iff_of_pos_right positive).symm
  · intro one other
    simp only [averageScore]
    ring

theorem baseOf_scaled (positive : 0 < factor) :
    baseOf (posts.map (SpacedPost.scaled factor)) = (baseOf posts).map (· * factor) := by
  rw [baseOf, baseOf, median_scaled positive, List.length_map]
  split
  · rfl
  · cases median averageScore (posts.map SpacedPost.score) with
    | none => rfl
    | some base =>
      have sameSign : 0 < base * factor ↔ 0 < base := mul_pos_iff_of_pos_right positive
      by_cases counts : 0 < base
      · simp [Option.filter, counts, sameSign]
      · simp [Option.filter, counts, sameSign]

theorem inStampOrder_scaled :
    inStampOrder SpacedPost.postedDay (posts.map (SpacedPost.scaled factor)) =
      (inStampOrder SpacedPost.postedDay posts).map (SpacedPost.scaled factor) :=
  (List.map_insertionSort _ _ (SpacedPost.scaled factor) posts fun _ _ _ _ => Iff.rfl).symm

theorem readPairs_scaled (base : ℚ) (positive : 0 < factor) :
    readPairs (base * factor) (posts.map (SpacedPost.scaled factor)) = readPairs base posts := by
  simp only [readPairs, inStampOrder_scaled]
  rw [← List.map_tail, List.zip_map, List.map_map]
  refine List.map_congr_left fun pair _ => ?_
  have sameShare : (pair.2.scaled factor).score / (base * factor) = pair.2.score / base :=
    mul_div_mul_right _ base (ne_of_gt positive)
  exact congrArg (Prod.mk _) sameShare

theorem readCommunity_scaled (positive : 0 < factor) :
    readCommunity (posts.map (SpacedPost.scaled factor)) = readCommunity posts := by
  rw [readCommunity, readCommunity, baseOf_scaled positive]
  cases baseOf posts with
  | none => rfl
  | some base => exact readPairs_scaled base positive

theorem readPosts_rescale (positive : 0 < factor) :
    readPosts (rescale audience factor posts) = readPosts posts := by
  rw [readPosts, readPosts, audiences_rescale]
  refine List.flatMap_congr fun other _ => ?_
  by_cases isOurs : other = audience
  · rw [isOurs, community_rescale, readCommunity_scaled positive]
  · rw [community_rescale_of_ne isOurs]

theorem measureFatigue_rescale (positive : 0 < factor) :
    measureFatigue (rescale audience factor posts) = measureFatigue posts := by
  have sameQuick : quickArm (rescale audience factor posts) = quickArm posts := by
    rw [quickArm, quickArm, readPosts_rescale positive]
  have sameRested : restedArm (rescale audience factor posts) = restedArm posts := by
    rw [restedArm, restedArm, readPosts_rescale positive]
  rw [measureFatigue, measureFatigue, sameQuick, sameRested]

end Rescaled

theorem discount_range {posts : List SpacedPost} {measure : FatigueMeasure}
    (measured : measureFatigue posts = some measure) :
    0 ≤ measure.discount ∧ measure.discount ≤ 1 := by
  simp only [measureFatigue] at measured
  split at measured
  · cases measured
  · split at measured
    · cases measured
    · cases measured
      exact ⟨le_max_left _ _, max_le zero_le_one (min_le_left _ _)⟩

/-- Two posts of the first day, and rested posts with a quick follow-up each
after them. -/
def tiedHistory (first second : ℚ) : List SpacedPost :=
  [(0, first), (0, second), (20, 10), (22, 5), (40, 10), (42, 5), (60, 10),
    (62, 5), (80, 10), (82, 5), (100, 10), (102, 5)].map fun reading =>
      { audience := "doom"
        postedDay := reading.1
        score := reading.2 }

/-- The tie decides which of its scores is in no arm. -/
theorem fatigueLaws_tiedHistory : ¬ FatigueLaws (tiedHistory 10 5) := by
  intro laws
  have swapped : (tiedHistory 10 5).Perm (tiedHistory 5 10) := List.Perm.swap _ _ _
  have differ : measureFatigue (tiedHistory 5 10) ≠ measureFatigue (tiedHistory 10 5) := by
    decide +kernel
  exact differ (laws.orderFree _ swapped)

/-- The measure keeps its laws of a history exactly if the order of arrival is
forgotten: all of them but that one hold of every history. -/
theorem fatigueLaws_iff (posts : List SpacedPost) :
    FatigueLaws posts ↔ OrderForgotten posts := by
  constructor
  · intro laws
    exact orderForgotten_of_invariant laws.orderFree
  · intro forgotten
    obtain ⟨answer, always⟩ := exists_answer forgotten
    refine
      { orderFree := fun others same => ?_
        scaleFree := fun _ _ positive => measureFatigue_rescale positive
        everyPair := arms_length
        inRange := fun _ measured => discount_range measured }
    rw [always others same, always posts (List.Perm.refl posts)]

end CrowdRelay
