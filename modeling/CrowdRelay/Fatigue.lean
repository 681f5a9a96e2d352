import Mathlib.Algebra.BigOperators.Group.List.Basic
import Mathlib.Algebra.Order.Ring.Rat
import Mathlib.Data.List.Dedup
import Mathlib.Data.String.Basic
import Mathlib.Tactic.Ring
import CrowdRelay.MachineInt
import CrowdRelay.Medians
import CrowdRelay.SpacedRuns

namespace CrowdRelay

open MachineInt Medians Ranged SpacedRuns Watermark

/-!
# What an audience loses when it hears again too soon

Posts to a community within a week of the one before it, against posts after a
rest, each normalised by its community's median.  The numbers are read as exact
rationals.
-/

def restDays : ℚ := 7
def minPerArm : Nat := 5
def minCommunityPosts : Nat := 3

/-- One published post; of the day only differences are read. -/
structure SpacedPost where
  audience : String
  postedDay : ℚ
  score : ℚ
  deriving Repr, DecidableEq

structure FatigueMeasure where
  /-- The share of a rested post's engagement a quick follow-up loses. -/
  discount : ℚ
  quickPosts : U32
  restedPosts : U32
  deriving Repr, DecidableEq

def averageScore (lower upper : ℚ) : ℚ := (lower + upper) / 2

def audiences (posts : List SpacedPost) : List String :=
  (posts.map SpacedPost.audience).dedup.insertionSort (· ≤ ·)

/-- The posts to one audience. -/
def community (posts : List SpacedPost) (audience : String) : List SpacedPost :=
  posts.filter fun post => post.audience = audience

/-- What a community is normalised by, if it is counted at all. -/
def baseOf (community : List SpacedPost) : Option ℚ :=
  if community.length < minCommunityPosts then
    none
  else
    (median averageScore (community.map SpacedPost.score)).filter (0 < ·)

/-- The posts that follow another one: whether too soon, and how they did. -/
def readPairs (base : ℚ) (community : List SpacedPost) : List (Bool × ℚ) :=
  let sorted := inStampOrder SpacedPost.postedDay community
  (sorted.zip sorted.tail).map fun pair =>
    (decide (pair.2.postedDay - pair.1.postedDay < restDays), pair.2.score / base)

def readCommunity (community : List SpacedPost) : List (Bool × ℚ) :=
  match baseOf community with
  | none => []
  | some base => readPairs base community

def readPosts (posts : List SpacedPost) : List (Bool × ℚ) :=
  (audiences posts).flatMap fun audience =>
    readCommunity (community posts audience)

def quickArm (posts : List SpacedPost) : List ℚ :=
  ((readPosts posts).filter fun reading => reading.1).map Prod.snd

def restedArm (posts : List SpacedPost) : List ℚ :=
  ((readPosts posts).filter fun reading => !reading.1).map Prod.snd

def mean (values : List ℚ) : ℚ := values.sum / values.length

def measureFatigue (posts : List SpacedPost) : Option FatigueMeasure :=
  let quick := quickArm posts
  let rested := restedArm posts
  if quick.length < minPerArm || rested.length < minPerArm then
    none
  else if mean rested ≤ 0 then
    none
  else
    some
      { discount := max 0 (min 1 (1 - mean quick / mean rested))
        quickPosts := saturate quick.length
        restedPosts := saturate rested.length }

/-! ## The instants that open a run of posts -/

def counted (posts : List SpacedPost) : List (String × ℚ) :=
  (audiences posts).filterMap fun audience =>
    (baseOf (community posts audience)).map fun base => (audience, base)

def communityDays (posts : List SpacedPost) (audience : String) : List ℚ :=
  ((community posts audience).map SpacedPost.postedDay).insertionSort (· ≤ ·)

abbrev Instant := (String × ℚ) × ℚ

def firstInstants (posts : List SpacedPost) : List Instant :=
  (counted posts).flatMap fun entry =>
    ((communityDays posts entry.1).take 1).map fun day => (entry, day)

def restedInstants (posts : List SpacedPost) : List Instant :=
  (counted posts).flatMap fun entry =>
    (restedStamps restDays (communityDays posts entry.1)).map fun day =>
      (entry, day)

/-- The scores a community has at one instant, in the order of arrival. -/
def tiedScores (posts : List SpacedPost) (instant : Instant) : List ℚ :=
  ((community posts instant.1.1).filter fun post =>
    post.postedDay = instant.2).map SpacedPost.score

variable (pick : List ℚ → Option ℚ)

def pickedScore (posts : List SpacedPost)
    (instant : Instant) : ℚ :=
  (pick (tiedScores posts instant)).getD 0 / instant.1.2

/-- All normalised scores of the counted communities. -/
def totalScore (posts : List SpacedPost) : ℚ :=
  ((counted posts).map fun entry =>
    ((community posts entry.1).map fun post => post.score / entry.2).sum).sum

/-- The sum of the rested arm if each instant after a rest is opened by the
picked score. -/
def restedSum (posts : List SpacedPost) : ℚ :=
  ((restedInstants posts).map (pickedScore pick posts)).sum

/-- What is in no arm if the picked scores come first. -/
def firstSum (posts : List SpacedPost) : ℚ :=
  ((firstInstants posts).map (pickedScore pick posts)).sum

def quickSum (posts : List SpacedPost) : ℚ :=
  totalScore posts - firstSum pick posts - restedSum pick posts

def restedCount (posts : List SpacedPost) : Nat := (restedInstants posts).length

/-- The posts of the counted communities that follow another one. -/
def pairCount (posts : List SpacedPost) : Nat :=
  ((counted posts).map fun entry =>
    (community posts entry.1).length - 1).sum

def quickCount (posts : List SpacedPost) : Nat := pairCount posts - restedCount posts

section Arms

variable {posts : List SpacedPost} {day : ℚ}

theorem readPosts_eq :
    readPosts posts = (counted posts).flatMap fun entry =>
        readPairs entry.2 (community posts entry.1) := by
  unfold readPosts counted
  induction audiences posts with
  | nil => rfl
  | cons audience rest inductionHypothesis =>
    rw [List.flatMap_cons, inductionHypothesis, List.filterMap_cons, readCommunity]
    cases baseOf (community posts audience) with
    | none => rfl
    | some base => rfl

theorem communityDays_eq (audience : String) :
    communityDays posts audience =
      (inStampOrder SpacedPost.postedDay (community posts audience)).map
        SpacedPost.postedDay :=
  (map_stamp_inStampOrder _ _).symm

theorem rested_readPairs (base : ℚ) (posts : List SpacedPost) :
    ((readPairs base posts).filter fun reading => !reading.1).map Prod.snd =
      (rested restDays SpacedPost.postedDay
        (inStampOrder SpacedPost.postedDay posts)).map fun post => post.score / base := by
  rw [← map_snd_filter_zip_tail, List.map_map, readPairs, List.filter_map, List.map_map]
  congr 1
  refine List.filter_congr fun pair _ => ?_
  simp [← decide_not]

theorem rested_eq_heads (posts : List SpacedPost) :
    rested restDays SpacedPost.postedDay (inStampOrder SpacedPost.postedDay posts) =
      (restedStamps restDays
        ((inStampOrder SpacedPost.postedDay posts).map SpacedPost.postedDay)).filterMap fun day =>
        (posts.filter fun post => post.postedDay = day).head? := by
  rw [rested_eq_filterMap (by decide) (inStampOrder_pairwise _ posts)]
  refine List.filterMap_congr fun day _ => ?_
  rw [← List.head?_filter, filter_inStampOrder]

theorem exists_head_of_day {posts : List SpacedPost}
    (isDay : day ∈ posts.map SpacedPost.postedDay) :
    ∃ post, (posts.filter fun post => post.postedDay = day).head? = some post := by
  obtain ⟨post, isPost, isDay⟩ := List.mem_map.mp isDay
  have isTied : post ∈ posts.filter fun post => post.postedDay = day :=
    List.mem_filter.mpr ⟨isPost, decide_eq_true isDay⟩
  exact Option.isSome_iff_exists.mp (List.isSome_head?.mpr (List.ne_nil_of_mem isTied))

theorem mem_communityDays_iff {audience : String} :
    day ∈ communityDays posts audience ↔
      day ∈ (community posts audience).map SpacedPost.postedDay :=
  (List.perm_insertionSort _ _).mem_iff

theorem pickedScore_head {entry : String × ℚ} {post : SpacedPost}
    (isHead :
      ((community posts entry.1).filter fun post =>
        post.postedDay = day).head? = some post) :
    pickedScore List.head? posts (entry, day) = post.score / entry.2 := by
  rw [pickedScore, tiedScores, List.head?_map, isHead]
  rfl

theorem restedArm_eq :
    restedArm posts = (restedInstants posts).map (pickedScore List.head? posts) := by
  rw [restedArm, readPosts_eq, List.filter_flatMap, List.map_flatMap,
    restedInstants, List.map_flatMap]
  refine List.flatMap_congr fun entry _ => ?_
  rw [rested_readPairs, rested_eq_heads, ← communityDays_eq,
    List.map_filterMap, List.map_map, ← List.filterMap_eq_map]
  refine List.filterMap_congr fun day isRested => ?_
  obtain ⟨post, isHead⟩ :=
    exists_head_of_day (mem_communityDays_iff.mp (mem_of_mem_rested isRested))
  rw [isHead, Option.map_some, Function.comp_apply, Function.comp_apply, pickedScore_head isHead]

theorem restedArm_sum : (restedArm posts).sum = restedSum List.head? posts := by
  rw [restedArm_eq, restedSum]

theorem restedArm_length : (restedArm posts).length = restedCount posts := by
  rw [restedArm_eq, List.length_map, restedCount]

theorem arms_perm : (quickArm posts ++ restedArm posts).Perm ((readPosts posts).map Prod.snd) := by
  rw [quickArm, restedArm, ← List.map_append]
  exact (List.filter_append_perm _ _).map _

theorem length_readPairs (base : ℚ) (posts : List SpacedPost) :
    (readPairs base posts).length = posts.length - 1 := by
  have sameLength := (inStampOrder_perm SpacedPost.postedDay posts).length_eq
  simp only [readPairs, List.length_map, List.length_zip, List.length_tail, sameLength]
  exact Nat.min_eq_right (Nat.sub_le _ _)

theorem arms_length : (quickArm posts).length + (restedArm posts).length = pairCount posts := by
  have whole := (@arms_perm posts).length_eq
  rw [List.length_append, List.length_map, readPosts_eq, List.length_flatMap] at whole
  rw [whole, pairCount]
  simp only [length_readPairs]

theorem quickArm_length : (quickArm posts).length = quickCount posts := by
  rw [quickCount, ← arms_length, restedArm_length, Nat.add_sub_cancel]

/-- What a community reads is all it has but its first post. -/
theorem sum_readPairs (entry : String × ℚ) :
    ((readPairs entry.2 (community posts entry.1)).map Prod.snd).sum +
        (((communityDays posts entry.1).take 1).map fun day =>
          pickedScore List.head? posts (entry, day)).sum =
      ((community posts entry.1).map fun post =>
        post.score / entry.2).sum := by
  have isPosts := inStampOrder_perm SpacedPost.postedDay (community posts entry.1)
  have sameTies := @filter_inStampOrder _ _ _ SpacedPost.postedDay (community posts entry.1)
  rw [readPairs, communityDays_eq, List.map_map]
  rw [← (isPosts.map fun post => post.score / entry.2).sum_eq]
  cases sorted : inStampOrder SpacedPost.postedDay (community posts entry.1) with
  | nil => simp
  | cons first later =>
    have isHead :
        ((community posts entry.1).filter fun post =>
          post.postedDay = first.postedDay).head? = some first := by
      rw [← sameTies, sorted, List.filter_cons_of_pos (by simp)]
      rfl
    have readings :
        ((first :: later).zip later).map
            (Prod.snd ∘ fun pair : SpacedPost × SpacedPost =>
              (decide (pair.2.postedDay - pair.1.postedDay < restDays), pair.2.score / entry.2)) =
          later.map fun post => post.score / entry.2 := by
      have seconds : ((first :: later).zip later).map Prod.snd = later := List.map_snd_zip (by simp)
      conv_rhs => rw [← seconds, List.map_map]
      rfl
    dsimp only [List.tail_cons]
    rw [readings, List.map_cons, List.take_succ_cons, List.take_zero,
      List.map_singleton, List.sum_singleton, pickedScore_head isHead,
      List.map_cons, List.sum_cons, add_comm]

theorem sum_flatMap {Entry : Type} (values : Entry → List ℚ) :
    ∀ entries : List Entry,
      (entries.flatMap values).sum = (entries.map fun entry =>
        (values entry).sum).sum
  | [] => rfl
  | entry :: rest => by
      rw [List.flatMap_cons, List.sum_append, sum_flatMap values rest, List.map_cons, List.sum_cons]

theorem quickArm_sum : (quickArm posts).sum = quickSum List.head? posts := by
  have whole := (@arms_perm posts).sum_eq
  rw [List.sum_append, restedArm_sum, readPosts_eq, List.map_flatMap, sum_flatMap] at whole
  have allButFirst :
      ((counted posts).map fun entry =>
          ((readPairs entry.2 (community posts entry.1)).map
            Prod.snd).sum).sum + firstSum List.head? posts =
        totalScore posts := by
    rw [firstSum, firstInstants, List.map_flatMap, sum_flatMap, ← List.sum_map_add, totalScore]
    simp only [List.map_map, Function.comp_def, sum_readPairs]
  rw [quickSum, ← allButFirst, ← whole]
  ring

end Arms

end CrowdRelay
