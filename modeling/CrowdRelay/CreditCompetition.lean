import Mathlib.Data.List.Forall2
import Mathlib.Tactic.FieldSimp
import Mathlib.Tactic.NormNum
import CrowdRelay.CreditLedger

namespace CrowdRelay

open ProportionalShares

/-!
# Credit under competition

The attributed share of an outcome is the plain mean of the confidences of the
actions that count, whatever their weights are.  An action of little confidence
and much weight is credited from the confidence of the others, and one more
action that hardly reached anybody raises the credit of those already there.
-/

/-- What an action of a list is credited with, nothing where it has no entry. -/
def creditOf (tanh : Squash) (outcome : FanOutcome) (actions : List ActionExposure)
    (action : ActionExposure) : ℚ :=
  let credits := (allocate tanh outcome actions).credits
  (((positiveActions tanh actions).zip credits).find?
      fun credited => credited.1 = action).elim
    0 fun credited => credited.2.creditedIncrementalY14

structure WeakStaysWeak
    (tanh : Squash)
    (outcome : FanOutcome)
    (actions : List ActionExposure) : Prop where
  withinConfidence :
    ∀ entry ∈ (allocate tanh outcome actions).credits,
      entry.creditedIncrementalY14 ≤
        entry.attributionConfidence * outcome.observedIncrementalFans
  neverRaised :
    ∀ added : ActionExposure, added.Graded →
      ∀ enlarged : List ActionExposure, enlarged.Perm (added :: actions) →
        ∀ action ∈ actions,
          creditOf tanh outcome enlarged action ≤
            creditOf tanh outcome actions action

variable {tanh : Squash} {outcome : FanOutcome} {action : ActionExposure}

section Competition

variable {actions : List ActionExposure}

theorem find?_zip_map {Credit : Type} (credit : ActionExposure → Credit) :
    ((actions.zip (actions.map credit)).find?
        fun credited => credited.1 = action) =
      if action ∈ actions then some (action, credit action) else none := by
  induction actions with
  | nil => rfl
  | cons first rest inductionHypothesis =>
    rw [List.map_cons, List.zip_cons_cons, List.find?_cons, inductionHypothesis]
    by_cases isFirst : first = action
    · subst isFirst
      simp
    · simp [isFirst, Ne.symm isFirst]

theorem creditOf_eq (graded : ∀ action ∈ actions, action.Graded) (isAction : action ∈ actions) :
    creditOf tanh outcome actions action = action.weight tanh / totalWeight tanh actions *
        attributionMass tanh actions * outcome.observedIncrementalFans := by
  by_cases positive : 0 < action.weight tanh
  · have listed : action ∈ positiveActions tanh actions :=
      List.mem_filter.mpr ⟨isAction, decide_eq_true positive⟩
    have some : ¬ totalWeight tanh actions ≤ 0 := fun none => by
      rw [(no_weight_iff graded).mp none] at listed
      cases listed
    rw [creditOf, allocate_of_weight some]
    dsimp only
    rw [find?_zip_map, if_pos listed]
    rfl
  · have nothing : action.weight tanh = 0 :=
      le_antisymm (not_lt.mp positive) (weight_nonneg (graded action isAction))
    have unlisted : action ∉ positiveActions tanh actions := fun listed =>
      positive (of_decide_eq_true (List.mem_filter.mp listed).2)
    rw [nothing, zero_div, zero_mul, zero_mul]
    by_cases none : totalWeight tanh actions ≤ 0
    · rw [creditOf, (no_weight_iff graded).mp none]
      rfl
    · rw [creditOf, allocate_of_weight none]
      dsimp only
      rw [find?_zip_map, if_neg unlisted]
      rfl

theorem weight_le_totalWeight (graded : ∀ action ∈ actions, action.Graded)
    (isAction : action ∈ actions) :
    action.weight tanh ≤ totalWeight tanh actions :=
  List.single_le_sum
    (by
      intro weight isWeight
      obtain ⟨other, isOther, rfl⟩ := List.mem_map.mp isWeight
      exact weight_nonneg (graded other isOther))
    _ (List.mem_map_of_mem isAction)

/--
Credit stays within the confidence exactly where the attributed share of no
action's weight exceeds its confidence in the total.
-/
theorem withinConfidence_iff (gained : 0 < outcome.observedIncrementalFans)
    (graded : ∀ action ∈ actions, action.Graded) :
    (∀ entry ∈ (allocate tanh outcome actions).credits, entry.creditedIncrementalY14 ≤
          entry.attributionConfidence * outcome.observedIncrementalFans) ↔
      ∀ action ∈ positiveActions tanh actions,
        action.weight tanh * attributionMass tanh actions ≤
          action.attributionConfidence * totalWeight tanh actions := by
  by_cases none : totalWeight tanh actions ≤ 0
  · rw [allocate_of_no_weight none, (no_weight_iff graded).mp none]
    exact iff_of_true (fun _ listed => by cases listed) fun _ listed => by cases listed
  · have total : 0 < totalWeight tanh actions := not_le.mp none
    rw [allocate_of_weight none]
    simp only [List.forall_mem_map, creditEntry]
    refine forall₂_congr fun action _ => ?_
    rw [mul_le_mul_iff_left₀ gained, div_mul_eq_mul_div, div_le_iff₀ total]

theorem credit_of_no_fans (nobody : outcome.observedIncrementalFans = 0) :
    ∀ entry ∈ (allocate tanh outcome actions).credits, entry.creditedIncrementalY14 = 0 := by
  by_cases none : totalWeight tanh actions ≤ 0
  · rw [allocate_of_no_weight none]
    exact fun _ listed => by cases listed
  · rw [allocate_of_weight none]
    simp [creditEntry, nobody]

theorem withinConfidence_of_certain (observed : 0 ≤ outcome.observedIncrementalFans)
    (graded : ∀ action ∈ actions, action.Graded)
    (certain : ∀ action ∈ actions, action.Counts → action.attributionConfidence = 1) :
    ∀ entry ∈ (allocate tanh outcome actions).credits,
      entry.creditedIncrementalY14 ≤
        entry.attributionConfidence * outcome.observedIncrementalFans := by
  rcases observed.eq_or_lt with nobody | gained
  · intro entry listed
    rw [credit_of_no_fans nobody.symm entry listed, ← nobody, mul_zero]
  · refine (withinConfidence_iff gained graded).mpr fun action listed => ?_
    obtain ⟨isAction, positive⟩ := List.mem_filter.mp listed
    have counts : action.Counts :=
      (weight_pos_iff (graded action isAction)).mp (of_decide_eq_true positive)
    have weightNonneg := @weight_nonneg tanh action (graded action isAction)
    rw [certain action isAction counts, one_mul]
    exact (mul_le_of_le_one_right weightNonneg (attributionMass_le_one tanh actions)).trans
        (weight_le_totalWeight graded isAction)

section Enlarged

variable {added : ActionExposure} {enlarged : List ActionExposure}

theorem graded_of_perm (graded : ∀ action ∈ actions, action.Graded)
    (addedGraded : added.Graded) (permuted : enlarged.Perm (added :: actions)) :
    ∀ action ∈ enlarged, action.Graded := by
  intro action isAction
  rcases List.mem_cons.mp (permuted.subset isAction) with isAdded | wasThere
  · exact isAdded ▸ addedGraded
  · exact graded action wasThere

theorem totalWeight_of_perm (permuted : enlarged.Perm (added :: actions)) :
    totalWeight tanh enlarged = added.weight tanh + totalWeight tanh actions := by
  rw [totalWeight, (permuted.map _).sum_eq, List.map_cons, List.sum_cons]
  rfl

/-- Where everything is attributed, competition only takes credit away. -/
theorem creditOf_le_of_certain (observed : 0 ≤ outcome.observedIncrementalFans)
    (graded : ∀ action ∈ actions, action.Graded)
    (certain : ∀ action ∈ actions, action.Counts → action.attributionConfidence = 1)
    (addedGraded : added.Graded) (permuted : enlarged.Perm (added :: actions))
    (isAction : action ∈ actions) :
    creditOf tanh outcome enlarged action ≤ creditOf tanh outcome actions action := by
  have allGraded := graded_of_perm graded addedGraded permuted
  have stillAction : action ∈ enlarged := permuted.symm.subset (List.mem_cons_of_mem _ isAction)
  rw [creditOf_eq graded isAction, creditOf_eq allGraded stillAction]
  refine mul_le_mul_of_nonneg_right ?_ observed
  by_cases none : totalWeight tanh actions ≤ 0
  · have nothing : action.weight tanh = 0 :=
      le_antisymm ((weight_le_totalWeight graded isAction).trans none)
        (weight_nonneg (graded action isAction))
    simp [nothing]
  · have total : 0 < totalWeight tanh actions := not_le.mp none
    have somePositive : positiveActions tanh actions ≠ [] :=
      fun empty => none ((no_weight_iff graded).mpr empty)
    have whole : attributionMass tanh actions = 1 :=
      (attributionMass_eq_one_iff graded somePositive).mpr certain
    have atMost := attributionMass_le_one tanh enlarged
    have heavier : totalWeight tanh actions ≤ totalWeight tanh enlarged := by
      rw [totalWeight_of_perm permuted]
      exact le_add_of_nonneg_left (weight_nonneg addedGraded)
    have weightNonneg := @weight_nonneg tanh action (graded action isAction)
    rw [whole]
    exact mul_le_mul (div_le_div_of_nonneg_left weightNonneg total heavier) atMost
        (attributionMass_nonneg tanh allGraded)
        (div_nonneg weightNonneg total.le)

/-- A certain action that hardly reached anybody. -/
def barelyExposed (proximity : ℚ) : ActionExposure where
  actionId := 0
  exposureDelivered := true
  temporalProximity := proximity
  audienceMatch := 1
  attributionConfidence := 1
  treatmentEffectPrior := 0

theorem weight_barelyExposed (proximity : ℚ) :
    (barelyExposed proximity).weight tanh =
      proximity * (1 + boundedPriorWeight * (tanh 0).val) := by
  simp [ActionExposure.weight, barelyExposed]

theorem attributionMass_cons_certain (graded : ∀ action ∈ actions, action.Graded)
    {certain : ActionExposure} (confidence : certain.attributionConfidence = 1)
    (positive : 0 < certain.weight tanh) :
    attributionMass tanh (certain :: actions) =
      mean (1 :: (positiveActions tanh actions).map ActionExposure.attributionConfidence) := by
  have listed :
      positiveActions tanh (certain :: actions) = certain :: positiveActions tanh actions := by
    simp [positiveActions, positive]
  rw [attributionMass, listed, List.map_cons, confidence]
  refine min_eq_left (mean_le_one ?_)
  intro value isValue
  rcases List.mem_cons.mp isValue with isOne | isGrade
  · exact isOne.le
  · exact (confidence_of_positive graded isGrade).2

theorem exists_light_certain {room : ℚ} (hasRoom : 0 < room) :
    ∃ added : ActionExposure,
      added.Graded ∧ added.attributionConfidence = 1 ∧
        0 < added.weight tanh ∧ added.weight tanh < room := by
  let proximity := room / (2 * (1 + room))
  have positive : 0 < proximity := by positivity
  have proximityEq : proximity * (2 * (1 + room)) = room := div_mul_cancel₀ _ (by positivity)
  have atMostOne : proximity ≤ 1 := by
    rw [div_le_one (by positivity)]
    linarith
  refine ⟨barelyExposed proximity, ?_, rfl, ?_, ?_⟩
  · exact ⟨⟨positive.le, atMostOne⟩, ⟨zero_le_one, le_rfl⟩,
      ⟨zero_le_one, le_rfl⟩⟩
  · rw [weight_barelyExposed]
    exact mul_pos positive (priorNudge_pos 0)
  · have nudge : 1 + boundedPriorWeight * (tanh 0).val ≤ 2 := by
      have bounded := (tanh 0).property.2
      unfold boundedPriorWeight
      linarith
    have halved : proximity * 2 < room := by
      have product := mul_pos positive hasRoom
      linarith
    rw [weight_barelyExposed]
    exact (mul_le_mul_of_nonneg_left nudge positive.le).trans_lt halved

/-- A weight below what a raised mean leaves room for costs less than the mean
gains. -/
theorem mul_add_lt_of_weight_lt_room {mass raised weight total : ℚ} (atMostOne : mass ≤ 1)
    (positive : 0 < weight) (small : weight < (raised - mass) * total) :
    mass * (weight + total) < raised * total :=
  calc
    mass * (weight + total) = mass * weight + mass * total := mul_add _ _ _
    _ ≤ weight + mass * total := add_le_add_left (mul_le_of_le_one_left positive.le atMostOne) _
    _ < (raised - mass) * total + mass * total := add_lt_add_left small _
    _ = raised * total := by
      rw [← add_mul, sub_add_cancel]

/--
Where somebody who counts is uncertain, a certain action of small enough
weight raises every credit.
-/
theorem exists_raised (gained : 0 < outcome.observedIncrementalFans)
    (graded : ∀ action ∈ actions, action.Graded) (isAction : action ∈ actions)
    (counts : action.Counts) (uncertain : action.attributionConfidence ≠ 1) :
    ∃ added : ActionExposure, added.Graded ∧
      creditOf tanh outcome actions action < creditOf tanh outcome (added :: actions) action := by
  have positive : 0 < action.weight tanh := (weight_pos_iff (graded action isAction)).mpr counts
  have listed : action ∈ positiveActions tanh actions :=
    List.mem_filter.mpr ⟨isAction, decide_eq_true positive⟩
  have total : 0 < totalWeight tanh actions :=
    positive.trans_le (weight_le_totalWeight graded isAction)
  let grades := (positiveActions tanh actions).map ActionExposure.attributionConfidence
  have isGrade : action.attributionConfidence ∈ grades := List.mem_map_of_mem listed
  have atMostOne : ∀ grade ∈ grades, grade ≤ 1 :=
    fun _ member => (confidence_of_positive graded member).2
  have raised : mean grades < mean (1 :: grades) :=
    mean_lt_mean_cons_one (List.ne_nil_of_mem isGrade) atMostOne
      fun certain => uncertain (certain _ isGrade)
  have massEq : attributionMass tanh actions = mean grades := min_eq_left (mean_le_one atMostOne)
  -- The added weight stays below what the raised mean leaves room for.
  obtain ⟨added, addedGraded, certain, addedPositive, small⟩ :=
    @exists_light_certain tanh _ (mul_pos (sub_pos.mpr raised) total)
  refine ⟨added, addedGraded, ?_⟩
  have allGraded := graded_of_perm graded addedGraded (List.Perm.refl _)
  have newMass : attributionMass tanh (added :: actions) = mean (1 :: grades) :=
    attributionMass_cons_certain graded certain addedPositive
  have newTotal :
      totalWeight tanh (added :: actions) = added.weight tanh + totalWeight tanh actions :=
    totalWeight_of_perm (List.Perm.refl _)
  rw [creditOf_eq graded isAction,
    creditOf_eq allGraded (List.mem_cons_of_mem _ isAction), massEq, newMass,
    newTotal]
  refine mul_lt_mul_of_pos_right ?_ gained
  rw [div_mul_eq_mul_div, div_mul_eq_mul_div,
    div_lt_div_iff₀ total (add_pos addedPositive total), mul_assoc, mul_assoc]
  refine mul_lt_mul_of_pos_left ?_ positive
  exact mul_add_lt_of_weight_lt_room (mean_le_one atMostOne) addedPositive small

end Enlarged

/--
Weak evidence stays weak exactly where no fans were observed, or every action
that counts is certain.
-/
theorem weakStaysWeak_iff
    (tanh : Squash)
    (observed : 0 ≤ outcome.observedIncrementalFans)
    (graded : ∀ action ∈ actions, action.Graded) :
    WeakStaysWeak tanh outcome actions ↔
      outcome.observedIncrementalFans = 0 ∨
        ∀ action ∈ actions, action.Counts → action.attributionConfidence = 1 := by
  constructor
  · intro law
    by_contra neither
    rw [not_or] at neither
    push Not at neither
    obtain ⟨someFans, action, isAction, counts, uncertain⟩ := neither
    have gained : 0 < outcome.observedIncrementalFans := observed.lt_of_ne' someFans
    obtain ⟨added, addedGraded, raised⟩ :=
      @exists_raised tanh _ _ _ gained graded isAction counts uncertain
    exact absurd
      (law.neverRaised added addedGraded _ (List.Perm.refl _) action isAction)
      (not_le.mpr raised)
  · rintro (nobody | certain)
    · refine ⟨fun entry listed => ?_, ?_⟩
      · rw [credit_of_no_fans nobody entry listed, nobody, mul_zero]
      · intro added addedGraded enlarged permuted action isAction
        have stillAction : action ∈ enlarged :=
          permuted.symm.subset (List.mem_cons_of_mem _ isAction)
        rw [creditOf_eq graded isAction,
          creditOf_eq (graded_of_perm graded addedGraded permuted) stillAction,
          nobody, mul_zero, mul_zero]
    · exact ⟨withinConfidence_of_certain observed graded certain,
          fun _ addedGraded _ permuted _ isAction =>
            creditOf_le_of_certain observed graded certain addedGraded permuted
              isAction⟩

end Competition

def tenFans : FanOutcome where
  observedIncrementalFans := 10
  durableFans30d := none

theorem weakStaysWeak_halfSure :
    WeakStaysWeak noPrior tenFans [halfSure] ↔
      tenFans.observedIncrementalFans = 0 ∨
        ∀ action ∈ [halfSure], action.Counts → action.attributionConfidence = 1 :=
  weakStaysWeak_iff noPrior (by decide +kernel) halfSure_graded

/-- An observational action everybody saw. -/
def observationalPost : ActionExposure where
  actionId := 1
  exposureDelivered := true
  temporalProximity := 1
  audienceMatch := 1
  attributionConfidence := 1 / 10
  treatmentEffectPrior := 0

/-- A randomized one that was long ago. -/
def randomizedPost : ActionExposure where
  actionId := 2
  exposureDelivered := true
  temporalProximity := 1 / 1000
  audienceMatch := 1
  attributionConfidence := 1
  treatmentEffectPrior := 0

/--
Alone, the observational action is credited with one of the ten fans.  With the
randomized one beside it, it is credited with more than five.
-/
theorem observationalPost_claims_more :
    creditOf noPrior tenFans [observationalPost] observationalPost = 1 ∧
      creditOf noPrior tenFans [randomizedPost, observationalPost]
        observationalPost = 550 / 101 ∧
      ¬ WeakStaysWeak noPrior tenFans [observationalPost] ∧
      ¬ WeakStaysWeak noPrior tenFans [randomizedPost, observationalPost] := by
  have alone : creditOf noPrior tenFans [observationalPost] observationalPost = 1 := by
    decide +kernel
  have beside :
      creditOf noPrior tenFans [randomizedPost, observationalPost]
        observationalPost = 550 / 101 := by
    decide +kernel
  have graded : randomizedPost.Graded := ⟨by decide +kernel, by decide +kernel, by decide +kernel⟩
  refine ⟨alone, beside, ?_, ?_⟩
  · intro law
    have kept := law.neverRaised randomizedPost graded _ (List.Perm.refl _)
        observationalPost List.mem_cons_self
    rw [alone, beside] at kept
    exact absurd kept (by decide +kernel)
  · intro law
    have kept := law.withinConfidence
    exact absurd kept (by decide +kernel)

/-!
## The prior cannot feed itself

The priors of the model change who is credited with how much by bounded
factors.  They change neither who is credited nor how much of an outcome is
attributed at all.
-/

def ActionExposure.withPrior (action : ActionExposure)
    (prior : ℚ) : ActionExposure :=
  { action with treatmentEffectPrior := prior }

/-- What an action weighs before the prior nudges it. -/
def ActionExposure.observable (action : ActionExposure) : ℚ :=
  if action.exposureDelivered then
    action.temporalProximity * action.audienceMatch * action.attributionConfidence
  else
    0

/-- Two allocations of one outcome that differ by a bounded factor. -/
structure NudgedWithin
    (low high : ℚ)
    (result nudged : AttributionResult) : Prop where
  actions :
    nudged.credits.map CreditEntry.actionId =
      result.credits.map CreditEntry.actionId
  unattributed : nudged.unattributed = result.unattributed
  credits :
    List.Forall₂
      (fun entry other =>
        low * entry.creditedIncrementalY14 ≤ other.creditedIncrementalY14 ∧
          other.creditedIncrementalY14 ≤
            high * entry.creditedIncrementalY14)
      result.credits nudged.credits

/-- The factor a prior changes a weight by. -/
def priorNudge (tanh : Squash) (prior : ℚ) : ℚ := 1 + boundedPriorWeight * (tanh prior).val

theorem priorNudge_bounds (prior : ℚ) :
    4 / 5 ≤ priorNudge tanh prior ∧ priorNudge tanh prior ≤ 6 / 5 := by
  have bounded := (tanh prior).property
  unfold priorNudge boundedPriorWeight
  constructor <;> linarith

theorem weight_eq_observable :
    action.weight tanh = action.observable * priorNudge tanh action.treatmentEffectPrior := by
  unfold ActionExposure.weight ActionExposure.observable priorNudge
  split
  · rfl
  · rw [zero_mul]

theorem observable_nonneg (graded : action.Graded) : 0 ≤ action.observable := by
  obtain ⟨⟨proximity, _⟩, ⟨audience, _⟩, ⟨confidence, _⟩⟩ := graded
  unfold ActionExposure.observable
  split
  · exact mul_nonneg (mul_nonneg proximity audience) confidence
  · exact le_rfl

theorem weight_withPrior_bounds (graded : action.Graded) (prior : ℚ) {least most : ℚ}
    (positive : 0 < least)
    (nudge :
      least ≤ priorNudge tanh action.treatmentEffectPrior ∧
        priorNudge tanh action.treatmentEffectPrior ≤ most) :
    4 / 5 / most * action.weight tanh ≤ (action.withPrior prior).weight tanh ∧
      (action.withPrior prior).weight tanh ≤ 6 / 5 / least * action.weight tanh := by
  have observable := observable_nonneg graded
  have nudged := @priorNudge_bounds tanh prior
  have sameObservable : (action.withPrior prior).observable = action.observable := rfl
  have newPrior : (action.withPrior prior).treatmentEffectPrior = prior := rfl
  have mostPositive : 0 < most := positive.trans_le (nudge.1.trans nudge.2)
  rw [weight_eq_observable, weight_eq_observable, sameObservable, newPrior]
  constructor
  · calc
      4 / 5 / most * (action.observable * priorNudge tanh action.treatmentEffectPrior) ≤
          4 / 5 / most * (action.observable * most) :=
        mul_le_mul_of_nonneg_left (mul_le_mul_of_nonneg_left nudge.2 observable)
          (div_nonneg (by norm_num) mostPositive.le)
      _ = action.observable * (4 / 5) := by
        field_simp
      _ ≤ action.observable * priorNudge tanh prior := mul_le_mul_of_nonneg_left nudged.1 observable
  · calc
      action.observable * priorNudge tanh prior ≤ action.observable * (6 / 5) :=
        mul_le_mul_of_nonneg_left nudged.2 observable
      _ = 6 / 5 / least * (action.observable * least) := by
        field_simp
      _ ≤ 6 / 5 / least * (action.observable * priorNudge tanh action.treatmentEffectPrior) :=
        mul_le_mul_of_nonneg_left (mul_le_mul_of_nonneg_left nudge.1 observable)
          (div_nonneg (by norm_num) positive.le)

section Repricing

/-- Actions, each with the prior that is to replace its own. -/
abbrev Repricing := List (ActionExposure × ℚ)

def Repricing.actions (repricing : Repricing) : List ActionExposure := repricing.map Prod.fst

def Repricing.repriced (repricing : Repricing) : List ActionExposure :=
  repricing.map fun priced => priced.1.withPrior priced.2

variable {repricing : Repricing}

theorem repriced_graded (graded : ∀ action ∈ repricing.actions, action.Graded) :
    ∀ action ∈ repricing.repriced, action.Graded := by
  intro action isAction
  obtain ⟨priced, isPriced, rfl⟩ := List.mem_map.mp isAction
  have facts := graded priced.1 (List.mem_map_of_mem isPriced)
  exact ⟨facts.proximity, facts.audience, facts.confidence⟩

/-- The prices of the actions of positive weight. -/
def Repricing.counted (tanh : Squash) (repricing : Repricing) : Repricing :=
  repricing.filter fun priced => decide (0 < priced.1.weight tanh)

theorem positiveActions_actions :
    positiveActions tanh repricing.actions = (repricing.counted tanh).map Prod.fst :=
  List.filter_map

section

variable (graded : ∀ action ∈ repricing.actions, action.Graded)
include graded

theorem positiveActions_repriced :
    positiveActions tanh repricing.repriced = (repricing.counted tanh).map fun priced =>
        priced.1.withPrior priced.2 := by
  rw [positiveActions, Repricing.repriced, List.filter_map, Repricing.counted]
  refine congrArg _ (List.filter_congr fun priced isPriced => ?_)
  have facts := graded priced.1 (List.mem_map_of_mem isPriced)
  have newFacts : (priced.1.withPrior priced.2).Graded :=
    ⟨facts.proximity, facts.audience, facts.confidence⟩
  exact decide_eq_decide.mpr ((weight_pos_iff newFacts).trans (weight_pos_iff facts).symm)

theorem attributionMass_repriced :
    attributionMass tanh repricing.repriced = attributionMass tanh repricing.actions := by
  rw [attributionMass, attributionMass, positiveActions_repriced graded,
    positiveActions_actions, List.map_map, List.map_map]
  rfl

theorem no_weight_repriced :
    totalWeight tanh repricing.repriced ≤ 0 ↔ totalWeight tanh repricing.actions ≤ 0 := by
  rw [no_weight_iff graded, no_weight_iff (repriced_graded graded),
    positiveActions_repriced graded, positiveActions_actions,
    List.map_eq_nil_iff, List.map_eq_nil_iff]

end

theorem nudgedWithin_of_shares {low high : ℚ} (observed : 0 ≤ outcome.observedIncrementalFans)
    (graded : ∀ action ∈ repricing.actions, action.Graded)
    (shares :
      ∀ priced ∈ repricing,
        low * (priced.1.weight tanh / totalWeight tanh repricing.actions) ≤
            (priced.1.withPrior priced.2).weight tanh / totalWeight tanh repricing.repriced ∧
          (priced.1.withPrior priced.2).weight tanh / totalWeight tanh repricing.repriced ≤
            high * (priced.1.weight tanh / totalWeight tanh repricing.actions)) :
    NudgedWithin low high (allocate tanh outcome repricing.actions)
      (allocate tanh outcome repricing.repriced) := by
  have newGraded := repriced_graded graded
  by_cases none : totalWeight tanh repricing.actions ≤ 0
  · have stillNone := (no_weight_repriced graded).mpr none
    rw [allocate_of_no_weight none, allocate_of_no_weight stillNone]
    exact ⟨rfl, rfl, .nil⟩
  · have stillSome : ¬ totalWeight tanh repricing.repriced ≤ 0 :=
      fun stillNone => none ((no_weight_repriced graded).mp stillNone)
    have massNonneg := attributionMass_nonneg tanh graded
    rw [allocate_of_weight none, allocate_of_weight stillSome,
      sum_credited graded none, sum_credited newGraded stillSome,
      attributionMass_repriced graded, positiveActions_repriced graded,
      positiveActions_actions]
    refine ⟨?_, rfl, ?_⟩
    · simp only [List.map_map]
      rfl
    · simp only [List.map_map, List.forall₂_map_left_iff,
        List.forall₂_map_right_iff, List.forall₂_same]
      intro priced isCounted
      obtain ⟨lower, upper⟩ := shares priced (List.mem_of_mem_filter isCounted)
      have scale :
          0 ≤ attributionMass tanh repricing.actions *
            outcome.observedIncrementalFans :=
        mul_nonneg massNonneg observed
      simp only [Function.comp_apply, creditEntry, mul_assoc]
      rw [← mul_assoc low, ← mul_assoc high]
      exact ⟨mul_le_mul_of_nonneg_right lower scale, mul_le_mul_of_nonneg_right upper scale⟩

/-- The shares differ by what the two nudges differ by, twice. -/
theorem share_withPrior_bounds (graded : ∀ action ∈ repricing.actions, action.Graded)
    {least most : ℚ} (positive : 0 < least)
    (nudges :
      ∀ priced ∈ repricing,
        least ≤ priorNudge tanh priced.1.treatmentEffectPrior ∧
          priorNudge tanh priced.1.treatmentEffectPrior ≤ most)
    (atMost : least ≤ most) :
    ∀ priced ∈ repricing,
      4 / 5 / most / (6 / 5 / least) * (priced.1.weight tanh / totalWeight tanh repricing.actions) ≤
          (priced.1.withPrior priced.2).weight tanh / totalWeight tanh repricing.repriced ∧
        (priced.1.withPrior priced.2).weight tanh / totalWeight tanh repricing.repriced ≤
          6 / 5 / least / (4 / 5 / most) *
            (priced.1.weight tanh / totalWeight tanh repricing.actions) := by
  intro priced isPriced
  have mostPositive : 0 < most := positive.trans_le atMost
  have facts : ∀ priced ∈ repricing, (Prod.fst priced : ActionExposure).Graded :=
    fun one isOne => graded one.1 (List.mem_map_of_mem isOne)
  have shares := @share_bounds ℚ _ _ _ _ repricing (fun priced => priced.1.weight tanh)
      (fun priced => (priced.1.withPrior priced.2).weight tanh)
      (4 / 5 / most) (6 / 5 / least) (by positivity)
      (fun one isOne => weight_nonneg (facts one isOne))
      (fun one isOne =>
        weight_withPrior_bounds (facts one isOne) one.2 positive (nudges one isOne))
      priced isPriced
  rw [totalWeight, totalWeight, Repricing.actions, Repricing.repriced, List.map_map, List.map_map]
  exact shares

theorem nudgedWithin_repriced (observed : 0 ≤ outcome.observedIncrementalFans)
    (graded : ∀ action ∈ repricing.actions, action.Graded) :
    NudgedWithin (4 / 9) (9 / 4) (allocate tanh outcome repricing.actions)
      (allocate tanh outcome repricing.repriced) := by
  have shares := @share_withPrior_bounds tanh repricing graded (4 / 5) (6 / 5)
      (by norm_num) (fun _ _ => priorNudge_bounds _) (by norm_num)
  have least : (4 / 5 / (6 / 5) / (6 / 5 / (4 / 5)) : ℚ) = 4 / 9 := by
    norm_num
  have most : (6 / 5 / (4 / 5) / (4 / 5 / (6 / 5)) : ℚ) = 9 / 4 := by
    norm_num
  rw [least, most] at shares
  exact nudgedWithin_of_shares observed graded shares

/-- Where all own priors are zero, only the new ones nudge. -/
theorem share_bounds_of_no_priors (graded : ∀ action ∈ repricing.actions, action.Graded)
    (noPriors : ∀ action ∈ repricing.actions, action.treatmentEffectPrior = 0) :
    ∀ priced ∈ repricing,
      2 / 3 * (priced.1.weight tanh / totalWeight tanh repricing.actions) ≤
          (priced.1.withPrior priced.2).weight tanh / totalWeight tanh repricing.repriced ∧
        (priced.1.withPrior priced.2).weight tanh / totalWeight tanh repricing.repriced ≤
          3 / 2 * (priced.1.weight tanh / totalWeight tanh repricing.actions) := by
  have nudges :
      ∀ priced ∈ repricing,
        priorNudge tanh 0 ≤ priorNudge tanh (Prod.fst priced).treatmentEffectPrior ∧
          priorNudge tanh (Prod.fst priced).treatmentEffectPrior ≤ priorNudge tanh 0 := by
    intro priced isPriced
    rw [noPriors priced.1 (List.mem_map_of_mem isPriced)]
    exact ⟨le_rfl, le_rfl⟩
  have positive : 0 < priorNudge tanh 0 := priorNudge_pos 0
  have shares := share_withPrior_bounds graded positive nudges le_rfl
  have least : 4 / 5 / priorNudge tanh 0 / (6 / 5 / priorNudge tanh 0) = 2 / 3 := by
    rw [div_div_div_cancel_right₀ positive.ne']
    norm_num
  have most : 6 / 5 / priorNudge tanh 0 / (4 / 5 / priorNudge tanh 0) = 3 / 2 := by
    rw [div_div_div_cancel_right₀ positive.ne']
    norm_num
  rwa [least, most] at shares

/-- The repricing that puts the own priors back. -/
def Repricing.undone (repricing : Repricing) : Repricing :=
  repricing.map fun priced =>
    (priced.1.withPrior priced.2, priced.1.treatmentEffectPrior)

theorem undone_actions : repricing.undone.actions = repricing.repriced := List.map_map

theorem undone_repriced : repricing.undone.repriced = repricing.actions := List.map_map

theorem nudgedWithin_of_no_priors (observed : 0 ≤ outcome.observedIncrementalFans)
    (graded : ∀ action ∈ repricing.actions, action.Graded)
    (noPriors :
      (∀ action ∈ repricing.actions, action.treatmentEffectPrior = 0) ∨
        ∀ action ∈ repricing.repriced, action.treatmentEffectPrior = 0) :
    NudgedWithin (2 / 3) (3 / 2) (allocate tanh outcome repricing.actions)
      (allocate tanh outcome repricing.repriced) := by
  refine nudgedWithin_of_shares observed graded ?_
  rcases noPriors with before | after
  · exact share_bounds_of_no_priors graded before
  · intro priced isPriced
    have back := @share_bounds_of_no_priors tanh repricing.undone
        (by rw [undone_actions]; exact repriced_graded graded)
        (by rw [undone_actions]; exact after)
        _ (List.mem_map_of_mem isPriced)
    rw [undone_actions, undone_repriced] at back
    have same :
        (priced.1.withPrior priced.2).withPrior priced.1.treatmentEffectPrior =
          priced.1 :=
      rfl
    rw [same] at back
    constructor
    · linarith [back.2]
    · linarith [back.1]

end Repricing

/-- What replacing the priors of an allocation can change. -/
structure PriorsOnlyNudge
    (tanh : Squash)
    (outcome : FanOutcome)
    (repricing : Repricing) : Prop where
  bounded :
    NudgedWithin (4 / 9) (9 / 4)
      (allocate tanh outcome repricing.actions)
      (allocate tanh outcome repricing.repriced)
  boundedByNothing :
    (∀ action ∈ repricing.actions, action.treatmentEffectPrior = 0) ∨
        (∀ action ∈ repricing.repriced, action.treatmentEffectPrior = 0) →
      NudgedWithin (2 / 3) (3 / 2)
        (allocate tanh outcome repricing.actions)
        (allocate tanh outcome repricing.repriced)

theorem priorsOnlyNudge
    (tanh : Squash)
    {outcome : FanOutcome}
    (observed : 0 ≤ outcome.observedIncrementalFans)
    {repricing : Repricing}
    (graded : ∀ action ∈ repricing.actions, action.Graded) :
    PriorsOnlyNudge tanh outcome repricing where
  bounded := nudgedWithin_repriced observed graded
  boundedByNothing := nudgedWithin_of_no_priors observed graded

/-- The squash that cuts the numbers off at the ends of the interval. -/
def clamped : Squash := fun prior =>
  ⟨max (-1) (min prior 1), le_max_left _ _, max_le (by norm_num) (min_le_right _ _)⟩

/-- Two posts, the second of which the model comes to believe in. -/
theorem priorsOnlyNudge_twoPosts :
    PriorsOnlyNudge clamped tenFans
      [(observationalPost, 0), (randomizedPost, 3)] := by
  refine priorsOnlyNudge clamped (by decide +kernel) fun action isAction => ?_
  rcases List.mem_cons.mp isAction with isFirst | isSecond
  · rw [isFirst]
    exact ⟨by decide +kernel, by decide +kernel, by decide +kernel⟩
  · rw [List.mem_singleton.mp isSecond]
    exact ⟨by decide +kernel, by decide +kernel, by decide +kernel⟩

end CrowdRelay
