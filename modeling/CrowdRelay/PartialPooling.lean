import Mathlib.Algebra.Order.BigOperators.Group.List
import Mathlib.Data.Rat.Floor
import Mathlib.Tactic.Linarith
import CrowdRelay.HierarchicalPosterior

namespace CrowdRelay

open PrecisionWeighted

/-!
# What a template predicts from its own observations

A template starts from what everything else taught until then, which is worth
as many observations as were made.  From its first own observation on nothing
but its own observations move it, and predictions are drawn to its own mean as
these grow in number.
-/

/-- One outcome, of whatever it was observed of. -/
structure PooledOutcome where
  templateId : Option String
  subredditType : Option String
  targetKey : Option String
  observation : ℚ
  deriving DecidableEq

theorem NormalPosterior.update_eq_observe {observation variance : ℚ}
    (nonneg : 0 ≤ observation) (noisy : 0 < variance) (posterior : NormalPosterior) :
    NormalPosterior.update observation variance posterior =
      posterior.observe ⟨observation, variance⟩ := by
  have accepted : NormalPosterior.accepts observation variance = true := by
    simp [NormalPosterior.accepts, FiniteTest.isFinite, nonneg, noisy]
  rw [NormalPosterior.update, accepted]
  rfl

namespace HierarchicalPosterior

def learn (variance : ℚ) (posterior : HierarchicalPosterior ℚ)
    (outcome : PooledOutcome) : HierarchicalPosterior ℚ :=
  posterior.updateWithTarget outcome.templateId outcome.subredditType
    outcome.targetKey outcome.observation variance

/-- A history, from a prior of everything. -/
def learnAll (variance priorMean priorVariance : ℚ)
    (history : List PooledOutcome) : HierarchicalPosterior ℚ :=
  history.foldl (learn variance) (.new (NormalPosterior.prior priorMean priorVariance))

/-- What was observed of a template. -/
def ownValues (templateId : String)
    (history : List PooledOutcome) : List ℚ :=
  (history.filter (·.templateId = some templateId)).map (·.observation)

def ownMean (templateId : String)
    (history : List PooledOutcome) : ℚ :=
  (ownValues templateId history).sum / (ownValues templateId history).length

def observedBefore (templateId : String)
    (history : List PooledOutcome) : List PooledOutcome :=
  history.takeWhile (·.templateId ≠ some templateId)

/-- Outcomes that are taken, with values of an interval. -/
structure AcceptedBetween
    (low high : ℚ)
    (history : List PooledOutcome) : Prop where
  accepted : ∀ outcome ∈ history, 0 ≤ outcome.observation
  between :
    ∀ outcome ∈ history,
      low ≤ outcome.observation ∧ outcome.observation ≤ high

/-! ## What a history teaches each level -/

section Levels

variable {variance : ℚ} {posterior : HierarchicalPosterior ℚ} {outcome : PooledOutcome}
  {low high : ℚ} {history : List PooledOutcome} {templateId : String}

theorem global_learn (nonneg : 0 ≤ outcome.observation) (noisy : 0 < variance) :
    (posterior.learn variance outcome).global =
      posterior.global.observe ⟨outcome.observation, variance⟩ :=
  NormalPosterior.update_eq_observe nonneg noisy posterior.global

theorem byTemplate_learn (nonneg : 0 ≤ outcome.observation) (noisy : 0 < variance)
    (templateId : String) :
    (posterior.learn variance outcome).byTemplate templateId =
      if outcome.templateId = some templateId then
        some
          (((posterior.byTemplate templateId).getD
              (NormalPosterior.prior posterior.global.mean posterior.global.variance)).observe
            ⟨outcome.observation, variance⟩)
      else
        posterior.byTemplate templateId := by
  rw [← NormalPosterior.update_eq_observe nonneg noisy]
  exact byTemplate_moveLevels _ _ _ _ _ _

theorem bySubredditType_learn (nonneg : 0 ≤ outcome.observation) (noisy : 0 < variance)
    (subredditType : String) :
    (posterior.learn variance outcome).bySubredditType subredditType =
      if outcome.subredditType = some subredditType then
        some
          (((posterior.bySubredditType subredditType).getD
              (NormalPosterior.prior posterior.global.mean posterior.global.variance)).observe
            ⟨outcome.observation, variance⟩)
      else
        posterior.bySubredditType subredditType := by
  rw [← NormalPosterior.update_eq_observe nonneg noisy]
  exact moveEntry_apply _ _ _ _ _

section

variable (accepted : ∀ outcome ∈ history, 0 ≤ outcome.observation)
include accepted

theorem global_foldl_learn (noisy : 0 < variance) :
    (history.foldl (learn variance) posterior).global =
      (observedWith variance (history.map (·.observation))).foldl
        Estimate.observe posterior.global := by
  induction history generalizing posterior with
  | nil => rfl
  | cons outcome rest inductionHypothesis =>
    have nonneg := accepted outcome List.mem_cons_self
    rw [List.foldl_cons, inductionHypothesis fun other member =>
        accepted other (List.mem_cons_of_mem _ member),
      global_learn nonneg noisy]
    rfl

theorem byTemplate_foldl_of_some {own : NormalPosterior} (noisy : 0 < variance)
    (known : posterior.byTemplate templateId = some own) :
    (history.foldl (learn variance) posterior).byTemplate templateId =
      some ((observedWith variance (ownValues templateId history)).foldl Estimate.observe own) := by
  induction history generalizing posterior own with
  | nil => exact known
  | cons outcome rest inductionHypothesis =>
    have nonneg := accepted outcome List.mem_cons_self
    have moved := @byTemplate_learn variance posterior outcome nonneg noisy templateId
    have later : ∀ other ∈ rest, 0 ≤ other.observation :=
      fun other member => accepted other (List.mem_cons_of_mem _ member)
    by_cases isOwn : outcome.templateId = some templateId
    · rw [if_pos isOwn, known] at moved
      rw [List.foldl_cons, inductionHypothesis later moved]
      simp [ownValues, observedWith, isOwn]
    · rw [if_neg isOwn, known] at moved
      rw [List.foldl_cons, inductionHypothesis later moved]
      simp [ownValues, isOwn]

/-- A template starts from what was believed before its first observation. -/
theorem byTemplate_foldl_of_none (noisy : 0 < variance)
    (unknown : posterior.byTemplate templateId = none)
    (observed : ownValues templateId history ≠ []) :
    (history.foldl (learn variance) posterior).byTemplate templateId = some
        ((observedWith variance (ownValues templateId history)).foldl Estimate.observe
          (NormalPosterior.prior
            ((observedBefore templateId history).foldl (learn variance) posterior).global.mean
            ((observedBefore templateId history).foldl (learn variance)
              posterior).global.variance)) := by
  induction history generalizing posterior with
  | nil => exact absurd rfl observed
  | cons outcome rest inductionHypothesis =>
    have nonneg := accepted outcome List.mem_cons_self
    have moved := @byTemplate_learn variance posterior outcome nonneg noisy templateId
    have later : ∀ other ∈ rest, 0 ≤ other.observation :=
      fun other member => accepted other (List.mem_cons_of_mem _ member)
    by_cases isOwn : outcome.templateId = some templateId
    · rw [if_pos isOwn, unknown] at moved
      rw [List.foldl_cons, byTemplate_foldl_of_some later noisy moved]
      simp [ownValues, observedBefore, observedWith, isOwn]
    · rw [if_neg isOwn, unknown] at moved
      have stillObserved : ownValues templateId rest ≠ [] := by
        simpa [ownValues, isOwn] using observed
      rw [List.foldl_cons, inductionHypothesis later moved stillObserved]
      simp [ownValues, observedBefore, isOwn]

end

/-- A belief whose mean lies in an interval. -/
structure Believes
    (low high : ℚ)
    (belief : NormalPosterior) : Prop where
  spread : 0 < belief.variance
  between : low ≤ belief.mean ∧ belief.mean ≤ high

theorem Believes.observe {belief : NormalPosterior} {value : ℚ}
    (believes : Believes low high belief) (noisy : 0 < variance)
    (between : low ≤ value ∧ value ≤ high) :
    Believes low high (belief.observe ⟨value, variance⟩) where
  spread := Estimate.variance_observe_pos believes.spread noisy
  between := Estimate.mean_observe_between believes.spread noisy believes.between between

/-- What templates are drawn to: everything, and kinds of communities. -/
structure ParentsBelieve
    (low high : ℚ)
    (posterior : HierarchicalPosterior ℚ) : Prop where
  global : Believes low high posterior.global
  bySubredditType :
    ∀ subredditType belief,
      posterior.bySubredditType subredditType = some belief →
        Believes low high belief

theorem ParentsBelieve.learn (parents : ParentsBelieve low high posterior)
    (noisy : 0 < variance) (nonneg : 0 ≤ outcome.observation)
    (between : low ≤ outcome.observation ∧ outcome.observation ≤ high) :
    ParentsBelieve low high (posterior.learn variance outcome) where
  global := by
    rw [global_learn nonneg noisy]
    exact parents.global.observe noisy between
  bySubredditType := by
    intro subredditType belief isBelief
    rw [bySubredditType_learn nonneg noisy] at isBelief
    split at isBelief
    · obtain rfl := Option.some.inj isBelief
      refine Believes.observe ?_ noisy between
      cases known : posterior.bySubredditType subredditType with
      | none => exact ⟨parents.global.spread, parents.global.between⟩
      | some old => exact parents.bySubredditType subredditType old known
    · exact parents.bySubredditType subredditType belief isBelief

theorem ParentsBelieve.foldl_learn (parents : ParentsBelieve low high posterior)
    (noisy : 0 < variance) (taken : AcceptedBetween low high history) :
    ParentsBelieve low high (history.foldl (HierarchicalPosterior.learn variance) posterior) := by
  induction history generalizing posterior with
  | nil => exact parents
  | cons outcome rest inductionHypothesis =>
    have moved := parents.learn noisy (taken.accepted outcome List.mem_cons_self)
        (taken.between outcome List.mem_cons_self)
    exact inductionHypothesis moved
        { accepted := fun other member =>
            taken.accepted other (List.mem_cons_of_mem _ member)
          between := fun other member =>
            taken.between other (List.mem_cons_of_mem _ member) }

end Levels

/-! ## Predictions -/

variable {low high : ℚ} {posterior : HierarchicalPosterior ℚ}

theorem ParentsBelieve.parent (parents : ParentsBelieve low high posterior)
    (subredditType : Option String) :
    Believes low high ((subredditType.bind posterior.bySubredditType).getD posterior.global) := by
  cases subredditType with
  | none => exact parents.global
  | some subredditType =>
    cases known : posterior.bySubredditType subredditType with
    | none => simpa [known] using parents.global
    | some belief =>
      simpa [known] using parents.bySubredditType subredditType belief known

variable {templateId : String}

theorem mean_predict_of_some {subredditType : Option String} {own : NormalPosterior}
    (known : posterior.byTemplate templateId = some own) (observed : 0 < own.count) :
    (posterior.predict templateId subredditType).1 =
      own.count / (own.count + shrinkageStrength) * own.mean +
        (1 - own.count / (own.count + shrinkageStrength)) *
          ((subredditType.bind posterior.bySubredditType).getD posterior.global).mean := by
  simp only [predict, known, if_pos observed]
  rfl

theorem ownMean_between {history : List PooledOutcome} (taken : AcceptedBetween low high history)
    (observed : 0 < (ownValues templateId history).length) :
    low ≤ ownMean templateId history ∧ ownMean templateId history ≤ high := by
  have positive : (0 : ℚ) < (ownValues templateId history).length := Nat.cast_pos.mpr observed
  have each : ∀ value ∈ ownValues templateId history, low ≤ value ∧ value ≤ high := by
    intro value member
    obtain ⟨outcome, inHistory, rfl⟩ := List.mem_map.mp member
    exact taken.between outcome (List.mem_of_mem_filter inHistory)
  constructor
  · refine (le_div_iff₀ positive).mpr ?_
    have least := List.card_nsmul_le_sum _ low fun value member => (each value member).1
    rwa [nsmul_eq_mul, mul_comm] at least
  · refine (div_le_iff₀ positive).mpr ?_
    have most := List.sum_le_card_nsmul _ high fun value member => (each value member).2
    rwa [nsmul_eq_mul, mul_comm] at most

/-- Shares of a mean that is drawn off twice are those of one stronger draw. -/
theorem drawn_share_le {count strength shrinkage : ℚ} (observed : 1 ≤ count)
    (strengthNonneg : 0 ≤ strength) (shrinkageNonneg : 0 ≤ shrinkage) :
    count / (count + shrinkage) * (strength / (strength + count)) +
        (1 - count / (count + shrinkage)) ≤
      (shrinkage + strength + shrinkage * strength) /
        (count + (shrinkage + strength + shrinkage * strength)) := by
  have countPos : 0 < count := zero_lt_one.trans_le observed
  have shrunkPos : 0 < count + shrinkage := by linarith
  have strongPos : 0 < strength + count := by linarith
  have productNonneg : 0 ≤ shrinkage * strength := mul_nonneg shrinkageNonneg strengthNonneg
  have totalPos : 0 < count + (shrinkage + strength + shrinkage * strength) := by
    linarith
  have share :
      count / (count + shrinkage) * (strength / (strength + count)) +
          (1 - count / (count + shrinkage)) =
        (count * strength + shrinkage * (strength + count)) /
          ((count + shrinkage) * (strength + count)) := by
    field_simp
    ring
  -- The two sides differ by what a second own observation would add.
  have slack : 0 ≤ count * (shrinkage * strength * (count - 1)) := mul_nonneg countPos.le
      (mul_nonneg productNonneg (sub_nonneg.mpr observed))
  rw [share, div_le_div_iff₀ (mul_pos shrunkPos strongPos) totalPos]
  linarith

/-- Two draws away from a mean, by a prior and then by a parent. -/
theorem drawn_twice_le {count strength shrinkage width byPrior byParent : ℚ}
    (observed : 1 ≤ count) (strengthNonneg : 0 ≤ strength)
    (shrinkageNonneg : 0 ≤ shrinkage) (priorNear : |byPrior| ≤ width)
    (parentNear : |byParent| ≤ width) :
    |count / (count + shrinkage) * (strength / (strength + count) * byPrior) +
        (1 - count / (count + shrinkage)) * byParent| ≤
      (shrinkage + strength + shrinkage * strength) * width /
        (count + (shrinkage + strength + shrinkage * strength)) := by
  have widthNonneg : 0 ≤ width := (abs_nonneg byPrior).trans priorNear
  have countPos : 0 < count := zero_lt_one.trans_le observed
  have ownShare : 0 ≤ count / (count + shrinkage) := by positivity
  have priorShare : 0 ≤ strength / (strength + count) := by positivity
  have parentShare : 0 ≤ 1 - count / (count + shrinkage) := by
    rw [sub_nonneg, div_le_one (by linarith)]
    linarith
  calc
    |count / (count + shrinkage) * (strength / (strength + count) * byPrior) +
          (1 - count / (count + shrinkage)) * byParent| ≤
        count / (count + shrinkage) * (strength / (strength + count) * |byPrior|) +
          (1 - count / (count + shrinkage)) * |byParent| := by
      refine (abs_add_le _ _).trans_eq ?_
      rw [abs_mul, abs_mul, abs_mul, abs_of_nonneg ownShare,
        abs_of_nonneg priorShare, abs_of_nonneg parentShare]
    _ ≤ count / (count + shrinkage) * (strength / (strength + count) * width) +
          (1 - count / (count + shrinkage)) * width := by
      gcongr
    _ = (count / (count + shrinkage) * (strength / (strength + count)) +
          (1 - count / (count + shrinkage))) * width := by
      ring
    _ ≤ (shrinkage + strength + shrinkage * strength) /
          (count + (shrinkage + strength + shrinkage * strength)) *
        width :=
      mul_le_mul_of_nonneg_right
        (drawn_share_le observed strengthNonneg shrinkageNonneg) widthNonneg
    _ = (shrinkage + strength + shrinkage * strength) * width /
          (count + (shrinkage + strength + shrinkage * strength)) :=
      div_mul_eq_mul_div _ _ _

/-- The prediction for a template is as near to the mean of its own
observations as a constant draw leaves it. -/
def StandsOnItsOwn (constant width : ℚ) (posterior : HierarchicalPosterior ℚ)
    (history : List PooledOutcome) (templateId : String)
    (subredditType : Option String) : Prop :=
  |(posterior.predict templateId subredditType).1 -
      ownMean templateId history| ≤
    constant * width / ((ownValues templateId history).length + constant)

/-- What a template's own observations stand against: the prior of
everything, the observations before them, and the draw to the parent. -/
def poolingConstant (variance priorVariance : ℚ)
    (others : Nat) : ℚ :=
  let strength := variance * (1 / priorVariance) + others
  shrinkageStrength + strength + shrinkageStrength * strength

section OwnMean

variable {variance priorMean priorVariance low high : ℚ} {history : List PooledOutcome}
  {templateId : String}

theorem parentsBelieve_learnAll (noisy : 0 < variance) (spread : 0 < priorVariance)
    (priorBetween : low ≤ priorMean ∧ priorMean ≤ high) (taken : AcceptedBetween low high history) :
    ParentsBelieve low high (learnAll variance priorMean priorVariance history) :=
  ParentsBelieve.foldl_learn
    { global := ⟨spread, priorBetween⟩
      bySubredditType := by
        intro subredditType belief known
        cases known }
    noisy taken

theorem AcceptedBetween.observedBefore (taken : AcceptedBetween low high history) :
    AcceptedBetween low high (observedBefore templateId history) where
  accepted := fun outcome member =>
    taken.accepted outcome ((List.takeWhile_sublist _).subset member)
  between := fun outcome member =>
    taken.between outcome ((List.takeWhile_sublist _).subset member)

/-- What was believed before a template's first observation. -/
def snapshot (variance priorMean priorVariance : ℚ) (templateId : String)
    (history : List PooledOutcome) : NormalPosterior :=
  let posterior :=
    learnAll variance priorMean priorVariance
      (HierarchicalPosterior.observedBefore templateId history)
  NormalPosterior.prior posterior.global.mean posterior.global.variance

theorem strength_snapshot (noisy : 0 < variance) (spread : 0 < priorVariance)
    (accepted : ∀ outcome ∈ history, 0 ≤ outcome.observation) :
    (snapshot variance priorMean priorVariance templateId history).strength variance =
      variance * (1 / priorVariance) +
        (HierarchicalPosterior.observedBefore templateId history).length := by
  have before :
      ∀ outcome ∈ HierarchicalPosterior.observedBefore templateId history,
        0 ≤ outcome.observation :=
    fun outcome member =>
      accepted outcome ((List.takeWhile_sublist _).subset member)
  show Estimate.strength (learnAll variance priorMean priorVariance
    (HierarchicalPosterior.observedBefore templateId history)).global variance = _
  rw [learnAll, global_foldl_learn before noisy,
    strength_foldl_observe spread noisy, List.length_map]
  rfl

theorem byTemplate_learnAll (noisy : 0 < variance)
    (accepted : ∀ outcome ∈ history, 0 ≤ outcome.observation)
    (observed : 0 < (ownValues templateId history).length) :
    (learnAll variance priorMean priorVariance history).byTemplate templateId = some
        ((observedWith variance (ownValues templateId history)).foldl Estimate.observe
          (snapshot variance priorMean priorVariance templateId history)) :=
  byTemplate_foldl_of_none accepted noisy rfl (List.length_pos_iff.mp observed)

theorem snapshot_believes (noisy : 0 < variance) (spread : 0 < priorVariance)
    (priorBetween : low ≤ priorMean ∧ priorMean ≤ high) (taken : AcceptedBetween low high history) :
    Believes low high (snapshot variance priorMean priorVariance templateId history) :=
  have before := parentsBelieve_learnAll noisy spread priorBetween
      (@AcceptedBetween.observedBefore _ _ _ templateId taken)
  ⟨before.global.spread, before.global.between⟩

theorem abs_sub_le_width {first second : ℚ} (firstBetween : low ≤ first ∧ first ≤ high)
    (secondBetween : low ≤ second ∧ second ≤ high) :
    |first - second| ≤ high - low :=
  abs_sub_le_iff.mpr
    ⟨sub_le_sub firstBetween.2 secondBetween.1, sub_le_sub secondBetween.2 firstBetween.1⟩

theorem predict_learnAll_sub_ownMean (noisy : 0 < variance) (spread : 0 < priorVariance)
    (priorBetween : low ≤ priorMean ∧ priorMean ≤ high) (taken : AcceptedBetween low high history)
    (observed : 0 < (ownValues templateId history).length) (subredditType : Option String) :
    ∃ parent, low ≤ parent ∧ parent ≤ high ∧
      ((learnAll variance priorMean priorVariance history).predict templateId subredditType).1 -
          ownMean templateId history =
        (ownValues templateId history).length /
              ((ownValues templateId history).length + shrinkageStrength) *
            ((snapshot variance priorMean priorVariance templateId history).strength variance /
                ((snapshot variance priorMean priorVariance templateId history).strength variance +
                  (ownValues templateId history).length) *
              ((snapshot variance priorMean priorVariance templateId history).mean -
                ownMean templateId history)) +
          (1 - (ownValues templateId history).length /
                ((ownValues templateId history).length + shrinkageStrength)) *
            (parent - ownMean templateId history) := by
  have parents := (parentsBelieve_learnAll noisy spread priorBetween taken).parent subredditType
  have before := @snapshot_believes _ _ _ _ _ _ templateId noisy spread priorBetween taken
  have count := (count_foldl_observe before.spread noisy
      (ownValues templateId history)).trans (Nat.zero_add _)
  have known := @byTemplate_learnAll _ priorMean priorVariance _ _ noisy taken.accepted observed
  have drawn := mean_foldl_observe_sub_average before.spread noisy observed
  refine ⟨_, parents.between.1, parents.between.2, ?_⟩
  rw [mean_predict_of_some known (count ▸ observed), count]
  rw [ownMean, ← drawn]
  ring

/-- However a history goes on, what came before a template's first observation
is all that its prediction is drawn to. -/
theorem standsOnItsOwn_of_observedBefore
    (noisy : 0 < variance)
    (spread : 0 < priorVariance)
    (others : Nat) :
    ∃ constant, 0 < constant ∧
      ∀ (history : List PooledOutcome) (low high : ℚ) (templateId : String)
        (subredditType : Option String),
        AcceptedBetween low high history →
        low ≤ priorMean ∧ priorMean ≤ high →
        (HierarchicalPosterior.observedBefore templateId history).length = others →
        0 < (ownValues templateId history).length →
          StandsOnItsOwn constant (high - low)
            (learnAll variance priorMean priorVariance history) history
            templateId subredditType := by
  have strengthPos : 0 < variance * (1 / priorVariance) + (others : ℚ) :=
    add_pos_of_pos_of_nonneg (mul_pos noisy (one_div_pos.mpr spread))
      (Nat.cast_nonneg others)
  refine ⟨poolingConstant variance priorVariance others, ?_, ?_⟩
  · simp only [poolingConstant, shrinkageStrength]
    positivity
  · intro history low high templateId subredditType taken priorBetween
      before observed
    obtain ⟨parent, parentAbove, parentBelow, drawn⟩ :=
      predict_learnAll_sub_ownMean noisy spread priorBetween taken observed
        subredditType
    have strength := @strength_snapshot _ priorMean _ _ templateId noisy spread
        taken.accepted
    have ownBetween := ownMean_between taken observed
    have snapshotBetween := (@snapshot_believes _ _ _ _ _ _ templateId noisy spread priorBetween
        taken).between
    rw [StandsOnItsOwn, drawn, strength, before]
    exact drawn_twice_le (Nat.one_le_cast.mpr observed) strengthPos.le
        (by decide +kernel)
        (abs_sub_le_width snapshotBetween ownBetween)
        (abs_sub_le_width ⟨parentAbove, parentBelow⟩ ownBetween)

end OwnMean

/-! ## A crowd before a template's first observation -/

/-- An outcome of a template, and of nothing else. -/
def outcomeOf (templateId : String)
    (observation : ℚ) : PooledOutcome where
  templateId := some templateId
  subredditType := none
  targetKey := none
  observation := observation

/-- Scanners that meet the prior, then engagers that reach nobody. -/
def crowdThenNobody (count : Nat) : List PooledOutcome :=
  List.replicate count (outcomeOf "reddit-scanner" 2) ++
    List.replicate count (outcomeOf "community-engager" 0)

theorem ownValues_crowdThenNobody (count : Nat) :
    ownValues "community-engager" (crowdThenNobody count) = List.replicate count 0 := by
  simp [ownValues, crowdThenNobody, outcomeOf]

theorem observedBefore_crowdThenNobody (count : Nat) :
    HierarchicalPosterior.observedBefore "community-engager" (crowdThenNobody count) =
      List.replicate count (outcomeOf "reddit-scanner" 2) := by
  rw [HierarchicalPosterior.observedBefore, crowdThenNobody, List.takeWhile_append_of_pos]
  · cases count with
    | zero => rfl
    | succ count => simp [List.replicate_succ, outcomeOf]
  · intro outcome member
    rw [List.eq_of_mem_replicate member]
    decide

theorem crowdThenNobody_between (count : Nat) :
    AcceptedBetween 0 2 (crowdThenNobody count) where
  accepted := by
    intro outcome member
    rcases List.mem_append.mp member with inCrowd | own
    · rw [List.eq_of_mem_replicate inCrowd]
      decide +kernel
    · rw [List.eq_of_mem_replicate own]
      decide +kernel
  between := by
    intro outcome member
    rcases List.mem_append.mp member with inCrowd | own
    · rw [List.eq_of_mem_replicate inCrowd]
      decide +kernel
    · rw [List.eq_of_mem_replicate own]
      decide +kernel

theorem mean_snapshot_crowdThenNobody (count : Nat) :
    (snapshot 1 2 4 "community-engager" (crowdThenNobody count)).mean =
      2 := by
  have crowd : AcceptedBetween 2 2 (List.replicate count (outcomeOf "reddit-scanner" 2)) :=
    { accepted := by
        intro outcome member
        rw [List.eq_of_mem_replicate member]
        decide +kernel
      between := by
        intro outcome member
        rw [List.eq_of_mem_replicate member]
        decide +kernel }
  have believes := (@parentsBelieve_learnAll 1 2 4 2 2 _ (by norm_num) (by norm_num)
      ⟨le_rfl, le_rfl⟩ crowd).global.between
  rw [← observedBefore_crowdThenNobody] at believes
  exact le_antisymm believes.2 believes.1

/-- After enough scanners the engagers are predicted half a fan at least. -/
theorem half_le_predict_crowdThenNobody {count : Nat} (enough : 5 ≤ count) :
    1 / 2 ≤ ((learnAll 1 2 4 (crowdThenNobody count)).predict "community-engager" none).1 -
        ownMean "community-engager" (crowdThenNobody count) := by
  have taken := crowdThenNobody_between count
  have observed : (ownValues "community-engager" (crowdThenNobody count)).length = count := by
    rw [ownValues_crowdThenNobody, List.length_replicate]
  have own : ownMean "community-engager" (crowdThenNobody count) = 0 := by
    rw [ownMean, ownValues_crowdThenNobody]
    simp
  have strength := @strength_snapshot 1 2 4 _ "community-engager" (by norm_num)
      (by norm_num) taken.accepted
  obtain ⟨parent, parentNonneg, _, drawn⟩ :=
    @predict_learnAll_sub_ownMean 1 2 4 0 2 _ "community-engager"
      (by norm_num) (by norm_num) ⟨by norm_num, le_rfl⟩ taken
      (by omega) none
  rw [observedBefore_crowdThenNobody, List.length_replicate] at strength
  rw [drawn, observed, strength, own, mean_snapshot_crowdThenNobody]
  have enoughCast : (5 : ℚ) ≤ count := by
    exact_mod_cast enough
  have ownShare : 1 / 2 ≤ (count : ℚ) / (count + shrinkageStrength) := by
    rw [shrinkageStrength, div_le_div_iff₀ two_pos (by positivity)]
    linarith
  have priorShare : 1 / 2 ≤ (1 * (1 / 4) + (count : ℚ)) / (1 * (1 / 4) + count + count) := by
    rw [div_le_div_iff₀ two_pos (by positivity)]
    linarith
  have parentShare : 0 ≤ (1 - (count : ℚ) / (count + shrinkageStrength)) * (parent - 0) := by
    refine mul_nonneg ?_ (by linarith)
    rw [shrinkageStrength, sub_nonneg, div_le_one (by positivity)]
    linarith
  calc
    (1 : ℚ) / 2 = 1 / 2 * (1 / 2 * (2 - 0)) := by norm_num
    _ ≤ (count : ℚ) / (count + shrinkageStrength) *
          ((1 * (1 / 4) + count) / (1 * (1 / 4) + count + count) * (2 - 0)) := by
      gcongr
    _ ≤ _ := le_add_of_nonneg_right parentShare

/-- One engager that reaches nobody, after one scanner. -/
theorem oneScanner_standsOnItsOwn :
    ∃ constant, 0 < constant ∧
      StandsOnItsOwn constant (2 - 0) (learnAll 1 2 4 (crowdThenNobody 1))
        (crowdThenNobody 1) "community-engager" none := by
  obtain ⟨constant, positive, near⟩ :=
    @standsOnItsOwn_of_observedBefore 1 2 4 (by norm_num) (by norm_num) 1
  refine ⟨constant, positive, ?_⟩
  refine near (crowdThenNobody 1) 0 2 "community-engager" none
    (crowdThenNobody_between 1) ⟨by norm_num, le_rfl⟩ ?_ ?_
  · rw [observedBefore_crowdThenNobody]
    rfl
  · rw [ownValues_crowdThenNobody]
    decide

/-- No constant is enough for every number of observations before. -/
theorem crowd_outweighs :
    ¬ ∀ variance : ℚ, 0 < variance →
        ∃ constant, 0 < constant ∧
          ∀ (history : List PooledOutcome) (low high : ℚ)
            (templateId : String) (subredditType : Option String),
            AcceptedBetween low high history →
            0 < (ownValues templateId history).length →
              StandsOnItsOwn constant (high - low)
                (learnAll variance 2 4 history) history templateId
                subredditType := by
  intro onItsOwn
  obtain ⟨constant, positive, near⟩ := onItsOwn 1 one_pos
  have ceiled := Nat.le_ceil constant
  have observed :
      (ownValues "community-engager"
          (crowdThenNobody (3 * ⌈constant⌉₊ + 5))).length =
        3 * ⌈constant⌉₊ + 5 := by
    rw [ownValues_crowdThenNobody, List.length_replicate]
  have isNear := near (crowdThenNobody (3 * ⌈constant⌉₊ + 5)) 0 2 "community-engager" none
      (crowdThenNobody_between _) (by omega)
  have far := @half_le_predict_crowdThenNobody (3 * ⌈constant⌉₊ + 5) (by omega)
  have bounded := far.trans ((le_abs_self _).trans isNear)
  rw [observed, le_div_iff₀ (by positivity)] at bounded
  push_cast at bounded
  linarith

end HierarchicalPosterior

end CrowdRelay
