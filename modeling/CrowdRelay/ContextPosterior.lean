import Mathlib.Data.Rat.Star
import Mathlib.Tactic.NormNum
import CrowdRelay.GaussJordan
import CrowdRelay.GrowthEvidence
import CrowdRelay.PrecisionMatrix

namespace CrowdRelay

open Matrix MachineInt Ranged PrecisionMatrix

/-!
# What the context of a dispatch does to its outcome

The model is log-linear in the context, and moves by one Newton step with every
outcome whose context is active.  A step inverts two matrices: the covariance,
and the precision after the outcome.
-/

def idxEvent7d : Fin 7 := 0
def idxEvent30d : Fin 7 := 1
def idxStagnant : Fin 7 := 2
def idxDecelerating : Fin 7 := 3
def idxAccelerating : Fin 7 := 4
def idxPostFormat : Fin 7 := 5
def idxTimeOfDay : Fin 7 := 6

def contextPriorVariance : ℚ := 1 / 4

/-- The ridge that every step adds to the precision. -/
def ridgeEps : ℚ := 1 / 1000000

/-- The most that a coefficient moves in a step. -/
def maxStep : ℚ := 1 / 2

def pivotFloor : ℚ := 1 / 1000000000000

/-- The inverse of a matrix, unless it counts as singular. -/
def matInv?
    (m : Matrix (Fin 7) (Fin 7) ℚ) : Option (Matrix (Fin 7) (Fin 7) ℚ) :=
  GaussJordan.inverse? pivotFloor m

/-- The identity stands for the inverse of what counts as singular. -/
def matInv (m : Matrix (Fin 7) (Fin 7) ℚ) : Matrix (Fin 7) (Fin 7) ℚ := (matInv? m).getD 1

variable (x : Fin 7 → ℚ)

def quadraticForm
    (m : Matrix (Fin 7) (Fin 7) ℚ) : ℚ :=
  ∑ i, ∑ j, x i * m i j * x j

/-- Natural logarithm and exponential, as far as the model relies on them. -/
structure LogLink where
  ln : ℚ → ℚ
  exp : ℚ → ℚ
  exp_pos : ∀ value, 0 < exp value

/-- One outcome, with the mean that was expected without a context. -/
structure ContextUpdate where
  context : DispatchContext
  baseMean : ℚ
  observedFans : ℚ
  deriving DecidableEq

structure ContextGLM where
  mu : Fin 7 → ℚ
  sigma : Matrix (Fin 7) (Fin 7) ℚ
  n : U32

namespace ContextGLM

/-- The old multipliers, in log space. -/
def new : ContextGLM where
  mu := ![4055 / 10000, 1823 / 10000, -2231 / 10000, -2231 / 10000, 953 / 10000, 0, 0]
  sigma := contextPriorVariance • 1
  n := 0

/-- What is active of a context. -/
def designVector (context : DispatchContext) : Fin 7 → ℚ :=
  let x : Fin 7 → ℚ := fun _ => 0
  let x :=
    match context.daysToEvent with
    | some days =>
      if days ≤ 7 then
        Function.update x idxEvent7d 1
      else if days ≤ 30 then
        Function.update x idxEvent30d 1
      else
        x
    | none => x
  let x :=
    match context.fanGrowthTrend with
    | .stagnant => Function.update x idxStagnant 1
    | .decelerating => Function.update x idxDecelerating 1
    | .accelerating => Function.update x idxAccelerating 1
    | .steady => x
  let x :=
    if context.postFormat.isSome then Function.update x idxPostFormat 1 else x
  if 0 < context.timeOfDayBps then
    Function.update x idxTimeOfDay (context.timeOfDayBps.val / 10000)
  else
    x

def hasActiveContext (x : Fin 7 → ℚ) : Bool := decide (∃ i, x i ≠ 0)

def predictVariance (model : ContextGLM)
    (context : DispatchContext) : ℚ :=
  quadraticForm (designVector context) model.sigma

end ContextGLM

namespace ContextUpdate

def design (observed : ContextUpdate) : Fin 7 → ℚ := ContextGLM.designVector observed.context

/-- Whether an outcome teaches anything. -/
def taken (observed : ContextUpdate) : Bool :=
  !(decide (observed.baseMean ≤ 0) || decide (observed.observedFans < 0)) &&
    ContextGLM.hasActiveContext observed.design

end ContextUpdate

namespace ContextGLM

variable (link : LogLink) (model : ContextGLM) (observed : ContextUpdate)

def predictedCount : ℚ := link.exp (link.ln observed.baseMean + observed.design ⬝ᵥ model.mu)

/-- The gradient of the log-likelihood. -/
def score : Fin 7 → ℚ :=
  fun i =>
    observed.design i * (observed.observedFans - model.predictedCount link observed)

/-- The precision after the outcome, with the ridge. -/
def hessian : Matrix (Fin 7) (Fin 7) ℚ :=
  let muPred := model.predictedCount link observed
  let lambda := matInv model.sigma
  fun i j =>
    let entry := lambda i j + muPred * observed.design i * observed.design j
    if i = j then entry + ridgeEps else entry

def maxAbsDelta (delta : Fin 7 → ℚ) : ℚ :=
  (List.ofFn delta).foldl (fun largest d => max largest |d|) 0

/-- Scales a step down to where no coefficient moves too far. -/
def clampStep (delta : Fin 7 → ℚ) : Fin 7 → ℚ :=
  if maxStep < maxAbsDelta delta then
    fun i => delta i * (maxStep / maxAbsDelta delta)
  else
    delta

def newtonStep : ContextGLM :=
  let hInv := matInv (model.hessian link observed)
  let delta := hInv *ᵥ model.score link observed
  { mu := fun i => model.mu i + clampStep delta i
    sigma := hInv
    n := wrap (model.n.val + 1) }

def update : ContextGLM :=
  if observed.baseMean ≤ 0 ∨ observed.observedFans < 0 then
    model
  else if !hasActiveContext observed.design then
    model
  else
    model.newtonStep link observed

end ContextGLM

/-!
## The context model's posterior stays a posterior

Every outcome adds to the precision along its design vector, and the ridge
adds to all of it.  The covariance only shrinks, so neither of the matrices
that a step inverts counts as singular as long as the precision stays small
enough.
-/

/-! ## Inverting -/

section Inverting

variable {m : Matrix (Fin 7) (Fin 7) ℚ}

theorem matInv_eq_inv (inverted : (matInv? m).isSome = true) : matInv m = m⁻¹ := by
  obtain ⟨inverse, isInverse⟩ := Option.isSome_iff_exists.mp inverted
  have solved := GaussJordan.inverse?_eq_some (by decide +kernel) isInverse
  rw [matInv, isInverse, inv_eq_right_inv solved]
  rfl

theorem inv_mul_of_posDef (positive : m.PosDef) : m⁻¹ * m = 1 :=
  nonsing_inv_mul m ((isUnit_iff_isUnit_det m).mp positive.isUnit)

theorem inv_inv_of_posDef (positive : m.PosDef) : m⁻¹⁻¹ = m :=
  nonsing_inv_nonsing_inv m ((isUnit_iff_isUnit_det m).mp positive.isUnit)

theorem matInv?_isSome {bound : ℚ} (positive : m.PosDef) (diagonal : ∀ i, m⁻¹ i i ≤ bound)
    (small : 7 * bound < 1000000000000) :
    (matInv? m).isSome = true := by
  refine GaussJordan.inverse?_isSome (by decide +kernel) (inv_mul_of_posDef positive) ?_
  intro row
  have rowSum := sum_abs_row_le positive.inv.posSemidef diagonal row
  rw [Fintype.card_fin] at rowSum
  push_cast at rowSum
  rw [pivotFloor]
  linarith

end Inverting

theorem quadraticForm_eq_spread (m : Matrix (Fin 7) (Fin 7) ℚ) :
    quadraticForm x m = spread m x := by
  unfold quadraticForm spread
  simp only [dotProduct, mulVec, Finset.mul_sum, mul_assoc]

theorem le_foldl_max {Element : Type} (size : Element → ℚ) (elements : List Element) (start : ℚ) :
    start ≤ elements.foldl (fun largest d => max largest (size d)) start ∧
      ∀ element ∈ elements,
        size element ≤ elements.foldl (fun largest d => max largest (size d)) start := by
  induction elements generalizing start with
  | nil => exact ⟨le_rfl, fun element member => absurd member List.not_mem_nil⟩
  | cons first rest inductionHypothesis =>
    obtain ⟨fromStart, fromRest⟩ := inductionHypothesis (max start (size first))
    refine ⟨(le_max_left _ _).trans fromStart, ?_⟩
    intro element member
    rcases List.mem_cons.mp member with rfl | inRest
    · exact (le_max_right _ _).trans fromStart
    · exact fromRest element inRest

namespace ContextGLM

theorem abs_le_maxAbsDelta (delta : Fin 7 → ℚ) (i : Fin 7) :
    |delta i| ≤ maxAbsDelta delta :=
  (le_foldl_max (fun d : ℚ => |d|) (List.ofFn delta) 0).2 (delta i) (List.mem_ofFn.mpr ⟨i, rfl⟩)

theorem abs_clampStep_le (delta : Fin 7 → ℚ) (i : Fin 7) :
    |clampStep delta i| ≤ maxStep := by
  have within := abs_le_maxAbsDelta delta i
  unfold clampStep
  split
  · rename_i tooFar
    have positive : 0 < maxAbsDelta delta := lt_trans (by decide +kernel) tooFar
    have scaleNonneg : 0 ≤ maxStep / maxAbsDelta delta := div_nonneg (by decide +kernel) positive.le
    rw [abs_mul, abs_of_nonneg scaleNonneg]
    calc
      |delta i| * (maxStep / maxAbsDelta delta) ≤
          maxAbsDelta delta * (maxStep / maxAbsDelta delta) :=
        mul_le_mul_of_nonneg_right within scaleNonneg
      _ = maxStep := mul_div_cancel₀ _ positive.ne'
  · rename_i near
    exact within.trans (not_lt.mp near)

variable {link : LogLink} {model : ContextGLM} {observed : ContextUpdate}

theorem update_of_taken (taken : observed.taken = true) :
    model.update link observed = model.newtonStep link observed := by
  obtain ⟨credible, active⟩ := Bool.and_eq_true_iff.mp taken
  have notSkipped : ¬ (observed.baseMean ≤ 0 ∨ observed.observedFans < 0) := by
    simpa using credible
  rw [update, if_neg notSkipped, active]
  rfl

theorem update_of_not_taken (skipped : observed.taken = false) :
    model.update link observed = model := by
  unfold update
  split
  · rfl
  · rename_i credible
    have inactive : hasActiveContext observed.design = false := by
      have credibleBool :
          (!(decide (observed.baseMean ≤ 0) || decide (observed.observedFans < 0))) = true := by
        simpa using credible
      rwa [ContextUpdate.taken, credibleBool, Bool.true_and] at skipped
    rw [inactive]
    rfl

theorem predictedCount_pos : 0 < model.predictedCount link observed := link.exp_pos _

noncomputable def precisionAfter
    (link : LogLink)
    (model : ContextGLM)
    (observed : ContextUpdate) : Matrix (Fin 7) (Fin 7) ℚ :=
  model.sigma⁻¹ +
    information (model.predictedCount link observed) observed.design +
    ridgeEps • 1

theorem hessian_eq_precisionAfter (inverted : (matInv? model.sigma).isSome = true) :
    model.hessian link observed = precisionAfter link model observed := by
  ext i j
  simp only [hessian, precisionAfter, matInv_eq_inv inverted,
    Matrix.add_apply, Matrix.smul_apply, information_apply, Matrix.one_apply,
    smul_eq_mul, mul_assoc]
  split
  · rw [mul_one]
  · rw [mul_zero, add_zero]

theorem posSemidef_growth : (precisionAfter link model observed - model.sigma⁻¹).PosSemidef := by
  have ridge : (ridgeEps • (1 : Matrix (Fin 7) (Fin 7) ℚ)).PosSemidef :=
    PosSemidef.one.smul (by decide +kernel)
  have learned := posSemidef_information (@predictedCount_pos link model observed).le
      observed.design
  rw [precisionAfter, add_assoc, add_sub_cancel_left]
  exact learned.add ridge

theorem posDef_precisionAfter (positive : model.sigma.PosDef) :
    (precisionAfter link model observed).PosDef := by
  have grown := positive.inv.add_posSemidef (@posSemidef_growth link model observed)
  rwa [add_sub_cancel] at grown

/-- A covariance whose inverse is bounded by what has been learned. -/
structure Certain
    (bound : ℚ)
    (model : ContextGLM) : Prop where
  positive : model.sigma.PosDef
  variance : ∀ i, model.sigma i i ≤ contextPriorVariance
  precision : ∀ i, model.sigma⁻¹ i i ≤ bound

/-- What an outcome adds to the precision of any coefficient, at most. -/
def massOf (link : LogLink) (model : ContextGLM)
    (observed : ContextUpdate) : ℚ :=
  if observed.taken then
    model.predictedCount link observed * (observed.design ⬝ᵥ observed.design)
  else
    0

theorem massOf_nonneg : 0 ≤ massOf link model observed := by
  unfold massOf
  split
  · refine mul_nonneg predictedCount_pos.le ?_
    exact Finset.sum_nonneg fun i _ => mul_self_nonneg _
  · exact le_rfl

/-- Everything that one call of the update is to keep. -/
structure StaysPosterior
    (link : LogLink)
    (model : ContextGLM)
    (observed : ContextUpdate) : Prop where
  inverted :
    observed.taken = true →
      (matInv? model.sigma).isSome = true ∧
        (matInv? (model.hessian link observed)).isSome = true
  precision :
    observed.taken = true →
      (model.update link observed).sigma⁻¹ =
        model.sigma⁻¹ +
          information (model.predictedCount link observed)
            observed.design +
          ridgeEps • 1
  kept : observed.taken = false → model.update link observed = model
  positive : (model.update link observed).sigma.PosDef
  narrows :
    ∀ context,
      (model.update link observed).predictVariance context ≤
        model.predictVariance context
  bounded :
    ∀ i, |(model.update link observed).mu i - model.mu i| ≤ maxStep

section Step

variable {bound : ℚ}

theorem spread_inv_precisionAfter_le (positive : model.sigma.PosDef) (design : Fin 7 → ℚ) :
    spread (precisionAfter link model observed)⁻¹ design ≤ spread model.sigma design := by
  have narrowed := spread_inv_le positive.inv (@posDef_precisionAfter link model observed positive)
      posSemidef_growth design
  rwa [inv_inv_of_posDef positive] at narrowed

theorem inv_precisionAfter_apply_le (positive : model.sigma.PosDef) (i : Fin 7) :
    (precisionAfter link model observed)⁻¹ i i ≤ model.sigma i i := by
  have narrowed := @spread_inv_precisionAfter_le link model observed positive (Pi.single i 1)
  rwa [spread_single, spread_single] at narrowed

theorem precisionAfter_apply_le (precision : ∀ i, model.sigma⁻¹ i i ≤ bound)
    (taken : observed.taken = true) (i : Fin 7) :
    precisionAfter link model observed i i ≤ bound + massOf link model observed + ridgeEps := by
  have squared : observed.design i * observed.design i ≤ observed.design ⬝ᵥ observed.design :=
    Finset.single_le_sum (f := fun i => observed.design i * observed.design i)
      (fun i _ => mul_self_nonneg _) (Finset.mem_univ i)
  have learned := mul_le_mul_of_nonneg_left squared (@predictedCount_pos link model observed).le
  have before := precision i
  rw [precisionAfter, massOf, if_pos taken, Matrix.add_apply,
    Matrix.add_apply, information_apply, Matrix.smul_apply,
    Matrix.one_apply_eq, smul_eq_mul, mul_one]
  linarith

theorem Certain.inverted (certain : Certain bound model) (small : 7 * bound < 1000000000000) :
    (matInv? model.sigma).isSome = true ∧
      (matInv? (model.hessian link observed)).isSome = true := by
  have sigmaInverted := matInv?_isSome certain.positive certain.precision small
  refine ⟨sigmaInverted, ?_⟩
  rw [hessian_eq_precisionAfter sigmaInverted]
  refine @matInv?_isSome _ contextPriorVariance
      (posDef_precisionAfter certain.positive) ?_ (by decide +kernel)
  intro i
  exact (inv_precisionAfter_apply_le certain.positive i).trans (certain.variance i)

theorem sigma_update_of_inverted (taken : observed.taken = true)
    (inverted :
      (matInv? model.sigma).isSome = true ∧ (matInv? (model.hessian link observed)).isSome = true) :
    (model.update link observed).sigma = (precisionAfter link model observed)⁻¹ := by
  rw [update_of_taken taken, ← hessian_eq_precisionAfter inverted.1]
  exact matInv_eq_inv inverted.2

theorem inv_sigma_update_of_inverted (taken : observed.taken = true) (positive : model.sigma.PosDef)
    (inverted :
      (matInv? model.sigma).isSome = true ∧ (matInv? (model.hessian link observed)).isSome = true) :
    (model.update link observed).sigma⁻¹ = precisionAfter link model observed := by
  rw [sigma_update_of_inverted taken inverted]
  exact inv_inv_of_posDef (posDef_precisionAfter positive)

theorem Certain.update_of_taken (certain : Certain bound model) (taken : observed.taken = true)
    (inverted :
      (matInv? model.sigma).isSome = true ∧ (matInv? (model.hessian link observed)).isSome = true) :
    Certain (bound + massOf link model observed + ridgeEps) (model.update link observed) where
  positive := by
    rw [sigma_update_of_inverted taken inverted]
    exact (posDef_precisionAfter certain.positive).inv
  variance := by
    intro i
    rw [sigma_update_of_inverted taken inverted]
    exact (inv_precisionAfter_apply_le certain.positive i).trans (certain.variance i)
  precision := by
    intro i
    rw [inv_sigma_update_of_inverted taken certain.positive inverted]
    exact precisionAfter_apply_le certain.precision taken i

/-- A step keeps everything, where the precision is small enough. -/
theorem Certain.staysPosterior (certain : Certain bound model) (small : 7 * bound < 1000000000000) :
    StaysPosterior link model observed := by
  have inverted := @Certain.inverted link model observed _ certain small
  cases taken : observed.taken with
  | true =>
    have sigma := sigma_update_of_inverted taken inverted
    exact
      { inverted := fun _ => inverted
        precision := fun _ =>
          inv_sigma_update_of_inverted taken certain.positive inverted
        kept := fun skipped => by
          rw [taken] at skipped
          cases skipped
        positive := (certain.update_of_taken taken inverted).positive
        narrows := by
          intro context
          rw [predictVariance, predictVariance, quadraticForm_eq_spread,
            quadraticForm_eq_spread, sigma]
          exact spread_inv_precisionAfter_le certain.positive _
        bounded := by
          intro i
          rw [ContextGLM.update_of_taken taken, newtonStep, add_sub_cancel_left]
          exact abs_clampStep_le _ i }
  | false =>
    have kept := @update_of_not_taken link model observed taken
    exact
      { inverted := fun isTaken => by
          rw [taken] at isTaken
          cases isTaken
        precision := fun isTaken => by
          rw [taken] at isTaken
          cases isTaken
        kept := fun _ => kept
        positive := by
          rw [kept]
          exact certain.positive
        narrows := fun context => by
          rw [kept]
        bounded := fun i => by
          rw [kept, sub_self, abs_zero]
          decide +kernel }

end Step

/-! ## Runs -/

def run (link : LogLink) (start : ContextGLM)
    (updates : List ContextUpdate) : ContextGLM :=
  updates.foldl (fun model observed => model.update link observed) start

/-- The predicted counts of a run, each times its squared design vector. -/
def accumulated
    (link : LogLink) : ContextGLM → List ContextUpdate → ℚ
  | _, [] => 0
  | model, observed :: rest =>
    massOf link model observed + accumulated link (model.update link observed) rest

theorem accumulated_nonneg (updates : List ContextUpdate) : 0 ≤ accumulated link model updates := by
  induction updates generalizing model with
  | nil => exact le_rfl
  | cons observed rest inductionHypothesis =>
    exact add_nonneg massOf_nonneg inductionHypothesis

def ridgeOf (observed : ContextUpdate) : ℚ := if observed.taken then ridgeEps else 0

theorem ridgeOf_nonneg (observed : ContextUpdate) : 0 ≤ ridgeOf observed := by
  unfold ridgeOf
  split
  · decide +kernel
  · exact le_rfl

def ridges (updates : List ContextUpdate) : ℚ := updates.countP ContextUpdate.taken * ridgeEps

theorem ridges_nonneg (updates : List ContextUpdate) : 0 ≤ ridges updates :=
  mul_nonneg (Nat.cast_nonneg _) (by decide +kernel)

theorem ridges_cons (first : ContextUpdate) (rest : List ContextUpdate) :
    ridges (first :: rest) = ridgeOf first + ridges rest := by
  rw [ridges, ridges, ridgeOf, List.countP_cons]
  cases first.taken with
  | true =>
    rw [if_pos rfl, if_pos rfl, Nat.cast_add, Nat.cast_one]
    ring
  | false => simp

variable {bound : ℚ}

theorem Certain.update (certain : Certain bound model)
    (stays : StaysPosterior link model observed) :
    Certain (bound + massOf link model observed + ridgeOf observed)
      (model.update link observed) := by
  cases taken : observed.taken with
  | true =>
    rw [ridgeOf, if_pos taken]
    exact certain.update_of_taken taken (stays.inverted taken)
  | false =>
    rw [update_of_not_taken taken, massOf, ridgeOf, taken]
    simpa using certain

/-- Every step of a run keeps everything, where what the run learns and the
ridges that it adds leave the precision small enough. -/
theorem Certain.run_staysPosterior {updates visited : List ContextUpdate}
    (certain : Certain bound model)
    (small : 7 * (bound + accumulated link model updates + ridges updates) < 1000000000000)
    (reached : visited ++ [observed] <+: updates) :
    StaysPosterior link (run link model visited) observed := by
  induction updates generalizing model visited bound with
  | nil => simp at reached
  | cons first rest inductionHypothesis =>
    have massNonneg := @massOf_nonneg link model first
    have restNonneg := @accumulated_nonneg link (model.update link first) rest
    have ridgeNonneg := ridgeOf_nonneg first
    have ridgesNonneg := ridges_nonneg rest
    rw [accumulated, ridges_cons] at small
    have stays : StaysPosterior link model first := certain.staysPosterior (by linarith)
    cases visited with
    | nil =>
      obtain ⟨rfl, _⟩ := List.cons_prefix_cons.mp reached
      exact stays
    | cons visitedFirst visitedRest =>
      obtain ⟨rfl, reachedRest⟩ := List.cons_prefix_cons.mp reached
      exact @inductionHypothesis (model.update link visitedFirst) _
          visitedRest (certain.update stays) (by linarith) reachedRest

theorem sigma_new : new.sigma = contextPriorVariance • 1 := rfl

theorem inv_sigma_new : new.sigma⁻¹ = (4 : ℚ) • 1 := by
  refine inv_eq_right_inv ?_
  rw [sigma_new, smul_mul_smul_comm, Matrix.one_mul, contextPriorVariance]
  norm_num

theorem certain_new : Certain 4 new where
  positive := PosDef.one.smul (by decide +kernel)
  variance := by
    intro i
    rw [sigma_new, Matrix.smul_apply, Matrix.one_apply_eq, smul_eq_mul, mul_one]
  precision := by
    intro i
    rw [inv_sigma_new, Matrix.smul_apply, Matrix.one_apply_eq, smul_eq_mul, mul_one]

/-- The posterior stays one, as long as not too many fans were predicted and
not too many ridges added. -/
theorem staysPosterior_of_accumulated
    {updates visited : List ContextUpdate}
    {observed : ContextUpdate}
    (learned : accumulated link new updates < 10000000000)
    (few : updates.countP ContextUpdate.taken ≤ 100000000000000000)
    (reached : visited ++ [observed] <+: updates) :
    StaysPosterior link (run link new visited) observed := by
  refine certain_new.run_staysPosterior ?_ reached
  have fewCast : (updates.countP ContextUpdate.taken : ℚ) ≤ 100000000000000000 := by
    exact_mod_cast few
  rw [ridges, ridgeEps]
  linarith

/-! ## Ridges without end -/

theorem ridges_append_singleton (updates : List ContextUpdate) (observed : ContextUpdate) :
    ridges (updates ++ [observed]) = ridges updates + ridgeOf observed := by
  rw [ridges, List.countP_append, Nat.cast_add, add_mul]
  exact congrArg _ ((ridges_cons observed []).trans (by simp [ridges]))

theorem run_append_singleton (visited : List ContextUpdate) (observed : ContextUpdate) :
    run link model (visited ++ [observed]) = (run link model visited).update link observed := by
  rw [run, List.foldl_append]
  rfl

/-- A precision that every ridge has been added to. -/
structure Ridged
    (ridge : ℚ)
    (model : ContextGLM) : Prop where
  positive : model.sigma.PosDef
  precision : (model.sigma⁻¹ - ridge • 1).PosSemidef

variable {ridge : ℚ}

theorem Ridged.update (ridged : Ridged ridge model) (stays : StaysPosterior link model observed) :
    Ridged (ridge + ridgeOf observed) (model.update link observed) where
  positive := stays.positive
  precision := by
    cases taken : observed.taken with
    | true =>
      have learned := posSemidef_information (@predictedCount_pos link model observed).le
          observed.design
      have added := ridged.precision.add learned
      rw [stays.precision taken, ridgeOf, if_pos taken, add_smul]
      convert added using 1
      abel
    | false =>
      rw [stays.kept taken, ridgeOf, taken]
      simpa using ridged.precision

theorem ridged_run {updates : List ContextUpdate}
    (stays :
      ∀ visited observed, visited ++ [observed] <+: updates →
        StaysPosterior link (run link new visited) observed) :
    Ridged (ridges updates) (run link new updates) := by
  induction updates using List.reverseRecOn with
  | nil =>
    exact
      { positive := certain_new.positive
        precision := by
          have none : ridges [] = 0 := by
            simp [ridges]
          rw [none, zero_smul, sub_zero]
          exact certain_new.positive.inv.posSemidef }
  | append_singleton rest observed inductionHypothesis =>
    have earlier := inductionHypothesis fun visited next reached =>
        stays visited next (reached.trans (List.prefix_append _ _))
    rw [ridges_append_singleton, run_append_singleton]
    exact earlier.update (stays rest observed List.prefix_rfl)

theorem Ridged.matInv?_eq_none (ridged : Ridged ridge model) (enough : 1000000000000 < ridge) :
    matInv? model.sigma = none := by
  have positive : 0 < ridge := lt_trans (by norm_num) enough
  have ridgePositive : (ridge • (1 : Matrix (Fin 7) (Fin 7) ℚ)).PosDef := PosDef.one.smul positive
  have ridgeInverse : (ridge • (1 : Matrix (Fin 7) (Fin 7) ℚ))⁻¹ = (1 / ridge) • 1 := by
    refine inv_eq_right_inv ?_
    rw [smul_mul_smul_comm, Matrix.one_mul, mul_one_div_cancel positive.ne', one_smul]
  have diagonal : ∀ i, model.sigma i i ≤ 1 / ridge := by
    intro i
    have narrowed := spread_inv_le ridgePositive ridged.positive.inv ridged.precision
        (Pi.single i 1)
    rw [inv_inv_of_posDef ridged.positive, ridgeInverse, spread_single,
      spread_single, Matrix.smul_apply, Matrix.one_apply_eq, smul_eq_mul,
      mul_one] at narrowed
    exact narrowed
  refine GaussJordan.inverse?_eq_none ?_
  intro row
  refine (abs_apply_le ridged.positive.posSemidef diagonal row 0).trans_lt ?_
  exact one_div_lt_one_div_of_lt (by norm_num) enough

/-- A link that expects the same count of everything. -/
def constantLink (count : ℚ) (positive : 0 < count) : LogLink where
  ln := fun _ => 0
  exp := fun _ => count
  exp_pos := fun _ => positive

def dayBeforeEvent : ContextUpdate where
  context :=
    { daysToEvent := some 1
      fanGrowthTrend := .steady
      subredditType := none
      postFormat := none
      timeOfDayBps := 0
      communityNoveltyBps := 0
      avgCommunityEngagementBps := 0 }
  baseMean := 1
  observedFans := 0

theorem accumulated_dayBeforeEvent {count : ℚ} (positive : 0 < count) (times : Nat) :
    accumulated (constantLink count positive) model (List.replicate times dayBeforeEvent) =
      times * count := by
  have design : dayBeforeEvent.design ⬝ᵥ dayBeforeEvent.design = 1 := by
    decide +kernel
  have taken : dayBeforeEvent.taken = true := by
    decide +kernel
  induction times generalizing model with
  | zero => simp [accumulated]
  | succ times inductionHypothesis =>
    rw [List.replicate_succ, accumulated, inductionHypothesis, massOf,
      if_pos taken, design, predictedCount, constantLink]
    push_cast
    ring

theorem ridges_dayBeforeEvent (times : Nat) :
    ridges (List.replicate times dayBeforeEvent) = times * ridgeEps := by
  have taken : dayBeforeEvent.taken = true := by
    decide +kernel
  rw [ridges, List.countP_replicate, if_pos taken]

/-- Two fans are expected, once. -/
theorem dayBeforeEvent_staysPosterior :
    StaysPosterior (constantLink 2 two_pos) new dayBeforeEvent :=
  @staysPosterior_of_accumulated _ [dayBeforeEvent] [] _
    (by
      have learned := @accumulated_dayBeforeEvent new 2 two_pos 1
      rw [List.replicate_one] at learned
      rw [learned]
      norm_num)
    (by decide +kernel)
    List.prefix_rfl

/-- However little is expected, the ridges of enough outcomes make the
covariance count as singular. -/
theorem ridges_reachSingular :
    ¬ ∀ (link : LogLink) (updates visited : List ContextUpdate)
        (observed : ContextUpdate),
        accumulated link new updates < 10000000000 →
        visited ++ [observed] <+: updates →
          StaysPosterior link (run link new visited) observed := by
  intro stays
  obtain ⟨times, many⟩ : ∃ times, times = 2000000000000000000 := ⟨_, rfl⟩
  obtain ⟨count, isRare⟩ : ∃ count : ℚ, count = 1 / 1000000000000000000000000000000 := ⟨_, rfl⟩
  have rarePos : 0 < count := by
    rw [isRare]
    norm_num
  have little :
      accumulated (constantLink count rarePos) new
          (List.replicate (times + 1) dayBeforeEvent) <
        10000000000 := by
    rw [accumulated_dayBeforeEvent, many, isRare]
    norm_num
  have steps := fun visited observed =>
    stays (constantLink count rarePos) _ visited observed little
  have earlier :
      List.replicate times dayBeforeEvent <+:
        List.replicate (times + 1) dayBeforeEvent := by
    rw [List.replicate_succ']
    exact List.prefix_append _ _
  have ridged :=
    ridged_run fun visited observed reached =>
      steps visited observed (reached.trans earlier)
  have enough : 1000000000000 < ridges (List.replicate times dayBeforeEvent) := by
    rw [ridges_dayBeforeEvent, many, ridgeEps]
    norm_num
  have last :
      List.replicate times dayBeforeEvent ++ [dayBeforeEvent] <+:
        List.replicate (times + 1) dayBeforeEvent := by
    rw [List.replicate_succ']
  have inverted := (steps _ _ last).inverted (by decide +kernel)
  rw [ridged.matInv?_eq_none enough] at inverted
  exact absurd inverted.1 (by decide)

end ContextGLM

end CrowdRelay
