import CrowdRelay.Y14Y30Bridge

namespace CrowdRelay

open Matrix PrecisionMatrix

/-!
# What the bridge has learned from its history

The bridge is the regression over the pairs it took, and it takes every pair
until the covariance is so sure that its determinant counts as zero.  From
then on it takes none.
-/

/-! ## Two by two -/

section TwoByTwo

variable {m : Matrix (Fin 2) (Fin 2) ℚ}

theorem det2_eq_det (m : Matrix (Fin 2) (Fin 2) ℚ) : det2 m = m.det := (det_fin_two m).symm

theorem inverse2_eq_inv (m : Matrix (Fin 2) (Fin 2) ℚ) : inverse2 m = m⁻¹ := by
  rw [inv_def, adjugate_fin_two, Ring.inverse_eq_inv', ← det2_eq_det]
  ext row column
  fin_cases row <;> fin_cases column <;>
    simp [inverse2, div_eq_inv_mul]

theorem mulVec_two (m : Matrix (Fin 2) (Fin 2) ℚ) (values : Fin 2 → ℚ) :
    ![m 0 0 * values 0 + m 0 1 * values 1, m 1 0 * values 0 + m 1 1 * values 1] = m *ᵥ values := by
  ext row
  fin_cases row <;> simp [mulVec, dotProduct, Fin.sum_univ_two]

theorem det_le_det_add_information (semidefinite : m.PosSemidef) {strength : ℚ}
    (nonnegative : 0 ≤ strength) (design : Fin 2 → ℚ) :
    m.det ≤ (m + information strength design).det := by
  have across := spread_nonneg semidefinite ![design 1, -design 0]
  have scaled := mul_nonneg nonnegative across
  have expanded :
      (m + information strength design).det =
        m.det + strength * spread m ![design 1, -design 0] := by
    simp [det_fin_two, spread, information_apply, mulVec, dotProduct, Fin.sum_univ_two]
    ring
  rw [expanded]
  exact le_add_of_nonneg_right scaled

end TwoByTwo

/-! ## One pair -/

namespace Y14Y30Bridge

variable {bridge : Y14Y30Bridge} {belief : Belief (Fin 2) ℚ} {pair : BridgePair}

/-- The pair as a measurement with the noise that is in force. -/
def measurement (bridge : Y14Y30Bridge)
    (pair : BridgePair) : Measurement (Fin 2) ℚ where
  design := bridgeDesign pair.y14
  value := pair.y30
  noise := bridge.noise

/-- The bridge holds a belief: its covariance, and its mean. -/
structure Holds
    (bridge : Y14Y30Bridge)
    (belief : Belief (Fin 2) ℚ) : Prop where
  covariance : bridge.sigma = belief.precision⁻¹
  mean : belief.HasMean bridge.mu
  positive : belief.precision.PosDef
  informed : 1 / 16 ≤ belief.precision.det

theorem noise_pos (bridge : Y14Y30Bridge) : 0 < bridge.noise :=
  lt_max_of_lt_right (by decide +kernel)

namespace Holds

theorem precision_eq (holds : bridge.Holds belief) : bridge.sigma⁻¹ = belief.precision := by
  rw [holds.covariance]
  exact nonsing_inv_nonsing_inv _ ((isUnit_iff_isUnit_det _).mp holds.positive.isUnit)

theorem posDef_sigma (holds : bridge.Holds belief) :
    bridge.sigma.PosDef := by
  rw [holds.covariance]
  exact holds.positive.inv

theorem observe (holds : bridge.Holds belief) (pair : BridgePair) :
    (belief.observe (bridge.measurement pair)).precision.PosDef ∧
      1 / 16 ≤ (belief.observe (bridge.measurement pair)).precision.det := by
  have strength : 0 ≤ 1 / bridge.noise := (one_div_pos.mpr bridge.noise_pos).le
  exact
    ⟨posDef_add_information holds.positive strength _,
      holds.informed.trans (det_le_det_add_information holds.positive.posSemidef strength _)⟩

end Holds

theorem hessian_eq (holds : bridge.Holds belief) (pair : BridgePair) :
    (Matrix.of fun row column =>
        inverse2 bridge.sigma row column +
          bridgeDesign pair.y14 row * bridgeDesign pair.y14 column / bridge.noise) =
      (belief.observe (bridge.measurement pair)).precision := by
  rw [inverse2_eq_inv, holds.precision_eq]
  ext row column
  change _ = belief.precision row column + information _ _ row column
  rw [information_apply, of_apply, div_eq_inv_mul, one_div]
  rfl

theorem pull_eq (holds : bridge.Holds belief) (pair : BridgePair) :
    ![inverse2 bridge.sigma 0 0 * bridge.mu 0 + inverse2 bridge.sigma 0 1 * bridge.mu 1 +
          bridgeDesign pair.y14 0 * pair.y30 / bridge.noise,
        inverse2 bridge.sigma 1 0 * bridge.mu 0 + inverse2 bridge.sigma 1 1 * bridge.mu 1 +
          bridgeDesign pair.y14 1 * pair.y30 / bridge.noise] =
      (belief.observe (bridge.measurement pair)).pull := by
  have contributed := mulVec_two (inverse2 bridge.sigma) bridge.mu
  rw [inverse2_eq_inv, holds.precision_eq, holds.mean] at contributed
  change _ = belief.pull + (pair.y30 / bridge.noise) • bridgeDesign pair.y14
  rw [← contributed, inverse2_eq_inv, holds.precision_eq]
  ext row
  fin_cases row <;> simp <;> ring

theorem singularCutoff_le {precision : Matrix (Fin 2) (Fin 2) ℚ}
    (informed : 1 / 16 ≤ precision.det) :
    singularCutoff ≤ |det2 precision| := by
  rw [det2_eq_det]
  refine le_trans ?_ (informed.trans (le_abs_self _))
  decide +kernel

theorem update_refused (singular : |det2 bridge.sigma| < singularCutoff) :
    bridge.update pair = bridge :=
  if_pos singular

theorem update_taken (holds : bridge.Holds belief) (pair : BridgePair)
    (regular : ¬ |det2 bridge.sigma| < singularCutoff) :
    (bridge.update pair).Holds (belief.observe (bridge.measurement pair)) ∧
      (bridge.update pair).n = bridge.n + 1 := by
  obtain ⟨positive, informed⟩ := holds.observe pair
  have invertible : IsUnit (belief.observe (bridge.measurement pair)).precision.det :=
    (isUnit_iff_isUnit_det _).mp positive.isUnit
  have hessianRegular :
      ¬ |det2 (belief.observe (bridge.measurement pair)).precision| <
          singularCutoff :=
    not_lt.mpr (singularCutoff_le informed)
  unfold update
  dsimp only
  rw [if_neg regular, hessian_eq holds, if_neg hessianRegular]
  refine
    ⟨{ covariance := inverse2_eq_inv _
       mean := ?_
       positive := positive
       informed := informed }, rfl⟩
  have solved := mulVec_two (inverse2 (belief.observe (bridge.measurement pair)).precision)
      (belief.observe (bridge.measurement pair)).pull
  unfold Belief.HasMean
  rw [← pull_eq holds] at solved ⊢
  refine (congrArg _ solved).trans ?_
  rw [inverse2_eq_inv, mulVec_mulVec, mul_nonsing_inv _ invertible, one_mulVec]

/-! ## A sequence of pairs -/

/-- The prior: a quarter of precision on the intercept and on the slope. -/
def priorBelief : Belief (Fin 2) ℚ where
  precision := !![1 / 4, 0; 0, 1 / 4]
  pull := ![0, 1 / 4]

theorem new_holds : new.Holds priorBelief where
  covariance := by
    rw [← inverse2_eq_inv]
    decide +kernel
  mean := by
    unfold Belief.HasMean
    decide +kernel
  positive := by
    have diagonal : priorBelief.precision = Matrix.diagonal fun _ => 1 / 4 := by
      decide +kernel
    rw [diagonal]
    exact PosDef.diagonal fun _ => by decide +kernel
  informed := by
    rw [← det2_eq_det]
    decide +kernel

/-- The measurements of the pairs, each with the noise in force at its turn. -/
def measurements :
    Y14Y30Bridge → List BridgePair → List (Measurement (Fin 2) ℚ)
  | _, [] => []
  | bridge, pair :: rest =>
    bridge.measurement pair :: measurements (bridge.update pair) rest

theorem measurements_append (bridge : Y14Y30Bridge) (pairs : List BridgePair) (pair : BridgePair) :
    measurements bridge (pairs ++ [pair]) =
      measurements bridge pairs ++ [(pairs.foldl update bridge).measurement pair] := by
  induction pairs generalizing bridge with
  | nil => rfl
  | cons first rest inductionHypothesis =>
    exact congrArg _ (inductionHypothesis (bridge.update first))

theorem learnAll_append (pairs : List BridgePair) (pair : BridgePair) :
    learnAll (pairs ++ [pair]) = (learnAll pairs).update pair :=
  List.foldl_concat ..

/-- The pairs that were taken: the first ones, as many as were counted. -/
def taken (pairs : List BridgePair) : List BridgePair := pairs.take (learnAll pairs).confidence

/-- The belief that the pairs which were taken make of the prior. -/
def regression (pairs : List BridgePair) : Belief (Fin 2) ℚ :=
  (measurements new (taken pairs)).foldl Belief.observe priorBelief

/-- The bridge is the regression over the pairs it took, and took all of them
while the determinant of its covariance did not count as zero. -/
structure Replays (pairs : List BridgePair) : Prop where
  counted : (learnAll pairs).confidence ≤ pairs.length
  stopped :
    (learnAll pairs).confidence < pairs.length →
      |det2 (learnAll pairs).sigma| < singularCutoff
  kept : learnAll pairs = learnAll (taken pairs)
  holds : (learnAll pairs).Holds (regression pairs)

theorem replays_append {pairs : List BridgePair} (replays : Replays pairs) (pair : BridgePair) :
    Replays (pairs ++ [pair]) := by
  obtain ⟨counted, stopped, kept, holds⟩ := replays
  have appended := learnAll_append pairs pair
  by_cases singular : |det2 (learnAll pairs).sigma| < singularCutoff
  · rw [update_refused singular] at appended
    have sameTaken : taken (pairs ++ [pair]) = taken pairs := by
      unfold taken
      rw [appended, List.take_append_of_le_length counted]
    have same : regression (pairs ++ [pair]) = regression pairs := by
      unfold regression
      rw [sameTaken]
    exact
      { counted := by
          rw [appended, List.length_append]
          exact counted.trans (Nat.le_add_right _ _)
        stopped := fun _ => by rwa [appended]
        kept := by rw [sameTaken, appended, ← kept]
        holds := by rwa [appended, same] }
  · have all : (learnAll pairs).confidence = pairs.length :=
      le_antisymm counted (not_lt.mp fun fewer => singular (stopped fewer))
    obtain ⟨next, one⟩ := update_taken holds pair singular
    rw [← appended] at next one
    have counts : (learnAll (pairs ++ [pair])).confidence = (pairs ++ [pair]).length := by
      rw [List.length_append, ← all]
      exact one
    have allTaken : taken (pairs ++ [pair]) = pairs ++ [pair] := by
      unfold taken
      rw [counts, List.take_length]
    have grown :
        regression (pairs ++ [pair]) =
          (regression pairs).observe ((learnAll pairs).measurement pair) := by
      unfold regression
      rw [allTaken, taken, all, List.take_length, measurements_append, List.foldl_concat]
      rfl
    exact
      { counted := counts.le
        stopped := fun fewer => absurd counts fewer.ne
        kept := by rw [allTaken]
        holds := by rwa [grown] }

theorem replays (pairs : List BridgePair) : Replays pairs := by
  induction pairs using List.reverseRecOn with
  | nil =>
    exact
      { counted := le_refl _
        stopped := fun fewer => absurd fewer (lt_irrefl _)
        kept := rfl
        holds := new_holds }
  | append_singleton pairs pair inductionHypothesis =>
    exact replays_append inductionHypothesis pair

theorem parameterVariance_append_le (pairs : List BridgePair) (pair : BridgePair) (y14 : ℚ) :
    (learnAll (pairs ++ [pair])).parameterVariance y14 ≤
      (learnAll pairs).parameterVariance y14 := by
  obtain ⟨_, _, _, holds⟩ := replays pairs
  rw [learnAll_append]
  by_cases singular : |det2 (learnAll pairs).sigma| < singularCutoff
  · rw [update_refused singular]
  · have next := (update_taken holds pair singular).1
    unfold parameterVariance
    rw [next.covariance, holds.covariance]
    refine spread_inv_le holds.positive next.positive ?_ _
    have strength : 0 ≤ 1 / (learnAll pairs).noise :=
      (one_div_pos.mpr (learnAll pairs).noise_pos).le
    have gained :
        ((regression pairs).observe ((learnAll pairs).measurement pair)).precision -
            (regression pairs).precision =
          information (1 / (learnAll pairs).noise) (bridgeDesign pair.y14) :=
      add_sub_cancel_left _ _
    rw [gained]
    exact posSemidef_information strength _

/--
The bridge is the full regression over the pairs it took.  A pair is left out
only when the determinant of the covariance counts as zero, and then it leaves
the bridge as it was.
-/
theorem learnAll_isRegression (pairs : List BridgePair) :
    ((learnAll pairs).confidence ≤ pairs.length ∧
        learnAll pairs = learnAll (taken pairs) ∧
        ((learnAll pairs).confidence < pairs.length →
          |det2 (learnAll pairs).sigma| < singularCutoff)) ∧
      (learnAll pairs).sigma.PosDef ∧
      (learnAll pairs).sigma⁻¹ =
        priorBelief.precision +
          ((measurements new (taken pairs)).map fun measured =>
            information (1 / measured.noise) measured.design).sum ∧
      (learnAll pairs).sigma⁻¹ *ᵥ (learnAll pairs).mu =
        priorBelief.pull +
          ((measurements new (taken pairs)).map fun measured =>
            (measured.value / measured.noise) • measured.design).sum ∧
      ∀ pair y14,
        (learnAll (pairs ++ [pair])).parameterVariance y14 ≤
          (learnAll pairs).parameterVariance y14 := by
  obtain ⟨counted, stopped, kept, holds⟩ := replays pairs
  refine
    ⟨⟨counted, kept, stopped⟩, holds.posDef_sigma, ?_, ?_,
      parameterVariance_append_le pairs⟩
  · rw [holds.precision_eq]
    exact Belief.precision_foldl_observe _ _
  · rw [holds.precision_eq, holds.mean]
    exact Belief.pull_foldl_observe _ _

/-- After a pair from a very large fortnight, the next one is dropped. -/
theorem afterLargeFortnight_dropped :
    ¬ ∀ pairs : List BridgePair,
        (learnAll pairs).confidence = pairs.length := by
  intro counts
  have one : (learnAll [⟨5000000, 0⟩, ⟨0, 0⟩]).confidence = 1 := by
    decide +kernel
  exact absurd (one.symm.trans (counts _)) (by decide)

end Y14Y30Bridge

end CrowdRelay
