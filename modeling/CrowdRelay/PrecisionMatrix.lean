import Mathlib.LinearAlgebra.Matrix.NonsingularInverse
import Mathlib.LinearAlgebra.Matrix.PosDef
import Mathlib.Tactic.Linarith
import Mathlib.Tactic.Ring

namespace PrecisionMatrix

/-!
# Precision and covariance

A positive definite matrix of precisions grows with every observation by a
multiple of its design vector's outer product.  The covariance is its inverse,
and its quadratic form shrinks as the precision grows.
-/

open Matrix

variable {Index Scalar : Type*} [Fintype Index] [Field Scalar]

/-- What an observation along a design vector adds to the precision. -/
def information (strength : Scalar)
    (design : Index → Scalar) : Matrix Index Index Scalar :=
  strength • vecMulVec design design

omit [Fintype Index] in
theorem information_apply (strength : Scalar) (design : Index → Scalar) (row column : Index) :
    information strength design row column = strength * (design row * design column) :=
  rfl

/-- The variance that a covariance gives a combination of its parameters. -/
def spread (covariance : Matrix Index Index Scalar)
    (design : Index → Scalar) : Scalar :=
  design ⬝ᵥ (covariance *ᵥ design)

variable (precision : Matrix Index Index Scalar)

theorem dotProduct_mulVec_single [DecidableEq Index] (row column : Index) :
    Pi.single row 1 ⬝ᵥ (precision *ᵥ Pi.single column 1) = precision row column := by
  rw [mulVec_single_one, single_one_dotProduct]
  rfl

theorem spread_single [DecidableEq Index] (row : Index) :
    spread precision (Pi.single row 1) = precision row row :=
  dotProduct_mulVec_single precision row row

section Symmetric

variable [StarRing Scalar] [TrivialStar Scalar] {precision : Matrix Index Index Scalar}

theorem dotProduct_mulVec_swap (symmetric : precision.IsHermitian) (first second : Index → Scalar) :
    first ⬝ᵥ (precision *ᵥ second) = second ⬝ᵥ (precision *ᵥ first) := by
  have transposed : precisionᵀ = precision := by
    rw [← conjTranspose_eq_transpose_of_trivial]
    exact symmetric
  rw [dotProduct_mulVec, ← mulVec_transpose, transposed, dotProduct_comm]

theorem spread_sub (symmetric : precision.IsHermitian) (first second : Index → Scalar) :
    spread precision (first - second) =
      spread precision first - 2 * (second ⬝ᵥ (precision *ᵥ first)) + spread precision second := by
  unfold spread
  rw [mulVec_sub, sub_dotProduct, dotProduct_sub, dotProduct_sub,
    dotProduct_mulVec_swap symmetric first second]
  ring

variable [PartialOrder Scalar]

theorem spread_nonneg (semidefinite : precision.PosSemidef) (design : Index → Scalar) :
    0 ≤ spread precision design := by
  have nonnegative := semidefinite.dotProduct_mulVec_nonneg design
  rwa [star_trivial] at nonnegative

end Symmetric

theorem mulVec_inv_mulVec [PartialOrder Scalar] [StarRing Scalar] [DecidableEq Index]
    {precision : Matrix Index Index Scalar} (positive : precision.PosDef)
    (design : Index → Scalar) :
    precision *ᵥ (precision⁻¹ *ᵥ design) = design := by
  rw [mulVec_mulVec, mul_nonsing_inv _ ((isUnit_iff_isUnit_det _).mp positive.isUnit), one_mulVec]

section Ordered

variable [PartialOrder Scalar] [StarRing Scalar] [TrivialStar Scalar] [StarOrderedRing Scalar]
  {precision grown : Matrix Index Index Scalar} {strength : Scalar}

theorem posSemidef_information (nonnegative : 0 ≤ strength) (design : Index → Scalar) :
    (information strength design).PosSemidef := by
  have outer := posSemidef_vecMulVec_self_star design
  rw [star_trivial] at outer
  exact outer.smul nonnegative

theorem posDef_add_information (positive : precision.PosDef) (nonnegative : 0 ≤ strength)
    (design : Index → Scalar) :
    (precision + information strength design).PosDef :=
  positive.add_posSemidef (posSemidef_information nonnegative design)

theorem spread_inv_le [DecidableEq Index] (positive : precision.PosDef)
    (grownPositive : grown.PosDef) (grows : (grown - precision).PosSemidef)
    (design : Index → Scalar) :
    spread grown⁻¹ design ≤ spread precision⁻¹ design := by
  have solved := mulVec_inv_mulVec positive design
  have grownSolved := mulVec_inv_mulVec grownPositive design
  generalize inverse : precision⁻¹ *ᵥ design = wide at solved
  generalize grownInverse : grown⁻¹ *ᵥ design = narrow at grownSolved
  have growth := spread_nonneg grows narrow
  have apart := spread_nonneg positive.posSemidef (wide - narrow)
  rw [spread_sub positive.isHermitian] at apart
  unfold spread at growth apart ⊢
  rw [sub_mulVec, dotProduct_sub, grownSolved] at growth
  rw [solved] at apart
  rw [inverse, grownInverse, dotProduct_comm design wide,
    dotProduct_comm design narrow, ← sub_nonneg]
  calc
    0 ≤ (wide ⬝ᵥ design - 2 * (narrow ⬝ᵥ design) + narrow ⬝ᵥ (precision *ᵥ narrow)) +
          (narrow ⬝ᵥ design - narrow ⬝ᵥ (precision *ᵥ narrow)) :=
        add_nonneg apart growth
    _ = wide ⬝ᵥ design - narrow ⬝ᵥ design := by ring

end Ordered

/-! ## Entries of a semidefinite matrix -/

section Entries

variable [LinearOrder Scalar] [IsStrictOrderedRing Scalar] [StarRing Scalar] [TrivialStar Scalar]
  [DecidableEq Index] {precision : Matrix Index Index Scalar} {bound : Scalar}

section

variable (semidefinite : precision.PosSemidef)
include semidefinite

theorem two_mul_abs_apply_le (row column : Index) :
    2 * |precision row column| ≤ precision row row + precision column column := by
  have symmetric := semidefinite.isHermitian
  have apart := spread_nonneg semidefinite (Pi.single column 1 - Pi.single row 1)
  have together := spread_nonneg semidefinite (Pi.single column 1 - -Pi.single row 1)
  rw [spread_sub symmetric, spread_single, spread_single, dotProduct_mulVec_single] at apart
  rw [spread_sub symmetric, neg_dotProduct, dotProduct_mulVec_single, spread_single] at together
  have negated : spread precision (-Pi.single row 1) = precision row row := by
    rw [spread, mulVec_neg, neg_dotProduct_neg]
    exact spread_single precision row
  rw [negated] at together
  rcases abs_cases (precision row column) with ⟨isAbs, _⟩ | ⟨isAbs, _⟩
  · rw [isAbs]
    linarith
  · rw [isAbs]
    linarith

theorem abs_apply_le (diagonal : ∀ row, precision row row ≤ bound) (row column : Index) :
    |precision row column| ≤ bound := by
  have average := two_mul_abs_apply_le semidefinite row column
  have rowBound := diagonal row
  have columnBound := diagonal column
  linarith

theorem sum_abs_row_le (diagonal : ∀ row, precision row row ≤ bound) (row : Index) :
    ∑ column, |precision row column| ≤ Fintype.card Index * bound := by
  calc
    ∑ column, |precision row column| ≤ ∑ _column : Index, bound := Finset.sum_le_sum fun column _ =>
        abs_apply_le semidefinite diagonal row column
    _ = Fintype.card Index * bound := by
      rw [Finset.sum_const, Finset.card_univ, nsmul_eq_mul]

end

end Entries

/-! ## Regression in terms of precision -/

/-- One value that was measured along a design vector, and its noise. -/
structure Measurement (Index Scalar : Type*) where
  design : Index → Scalar
  value : Scalar
  noise : Scalar

/-- A normal belief about the parameters: a precision, and what it is times
the mean. -/
structure Belief (Index Scalar : Type*) where
  precision : Matrix Index Index Scalar
  pull : Index → Scalar

namespace Belief

/-- The conjugate update: precisions add up, and so do the pulls. -/
def observe (belief : Belief Index Scalar)
    (measured : Measurement Index Scalar) : Belief Index Scalar where
  precision := belief.precision + information (1 / measured.noise) measured.design
  pull := belief.pull + (measured.value / measured.noise) • measured.design

/-- The mean of a belief solves its normal equations. -/
def HasMean (belief : Belief Index Scalar)
    (mean : Index → Scalar) : Prop :=
  belief.precision *ᵥ mean = belief.pull

variable (belief : Belief Index Scalar) (history : List (Measurement Index Scalar))

omit [Fintype Index] in
theorem precision_foldl_observe :
    (history.foldl observe belief).precision = belief.precision +
        (history.map fun measured =>
          information (1 / measured.noise) measured.design).sum := by
  induction history generalizing belief with
  | nil => simp
  | cons measured rest inductionHypothesis =>
    rw [List.foldl_cons, inductionHypothesis, List.map_cons, List.sum_cons, ← add_assoc]
    rfl

omit [Fintype Index] in
theorem pull_foldl_observe :
    (history.foldl observe belief).pull = belief.pull +
        (history.map fun measured =>
          (measured.value / measured.noise) • measured.design).sum := by
  induction history generalizing belief with
  | nil => simp
  | cons measured rest inductionHypothesis =>
    rw [List.foldl_cons, inductionHypothesis, List.map_cons, List.sum_cons, ← add_assoc]
    rfl

end Belief

end PrecisionMatrix
