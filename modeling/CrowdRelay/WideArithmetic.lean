import CrowdRelay.MachineInt

namespace WideArithmetic

open MachineInt

/-!
# Arithmetic in one machine type

An expression over integers is computed in a machine type operation by
operation, each result cut down to the width of the type.  It comes to its
exact value when every intermediate result fits.
-/

/-- An integer expression, in the order it is computed in. -/
inductive Expression where
  | value (number : Int)
  | add (first second : Expression)
  | sub (first second : Expression)
  | mul (first second : Expression)
  | div (first second : Expression)
  deriving Repr, DecidableEq

namespace Expression

/-- What the expression stands for; a division drops its fraction. -/
def exact : Expression → Int
  | .value number => number
  | .add first second => first.exact + second.exact
  | .sub first second => first.exact - second.exact
  | .mul first second => first.exact * second.exact
  | .div first second => first.exact.tdiv second.exact

section Range

variable (lo hi : Int) [inhabited : Fact (lo ≤ hi)]

/-- What is computed in the type, where an overflow wraps. -/
def computed : Expression → Int
  | .value number => number
  | .add first second =>
    (Ranged.wrap (first.computed + second.computed) : Ranged lo hi).val
  | .sub first second =>
    (Ranged.wrap (first.computed - second.computed) : Ranged lo hi).val
  | .mul first second =>
    (Ranged.wrap (first.computed * second.computed) : Ranged lo hi).val
  | .div first second =>
    (Ranged.wrap (first.computed.tdiv second.computed) : Ranged lo hi).val

end Range

/-- Every intermediate result lies in the type. -/
def Fits (lo hi : Int) : Expression → Prop
  | .value number => lo ≤ number ∧ number ≤ hi
  | .add first second =>
    first.Fits lo hi ∧ second.Fits lo hi ∧
      lo ≤ first.exact + second.exact ∧ first.exact + second.exact ≤ hi
  | .sub first second =>
    first.Fits lo hi ∧ second.Fits lo hi ∧
      lo ≤ first.exact - second.exact ∧ first.exact - second.exact ≤ hi
  | .mul first second =>
    first.Fits lo hi ∧ second.Fits lo hi ∧
      lo ≤ first.exact * second.exact ∧ first.exact * second.exact ≤ hi
  | .div first second =>
    first.Fits lo hi ∧ second.Fits lo hi ∧
      lo ≤ first.exact.tdiv second.exact ∧ first.exact.tdiv second.exact ≤ hi

variable {lo hi : Int} [inhabited : Fact (lo ≤ hi)]

theorem computed_eq_exact {expression : Expression} (fits : expression.Fits lo hi) :
    expression.computed lo hi = expression.exact := by
  induction expression with
  | value number => rfl
  | add first second firstExact secondExact
  | sub first second firstExact secondExact
  | mul first second firstExact secondExact
  | div first second firstExact secondExact =>
    obtain ⟨firstFits, secondFits, above, below⟩ := fits
    rw [computed, firstExact firstFits, secondExact secondFits, Ranged.val_wrap_of_fits above below]
    rfl

/-- Every intermediate result lies in the type, and the value between zero and
a bound. -/
structure Within (lo hi most : Int) (expression : Expression) : Prop where
  fits : expression.Fits lo hi
  nonneg : 0 ≤ expression.exact
  le_most : expression.exact ≤ most

namespace Within

variable {lo hi firstMost secondMost : Int} {first second : Expression}

section

variable (lowest : lo ≤ 0)
include lowest

theorem value {number most : Int} (nonneg : 0 ≤ number) (le_most : number ≤ most)
    (room : most ≤ hi) :
    Within lo hi most (.value number) :=
  ⟨⟨lowest.trans nonneg, le_most.trans room⟩, nonneg, le_most⟩

theorem add (firstWithin : Within lo hi firstMost first)
    (secondWithin : Within lo hi secondMost second) (room : firstMost + secondMost ≤ hi) :
    Within lo hi (firstMost + secondMost) (.add first second) := by
  have nonneg := Int.add_nonneg firstWithin.nonneg secondWithin.nonneg
  have le_most := Int.add_le_add firstWithin.le_most secondWithin.le_most
  exact ⟨⟨firstWithin.fits, secondWithin.fits, lowest.trans nonneg,
    le_most.trans room⟩, nonneg, le_most⟩

theorem mul (firstWithin : Within lo hi firstMost first)
    (secondWithin : Within lo hi secondMost second) (room : firstMost * secondMost ≤ hi) :
    Within lo hi (firstMost * secondMost) (.mul first second) := by
  have nonneg := Int.mul_nonneg firstWithin.nonneg secondWithin.nonneg
  have le_most := Int.mul_le_mul firstWithin.le_most secondWithin.le_most
      secondWithin.nonneg (firstWithin.nonneg.trans firstWithin.le_most)
  exact ⟨⟨firstWithin.fits, secondWithin.fits, lowest.trans nonneg,
    le_most.trans room⟩, nonneg, le_most⟩

theorem div (firstWithin : Within lo hi firstMost first)
    (secondWithin : Within lo hi secondMost second) (room : firstMost ≤ hi) :
    Within lo hi firstMost (.div first second) := by
  have nonneg := Int.tdiv_nonneg firstWithin.nonneg secondWithin.nonneg
  have smaller : first.exact.tdiv second.exact ≤ firstMost := by
    rw [Int.tdiv_eq_ediv_of_nonneg firstWithin.nonneg]
    exact (Int.ediv_le_self _ firstWithin.nonneg).trans firstWithin.le_most
  exact ⟨⟨firstWithin.fits, secondWithin.fits, lowest.trans nonneg,
    smaller.trans room⟩, nonneg, smaller⟩

end

end Within

end Expression

end WideArithmetic
