import Mathlib.Order.Basic
import Mathlib.Order.MinMax

namespace MachineInt

/-!
# Fixed-width integers with saturating arithmetic

A value of a machine integer type is an integer together with the proof that
it lies in the range of the type.  Arithmetic is done in the integers, where
it is exact, and brought back into the range by `saturate`; the lemmas below
turn every comparison and operation into a statement about the underlying
integers, where `omega` decides it.
-/

/-- An integer of a machine type whose values run from `lo` to `hi`. -/
structure Ranged (lo hi : Int) where
  val : Int
  lower : lo ≤ val
  upper : val ≤ hi
  deriving Repr, DecidableEq

abbrev U8 := Ranged 0 255
abbrev U16 := Ranged 0 65535
abbrev U32 := Ranged 0 4294967295
abbrev U64 := Ranged 0 18446744073709551615
abbrev I32 := Ranged (-2147483648) 2147483647
abbrev I64 := Ranged (-9223372036854775808) 9223372036854775807

instance u8Inhabited : Fact ((0 : Int) ≤ 255) := ⟨by decide⟩
instance u16Inhabited : Fact ((0 : Int) ≤ 65535) := ⟨by decide⟩
instance u32Inhabited : Fact ((0 : Int) ≤ 4294967295) := ⟨by decide⟩
instance u64Inhabited : Fact ((0 : Int) ≤ 18446744073709551615) := ⟨by decide⟩
instance i32Inhabited : Fact ((-2147483648 : Int) ≤ 2147483647) := ⟨by decide⟩
instance i64Inhabited : Fact ((-9223372036854775808 : Int) ≤ 9223372036854775807) := ⟨by decide⟩

namespace Ranged

variable {lo hi : Int}

theorem val_injective : Function.Injective (Ranged.val : Ranged lo hi → Int) := by
  rintro ⟨first, _, _⟩ ⟨second, _, _⟩ same
  simp only at same
  subst same
  rfl

theorem eq_iff_val {first second : Ranged lo hi} : first = second ↔ first.val = second.val :=
  val_injective.eq_iff.symm

/-- Machine integers are ordered as the integers they stand for. -/
instance linearOrder : LinearOrder (Ranged lo hi) := LinearOrder.lift' Ranged.val val_injective

theorem le_iff_val {first second : Ranged lo hi} : first ≤ second ↔ first.val ≤ second.val :=
  Iff.rfl

theorem lt_iff_val {first second : Ranged lo hi} : first < second ↔ first.val < second.val :=
  Iff.rfl

@[simp] theorem val_max (first second : Ranged lo hi) :
    (max first second).val = max first.val second.val := by
  rcases le_total first second with ordered | ordered
  · rw [max_eq_right ordered, max_eq_right (le_iff_val.mp ordered)]
  · rw [max_eq_left ordered, max_eq_left (le_iff_val.mp ordered)]

@[simp] theorem val_min (first second : Ranged lo hi) :
    (min first second).val = min first.val second.val := by
  rcases le_total first second with ordered | ordered
  · rw [min_eq_left ordered, min_eq_left (le_iff_val.mp ordered)]
  · rw [min_eq_right ordered, min_eq_right (le_iff_val.mp ordered)]

section Saturating

variable [inhabited : Fact (lo ≤ hi)] (first : Ranged lo hi) {second : Ranged lo hi} {value : Int}

/-- The value of the range closest to an integer. -/
def saturate (value : Int) : Ranged lo hi where
  val := max lo (min hi value)
  lower := le_max_left _ _
  upper := max_le inhabited.out (min_le_left _ _)

/-- A literal beyond the range reads as the end of the range it passed. -/
instance ofNatLiteral (literal : Nat) : OfNat (Ranged lo hi) literal := ⟨saturate literal⟩

def saturatingAdd (first second : Ranged lo hi) : Ranged lo hi := saturate (first.val + second.val)

def saturatingSub (first second : Ranged lo hi) : Ranged lo hi := saturate (first.val - second.val)

theorem val_saturate (value : Int) : (saturate value : Ranged lo hi).val = max lo (min hi value) :=
  rfl

theorem val_saturatingAdd (first second : Ranged lo hi) :
    (first.saturatingAdd second).val = max lo (min hi (first.val + second.val)) :=
  rfl

theorem val_saturatingSub (first second : Ranged lo hi) :
    (first.saturatingSub second).val = max lo (min hi (first.val - second.val)) :=
  rfl

theorem le_saturatingAdd (nonnegative : 0 ≤ second.val) : first ≤ first.saturatingAdd second := by
  have lower := first.lower
  have upper := first.upper
  rw [le_iff_val, val_saturatingAdd]
  omega

theorem saturatingSub_le (nonnegative : 0 ≤ second.val) : first.saturatingSub second ≤ first := by
  have lower := first.lower
  have upper := first.upper
  rw [le_iff_val, val_saturatingSub]
  omega

def saturatingAbs (value : Ranged lo hi) : Ranged lo hi := saturate (max value.val (-value.val))

/-- How far two values are apart, whichever is greater. -/
def absDiff (first second : Ranged lo hi) : Ranged lo hi :=
  saturate (max first.val second.val - min first.val second.val)

def saturatingMul (first second : Ranged lo hi) : Ranged lo hi := saturate (first.val * second.val)

/-- Division of unsigned values, rounding down; the divisor is not zero. -/
def quotient (first second : Ranged lo hi) : Ranged lo hi := saturate (first.val / second.val)

/-- Division of signed values, rounding toward zero. -/
def truncatedQuotient (first second : Ranged lo hi) : Ranged lo hi :=
  saturate (first.val.tdiv second.val)

/-- Two's complement multiplication, as the plain operator compiles to. -/
def wrappingMul (first second : Ranged lo hi) : Ranged lo hi :=
  saturate (lo + (first.val * second.val - lo) % (hi - lo + 1))

/-- An integer cut down to the width of the type, as a cast does it. -/
def wrap (value : Int) : Ranged lo hi := saturate (lo + (value - lo) % (hi - lo + 1))

/-- A checked conversion into the type. -/
def tryFrom (value : Int) : Option (Ranged lo hi) :=
  if inRange : lo ≤ value ∧ value ≤ hi then some ⟨value, inRange.1, inRange.2⟩ else none

theorem val_wrap (value : Int) : (wrap value : U32).val = value % 4294967296 := by
  have sameRemainder : (0 : Int) + (value - 0) % (4294967295 - 0 + 1) = value % 4294967296 := by
    rw [Int.zero_add, Int.sub_zero]
    rfl
  rw [wrap, val_saturate, sameRemainder]
  omega

theorem val_wrap_of_fits (above : lo ≤ value) (below : value ≤ hi) :
    (wrap value : Ranged lo hi).val = value := by
  have sameRemainder : (value - lo) % (hi - lo + 1) = value - lo :=
    Int.emod_eq_of_lt (by omega) (by omega)
  rw [wrap, val_saturate, sameRemainder]
  omega

theorem val_wrap_le (nonnegative : 0 ≤ value) : (wrap value : U32).val ≤ value := by
  rw [val_wrap]
  omega

end Saturating

theorem tryFrom_eq_some_iff {value : Int} {converted : Ranged lo hi} :
    tryFrom value = some converted ↔ converted.val = value := by
  unfold tryFrom
  constructor
  · intro found
    split at found
    · rw [← Option.some.inj found]
    · cases found
  · intro same
    have inRange : lo ≤ value ∧ value ≤ hi := by
      rw [← same]
      exact ⟨converted.lower, converted.upper⟩
    rw [dif_pos inRange, Option.some.injEq]
    exact val_injective same.symm

theorem tryFrom_isSome_iff {value : Int} :
    (tryFrom value : Option (Ranged lo hi)).isSome ↔ lo ≤ value ∧ value ≤ hi := by
  unfold tryFrom
  split <;> simp [*]

/-- Addition that is exact or refused. -/
def checkedAdd (first second : Ranged lo hi) : Option (Ranged lo hi) :=
  tryFrom (first.val + second.val)

/-- Subtraction that is exact or refused. -/
def checkedSub (first second : Ranged lo hi) : Option (Ranged lo hi) :=
  tryFrom (first.val - second.val)

/-- Multiplication that is exact or refused. -/
def checkedMul (first second : Ranged lo hi) : Option (Ranged lo hi) :=
  tryFrom (first.val * second.val)

/-- Saturating division, refused where the divisor is zero. -/
def checkedDiv [Fact (lo ≤ hi)] (first second : Ranged lo hi) : Option (Ranged lo hi) :=
  if second.val = 0 then none else some (first.truncatedQuotient second)

theorem checkedDiv_eq_none_iff [Fact (lo ≤ hi)] {first second : Ranged lo hi} :
    first.checkedDiv second = none ↔ second.val = 0 := by
  unfold checkedDiv
  split <;> simp [*]

theorem val_increment_of_lt {count limit : U32} (below : count < limit) :
    (count.saturatingAdd 1).val = count.val + 1 := by
  have lower := count.lower
  have upper := limit.upper
  rw [lt_iff_val] at below
  rw [val_saturatingAdd]
  have one : (1 : U32).val = 1 := rfl
  omega

theorem val_le_increment (count : U32) : count.val ≤ (count.saturatingAdd 1).val :=
  le_iff_val.mp (le_saturatingAdd count (by decide))

/-- How many more can be counted before a counter reaches a budget. -/
def room (budget spent : U32) : Nat := (budget.val - spent.val).toNat

theorem succ_room_increment {budget spent : U32} (below : spent < budget) :
    1 + room budget (spent.saturatingAdd 1) ≤ room budget spent := by
  have counted := val_increment_of_lt below
  rw [lt_iff_val] at below
  unfold room
  omega

theorem room_increment_le (budget spent : U32) :
    room budget (spent.saturatingAdd 1) ≤ room budget spent := by
  have grows := val_le_increment spent
  unfold room
  omega

end Ranged

end MachineInt
