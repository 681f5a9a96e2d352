import Mathlib.Data.Nat.ModEq

namespace FixedWidth

/-!
# Numbers in a fixed number of digits

The digits of a number, most significant first, in a base and a width.  What
does not fit is cut off on the left, and what fits is read back.
-/

variable {base width number : Nat}

def digits (base : Nat) : Nat → Nat → List Nat
  | 0, _ => []
  | width + 1, number => digits base width (number / base) ++ [number % base]

def value (base : Nat) (digits : List Nat) : Nat :=
  digits.foldl (fun sofar digit => sofar * base + digit) 0

/-- The number written down, with zeros in front where it is short. -/
def text (base width number : Nat) : List Char := (digits base width number).map Nat.digitChar

@[simp] theorem length_digits (width number : Nat) : (digits base width number).length = width := by
  induction width generalizing number with
  | zero => rfl
  | succ width inductionHypothesis => simp [digits, inductionHypothesis]

theorem lt_of_mem_digits (positive : 0 < base) {digit : Nat}
    (isDigit : digit ∈ digits base width number) :
    digit < base := by
  induction width generalizing number with
  | zero => cases isDigit
  | succ width inductionHypothesis =>
    rcases List.mem_append.mp isDigit with isEarlier | isLast
    · exact inductionHypothesis isEarlier
    · rw [List.mem_singleton.mp isLast]
      exact Nat.mod_lt _ positive

theorem value_concat (sofar : List Nat) (digit : Nat) :
    value base (sofar ++ [digit]) = value base sofar * base + digit := by
  rw [value, List.foldl_append]
  rfl

theorem value_digits (width number : Nat) :
    value base (digits base width number) = number % base ^ width := by
  induction width generalizing number with
  | zero =>
    rw [pow_zero, Nat.mod_one]
    rfl
  | succ width inductionHypothesis =>
    rw [digits, value_concat, inductionHypothesis, pow_succ,
      Nat.mul_comm (base ^ width), Nat.mod_mul, Nat.add_comm, Nat.mul_comm]

variable {other : Nat}

theorem digits_injective (fits : number < base ^ width) (otherFits : other < base ^ width)
    (same : digits base width number = digits base width other) :
    number = other := by
  have values := congrArg (value base) same
  rwa [value_digits, value_digits, Nat.mod_eq_of_lt fits, Nat.mod_eq_of_lt otherFits] at values

theorem digitChar_injective {first second : Nat} (firstFits : first < 16)
    (secondFits : second < 16) (same : Nat.digitChar first = Nat.digitChar second) :
    first = second := by
  have distinct :
      ∀ one ∈ List.range 16, ∀ other ∈ List.range 16,
        Nat.digitChar one = Nat.digitChar other → one = other := by
    decide
  exact distinct first (List.mem_range.mpr firstFits) second (List.mem_range.mpr secondFits) same

theorem map_digitChar_injective {first second : List Nat}
    (firstFits : ∀ digit ∈ first, digit < 16) (secondFits : ∀ digit ∈ second, digit < 16)
    (same : first.map Nat.digitChar = second.map Nat.digitChar) :
    first = second := by
  induction first generalizing second with
  | nil => exact (List.map_eq_nil_iff.mp same.symm).symm
  | cons digit rest inductionHypothesis =>
    cases second with
    | nil => cases same
    | cons other others =>
      obtain ⟨sameDigit, sameRest⟩ := List.cons.inj same
      rw [List.forall_mem_cons] at firstFits secondFits
      rw [digitChar_injective firstFits.1 secondFits.1 sameDigit,
        inductionHypothesis firstFits.2 secondFits.2 sameRest]

@[simp] theorem length_text (width number : Nat) : (text base width number).length = width := by
  rw [text, List.length_map, length_digits]

theorem text_injective (positive : 0 < base) (written : base ≤ 16)
    (fits : number < base ^ width) (otherFits : other < base ^ width)
    (same : text base width number = text base width other) :
    number = other := by
  apply digits_injective fits otherFits
  apply map_digitChar_injective _ _ same
  all_goals
    intro digit isDigit
    exact (lt_of_mem_digits positive isDigit).trans_le written

end FixedWidth
