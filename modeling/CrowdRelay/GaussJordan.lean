import Mathlib.Algebra.Order.BigOperators.Ring.Finset
import Mathlib.Data.Matrix.ColumnRowPartitioned
import Mathlib.LinearAlgebra.Matrix.NonsingularInverse
import Mathlib.Tactic.FieldSimp
import Mathlib.Tactic.Ring

namespace GaussJordan

/-!
# Gauss-Jordan elimination with partial pivoting

A square matrix is reduced next to the identity, column by column, with the
largest entry of what is left of a column as its pivot.  Elimination gives up
where that entry is below a tolerance.  Otherwise it ends with the inverse; and
it never gives up on a matrix whose inverse has rows small enough.
-/

open Matrix

variable {size : Nat} {Scalar : Type*}

/-- A matrix, and next to it what the identity has become. -/
abbrev Augmented (size : Nat) (Scalar : Type*) := Matrix (Fin size) (Fin size ⊕ Fin size) Scalar

def augment [Zero Scalar] [One Scalar]
    (m : Matrix (Fin size) (Fin size) Scalar) : Augmented size Scalar :=
  fromCols m 1

def rowsAfter (col : Fin size) : List (Fin size) := (List.finRange size).filter (col < ·)

theorem mem_rowsAfter {col row : Fin size} : row ∈ rowsAfter col ↔ col < row := by
  simp [rowsAfter]

section Elimination

variable [Field Scalar] [LinearOrder Scalar] (augmented : Augmented size Scalar) (col : Fin size)

/-- The larger of the best entry so far and that of a row. -/
def larger (best : Fin size × Scalar)
    (row : Fin size) : Fin size × Scalar :=
  if best.2 < |augmented row (.inl col)| then (row, |augmented row (.inl col)|) else best

/-- The row of the pivot of a column, and its absolute value. -/
def pivotOf : Fin size × Scalar :=
  (rowsAfter col).foldl (larger augmented col) (col, |augmented col (.inl col)|)

def swapRows
    (first second : Fin size) : Augmented size Scalar :=
  fun row => augmented (Equiv.swap first second row)

/-- Scales the row of the pivot, and takes it off all the others. -/
def eliminate : Augmented size Scalar :=
  let pivotVal := augmented col (.inl col)
  fun row column =>
    if row = col then
      augmented col column / pivotVal
    else
      let factor := augmented row (.inl col)
      if factor = 0 then
        augmented row column
      else
        augmented row column - factor * (augmented col column / pivotVal)

variable (tolerance : Scalar)

/-- One column; nothing where its pivot is below the tolerance. -/
def reduceColumn (augmented : Augmented size Scalar)
    (col : Fin size) : Option (Augmented size Scalar) :=
  let pivot := pivotOf augmented col
  let swapped := if pivot.1 ≠ col then swapRows augmented col pivot.1 else augmented
  if pivot.2 < tolerance then none else some (eliminate swapped col)

def reduceColumns (augmented : Augmented size Scalar)
    (cols : List (Fin size)) : Option (Augmented size Scalar) :=
  cols.foldlM (reduceColumn tolerance) augmented

/-- The inverse, unless some pivot was below the tolerance. -/
def inverse? (m : Matrix (Fin size) (Fin size) Scalar) :
    Option (Matrix (Fin size) (Fin size) Scalar) :=
  (reduceColumns tolerance (augment m) (List.finRange size)).map toCols₂

end Elimination

section Pivot

variable [Field Scalar] [LinearOrder Scalar] {augmented : Augmented size Scalar} {col : Fin size}

/-- An entry of a column that is found by searching it. -/
structure FoundIn
    (augmented : Augmented size Scalar)
    (col : Fin size)
    (found : Fin size × Scalar) : Prop where
  below : col ≤ found.1
  value : found.2 = |augmented found.1 (.inl col)|

theorem FoundIn.larger {best : Fin size × Scalar} {row : Fin size}
    (found : FoundIn augmented col best) (below : col ≤ row) :
    FoundIn augmented col (larger augmented col best row) ∧
      best.2 ≤ (GaussJordan.larger augmented col best row).2 ∧
      |augmented row (.inl col)| ≤ (GaussJordan.larger augmented col best row).2 := by
  unfold GaussJordan.larger
  split
  · rename_i isLarger
    exact ⟨⟨below, rfl⟩, isLarger.le, le_rfl⟩
  · rename_i notLarger
    exact ⟨found, le_rfl, not_lt.mp notLarger⟩

theorem FoundIn.foldl_larger {best : Fin size × Scalar} {rows : List (Fin size)}
    (found : FoundIn augmented col best) (below : ∀ row ∈ rows, col ≤ row) :
    FoundIn augmented col (rows.foldl (GaussJordan.larger augmented col) best) ∧
      best.2 ≤ (rows.foldl (GaussJordan.larger augmented col) best).2 ∧
      ∀ row ∈ rows,
        |augmented row (.inl col)| ≤ (rows.foldl (GaussJordan.larger augmented col) best).2 := by
  induction rows generalizing best with
  | nil => exact ⟨found, le_rfl, fun row member => absurd member List.not_mem_nil⟩
  | cons first rest inductionHypothesis =>
    obtain ⟨foundFirst, kept, reached⟩ := found.larger (below first List.mem_cons_self)
    obtain ⟨foundRest, keptRest, reachedRest⟩ := inductionHypothesis foundFirst fun row member =>
        below row (List.mem_cons_of_mem _ member)
    refine ⟨foundRest, kept.trans keptRest, ?_⟩
    intro row member
    rcases List.mem_cons.mp member with rfl | inRest
    · exact reached.trans keptRest
    · exact reachedRest row inRest

theorem pivotOf_found :
    FoundIn augmented col (pivotOf augmented col) ∧
      ∀ row, col ≤ row →
        |augmented row (.inl col)| ≤ (pivotOf augmented col).2 := by
  have start : FoundIn augmented col (col, |augmented col (.inl col)|) := ⟨le_rfl, rfl⟩
  obtain ⟨found, fromStart, fromRows⟩ := @FoundIn.foldl_larger _ _ _ _ _ _ _ (rowsAfter col) start
      fun row member => (mem_rowsAfter.mp member).le
  refine ⟨found, ?_⟩
  intro row below
  rcases below.eq_or_lt with rfl | strictlyBelow
  · exact fromStart
  · exact fromRows row (mem_rowsAfter.mpr strictlyBelow)

theorem reduceColumn_eq (tolerance : Scalar) (augmented : Augmented size Scalar) (col : Fin size) :
    reduceColumn tolerance augmented col =
      if (pivotOf augmented col).2 < tolerance then
        none
      else
        some (eliminate (swapRows augmented col (pivotOf augmented col).1) col) := by
  unfold reduceColumn
  by_cases same : (pivotOf augmented col).1 = col
  · have unswapped : swapRows augmented col col = augmented := by
      funext row
      rw [swapRows, Equiv.swap_self]
      rfl
    simp [same, unswapped]
  · simp [same]

theorem inverse?_eq_none {tolerance : Scalar} {m : Matrix (Fin (size + 1)) (Fin (size + 1)) Scalar}
    (small : ∀ row, |m row 0| < tolerance) :
    inverse? tolerance m = none := by
  obtain ⟨found, _⟩ := @pivotOf_found _ _ _ _ (augment m) 0
  have isSmall : (pivotOf (augment m) 0).2 < tolerance := by
    rw [found.value]
    exact small _
  rw [inverse?, reduceColumns, List.finRange_succ, List.foldlM_cons,
    reduceColumn_eq, if_pos isSmall]
  rfl

end Pivot

/-! ## What one column preserves -/

/-- A matrix that is reduced in its first columns.  Undoing the reduction
gives the matrix back, and the columns that began as those of the rows to come
are still columns of the identity. -/
structure Reduced
    [Semiring Scalar]
    (m : Matrix (Fin size) (Fin size) Scalar)
    (done : Nat)
    (augmented : Augmented size Scalar) : Prop where
  restores :
    ∃ undo : Matrix (Fin size) (Fin size) Scalar,
      undo * augmented = augment m
  unit :
    ∀ col : Fin size, col.val < done →
      ∀ row, augmented row (.inl col) = if row = col then 1 else 0
  fresh :
    ∃ origin : Equiv.Perm (Fin size),
      ∀ col : Fin size, done ≤ col.val →
        ∀ row, augmented row (.inr (origin col)) = if row = col then 1 else 0

variable {done : Nat}

section Step

variable [Field Scalar] {m : Matrix (Fin size) (Fin size) Scalar}
  {augmented : Augmented size Scalar}

theorem reduced_augment : Reduced m 0 (augment m) where
  restores := ⟨1, Matrix.one_mul _⟩
  unit := fun _ none => absurd none (Nat.not_lt_zero _)
  fresh := ⟨Equiv.refl _, fun _ _ _ => one_apply⟩

theorem Reduced.swapRows {first second : Fin size} (reduced : Reduced m done augmented)
    (firstLeft : done ≤ first.val) (secondLeft : done ≤ second.val) :
    Reduced m done (swapRows augmented first second) where
  restores := by
    obtain ⟨undo, restored⟩ := reduced.restores
    refine ⟨undo.submatrix id (Equiv.swap first second), ?_⟩
    rw [← restored]
    exact submatrix_mul_equiv undo augmented id (Equiv.swap first second) id
  unit := by
    intro col isDone row
    have notFirst : col ≠ first := by
      rintro rfl
      exact absurd firstLeft isDone.not_ge
    have notSecond : col ≠ second := by
      rintro rfl
      exact absurd secondLeft isDone.not_ge
    have kept := Equiv.swap_apply_of_ne_of_ne notFirst notSecond
    have same : Equiv.swap first second row = col ↔ row = col := by
      rw [← kept, (Equiv.swap first second).apply_eq_iff_eq, kept]
    rw [GaussJordan.swapRows, reduced.unit col isDone, if_congr same rfl rfl]
  fresh := by
    obtain ⟨origin, isFresh⟩ := reduced.fresh
    refine ⟨(Equiv.swap first second).trans origin, ?_⟩
    intro col left row
    have swappedLeft : done ≤ (Equiv.swap first second col).val := by
      rw [Equiv.swap_apply_def]
      split_ifs
      · exact secondLeft
      · exact firstLeft
      · exact left
    rw [GaussJordan.swapRows, Equiv.trans_apply, isFresh _ swappedLeft]
    simp only [(Equiv.swap first second).apply_eq_iff_eq]

/-- Adds back what was taken off, and scales back what was scaled. -/
def restore (augmented : Augmented size Scalar)
    (col : Fin size) : Matrix (Fin size) (Fin size) Scalar :=
  1 + vecMulVec
    (fun row => augmented row (.inl col) - if row = col then 1 else 0)
    (Pi.single col 1)

theorem restore_mul_apply (augmented reduced : Augmented size Scalar) (col row : Fin size)
    (column : Fin size ⊕ Fin size) :
    (restore augmented col * reduced) row column = reduced row column +
        (augmented row (.inl col) - if row = col then 1 else 0) * reduced col column := by
  rw [restore, Matrix.add_mul, Matrix.one_mul, vecMulVec_mul, single_one_vecMul]
  rfl

section Eliminated

variable [LinearOrder Scalar] {col : Fin size}

theorem eliminate_apply (augmented : Augmented size Scalar) (col row : Fin size)
    (column : Fin size ⊕ Fin size) :
    eliminate augmented col row column =
      if row = col then
        augmented col column / augmented col (.inl col)
      else
        augmented row column -
          augmented row (.inl col) * (augmented col column / augmented col (.inl col)) := by
  unfold eliminate
  by_cases isPivot : row = col
  · simp [isPivot]
  · by_cases noFactor : augmented row (.inl col) = 0
    · simp [isPivot, noFactor]
    · simp [isPivot, noFactor]

theorem restore_mul_eliminate (nonzero : augmented col (.inl col) ≠ 0) :
    restore augmented col * eliminate augmented col = augmented := by
  ext row column
  rw [restore_mul_apply, eliminate_apply, eliminate_apply, if_pos rfl]
  by_cases isPivot : row = col
  · subst isPivot
    rw [if_pos rfl, if_pos rfl]
    field_simp
    ring
  · rw [if_neg isPivot, if_neg isPivot]
    ring

theorem eliminate_of_zero {row : Fin size} {column : Fin size ⊕ Fin size}
    (zero : augmented col column = 0) :
    eliminate augmented col row column = augmented row column := by
  rw [eliminate_apply, zero]
  by_cases isPivot : row = col
  · simp [isPivot, zero]
  · simp [isPivot]

theorem Reduced.eliminate (reduced : Reduced m col.val augmented)
    (nonzero : augmented col (.inl col) ≠ 0) :
    Reduced m (col.val + 1) (eliminate augmented col) where
  restores := by
    obtain ⟨undo, restored⟩ := reduced.restores
    refine ⟨undo * restore augmented col, ?_⟩
    rw [Matrix.mul_assoc, restore_mul_eliminate nonzero, restored]
  unit := by
    intro other isDone row
    rcases (Nat.lt_succ_iff.mp isDone).eq_or_lt with same | earlier
    · obtain rfl : other = col := Fin.ext same
      rw [eliminate_apply, div_self nonzero, mul_one, sub_self]
    · have zero : augmented col (.inl other) = 0 := by
        rw [reduced.unit other earlier, if_neg]
        rintro rfl
        exact lt_irrefl _ earlier
      rw [eliminate_of_zero zero]
      exact reduced.unit other earlier row
  fresh := by
    obtain ⟨origin, isFresh⟩ := reduced.fresh
    refine ⟨origin, ?_⟩
    intro other left row
    have zero : augmented col (.inr (origin other)) = 0 := by
      rw [isFresh other (Nat.le_of_succ_le left), if_neg]
      rintro rfl
      exact absurd left (Nat.not_succ_le_self _)
    rw [eliminate_of_zero zero]
    exact isFresh other (Nat.le_of_succ_le left) row

end Eliminated

end Step

/-! ## What is left of a column is never all small -/

section Bounds

variable [Field Scalar] {m inverse : Matrix (Fin size) (Fin size) Scalar}
  {augmented : Augmented size Scalar} {col : Fin size}

theorem Reduced.exists_left {done : Nat} (reduced : Reduced m done augmented)
    (isInverse : inverse * m = 1) :
    ∃ left : Matrix (Fin size) (Fin size) Scalar, left * augmented = fromCols 1 inverse := by
  obtain ⟨undo, restored⟩ := reduced.restores
  refine ⟨inverse * undo, ?_⟩
  rw [Matrix.mul_assoc, restored, augment, mul_fromCols, isInverse, Matrix.mul_one]

theorem mul_apply_of_unit {left : Matrix (Fin size) (Fin size) Scalar}
    {row place : Fin size} {column : Fin size ⊕ Fin size}
    (isUnit : ∀ other, augmented other column = if other = place then 1 else 0) :
    (left * augmented) row column = left row place := by
  rw [mul_apply]
  simp [isUnit]

/-- Of a reduced matrix, the row of the inverse for the next column, and what
is left of that column, make one. -/
theorem Reduced.sum_eq_one (reduced : Reduced m col.val augmented) (isInverse : inverse * m = 1) :
    ∃ origin : Equiv.Perm (Fin size),
      ∑ row with col ≤ row, inverse col (origin row) * augmented row (.inl col) = 1 := by
  obtain ⟨left, solved⟩ := reduced.exists_left isInverse
  obtain ⟨origin, isFresh⟩ := reduced.fresh
  refine ⟨origin, ?_⟩
  have earlier : ∀ row, row < col → left col row = 0 := by
    intro row isEarlier
    have entry := congrFun (congrFun solved col) (.inl row)
    rw [mul_apply_of_unit (reduced.unit row isEarlier), fromCols_apply_inl,
      one_apply_ne isEarlier.ne'] at entry
    exact entry
  have later : ∀ row, col ≤ row → left col row = inverse col (origin row) := by
    intro row isLater
    have entry := congrFun (congrFun solved col) (.inr (origin row))
    rwa [mul_apply_of_unit (isFresh row isLater), fromCols_apply_inr] at entry
  calc
    ∑ row with col ≤ row, inverse col (origin row) * augmented row (.inl col) =
        ∑ row with col ≤ row, left col row * augmented row (.inl col) := by
      refine Finset.sum_congr rfl ?_
      intro row member
      rw [later row (Finset.mem_filter.mp member).2]
    _ = ∑ row, left col row * augmented row (.inl col) := by
      refine Finset.sum_subset (Finset.subset_univ _) ?_
      intro row _ notLater
      have isEarlier : row < col := by
        simpa using notLater
      rw [earlier row isEarlier, zero_mul]
    _ = (left * augmented) col (.inl col) := (mul_apply ..).symm
    _ = 1 := by
      rw [solved, fromCols_apply_inl, one_apply_eq]

theorem Reduced.mul_eq_one (isReduced : Reduced m size augmented) : m * augmented.toCols₂ = 1 := by
  obtain ⟨undo, restored⟩ := isReduced.restores
  have isIdentity : augmented.toCols₁ = 1 := by
    ext row column
    exact (isReduced.unit column column.isLt row).trans one_apply.symm
  rw [augment, ← fromCols_toCols augmented, mul_fromCols, isIdentity, Matrix.mul_one] at restored
  obtain ⟨rfl, isOne⟩ := fromCols_inj restored
  exact isOne

variable [LinearOrder Scalar] [IsStrictOrderedRing Scalar]

/-- A pivot is no smaller than the row of the inverse is large. -/
theorem Reduced.one_le_pivot (reduced : Reduced m col.val augmented) (isInverse : inverse * m = 1) :
    1 ≤ (pivotOf augmented col).2 * ∑ other, |inverse col other| := by
  obtain ⟨origin, sums⟩ := reduced.sum_eq_one isInverse
  obtain ⟨found, largest⟩ := @pivotOf_found _ _ _ _ augmented col
  have pivotNonneg : 0 ≤ (pivotOf augmented col).2 := by
    rw [found.value]
    exact abs_nonneg _
  calc
    1 = |∑ row with col ≤ row, inverse col (origin row) * augmented row (.inl col)| := by
      rw [sums, abs_one]
    _ ≤ ∑ row with col ≤ row,
          |inverse col (origin row) * augmented row (.inl col)| :=
      Finset.abs_sum_le_sum_abs _ _
    _ ≤ ∑ row with col ≤ row,
          |inverse col (origin row)| * (pivotOf augmented col).2 := by
      refine Finset.sum_le_sum ?_
      intro row member
      rw [abs_mul]
      exact mul_le_mul_of_nonneg_left (largest row (Finset.mem_filter.mp member).2) (abs_nonneg _)
    _ ≤ ∑ row, |inverse col (origin row)| * (pivotOf augmented col).2 :=
      Finset.sum_le_sum_of_subset_of_nonneg (Finset.subset_univ _)
        fun row _ _ => mul_nonneg (abs_nonneg _) pivotNonneg
    _ = (pivotOf augmented col).2 * ∑ row, |inverse col (origin row)| := by
      rw [← Finset.sum_mul, mul_comm]
    _ = (pivotOf augmented col).2 * ∑ other, |inverse col other| := by
      rw [Equiv.sum_comp origin fun other => |inverse col other|]

end Bounds

/-! ## Whole eliminations -/

section Runs

variable [Field Scalar] [LinearOrder Scalar] [IsStrictOrderedRing Scalar]
  {m inverse : Matrix (Fin size) (Fin size) Scalar} {augmented reduced : Augmented size Scalar}
  {tolerance : Scalar} {col : Fin size} {cols : List (Fin size)}

theorem Reduced.reduceColumn (isReduced : Reduced m col.val augmented) (positive : 0 < tolerance)
    (taken : reduceColumn tolerance augmented col = some reduced) :
    Reduced m (col.val + 1) reduced := by
  obtain ⟨found, _⟩ := @pivotOf_found _ _ _ _ augmented col
  rw [reduceColumn_eq] at taken
  split at taken
  · cases taken
  · rename_i notSmall
    obtain rfl := Option.some.inj taken
    refine (isReduced.swapRows le_rfl found.below).eliminate ?_
    rw [GaussJordan.swapRows, Equiv.swap_apply_left, ← abs_pos, ← found.value]
    exact positive.trans_le (not_lt.mp notSmall)

theorem Reduced.reduceColumn_isSome (isReduced : Reduced m col.val augmented)
    (isInverse : inverse * m = 1) (rowSmall : tolerance * ∑ other, |inverse col other| < 1) :
    (GaussJordan.reduceColumn tolerance augmented col).isSome = true := by
  rw [reduceColumn_eq, if_neg]
  · rfl
  · intro isSmall
    have sumNonneg : 0 ≤ ∑ other, |inverse col other| := Finset.sum_nonneg fun _ _ => abs_nonneg _
    exact ((isReduced.one_le_pivot isInverse).trans
        (mul_le_mul_of_nonneg_right isSmall.le sumNonneg)).not_gt rowSmall

def Consecutive (done : Nat) (cols : List (Fin size)) : Prop :=
  cols.map Fin.val = List.range' done cols.length

theorem consecutive_finRange : Consecutive 0 (List.finRange size) := by
  rw [Consecutive, List.map_coe_finRange_eq_range, List.length_finRange, List.range_eq_range']

theorem Consecutive.of_cons {first : Fin size} {rest : List (Fin size)}
    (consecutive : Consecutive done (first :: rest)) :
    first.val = done ∧ Consecutive (done + 1) rest := by
  rw [Consecutive, List.map_cons, List.length_cons, List.range'_succ,
    List.cons.injEq] at consecutive
  exact consecutive

theorem Reduced.reduceColumns (isReduced : Reduced m done augmented)
    (positive : 0 < tolerance) (consecutive : Consecutive done cols)
    (taken : reduceColumns tolerance augmented cols = some reduced) :
    Reduced m (done + cols.length) reduced := by
  induction cols generalizing done augmented with
  | nil =>
    obtain rfl := Option.some.inj taken
    exact isReduced
  | cons first rest inductionHypothesis =>
    obtain ⟨rfl, consecutiveRest⟩ := consecutive.of_cons
    obtain ⟨next, takenFirst, takenRest⟩ := Option.bind_eq_some_iff.mp taken
    have reducedFirst := isReduced.reduceColumn positive takenFirst
    have reducedRest := inductionHypothesis reducedFirst consecutiveRest takenRest
    rwa [List.length_cons, Nat.add_comm rest.length, ← Nat.add_assoc]

theorem Reduced.reduceColumns_isSome (isReduced : Reduced m done augmented)
    (positive : 0 < tolerance) (consecutive : Consecutive done cols) (isInverse : inverse * m = 1)
    (rowsSmall : ∀ row, tolerance * ∑ other, |inverse row other| < 1) :
    (GaussJordan.reduceColumns tolerance augmented cols).isSome = true := by
  induction cols generalizing done augmented with
  | nil => rfl
  | cons first rest inductionHypothesis =>
    obtain ⟨rfl, consecutiveRest⟩ := consecutive.of_cons
    obtain ⟨next, takenFirst⟩ := Option.isSome_iff_exists.mp
        (isReduced.reduceColumn_isSome isInverse (rowsSmall first))
    have reducedFirst := isReduced.reduceColumn positive takenFirst
    have restTaken := inductionHypothesis reducedFirst consecutiveRest
    rw [GaussJordan.reduceColumns, List.foldlM_cons, takenFirst]
    exact restTaken

theorem inverse?_eq_some (positive : 0 < tolerance) (taken : inverse? tolerance m = some inverse) :
    m * inverse = 1 := by
  obtain ⟨reduced, isReduced, rfl⟩ := Option.map_eq_some_iff.mp taken
  have all := Reduced.reduceColumns reduced_augment positive consecutive_finRange isReduced
  rw [Nat.zero_add, List.length_finRange] at all
  exact all.mul_eq_one

theorem inverse?_isSome (positive : 0 < tolerance) (isInverse : inverse * m = 1)
    (rowsSmall : ∀ row, tolerance * ∑ other, |inverse row other| < 1) :
    (inverse? tolerance m).isSome = true := by
  rw [inverse?, Option.isSome_map]
  exact Reduced.reduceColumns_isSome reduced_augment positive
      consecutive_finRange isInverse rowsSmall

end Runs

end GaussJordan
