import Mathlib.Algebra.Order.Group.Int
import CrowdRelay.ExperimentAdjustments

namespace CrowdRelay.Experimentation

open MachineInt Ranged Fallible ExperimentSnapshot

/-!
# Experiments over whole runs

Between two evaluations the counters become whatever was observed, and what an
evaluation proposed is executed whenever somebody gets to it, or never.  A
reallocation whose shares do not add up is refused, so the experiment stays
valid in every run; one that keeps the experiment whole goes through as it is.
-/

/-! ## The machine -/

/-- Counters as the columns and the observations allow them. -/
structure ExperimentCounters where
  exposures : U64
  conversions : U64
  valueMinor : I64
  seen : 0 < exposures
  within : conversions ≤ exposures
  nonnegative : 0 ≤ valueMinor

structure ExperimentState where
  rows : ExperimentRows
  pending : List AdjustExperiment

inductive ExperimentEvent where
  | observe (variantId : Uuid) (counters : ExperimentCounters)
  | evaluate (policy : ExperimentPolicyRow)
  | execute (place : Nat)

/-- One row's counters, where the observation is about it. -/
def count (variantId : Uuid) (counters : ExperimentCounters)
    (variant : ExperimentVariantSnapshot) : ExperimentVariantSnapshot :=
  if variant.variantId = variantId && variant.active then
    { variant with
      exposures := counters.exposures
      conversions := counters.conversions
      valueMinor := counters.valueMinor }
  else
    variant

section Counting

variable (variantId : Uuid) (counters : ExperimentCounters) (variant : ExperimentVariantSnapshot)

@[simp] theorem count_variantId :
    (count variantId counters variant).variantId = variant.variantId := by
  unfold count
  split <;> rfl

@[simp] theorem count_active : (count variantId counters variant).active = variant.active := by
  unfold count
  split <;> rfl

@[simp] theorem count_allocationBasisPoints :
    (count variantId counters variant).allocationBasisPoints =
      variant.allocationBasisPoints := by
  unfold count
  split <;> rfl

theorem count_observed (observed : variant.observed = true) :
    (count variantId counters variant).observed = true := by
  unfold count
  split
  · simp [ExperimentVariantSnapshot.observed, counters.seen, counters.within,
      counters.nonnegative]
  · exact observed

end Counting

namespace ExperimentState

def start (snapshot : ExperimentSnapshot) : ExperimentState where
  rows := { snapshot := snapshot, winnerVariantId := none }
  pending := []

def step (state : ExperimentState) : ExperimentEvent → ExperimentState
  | .observe variantId counters =>
    { state with
      rows :=
        { state.rows with
          snapshot :=
            state.rows.snapshot.mapVariants (count variantId counters)
              (count_variantId variantId counters) } }
  | .evaluate policy =>
    { state with
      pending :=
        state.pending ++
          ((experimentCandidate state.rows.snapshot policy).map ExperimentCandidate.action).toList }
  | .execute place =>
    match state.pending[place]? with
    | none => state
    | some action =>
      match executeExperimentAdjustment state.rows action with
      | .error _ => state
      | .ok rows => { state with rows := rows }

end ExperimentState

def experimentMachine :
    Machine.Transducer ExperimentState ExperimentEvent Unit where
  step state event := (state.step event, ())

/-! ## What is preserved -/

variable (snapshot : ExperimentSnapshot)

/-- The adjustment names the variants that take part, or all there are. -/
def Names
    (action : AdjustExperiment) : Prop :=
  action.allocations.map Prod.fst =
      snapshot.activeVariants.map ExperimentVariantSnapshot.variantId ∨
    action.allocations.map Prod.fst = snapshot.variants.map ExperimentVariantSnapshot.variantId

variable {action : AdjustExperiment}

section Names

variable {snapshot : ExperimentSnapshot} (winner : Uuid) {policy : ExperimentPolicyRow}
  {candidate : ExperimentCandidate}

theorem Names.mapVariants (names : Names snapshot action)
    {change : ExperimentVariantSnapshot → ExperimentVariantSnapshot}
    (keepsId : ∀ variant, (change variant).variantId = variant.variantId)
    (keepsActive : ∀ variant, (change variant).active = variant.active) :
    Names (snapshot.mapVariants change keepsId) action := by
  have sameActive :
      (snapshot.mapVariants change keepsId).activeVariants.map ExperimentVariantSnapshot.variantId =
        snapshot.activeVariants.map ExperimentVariantSnapshot.variantId := by
    rw [activeVariants_mapVariants keepsId keepsActive, map_variantId_map keepsId]
  have same :
      (snapshot.mapVariants change keepsId).variants.map ExperimentVariantSnapshot.variantId =
        snapshot.variants.map ExperimentVariantSnapshot.variantId :=
    map_variantId_map keepsId _
  unfold Names
  rw [sameActive, same]
  exact names

theorem map_fst_shiftFrom (shift base remainder : Int) (start : Nat)
    (active : List ExperimentVariantSnapshot) :
    (shiftFrom winner shift base remainder start active).map Prod.fst =
      active.map ExperimentVariantSnapshot.variantId := by
  induction active generalizing start with
  | nil => rfl
  | cons variant rest inductionHypothesis =>
    unfold shiftFrom
    split <;> simp [inductionHypothesis]

theorem map_fst_shiftAllocation (active : List ExperimentVariantSnapshot) (step : U16) :
    (shiftAllocation winner active step).map Prod.fst =
      active.map ExperimentVariantSnapshot.variantId := by
  unfold shiftAllocation
  dsimp only
  split
  · rw [List.map_map]
    rfl
  · exact map_fst_shiftFrom ..

theorem map_fst_completedAllocations (winner : Uuid) :
    (completedAllocations snapshot winner).map Prod.fst =
      snapshot.variants.map ExperimentVariantSnapshot.variantId := by
  unfold completedAllocations
  rw [List.map_map]
  rfl

/-- What a candidate asks for comes from the decision it was made from. -/
theorem experimentCandidate_cases
    (proposed : experimentCandidate snapshot policy = some candidate) :
    ∃ domainPolicy winner confidence,
      (∃ allocations, evaluateExperiment snapshot domainPolicy =
              .reallocate winner allocations confidence ∧
            candidate.action =
              { experimentId := snapshot.experimentId
                expectedVersion := snapshot.version
                winnerVariantId := winner
                allocations := allocations
                complete := false }) ∨
        evaluateExperiment snapshot domainPolicy = .complete winner confidence ∧
          candidate.action =
            { experimentId := snapshot.experimentId
              expectedVersion := snapshot.version
              winnerVariantId := winner
              allocations := completedAllocations snapshot winner
              complete := true } := by
  unfold experimentCandidate at proposed
  split at proposed
  · cases proposed
  next domainPolicy _ =>
    obtain ⟨⟨winner, allocations, complete, confidence⟩, adjusted, rfl⟩ :=
      Option.map_eq_some_iff.mp proposed
    cases decided : evaluateExperiment snapshot domainPolicy with
    | hold reason =>
      rw [decided] at adjusted
      cases adjusted
    | reallocate named shares held =>
      rw [decided] at adjusted
      cases adjusted
      exact ⟨domainPolicy, _, _, .inl ⟨_, decided, rfl⟩⟩
    | complete named held =>
      rw [decided] at adjusted
      cases adjusted
      exact ⟨domainPolicy, _, _, .inr ⟨decided, rfl⟩⟩

theorem names_of_candidate (proposed : experimentCandidate snapshot policy = some candidate) :
    Names snapshot candidate.action := by
  obtain ⟨domainPolicy, winner, confidence, ⟨allocations, decided, asked⟩ |
    ⟨_, asked⟩⟩ := experimentCandidate_cases proposed
  · obtain ⟨_, _, _, _, _, shifted⟩ := exists_declared_of_reallocate decided
    rw [asked]
    left
    dsimp only
    rw [shifted]
    exact map_fst_shiftAllocation ..
  · rw [asked]
    exact .inr (map_fst_completedAllocations _)

end Names

section Validity

variable {version : I64} {active : List ExperimentVariantSnapshot} {allocations : List (Uuid × U16)}

/-- A change keeps an experiment valid when it keeps the counters sensible
and leaves the shares whole. -/
theorem validExperiment_map (valid : validExperiment version active = true)
    {change : ExperimentVariantSnapshot → ExperimentVariantSnapshot}
    (keepsObserved : ∀ variant, variant.observed = true → (change variant).observed = true)
    (whole : allocated (active.map change) = 10000)
    {later : I64}
    (positive : 0 < later) :
    validExperiment later (active.map change) = true := by
  obtain ⟨_, several, _, observed⟩ := validExperiment_iff.mp valid
  refine validExperiment_iff.mpr ⟨positive, ?_, whole, ?_⟩
  · rw [List.length_map]
    exact several
  · intro variant member
    obtain ⟨before, listed, rfl⟩ := List.mem_map.mp member
    exact keepsObserved before (observed before listed)

theorem allocated_map_count (variantId : Uuid) (counters : ExperimentCounters) :
    allocated (active.map (count variantId counters)) = allocated active := by
  unfold allocated
  rw [List.map_map]
  congr 1
  refine List.map_congr_left fun variant _ => ?_
  rw [Function.comp_apply, count_allocationBasisPoints]

/-- Where the adjustment lists the rows in their order, every row ends with
the share it is listed with. -/
theorem map_grantAll (distinct : (allocations.map Prod.fst).Nodup)
    {rows : List ExperimentVariantSnapshot}
    (allActive : ∀ variant ∈ rows, variant.active = true) {listed : List (Uuid × U16)}
    (within : ∀ allocation ∈ listed, allocation ∈ allocations)
    (inOrder : listed.map Prod.fst = rows.map ExperimentVariantSnapshot.variantId) :
    rows.map (fun variant =>
        (variant.variantId, (grantAll allocations variant).allocationBasisPoints)) =
      listed := by
  induction rows generalizing listed with
  | nil => exact (List.map_eq_nil_iff.mp inOrder).symm
  | cons variant rest inductionHypothesis =>
    cases listed with
    | nil => cases inOrder
    | cons allocation others =>
      rw [List.map_cons, List.map_cons, List.cons.injEq] at inOrder
      rw [List.forall_mem_cons] at allActive within
      have here : (variant.variantId, allocation.2) ∈ allocations := by
        rw [← inOrder.1]
        exact within.1
      rw [List.map_cons, grantAll_allocation distinct allActive.1 here,
        inductionHypothesis allActive.2 within.2 inOrder.2, ← inOrder.1]

theorem allocated_map_grantAll (distinct : (active.map ExperimentVariantSnapshot.variantId).Nodup)
    (allActive : ∀ variant ∈ active, variant.active = true)
    (inOrder : allocations.map Prod.fst = active.map ExperimentVariantSnapshot.variantId) :
    allocated (active.map (grantAll allocations)) = granted allocations := by
  rw [← inOrder] at distinct
  have listed := map_grantAll distinct allActive (fun _ member => member) inOrder
  rw [← congrArg granted listed]
  unfold allocated granted
  rw [List.map_map, List.map_map]
  rfl

end Validity

section Executing

variable {rows next : ExperimentRows}

/-- What an adjustment needs to go through, and what it then writes. -/
theorem executeExperimentAdjustment_eq_ok_iff :
    executeExperimentAdjustment rows action = .ok next ↔
      (rows.snapshot.experimentId = action.experimentId ∧
        rows.snapshot.version = action.expectedVersion ∧
        rows.snapshot.running = true) ∧
      (2 ≤ action.allocations.length ∧ granted action.allocations = 10000) ∧
      ∃ written version,
        action.allocations.foldlM setAllocation rows.snapshot = .ok written ∧
        rows.snapshot.version.checkedAdd 1 = some version ∧
        next =
          { snapshot :=
              { written with
                version := version
                running := !action.complete }
            winnerVariantId :=
              if action.complete then
                some action.winnerVariantId
              else
                rows.winnerVariantId } := by
  unfold executeExperimentAdjustment
  dsimp only
  by_cases current :
      rows.snapshot.experimentId = action.experimentId ∧
        rows.snapshot.version = action.expectedVersion ∧
        rows.snapshot.running = true
  · rw [if_neg (by simp [current.1, current.2.1, current.2.2])]
    by_cases sums : 2 ≤ action.allocations.length ∧ granted action.allocations = 10000
    · rw [if_neg (by simp [not_lt.mpr sums.1, sums.2]), bind_eq_ok_iff,
        and_iff_right current, and_iff_right sums]
      constructor
      · rintro ⟨written, wrote, last⟩
        split at last
        · cases last
        next version bumped =>
          cases last
          exact ⟨written, version, wrote, bumped, rfl⟩
      · rintro ⟨written, version, wrote, bumped, rfl⟩
        exact ⟨written, wrote, by rw [bumped]⟩
    · rw [if_pos (by
        rw [Bool.or_eq_true, decide_eq_true_eq, decide_eq_true_eq]
        omega)]
      simp [sums]
  · rw [if_pos (by
      rw [Bool.not_eq_true', ← Bool.not_eq_true]
      simpa only [Bool.and_eq_true, decide_eq_true_eq, and_assoc] using current)]
    simp [current]

theorem Names.active_of_hits {snapshot : ExperimentSnapshot} (names : Names snapshot action)
    (hits :
      ∀ allocation ∈ action.allocations,
        allocation.1 ∈ snapshot.activeVariants.map ExperimentVariantSnapshot.variantId) :
    action.allocations.map Prod.fst =
      snapshot.activeVariants.map ExperimentVariantSnapshot.variantId := by
  rcases names with onlyActive | all
  · exact onlyActive
  · have everyActive :
        ∀ variant ∈ snapshot.variants, variant.active = true := by
      intro variant member
      have listed : variant.variantId ∈ snapshot.variants.map ExperimentVariantSnapshot.variantId :=
        List.mem_map_of_mem member
      rw [← all] at listed
      obtain ⟨allocation, inAction, same⟩ := List.mem_map.mp listed
      obtain ⟨other, isActive, sameId⟩ := List.mem_map.mp (hits allocation inAction)
      obtain ⟨otherMember, active⟩ := List.mem_filter.mp isActive
      rw [← eq_of_variantId_eq snapshot.distinct otherMember member (sameId.trans same)]
      exact active
    have whole : snapshot.activeVariants = snapshot.variants := List.filter_eq_self.mpr everyActive
    rw [whole]
    exact all

/-- What an adjustment that went through leaves behind. -/
theorem execute_preserves (done : executeExperimentAdjustment rows action = .ok next)
    (valid : validExperiment rows.snapshot.version rows.snapshot.activeVariants = true)
    (names : Names rows.snapshot action) :
    validExperiment next.snapshot.version next.snapshot.activeVariants = true ∧
      ∀ other, Names rows.snapshot other → Names next.snapshot other := by
  obtain ⟨_, ⟨_, whole⟩, written, version, wrote, bumped, rfl⟩ :=
    executeExperimentAdjustment_eq_ok_iff.mp done
  obtain ⟨accepted, rfl⟩ := foldlM_setAllocation_eq_ok_iff.mp wrote
  have writtenActive :
      (rows.snapshot.mapVariants (grantAll action.allocations) grantAll_variantId).activeVariants =
        rows.snapshot.activeVariants.map (grantAll action.allocations) :=
    activeVariants_mapVariants grantAll_variantId grantAll_active
  have inOrder := names.active_of_hits fun allocation member =>
      (accepted allocation member).1
  refine ⟨?_, fun other otherNames =>
    otherNames.mapVariants grantAll_variantId grantAll_active⟩
  have counted : version.val = rows.snapshot.version.val + 1 := tryFrom_eq_some_iff.mp bumped
  have positive : 0 < version := by
    have before := (validExperiment_iff.mp valid).1
    rw [lt_iff_val] at before ⊢
    have zero : (0 : I64).val = 0 := rfl
    omega
  have later :
      validExperiment version (rows.snapshot.activeVariants.map (grantAll action.allocations)) =
        true :=
    validExperiment_map valid (fun variant observed => (grantAll_observed variant).trans observed)
      ((allocated_map_grantAll (activeVariants_distinct rows.snapshot)
        (fun variant member => (List.mem_filter.mp member).2)
        inOrder).trans whole)
      positive
  rw [← writtenActive] at later
  exact later

/-- A reallocation that keeps the experiment whole is taken as it is. -/
theorem execute_reallocation {policy : ExperimentPolicy} {winner : Uuid}
    {allocations : List (Uuid × U16)} {confidence : Confidence}
    (decided : evaluateExperiment rows.snapshot policy = .reallocate winner allocations confidence)
    (whole : granted allocations = 10000)
    (room : rows.snapshot.version.val < 9223372036854775807) :
    ∃ next,
      executeExperimentAdjustment rows
          { experimentId := rows.snapshot.experimentId
            expectedVersion := rows.snapshot.version
            winnerVariantId := winner
            allocations := allocations
            complete := false } =
        .ok next ∧
      next.snapshot.activeVariants.map (fun variant =>
          (variant.variantId, variant.allocationBasisPoints)) =
        allocations := by
  obtain ⟨_, _, _, declared, _, shifted⟩ := exists_declared_of_reallocate decided
  obtain ⟨positive, several, _, _⟩ := validExperiment_iff.mp declared.valid
  have inOrder :
      allocations.map Prod.fst = rows.snapshot.activeVariants.map
          ExperimentVariantSnapshot.variantId := by
    rw [shifted]
    exact map_fst_shiftAllocation ..
  have sameLength := congrArg List.length inOrder
  rw [List.length_map, List.length_map] at sameLength
  have within : ∀ allocation ∈ allocations, allocation.2 ≤ 10000 := by
    intro allocation member
    have single : allocation.2.val ≤ granted allocations := by
      refine List.single_le_sum ?_ _ (List.mem_map_of_mem member)
      intro share listed
      obtain ⟨one, _, rfl⟩ := List.mem_map.mp listed
      exact one.2.lower
    rw [le_iff_val]
    exact single.trans_eq whole
  rw [lt_iff_val] at positive
  have zero : (0 : I64).val = 0 := rfl
  let version : I64 := ⟨rows.snapshot.version.val + 1, by omega, by omega⟩
  have wrote :
      allocations.foldlM setAllocation rows.snapshot =
        .ok (rows.snapshot.mapVariants (grantAll allocations) grantAll_variantId) := by
    refine foldlM_setAllocation_eq_ok_iff.mpr ⟨?_, rfl⟩
    intro allocation member
    refine ⟨?_, within allocation member⟩
    rw [← inOrder]
    exact List.mem_map_of_mem member
  have bumped : rows.snapshot.version.checkedAdd 1 = some version := tryFrom_eq_some_iff.mpr rfl
  refine ⟨_, executeExperimentAdjustment_eq_ok_iff.mpr
    ⟨⟨rfl, rfl, declared.running⟩, ⟨by dsimp only; omega, whole⟩,
      _, version, wrote, bumped, rfl⟩, ?_⟩
  have writtenActive :
      (rows.snapshot.mapVariants (grantAll allocations) grantAll_variantId).activeVariants =
        rows.snapshot.activeVariants.map (grantAll allocations) :=
    activeVariants_mapVariants grantAll_variantId grantAll_active
  have distinct := activeVariants_distinct rows.snapshot
  rw [← inOrder] at distinct
  have written := map_grantAll distinct (fun variant member => (List.mem_filter.mp member).2)
      (fun _ member => member) inOrder
  have final :
      (rows.snapshot.mapVariants (grantAll allocations)
          grantAll_variantId).activeVariants.map (fun variant =>
          (variant.variantId, variant.allocationBasisPoints)) =
        allocations := by
    rw [writtenActive, List.map_map, ← written]
    refine List.map_congr_left fun variant _ => ?_
    rw [Function.comp_apply, grantAll_variantId, written]
  exact final

end Executing

/-! ## Runs -/

namespace ExperimentState

/-- The experiment is valid and every open adjustment is about its variants. -/
structure Sound (state : ExperimentState) : Prop where
  valid :
    validExperiment state.rows.snapshot.version
        state.rows.snapshot.activeVariants =
      true
  named :
    ∀ action ∈ state.pending, Names state.rows.snapshot action

theorem Sound.step {state : ExperimentState} (sound : state.Sound) (event : ExperimentEvent) :
    (state.step event).Sound := by
  cases event with
  | observe variantId counters =>
    have countedActive :
        (state.rows.snapshot.mapVariants (count variantId counters)
            (count_variantId variantId counters)).activeVariants =
          state.rows.snapshot.activeVariants.map (count variantId counters) :=
      activeVariants_mapVariants _ (count_active variantId counters)
    have valid := validExperiment_map sound.valid (count_observed variantId counters)
        ((allocated_map_count variantId counters).trans (validExperiment_iff.mp sound.valid).2.2.1)
        (validExperiment_iff.mp sound.valid).1
    rw [← countedActive] at valid
    exact
      { valid := valid
        named := fun action member =>
          (sound.named action member).mapVariants (count_variantId variantId counters)
            (count_active variantId counters) }
  | evaluate policy =>
    refine { valid := sound.valid, named := ?_ }
    intro action member
    rcases List.mem_append.mp member with before | new
    · exact sound.named action before
    · rw [Option.mem_toList, Option.map_eq_some_iff] at new
      obtain ⟨candidate, proposed, rfl⟩ := new
      exact names_of_candidate proposed
  | execute place =>
    unfold ExperimentState.step
    dsimp only
    split
    · exact sound
    next action found =>
      split
      · exact sound
      next rows done =>
        have member := List.mem_of_getElem? found
        obtain ⟨valid, keepsNames⟩ := execute_preserves done sound.valid (sound.named action member)
        exact
          { valid := valid
            named := fun other listed =>
              keepsNames other (sound.named other listed) }

theorem sound_final {snapshot : ExperimentSnapshot}
    (valid : validExperiment snapshot.version snapshot.activeVariants = true)
    (events : List ExperimentEvent) :
    (experimentMachine.final (start snapshot) events).Sound :=
  @Machine.Transducer.final_invariant _ _ _ experimentMachine ExperimentState.Sound
    (fun _ event sound => sound.step event)
    (start snapshot)
    { valid := valid
      named := fun _ member => by cases member }
    events

end ExperimentState

/-! ## Assignments -/

def ExperimentVariantSnapshot.slot
    (variant : ExperimentVariantSnapshot) : ExperimentAllocationSlot where
  variantId := variant.variantId
  allocationBasisPoints := variant.allocationBasisPoints
  active := variant.active

def ExperimentSnapshot.slots : List ExperimentAllocationSlot :=
  snapshot.variants.map ExperimentVariantSnapshot.slot

theorem slotOfBucket_isSome {bucket cumulative : Int}
    {slots : List ExperimentAllocationSlot} (before : cumulative ≤ bucket)
    (reached : bucket < cumulative + (slots.map fun slot => slot.allocationBasisPoints.val).sum) :
    (slotOfBucket bucket cumulative slots).isSome = true := by
  induction slots generalizing cumulative with
  | nil =>
    simp at reached
    omega
  | cons slot rest inductionHypothesis =>
    rw [List.map_cons, List.sum_cons] at reached
    unfold slotOfBucket
    dsimp only
    split
    · rfl
    next beyond => exact inductionHypothesis (by omega) (by omega)

theorem sum_slots (variants : List ExperimentVariantSnapshot) :
    (((variants.map ExperimentVariantSnapshot.slot).filter fun slot =>
          slot.active && 0 < slot.allocationBasisPoints).map
        fun slot => slot.allocationBasisPoints.val).sum =
      allocated (variants.filter ExperimentVariantSnapshot.active) := by
  induction variants with
  | nil => rfl
  | cons variant rest inductionHypothesis =>
    have lower := variant.allocationBasisPoints.lower
    rw [List.map_cons]
    cases isActive : variant.active with
    | false =>
      rw [List.filter_cons_of_neg (by simp [ExperimentVariantSnapshot.slot, isActive]),
        List.filter_cons_of_neg (by simp [isActive])]
      exact inductionHypothesis
    | true =>
      have summed :
          allocated (variant :: rest.filter ExperimentVariantSnapshot.active) =
            variant.allocationBasisPoints.val +
              allocated (rest.filter ExperimentVariantSnapshot.active) :=
        List.sum_cons
      rw [List.filter_cons_of_pos isActive, summed, ← inductionHypothesis]
      by_cases holds : 0 < variant.allocationBasisPoints
      · rw [List.filter_cons_of_pos
          (by simp [ExperimentVariantSnapshot.slot, isActive, holds]),
          List.map_cons, List.sum_cons]
        rfl
      · rw [List.filter_cons_of_neg
          (by simp [ExperimentVariantSnapshot.slot, isActive, holds])]
        rw [lt_iff_val] at holds
        have zero : (0 : U16).val = 0 := rfl
        omega

/-- A valid experiment assigns every key. -/
theorem assignVariant_isSome {snapshot : ExperimentSnapshot}
    (valid : validExperiment snapshot.version snapshot.activeVariants = true)
    (key : List (BitVec 8)) :
    (assignVariant snapshot.experimentId key snapshot.slots).isSome =
      true := by
  have whole :
      ((snapshot.slots.filter fun slot =>
            slot.active && 0 < slot.allocationBasisPoints).map
          fun slot => slot.allocationBasisPoints.val).sum = 10000 :=
    (sum_slots snapshot.variants).trans (validExperiment_iff.mp valid).2.2.1
  unfold assignVariant
  dsimp only
  rw [if_neg ?_]
  · refine slotOfBucket_isSome (by omega) ?_
    have sorted := ((List.perm_insertionSort
        (fun left right : ExperimentAllocationSlot =>
          left.variantId ≤ right.variantId)
        (snapshot.slots.filter fun slot =>
          slot.active && 0 < slot.allocationBasisPoints)).map
        fun slot => slot.allocationBasisPoints.val).sum_eq
    rw [sorted, whole]
    omega
  · intro refused
    rw [Bool.or_eq_true, decide_eq_true_eq] at refused
    rcases refused with none | short
    · rw [List.isEmpty_iff.mp none] at whole
      cases whole
    · exact short whole

/-! ## Reallocations -/

theorem whole_iff_of_reallocate {snapshot : ExperimentSnapshot}
    {policy : ExperimentPolicy} {named : Uuid} {allocations : List (Uuid × U16)}
    {confidence : Confidence}
    (decided : evaluateExperiment snapshot policy = .reallocate named allocations confidence) :
    WholeReallocation named policy.maximumAllocationStepBasisPoints
        snapshot.activeVariants allocations ↔
      EvenPartsFit (winnerShares named snapshot.activeVariants).sum
        policy.maximumAllocationStepBasisPoints
        (loserShares named snapshot.activeVariants) := by
  obtain ⟨winner, _, _, declared, rfl, rfl⟩ := exists_declared_of_reallocate decided
  obtain ⟨_, several, whole, _⟩ := validExperiment_iff.mp declared.valid
  have distinct := activeVariants_distinct snapshot
  rw [winnerShares_eq distinct declared.winner_mem, List.sum_singleton]
  exact shiftAllocation_whole_iff distinct declared.winner_mem several whole _

/--
A reallocation keeps the experiment whole exactly where every loser holds its
even part above its reserve.  In every run a valid experiment stays valid and
assigns every key, and a reallocation that keeps it whole is executed as it is.
-/
theorem reallocation_whole_iff_evenPartsFit (snapshot : ExperimentSnapshot) :
    (∀ policy winner allocations confidence,
      evaluateExperiment snapshot policy =
          .reallocate winner allocations confidence →
        (WholeReallocation winner policy.maximumAllocationStepBasisPoints
            snapshot.activeVariants allocations ↔
          EvenPartsFit (winnerShares winner snapshot.activeVariants).sum
            policy.maximumAllocationStepBasisPoints
            (loserShares winner snapshot.activeVariants))) ∧
    (validExperiment snapshot.version snapshot.activeVariants = true →
      ∀ events,
        let reached := (experimentMachine.final (.start snapshot) events).rows
        validExperiment reached.snapshot.version
            reached.snapshot.activeVariants =
          true ∧
        (∀ key,
          (assignVariant reached.snapshot.experimentId key
            reached.snapshot.slots).isSome =
            true) ∧
        ∀ policy winner allocations confidence,
          evaluateExperiment reached.snapshot policy = .reallocate winner allocations confidence →
          EvenPartsFit
            (winnerShares winner reached.snapshot.activeVariants).sum
            policy.maximumAllocationStepBasisPoints
            (loserShares winner reached.snapshot.activeVariants) →
          reached.snapshot.version.val < 9223372036854775807 →
            ∃ next,
              executeExperimentAdjustment reached
                  { experimentId := reached.snapshot.experimentId
                    expectedVersion := reached.snapshot.version
                    winnerVariantId := winner
                    allocations := allocations
                    complete := false } =
                .ok next ∧
              next.snapshot.activeVariants.map (fun variant =>
                  (variant.variantId, variant.allocationBasisPoints)) =
                allocations) := by
  refine ⟨fun _ _ _ _ decided => whole_iff_of_reallocate decided, ?_⟩
  intro valid events
  have sound := ExperimentState.sound_final valid events
  refine ⟨sound.valid, assignVariant_isSome sound.valid, ?_⟩
  intro policy winner allocations confidence decided fits room
  exact execute_reallocation decided
      ((whole_iff_of_reallocate decided).mpr fits).whole room

/-- Three variants that convert at sixty, ten and ten percent. -/
def sharedAs (leader middle last : U16) : ExperimentSnapshot where
  experimentId := 9
  version := 1
  metric := .conversion
  running := true
  variants :=
    [{ variantId := 1
       exposures := 60
       conversions := 36
       valueMinor := 0
       allocationBasisPoints := leader
       active := true },
     { variantId := 2
       exposures := 60
       conversions := 6
       valueMinor := 0
       allocationBasisPoints := middle
       active := true },
     { variantId := 3
       exposures := 60
       conversions := 6
       valueMinor := 0
       allocationBasisPoints := last
       active := true }]
  distinct := by
    change ([1, 2, 3] : List Uuid).Nodup
    decide

def experimentationRow : ExperimentPolicyRow where
  context := .experimentation
  enabled := true
  autonomyLevel := .boundedAuto
  minimumConfidence := 7500
  maxActions24h := 10
  config := .experimentation .default
  version := 1

/-- With even shares the losers give five percent each. -/
theorem evenlyShared_whole :
    WholeReallocation 1 1000 (sharedAs 4000 3000 3000).activeVariants
        [(1, 5000), (2, 2500), (3, 2500)] ∧
      (∀ key,
        (assignVariant 9 key
          (experimentMachine.final (.start (sharedAs 4000 3000 3000))
            [.evaluate experimentationRow, .execute 0]).rows.snapshot.slots).isSome =
          true) ∧
      ∃ next,
        executeExperimentAdjustment
            { snapshot := sharedAs 4000 3000 3000, winnerVariantId := none }
            { experimentId := 9
              expectedVersion := 1
              winnerVariantId := 1
              allocations := [(1, 5000), (2, 2500), (3, 2500)]
              complete := false } =
          .ok next ∧
        next.snapshot.activeVariants.map (fun variant =>
            (variant.variantId, variant.allocationBasisPoints)) =
          [(1, 5000), (2, 2500), (3, 2500)] := by
  have valid :
      validExperiment (sharedAs 4000 3000 3000).version
        (sharedAs 4000 3000 3000).activeVariants = true := by
    decide +kernel
  have decided :
      evaluateExperiment (sharedAs 4000 3000 3000) .default =
        .reallocate 1 [(1, 5000), (2, 2500), (3, 2500)] 10000 := by
    decide +kernel
  have fits :
      EvenPartsFit
        (winnerShares 1 (sharedAs 4000 3000 3000).activeVariants).sum
        ExperimentPolicy.default.maximumAllocationStepBasisPoints
        (loserShares 1 (sharedAs 4000 3000 3000).activeVariants) := by
    decide +kernel
  have afterRun := (reallocation_whole_iff_evenPartsFit (sharedAs 4000 3000 3000)).2 valid
      [.evaluate experimentationRow, .execute 0]
  have atStart := (reallocation_whole_iff_evenPartsFit (sharedAs 4000 3000 3000)).2 valid []
  refine ⟨((reallocation_whole_iff_evenPartsFit _).1 _ _ _ _ decided).mpr fits, ?_,
      atStart.2.2 _ _ _ _ decided fits (by decide)⟩
  intro key
  exact afterRun.2.1 key

/--
Two losers share a shift of ten percent although one of them holds one: it
ends below its reserve, the shares come to more than the whole, and the
adjustment is refused.
-/
theorem unevenlyShared_notWhole :
    validExperiment (sharedAs 5000 4900 100).version
        (sharedAs 5000 4900 100).activeVariants = true ∧
      evaluateExperiment (sharedAs 5000 4900 100) .default =
        .reallocate 1 [(1, 6000), (2, 4400), (3, 0)] 10000 ∧
      granted [(1, 6000), (2, 4400), (3, 0)] = 10400 ∧
      ¬ WholeReallocation 1 1000 (sharedAs 5000 4900 100).activeVariants
        [(1, 6000), (2, 4400), (3, 0)] ∧
      (executeExperimentAdjustment
          { snapshot := sharedAs 5000 4900 100, winnerVariantId := none }
          { experimentId := 9
            expectedVersion := 1
            winnerVariantId := 1
            allocations := [(1, 6000), (2, 4400), (3, 0)]
            complete := false }).toOption.isNone = true := by
  refine ⟨by decide +kernel, by decide +kernel, by decide +kernel, ?_,
      by decide +kernel⟩
  intro kept
  have excess : granted [(1, 6000), (2, 4400), (3, 0)] = 10400 := by
    decide +kernel
  have short := kept.whole
  omega

end CrowdRelay.Experimentation
