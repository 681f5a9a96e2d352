import CrowdRelay.ExperimentAllocations
import CrowdRelay.Fallible
import CrowdRelay.Persist

namespace CrowdRelay.Experimentation

open MachineInt Ranged Fallible

/-!
# Proposing an adjustment and executing it

A decision that names a winner becomes an adjustment of the shares, and the
adjustment is executed later, if at all: under the row lock, against the
version it was decided on, and only when its shares add up.
-/

/-! ## The candidate -/

inductive ExperimentConfig where
  | experimentation (policy : ExperimentPolicy)
  | other
  deriving Repr, DecidableEq

structure ExperimentPolicyRow where
  context : AutopilotContext
  enabled : Bool
  autonomyLevel : AutonomyLevel
  minimumConfidence : Confidence
  maxActions24h : U32
  config : ExperimentConfig
  version : I64
  deriving Repr, DecidableEq

/-- What a candidate records of its policy. -/
structure ExperimentEvidence where
  version : I64
  enabled : Bool
  autonomyLevel : AutonomyLevel
  minimumConfidenceBasisPoints : Int
  maxActions24h : U32
  config : ExperimentPolicy
  deriving Repr, DecidableEq

def experimentEvidence (policy : ExperimentPolicyRow)
    (domainPolicy : ExperimentPolicy) : ExperimentEvidence :=
  { version := policy.version
    enabled := policy.enabled
    autonomyLevel := policy.autonomyLevel
    minimumConfidenceBasisPoints := policy.minimumConfidence.val
    maxActions24h := policy.maxActions24h
    config := domainPolicy }

structure AdjustExperiment where
  experimentId : Uuid
  expectedVersion : I64
  winnerVariantId : Uuid
  allocations : List (Uuid × U16)
  complete : Bool
  deriving Repr, DecidableEq

structure ExperimentCandidate where
  context : AutopilotContext
  subject : ActionSubject
  decisionKind : String
  confidence : Confidence
  disposition : PolicyDisposition
  reason : String
  inputSnapshot : ExperimentSnapshot
  policySnapshot : ExperimentEvidence
  action : AdjustExperiment
  decisionKey : String
  actionIdempotencyKey : String

section Candidate

variable (snapshot : ExperimentSnapshot)

/-- The whole experiment to the winner. -/
def completedAllocations (winner : Uuid) : List (Uuid × U16) :=
  snapshot.variants.map fun variant =>
    (variant.variantId, if variant.variantId = winner then 10000 else 0)

/-- The winner, the shares, whether it is over, and the confidence. -/
def adjustmentOf :
    ExperimentDecision → Option (Uuid × List (Uuid × U16) × Bool × Confidence)
  | .reallocate winner allocations confidence =>
    some (winner, allocations, false, confidence)
  | .complete winner confidence =>
    some (winner, completedAllocations snapshot winner, true, confidence)
  | .hold _ => none

def countersText (variant : ExperimentVariantSnapshot) : String :=
  uuidText variant.variantId ++ ":" ++ toString variant.exposures.val ++
    ":" ++ toString variant.conversions.val ++ ":" ++
    toString variant.valueMinor.val

/-- The exposures of all variants, as a 64-bit sum wraps. -/
def exposureTotal : Int :=
  (snapshot.variants.map fun variant => variant.exposures.val).sum % 18446744073709551616

def experimentCandidate
    (policy : ExperimentPolicyRow) : Option ExperimentCandidate :=
  match policy.config with
  | .other => none
  | .experimentation domainPolicy =>
    (adjustmentOf snapshot (evaluateExperiment snapshot domainPolicy)).map
      fun (winner, allocations, complete, confidence) =>
        { context := policy.context
          subject := .experiment snapshot.experimentId
          decisionKind :=
            if complete then "complete_experiment" else "reallocate_experiment"
          confidence := confidence
          disposition := disposition policy.autonomyLevel confidence policy.minimumConfidence
          reason := "aggregate experiment evidence shows a bounded material winner"
          inputSnapshot := snapshot
          policySnapshot := experimentEvidence policy domainPolicy
          action :=
            { experimentId := snapshot.experimentId
              expectedVersion := snapshot.version
              winnerVariantId := winner
              allocations := allocations
              complete := complete }
          decisionKey :=
            "decision:experiment:v" ++ toString policy.version.val ++
              ":" ++ uuidText snapshot.experimentId ++ ":ev" ++
              toString snapshot.version.val ++ ":" ++
              String.intercalate "|" (snapshot.variants.map countersText) ++
              ":" ++ toString complete
          actionIdempotencyKey :=
            "action:experiment:" ++ uuidText snapshot.experimentId ++
              ":ev" ++ toString snapshot.version.val ++ ":" ++
              uuidText winner ++ ":" ++
              toString (exposureTotal snapshot) }

end Candidate

/-! ## The executor -/

structure ExperimentRows where
  snapshot : ExperimentSnapshot
  winnerVariantId : Option Uuid

namespace ExperimentSnapshot

/-- A change of the variants that leaves their ids alone. -/
def mapVariants (snapshot : ExperimentSnapshot)
    (change : ExperimentVariantSnapshot → ExperimentVariantSnapshot)
    (keepsId : ∀ variant, (change variant).variantId = variant.variantId) :
    ExperimentSnapshot :=
  { snapshot with
    variants := snapshot.variants.map change
    distinct := by
      have same :
          ExperimentVariantSnapshot.variantId ∘ change =
            ExperimentVariantSnapshot.variantId :=
        funext keepsId
      rw [List.map_map, same]
      exact snapshot.distinct }

section MapVariants

variable {snapshot : ExperimentSnapshot}
  {change : ExperimentVariantSnapshot → ExperimentVariantSnapshot}
  (keepsId : ∀ variant, (change variant).variantId = variant.variantId)

theorem activeVariants_mapVariants
    (keepsActive : ∀ variant, (change variant).active = variant.active) :
    (snapshot.mapVariants change keepsId).activeVariants = snapshot.activeVariants.map change := by
  have same : ExperimentVariantSnapshot.active ∘ change = ExperimentVariantSnapshot.active :=
    funext keepsActive
  unfold activeVariants mapVariants
  rw [List.filter_map, same]

include keepsId in
theorem map_variantId_map (variants : List ExperimentVariantSnapshot) :
    (variants.map change).map ExperimentVariantSnapshot.variantId =
      variants.map ExperimentVariantSnapshot.variantId := by
  rw [List.map_map]
  exact List.map_congr_left fun variant _ => keepsId variant

theorem mapVariants_mapVariants {later : ExperimentVariantSnapshot → ExperimentVariantSnapshot}
    (laterKeepsId : ∀ variant, (later variant).variantId = variant.variantId) :
    (snapshot.mapVariants change keepsId).mapVariants later laterKeepsId =
      snapshot.mapVariants (fun variant => later (change variant))
        fun variant => (laterKeepsId _).trans (keepsId variant) := by
  simp only [mapVariants, List.map_map, Function.comp_def]

end MapVariants

theorem activeVariants_distinct (snapshot : ExperimentSnapshot) :
    (snapshot.activeVariants.map ExperimentVariantSnapshot.variantId).Nodup :=
  snapshot.distinct.sublist (List.filter_sublist.map _)

end ExperimentSnapshot

/-- One row's share, where the update is about it. -/
def grant (allocation : Uuid × U16)
    (variant : ExperimentVariantSnapshot) : ExperimentVariantSnapshot :=
  if variant.variantId = allocation.1 && variant.active then
    { variant with allocationBasisPoints := allocation.2 }
  else
    variant

variable (allocation : Uuid × U16) (variant : ExperimentVariantSnapshot)

@[simp] theorem grant_variantId : (grant allocation variant).variantId = variant.variantId := by
  unfold grant
  split <;> rfl

@[simp] theorem grant_active : (grant allocation variant).active = variant.active := by
  unfold grant
  split <;> rfl

@[simp] theorem grant_observed : (grant allocation variant).observed = variant.observed := by
  unfold grant
  split <;> rfl

/-- One update; it has to hit an active row, and the column is checked. -/
def setAllocation (snapshot : ExperimentSnapshot) (allocation : Uuid × U16) :
    Except RepositoryError ExperimentSnapshot :=
  if snapshot.activeVariants.any fun variant =>
      variant.variantId = allocation.1 then
    if allocation.2 ≤ 10000 then
      .ok (snapshot.mapVariants (grant allocation) (grant_variantId allocation))
    else
      .error .unexpected
  else
    .error .conflict

def executeExperimentAdjustment (rows : ExperimentRows) (action : AdjustExperiment) :
    Except RepositoryError ExperimentRows :=
  let snapshot := rows.snapshot
  if !(snapshot.experimentId = action.experimentId &&
      snapshot.version = action.expectedVersion && snapshot.running) then
    .error .conflict
  else if action.allocations.length < 2 ||
      granted action.allocations ≠ 10000 then
    .error .conflict
  else do
    let written ← action.allocations.foldlM setAllocation snapshot
    match snapshot.version.checkedAdd 1 with
    | none => .error .unexpected
    | some version =>
      .ok
        { snapshot :=
            { written with
              version := version
              running := !action.complete }
          winnerVariantId :=
            if action.complete then some action.winnerVariantId else rows.winnerVariantId }

/-! ## What an executed adjustment writes -/

section Writing

open ExperimentSnapshot
variable {variant : ExperimentVariantSnapshot}

/-- One row after all the updates. -/
def grantAll (allocations : List (Uuid × U16))
    (variant : ExperimentVariantSnapshot) : ExperimentVariantSnapshot :=
  allocations.foldl (fun row allocation => grant allocation row) variant

variable {allocations : List (Uuid × U16)}

@[simp] theorem grantAll_variantId (variant : ExperimentVariantSnapshot) :
    (grantAll allocations variant).variantId = variant.variantId := by
  induction allocations generalizing variant with
  | nil => rfl
  | cons allocation rest inductionHypothesis =>
    exact (inductionHypothesis (grant allocation variant)).trans
      (grant_variantId allocation variant)

@[simp] theorem grantAll_active (variant : ExperimentVariantSnapshot) :
    (grantAll allocations variant).active = variant.active := by
  induction allocations generalizing variant with
  | nil => rfl
  | cons allocation rest inductionHypothesis =>
    exact (inductionHypothesis (grant allocation variant)).trans (grant_active allocation variant)

@[simp] theorem grantAll_observed (variant : ExperimentVariantSnapshot) :
    (grantAll allocations variant).observed = variant.observed := by
  induction allocations generalizing variant with
  | nil => rfl
  | cons allocation rest inductionHypothesis =>
    exact (inductionHypothesis (grant allocation variant)).trans (grant_observed allocation variant)

theorem grantAll_of_absent (absent : variant.variantId ∉ allocations.map Prod.fst) :
    grantAll allocations variant = variant := by
  induction allocations generalizing variant with
  | nil => rfl
  | cons allocation rest inductionHypothesis =>
    rw [List.map_cons, List.mem_cons, not_or] at absent
    have untouched : grant allocation variant = variant := by
      unfold grant
      rw [if_neg (by simp [absent.1])]
    have later := inductionHypothesis absent.2
    rw [← untouched] at later
    exact later.trans untouched

/-- The share an active row ends with is the one it is listed with. -/
theorem grantAll_allocation (distinct : (allocations.map Prod.fst).Nodup)
    (active : variant.active = true) {share : U16}
    (listed : (variant.variantId, share) ∈ allocations) :
    (grantAll allocations variant).allocationBasisPoints = share := by
  induction allocations generalizing variant with
  | nil => cases listed
  | cons allocation rest inductionHypothesis =>
    rw [List.map_cons, List.nodup_cons] at distinct
    rcases List.mem_cons.mp listed with isFirst | inRest
    · cases isFirst
      have here :
          grant (variant.variantId, share) variant =
            { variant with allocationBasisPoints := share } := by
        unfold grant
        rw [if_pos (by simp [active])]
      have absent : (grant (variant.variantId, share) variant).variantId ∉ rest.map Prod.fst := by
        rw [grant_variantId]
        exact distinct.1
      have later := grantAll_of_absent absent
      exact (congrArg ExperimentVariantSnapshot.allocationBasisPoints later).trans (by rw [here])
    · exact inductionHypothesis distinct.2
          ((grant_active allocation variant).trans active)
          (by rw [grant_variantId]; exact inRest)

/-- The updates go through exactly where each hits an active row and keeps
within the column, and then every row has been updated. -/
theorem foldlM_setAllocation_eq_ok_iff {snapshot written : ExperimentSnapshot} :
    allocations.foldlM setAllocation snapshot = .ok written ↔
      (∀ allocation ∈ allocations, allocation.1 ∈
              snapshot.activeVariants.map ExperimentVariantSnapshot.variantId ∧
            allocation.2 ≤ 10000) ∧
        written = snapshot.mapVariants (grantAll allocations) grantAll_variantId := by
  induction allocations generalizing snapshot with
  | nil =>
    have unchanged : snapshot.mapVariants (grantAll []) grantAll_variantId = snapshot := by
      have identity : grantAll [] = id := rfl
      simp [mapVariants, identity]
    rw [unchanged]
    constructor
    · intro done
      cases done
      exact ⟨by simp, rfl⟩
    · rintro ⟨_, rfl⟩
      rfl
  | cons allocation rest inductionHypothesis =>
    have sameIds :
        (snapshot.mapVariants (grant allocation) (grant_variantId allocation)).activeVariants.map
            ExperimentVariantSnapshot.variantId =
          snapshot.activeVariants.map
            ExperimentVariantSnapshot.variantId := by
      rw [activeVariants_mapVariants _ (grant_active allocation)]
      exact map_variantId_map (grant_variantId allocation) _
    have composed :
        (snapshot.mapVariants (grant allocation)
            (grant_variantId allocation)).mapVariants (grantAll rest)
            grantAll_variantId =
          snapshot.mapVariants (grantAll (allocation :: rest))
            grantAll_variantId :=
      mapVariants_mapVariants _ _
    rw [List.foldlM_cons, bind_eq_ok_iff, List.forall_mem_cons]
    constructor
    · rintro ⟨next, here, later⟩
      obtain ⟨others, last⟩ := inductionHypothesis.mp later
      unfold setAllocation at here
      split at here
      next hits =>
        split at here
        next within =>
          cases here
          rw [sameIds] at others
          rw [composed] at last
          refine ⟨⟨⟨?_, within⟩, others⟩, last⟩
          simpa [List.mem_map] using hits
        · cases here
      · cases here
    · rintro ⟨⟨⟨hits, within⟩, others⟩, last⟩
      refine ⟨_, ?_, inductionHypothesis.mpr ⟨?_, last.trans composed.symm⟩⟩
      · unfold setAllocation
        rw [if_pos (by simpa [List.mem_map] using hits), if_pos within]
      · rw [sameIds]
        exact others

end Writing

end CrowdRelay.Experimentation
