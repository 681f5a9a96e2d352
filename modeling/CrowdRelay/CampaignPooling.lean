import Mathlib.Data.List.Induction
import CrowdRelay.ExperimentDesign

namespace CrowdRelay

/-!
# Pooling campaigns over a window

A direct-action template keeps one design for a window of thirty days, and the
campaigns of the cycles inside it are rolled under that design.  Only the
cycle that creates the design checks its power, and only against its own units.
-/

/-- How the store takes the request for a design. -/
inductive DesignAnswer where
  | stored
  | insertFailed
  /-- The insert went through, and what follows it did not. -/
  | failed
  deriving Repr, DecidableEq

/-- The campaigns that one cycle offers; a group is never empty. -/
structure PoolingCycle where
  units : List String
  answer : DesignAnswer
  offered : units ≠ []

/-- The key of a design and the uuid that the database draws for it. -/
structure DesignWindow where
  interventionKey : String
  logicalCycleKey : String
  experimentUuid : Uuid
  deriving Repr, DecidableEq

structure UnitRoll where
  unitId : String
  design : ExperimentDesign
  effectiveHoldout : ℚ
  deriving DecidableEq

structure WindowState where
  row : Option ExperimentDesign
  rolls : List UnitRoll

section Window

variable (policy : ExperimentPolicy) (window : DesignWindow)

/-- The row as the insert leaves it, with the defaults of the table. -/
def insertedDesign (eligibleUnits : List String) : ExperimentDesign :=
  { experimentUuid := window.experimentUuid
    assignmentRound := 1
    interventionKey := window.interventionKey
    logicalCycleKey := window.logicalCycleKey
    eligibleUnits := eligibleUnits
    holdoutProbability := policy.holdoutProbability
    experimentStatus := .active
    expectedTreatmentCount := none
    expectedControlCount := none }

variable (row : Option ExperimentDesign) (cycle : PoolingCycle)

/-- The row afterwards, and the design where there was no error. -/
def getOrCreateExperimentDesign : Option ExperimentDesign × Option ExperimentDesign :=
  match cycle.answer, row with
  | .insertFailed, row => (row, none)
  | .failed, none => (some (insertedDesign policy window cycle.units), none)
  | .stored, none =>
    -- Created here: the power is checked once, and saved.
    let design := (insertedDesign policy window cycle.units).checkPower policy
    (some design, some design)
  | .failed, some persisted => (some persisted, none)
  | .stored, some persisted => (some persisted, some persisted)

def WindowState.step (state : WindowState)
    (cycle : PoolingCycle) : WindowState :=
  let answer := getOrCreateExperimentDesign policy window state.row cycle
  { row := answer.1
    rolls :=
      match answer.2 with
      | none => state.rolls
      | some design =>
        state.rolls ++
          cycle.units.map fun unitId =>
            { unitId := unitId
              design := design
              effectiveHoldout := design.effectiveHoldout policy.holdoutProbability } }

def windowAfter (run : List PoolingCycle) : WindowState :=
  run.foldl (WindowState.step policy window) ⟨none, []⟩

/-- Once the campaigns seen have the numbers, the next one is randomised. -/
def PoolingReachesPower (run : List PoolingCycle) : Prop :=
  ∀ before roll after,
    (windowAfter policy window run).rolls = before ++ roll :: after →
    underpowered policy (before.map UnitRoll.unitId).dedup.length
      policy.holdoutProbability = false →
    roll.design.experimentStatus = .active ∧ 0 < roll.effectiveHoldout

def rolledUnits (run : List PoolingCycle) : List String :=
  (run.filter fun cycle => cycle.answer = .stored).flatMap PoolingCycle.units

/-- The first cycle whose insert goes through is the one that creates. -/
def creatingCycle (run : List PoolingCycle) : Option PoolingCycle :=
  run.find? fun cycle => cycle.answer ≠ .insertFailed

/-- Some campaign comes after campaigns enough. -/
def NumbersReached (run : List PoolingCycle) : Prop :=
  ∃ before unitId after,
    rolledUnits run = before ++ unitId :: after ∧
      underpowered policy before.dedup.length policy.holdoutProbability = false

/-- The creating cycle has the numbers alone, or could not save its check. -/
def CreatedActive (run : List PoolingCycle) : Prop :=
  ∀ cycle,
    creatingCycle run = some cycle →
    cycle.answer = .failed ∨
      underpowered policy cycle.units.length policy.holdoutProbability = false

/-! ## One design for the window -/

/-- What the creating cycle leaves in the table. -/
def persistedDesign (cycle : PoolingCycle) : ExperimentDesign :=
  match cycle.answer with
  | .stored => (insertedDesign policy window cycle.units).checkPower policy
  | _ => insertedDesign policy window cycle.units

variable {policy window}

theorem windowAfter_append_singleton (run : List PoolingCycle) (cycle : PoolingCycle) :
    windowAfter policy window (run ++ [cycle]) =
      (windowAfter policy window run).step policy window cycle :=
  List.foldl_append

theorem getOrCreateExperimentDesign_fst :
    (getOrCreateExperimentDesign policy window row cycle).1 = row.or
        (if cycle.answer = .insertFailed then
          none
        else
          some (persistedDesign policy window cycle)) := by
  cases row with
  | none =>
    cases answer : cycle.answer <;>
      simp [getOrCreateExperimentDesign, persistedDesign, answer]
  | some persisted =>
    cases answer : cycle.answer <;>
      simp [getOrCreateExperimentDesign, answer]

theorem row_windowAfter (run : List PoolingCycle) :
    (windowAfter policy window run).row =
      (creatingCycle run).map (persistedDesign policy window) := by
  induction run using List.reverseRecOn with
  | nil => rfl
  | append_singleton rest cycle inductionHypothesis =>
    rw [windowAfter_append_singleton]
    show
      (getOrCreateExperimentDesign policy window (windowAfter policy window rest).row cycle).1 = _
    rw [getOrCreateExperimentDesign_fst, inductionHypothesis]
    unfold creatingCycle
    rw [List.find?_append]
    cases rest.find? fun cycle => cycle.answer ≠ .insertFailed with
    | none =>
      by_cases failed : cycle.answer = .insertFailed <;>
        simp [failed]
    | some creating => rfl

theorem rolls_step (state : WindowState) (cycle : PoolingCycle) :
    (state.step policy window cycle).rolls = state.rolls ∧
        cycle.answer ≠ .stored ∨
      cycle.answer = .stored ∧
        ∃ design,
          (state.step policy window cycle).row = some design ∧
            (state.step policy window cycle).rolls = state.rolls ++ cycle.units.map fun unitId =>
                  { unitId := unitId
                    design := design
                    effectiveHoldout := design.effectiveHoldout policy.holdoutProbability } := by
  cases row : state.row <;> cases answer : cycle.answer <;>
    simp [WindowState.step, getOrCreateExperimentDesign, row, answer]

theorem unitId_rolls (run : List PoolingCycle) :
    (windowAfter policy window run).rolls.map UnitRoll.unitId = rolledUnits run := by
  induction run using List.reverseRecOn with
  | nil => rfl
  | append_singleton rest cycle inductionHypothesis =>
    rw [windowAfter_append_singleton]
    unfold rolledUnits at inductionHypothesis ⊢
    rw [List.filter_append, List.flatMap_append, ← inductionHypothesis]
    rcases @rolls_step policy window (windowAfter policy window rest) cycle
      with ⟨same, unanswered⟩ | ⟨stored, design, _, rolled⟩
    · simp [same, unanswered]
    · simp [rolled, stored, Function.comp_def]

/-- Every unit is rolled under the design of the creating cycle. -/
theorem roll_eq_persisted {run : List PoolingCycle} {roll : UnitRoll}
    (rolled : roll ∈ (windowAfter policy window run).rolls) :
    ∃ cycle,
      creatingCycle run = some cycle ∧
        roll.design = persistedDesign policy window cycle ∧
        roll.effectiveHoldout = roll.design.effectiveHoldout policy.holdoutProbability := by
  induction run using List.reverseRecOn with
  | nil => cases rolled
  | append_singleton rest cycle inductionHypothesis =>
    have laterCreating :
        ∀ creating,
          creatingCycle rest = some creating →
          creatingCycle (rest ++ [cycle]) = some creating := by
      intro creating isCreating
      unfold creatingCycle at isCreating ⊢
      rw [List.find?_append, isCreating]
      rfl
    have row := @row_windowAfter policy window (rest ++ [cycle])
    rw [windowAfter_append_singleton] at rolled row
    rcases rolls_step (windowAfter policy window rest) cycle with
      ⟨same, _⟩ | ⟨_, design, isRow, isRolled⟩
    · rw [same] at rolled
      obtain ⟨creating, isCreating, told⟩ := inductionHypothesis rolled
      exact ⟨creating, laterCreating creating isCreating, told⟩
    · rw [isRolled] at rolled
      rcases List.mem_append.mp rolled with isOld | isNew
      · obtain ⟨creating, isCreating, told⟩ := inductionHypothesis isOld
        exact ⟨creating, laterCreating creating isCreating, told⟩
      · obtain ⟨unitId, _, rfl⟩ := List.mem_map.mp isNew
        rw [isRow] at row
        obtain ⟨creating, isCreating, isDesign⟩ := Option.map_eq_some_iff.mp row.symm
        exact ⟨creating, isCreating, isDesign.symm, rfl⟩

theorem persistedDesign_holdsOut {cycle : PoolingCycle} :
    (persistedDesign policy window cycle).experimentStatus = .active ∧
        0 < (persistedDesign policy window cycle).effectiveHoldout policy.holdoutProbability ↔
      (cycle.answer ≠ .stored ∨
          underpowered policy cycle.units.length policy.holdoutProbability = false) ∧
        0 < policy.holdoutProbability := by
  unfold persistedDesign
  split
  · rename_i stored
    cases power :
        underpowered policy cycle.units.length policy.holdoutProbability <;>
      simp [ExperimentDesign.checkPower, ExperimentDesign.effectiveHoldout,
        insertedDesign, power, stored]
  · rename_i other
    have unstored : cycle.answer ≠ .stored := other
    simp [ExperimentDesign.effectiveHoldout, insertedDesign, unstored]

end Window

/-- Pooling reaches power just when the creating cycle had it alone. -/
theorem poolingReachesPower_iff
    (policy : ExperimentPolicy)
    (window : DesignWindow)
    (run : List PoolingCycle) :
    PoolingReachesPower policy window run ↔
      (NumbersReached policy run → CreatedActive policy run ∧ 0 < policy.holdoutProbability) := by
  have created :
      ∀ cycle, creatingCycle run = some cycle → cycle.answer ≠ .insertFailed := by
    intro cycle isCreating
    unfold creatingCycle at isCreating
    have inserted := List.find?_some isCreating
    exact of_decide_eq_true inserted
  have answers :
      ∀ cycle,
        creatingCycle run = some cycle →
        (cycle.answer ≠ .stored ↔ cycle.answer = .failed) := by
    intro cycle isCreating
    have inserted := created cycle isCreating
    cases answer : cycle.answer <;> simp_all
  constructor
  · rintro reaches ⟨before, unitId, after, isRolled, numbers⟩
    rw [← @unitId_rolls policy window] at isRolled
    obtain ⟨seen, rest, isSplit, isBefore, isRest⟩ := List.map_eq_append_iff.mp isRolled
    obtain ⟨roll, later, rfl, _, _⟩ := List.map_eq_cons_iff.mp isRest
    rw [← isBefore] at numbers
    have randomised := reaches seen roll later isSplit numbers
    have rolled : roll ∈ (windowAfter policy window run).rolls := by
      rw [isSplit]
      exact List.mem_append_right _ List.mem_cons_self
    obtain ⟨cycle, isCreating, isDesign, holdout⟩ := roll_eq_persisted rolled
    rw [holdout, isDesign, persistedDesign_holdsOut] at randomised
    refine ⟨fun other isOther => ?_, randomised.2⟩
    obtain rfl := Option.some.inj (isCreating.symm.trans isOther)
    exact randomised.1.imp_left (answers cycle isCreating).mp
  · intro enough before roll after isSplit numbers
    have rolled : roll ∈ (windowAfter policy window run).rolls := by
      rw [isSplit]
      exact List.mem_append_right _ List.mem_cons_self
    obtain ⟨cycle, isCreating, isDesign, holdout⟩ := roll_eq_persisted rolled
    have reached : NumbersReached policy run := by
      refine ⟨before.map UnitRoll.unitId, roll.unitId, after.map UnitRoll.unitId, ?_, numbers⟩
      rw [← @unitId_rolls policy window, isSplit, List.map_append, List.map_cons]
    obtain ⟨active, positive⟩ := enough reached
    rw [holdout, isDesign, persistedDesign_holdsOut]
    refine ⟨?_, positive⟩
    exact (active cycle isCreating).imp_left (answers cycle isCreating).mpr

def oneControlPolicy : ExperimentPolicy :=
  { ExperimentPolicy.default with minExpectedControlUnits := 1 }

def pressWindow : DesignWindow where
  interventionKey := "press-pitch"
  logicalCycleKey := "684"
  experimentUuid := 11

def campaign (unitId : String) : PoolingCycle where
  units := [unitId]
  answer := .stored
  offered := List.cons_ne_nil _ _

/-- Eleven campaigns of eleven cycles: the last is still not randomised. -/
theorem elevenCampaigns_unpooled :
    ¬ PoolingReachesPower oneControlPolicy pressWindow
        (["a", "b", "c", "d", "e", "f", "g", "h", "i", "j", "k"].map
          campaign) := by
  intro reaches
  have last := reaches
      (["a", "b", "c", "d", "e", "f", "g", "h", "i", "j"].map fun unitId =>
        { unitId := unitId
          design := persistedDesign oneControlPolicy pressWindow (campaign "a")
          effectiveHoldout := 0 })
      { unitId := "k"
        design := persistedDesign oneControlPolicy pressWindow (campaign "a")
        effectiveHoldout := 0 }
      [] (by decide +kernel) (by decide +kernel)
  exact absurd last.2 (lt_irrefl 0)

end CrowdRelay
