import Mathlib.Data.List.Induction
import CrowdRelay.ExperimentDesign
import CrowdRelay.KeyedTable

namespace CrowdRelay

open KeyedTable

/-!
# Arms, actions and their rows

Every cycle rolls the units of a group again.  A control is recorded at once;
a treatment that the portfolio selects is persisted together with its row, and
one that it does not select is recorded as withheld.  Neither insert touches a
row that is there.
-/

inductive RecordAnswer where
  | recorded
  | conflict
  | failed
  deriving Repr, DecidableEq

/-- What came of persisting a treatment with its assignment. -/
inductive PersistAnswer where
  | throttled
  | actionConflict
  | noAction
  | alreadyThere
  | inserted
  | conflict
  | failed
  deriving Repr, DecidableEq

/-- One candidate of the group, with what the store will answer about it. -/
structure ArmCandidate where
  decisionKey : String
  actionIdempotencyKey : String
  controlAnswer : RecordAnswer
  withheldAnswer : RecordAnswer
  persistAnswer : PersistAnswer
  deriving Repr, DecidableEq

/-- One cycle of the group, with whatever the portfolio selects in it. -/
structure ArmCycle where
  policy : ExperimentPolicy
  candidates : List ArmCandidate
  doNothing : Bool
  selectedKeys : List String

inductive ArmEvent where
  | cycle (cycle : ArmCycle)
  | updateExecutionStatus
      (assignmentId : String)
      (status : ExecutionStatus)
  | updateExecutionStatusByActionId
      (actionId : Nat)
      (status : ExecutionStatus)

/-- One transaction on the tables of the design. -/
inductive ArmStep where
  | record (assignment : ExperimentAssignment)
  | dispatch
      (assignment : ExperimentAssignment)
      (treatmentProbability : ℚ)
  | updateExecutionStatus
      (assignmentId : String)
      (status : ExecutionStatus)
  | updateExecutionStatusByActionId
      (actionId : Nat)
      (status : ExecutionStatus)
  deriving DecidableEq

def unitIdFromDecisionKey (decisionKey : String) : String :=
  (decisionKey.splitOn ":")[4]?.getD decisionKey

section Cycle

variable (design : ExperimentDesign) (roll : String → ℚ) (cycle : ArmCycle)

/-- A community is its own unit; elsewhere each dispatch is a campaign. -/
def ArmCandidate.unitId (candidate : ArmCandidate) : String :=
  if design.interventionKey = "community-engager" then
    unitIdFromDecisionKey candidate.decisionKey
  else
    candidate.actionIdempotencyKey

def rollKey (unitId : String) : String :=
  uuidText design.experimentUuid ++ ":" ++ unitId ++ ":" ++
    toString design.assignmentRound ++ ":" ++ design.interventionKey

namespace ArmCycle

def effectiveHoldout : ℚ := design.effectiveHoldout cycle.policy.holdoutProbability

def isControl (unitId : String) : Bool :=
  cycle.effectiveHoldout design > 0 && roll (rollKey design unitId) < cycle.effectiveHoldout design

def arm (candidate : ArmCandidate) : TreatmentAssignment :=
  if cycle.isControl design roll (candidate.unitId design) then .control else .treatment

/-- An assignment made in this cycle, of a unit without an action. -/
def assignment (unitId : String)
    (arm : TreatmentAssignment) : ExperimentAssignment :=
  .fromDesignWithRealizedHoldout design unitId arm none (cycle.effectiveHoldout design)

def controlFails (candidate : ArmCandidate) : Bool :=
  cycle.arm design roll candidate = .control && candidate.controlAnswer = .failed

def controlStep? (candidate : ArmCandidate) : Option ArmStep :=
  if cycle.arm design roll candidate = .control &&
      candidate.controlAnswer = .recorded then
    some (.record (cycle.assignment design (candidate.unitId design) .control))
  else
    none

/-- The arm under a decision key; the last candidate of a key decides. -/
def armMap (decisionKey : String) : Option (TreatmentAssignment × String) :=
  (cycle.candidates.reverse.find? fun candidate =>
    candidate.decisionKey = decisionKey).map fun candidate =>
      (cycle.arm design roll candidate, candidate.unitId design)

def isSelected (candidate : ArmCandidate) : Bool :=
  !cycle.doNothing && cycle.selectedKeys.contains candidate.decisionKey

/-- What a treatment comes to: its dispatch, its withholding, or nothing. -/
def treatmentStep? (candidate : ArmCandidate) : Option ArmStep :=
  match cycle.armMap design roll candidate.decisionKey with
  | some (.treatment, unitId) =>
    if cycle.isSelected candidate then
      if candidate.persistAnswer = .inserted then
        some
          (.dispatch (cycle.assignment design unitId .treatment)
            (1 - cycle.effectiveHoldout design))
      else
        none
    else if candidate.withheldAnswer = .recorded then
      some (.record (cycle.assignment design unitId .treatment))
    else
      none
  | _ => none

def treatmentFails (candidate : ArmCandidate) : Bool :=
  match cycle.armMap design roll candidate.decisionKey with
  | some (.treatment, _) =>
    if cycle.isSelected candidate then
      candidate.persistAnswer = .failed
    else
      candidate.withheldAnswer = .failed
  | _ => false

/-- The transactions of a cycle; a failure ends it where it stands. -/
def steps : List ArmStep :=
  let controls :=
    (cycle.candidates.takeWhile fun candidate =>
      !cycle.controlFails design roll candidate).filterMap
      (cycle.controlStep? design roll)
  if cycle.candidates.any (cycle.controlFails design roll) then
    controls
  else
    controls ++
      (cycle.candidates.takeWhile fun candidate =>
        !cycle.treatmentFails design roll candidate).filterMap
        (cycle.treatmentStep? design roll)

end ArmCycle

def ArmEvent.steps : ArmEvent → List ArmStep
  | .cycle cycle => cycle.steps design roll
  | .updateExecutionStatus assignmentId status =>
    [.updateExecutionStatus assignmentId status]
  | .updateExecutionStatusByActionId actionId status =>
    [.updateExecutionStatusByActionId actionId status]

end Cycle

/-- A created action, with the probability its unit was rolled with. -/
structure ArmAction where
  id : Nat
  unitId : String
  treatmentProbability : ℚ
  deriving DecidableEq

/-- The rows of one round of the design, and the actions of its units. -/
structure ArmTables where
  rows : List ExperimentAssignment
  actions : List ArmAction
  deriving DecidableEq

/-- Only what was dispatched or lost can move, and only forward. -/
def movesTo (current next : ExecutionStatus) : Bool :=
  match current with
  | .dispatched => next = .executed || next = .failed || next = .unknown
  | .unknown => next = .executed || next = .failed
  | _ => false

def transitioned (named : ExperimentAssignment → Bool) (status : ExecutionStatus)
    (row : ExperimentAssignment) : ExperimentAssignment :=
  if named row && movesTo row.executionStatus status then
    { row with executionStatus := status }
  else
    row

namespace ArmTables

def empty : ArmTables :=
  { rows := []
    actions := [] }

variable (tables : ArmTables)

def recordExperimentAssignment
    (assignment : ExperimentAssignment) : ArmTables :=
  { tables with
    rows := insertUnlessPresent ExperimentAssignment.unitId assignment tables.rows }

/-- The row that is written with an action carries the id of the action. -/
def dispatchedRow
    (assignment : ExperimentAssignment) : ExperimentAssignment :=
  { assignment with
    actionId := some tables.actions.length
    executionStatus :=
      if assignment.arm = .treatment then .dispatched else assignment.executionStatus }

def persistTreatmentWithAssignment (assignment : ExperimentAssignment)
    (treatmentProbability : ℚ) : ArmTables :=
  { rows :=
      insertUnlessPresent ExperimentAssignment.unitId (tables.dispatchedRow assignment) tables.rows
    actions :=
      tables.actions ++
        [{ id := tables.actions.length
           unitId := assignment.unitId
           treatmentProbability := treatmentProbability }] }

def apply (tables : ArmTables) : ArmStep → ArmTables
  | .record assignment => tables.recordExperimentAssignment assignment
  | .dispatch assignment treatmentProbability =>
    tables.persistTreatmentWithAssignment assignment treatmentProbability
  | .updateExecutionStatus assignmentId status =>
    { tables with
      rows := tables.rows.map (transitioned (fun row => row.assignmentId = assignmentId) status) }
  | .updateExecutionStatusByActionId actionId status =>
    { tables with
      rows := tables.rows.map (transitioned (fun row => row.actionId = some actionId) status) }

end ArmTables

def tablesAfter (steps : List ArmStep) : ArmTables := steps.foldl ArmTables.apply .empty

variable (design : ExperimentDesign) (roll : String → ℚ) (run : List ArmEvent)

/-- The transactions of a run of cycles and transitions. -/
def armSteps : List ArmStep := run.flatMap (ArmEvent.steps design roll)

/-- What the rows say of their units is what happened to them. -/
structure RowsTell (tables : ArmTables) : Prop where
  control :
    ∀ row ∈ tables.rows,
      row.arm = .control →
      ∀ action ∈ tables.actions, action.unitId ≠ row.unitId
  withheld :
    ∀ row ∈ tables.rows,
      row.executionStatus = .withheld →
      ∀ action ∈ tables.actions, action.unitId ≠ row.unitId
  dispatched :
    ∀ action ∈ tables.actions,
      ∃ row ∈ tables.rows,
        row.unitId = action.unitId ∧
          row.arm = .treatment ∧
          row.actionId = some action.id ∧
          row.executionStatus ∈
            [ExecutionStatus.dispatched, .executed, .failed, .unknown] ∧
          row.propensity = action.treatmentProbability

/-! ## What one transaction does to the rows -/

/-- How the cycles build the assignments that they record. -/
def ArmStep.WellFormed : ArmStep → Prop
  | .record assignment =>
    assignment.actionId = none ∧
      (assignment.arm = .control → assignment.executionStatus = .control) ∧
      (assignment.arm = .treatment → assignment.executionStatus = .withheld)
  | .dispatch assignment treatmentProbability =>
    assignment.arm = .treatment ∧ assignment.propensity = treatmentProbability
  | _ => True

theorem wellFormed_of_mem_cycleSteps {design : ExperimentDesign} {roll : String → ℚ}
    {cycle : ArmCycle} {step : ArmStep} (member : step ∈ cycle.steps design roll) :
    step.WellFormed := by
  have ofControls :
      ∀ candidates : List ArmCandidate,
        step ∈ candidates.filterMap (cycle.controlStep? design roll) →
        step.WellFormed := by
    intro candidates isControl
    obtain ⟨candidate, _, isStep⟩ := List.mem_filterMap.mp isControl
    unfold ArmCycle.controlStep? at isStep
    split at isStep
    · cases isStep
      exact ⟨rfl, fun _ => rfl, nofun⟩
    · cases isStep
  have ofTreatments :
      ∀ candidates : List ArmCandidate,
        step ∈ candidates.filterMap (cycle.treatmentStep? design roll) →
        step.WellFormed := by
    intro candidates isTreatment
    obtain ⟨candidate, _, isStep⟩ := List.mem_filterMap.mp isTreatment
    unfold ArmCycle.treatmentStep? at isStep
    split at isStep
    · split at isStep
      · split at isStep
        · cases isStep
          exact ⟨rfl, rfl⟩
        · cases isStep
      · split at isStep
        · cases isStep
          exact ⟨rfl, nofun, fun _ => rfl⟩
        · cases isStep
    · cases isStep
  unfold ArmCycle.steps at member
  dsimp only at member
  split at member
  · exact ofControls _ member
  · rcases List.mem_append.mp member with isControl | isTreatment
    · exact ofControls _ isControl
    · exact ofTreatments _ isTreatment

theorem wellFormed_of_mem_armSteps {design : ExperimentDesign} {roll : String → ℚ}
    {run : List ArmEvent} {step : ArmStep} (member : step ∈ armSteps design roll run) :
    step.WellFormed := by
  obtain ⟨event, _, isStep⟩ := List.mem_flatMap.mp member
  cases event with
  | cycle cycle => exact wellFormed_of_mem_cycleSteps isStep
  | updateExecutionStatus assignmentId status =>
    rw [List.mem_singleton.mp isStep]
    trivial
  | updateExecutionStatusByActionId actionId status =>
    rw [List.mem_singleton.mp isStep]
    trivial

section Transitions

variable {named : ExperimentAssignment → Bool} {status : ExecutionStatus}
  {row : ExperimentAssignment}

theorem transitioned_eq :
    transitioned named status row = row ∨
      movesTo row.executionStatus status = true ∧
        transitioned named status row = { row with executionStatus := status } := by
  unfold transitioned
  split
  · rename_i moves
    rw [Bool.and_eq_true] at moves
    exact Or.inr ⟨moves.2, rfl⟩
  · exact Or.inl rfl

theorem transitioned_fields :
    (transitioned named status row).unitId = row.unitId ∧
      (transitioned named status row).arm = row.arm ∧
      (transitioned named status row).actionId = row.actionId ∧
      (transitioned named status row).propensity = row.propensity := by
  rcases @transitioned_eq named status row with same | ⟨_, moved⟩
  · rw [same]
    exact ⟨rfl, rfl, rfl, rfl⟩
  · rw [moved]
    exact ⟨rfl, rfl, rfl, rfl⟩

theorem movesTo_started {current : ExecutionStatus} (moves : movesTo current status = true) :
    status ≠ .withheld ∧ status ∈ [ExecutionStatus.dispatched, .executed, .failed, .unknown] := by
  cases current <;> cases status <;> first | decide | cases moves

end Transitions

section Steps

variable {tables : ArmTables}

section

variable (tells : RowsTell tables)
include tells

theorem RowsTell.transition (named : ExperimentAssignment → Bool) (status : ExecutionStatus) :
    RowsTell
      { tables with
        rows := tables.rows.map (transitioned named status) } where
  control := by
    intro moved member isControl
    obtain ⟨row, isRow, rfl⟩ := List.mem_map.mp member
    obtain ⟨unit, arm, _, _⟩ := @transitioned_fields named status row
    rw [arm] at isControl
    rw [unit]
    exact tells.control row isRow isControl
  withheld := by
    intro moved member isWithheld
    obtain ⟨row, isRow, rfl⟩ := List.mem_map.mp member
    rcases @transitioned_eq named status row with same | ⟨moves, isMoved⟩
    · rw [same] at isWithheld ⊢
      exact tells.withheld row isRow isWithheld
    · rw [isMoved] at isWithheld
      exact absurd isWithheld (movesTo_started moves).1
  dispatched := by
    intro action isAction
    obtain ⟨row, isRow, unit, arm, carries, started, propensity⟩ := tells.dispatched action isAction
    obtain ⟨sameUnit, sameArm, sameAction, samePropensity⟩ := @transitioned_fields named status row
    refine ⟨transitioned named status row, List.mem_map_of_mem isRow,
        sameUnit.trans unit, sameArm.trans arm, sameAction.trans carries, ?_,
        samePropensity.trans propensity⟩
    rcases @transitioned_eq named status row with same | ⟨moves, isMoved⟩
    · rw [same]
      exact started
    · rw [isMoved]
      exact (movesTo_started moves).2

theorem RowsTell.no_action {unitId : String}
    (fresh : unitId ∉ tables.rows.map ExperimentAssignment.unitId) :
    ∀ action ∈ tables.actions, action.unitId ≠ unitId := by
  rintro action isAction rfl
  obtain ⟨row, isRow, sameUnit, _⟩ := tells.dispatched action isAction
  exact fresh (List.mem_map.mpr ⟨row, isRow, sameUnit⟩)

theorem RowsTell.record (assignment : ExperimentAssignment) :
    RowsTell (tables.recordExperimentAssignment assignment) where
  control := by
    intro row member isControl
    rcases eq_or_mem_of_mem_insertUnlessPresent member with
      ⟨rfl, fresh⟩ | isOld
    · exact tells.no_action fresh
    · exact tells.control row isOld isControl
  withheld := by
    intro row member isWithheld
    rcases eq_or_mem_of_mem_insertUnlessPresent member with
      ⟨rfl, fresh⟩ | isOld
    · exact tells.no_action fresh
    · exact tells.withheld row isOld isWithheld
  dispatched := by
    intro action isAction
    obtain ⟨row, isRow, tellsOf⟩ := tells.dispatched action isAction
    exact ⟨row, subset_insertUnlessPresent isRow, tellsOf⟩

/-- A dispatch keeps the rows true when the unit has none yet. -/
theorem RowsTell.dispatch {assignment : ExperimentAssignment} {treatmentProbability : ℚ}
    (wellFormed : (ArmStep.dispatch assignment treatmentProbability).WellFormed)
    (fresh : assignment.unitId ∉ tables.rows.map ExperimentAssignment.unitId) :
    RowsTell (tables.persistTreatmentWithAssignment assignment treatmentProbability) := by
  obtain ⟨isTreatment, propensity⟩ := wellFormed
  have added :
      (tables.persistTreatmentWithAssignment assignment treatmentProbability).rows =
        tables.rows ++ [tables.dispatchedRow assignment] :=
    insertUnlessPresent_of_not_mem fresh
  have status : (tables.dispatchedRow assignment).executionStatus = .dispatched :=
    if_pos isTreatment
  -- An older row is of another unit than the action that is added.
  have others :
      ∀ row ∈ tables.rows,
        (∀ action ∈ tables.actions, action.unitId ≠ row.unitId) →
        ∀ action ∈ (tables.persistTreatmentWithAssignment assignment treatmentProbability).actions,
          action.unitId ≠ row.unitId := by
    intro row isRow untouched action isAction
    rcases List.mem_append.mp isAction with isOld | isNew
    · exact untouched action isOld
    · rw [List.mem_singleton.mp isNew]
      rintro sameUnit
      exact fresh (List.mem_map.mpr ⟨row, isRow, sameUnit.symm⟩)
  refine
    { control := fun row member isControl => ?_
      withheld := fun row member isWithheld => ?_
      dispatched := fun action isAction => ?_ }
  · rw [added] at member
    rcases List.mem_append.mp member with isOld | isNew
    · exact others row isOld (tells.control row isOld isControl)
    · rw [List.mem_singleton.mp isNew] at isControl
      exact absurd (isTreatment.symm.trans isControl) nofun
  · rw [added] at member
    rcases List.mem_append.mp member with isOld | isNew
    · exact others row isOld (tells.withheld row isOld isWithheld)
    · rw [List.mem_singleton.mp isNew, status] at isWithheld
      cases isWithheld
  · rw [added]
    rcases List.mem_append.mp isAction with isOld | isNew
    · obtain ⟨row, isRow, tellsOf⟩ := tells.dispatched action isOld
      exact ⟨row, List.mem_append_left _ isRow, tellsOf⟩
    · rw [List.mem_singleton.mp isNew]
      refine ⟨tables.dispatchedRow assignment,
          List.mem_append_right _ (List.mem_singleton.mpr rfl), rfl,
          isTreatment, rfl, ?_, propensity⟩
      rw [status]
      exact List.mem_cons_self

end

/-- Rows carry the ids of actions that are there. -/
def RowsNumbered (tables : ArmTables) : Prop :=
  ∀ row ∈ tables.rows, ∀ id, row.actionId = some id → id < tables.actions.length

theorem RowsNumbered.apply (numbered : RowsNumbered tables) {step : ArmStep}
    (wellFormed : step.WellFormed) :
    RowsNumbered (tables.apply step) := by
  have transition :
      ∀ named status,
        RowsNumbered
          { tables with
            rows := tables.rows.map (transitioned named status) } := by
    intro named status moved member id carries
    obtain ⟨row, isRow, rfl⟩ := List.mem_map.mp member
    rw [(@transitioned_fields named status row).2.2.1] at carries
    exact numbered row isRow id carries
  cases step with
  | record assignment =>
    intro row member id carries
    rcases eq_or_mem_of_mem_insertUnlessPresent member with
      ⟨rfl, _⟩ | isOld
    · rw [wellFormed.1] at carries
      cases carries
    · exact numbered row isOld id carries
  | dispatch assignment treatmentProbability =>
    intro row member id carries
    have longer :
        tables.actions.length <
          (tables.persistTreatmentWithAssignment assignment
            treatmentProbability).actions.length := by
      simp [ArmTables.persistTreatmentWithAssignment]
    rcases eq_or_mem_of_mem_insertUnlessPresent member with
      ⟨rfl, _⟩ | isOld
    · obtain rfl := Option.some.inj carries
      exact longer
    · exact (numbered row isOld id carries).trans longer
  | updateExecutionStatus assignmentId status => exact transition _ _
  | updateExecutionStatusByActionId actionId status => exact transition _ _

end Steps

theorem tablesAfter_append_singleton (seen : List ArmStep) (step : ArmStep) :
    tablesAfter (seen ++ [step]) = (tablesAfter seen).apply step := by
  unfold tablesAfter
  rw [List.foldl_append]
  rfl

theorem rowsNumbered_tablesAfter {seen : List ArmStep}
    (wellFormed : ∀ step ∈ seen, step.WellFormed) :
    RowsNumbered (tablesAfter seen) := by
  induction seen using List.reverseRecOn with
  | nil =>
    intro row absent
    cases absent
  | append_singleton rest step inductionHypothesis =>
    rw [tablesAfter_append_singleton]
    have earlier := inductionHypothesis fun other isEarlier =>
        wellFormed other (List.mem_append_left _ isEarlier)
    exact earlier.apply (wellFormed step (List.mem_append_right _ (List.mem_singleton.mpr rfl)))

/-- The rows are true after every transaction of a run. -/
def RowsAlwaysTell : Prop :=
  ∀ seen later,
    armSteps design roll run = seen ++ later →
    RowsTell (tablesAfter seen)

/-- Whoever is dispatched was not recorded before. -/
def DispatchesUnrecorded : Prop :=
  ∀ seen assignment treatmentProbability later,
    armSteps design roll run = seen ++ .dispatch assignment treatmentProbability :: later →
    assignment.unitId ∉ (tablesAfter seen).rows.map ExperimentAssignment.unitId

theorem rowsTell_of_unrecorded {steps : List ArmStep} (wellFormed : ∀ step ∈ steps, step.WellFormed)
    (unrecorded :
      ∀ seen assignment treatmentProbability later,
        steps = seen ++ .dispatch assignment treatmentProbability :: later →
        assignment.unitId ∉ (tablesAfter seen).rows.map ExperimentAssignment.unitId) :
    RowsTell (tablesAfter steps) := by
  induction steps using List.reverseRecOn with
  | nil =>
    exact
      { control := by
          intro row absent
          cases absent
        withheld := by
          intro row absent
          cases absent
        dispatched := by
          intro action absent
          cases absent }
  | append_singleton rest step inductionHypothesis =>
    have earlier : RowsTell (tablesAfter rest) := by
      refine inductionHypothesis
          (fun other isEarlier =>
            wellFormed other (List.mem_append_left _ isEarlier))
          fun seen assignment treatmentProbability later isRest => ?_
      refine unrecorded seen assignment treatmentProbability (later ++ [step]) ?_
      rw [isRest, List.append_assoc, List.cons_append]
    rw [tablesAfter_append_singleton]
    cases step with
    | record assignment => exact earlier.record assignment
    | dispatch assignment treatmentProbability =>
      refine earlier.dispatch (wellFormed _ ?_) ?_
      · exact List.mem_append_right _ (List.mem_singleton.mpr rfl)
      · exact unrecorded rest assignment treatmentProbability [] rfl
    | updateExecutionStatus assignmentId status => exact earlier.transition _ _
    | updateExecutionStatusByActionId actionId status =>
      exact earlier.transition _ _

/-- The rows always tell exactly when nobody recorded is dispatched. -/
theorem rowsAlwaysTell_iff
    (design : ExperimentDesign)
    (roll : String → ℚ)
    (run : List ArmEvent) :
    RowsAlwaysTell design roll run ↔ DispatchesUnrecorded design roll run := by
  constructor
  · intro tell seen assignment treatmentProbability later isRun recorded
    have isLonger :
        armSteps design roll run =
          (seen ++ [.dispatch assignment treatmentProbability]) ++ later := by
      rw [isRun, List.append_assoc, List.singleton_append]
    have after := tell _ later isLonger
    rw [tablesAfter_append_singleton] at after
    -- The new action is the last one, and no row carries its id.
    obtain ⟨row, isRow, _, _, carries, _⟩ := after.dispatched _
        (List.mem_append_right _ (List.mem_singleton.mpr rfl))
    have unchanged :
        ((tablesAfter seen).apply
            (.dispatch assignment treatmentProbability)).rows =
          (tablesAfter seen).rows :=
      insertUnlessPresent_of_mem recorded
    rw [unchanged] at isRow
    have numbered : RowsNumbered (tablesAfter seen) := by
      refine rowsNumbered_tablesAfter fun step isSeen => ?_
      refine @wellFormed_of_mem_armSteps design roll run step ?_
      rw [isRun]
      exact List.mem_append_left _ isSeen
    exact absurd (numbered row isRow _ carries) (lt_irrefl _)
  · intro unrecorded seen later isRun
    refine rowsTell_of_unrecorded (fun step isSeen => ?_)
        fun before assignment treatmentProbability rest isSeen => ?_
    · refine @wellFormed_of_mem_armSteps design roll run step ?_
      rw [isRun]
      exact List.mem_append_left _ isSeen
    · refine unrecorded before assignment treatmentProbability (rest ++ later) ?_
      rw [isRun, isSeen, List.append_assoc, List.cons_append]

/-- A design without power, which sends every unit to treatment. -/
def soloDesign : ExperimentDesign :=
  { experimentUuid := 11
    assignmentRound := 1
    interventionKey := "press-pitch"
    logicalCycleKey := "684"
    eligibleUnits := ["action:7"]
    holdoutProbability := 1 / 10
    experimentStatus := .insufficientPower
    expectedTreatmentCount := some 1
    expectedControlCount := some 0 }

def soloCycle (selectedKeys : List String) : ArmEvent :=
  .cycle
    { policy := .default
      candidates :=
        [ { decisionKey := "decision:7"
            actionIdempotencyKey := "action:7"
            controlAnswer := .recorded
            withheldAnswer := .recorded
            persistAnswer := .inserted } ]
      doNothing := false
      selectedKeys := selectedKeys }

/-- Withheld in one cycle, dispatched in the next: the row stays withheld. -/
theorem withheldThenDispatched_untold :
    ¬ RowsAlwaysTell soloDesign (fun _ => 1 / 2)
        [soloCycle [], soloCycle ["decision:7"]] := by
  intro tell
  have after := tell
      (armSteps soloDesign (fun _ => 1 / 2)
        [soloCycle [], soloCycle ["decision:7"]])
      [] (List.append_nil _).symm
  obtain ⟨row, isRow, _, _, carries, _⟩ := after.dispatched ⟨0, "action:7", 1⟩ (by decide +kernel)
  have unsent :
      ∀ row ∈
        (tablesAfter
          (armSteps soloDesign (fun _ => 1 / 2)
            [soloCycle [], soloCycle ["decision:7"]])).rows,
        row.actionId = none := by
    decide +kernel
  rw [unsent row isRow] at carries
  cases carries

end CrowdRelay
