import Mathlib.Data.List.Basic
import CrowdRelay.ActionPayload
import CrowdRelay.LiveOpportunity
import CrowdRelay.Machine

namespace CrowdRelay

open MachineInt

/-!
# Plays

A play is a campaign of a few steps, each with a window measured from the
anchor of the play.  Every cycle the play is asked for its next move, which
only ever concerns its first step that is not settled.
-/

inductive PlayKind where
  | trackUsAsk
  | listingCompletenessSweep
  | followAskLadder
  | dormantRevival
  | releaseRunway
  deriving Repr, DecidableEq

inductive StepAudience where
  | fans
  | none
  deriving Repr, DecidableEq

def PlayStepKind.audience : PlayStepKind → StepAudience
  | .announceAsk | .postShowAsk => .fans
  | .followAskFirst | .followAskSecond | .followAskFinal => .fans
  | .dormantRevivalFirst | .dormantRevivalFinal => .fans
  | .releaseAudienceAnnounce | .releaseDayPush | .releaseSustainAsk => .fans
  | .listingSweep | .releasePresaveLive | .releaseCuratorWave => .none

structure PlayStepSpec where
  index : U16
  kind : PlayStepKind
  actionClass : ActionClass
  offsetHours : I32
  windowHours : U32
  deriving Repr, DecidableEq

def PlayStepKind.spec (kind : PlayStepKind) (index : U16) (offsetHours : I32)
    (windowHours : U32) : PlayStepSpec where
  index := index
  kind := kind
  actionClass := kind.actionClass
  offsetHours := offsetHours
  windowHours := windowHours

def offsetDays (days : Int) : I32 := Ranged.saturate (days * 24)

def windowDays (days : Int) : U32 := Ranged.saturate (days * 24)

def trackUsAskSteps : List PlayStepSpec :=
  [PlayStepKind.announceAsk.spec 0 (offsetDays (-14)) (windowDays 7)]

def listingSweepSteps : List PlayStepSpec :=
  [PlayStepKind.listingSweep.spec 0 (offsetDays (-21)) (windowDays 14)]

def followAskLadderSteps : List PlayStepSpec :=
  [PlayStepKind.followAskFirst.spec 0 0 (windowDays 14),
    PlayStepKind.followAskSecond.spec 1 (offsetDays 45) (windowDays 14),
    PlayStepKind.followAskFinal.spec 2 (offsetDays 120) (windowDays 14)]

def dormantRevivalSteps : List PlayStepSpec :=
  [PlayStepKind.dormantRevivalFirst.spec 0 0 (windowDays 14),
    PlayStepKind.dormantRevivalFinal.spec 1 (offsetDays 45) (windowDays 14)]

def releaseRunwaySteps : List PlayStepSpec :=
  [PlayStepKind.releasePresaveLive.spec 0 (offsetDays (-28)) (windowDays 7),
    PlayStepKind.releaseAudienceAnnounce.spec 1 (offsetDays (-14)) (windowDays 7),
    PlayStepKind.releaseCuratorWave.spec 2 (offsetDays (-7)) (windowDays 4),
    PlayStepKind.releaseDayPush.spec 3 0 (windowDays 3),
    PlayStepKind.releaseSustainAsk.spec 4 (offsetDays 14) (windowDays 7)]

def PlayKind.steps : PlayKind → List PlayStepSpec
  | trackUsAsk => trackUsAskSteps
  | listingCompletenessSweep => listingSweepSteps
  | followAskLadder => followAskLadderSteps
  | dormantRevival => dormantRevivalSteps
  | releaseRunway => releaseRunwaySteps

/-- Why a step will never be sent. -/
inductive StepSkipReason where
  | windowClosed
  | noEligibleRecipients
  | anchorWithdrawn
  deriving Repr, DecidableEq

structure PlayStepState where
  index : U16
  kind : PlayStepKind
  actionClass : ActionClass
  dueAt : OffsetDateTime
  expiresAt : OffsetDateTime
  settled : Bool
  recipientsEmitted : U32
  deriving DecidableEq

def PlayStepState.inWindow (step : PlayStepState)
    (now : OffsetDateTime) : Prop :=
  step.dueAt.unixTimestamp ≤ now.unixTimestamp ∧ now.unixTimestamp < step.expiresAt.unixTimestamp

structure PlaySnapshot where
  anchorActive : Bool
  steps : List PlayStepState
  eligibleRecipients : U32

structure PlayPolicy where
  maxRecipientsPerStep : U32
  deriving Repr, DecidableEq

inductive PlayHold where
  | noStepDue
  | stepSaturated
  deriving Repr, DecidableEq

inductive PlayDecision where
  | runStep
      (index : U16)
      (kind : PlayStepKind)
      (actionClass : ActionClass)
      (confidence : U16)
  | settleStep
      (index : U16)
      (kind : PlayStepKind)
      (reason : Option StepSkipReason)
  | complete
  | hold (why : PlayHold)
  deriving Repr, DecidableEq

/-- How sure the play is of a send, in basis points. -/
def stepConfidence (step : PlayStepState) (eligible : U32)
    (now : OffsetDateTime) : U16 :=
  let window := step.expiresAt.unixTimestamp - step.dueAt.unixTimestamp
  if window ≤ 0 then
    0
  else
    let elapsed := max (now.unixTimestamp - step.dueAt.unixTimestamp) 0
    let remaining := max (window - elapsed) 0
    let freshness := 3400 + remaining * 6600 / window
    let reach : Int := if 25 ≤ eligible then 10000 else 8000
    min ((Ranged.tryFrom (freshness * reach / 10000)).getD 10000) 10000

/-- Most recipients a step may reach. -/
def PlayPolicy.ceiling (policy : PlayPolicy) (kind : PlayStepKind) : U32 :=
  match kind.audience with
  | .fans => policy.maxRecipientsPerStep
  | .none => 1

/-- The reason a step is settled with, absent once it has sent. -/
def PlayStepState.skipUnlessDelivered (step : PlayStepState)
    (reason : StepSkipReason) : Option StepSkipReason :=
  if 0 < step.recipientsEmitted then none else some reason

/-- The next move for the first step that is not settled. -/
def evaluateStep (step : PlayStepState) (anchorActive : Bool) (eligibleRecipients : U32)
    (policy : PlayPolicy)
    (now : OffsetDateTime) : PlayDecision :=
  if anchorActive = false then
    .settleStep step.index step.kind (step.skipUnlessDelivered .anchorWithdrawn)
  else if step.expiresAt.unixTimestamp ≤ now.unixTimestamp then
    .settleStep step.index step.kind (step.skipUnlessDelivered .windowClosed)
  else if now.unixTimestamp < step.dueAt.unixTimestamp then
    .hold .noStepDue
  else if policy.ceiling step.kind ≤ step.recipientsEmitted then
    .hold .stepSaturated
  else if step.kind.audience = .fans ∧ eligibleRecipients = 0 then
    .settleStep step.index step.kind (step.skipUnlessDelivered .noEligibleRecipients)
  else
    .runStep step.index step.kind step.actionClass (stepConfidence step eligibleRecipients now)

def evaluatePlay (snapshot : PlaySnapshot) (policy : PlayPolicy)
    (now : OffsetDateTime) : PlayDecision :=
  match snapshot.steps.find? fun step => !step.settled with
  | none => .complete
  | some step =>
    evaluateStep step snapshot.anchorActive snapshot.eligibleRecipients policy now

/-- So many hours, as a duration. -/
def hours (count : Int) : Int := count * 3600 * 1000000000

def stepSchedule (spec : PlayStepSpec)
    (anchorAt : OffsetDateTime) : OffsetDateTime × OffsetDateTime :=
  let dueAt := anchorAt + hours spec.offsetHours.val
  (dueAt, dueAt + hours spec.windowHours.val)

open Machine

/-!
## Runs of a play

A play is evaluated again and again, and every decision is applied to its
steps.  Only the first step that is not settled ever moves, so the settled
steps stay the first ones, and what can still happen only shrinks.
-/

/-- A step with the skip reason its row was settled with. -/
structure RecordedStep where
  state : PlayStepState
  skipReason : Option StepSkipReason
  deriving DecidableEq

/-- One look at the play: the time, the anchor and the audience. -/
structure Evaluation where
  now : OffsetDateTime
  anchorActive : Bool
  eligibleRecipients : U32

/-- A decision with the look that led to it. -/
structure PlayMove where
  evaluation : Evaluation
  decision : PlayDecision

def startedStep (anchorAt : OffsetDateTime)
    (spec : PlayStepSpec) : RecordedStep where
  state := {
    index := spec.index
    kind := spec.kind
    actionClass := spec.actionClass
    dueAt := (stepSchedule spec anchorAt).1
    expiresAt := (stepSchedule spec anchorAt).2
    settled := false
    recipientsEmitted := 0
  }
  skipReason := none

def startedPlay (kind : PlayKind)
    (anchorAt : OffsetDateTime) : List RecordedStep :=
  kind.steps.map (startedStep anchorAt)

def PlayDecision.index : PlayDecision → Option U16
  | runStep index _ _ _ => some index
  | settleStep index _ _ => some index
  | complete => none
  | hold _ => none

def PlayDecision.settles : PlayDecision → Option U16
  | settleStep index _ _ => some index
  | runStep _ _ _ _ => none
  | complete => none
  | hold _ => none

/-- What a decision about a step does to it. -/
def RecordedStep.move
    (step : RecordedStep) : PlayDecision → RecordedStep
  | .runStep _ _ _ _ =>
    { step with
      state :=
        { step.state with
          recipientsEmitted := step.state.recipientsEmitted.saturatingAdd 1 } }
  | .settleStep _ _ reason =>
    { state := { step.state with settled := true }, skipReason := reason }
  | .complete => step
  | .hold _ => step

def applyDecision (decision : PlayDecision)
    (steps : List RecordedStep) : List RecordedStep :=
  steps.map fun step =>
    if decision.index = some step.state.index then step.move decision else step

def snapshotOf (steps : List RecordedStep)
    (evaluation : Evaluation) : PlaySnapshot where
  anchorActive := evaluation.anchorActive
  steps := steps.map RecordedStep.state
  eligibleRecipients := evaluation.eligibleRecipients

def advance (policy : PlayPolicy) (steps : List RecordedStep)
    (evaluation : Evaluation) : List RecordedStep × PlayMove :=
  let decision := evaluatePlay (snapshotOf steps evaluation) policy evaluation.now
  (applyDecision decision steps, ⟨evaluation, decision⟩)

def playMachine (policy : PlayPolicy) :
    Transducer (List RecordedStep) Evaluation PlayMove where
  step := advance policy

variable {policy : PlayPolicy}

section Decisions

variable {step : PlayStepState} {anchorActive : Bool} {eligible : U32} {now : OffsetDateTime}

theorem skipUnlessDelivered_isSome_iff {reason : StepSkipReason} :
    (step.skipUnlessDelivered reason).isSome = true ↔ step.recipientsEmitted = 0 := by
  have zero : (0 : U32).val = 0 := rfl
  have lower := step.recipientsEmitted.lower
  rw [Ranged.eq_iff_val, zero]
  unfold PlayStepState.skipUnlessDelivered
  split
  case isTrue delivered =>
    rw [Ranged.lt_iff_val, zero] at delivered
    simp only [Option.isSome_none, Bool.false_eq_true, false_iff]
    omega
  case isFalse notDelivered =>
    rw [Ranged.lt_iff_val, zero] at notDelivered
    simp only [Option.isSome_some, true_iff]
    omega

/-- Everything the next move for a step can be. -/
theorem evaluateStep_cases (step : PlayStepState) (anchorActive : Bool) (eligible : U32)
    (policy : PlayPolicy) (now : OffsetDateTime) :
    (∃ confidence, evaluateStep step anchorActive eligible policy now =
          .runStep step.index step.kind step.actionClass confidence ∧
        anchorActive = true ∧ step.inWindow now ∧
        step.recipientsEmitted < policy.ceiling step.kind) ∨
    (∃ reason, evaluateStep step anchorActive eligible policy now =
          .settleStep step.index step.kind reason ∧
        (reason.isSome = true ↔ step.recipientsEmitted = 0)) ∨
    ∃ why, evaluateStep step anchorActive eligible policy now = .hold why ∧
      anchorActive = true ∧
      now.unixTimestamp < step.expiresAt.unixTimestamp := by
  unfold evaluateStep
  split
  case isTrue => exact Or.inr (Or.inl ⟨_, rfl, skipUnlessDelivered_isSome_iff⟩)
  case isFalse notWithdrawn =>
    have active : anchorActive = true := by simpa using notWithdrawn
    split
    case isTrue => exact Or.inr (Or.inl ⟨_, rfl, skipUnlessDelivered_isSome_iff⟩)
    case isFalse notExpired =>
      have stillOpen : now.unixTimestamp < step.expiresAt.unixTimestamp := lt_of_not_ge notExpired
      split
      case isTrue => exact Or.inr (Or.inr ⟨_, rfl, active, stillOpen⟩)
      case isFalse notEarly =>
        split
        case isTrue => exact Or.inr (Or.inr ⟨_, rfl, active, stillOpen⟩)
        case isFalse below =>
          split
          case isTrue =>
            exact Or.inr (Or.inl ⟨_, rfl, skipUnlessDelivered_isSome_iff⟩)
          case isFalse =>
            exact Or.inl ⟨_, rfl, active, ⟨le_of_not_gt notEarly, stillOpen⟩, lt_of_not_ge below⟩

end Decisions

variable {evaluation : Evaluation} {step : RecordedStep}

section Steps

variable {before after steps : List RecordedStep} {decision : PlayDecision}

/-- The steps stand in the order of their indexes. -/
def Ordered (steps : List RecordedStep) : Prop :=
  steps.Pairwise fun earlier later => earlier.state.index < later.state.index

@[simp] theorem move_index (decision : PlayDecision) :
    (step.move decision).state.index = step.state.index := by
  cases decision <;> rfl

@[simp] theorem move_kind (decision : PlayDecision) :
    (step.move decision).state.kind = step.state.kind := by
  cases decision <;> rfl

@[simp] theorem move_dueAt (decision : PlayDecision) :
    (step.move decision).state.dueAt = step.state.dueAt := by
  cases decision <;> rfl

@[simp] theorem move_expiresAt (decision : PlayDecision) :
    (step.move decision).state.expiresAt = step.state.expiresAt := by
  cases decision <;> rfl

theorem move_of_no_index (none : decision.index = none) : step.move decision = step := by
  cases decision with
  | runStep index kind actionClass confidence => cases none
  | settleStep index kind reason => cases none
  | complete => rfl
  | hold why => rfl

/-- A decision about one step leaves the other steps alone. -/
theorem applyDecision_at (ordered : Ordered (before ++ step :: after))
    (about : decision.index = none ∨ decision.index = some step.state.index) :
    applyDecision decision (before ++ step :: after) = before ++ step.move decision :: after := by
  obtain ⟨_, tailOrdered, apart⟩ := List.pairwise_append.mp ordered
  obtain ⟨stepFirst, _⟩ := List.pairwise_cons.mp tailOrdered
  have untouched (others : List RecordedStep)
      (different : ∀ other ∈ others, other.state.index ≠ step.state.index) :
      applyDecision decision others = others := by
    unfold applyDecision
    refine (List.map_congr_left ?_).trans (List.map_id others)
    intro other member
    rcases about with none | some
    · simp [none]
    · have notAbout : ¬ step.state.index = other.state.index :=
        fun same => different other member same.symm
      simp [some, notAbout]
  have beforeSame := untouched before fun other member =>
      ne_of_lt (apart other member step (List.mem_cons_self ..))
  have afterSame := untouched after fun other member =>
      ne_of_gt (stepFirst other member)
  have split :
      applyDecision decision (before ++ step :: after) = applyDecision decision before ++
          applyDecision decision [step] ++ applyDecision decision after := by
    simp [applyDecision]
  have here : applyDecision decision [step] = [step.move decision] := by
    rcases about with none | some
    · simp [applyDecision, none, move_of_no_index none]
    · simp [applyDecision, some]
  rw [split, here, beforeSame, afterSame]
  simp

/-- The decision a play comes to when its first open step is known. -/
def decisionAt (policy : PlayPolicy) (evaluation : Evaluation)
    (step : RecordedStep) : PlayDecision :=
  evaluateStep step.state evaluation.anchorActive
    evaluation.eligibleRecipients policy evaluation.now

theorem index_decisionAt (policy : PlayPolicy) (evaluation : Evaluation) (step : RecordedStep) :
    (decisionAt policy evaluation step).index = none ∨
      (decisionAt policy evaluation step).index = some step.state.index := by
  unfold decisionAt
  rcases evaluateStep_cases step.state evaluation.anchorActive
      evaluation.eligibleRecipients policy evaluation.now with
    ⟨confidence, decided, _⟩ | ⟨reason, decided, _⟩ | ⟨why, decided, _⟩
  · exact Or.inr (by rw [decided]; rfl)
  · exact Or.inr (by rw [decided]; rfl)
  · exact Or.inl (by rw [decided]; rfl)

/-- Everything one evaluation can do. -/
theorem advance_cases (policy : PlayPolicy) (evaluation : Evaluation) (ordered : Ordered steps) :
    ((∀ step ∈ steps, step.state.settled = true) ∧
      advance policy steps evaluation = (steps, ⟨evaluation, .complete⟩)) ∨
    ∃ before step after,
      steps = before ++ step :: after ∧
        (∀ earlier ∈ before, earlier.state.settled = true) ∧
        step.state.settled = false ∧
        advance policy steps evaluation =
          (before ++ step.move (decisionAt policy evaluation step) :: after,
            ⟨evaluation, decisionAt policy evaluation step⟩) := by
  have look :
      evaluatePlay (snapshotOf steps evaluation) policy evaluation.now =
        match steps.find? fun step => !step.state.settled with
        | none => .complete
        | some step => decisionAt policy evaluation step := by
    unfold evaluatePlay snapshotOf
    have sameSearch :
        (fun step : PlayStepState => !step.settled) ∘ RecordedStep.state =
          fun step => !step.state.settled :=
      rfl
    rw [List.find?_map, sameSearch]
    cases steps.find? fun step => !step.state.settled <;> rfl
  cases found : steps.find? fun step => !step.state.settled with
  | none =>
    left
    rw [found] at look
    refine ⟨?_, ?_⟩
    · intro step member
      simpa using List.find?_eq_none.mp found step member
    · unfold advance
      rw [look]
      have unchanged : applyDecision .complete steps = steps := by
        simp [applyDecision, PlayDecision.index]
      simp only [unchanged]
  | some step =>
    right
    rw [found] at look
    obtain ⟨isOpen, before, after, shape, settledBefore⟩ := List.find?_eq_some_iff_append.mp found
    refine ⟨before, step, after, shape, ?_, by simpa using isOpen, ?_⟩
    · intro earlier member
      simpa using settledBefore earlier member
    · unfold advance
      rw [look]
      subst shape
      have applied := applyDecision_at ordered (index_decisionAt policy evaluation step)
      show (applyDecision (decisionAt policy evaluation step) (before ++ step :: after),
        PlayMove.mk evaluation (decisionAt policy evaluation step)) = _
      rw [applied]

/-- What never changes about a step. -/
def RecordedStep.schedule (step : RecordedStep) :
    U16 × PlayStepKind × OffsetDateTime × OffsetDateTime :=
  (step.state.index, step.state.kind, step.state.dueAt, step.state.expiresAt)

/-- What holds of the steps of a play however it went so far. -/
structure PlayInvariant
    (policy : PlayPolicy)
    (started steps : List RecordedStep) : Prop where
  schedule :
    steps.map RecordedStep.schedule = started.map RecordedStep.schedule
  ordered : Ordered steps
  settledFirst :
    steps.Pairwise fun earlier later =>
      later.state.settled = true → earlier.state.settled = true
  withinCeiling :
    ∀ step ∈ steps,
      step.state.recipientsEmitted ≤ policy.ceiling step.state.kind
  skipReasons :
    ∀ step ∈ steps,
      step.skipReason.isSome = true ↔
        step.state.settled = true ∧ step.state.recipientsEmitted = 0

/-- A step that was just moved keeps within its ceiling, and has a skip
reason exactly when it is settled without having sent. -/
theorem move_keeps (policy : PlayPolicy) (evaluation : Evaluation)
    (isOpen : step.state.settled = false)
    (within : step.state.recipientsEmitted ≤ policy.ceiling step.state.kind)
    (noReason :
      step.skipReason.isSome = true ↔
        step.state.settled = true ∧ step.state.recipientsEmitted = 0) :
    let moved := step.move (decisionAt policy evaluation step)
    moved.state.recipientsEmitted ≤ policy.ceiling moved.state.kind ∧
      (moved.skipReason.isSome = true ↔
        moved.state.settled = true ∧ moved.state.recipientsEmitted = 0) := by
  unfold decisionAt
  rcases evaluateStep_cases step.state evaluation.anchorActive
      evaluation.eligibleRecipients policy evaluation.now with
    ⟨confidence, decided, _, _, below⟩ | ⟨reason, decided, reasonIff⟩ | ⟨why, decided, _⟩
  · rw [decided]
    refine ⟨?_, ?_⟩
    · have counted := Ranged.val_increment_of_lt below
      show step.state.recipientsEmitted.saturatingAdd 1 ≤ policy.ceiling step.state.kind
      rw [Ranged.lt_iff_val] at below
      rw [Ranged.le_iff_val, counted]
      omega
    · show step.skipReason.isSome = true ↔ step.state.settled = true ∧ _
      rw [noReason, isOpen]
      simp
  · rw [decided]
    refine ⟨within, ?_⟩
    show reason.isSome = true ↔ true = true ∧ step.state.recipientsEmitted = 0
    rw [reasonIff]
    simp
  · rw [decided]
    exact ⟨within, noReason⟩

theorem playInvariant_advance {started : List RecordedStep}
    (holds : PlayInvariant policy started steps) :
    PlayInvariant policy started (advance policy steps evaluation).1 := by
  rcases advance_cases policy evaluation holds.ordered with
    ⟨_, advanced⟩ | ⟨before, step, after, shape, settledBefore, isOpen, advanced⟩
  · rw [advanced]
    exact holds
  · rw [advanced]
    obtain ⟨schedule, ordered, settledFirst, within, reasons⟩ := holds
    subst shape
    have isStep : step ∈ before ++ step :: after := by simp
    have moved := move_keeps policy evaluation isOpen (within step isStep) (reasons step isStep)
    refine ⟨?_, ?_, ?_, ?_, ?_⟩
    · rw [← schedule]
      simp [RecordedStep.schedule]
    · simpa [Ordered, List.pairwise_append] using ordered
    · -- everything before the moved step is settled
      rw [List.pairwise_append, List.pairwise_cons] at settledFirst ⊢
      obtain ⟨beforeFirst, ⟨stepFirst, afterFirst⟩, _⟩ := settledFirst
      refine ⟨beforeFirst, ⟨?_, afterFirst⟩, ?_⟩
      · intro later member settled
        have impossible := stepFirst later member settled
        rw [isOpen] at impossible
        cases impossible
      · intro earlier member _ _ _
        exact settledBefore earlier member
    · intro other member
      rcases List.mem_append.mp member with early | late
      · exact within other (by simp [early])
      · rcases List.mem_cons.mp late with same | later
        · rw [same]
          exact moved.1
        · exact within other (by simp [later])
    · intro other member
      rcases List.mem_append.mp member with early | late
      · exact reasons other (by simp [early])
      · rcases List.mem_cons.mp late with same | later
        · rw [same]
          exact moved.2
        · exact reasons other (by simp [later])

end Steps

section Runs

variable {started steps : List RecordedStep} {index : U16} {move : PlayMove}

/-- The moves that can still come concern steps that are not settled. -/
def Foreseen (steps : List RecordedStep) (move : PlayMove) : Prop :=
  ∀ index, move.decision.index = some index →
    ∃ step ∈ steps, step.state.index = index ∧ step.state.settled = false

/-- A step that was settled is behind every later move. -/
def SettledBehind (earlier later : PlayMove) : Prop :=
  ∀ settled, earlier.decision.settles = some settled →
    ∀ index, later.decision.index = some index → settled < index

theorem foreseen_advance (holds : PlayInvariant policy started steps) (evaluation : Evaluation) :
    Foreseen steps (advance policy steps evaluation).2 := by
  intro index about
  rcases advance_cases policy evaluation holds.ordered with
    ⟨_, advanced⟩ | ⟨before, step, after, shape, _, isOpen, advanced⟩
  · rw [advanced] at about
    cases about
  · rw [advanced] at about
    refine ⟨step, by simp [shape], ?_, isOpen⟩
    rcases index_decisionAt policy evaluation step with none | some
    · simp [none] at about
    · simpa [some] using about

theorem settled_move {decision : PlayDecision} (settles : decision.settles = some index) :
    (step.move decision).state.settled = true := by
  cases decision with
  | settleStep index kind reason => rfl
  | runStep index kind actionClass confidence => cases settles
  | complete => cases settles
  | hold why => cases settles

theorem settles_decisionAt (settles : (decisionAt policy evaluation step).settles = some index) :
    index = step.state.index := by
  unfold decisionAt at settles
  rcases evaluateStep_cases step.state evaluation.anchorActive
      evaluation.eligibleRecipients policy evaluation.now with
    ⟨confidence, decided, _⟩ | ⟨reason, decided, _⟩ | ⟨why, decided, _⟩
  · rw [decided] at settles
    cases settles
  · rw [decided] at settles
    cases settles
    rfl
  · rw [decided] at settles
    cases settles

theorem foreseen_narrows (holds : PlayInvariant policy started steps)
    (foreseen : Foreseen (advance policy steps evaluation).1 move) :
    Foreseen steps move := by
  intro index about
  obtain ⟨other, member, isAbout, isOpen⟩ := foreseen index about
  rcases advance_cases policy evaluation holds.ordered with
    ⟨_, advanced⟩ | ⟨before, step, after, shape, _, stepOpen, advanced⟩
  · rw [advanced] at member
    exact ⟨other, member, isAbout, isOpen⟩
  · rw [advanced] at member
    rw [shape]
    rcases List.mem_append.mp member with early | late
    · exact ⟨other, by simp [early], isAbout, isOpen⟩
    · rcases List.mem_cons.mp late with same | later
      · refine ⟨step, by simp, ?_, stepOpen⟩
        rw [← isAbout, same, move_index]
      · exact ⟨other, by simp [later], isAbout, isOpen⟩

theorem settledBehind_advance (holds : PlayInvariant policy started steps)
    (foreseen : Foreseen (advance policy steps evaluation).1 move) :
    SettledBehind (advance policy steps evaluation).2 move := by
  intro settled settles index about
  obtain ⟨other, member, isAbout, isOpen⟩ := foreseen index about
  rcases advance_cases policy evaluation holds.ordered with
    ⟨_, advanced⟩ | ⟨before, step, after, shape, settledBefore, _, advanced⟩
  · rw [advanced] at settles
    cases settles
  · rw [advanced] at settles member
    have isStep := settles_decisionAt settles
    have ordered := holds.ordered
    rw [shape] at ordered
    obtain ⟨_, tailOrdered, _⟩ := List.pairwise_append.mp ordered
    obtain ⟨stepFirst, _⟩ := List.pairwise_cons.mp tailOrdered
    -- what is still open stands behind the step that was settled
    rcases List.mem_append.mp member with early | late
    · rw [settledBefore other early] at isOpen
      cases isOpen
    · rcases List.mem_cons.mp late with same | later
      · rw [same, settled_move settles] at isOpen
        cases isOpen
      · rw [isStep, ← isAbout]
        exact stepFirst other later

/-- A run step is inside the window its play was started with. -/
def RunsInside (started : List RecordedStep) (move : PlayMove) : Prop :=
  ∀ index kind actionClass confidence,
    move.decision = .runStep index kind actionClass confidence →
      move.evaluation.anchorActive = true ∧
        ∃ step ∈ started, step.state.index = index ∧
          step.state.kind = kind ∧
          step.state.inWindow move.evaluation.now

theorem exists_started (holds : PlayInvariant policy started steps) (member : step ∈ steps) :
    ∃ first ∈ started, first.schedule = step.schedule := by
  have scheduled : step.schedule ∈ steps.map RecordedStep.schedule := List.mem_map_of_mem member
  rw [holds.schedule] at scheduled
  exact List.mem_map.mp scheduled

theorem runsInside_advance (holds : PlayInvariant policy started steps) (evaluation : Evaluation) :
    RunsInside started (advance policy steps evaluation).2 := by
  intro index kind actionClass confidence runs
  rcases advance_cases policy evaluation holds.ordered with
    ⟨_, advanced⟩ | ⟨before, step, after, shape, _, _, advanced⟩
  · rw [advanced] at runs
    cases runs
  · rw [advanced] at runs ⊢
    simp only [decisionAt] at runs
    rcases evaluateStep_cases step.state evaluation.anchorActive
        evaluation.eligibleRecipients policy evaluation.now with
      ⟨_, decided, active, inside, _⟩ | ⟨_, decided, _⟩ | ⟨_, decided, _⟩
    · rw [decided] at runs
      cases runs
      obtain ⟨first, isStarted, sameSchedule⟩ :=
        exists_started holds (show step ∈ steps by simp [shape])
      simp only [RecordedStep.schedule, Prod.mk.injEq] at sameSchedule
      obtain ⟨sameIndex, sameKind, sameDue, sameExpiry⟩ := sameSchedule
      refine ⟨active, first, isStarted, sameIndex, sameKind, ?_⟩
      unfold PlayStepState.inWindow
      rw [sameDue, sameExpiry]
      exact inside
    · rw [decided] at runs
      cases runs
    · rw [decided] at runs
      cases runs

def openSteps (steps : List RecordedStep) : Nat := steps.countP fun step => !step.state.settled

theorem settles_of_expired (policy : PlayPolicy) (expired : step.state.expiresAt ≤ evaluation.now) :
    ∃ reason,
      decisionAt policy evaluation step = .settleStep step.state.index step.state.kind reason := by
  have passed : ¬ evaluation.now.unixTimestamp < step.state.expiresAt.unixTimestamp :=
    fun before => absurd (lt_of_unixTimestamp_lt before) (not_lt_of_ge expired)
  unfold decisionAt
  rcases evaluateStep_cases step.state evaluation.anchorActive
      evaluation.eligibleRecipients policy evaluation.now with
    ⟨_, _, _, inside, _⟩ | ⟨reason, decided, _⟩ | ⟨_, _, _, stillOpen⟩
  · exact absurd inside.2 passed
  · exact ⟨reason, decided⟩
  · exact absurd stillOpen passed

/-- Past every window one evaluation completes a play without open steps, and
settles one of them otherwise. -/
theorem late_advance (late : ∀ step ∈ started, step.state.expiresAt ≤ evaluation.now)
    (holds : PlayInvariant policy started steps) :
    (openSteps steps = 0 ∧
        advance policy steps evaluation = (steps, ⟨evaluation, .complete⟩)) ∨
      (openSteps steps = openSteps (advance policy steps evaluation).1 + 1 ∧
        ∃ index kind reason,
          (advance policy steps evaluation).2.decision = .settleStep index kind reason) := by
  rcases advance_cases policy evaluation holds.ordered with
    ⟨allSettled, advanced⟩ | ⟨before, step, after, shape, _, isOpen, advanced⟩
  · left
    refine ⟨?_, advanced⟩
    unfold openSteps
    rw [List.countP_eq_zero]
    intro step member
    simp [allSettled step member]
  · right
    have isStep : step ∈ steps := by simp [shape]
    obtain ⟨first, isStarted, sameSchedule⟩ := exists_started holds isStep
    have sameExpiry : first.state.expiresAt = step.state.expiresAt := by
      simp only [RecordedStep.schedule, Prod.mk.injEq] at sameSchedule
      exact sameSchedule.2.2.2
    have expired := late first isStarted
    rw [sameExpiry] at expired
    obtain ⟨reason, settles⟩ := settles_of_expired policy expired
    rw [advanced]
    refine ⟨?_, _, _, _, settles⟩
    rw [settles, shape]
    simp only [openSteps, List.countP_append, List.countP_cons, RecordedStep.move, isOpen]
    simp only [Bool.not_true, Bool.not_false, Bool.false_eq_true, if_true, if_false]
    omega

/-- Past every window the open steps are settled one by one, and then the
play is complete. -/
theorem late_moves {late : List Evaluation}
    (allLate : ∀ evaluation ∈ late, ∀ step ∈ started, step.state.expiresAt ≤ evaluation.now)
    (holds : PlayInvariant policy started steps)
    {place : Nat}
    (found : ((playMachine policy).log steps late)[place]? = some move) :
    (place < openSteps steps →
        ∃ index kind reason, move.decision = .settleStep index kind reason) ∧
      (openSteps steps ≤ place → move.decision = .complete) := by
  induction late generalizing steps place with
  | nil => simp at found
  | cons evaluation later inductionHypothesis =>
    rw [List.forall_mem_cons] at allLate
    have stepped : PlayInvariant policy started (advance policy steps evaluation).1 :=
      playInvariant_advance holds
    have logged :
        (playMachine policy).log steps (evaluation :: later) =
          (advance policy steps evaluation).2 ::
            (playMachine policy).log (advance policy steps evaluation).1 later := by
      rw [Transducer.log_cons]
      rfl
    rw [logged] at found
    rcases late_advance allLate.1 holds with
      ⟨noneOpen, advanced⟩ | ⟨oneLess, settles⟩
    · rw [advanced] at found
      cases place with
      | zero =>
        cases found
        exact ⟨fun below => absurd below (by omega), fun _ => rfl⟩
      | succ earlier =>
        have afterwards := inductionHypothesis allLate.2 holds (List.getElem?_cons_succ ▸ found)
        exact ⟨fun below => absurd below (by omega), fun _ => afterwards.2 (by omega)⟩
    · cases place with
      | zero =>
        cases found
        exact ⟨fun _ => settles, fun none => absurd none (by omega)⟩
      | succ earlier =>
        have afterwards := inductionHypothesis allLate.2 stepped (List.getElem?_cons_succ ▸ found)
        exact ⟨fun below => afterwards.1 (by omega), fun reached => afterwards.2 (by omega)⟩

theorem playInvariant_started (policy : PlayPolicy) (kind : PlayKind) (anchorAt : OffsetDateTime) :
    PlayInvariant policy (startedPlay kind anchorAt) (startedPlay kind anchorAt) where
  schedule := rfl
  ordered := by
    unfold Ordered startedPlay
    rw [List.pairwise_map]
    show kind.steps.Pairwise fun earlier later => earlier.index < later.index
    cases kind <;> decide
  settledFirst := by
    unfold startedPlay
    rw [List.pairwise_map]
    refine List.pairwise_of_forall ?_
    intro earlier later settled
    cases settled
  withinCeiling := by
    intro step member
    obtain ⟨spec, _, isStarted⟩ := List.mem_map.mp member
    rw [← isStarted, Ranged.le_iff_val]
    exact (policy.ceiling spec.kind).lower
  skipReasons := by
    intro step member
    obtain ⟨spec, _, isStarted⟩ := List.mem_map.mp member
    rw [← isStarted]
    simp [startedStep]

theorem playInvariant_final (policy : PlayPolicy) (kind : PlayKind)
    (anchorAt : OffsetDateTime) (evaluations : List Evaluation) :
    PlayInvariant policy (startedPlay kind anchorAt)
      ((playMachine policy).final (startedPlay kind anchorAt) evaluations) :=
  (playMachine policy).final_invariant (fun _ _ => playInvariant_advance)
    (playInvariant_started policy kind anchorAt) evaluations

structure PlayRunHolds
    (policy : PlayPolicy)
    (kind : PlayKind)
    (anchorAt : OffsetDateTime)
    (evaluations : List Evaluation) : Prop where
  /-- a step runs while its anchor is active, inside its own window in whole
  seconds: before it expires, and less than a second before it is due at
  most -/
  runsInside :
    ∀ move ∈ (playMachine policy).log (startedPlay kind anchorAt) evaluations,
      ∀ index stepKind actionClass confidence,
        move.decision = .runStep index stepKind actionClass confidence →
          move.evaluation.anchorActive = true ∧
            ∃ step ∈ startedPlay kind anchorAt,
              step.state.index = index ∧ step.state.kind = stepKind ∧
                step.state.inWindow move.evaluation.now ∧
                step.state.dueAt < move.evaluation.now + 1000000000 ∧
                move.evaluation.now < step.state.expiresAt
  withinCeiling :
    ∀ step ∈
        (playMachine policy).final (startedPlay kind anchorAt) evaluations,
      step.state.recipientsEmitted ≤
        match step.state.kind.audience with
        | .fans => policy.maxRecipientsPerStep
        | .none => 1
  settledFirst :
    ((playMachine policy).final (startedPlay kind anchorAt)
        evaluations).Pairwise fun earlier later =>
      earlier.state.index < later.state.index ∧
        (later.state.settled = true → earlier.state.settled = true)
  /-- after a settle only steps of a larger index are run or settled -/
  neverAgain :
    ((playMachine policy).log (startedPlay kind anchorAt)
        evaluations).Pairwise fun earlier later =>
      ∀ settled, earlier.decision.settles = some settled →
        ∀ index, later.decision.index = some index → settled < index
  skipReasons :
    ∀ step ∈
        (playMachine policy).final (startedPlay kind anchorAt) evaluations,
      step.skipReason.isSome = true ↔
        step.state.settled = true ∧ step.state.recipientsEmitted = 0
  /-- looks past every window settle the open steps one by one and then find
  the play complete -/
  completes :
    ∀ late : List Evaluation,
      (∀ evaluation ∈ late, ∀ step ∈ startedPlay kind anchorAt,
        step.state.expiresAt ≤ evaluation.now) →
      ∀ place move,
        ((playMachine policy).log
            ((playMachine policy).final (startedPlay kind anchorAt)
              evaluations) late)[place]? = some move →
          (place <
              openSteps ((playMachine policy).final
                (startedPlay kind anchorAt) evaluations) →
            ∃ index stepKind reason,
              move.decision = .settleStep index stepKind reason) ∧
          (openSteps ((playMachine policy).final
                (startedPlay kind anchorAt) evaluations) ≤ place →
            move.decision = .complete)

theorem lt_add_second_of_ediv_le {one other : Int}
    (ordered : one / 1000000000 ≤ other / 1000000000) :
    one < other + 1000000000 := by
  omega

theorem play_run_holds
    (policy : PlayPolicy)
    (kind : PlayKind)
    (anchorAt : OffsetDateTime)
    (evaluations : List Evaluation) :
    PlayRunHolds policy kind anchorAt evaluations where
  runsInside := by
    intro move member index stepKind actionClass confidence runs
    have inside := (playMachine policy).forall_mem_log
        (fun _ _ => playInvariant_advance)
        (fun _ evaluation holds => runsInside_advance holds evaluation)
        (playInvariant_started policy kind anchorAt) evaluations
        move member
    obtain ⟨active, step, isStarted, sameIndex, sameKind, window⟩ :=
      inside index stepKind actionClass confidence runs
    exact ⟨active, step, isStarted, sameIndex, sameKind, window,
      lt_add_second_of_ediv_le window.1,
      lt_of_unixTimestamp_lt window.2⟩
  withinCeiling :=
    (playInvariant_final policy kind anchorAt evaluations).withinCeiling
  settledFirst := by
    have holds := playInvariant_final policy kind anchorAt evaluations
    exact holds.ordered.and holds.settledFirst
  neverAgain :=
    (playMachine policy).log_pairwise
      (fun _ _ => playInvariant_advance)
      (fun _ evaluation holds => foreseen_advance holds evaluation)
      (fun _ _ _ holds => foreseen_narrows holds)
      (fun _ _ _ holds => settledBehind_advance holds)
      (playInvariant_started policy kind anchorAt) evaluations
  skipReasons :=
    (playInvariant_final policy kind anchorAt evaluations).skipReasons
  completes := by
    intro late allLate place move found
    exact late_moves allLate
      (playInvariant_final policy kind anchorAt evaluations) found

/-- Windows are kept in whole seconds, so a step can run within the second
it is due in, before it is due. -/
theorem step_runs_within_its_due_second :
    let policy : PlayPolicy := ⟨150⟩
    let anchorAt : OffsetDateTime := 1780000000900000000
    let look : Evaluation := ⟨anchorAt - hours (14 * 24) - 800000000, true, 60⟩
    (((playMachine policy).log (startedPlay .trackUsAsk anchorAt)
        [look]).map fun move => move.decision.index) = [some 0] ∧
      (((playMachine policy).log (startedPlay .trackUsAsk anchorAt)
        [look]).map fun move => move.decision.settles) = [none] ∧
      (startedPlay .trackUsAsk anchorAt).map
          (fun step => decide (look.now < step.state.dueAt)) = [true] := by
  decide +kernel

end Runs

end CrowdRelay
