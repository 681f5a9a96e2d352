import CrowdRelay.Machine
import CrowdRelay.MachineInt
import CrowdRelay.SelfAssessment

namespace CrowdRelay.SelfAssessment

open Machine MachineInt

/-!
# The monitor of the brain's own verdicts

The monitor counts how long the brain has been in a state. The bonus for
escaping stagnation reads one of the counters, that of the learning cycles.
-/

namespace BrainState

/-- What a state adds to the weight of exploration. -/
def explorationBoost : BrainState → ℚ
  | improving => 0
  | learning => 1 / 2
  | stagnant => 3 / 10
  | regressing => 3 / 5
  | initializing => 2 / 5

end BrainState

structure MetacognitionMonitor where
  state : BrainState
  learningCycles : U32
  stagnantCycles : U32
  regressingCycles : U32
  improvingCyclesTotal : U32
  resetAfterHalt : Bool
  deriving Repr, DecidableEq

namespace MetacognitionMonitor

def new : MetacognitionMonitor where
  state := .initializing
  learningCycles := 0
  stagnantCycles := 0
  regressingCycles := 0
  improvingCyclesTotal := 0
  resetAfterHalt := false

variable (monitor : MetacognitionMonitor)

/-- One more cycle in the same state. -/
def countAgain :
    BrainState → MetacognitionMonitor
  | .learning =>
    { monitor with learningCycles := monitor.learningCycles.saturatingAdd 1 }
  | .stagnant =>
    { monitor with stagnantCycles := monitor.stagnantCycles.saturatingAdd 1 }
  | .regressing =>
    { monitor with
      regressingCycles := monitor.regressingCycles.saturatingAdd 1 }
  | .improving =>
    { monitor with
      improvingCyclesTotal := monitor.improvingCyclesTotal.saturatingAdd 1 }
  | .initializing => monitor

def clearCount :
    BrainState → MetacognitionMonitor
  | .learning => { monitor with learningCycles := 0 }
  | .stagnant => { monitor with stagnantCycles := 0 }
  | .regressing => { monitor with regressingCycles := 0 }
  | .improving | .initializing => monitor

/-- The first cycle in a new state. -/
def startCount :
    BrainState → MetacognitionMonitor
  | .learning => { monitor with learningCycles := 1 }
  | .stagnant => { monitor with stagnantCycles := 1 }
  | .regressing => { monitor with regressingCycles := 1 }
  | .improving =>
    { monitor with
      improvingCyclesTotal := monitor.improvingCyclesTotal.saturatingAdd 1 }
  | .initializing => monitor

/-- Records a new assessment and updates the counters. -/
def observe
    (state : BrainState) : MetacognitionMonitor :=
  let counted :=
    if state = monitor.state then
      monitor.countAgain state
    else
      (monitor.clearCount monitor.state).startCount state
  { counted with
    state := state
    resetAfterHalt := false }

def afterHalt (monitor : MetacognitionMonitor) : MetacognitionMonitor :=
  { monitor with
    state := .initializing
    learningCycles := 0
    stagnantCycles := 0
    regressingCycles := 0
    resetAfterHalt := true }

/-- A fiftieth for each learning cycle, up to a half. -/
def stagnationEscapeBoost (monitor : MetacognitionMonitor) : ℚ :=
  if monitor.learningCycles = 0 then 0 else min (1 / 50 * (monitor.learningCycles.val : ℚ)) (1 / 2)

def explorationBoost (monitor : MetacognitionMonitor) : ℚ :=
  monitor.state.explorationBoost + monitor.stagnationEscapeBoost

/-- The brain is learning exactly while learning cycles are counted. -/
def Coherent (monitor : MetacognitionMonitor) : Prop :=
  monitor.state = .learning ↔ 0 < monitor.learningCycles.val

section Step

variable {monitor : MetacognitionMonitor} {verdict : BrainState}

section

variable (coherent : monitor.Coherent)
include coherent

theorem Coherent.learningCycles_eq_zero (notLearning : monitor.state ≠ .learning) :
    monitor.learningCycles = 0 := by
  have notCounted := mt coherent.mpr notLearning
  rw [Ranged.eq_iff_val]
  exact le_antisymm (not_lt.mp notCounted) monitor.learningCycles.lower

theorem Coherent.observe_learning :
    (monitor.observe .learning).learningCycles = monitor.learningCycles.saturatingAdd 1 := by
  by_cases already : BrainState.learning = monitor.state
  · simp [observe, ← already, countAgain]
  · simp only [observe, if_neg already, startCount]
    rw [coherent.learningCycles_eq_zero (Ne.symm already)]
    rfl

theorem Coherent.observe_other (other : verdict ≠ .learning) :
    (monitor.observe verdict).learningCycles = 0 := by
  have clears : (monitor.clearCount monitor.state).learningCycles = 0 := by
    have none := coherent.learningCycles_eq_zero
    cases shape : monitor.state <;> simp_all [clearCount]
  unfold observe
  split
  next same =>
    have none := coherent.learningCycles_eq_zero (same ▸ other)
    cases verdict <;> simp_all [countAgain]
  next changes => cases verdict <;> simp_all [startCount]

theorem Coherent.observe : (monitor.observe verdict).Coherent := by
  by_cases learning : verdict = .learning
  · subst learning
    have counted : 0 ≤ monitor.learningCycles.val := monitor.learningCycles.lower
    have one : (1 : U32).val = 1 := rfl
    rw [Coherent, coherent.observe_learning, Ranged.val_saturatingAdd]
    exact iff_of_true rfl (by omega)
  · rw [Coherent, coherent.observe_other learning]
    exact iff_of_false learning (lt_irrefl _)

end

theorem boost_eq_min :
    monitor.stagnationEscapeBoost = min (1 / 50 * (monitor.learningCycles.val : ℚ)) (1 / 2) := by
  unfold stagnationEscapeBoost
  split
  next none =>
    rw [none, show (0 : U32).val = 0 from rfl]
    norm_num
  next counted => rfl

/-- One observation lowers the bonus exactly when it ends the learning. -/
theorem Coherent.boost_le_observe_iff (coherent : monitor.Coherent) :
    monitor.stagnationEscapeBoost ≤ (monitor.observe verdict).stagnationEscapeBoost ↔
      (monitor.state = .learning → verdict = .learning) := by
  rw [boost_eq_min, boost_eq_min]
  by_cases learning : verdict = .learning
  · subst learning
    have grows : (monitor.learningCycles.val : ℚ) ≤ (monitor.learningCycles.saturatingAdd 1).val :=
      Int.cast_le.mpr (Ranged.val_le_increment _)
    rw [coherent.observe_learning]
    exact iff_of_true (min_le_min (mul_le_mul_of_nonneg_left grows (by norm_num)) le_rfl)
        fun _ => rfl
  · have none : min (1 / 50 * ((0 : U32).val : ℚ)) (1 / 2) = 0 := by
      rw [show (0 : U32).val = 0 from rfl]
      norm_num
    have counts : monitor.state = .learning ↔ 0 < monitor.learningCycles.val := coherent
    rw [coherent.observe_other learning, none, counts, min_le_iff]
    have noHalf : ¬ (1 / 2 : ℚ) ≤ 0 := by norm_num
    have noCycles :
        1 / 50 * (monitor.learningCycles.val : ℚ) ≤ 0 ↔ monitor.learningCycles.val ≤ 0 := by
      rw [← Int.cast_nonpos (R := ℚ)]
      constructor <;> intro nothing <;> linarith
    simp only [learning, noCycles, noHalf, imp_false, not_lt, or_false]

end Step

/-- What happens to the monitor. -/
inductive Event where
  | observed (verdict : BrainState)
  | halted
  deriving Repr, DecidableEq

def react (monitor : MetacognitionMonitor) : Event → MetacognitionMonitor
  | .observed verdict => monitor.observe verdict
  | .halted => monitor.afterHalt

/-- The monitor over a run of events, with the bonus after each. -/
def monitoring : Transducer MetacognitionMonitor Event ℚ where
  step monitor event := (monitor.react event, (monitor.react event).stagnationEscapeBoost)

theorem coherent_final (history : List Event) : (monitoring.final new history).Coherent := by
  have none : ¬ (0 : Int) < (0 : U32).val := by decide
  refine monitoring.final_invariant ?_ (iff_of_false (by decide) none) history
  intro monitor event coherent
  cases event with
  | observed verdict => exact coherent.observe
  | halted => exact iff_of_false (by simp [monitoring, react, afterHalt]) none

theorem Coherent.isChain_log_iff {start : MetacognitionMonitor}
    (coherent : start.Coherent) (verdicts : List BrainState) :
    (start.stagnationEscapeBoost :: monitoring.log start (verdicts.map .observed)).IsChain (· ≤ ·) ↔
      (start.state :: verdicts).IsChain fun now next =>
        now = .learning → next = .learning := by
  induction verdicts generalizing start with
  | nil => simp
  | cons verdict later inductionHypothesis =>
    rw [List.map_cons, Transducer.log_cons, List.isChain_cons_cons, List.isChain_cons_cons]
    exact and_congr coherent.boost_le_observe_iff (inductionHypothesis coherent.observe)

/--
After any history, the bonus never decreases over a run of observations
exactly when none of them takes the brain from learning to another state.
-/
theorem escape_never_shrinks_iff
    (history : List Event)
    (verdicts : List BrainState) :
    let start := monitoring.final new history
    (start.stagnationEscapeBoost ::
        monitoring.log start (verdicts.map .observed)).IsChain (· ≤ ·) ↔
      (start.state :: verdicts).IsChain fun now next =>
        now = .learning → next = .learning :=
  (coherent_final history).isChain_log_iff verdicts

theorem stagnation_clears_the_escape :
    let boosts := monitoring.log new
        [.observed .learning, .observed .stagnant, .observed .regressing]
    boosts = [1 / 50, 0, 0] ∧ ¬ boosts.IsChain (· ≤ ·) := by
  decide +kernel

end MetacognitionMonitor

end CrowdRelay.SelfAssessment
