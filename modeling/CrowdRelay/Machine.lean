import Mathlib.Data.List.Induction
import Mathlib.Algebra.BigOperators.Group.List.Basic
import Mathlib.Algebra.GroupWithZero.Nat

namespace Machine

/-!
# Finite runs of deterministic machines

A machine reads one event at a time, moves to its next state and reports one
output.  A run over a finite list of events collects the outputs in order and
stops early after an output on which the machine halts.

The rules below are the only inductions over runs: what one step preserves, a
whole run preserves; what one step spends, a whole run does not overspend.
-/

/-- A deterministic machine that reports one output for each event it reads. -/
structure Transducer (State Event Output : Type) where
  step : State → Event → State × Output
  halts : Output → Bool := fun _ => false

namespace Transducer

variable {State Event Output : Type}

/-- The state after a list of events and the outputs reported on the way. -/
def run (machine : Transducer State Event Output) :
    State → List Event → State × List Output
  | state, [] => (state, [])
  | state, event :: later =>
    let taken := machine.step state event
    if machine.halts taken.2 then
      (taken.1, [taken.2])
    else
      let rest := machine.run taken.1 later
      (rest.1, taken.2 :: rest.2)

/-- The state a run ends in. -/
def final (machine : Transducer State Event Output) (state : State)
    (events : List Event) : State :=
  (machine.run state events).1

/-- The outputs a run reports, in order. -/
def log (machine : Transducer State Event Output) (state : State)
    (events : List Event) : List Output :=
  (machine.run state events).2

variable (machine : Transducer State Event Output)

@[simp] theorem final_nil (state : State) : machine.final state [] = state := rfl

@[simp] theorem log_nil (state : State) : machine.log state [] = [] := rfl

variable (state : State) (event : Event) (later : List Event)

theorem final_cons :
    machine.final state (event :: later) =
      if machine.halts (machine.step state event).2 then
        (machine.step state event).1
      else
        machine.final (machine.step state event).1 later := by
  simp only [final, run]
  split <;> rfl

theorem log_cons :
    machine.log state (event :: later) = (machine.step state event).2 ::
        if machine.halts (machine.step state event).2 then
          []
        else
          machine.log (machine.step state event).1 later := by
  simp only [log, run]
  split <;> rfl

/-- Every event a run reads, with the state it is read in. -/
def visits (machine : Transducer State Event Output) :
    State → List Event → List (State × Event)
  | _, [] => []
  | state, event :: later =>
    (state, event) ::
      if machine.halts (machine.step state event).2 then
        []
      else
        machine.visits (machine.step state event).1 later

section NeverHalting

variable (neverHalts : ∀ output, machine.halts output = false) (state : State)
  (events later : List Event)

include neverHalts in
theorem visits_cons (event : Event) (later : List Event) :
    machine.visits state (event :: later) =
      (state, event) :: machine.visits (machine.step state event).1 later := by
  rw [visits, neverHalts, if_neg Bool.false_ne_true]

include neverHalts in
theorem final_append :
    machine.final state (events ++ later) = machine.final (machine.final state events) later := by
  induction events generalizing state with
  | nil => rfl
  | cons event rest inductionHypothesis =>
    rw [List.cons_append, final_cons, final_cons, neverHalts, if_neg Bool.false_ne_true]
    exact inductionHypothesis _

include neverHalts in
theorem visits_append :
    machine.visits state (events ++ later) =
      machine.visits state events ++ machine.visits (machine.final state events) later := by
  induction events generalizing state with
  | nil => rfl
  | cons event rest inductionHypothesis =>
    rw [List.cons_append, machine.visits_cons neverHalts,
      machine.visits_cons neverHalts, final_cons, neverHalts,
      if_neg Bool.false_ne_true, inductionHypothesis, List.cons_append]

end NeverHalting

theorem mem_of_mem_visits {state : State} {events : List Event} {visit : State × Event}
    (visited : visit ∈ machine.visits state events) :
    visit.2 ∈ events := by
  induction events generalizing state with
  | nil => cases visited
  | cons event later inductionHypothesis =>
    rcases List.mem_cons.mp visited with isFirst | inRest
    · rw [isFirst]
      exact List.mem_cons_self
    · split at inRest
      · cases inRest
      · exact List.mem_cons_of_mem _ (inductionHypothesis inRest)

theorem log_eq_map_visits (events : List Event) :
    machine.log state events = (machine.visits state events).map fun visit =>
        (machine.step visit.1 visit.2).2 := by
  induction events generalizing state with
  | nil => rfl
  | cons event later inductionHypothesis =>
    rw [log_cons, visits, List.map_cons]
    split
    · rfl
    · rw [inductionHypothesis]

section Invariants

variable {invariant : State → Prop} {state : State} {allowed : List Event → State → Event → Prop}
  (related : List Event → State → Prop) (room : State → Nat) {foreseen : State → Output → Prop}
  {permitted : State → Event → Prop}

theorem final_invariant
    (preserved : ∀ state event, invariant state → invariant (machine.step state event).1)
    {state : State} (holds : invariant state) (events : List Event) :
    invariant (machine.final state events) := by
  induction events generalizing state with
  | nil => exact holds
  | cons event later inductionHypothesis =>
    rw [final_cons]
    split
    · exact preserved state event holds
    · exact inductionHypothesis (preserved state event holds)

/--
What every step on a permitted event reports under an invariant, every output
of a run over permitted events shows.
-/
theorem forall_mem_log_of_permitted {permitted : Event → Prop} {reported : Output → Prop}
    (preserved :
      ∀ state event,
        permitted event →
        invariant state → invariant (machine.step state event).1)
    (shown :
      ∀ state event,
        permitted event →
        invariant state → reported (machine.step state event).2)
    (holds : invariant state)
    {events : List Event}
    (allPermitted : ∀ event ∈ events, permitted event) :
    ∀ output ∈ machine.log state events, reported output := by
  induction events generalizing state with
  | nil => simp
  | cons event later inductionHypothesis =>
    have first := allPermitted event List.mem_cons_self
    rw [log_cons]
    intro output member
    rcases List.mem_cons.mp member with isFirst | inRest
    · subst isFirst
      exact shown state event first holds
    · split at inRest
      · simp at inRest
      · exact inductionHypothesis
            (preserved state event first holds)
            (fun query inLater =>
              allPermitted query (List.mem_cons_of_mem _ inLater))
            output inRest

theorem forall_mem_log {reported : Output → Prop}
    (preserved : ∀ state event, invariant state → invariant (machine.step state event).1)
    (shown : ∀ state event, invariant state → reported (machine.step state event).2) {state : State}
    (holds : invariant state) (events : List Event) :
    ∀ output ∈ machine.log state events, reported output :=
  machine.forall_mem_log_of_permitted (fun state event (_ : True) => preserved state event)
    (fun state event _ => shown state event)
    holds (fun _ _ => trivial)

/--
When every output names the event it answers, the outputs of a run name a
prefix of its events.
-/
theorem map_log_prefix {Name : Type} (read : Output → Name) (named : Event → Name)
    (answers : ∀ state event, read (machine.step state event).2 = named event) (state : State)
    (events : List Event) :
    (machine.log state events).map read <+: events.map named := by
  induction events generalizing state with
  | nil => exact List.nil_prefix
  | cons event later inductionHypothesis =>
    rw [log_cons, List.map_cons, List.map_cons, answers, List.prefix_cons_inj]
    split
    · exact List.nil_prefix
    · exact inductionHypothesis _

/--
When turning a state and an event turns what a step comes to, turning all
events of a run that never halts turns all its outputs.
-/
theorem log_map_of_commutes (neverHalts : ∀ output, machine.halts output = false)
    {turn : State → State} {turnEvent : Event → Event} {turnOutput : Output → Output}
    (preserved : ∀ state event, invariant state → invariant (machine.step state event).1)
    (commutes :
      ∀ state event,
        invariant state →
        machine.step (turn state) (turnEvent event) =
          (turn (machine.step state event).1, turnOutput (machine.step state event).2))
    (holds : invariant state)
    (events : List Event) :
    machine.log (turn state) (events.map turnEvent) =
      (machine.log state events).map turnOutput := by
  induction events generalizing state with
  | nil => rfl
  | cons event later inductionHypothesis =>
    rw [List.map_cons, log_cons, log_cons, commutes state event holds,
      neverHalts, neverHalts, List.map_cons]
    exact congrArg _ (inductionHypothesis (preserved state event holds))

/--
What relates the outputs so far to the current state, and survives one more
step, relates the outputs of a run to the state it ends in.
-/
theorem log_invariant (related : List Output → State → Prop)
    (preserved :
      ∀ outputs state event,
        related outputs state →
        related (outputs ++ [(machine.step state event).2]) (machine.step state event).1)
    (outputs : List Output)
    {state : State}
    (holds : related outputs state)
    (events : List Event) :
    related (outputs ++ machine.log state events) (machine.final state events) := by
  induction events generalizing state outputs with
  | nil => simpa using holds
  | cons event later inductionHypothesis =>
    have stepped := preserved outputs state event holds
    rw [log_cons, final_cons]
    split
    · exact stepped
    · simpa using inductionHypothesis _ stepped

/-- Every step of a run reads an event that its past and its state allow. -/
def EveryStep (machine : Transducer State Event Output)
    (allowed : List Event → State → Event → Prop) (state : State)
    (events : List Event) : Prop :=
  ∀ before event later,
    events = before ++ event :: later →
    allowed before (machine.final state before) event

theorem EveryStep.of_append {machine : Transducer State Event Output}
    {events before later : List Event} (everyStep : machine.EveryStep allowed state events)
    (split : events = before ++ later) :
    machine.EveryStep allowed state before := by
  intro first event rest cut
  refine everyStep first event (rest ++ later) ?_
  rw [split, cut, List.append_assoc, List.cons_append]

theorem everyStep_nil (allowed : List Event → State → Event → Prop) (state : State) :
    machine.EveryStep allowed state [] := by
  intro before event later split
  simp at split

section

variable (neverHalts : ∀ output, machine.halts output = false)
include neverHalts

theorem everyStep_cons {event : Event} {later : List Event} (first : allowed [] state event)
    (rest :
      machine.EveryStep (fun past => allowed (event :: past)) (machine.step state event).1 later) :
    machine.EveryStep allowed state (event :: later) := by
  intro before query others split
  cases before with
  | nil =>
    obtain ⟨rfl, rfl⟩ := List.cons.inj split
    exact first
  | cons head tail =>
    obtain ⟨rfl, cut⟩ := List.cons.inj split
    rw [final_cons, neverHalts, if_neg Bool.false_ne_true]
    exact rest tail query others cut

/--
What relates the events read so far to the current state, and survives one
more allowed step, relates the events of a run of allowed steps that never
halts to its final state.
-/
theorem final_history_of_everyStep
    (preserved :
      ∀ past state event,
        allowed past state event →
        related past state →
        related (past ++ [event]) (machine.step state event).1)
    (holds : related [] state)
    {events : List Event}
    (everyStep : machine.EveryStep allowed state events) :
    related events (machine.final state events) := by
  induction events using List.reverseRecOn with
  | nil => exact holds
  | append_singleton before event inductionHypothesis =>
    have earlier : related before (machine.final state before) :=
      inductionHypothesis (everyStep.of_append rfl)
    have last := everyStep before event [] rfl
    rw [machine.final_append neverHalts, final_cons, neverHalts, if_neg Bool.false_ne_true]
    exact preserved before _ event last earlier

/--
What relates the events read so far to the current state, and survives one
more step, relates the events of a run that never halts to its final state.
-/
theorem final_history
    (preserved :
      ∀ past state event,
        related past state →
        related (past ++ [event]) (machine.step state event).1)
    {past : List Event}
    (holds : related past state)
    (events : List Event) :
    related (past ++ events) (machine.final state events) := by
  induction events generalizing state past with
  | nil => simpa using holds
  | cons event later inductionHypothesis =>
    rw [final_cons, neverHalts, if_neg Bool.false_ne_true]
    simpa using inductionHypothesis (preserved past state event holds)

end

/--
A run never spends more than the room it started with, when no step spends
more than it takes off the room.
-/
theorem log_within_room (cost : Output → Nat)
    (preserved : ∀ state event, invariant state → invariant (machine.step state event).1)
    (charged :
      ∀ state event,
        invariant state →
        cost (machine.step state event).2 + room (machine.step state event).1 ≤ room state)
    (holds : invariant state)
    (events : List Event) :
    ((machine.log state events).map cost).sum + room (machine.final state events) ≤ room state := by
  induction events generalizing state with
  | nil => simp
  | cons event later inductionHypothesis =>
    have stepped := charged state event holds
    have rest := inductionHypothesis (preserved state event holds)
    rw [log_cons, final_cons]
    split
    · simpa using stepped
    · simp only [List.map_cons, List.sum_cons]
      omega

/-- The number of outputs of one kind is bounded by the room for that kind. -/
theorem countP_log_le_room (counted : Output → Bool)
    (preserved : ∀ state event, invariant state → invariant (machine.step state event).1)
    (charged :
      ∀ state event,
        invariant state →
        (if counted (machine.step state event).2 then 1 else 0) +
            room (machine.step state event).1 ≤
          room state)
    (holds : invariant state)
    (events : List Event) :
    (machine.log state events).countP counted ≤ room state := by
  have bounded := machine.log_within_room room (fun output => if counted output then 1 else 0)
      preserved charged holds events
  have counts :
      ((machine.log state events).map
        fun output => if counted output then 1 else 0).sum =
        (machine.log state events).countP counted := by
    induction machine.log state events with
    | nil => rfl
    | cons output rest inductionHypothesis =>
      rw [List.map_cons, List.sum_cons, List.countP_cons, inductionHypothesis, Nat.add_comm]
  omega

/--
When what a step reports is foreseen by the state before it, and what the
next state foresees the state before it foresaw too, every output of a run is
foreseen by the state it starts from.
-/
theorem forall_mem_log_foreseen
    (preserved : ∀ state event, invariant state → invariant (machine.step state event).1)
    (reports : ∀ state event, invariant state → foreseen state (machine.step state event).2)
    (narrows :
      ∀ state event output,
        invariant state →
        foreseen (machine.step state event).1 output →
        foreseen state output)
    (holds : invariant state)
    (events : List Event) :
    ∀ output ∈ machine.log state events, foreseen state output := by
  induction events generalizing state with
  | nil => simp
  | cons event later inductionHypothesis =>
    rw [log_cons]
    intro output member
    rcases List.mem_cons.mp member with isFirst | inRest
    · rw [isFirst]
      exact reports state event holds
    · split at inRest
      · simp at inRest
      · exact narrows state event output holds
          (inductionHypothesis (preserved state event holds) output inRest)

/--
When everything foreseen after a step stands in a relation to what the step
reports, the outputs of a run stand in that relation in order.
-/
theorem log_pairwise {ordered : Output → Output → Prop}
    (preserved : ∀ state event, invariant state → invariant (machine.step state event).1)
    (reports : ∀ state event, invariant state → foreseen state (machine.step state event).2)
    (narrows :
      ∀ state event output,
        invariant state →
        foreseen (machine.step state event).1 output →
        foreseen state output)
    (follows :
      ∀ state event output,
        invariant state →
        foreseen (machine.step state event).1 output →
        ordered (machine.step state event).2 output)
    (holds : invariant state)
    (events : List Event) :
    (machine.log state events).Pairwise ordered := by
  induction events generalizing state with
  | nil => simp
  | cons event later inductionHypothesis =>
    rw [log_cons, List.pairwise_cons]
    have stepped := preserved state event holds
    split
    · simp
    · refine ⟨?_, inductionHypothesis stepped⟩
      intro output member
      exact follows state event output holds
        (machine.forall_mem_log_foreseen preserved reports narrows stepped later output member)

/-- What every permitted step preserves holds wherever a run gets. -/
theorem final_invariant_of_visits
    (preserved :
      ∀ state event,
        permitted state event →
        invariant state → invariant (machine.step state event).1)
    (holds : invariant state)
    {events : List Event}
    (allPermitted : ∀ visit ∈ machine.visits state events, permitted visit.1 visit.2) :
    invariant (machine.final state events) ∧
      ∀ visit ∈ machine.visits state events, invariant visit.1 := by
  induction events generalizing state with
  | nil => exact ⟨holds, fun visit member => by cases member⟩
  | cons event later inductionHypothesis =>
    rw [visits] at allPermitted ⊢
    rw [final_cons]
    have stepped := preserved state event (allPermitted _ List.mem_cons_self) holds
    split at allPermitted
    · rename_i halted
      simp only [halted, if_true]
      exact ⟨stepped, by simpa using holds⟩
    · rename_i running
      simp only [running, Bool.false_eq_true, if_false]
      obtain ⟨atEnd, everywhere⟩ := inductionHypothesis stepped
          (fun visit member =>
            allPermitted visit (List.mem_cons_of_mem _ member))
      refine ⟨atEnd, fun visit member => ?_⟩
      rcases List.mem_cons.mp member with isFirst | inRest
      · rw [isFirst]
        exact holds
      · exact everywhere visit inRest

/--
What holds after a step exactly where it held before and the step keeps it,
holds after a run exactly where it held before and every step keeps it.
-/
theorem final_iff_of_visits {holds : State → Prop} {permitted keeps : State → Event → Prop}
    (neverHalts : ∀ output, machine.halts output = false)
    (preserved :
      ∀ state event,
        permitted state event →
        invariant state → invariant (machine.step state event).1)
    (stepped :
      ∀ state event,
        permitted state event →
        invariant state →
        (holds (machine.step state event).1 ↔ holds state ∧ keeps state event))
    {state : State}
    (begins : invariant state)
    {events : List Event}
    (allPermitted : ∀ visit ∈ machine.visits state events, permitted visit.1 visit.2) :
    holds (machine.final state events) ↔
      holds state ∧ ∀ visit ∈ machine.visits state events, keeps visit.1 visit.2 := by
  induction events generalizing state with
  | nil => simp [visits]
  | cons event later inductionHypothesis =>
    rw [machine.visits_cons neverHalts] at allPermitted ⊢
    rw [final_cons, neverHalts, if_neg Bool.false_ne_true]
    have first := allPermitted _ List.mem_cons_self
    rw [inductionHypothesis (preserved state event first begins)
        (fun visit member =>
          allPermitted visit (List.mem_cons_of_mem _ member)),
      stepped state event first begins, List.forall_mem_cons, and_assoc]

/-- What no permitted step can undo lasts from every visit to the end. -/
theorem lasts_of_visits {lasts : State → State → Prop}
    (neverHalts : ∀ output, machine.halts output = false)
    (refl : ∀ state, invariant state → lasts state state)
    (trans : ∀ first second third, lasts first second → lasts second third → lasts first third)
    (preserved :
      ∀ state event,
        permitted state event →
        invariant state → invariant (machine.step state event).1)
    (stepped :
      ∀ state event,
        permitted state event →
        invariant state → lasts state (machine.step state event).1)
    (holds : invariant state)
    {events : List Event}
    (allPermitted : ∀ visit ∈ machine.visits state events, permitted visit.1 visit.2) :
    lasts state (machine.final state events) ∧
      ∀ visit ∈ machine.visits state events, lasts visit.1 (machine.final state events) := by
  induction events generalizing state with
  | nil => exact ⟨refl state holds, fun visit member => by cases member⟩
  | cons event later inductionHypothesis =>
    rw [machine.visits_cons neverHalts] at allPermitted ⊢
    rw [final_cons, neverHalts, if_neg Bool.false_ne_true]
    have first := allPermitted _ List.mem_cons_self
    obtain ⟨fromNext, fromVisits⟩ := inductionHypothesis (preserved state event first holds)
        (fun visit member =>
          allPermitted visit (List.mem_cons_of_mem _ member))
    have fromHere := trans _ _ _ (stepped state event first holds) fromNext
    refine ⟨fromHere, ?_⟩
    intro visit member
    rcases List.mem_cons.mp member with isFirst | inRest
    · rw [isFirst]
      exact fromHere
    · exact fromVisits visit inRest

/--
When every permitted step hands out what it takes off the stock, a run hands
out what was in stock at its start and what came in on the way, in order.
-/
theorem flow_conserved {Item : Type} (stock : State → List Item)
    (inflow outflow : State → Event → List Item)
    (neverHalts : ∀ output, machine.halts output = false)
    (preserved :
      ∀ state event,
        permitted state event →
        invariant state → invariant (machine.step state event).1)
    (conserved :
      ∀ state event,
        permitted state event →
        invariant state →
        outflow state event ++ stock (machine.step state event).1 =
          stock state ++ inflow state event)
    (holds : invariant state)
    {events : List Event}
    (allPermitted : ∀ visit ∈ machine.visits state events, permitted visit.1 visit.2) :
    ((machine.visits state events).flatMap fun visit =>
          outflow visit.1 visit.2) ++
        stock (machine.final state events) =
      stock state ++ (machine.visits state events).flatMap fun visit =>
          inflow visit.1 visit.2 := by
  induction events generalizing state with
  | nil => simp [visits]
  | cons event later inductionHypothesis =>
    rw [machine.visits_cons neverHalts] at allPermitted ⊢
    have first := allPermitted _ List.mem_cons_self
    have rest := inductionHypothesis (preserved state event first holds)
        (fun visit member =>
          allPermitted visit (List.mem_cons_of_mem _ member))
    rw [final_cons, neverHalts, if_neg Bool.false_ne_true,
      List.flatMap_cons, List.flatMap_cons, List.append_assoc, rest,
      ← List.append_assoc, conserved state event first holds,
      List.append_assoc]

end Invariants

end Transducer

end Machine
