import Mathlib.Data.List.Basic

namespace StoppingLoop

/-!
# Loops over a list that may stop early

The loop carries a state through the items of a list and leaves the rest of
the list alone once the state says so.  The rules below are the invariant of
such a loop, the comparison of two loops over the same list, the first step
at which a property of steps fails, and what the steps write to a log.
-/

variable {State Item : Type} (stop : State → Bool)

/-- Carry the state through the items until it asks to stop. -/
def loop (step : State → Item → State) : List Item → State → State
  | [], state => state
  | item :: rest, state =>
    if stop state then state else loop step rest (step state item)

def EveryStep (step : State → Item → State) (property : State → Item → Prop) :
    List Item → State → Prop
  | [], _ => True
  | item :: rest, state =>
    stop state = false → property state item ∧ EveryStep step property rest (step state item)

/-- The states the loop comes to, each with the item it takes there. -/
def visited (step : State → Item → State) :
    List Item → State → List (State × Item)
  | [], _ => []
  | item :: rest, state =>
    if stop state then [] else (state, item) :: visited step rest (step state item)

section Rules

variable {stop} {step : State → Item → State} {state : State} (invariant : State → Prop)
  {items : List Item} {property : State → Item → Prop} {visit : State × Item}

@[simp] theorem loop_nil (state : State) : loop stop step [] state = state := rfl

theorem loop_stopped (stopped : stop state = true) (items : List Item) :
    loop stop step items state = state := by
  cases items <;> simp [loop, stopped]

theorem loop_cons (running : stop state = false) (item : Item) (rest : List Item) :
    loop stop step (item :: rest) state = loop stop step rest (step state item) := by
  simp [loop, running]

theorem loop_append (before after : List Item) (state : State) :
    loop stop step (before ++ after) state =
      loop stop step after (loop stop step before state) := by
  induction before generalizing state with
  | nil => rfl
  | cons item rest inductionHypothesis =>
    cases running : stop state with
    | true => simp [loop_stopped running]
    | false => simp [loop_cons running, inductionHypothesis]

theorem loop_invariant
    (preserved :
      ∀ state, ∀ item ∈ items, stop state = false → invariant state → invariant (step state item))
    (initially : invariant state) :
    invariant (loop stop step items state) := by
  induction items generalizing state with
  | nil => exact initially
  | cons item rest inductionHypothesis =>
    cases running : stop state with
    | true => simpa [loop_stopped running] using initially
    | false =>
      rw [loop_cons running]
      apply inductionHypothesis
      · intro later laterItem member
        exact preserved later laterItem (List.mem_cons_of_mem _ member)
      · exact preserved state item (List.mem_cons_self ..) running
          initially

theorem loop_invariant_of_everyStep
    (preserved :
      ∀ state, ∀ item ∈ items, stop state = false →
        property state item →
        invariant state → invariant (step state item))
    (everyStep : EveryStep stop step property items state)
    (initially : invariant state) :
    invariant (loop stop step items state) := by
  induction items generalizing state with
  | nil => exact initially
  | cons item rest inductionHypothesis =>
    cases running : stop state with
    | true => simpa [loop_stopped running] using initially
    | false =>
      obtain ⟨here, later⟩ := everyStep running
      rw [loop_cons running]
      apply inductionHypothesis
      · intro next nextItem member
        exact preserved next nextItem (List.mem_cons_of_mem _ member)
      · exact later
      · exact preserved state item (List.mem_cons_self ..) running here
          initially

theorem loop_congr {other : State → Item → State}
    (agree :
      EveryStep stop step (fun reached item => other reached item = step reached item)
        items state) :
    loop stop other items state = loop stop step items state := by
  induction items generalizing state with
  | nil => rfl
  | cons item rest inductionHypothesis =>
    cases running : stop state with
    | true => simp [loop_stopped running]
    | false =>
      obtain ⟨here, later⟩ := agree running
      rw [loop_cons running, loop_cons running, here]
      exact inductionHypothesis later

theorem EveryStep.mono {property weaker : State → Item → Prop}
    (implies : ∀ state, ∀ item ∈ items, property state item → weaker state item)
    (everyStep : EveryStep stop step property items state) :
    EveryStep stop step weaker items state := by
  induction items generalizing state with
  | nil => trivial
  | cons item rest inductionHypothesis =>
    intro running
    obtain ⟨here, later⟩ := everyStep running
    refine ⟨implies state item (List.mem_cons_self ..) here, ?_⟩
    apply inductionHypothesis _ later
    intro next nextItem member
    exact implies next nextItem (List.mem_cons_of_mem _ member)

/-- Where a property fails at some step, there is a first such step. -/
theorem exists_first_failing (fails : ¬ EveryStep stop step property items state) :
    ∃ before item after,
      items = before ++ item :: after ∧
        EveryStep stop step property before state ∧
        stop (loop stop step before state) = false ∧
        ¬ property (loop stop step before state) item := by
  induction items generalizing state with
  | nil => exact (fails trivial).elim
  | cons item rest inductionHypothesis =>
    cases running : stop state with
    | true =>
      refine (fails ?_).elim
      intro notStopped
      simp [running] at notStopped
    | false =>
      by_cases here : property state item
      · have later : ¬ EveryStep stop step property rest (step state item) := by
          intro everyLater
          exact fails fun _ => ⟨here, everyLater⟩
        obtain ⟨before, failing, after, shape, good, goesOn, bad⟩ := inductionHypothesis later
        refine ⟨item :: before, failing, after, by simp [shape], ?_, ?_, ?_⟩
        · exact fun _ => ⟨here, good⟩
        · simpa [loop_cons running] using goesOn
        · simpa [loop_cons running] using bad
      · exact ⟨[], item, rest, rfl, trivial, running, here⟩

theorem visited_stopped (stopped : stop state = true) (items : List Item) :
    visited stop step items state = [] := by
  cases items <;> simp [visited, stopped]

theorem visited_cons (running : stop state = false) (item : Item) (rest : List Item) :
    visited stop step (item :: rest) state =
      (state, item) :: visited stop step rest (step state item) := by
  simp [visited, running]

theorem map_snd_visited (running : stop (loop stop step items state) = false) :
    (visited stop step items state).map Prod.snd = items := by
  induction items generalizing state with
  | nil => rfl
  | cons item rest inductionHypothesis =>
    cases stopped : stop state with
    | true =>
      rw [loop_stopped stopped, stopped] at running
      cases running
    | false =>
      rw [loop_cons stopped] at running
      rw [visited_cons stopped, List.map_cons, inductionHypothesis running]

theorem loop_established (established : State → Prop)
    (preserved : ∀ state item, established state → established (step state item))
    (isVisit : visit ∈ visited stop step items state) (here : established (step visit.1 visit.2)) :
    established (loop stop step items state) := by
  induction items generalizing state with
  | nil => cases isVisit
  | cons item rest inductionHypothesis =>
    cases running : stop state with
    | true =>
      rw [visited_stopped running] at isVisit
      cases isVisit
    | false =>
      rw [visited_cons running] at isVisit
      rw [loop_cons running]
      rcases List.mem_cons.mp isVisit with rfl | later
      · exact loop_invariant established
          (fun next laterItem _ _ => preserved next laterItem) here
      · exact inductionHypothesis later

theorem visited_invariant
    (preserved :
      ∀ state, ∀ item ∈ items, stop state = false → invariant state → invariant (step state item))
    (initially : invariant state)
    (isVisit : visit ∈ visited stop step items state) :
    visit.2 ∈ items ∧ invariant visit.1 := by
  induction items generalizing state with
  | nil => cases isVisit
  | cons item rest inductionHypothesis =>
    cases running : stop state with
    | true =>
      rw [visited_stopped running] at isVisit
      cases isVisit
    | false =>
      rw [visited_cons running] at isVisit
      rcases List.mem_cons.mp isVisit with rfl | later
      · exact ⟨List.mem_cons_self, initially⟩
      · have further := inductionHypothesis
            (fun next laterItem member =>
              preserved next laterItem (List.mem_cons_of_mem _ member))
            (preserved state item List.mem_cons_self running initially)
            later
        exact ⟨List.mem_cons_of_mem _ further.1, further.2⟩

theorem loop_log {Entry : Type} {log : State → List Entry} {entries : State → Item → List Entry}
    (writes : ∀ state item, log (step state item) = log state ++ entries state item)
    (items : List Item) (state : State) :
    log (loop stop step items state) = log state ++
        (visited stop step items state).flatMap fun visit =>
          entries visit.1 visit.2 := by
  induction items generalizing state with
  | nil => simp [visited]
  | cons item rest inductionHypothesis =>
    cases running : stop state with
    | true => simp [loop_stopped running, visited_stopped running]
    | false =>
      rw [loop_cons running, visited_cons running, inductionHypothesis,
        writes, List.flatMap_cons, List.append_assoc]

end Rules

end StoppingLoop
