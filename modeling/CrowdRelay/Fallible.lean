import Mathlib.Data.List.Basic

namespace Fallible

/-!
# Computations that may fail

A chain of computations succeeds when every one of them does, and a list of
them succeeds when each member does.
-/

variable {Failure Value Result : Type} {first : Except Failure Value}
  {next : Value → Except Failure Result} {result : Result}

theorem bind_eq_ok_iff :
    (first >>= next) = .ok result ↔ ∃ value, first = .ok value ∧ next value = .ok result := by
  cases first with
  | error failure =>
    constructor
    · intro impossible
      cases impossible
    · rintro ⟨value, impossible, _⟩
      cases impossible
  | ok value =>
    constructor
    · intro later
      exact ⟨value, rfl, later⟩
    · rintro ⟨_, same, later⟩
      cases same
      exact later

variable {value : Value}

theorem exists_bind_eq_ok (here : first = .ok value) (later : ∃ result, next value = .ok result) :
    ∃ result, (first >>= next) = .ok result := by
  obtain ⟨result, done⟩ := later
  exact ⟨result, bind_eq_ok_iff.mpr ⟨value, here, done⟩⟩

theorem exists_ok_iff {answer : Except Failure Value} :
    (∃ value, answer = .ok value) ↔ answer.toOption.isSome = true := by
  cases answer <;> simp [Except.toOption]

def results (compute : Value → Except Failure Result)
    (values : List Value) : List Result :=
  values.filterMap fun value => (compute value).toOption

variable {compute : Value → Except Failure Result} {values : List Value}

theorem mem_results_iff :
    result ∈ results compute values ↔ ∃ value ∈ values, compute value = .ok result := by
  unfold results
  rw [List.mem_filterMap]
  refine exists_congr fun value => and_congr_right fun _ => ?_
  cases compute value <;> simp [Except.toOption]

variable {computed : List Result}

theorem mapM_eq_ok_iff :
    values.mapM compute = .ok computed ↔
      (∀ value ∈ values, ∃ result, compute value = .ok result) ∧
        computed = results compute values := by
  induction values generalizing computed with
  | nil =>
    constructor
    · intro done
      cases done
      exact ⟨by simp, rfl⟩
    · rintro ⟨_, done⟩
      exact congrArg Except.ok done.symm
  | cons value rest inductionHypothesis =>
    rw [List.mapM_cons, bind_eq_ok_iff]
    constructor
    · rintro ⟨result, here, later⟩
      obtain ⟨others, restDone, whole⟩ := bind_eq_ok_iff.mp later
      obtain ⟨restComputes, restComputed⟩ := inductionHypothesis.mp restDone
      refine ⟨?_, ?_⟩
      · rintro other member
        rcases List.mem_cons.mp member with same | inRest
        · exact ⟨result, same ▸ here⟩
        · exact restComputes other inRest
      · cases whole
        simp [results, here, restComputed, Except.toOption]
    · rintro ⟨computes, whole⟩
      obtain ⟨result, here⟩ := computes value (List.mem_cons_self ..)
      refine ⟨result, here, bind_eq_ok_iff.mpr ⟨results compute rest, ?_, ?_⟩⟩
      · refine inductionHypothesis.mpr ⟨?_, rfl⟩
        intro other member
        exact computes other (List.mem_cons_of_mem _ member)
      · rw [whole]
        simp [results, here, Except.toOption]
        rfl

theorem results_perm (compute : Value → Except Failure Result)
    {values others : List Value} (same : values.Perm others) :
    (results compute values).Perm (results compute others) :=
  same.filterMap _

@[simp] theorem results_append (compute : Value → Except Failure Result)
    (before after : List Value) :
    results compute (before ++ after) = results compute before ++ results compute after :=
  List.filterMap_append ..

theorem results_cons_ok (computes : compute value = .ok result) (rest : List Value) :
    results compute (value :: rest) = result :: results compute rest := by
  simp [results, computes, Except.toOption]

theorem forall₂_of_mapM (done : values.mapM compute = .ok computed) :
    List.Forall₂ (fun value result => compute value = .ok result) values
      computed := by
  obtain ⟨computes, rfl⟩ := mapM_eq_ok_iff.mp done
  clear done
  induction values with
  | nil => exact List.Forall₂.nil
  | cons value rest inductionHypothesis =>
    obtain ⟨result, here⟩ := computes value List.mem_cons_self
    rw [results_cons_ok here]
    refine List.Forall₂.cons here (inductionHypothesis ?_)
    intro other member
    exact computes other (List.mem_cons_of_mem _ member)

end Fallible
