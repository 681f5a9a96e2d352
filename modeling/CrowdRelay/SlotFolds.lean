import Mathlib.Data.List.Perm.Basic

namespace SlotFolds

/-!
# Events sorted into slots

A fold that records each event in the slot it names, if it names one.  In the
end a slot has recorded the values of the events that name it, in their order,
and nothing else.
-/

variable {Event Value Slot : Type}

def place (locate : Event → Option (Nat × Value)) (record : Slot → Value → Slot) (slots : List Slot)
    (event : Event) : List Slot :=
  match locate event with
  | some (index, value) => slots.modify index fun slot => record slot value
  | none => slots

def valueAt (locate : Event → Option (Nat × Value)) (index : Nat)
    (event : Event) : Option Value :=
  match locate event with
  | some (target, value) => if target = index then some value else none
  | none => none

variable {locate : Event → Option (Nat × Value)} {record : Slot → Value → Slot}

theorem getElem?_place (slots : List Slot) (event : Event) (index : Nat) :
    (place locate record slots event)[index]? = slots[index]?.map fun slot =>
        (valueAt locate index event).elim slot (record slot) := by
  rw [place, valueAt]
  cases locate event with
  | none => simp
  | some located =>
    obtain ⟨target, value⟩ := located
    by_cases here : target = index
    · simp [here]
    · simp [here, List.getElem?_modify_ne]

theorem getElem?_foldl_place (events : List Event) (slots : List Slot) (index : Nat) :
    (events.foldl (place locate record) slots)[index]? = slots[index]?.map fun slot =>
        (events.filterMap (valueAt locate index)).foldl record slot := by
  induction events generalizing slots with
  | nil => simp
  | cons event rest inductionHypothesis =>
    rw [List.foldl_cons, inductionHypothesis, getElem?_place, Option.map_map]
    cases value : valueAt locate index event with
    | none =>
      rw [List.filterMap_cons_none value]
      rfl
    | some recorded =>
      rw [List.filterMap_cons_some value]
      rfl

theorem length_foldl_place (events : List Event) (slots : List Slot) :
    (events.foldl (place locate record) slots).length = slots.length := by
  induction events generalizing slots with
  | nil => rfl
  | cons event rest inductionHypothesis =>
    rw [List.foldl_cons, inductionHypothesis, place]
    cases locate event with
    | none => rfl
    | some located => exact List.length_modify _ _ _

end SlotFolds
