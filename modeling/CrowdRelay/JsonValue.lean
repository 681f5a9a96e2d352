namespace CrowdRelay

/-!
# JSON values

The documents the database keeps next to its typed columns, as far as the
code reads or extends them.
-/

inductive JsonValue where
  | null
  | bool (value : Bool)
  | number (value : Int)
  | string (value : String)
  | array (items : List JsonValue)
  | object (entries : List (String × JsonValue))

namespace JsonValue

/-- Insert one key into an object; anything that is no object stays as it is. -/
def insert (document : JsonValue) (key : String)
    (value : JsonValue) : JsonValue :=
  match document with
  | .object entries =>
    if entries.any fun entry => entry.1 = key then
      .object
        (entries.map fun entry =>
          if entry.1 = key then (key, value) else entry)
    else
      .object (entries ++ [(key, value)])
  | other => other

/-- The value under a key; nothing is found in what is no object. -/
def get? (key : String) : JsonValue → Option JsonValue
  | .object entries => (entries.find? fun entry => entry.1 = key).map Prod.snd
  | _ => none

variable {key other : String}

theorem find?_replaced_of_ne (differs : key ≠ other) (value : JsonValue)
    (entries : List (String × JsonValue)) :
    ((entries.map fun entry =>
          if entry.1 = key then (key, value) else entry).find? fun entry =>
        entry.1 = other).map Prod.snd =
      (entries.find? fun entry => entry.1 = other).map Prod.snd := by
  induction entries with
  | nil => rfl
  | cons entry rest inductionHypothesis =>
    rw [List.map_cons]
    by_cases here : entry.1 = key
    · simp only [here, if_true, List.find?_cons, differs, decide_false]
      exact inductionHypothesis
    · simp only [if_neg here, List.find?_cons]
      split
      · rfl
      · exact inductionHypothesis

theorem get?_insert_of_ne (differs : key ≠ other) (document value : JsonValue) :
    (document.insert key value).get? other = document.get? other := by
  cases document with
  | object entries =>
    simp only [insert]
    split
    · exact find?_replaced_of_ne differs value entries
    · simp only [get?, List.find?_append]
      cases entries.find? fun entry => entry.1 = other with
      | none => simp [differs]
      | some _ => rfl
  | _ => rfl

def asStr : JsonValue → Option String
  | .string value => some value
  | _ => none

end JsonValue

end CrowdRelay
