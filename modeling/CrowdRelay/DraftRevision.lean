import Mathlib.Data.String.Basic
import CrowdRelay.OrderedMaps
import CrowdRelay.TextScan

namespace CrowdRelay

open OrderedMaps TextScan

/-!
# The revision of a draft

An operator may change the words of a draft that a human reads, and nothing
else.  The fields they may change are shown with their texts; a revision is
reviewed against these and written back to wherever the field stands.
-/

/-- A JSON document.  Its numbers are left open, since nothing reads them. -/
inductive Document (Number : Type) where
  | null
  | bool (value : Bool)
  | number (value : Number)
  | string (text : List Char)
  | array (items : List (Document Number))
  | object (entries : List (String × Document Number))

namespace Document

variable {Number : Type}

def asObject : Document Number → Option (List (String × Document Number))
  | .object entries => some entries
  | _ => none

def asText : Document Number → Option (List Char)
  | .string text => some text
  | _ => none

/-- The value under a key; there is none in what is no object. -/
def get? (document : Document Number) (key : String) : Option (Document Number) :=
  document.asObject.bind (lookup key)

/-- The value at the end of a path of keys. -/
def at? : List String → Document Number → Option (Document Number)
  | [], document => some document
  | key :: rest, document => (document.get? key).bind (at? rest)

def keys? (document : Document Number) : Option (List String) :=
  document.asObject.map fun entries => entries.map Prod.fst

end Document

abbrev FieldTexts := OrderedMap String (List Char)

inductive RevisionRefusal where
  | fieldNotRevisable (field : String)
  | fieldEmptied (field : String)
  | fieldTooLong (field : String) (limit : Nat)
  | noChange
  deriving Repr, DecidableEq

def revisionAbsoluteLimit : Nat := 4000
def revisionGrowthMultiple : Nat := 3
def revisionShortDraftFloor : Nat := 280

def limitFor (original : List Char) : Nat :=
  max revisionShortDraftFloor (min revisionAbsoluteLimit (original.length * revisionGrowthMultiple))

def reviewFields (allowed : List String) (draft : FieldTexts) :
    List (String × List Char) → FieldTexts → Except RevisionRefusal FieldTexts
  | [], changed => if changed.entries.isEmpty then .error .noChange else .ok changed
  | (field, proposed) :: rest, changed =>
    if field ∉ allowed then
      .error (.fieldNotRevisable field)
    else
      match draft.get? field with
      | none => .error (.fieldNotRevisable field)
      | some original =>
        if (trim proposed).isEmpty then
          .error (.fieldEmptied field)
        else if limitFor original < (trim proposed).length then
          .error (.fieldTooLong field (limitFor original))
        else if trim proposed ≠ trim original then
          reviewFields allowed draft rest (changed.insert field (trim proposed))
        else
          reviewFields allowed draft rest changed

def reviewRevisionFields (allowed : List String)
    (draft revision : FieldTexts) : Except RevisionRefusal FieldTexts :=
  reviewFields allowed draft revision.entries ∅

variable {Number : Type}

def collectFields (allowed : List String) (fields : FieldTexts) :
    Option (List (String × Document Number)) → FieldTexts
  | none => fields
  | some object =>
    allowed.foldl
      (fun fields field =>
        match (lookup field object).bind Document.asText with
        | some text => fields.insert field text
        | none => fields)
      fields

def revisableFieldsIn (allowed : List String)
    (payload : Document Number) : FieldTexts :=
  collectFields allowed (collectFields allowed ∅ payload.asObject)
    ((payload.get? "draft").bind Document.asObject)

/-- Writes one changed field where it stands as a text. -/
def applyField (object : List (String × Document Number))
    (entry : String × List Char) : List (String × Document Number) :=
  match lookup entry.1 object with
  | some (.string _) => replace entry.1 (.string entry.2) object
  | _ => object

def applyTo (changed : FieldTexts) (object : List (String × Document Number)) :
    List (String × Document Number) :=
  changed.entries.foldl applyField object

def applyRevision (payload : Document Number)
    (changed : FieldTexts) : Document Number :=
  match payload with
  | .object object =>
    let applied := applyTo changed object
    match lookup "draft" applied with
    | some (.object draft) =>
      .object (replace "draft" (.object (applyTo changed draft)) applied)
    | _ => .object applied
  | other => other

/-! ## What is promised -/

/-- The two places of a field. -/
def StandsAt (field : String) (path : List String) : Prop :=
  path = [field] ∨ path = ["draft", field]

/-- A text that stands under a changed field. -/
def Reviewed (changed : FieldTexts) (path : List String)
    (value : Document Number) : Prop :=
  (∃ field, (changed.get? field).isSome = true ∧ StandsAt field path) ∧ ∃ text, value = .string text

/-- A revision changes the words that were reviewed, and nothing else. -/
structure KeepsToReview
    (allowed : List String)
    (payload : Document Number)
    (changed : FieldTexts) : Prop where
  /-- No key is added or removed anywhere. -/
  sameKeys :
    ∀ path,
      ((applyRevision payload changed).at? path).map Document.keys? =
        (payload.at? path).map Document.keys?
  /-- What is no reviewed text stays.  The payload and its draft, where they
  are objects, are what their keys and values are. -/
  keepsOther :
    ∀ path value,
      payload.at? path = some value →
      ¬ Reviewed changed path value →
      ¬ ((path = [] ∨ path = ["draft"]) ∧ value.asObject.isSome = true) →
        (applyRevision payload changed).at? path = some value
  fieldsAfter :
    revisableFieldsIn allowed (applyRevision payload changed) =
      (revisableFieldsIn allowed payload).override changed
  idempotent :
    applyRevision (applyRevision payload changed) changed =
      applyRevision payload changed
  /-- A text that is overwritten was shown, up to the whitespace around it. -/
  wasShown :
    ∀ field path text,
      (changed.get? field).isSome = true →
      StandsAt field path →
      payload.at? path = some (.string text) →
        ∃ seen,
          (revisableFieldsIn allowed payload).get? field = some seen ∧
            trim text = trim seen

/-! ## The fields that are shown -/

variable {allowed : List String}

/-- The text of a field on the first level, and inside the draft. -/
def topText (payload : Document Number) (field : String) : Option (List Char) :=
  (payload.at? [field]).bind Document.asText

def nestedText (payload : Document Number) (field : String) : Option (List Char) :=
  (payload.at? ["draft", field]).bind Document.asText

theorem get?_collectFields_foldl (object : List (String × Document Number)) (field : String) :
    ∀ (names : List String) (fields : FieldTexts),
      (names.foldl
          (fun fields field =>
            match (lookup field object).bind Document.asText with
            | some text => fields.insert field text
            | none => fields)
          fields).get? field =
        if field ∈ names then
          ((lookup field object).bind Document.asText).or (fields.get? field)
        else
          fields.get? field
  | [], fields => by simp
  | name :: rest, fields => by
      rw [List.foldl_cons, get?_collectFields_foldl object field rest]
      by_cases isName : field = name
      · subst isName
        cases found : (lookup field object).bind Document.asText with
        | none => simp
        | some text => simp
      · cases found : (lookup name object).bind Document.asText with
        | none => simp [isName]
        | some text => simp [isName]

theorem get?_collectFields (fields : FieldTexts)
    (object : Option (List (String × Document Number))) (field : String) :
    (collectFields allowed fields object).get? field =
      if field ∈ allowed then
        ((object.bind (lookup field)).bind Document.asText).or (fields.get? field)
      else
        fields.get? field := by
  cases object with
  | none => simp [collectFields]
  | some entries => exact get?_collectFields_foldl entries field allowed fields

/-- A field is shown with its text inside the draft, or else on the first
level. -/
theorem get?_revisableFieldsIn (payload : Document Number) (field : String) :
    (revisableFieldsIn allowed payload).get? field =
      if field ∈ allowed then
        (nestedText payload field).or (topText payload field)
      else
        none := by
  have top :
      (payload.asObject.bind (lookup field)).bind Document.asText = topText payload field := by
    simp [topText, Document.at?, Document.get?]
  have nested :
      (((payload.get? "draft").bind Document.asObject).bind (lookup field)).bind Document.asText =
        nestedText payload field := by
    simp only [nestedText, Document.at?, Document.get?, Option.bind_assoc]
    simp
  rw [revisableFieldsIn, get?_collectFields, get?_collectFields, top, nested]
  by_cases isAllowed : field ∈ allowed
  · simp [isAllowed]
  · simp [isAllowed]

/-- What is accepted as changed was shown. -/
theorem shown_of_reviewFields {draft : FieldTexts} :
    ∀ {revision : List (String × List Char)} {sofar changed : FieldTexts},
      reviewFields allowed draft revision sofar = .ok changed →
      (∀ field, (sofar.get? field).isSome = true → (draft.get? field).isSome = true) →
      ∀ field, (changed.get? field).isSome = true → (draft.get? field).isSome = true
  | [], sofar, changed, accepted, shown => by
      rw [reviewFields] at accepted
      split at accepted
      · cases accepted
      · cases accepted
        exact shown
  | (field, proposed) :: rest, sofar, changed, accepted, shown => by
      rw [reviewFields] at accepted
      split at accepted
      · cases accepted
      · split at accepted
        · cases accepted
        · rename_i original isShown
          split at accepted
          · cases accepted
          · split at accepted
            · cases accepted
            · split at accepted
              · refine shown_of_reviewFields accepted fun other => ?_
                rw [OrderedMap.get?_insert]
                split
                · rename_i isField
                  rw [isField, isShown]
                  exact fun _ => rfl
                · exact shown other
              · exact shown_of_reviewFields accepted shown

/-!
## The write-back of a revision

What a revision writes on the two levels of a payload, and that it keeps to the
words that were reviewed unless a changed field has a text on either level and
the two differ.
-/

/-! ## The write-back on one level -/

/-- What is found under a key once a new text, if any, is written there. -/
def rewritten (newText : Option (List Char)) :
    Option (Document Number) → Option (Document Number)
  | some (.string text) => some (.string (newText.getD text))
  | found => found

theorem rewritten_none (found : Option (Document Number)) : rewritten none found = found := by
  cases found with
  | none => rfl
  | some value => cases value <;> rfl

theorem lookup_applyField (object : List (String × Document Number))
    (entry : String × List Char) (key : String) :
    lookup key (applyField object entry) =
      rewritten (if entry.1 = key then some entry.2 else none) (lookup key object) := by
  unfold applyField
  by_cases here : entry.1 = key
  · subst here
    rw [if_pos rfl]
    split
    · rename_i text found
      rw [lookup_replace, if_pos rfl, found]
      rfl
    · rename_i noText
      cases found : lookup entry.1 object with
      | none => rfl
      | some value =>
        cases value with
        | string text => exact absurd found (noText text)
        | _ => rfl
  · rw [if_neg here, rewritten_none]
    split
    · rw [lookup_replace, if_neg (Ne.symm here)]
    · rfl

theorem rewritten_rewritten (first second : Option (List Char)) (found : Option (Document Number)) :
    rewritten second (rewritten first found) = rewritten (second.or first) found := by
  cases found with
  | none => rfl
  | some value =>
    cases value with
    | string text => cases second <;> rfl
    | _ => rfl

theorem lookup_foldl_applyField (key : String) :
    ∀ (entries : List (String × List Char)) (object : List (String × Document Number)),
      entries.Pairwise (fun one other => one.1 < other.1) →
        lookup key (entries.foldl applyField object) =
          rewritten (lookup key entries) (lookup key object)
  | [], object, _ => (rewritten_none _).symm
  | entry :: rest, object, increasing => by
      obtain ⟨before, restIncreasing⟩ := List.pairwise_cons.mp increasing
      rw [List.foldl_cons, lookup_foldl_applyField key rest _ restIncreasing,
        lookup_applyField, rewritten_rewritten, lookup_cons]
      by_cases here : entry.1 = key
      · have notLater : lookup key rest = none := by
          refine lookup_eq_none fun other isLater => ?_
          exact here ▸ ne_of_gt (before other isLater)
        rw [notLater, if_pos here]
        rfl
      · rw [if_neg here, if_neg here, Option.or_none]

theorem lookup_applyTo (changed : FieldTexts) (object : List (String × Document Number))
    (key : String) :
    lookup key (applyTo changed object) = rewritten (changed.get? key) (lookup key object) :=
  lookup_foldl_applyField key changed.entries object changed.increasing

theorem keys_applyTo (changed : FieldTexts) (object : List (String × Document Number)) :
    (applyTo changed object).map Prod.fst = object.map Prod.fst := by
  unfold applyTo
  induction changed.entries generalizing object with
  | nil => rfl
  | cons entry rest inductionHypothesis =>
    rw [List.foldl_cons, inductionHypothesis]
    unfold applyField
    split
    · exact keys_replace entry.1 _ object
    · rfl

theorem applyTo_of_written {changed : FieldTexts} {object : List (String × Document Number)}
    (written :
      ∀ entry ∈ changed.entries,
        ∀ text, lookup entry.1 object = some (.string text) → text = entry.2) :
    applyTo changed object = object := by
  unfold applyTo
  revert written
  induction changed.entries with
  | nil => exact fun _ => rfl
  | cons entry rest inductionHypothesis =>
    intro written
    have nothing : applyField object entry = object := by
      unfold applyField
      split
      · rename_i text found
        have same := written entry List.mem_cons_self text found
        rw [same] at found
        exact replace_of_lookup found
      · rfl
    rw [List.foldl_cons, nothing]
    exact inductionHypothesis fun other isLater =>
      written other (List.mem_cons_of_mem _ isLater)

theorem applyTo_applyTo (changed : FieldTexts) (object : List (String × Document Number)) :
    applyTo changed (applyTo changed object) = applyTo changed object := by
  refine applyTo_of_written fun entry isEntry text found => ?_
  rw [lookup_applyTo, changed.mem_entries_iff.mp isEntry] at found
  cases before : lookup entry.1 object with
  | none =>
    rw [before] at found
    cases found
  | some value =>
    rw [before] at found
    cases value with
    | string _ =>
      cases found
      rfl
    | _ => cases found

/-! ## The write-back of a payload -/

section Payload

open Document

/-- A draft inside a payload is written like the payload's first level. -/
def nestInto (changed : FieldTexts) : Document Number → Document Number
  | .object draft => .object (applyTo changed draft)
  | other => other

variable (changed : FieldTexts) (payload : Document Number)

theorem applyRevision_object (object : List (String × Document Number)) :
    ∃ entries,
      applyRevision (.object object) changed = .object entries ∧
        entries.map Prod.fst = object.map Prod.fst ∧
        ∀ key,
          lookup key entries = (rewritten (changed.get? key) (lookup key object)).map fun value =>
              if key = "draft" then nestInto changed value else value := by
  have inner :
      ∀ value : Document Number,
        (∀ draft, value ≠ .object draft) → nestInto changed value = value := by
    intro value noObject
    cases value with
    | object draft => exact absurd rfl (noObject draft)
    | _ => rfl
  unfold applyRevision
  dsimp only
  split
  · rename_i draft found
    refine ⟨_, rfl, ?_, fun key => ?_⟩
    · rw [keys_replace, keys_applyTo]
    · rw [lookup_replace, ← lookup_applyTo]
      by_cases isDraft : key = "draft"
      · subst isDraft
        simp [found, nestInto]
      · simp [isDraft]
  · rename_i noDraft
    refine ⟨_, rfl, keys_applyTo changed object, fun key => ?_⟩
    rw [← lookup_applyTo]
    by_cases isDraft : key = "draft"
    · subst isDraft
      cases found : lookup "draft" (applyTo changed object) with
      | none => rfl
      | some value =>
        have same := inner value fun draft isObject =>
          noDraft draft (isObject ▸ found)
        simp [same]
    · simp [isDraft]

theorem keys?_applyRevision : (applyRevision payload changed).keys? = payload.keys? := by
  cases payload with
  | object object =>
    obtain ⟨entries, isApplied, sameKeys, _⟩ := applyRevision_object changed object
    rw [isApplied]
    exact congrArg some sameKeys
  | _ => rfl

theorem get?_applyRevision (key : String) :
    (applyRevision payload changed).get? key =
      (rewritten (changed.get? key) (payload.get? key)).map fun value =>
        if key = "draft" then nestInto changed value else value := by
  cases payload with
  | object object =>
    obtain ⟨entries, isApplied, _, lookups⟩ := applyRevision_object changed object
    rw [isApplied]
    exact lookups key
  | _ => rfl

theorem keys?_nestInto (value : Document Number) :
    (nestInto changed value).keys? = value.keys? := by
  cases value with
  | object draft => exact congrArg some (keys_applyTo changed draft)
  | _ => rfl

theorem get?_nestInto (value : Document Number) (key : String) :
    (nestInto changed value).get? key = rewritten (changed.get? key) (value.get? key) := by
  cases value with
  | object draft => exact lookup_applyTo changed draft key
  | _ => rfl

variable {changed payload}

theorem at?_string {path : List String} {text : List Char} {value : Document Number}
    (isThere : (Document.string text).at? path = some value) :
    path = [] ∧ value = .string text := by
  cases path with
  | nil =>
    cases isThere
    exact ⟨rfl, rfl⟩
  | cons key rest => cases isThere

theorem keys?_at?_rewritten (newText : Option (List Char))
    (found : Option (Document Number)) (path : List String) :
    ((rewritten newText found).bind (at? path)).map keys? = (found.bind (at? path)).map keys? := by
  cases found with
  | none => rfl
  | some value =>
    cases value with
    | string text => cases path <;> rfl
    | _ => rfl

theorem keys?_at?_nestInto (value : Document Number) (path : List String) :
    ((nestInto changed value).at? path).map keys? = (value.at? path).map keys? := by
  cases path with
  | nil => exact congrArg some (keys?_nestInto changed value)
  | cons key rest => rw [at?, at?, get?_nestInto, keys?_at?_rewritten]

theorem keys?_at?_applyRevision (path : List String) :
    ((applyRevision payload changed).at? path).map keys? = (payload.at? path).map keys? := by
  cases path with
  | nil => exact congrArg some (keys?_applyRevision changed payload)
  | cons key rest =>
    rw [at?, at?, get?_applyRevision, ← keys?_at?_rewritten (changed.get? key) (payload.get? key)]
    cases rewritten (changed.get? key) (payload.get? key) with
    | none => rfl
    | some value =>
      by_cases isDraft : key = "draft"
      · simp only [isDraft, if_true, Option.map_some, Option.bind_some]
        exact keys?_at?_nestInto value rest
      · simp only [isDraft, if_false, Option.map_some, Option.bind_some]

theorem rewritten_eq_self {newText : Option (List Char)} {found : Option (Document Number)}
    (unwritten : newText.isSome = true → ∀ text, found ≠ some (.string text)) :
    rewritten newText found = found := by
  cases newText with
  | none => exact rewritten_none found
  | some text =>
    cases found with
    | none => rfl
    | some value =>
      cases value with
      | string old => exact absurd rfl (unwritten rfl old)
      | _ => rfl

theorem nestInto_eq_self {value : Document Number} (noObject : ¬ value.asObject.isSome = true) :
    nestInto changed value = value := by
  cases value with
  | object draft => exact absurd rfl noObject
  | _ => rfl

/-- What is no reviewed text stays as it is. -/
theorem at?_applyRevision {path : List String} {value : Document Number}
    (isThere : payload.at? path = some value) (unreviewed : ¬ Reviewed changed path value)
    (noLevel : ¬ ((path = [] ∨ path = ["draft"]) ∧ value.asObject.isSome = true)) :
    (applyRevision payload changed).at? path = some value := by
  match path with
  | [] =>
    cases isThere
    cases payload with
    | object object => exact absurd ⟨Or.inl rfl, rfl⟩ noLevel
    | _ => rfl
  | [key] =>
    have found : payload.get? key = some value := by
      simpa [at?] using isThere
    have same : rewritten (changed.get? key) (payload.get? key) = some value := by
      rw [rewritten_eq_self, found]
      intro isChanged text isText
      rw [found] at isText
      exact unreviewed ⟨⟨key, isChanged, Or.inl rfl⟩, text, Option.some.inj isText⟩
    have stays : (if key = "draft" then nestInto changed value else value) = value := by
      split
      · rename_i isDraft
        exact nestInto_eq_self fun isObject =>
          noLevel ⟨Or.inr (by rw [isDraft]), isObject⟩
      · rfl
    simp [at?, get?_applyRevision, same, stays]
  | key :: inner :: rest =>
    obtain ⟨outer, found, beneath⟩ := Option.bind_eq_some_iff.mp isThere
    have same : rewritten (changed.get? key) (payload.get? key) = some outer := by
      rw [rewritten_eq_self, found]
      intro _ text isText
      rw [found] at isText
      cases isText
      cases (at?_string beneath).1
    rw [at?, get?_applyRevision, same, Option.map_some, Option.bind_some]
    by_cases isDraft : key = "draft"
    · obtain ⟨middle, foundInner, deeper⟩ := Option.bind_eq_some_iff.mp beneath
      have sameInner : rewritten (changed.get? inner) (outer.get? inner) = some middle := by
        rw [rewritten_eq_self, foundInner]
        intro isChanged text isText
        rw [foundInner] at isText
        cases isText
        obtain ⟨rfl, isText⟩ := at?_string deeper
        exact unreviewed ⟨⟨inner, isChanged, Or.inr (by rw [isDraft])⟩, text, isText⟩
      rw [if_pos isDraft, at?, get?_nestInto, sameInner, Option.bind_some]
      exact deeper
    · rw [if_neg isDraft]
      exact beneath

theorem asText_rewritten (newText : Option (List Char)) (found : Option (Document Number)) :
    (rewritten newText found).bind asText =
      (found.bind asText).map fun text => newText.getD text := by
  cases found with
  | none => rfl
  | some value => cases value <;> rfl

theorem asText_nestInto (value : Document Number) :
    (nestInto changed value).asText = value.asText := by
  cases value <;> rfl

theorem topText_applyRevision (field : String) :
    topText (applyRevision payload changed) field = (topText payload field).map fun text =>
        (changed.get? field).getD text := by
  have levels :
      ∀ document : Document Number, topText document field = (document.get? field).bind asText := by
    intro document
    simp [topText, at?]
  rw [levels, levels, get?_applyRevision, ← asText_rewritten]
  cases rewritten (changed.get? field) (payload.get? field) with
  | none => rfl
  | some value =>
    rw [Option.map_some, Option.bind_some, Option.bind_some]
    split
    · exact asText_nestInto value
    · rfl

theorem nestedText_applyRevision (field : String) :
    nestedText (applyRevision payload changed) field = (nestedText payload field).map fun text =>
        (changed.get? field).getD text := by
  have levels :
      ∀ document : Document Number,
        nestedText document field = (document.get? "draft").bind fun draft =>
            (draft.get? field).bind asText := by
    intro document
    simp [nestedText, at?, Option.bind_assoc]
  rw [levels, levels, get?_applyRevision]
  cases payload.get? "draft" with
  | none => rfl
  | some value =>
    cases value with
    | object draft =>
      exact (congrArg (·.bind asText)
        (get?_nestInto changed (.object draft) field)).trans (asText_rewritten _ _)
    | _ => rfl

theorem revisableFieldsIn_applyRevision {allowed : List String}
    (shown :
      ∀ field, (changed.get? field).isSome = true →
        ((revisableFieldsIn allowed payload).get? field).isSome = true) :
    revisableFieldsIn allowed (applyRevision payload changed) =
      (revisableFieldsIn allowed payload).override changed := by
  refine OrderedMap.ext_get? fun field => ?_
  have wasShown := shown field
  rw [OrderedMap.get?_override]
  rw [get?_revisableFieldsIn] at wasShown ⊢
  rw [get?_revisableFieldsIn, topText_applyRevision, nestedText_applyRevision]
  cases isChanged : changed.get? field with
  | none => simp
  | some newText =>
    have isShown := wasShown (by rw [isChanged]; rfl)
    by_cases isAllowed : field ∈ allowed
    · rw [if_pos isAllowed] at isShown ⊢
      cases inner : nestedText payload field with
      | some text => rfl
      | none =>
        rw [inner, Option.none_or] at isShown
        obtain ⟨text, top⟩ := Option.isSome_iff_exists.mp isShown
        rw [top]
        rfl
    · rw [if_neg isAllowed] at isShown
      cases isShown

theorem applyRevision_of_written {object : List (String × Document Number)}
    (firstLevel : applyTo changed object = object)
    (inDraft :
      ∀ draft, lookup "draft" object = some (.object draft) → applyTo changed draft = draft) :
    applyRevision (.object object) changed = .object object := by
  unfold applyRevision
  dsimp only
  rw [firstLevel]
  split
  · rename_i draft found
    rw [inDraft draft found, replace_of_lookup found]
  · rfl

theorem applyRevision_applyRevision :
    applyRevision (applyRevision payload changed) changed = applyRevision payload changed := by
  cases payload with
  | object object =>
    obtain ⟨entries, isApplied, _, lookups⟩ := applyRevision_object changed object
    rw [isApplied]
    refine applyRevision_of_written ?_ ?_
    · refine applyTo_of_written fun entry isEntry text found => ?_
      rw [lookups, changed.mem_entries_iff.mp isEntry] at found
      obtain ⟨value, isWritten, isText⟩ := Option.map_eq_some_iff.mp found
      have textThere : value.asText = some text := by
        split at isText
        · rw [← @asText_nestInto Number changed value, isText]
          rfl
        · rw [isText]
          rfl
      have written := asText_rewritten (some entry.2) (lookup entry.1 object)
      rw [isWritten, Option.bind_some, textThere] at written
      obtain ⟨_, _, same⟩ := Option.map_eq_some_iff.mp written.symm
      exact same.symm
    · intro draft found
      rw [lookups] at found
      obtain ⟨value, _, isDraft⟩ := Option.map_eq_some_iff.mp found
      rw [if_pos rfl] at isDraft
      cases value with
      | object before =>
        cases isDraft
        exact applyTo_applyTo changed before
      | _ => cases isDraft
  | _ => rfl

end Payload

/-! ## What is overwritten was shown -/

section Words

variable {payload : Document Number} {changed : FieldTexts}

/-- Every changed field that stands as a text on both levels has one text. -/
def OneText (payload : Document Number) (changed : FieldTexts) : Prop :=
  ∀ field top nested,
    (changed.get? field).isSome = true →
    payload.at? [field] = some (.string top) →
    payload.at? ["draft", field] = some (.string nested) → trim top = trim nested

theorem asText_eq_some_iff {value : Option (Document Number)} {text : List Char} :
    value.bind Document.asText = some text ↔ value = some (.string text) := by
  cases value with
  | none => simp
  | some document => cases document <;> simp [Document.asText]

theorem topText_eq_some_iff {field : String} {text : List Char} :
    topText payload field = some text ↔ payload.at? [field] = some (.string text) :=
  asText_eq_some_iff

theorem nestedText_eq_some_iff {field : String} {text : List Char} :
    nestedText payload field = some text ↔ payload.at? ["draft", field] = some (.string text) :=
  asText_eq_some_iff

/-- A revision keeps to what was reviewed exactly when no changed field has
two texts. -/
theorem keepsToReview_iff
    (allowed : List String)
    (payload : Document Number)
    (revision changed : FieldTexts)
    (accepted :
      reviewRevisionFields allowed (revisableFieldsIn allowed payload)
          revision =
        .ok changed) :
    KeepsToReview allowed payload changed ↔ OneText payload changed := by
  have shown :
      ∀ field, (changed.get? field).isSome = true →
        ((revisableFieldsIn allowed payload).get? field).isSome = true :=
    shown_of_reviewFields accepted fun _ nothing => by
      rw [OrderedMap.get?_empty] at nothing
      cases nothing
  have isAllowed :
      ∀ field, (changed.get? field).isSome = true → field ∈ allowed := by
    intro field isChanged
    have isShown := shown field isChanged
    rw [get?_revisableFieldsIn] at isShown
    by_contra forbidden
    rw [if_neg forbidden] at isShown
    cases isShown
  constructor
  · intro keeps field top nested isChanged onTop inDraft
    obtain ⟨seen, isSeen, same⟩ := keeps.wasShown field [field] top isChanged (Or.inl rfl) onTop
    rw [get?_revisableFieldsIn, if_pos (isAllowed field isChanged),
      nestedText_eq_some_iff.mpr inDraft] at isSeen
    cases isSeen
    exact same
  · intro oneText
    refine
      { sameKeys := keys?_at?_applyRevision
        keepsOther := fun path value => at?_applyRevision
        fieldsAfter := revisableFieldsIn_applyRevision shown
        idempotent := applyRevision_applyRevision
        wasShown := ?_ }
    rintro field path text isChanged (rfl | rfl) isThere
    · rw [get?_revisableFieldsIn, if_pos (isAllowed field isChanged),
        topText_eq_some_iff.mpr isThere]
      cases inner : nestedText payload field with
      | none => exact ⟨text, rfl, rfl⟩
      | some nested =>
        exact ⟨nested, rfl, oneText field text nested isChanged isThere
          (nestedText_eq_some_iff.mp inner)⟩
    · rw [get?_revisableFieldsIn, if_pos (isAllowed field isChanged),
        nestedText_eq_some_iff.mpr isThere]
      exact ⟨text, rfl, rfl⟩

def oneField (field : String) (text : List Char) : FieldTexts :=
  ⟨[(field, text)], List.pairwise_singleton _ _⟩

/-- A draft that has its title on the first level and its body inside. -/
def titledDraft : Document Nat :=
  .object [("title", .string ['O', 'l', 'd']), ("draft", .object [("body", .string ['h', 'i'])])]

theorem keepsToReview_titledDraft :
    reviewRevisionFields ["title", "body"]
        (revisableFieldsIn ["title", "body"] titledDraft)
        (oneField "body" ['h', 'e', 'y', ' ']) =
      .ok (oneField "body" ['h', 'e', 'y']) ∧
    KeepsToReview ["title", "body"] titledDraft
      (oneField "body" ['h', 'e', 'y']) := by
  have accepted :
      reviewRevisionFields ["title", "body"]
          (revisableFieldsIn ["title", "body"] titledDraft)
          (oneField "body" ['h', 'e', 'y', ' ']) =
        .ok (oneField "body" ['h', 'e', 'y']) := by
    rfl
  refine ⟨accepted, (keepsToReview_iff _ _ _ _ accepted).mpr ?_⟩
  intro field top nested isChanged onTop _
  by_cases isBody : "body" = field
  · subst isBody
    cases onTop
  · have unchanged : (oneField "body" ['h', 'e', 'y']).get? field = none :=
      lookup_eq_none fun entry isEntry => by
        rw [List.mem_singleton.mp isEntry]
        exact isBody
    rw [unchanged] at isChanged
    cases isChanged

/-- A draft with one body on the first level and another one inside. -/
def twoBodies : Document Nat :=
  .object
    [("body", .string ['o', 'n', 'e']), ("draft", .object [("body", .string ['t', 'w', 'o'])])]

/-- The body inside is shown and reviewed, and the other one overwritten. -/
theorem twoBodies_overwritten :
    ¬ ∀ (allowed : List String) (payload : Document Nat)
        (revision changed : FieldTexts),
      "draft" ∉ allowed →
      reviewRevisionFields allowed (revisableFieldsIn allowed payload)
          revision =
        .ok changed →
        KeepsToReview allowed payload changed := by
  intro always
  have keeps := always ["body"] twoBodies (oneField "body" ['n', 'e', 'w'])
      (oneField "body" ['n', 'e', 'w']) (by decide) rfl
  obtain ⟨seen, isSeen, same⟩ := keeps.wasShown "body" ["body"] ['o', 'n', 'e'] rfl (Or.inl rfl) rfl
  cases isSeen
  exact absurd same (by decide)

end Words

end CrowdRelay
