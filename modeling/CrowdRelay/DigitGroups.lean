import Mathlib.Data.List.Basic

namespace DigitGroups

/-!
# Texts in groups of three

A text cut into groups of three from its end on, and put together again with a
separator between them.  The first group is the one that may be shorter.
-/

variable {Letter : Type}

def threes : List Letter → List (List Letter)
  | [] => []
  | [first] => [[first]]
  | [first, second] => [[first, second]]
  | first :: second :: third :: rest => [first, second, third] :: threes rest

def headLength (text : List Letter) : Nat := (text.length - 1) % 3 + 1

def groupsOf (text : List Letter) : List (List Letter) :=
  text.take (headLength text) :: threes (text.drop (headLength text))

variable {text group : List Letter} {groups : List (List Letter)}

theorem flatten_threes (text : List Letter) : (threes text).flatten = text := by
  induction text using threes.induct with
  | case1 | case2 | case3 => rfl
  | case4 first second third rest inductionHypothesis =>
    rw [threes, List.flatten_cons, inductionHypothesis]
    rfl

theorem length_of_mem_threes (whole : 3 ∣ text.length) (isGroup : group ∈ threes text) :
    group.length = 3 := by
  induction text using threes.induct with
  | case1 => cases isGroup
  | case2 first => simp at whole
  | case3 first second => simp at whole
  | case4 first second third rest inductionHypothesis =>
    rcases List.mem_cons.mp isGroup with rfl | isLater
    · rfl
    · apply inductionHypothesis _ isLater
      simp only [List.length_cons] at whole
      omega

theorem flatten_groupsOf (text : List Letter) : (groupsOf text).flatten = text := by
  rw [groupsOf, List.flatten_cons, flatten_threes, List.take_append_drop]

theorem length_head_le (text : List Letter) : (text.take (headLength text)).length ≤ 3 := by
  rw [List.length_take, headLength]
  omega

theorem head_ne_nil (nonempty : text ≠ []) : text.take (headLength text) ≠ [] := by
  rw [Ne, List.take_eq_nil_iff, not_or]
  exact ⟨Nat.succ_ne_zero _, nonempty⟩

theorem length_of_mem_tail (nonempty : text ≠ [])
    (isGroup : group ∈ threes (text.drop (headLength text))) :
    group.length = 3 := by
  have length := List.length_pos_iff.mpr nonempty
  apply length_of_mem_threes _ isGroup
  rw [List.length_drop, headLength]
  omega

theorem groupsOf_of_length_le (nonempty : text ≠ []) (short : text.length ≤ 3) :
    groupsOf text = [text] := by
  have length := List.length_pos_iff.mpr nonempty
  have isHead : headLength text = text.length := by
    rw [headLength]
    omega
  rw [groupsOf, isHead, List.take_length, List.drop_length]
  rfl

theorem ne_nil_of_mem_groupsOf (nonempty : text ≠ []) (isGroup : group ∈ groupsOf text) :
    group ≠ [] := by
  rcases List.mem_cons.mp isGroup with rfl | isLater
  · exact head_ne_nil nonempty
  · have length := length_of_mem_tail nonempty isLater
    rintro rfl
    cases length

theorem mem_of_mem_groupsOf {letter : Letter} (isGroup : group ∈ groupsOf text)
    (isLetter : letter ∈ group) :
    letter ∈ text := by
  rw [← flatten_groupsOf text]
  exact List.mem_flatten.mpr ⟨group, isGroup, isLetter⟩

theorem mem_intercalate {letter separator : Letter}
    (isLetter : letter ∈ [separator].intercalate groups) :
    letter = separator ∨ ∃ group ∈ groups, letter ∈ group := by
  induction groups with
  | nil => cases isLetter
  | cons first rest inductionHypothesis =>
    cases rest with
    | nil =>
      rw [List.intercalate_singleton] at isLetter
      exact Or.inr ⟨first, List.mem_cons_self, isLetter⟩
    | cons second others =>
      rw [List.intercalate_cons_cons, List.append_assoc,
        List.mem_append, List.singleton_append, List.mem_cons] at isLetter
      rcases isLetter with inFirst | rfl | inRest
      · exact Or.inr ⟨first, List.mem_cons_self, inFirst⟩
      · exact Or.inl rfl
      · refine (inductionHypothesis inRest).imp_right ?_
        rintro ⟨group, isGroup, inGroup⟩
        exact ⟨group, List.mem_cons_of_mem _ isGroup, inGroup⟩

variable (separator : Letter)

theorem head_prefix_intercalate (first : List Letter) (rest : List (List Letter)) :
    first <+: [separator].intercalate (first :: rest) := by
  cases rest with
  | nil => simp only [List.intercalate_singleton, List.prefix_rfl]
  | cons second others =>
    rw [List.intercalate_cons_cons, List.append_assoc]
    exact List.prefix_append _ _

theorem getLast_suffix_intercalate (hasOne : groups ≠ []) :
    groups.getLast hasOne <:+ [separator].intercalate groups := by
  induction groups with
  | nil => exact absurd rfl hasOne
  | cons first rest inductionHypothesis =>
    cases rest with
    | nil =>
      rw [List.intercalate_singleton]
      exact List.suffix_rfl
    | cons second others =>
      rw [List.intercalate_cons_cons, List.getLast_cons (List.cons_ne_nil second others)]
      exact (inductionHypothesis _).trans (List.suffix_append _ _)

theorem splitOnP_intercalate {separates : Letter → Bool} {separator : Letter}
    (isSeparator : separates separator = true) (hasOne : groups ≠ [])
    (plain : ∀ group ∈ groups, ∀ letter ∈ group, separates letter = false) :
    ([separator].intercalate groups).splitOnP separates = groups := by
  induction groups with
  | nil => exact absurd rfl hasOne
  | cons first rest inductionHypothesis =>
    rw [List.forall_mem_cons] at plain
    cases rest with
    | nil => rw [List.intercalate_singleton, List.splitOnP_eq_singleton plain.1]
    | cons second others =>
      rw [List.intercalate_cons_cons, List.append_assoc, List.singleton_append,
        List.splitOnP_append_cons_of_forall_mem plain.1 _ isSeparator,
        inductionHypothesis (List.cons_ne_nil _ _) plain.2]

end DigitGroups
