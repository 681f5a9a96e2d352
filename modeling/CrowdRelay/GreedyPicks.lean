import Mathlib.Algebra.Order.Group.Multiset
import Mathlib.Data.List.Nodup
import CrowdRelay.GreedySelection

namespace GreedySelection

/-!
# The picks of a greedy selection in their order

What each pick adds depends on the picks before it.  The sums and the order of
these amounts are read off the list of picks alone, and under rules by which a
candidate only loses by waiting the amounts never increase.
-/

section Replay

variable {Candidate Value : Type} {value : Multiset Candidate → Candidate → Value}
  {taken : Multiset Candidate} {picks : List Candidate}

/-- What each pick comes to beside what is taken before it. -/
def replay (value : Multiset Candidate → Candidate → Value) :
    Multiset Candidate → List Candidate → List Value
  | _, [] => []
  | taken, candidate :: later =>
    value taken candidate :: replay value (candidate ::ₘ taken) later

theorem replay_concat (value : Multiset Candidate → Candidate → Value)
    (taken : Multiset Candidate) (picks : List Candidate) (candidate : Candidate) :
    replay value taken (picks ++ [candidate]) =
      replay value taken picks ++ [value (picks + taken) candidate] := by
  induction picks generalizing taken with
  | nil =>
    rw [List.nil_append, replay, replay, replay, Multiset.coe_nil, zero_add, List.nil_append]
  | cons first picks inductionHypothesis =>
    have counted :
        (picks : Multiset Candidate) + first ::ₘ taken =
          ((first :: picks : List Candidate) : Multiset Candidate) + taken := by
      rw [Multiset.add_cons, ← Multiset.cons_coe, Multiset.cons_add]
    rw [List.cons_append, replay, inductionHypothesis, counted, replay, List.cons_append]

@[simp] theorem length_replay : (replay value taken picks).length = picks.length := by
  induction picks generalizing taken with
  | nil => rfl
  | cons first picks inductionHypothesis =>
    rw [replay, List.length_cons, List.length_cons, inductionHypothesis]

theorem getElem?_replay (value : Multiset Candidate → Candidate → Value)
    (taken : Multiset Candidate) (picks : List Candidate) (index : Nat) :
    (replay value taken picks)[index]? = picks[index]?.map (value (picks.take index + taken)) := by
  induction picks generalizing taken index with
  | nil => simp [replay]
  | cons first picks inductionHypothesis =>
    cases index with
    | zero => simp [replay]
    | succ index =>
      rw [replay, List.getElem?_cons_succ, inductionHypothesis,
        List.getElem?_cons_succ, List.take_succ_cons,
        Multiset.add_cons, ← Multiset.cons_coe, Multiset.cons_add]

theorem map_replay {Amount : Type} (amount : Value → Amount)
    (value : Multiset Candidate → Candidate → Value) (taken : Multiset Candidate)
    (picks : List Candidate) :
    (replay value taken picks).map amount =
      replay (fun before candidate => amount (value before candidate)) taken picks := by
  induction picks generalizing taken with
  | nil => rfl
  | cons first picks inductionHypothesis =>
    rw [replay, List.map_cons, inductionHypothesis, replay]

end Replay

section Picks

variable {Candidate Value : Type} [LE Value] {rules : Rules Candidate Value}
  {picked left : List Candidate}

/-- Each pick was eligible and worthwhile when it was made, and the best of
what was eligible then. -/
def GreedyPicks (rules : Rules Candidate Value)
    (picked left : List Candidate) : Prop :=
  ∀ (earlier : List Candidate) (candidate : Candidate)
    (later : List Candidate),
    picked = earlier ++ candidate :: later →
    rules.eligible earlier candidate ∧
      rules.worthwhile earlier (rules.marginal earlier candidate) ∧
      ∀ other ∈ later ++ left, rules.eligible earlier other →
        rules.marginal earlier other ≤ rules.marginal earlier candidate

theorem greedyPicks_nil (rules : Rules Candidate Value) (left : List Candidate) :
    GreedyPicks rules [] left := by
  intro earlier candidate later shape
  simp at shape

theorem GreedyPicks.concat {candidate : Candidate} {rest : List Candidate}
    (picks : GreedyPicks rules picked left) (isLeft : left.Perm (candidate :: rest))
    (isEligible : rules.eligible picked candidate)
    (isWorthwhile : rules.worthwhile picked (rules.marginal picked candidate))
    (isPeak :
      ∀ other ∈ left, rules.eligible picked other →
        rules.marginal picked other ≤ rules.marginal picked candidate) :
    GreedyPicks rules (picked ++ [candidate]) rest := by
  have remains : ∀ other ∈ rest, other ∈ left :=
    fun other isRest => isLeft.mem_iff.mpr (List.mem_cons_of_mem _ isRest)
  intro earlier pick later shape
  rcases split_of_concat shape with
    ⟨rfl, rfl, rfl⟩ | ⟨between, rfl, samePicked⟩
  · exact ⟨isEligible, isWorthwhile,
      fun other isRest => isPeak other (remains other isRest)⟩
  · obtain ⟨wasEligible, wasWorthwhile, wasPeak⟩ := picks earlier pick between samePicked
    refine ⟨wasEligible, wasWorthwhile, ?_⟩
    intro other isThere
    apply wasPeak other
    rw [List.append_assoc, List.singleton_append] at isThere
    rcases List.mem_append.mp isThere with isBetween | isRest
    · exact List.mem_append_left _ isBetween
    · exact List.mem_append_right _ (isLeft.mem_iff.mpr isRest)

/-- A candidate that may still be taken might have been taken before, and was
worth no less then. -/
structure Diminishing (rules : Rules Candidate Value) : Prop where
  eligible_of_le :
    ∀ {taken more : Multiset Candidate} {candidate : Candidate},
      taken ≤ more → rules.eligible more candidate →
      rules.eligible taken candidate
  marginal_le :
    ∀ {taken more : Multiset Candidate} {candidate : Candidate},
      taken ≤ more → rules.eligible more candidate →
      rules.worthwhile more (rules.marginal more candidate) →
      rules.marginal more candidate ≤ rules.marginal taken candidate

end Picks

section Descent

variable {Candidate Value : Type} [Preorder Value] {rules : Rules Candidate Value}
  {picked left : List Candidate}

theorem GreedyPicks.descending (picks : GreedyPicks rules picked left)
    (diminishing : Diminishing rules) {earlier between later : List Candidate}
    {candidate other : Candidate}
    (shape : picked = earlier ++ candidate :: (between ++ other :: later)) :
    rules.marginal (earlier ++ candidate :: between : List Candidate) other ≤
      rules.marginal earlier candidate := by
  have otherShape : picked = (earlier ++ candidate :: between) ++ other :: later := by
    rw [shape, List.append_assoc, List.cons_append]
  obtain ⟨otherEligible, otherWorthwhile, -⟩ := picks _ other later otherShape
  have grown :
      (earlier : Multiset Candidate) ≤ (earlier ++ candidate :: between : List Candidate) := by
    rw [← Multiset.coe_add]
    exact Multiset.le_add_right _ _
  have wasEligible := diminishing.eligible_of_le grown otherEligible
  have isOther : other ∈ between ++ other :: later ++ left := by simp
  exact (diminishing.marginal_le grown otherEligible otherWorthwhile).trans
      ((picks earlier candidate _ shape).2.2 other isOther wasEligible)

/-- What the picks add never increases. -/
theorem GreedyPicks.replay_descending (picks : GreedyPicks rules picked left)
    (diminishing : Diminishing rules) :
    (replay rules.marginal 0 picked).Pairwise fun earlier later => later ≤ earlier := by
  refine List.pairwise_iff_getElem.mpr ?_
  intro first second firstRange secondRange ordered
  rw [length_replay] at firstRange secondRange
  have amountAt :
      ∀ (index : Nat) (inRange : index < picked.length)
        (inReplay : index < (replay rules.marginal 0 picked).length),
        (replay rules.marginal 0 picked)[index] =
          rules.marginal (picked.take index) picked[index] := by
    intro index inRange inReplay
    have isAmount := getElem?_replay rules.marginal 0 picked index
    rw [List.getElem?_eq_getElem inReplay, List.getElem?_eq_getElem inRange,
      Option.map_some, add_zero] at isAmount
    exact Option.some.inj isAmount
  rw [amountAt first firstRange, amountAt second secondRange]
  have before :
      picked.take second =
        picked.take first ++ picked[first] :: (picked.take second).drop (first + 1) := by
    have isAt : (picked.take second)[first]? = some picked[first] := by
      rw [List.getElem?_take_of_lt ordered, List.getElem?_eq_getElem firstRange]
    have split := split_of_getElem? isAt
    rw [List.take_take, min_eq_left ordered.le] at split
    exact split
  have shape :
      picked = picked.take first ++ picked[first] ::
          ((picked.take second).drop (first + 1)
            ++ picked[second] :: picked.drop (second + 1)) := by
    rw [← List.cons_append, ← List.append_assoc, ← before]
    exact split_of_getElem? (List.getElem?_eq_getElem secondRange)
  have descends := picks.descending diminishing shape
  rw [← before] at descends
  exact descends

end Descent

end GreedySelection
