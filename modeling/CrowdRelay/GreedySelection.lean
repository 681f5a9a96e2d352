import Mathlib.Data.Multiset.AddSub
import Mathlib.Data.List.Perm.Basic
import Mathlib.Data.List.Perm.Subperm
import Mathlib.Logic.Relation
import Mathlib.Order.Lattice

namespace GreedySelection

/-!
# Greedy selection from a shrinking pool

A greedy selection takes, again and again, a candidate of the largest marginal
value, which may depend on everything taken so far.  Ties make it a relation,
not a function.  This module has the two operations an implementation uses,
the scan for the first best item and the removal that fills the gap with the
last item, and the relation itself with the question of when ties are harmless.
-/

variable {Item : Type}

theorem split_of_concat {items earlier later : List Item} {item place : Item}
    (shape : items ++ [item] = earlier ++ place :: later) :
    (earlier = items ∧ place = item ∧ later = []) ∨
      ∃ between, later = between ++ [item] ∧ items = earlier ++ place :: between := by
  rcases List.eq_nil_or_concat' later with
    isLast | ⟨between, last, laterShape⟩
  · subst isLast
    obtain ⟨sameEarlier, sameLast⟩ := List.append_inj' shape rfl
    cases sameLast
    exact .inl ⟨sameEarlier.symm, rfl, rfl⟩
  · rw [laterShape, ← List.cons_append, ← List.append_assoc] at shape
    obtain ⟨sameItems, sameLast⟩ := List.append_inj' shape rfl
    cases sameLast
    exact .inr ⟨between, laterShape, sameItems⟩

theorem split_of_getElem? {items : List Item} {index : Nat} {item : Item}
    (isAt : items[index]? = some item) :
    items = items.take index ++ item :: items.drop (index + 1) := by
  obtain ⟨inRange, isItem⟩ := List.getElem?_eq_some_iff.mp isAt
  rw [← isItem, List.getElem_cons_drop, List.take_append_drop]

section SwapRemove

variable {items : List Item} {index : Nat}

/-- Take out one place of a list, filling it with the last item. -/
def swapRemove (items : List Item) (index : Nat) : List Item :=
  match items.getLast? with
  | some last => (items.set index last).dropLast
  | none => []

theorem swapRemove_concat (front : List Item) (last : Item) (index : Nat) :
    swapRemove (front ++ [last]) index = ((front ++ [last]).set index last).dropLast := by
  unfold swapRemove
  rw [List.getLast?_concat]

/-- Nothing but the removed item goes missing. -/
theorem perm_cons_swapRemove {item : Item} (found : items[index]? = some item) :
    items.Perm (item :: swapRemove items index) := by
  obtain ⟨inRange, isItem⟩ := List.getElem?_eq_some_iff.mp found
  rcases List.eq_nil_or_concat' items with isEmpty | ⟨front, last, shape⟩
  · subst isEmpty
    cases found
  · subst shape
    rw [swapRemove_concat]
    by_cases inFront : index < front.length
    · -- The last item moves into the gap.
      rw [List.set_append_left _ _ inFront, List.dropLast_concat]
      rw [List.getElem_append_left inFront] at isItem
      have removed : front.Perm (item :: front.eraseIdx index) := by
        rw [← isItem]
        exact (List.getElem_cons_eraseIdx_perm inFront).symm
      have filled : (front.set index last).Perm (last :: front.eraseIdx index) :=
        List.set_perm_cons_eraseIdx inFront last
      calc
        (front ++ [last]).Perm (last :: front) := List.perm_append_singleton last front
        List.Perm _ (last :: item :: front.eraseIdx index) := removed.cons last
        List.Perm _ (item :: last :: front.eraseIdx index) := List.Perm.swap item last _
        List.Perm _ (item :: front.set index last) := filled.symm.cons item
    · -- The removed item is the last one.
      have isLast : index = front.length := by
        rw [List.length_append, List.length_singleton] at inRange
        omega
      subst isLast
      have sameItem : last = item := by
        simpa using isItem
      subst sameItem
      rw [List.set_append_right _ _ le_rfl, Nat.sub_self, List.set_cons_zero, List.dropLast_concat]
      exact List.perm_append_singleton last front

theorem swapRemove_of_getElem?_eq_none (missing : items[index]? = none) :
    swapRemove items index = items.dropLast := by
  have beyond : items.length ≤ index := List.getElem?_eq_none_iff.mp missing
  cases isLast : items.getLast? with
  | none => simp [swapRemove, List.getLast?_eq_none_iff.mp isLast]
  | some last => simp [swapRemove, isLast, List.set_eq_of_length_le beyond]

theorem getElem?_swapRemove_of_lt {index place : Nat} (inRange : index < items.length)
    (before : place < index) :
    (swapRemove items index)[place]? = items[place]? := by
  rcases List.eq_nil_or_concat' items with isEmpty | ⟨front, last, shape⟩
  · subst isEmpty
    cases inRange
  · subst shape
    rw [List.length_append, List.length_singleton] at inRange
    rw [swapRemove_concat, List.getElem?_dropLast, List.length_set,
      List.length_append, List.length_singleton, if_pos (by omega),
      List.getElem?_set_ne (by omega)]

theorem length_swapRemove (items : List Item) (index : Nat) :
    (swapRemove items index).length = items.length - 1 := by
  cases isLast : items.getLast? with
  | none => simp [swapRemove, List.getLast?_eq_none_iff.mp isLast]
  | some last => simp [swapRemove, isLast]

end SwapRemove

section FirstBest

variable {Item Score Value : Type} [LinearOrder Value] (value : Score → Value)
  (held : Option (Nat × Score)) (index : Nat) (scored : Option Score) (score : Item → Option Score)

/-- The held choice, unless the new one is strictly better. -/
def prefer (value : Score → Value) (held : Option (Nat × Score)) (index : Nat)
    (scored : Option Score) :
    Option (Nat × Score) :=
  match scored, held with
  | none, _ => held
  | some score, none => some (index, score)
  | some score, some (_, best) =>
    if value best < value score then some (index, score) else held

/-- Scan items for the first of the largest value among the scored ones. -/
def firstBest (score : Item → Option Score) (value : Score → Value) :
    List Item → Nat → Option (Nat × Score) → Option (Nat × Score)
  | [], _, held => held
  | item :: rest, index, held =>
    firstBest score value rest (index + 1)
      (prefer value held index (score item))

/-- A choice is as good as every score it was compared with. -/
def Dominates (value : Score → Value) (chosen : Option (Nat × Score)) (scored : Option Score) :
    Prop :=
  ∀ score, scored = some score →
    ∃ index best, chosen = some (index, best) ∧ value score ≤ value best

theorem prefer_dominates :
    Dominates value (prefer value held index scored) scored ∧
      Dominates value (prefer value held index scored) (held.map Prod.snd) := by
  cases scored with
  | none =>
    refine ⟨by rintro _ ⟨⟩, ?_⟩
    intro score isHeld
    obtain ⟨⟨place, best⟩, isPair, isScore⟩ := Option.map_eq_some_iff.mp isHeld
    subst isScore
    exact ⟨place, best, isPair, le_rfl⟩
  | some score =>
    rcases held with _ | ⟨place, best⟩
    · refine ⟨?_, by rintro _ ⟨⟩⟩
      rintro _ ⟨⟩
      exact ⟨index, score, rfl, le_rfl⟩
    · by_cases better : value best < value score
      · have kept : prefer value (some (place, best)) index (some score) = some (index, score) :=
          if_pos better
        constructor
        · rintro _ ⟨⟩
          exact ⟨index, score, kept, le_rfl⟩
        · rintro _ ⟨⟩
          exact ⟨index, score, kept, better.le⟩
      · have kept : prefer value (some (place, best)) index (some score) = some (place, best) :=
          if_neg better
        constructor
        · rintro _ ⟨⟩
          exact ⟨place, best, kept, le_of_not_gt better⟩
        · rintro _ ⟨⟩
          exact ⟨place, best, kept, le_rfl⟩

theorem prefer_cases :
    prefer value held index scored = held ∨
      ∃ score, scored = some score ∧ prefer value held index scored = some (index, score) := by
  rcases scored with _ | score
  · exact .inl rfl
  · rcases held with _ | ⟨place, best⟩
    · exact .inr ⟨score, rfl, rfl⟩
    · by_cases better : value best < value score
      · exact .inr ⟨score, rfl, if_pos better⟩
      · exact .inl (if_neg better)

theorem Dominates.trans {value : Score → Value} {first second : Option (Nat × Score)}
    {scored : Option Score} (later : Dominates value second (first.map Prod.snd))
    (earlier : Dominates value first scored) :
    Dominates value second scored := by
  intro score isScored
  obtain ⟨index, best, isFirst, scoreBelow⟩ := earlier score isScored
  subst isFirst
  obtain ⟨place, peak, isSecond, bestBelow⟩ := later best rfl
  exact ⟨place, peak, isSecond, scoreBelow.trans bestBelow⟩

/-- The scan ends as good as the choice it began with and as every item. -/
theorem firstBest_dominates (value : Score → Value) (items : List Item) (start : Nat)
    (held : Option (Nat × Score)) :
    Dominates value (firstBest score value items start held) (held.map Prod.snd) ∧
      ∀ item ∈ items, Dominates value (firstBest score value items start held) (score item) := by
  induction items generalizing start held with
  | nil =>
    constructor
    · intro best isHeld
      obtain ⟨⟨place, peak⟩, isPair, isScore⟩ := Option.map_eq_some_iff.mp isHeld
      subst isScore
      exact ⟨place, peak, isPair, le_rfl⟩
    · intro item isMember
      cases isMember
  | cons head rest inductionHypothesis =>
    obtain ⟨overHead, overHeld⟩ := prefer_dominates value held start (score head)
    obtain ⟨overChoice, overRest⟩ := inductionHypothesis (start + 1)
        (prefer value held start (score head))
    refine ⟨overChoice.trans overHeld, ?_⟩
    intro item isMember
    rcases List.mem_cons.mp isMember with isHead | inRest
    · subst isHead
      exact overChoice.trans overHead
    · exact overRest item inRest

theorem firstBest_cases (value : Score → Value) (items : List Item) (start : Nat)
    (held : Option (Nat × Score)) :
    firstBest score value items start held = held ∨
      ∃ offset item best,
        items[offset]? = some item ∧
        score item = some best ∧
        firstBest score value items start held = some (start + offset, best) := by
  induction items generalizing start held with
  | nil => exact .inl rfl
  | cons head rest inductionHypothesis =>
    rcases inductionHypothesis (start + 1) (prefer value held start (score head)) with
      kept | ⟨offset, item, best, isItem, isScore, found⟩
    · rcases prefer_cases value held start (score head) with
        stays | ⟨best, isScore, chosen⟩
      · exact .inl (kept.trans stays)
      · exact .inr ⟨0, head, best, rfl, isScore, kept.trans chosen⟩
    · refine .inr ⟨offset + 1, item, best, isItem, isScore, ?_⟩
      rw [Nat.add_comm offset 1, ← Nat.add_assoc]
      exact found

theorem firstBest_eq_none {score : Item → Option Score} {value : Score → Value}
    {items : List Item} (nothing : firstBest score value items 0 none = none)
    (item : Item) (isMember : item ∈ items) :
    score item = none := by
  cases isScore : score item with
  | none => rfl
  | some best =>
    obtain ⟨index, peak, found, -⟩ := (firstBest_dominates score value items 0 none).2 item isMember
        best isScore
    rw [nothing] at found
    cases found

/-- What is found is the score of the item at its place, and no item's score
is larger. -/
theorem firstBest_eq_some {score : Item → Option Score} {value : Score → Value}
    {items : List Item} {index : Nat} {best : Score}
    (found : firstBest score value items 0 none = some (index, best)) :
    (∃ item, items[index]? = some item ∧ score item = some best) ∧
      ∀ other ∈ items, ∀ another, score other = some another → value another ≤ value best := by
  constructor
  · rcases firstBest_cases score value items 0 none with
      nothing | ⟨offset, item, peak, isItem, isScore, same⟩
    · rw [nothing] at found
      cases found
    · rw [found, Nat.zero_add] at same
      cases same
      exact ⟨item, isItem, isScore⟩
  · intro other isMember another isScore
    obtain ⟨place, peak, same, below⟩ :=
      (firstBest_dominates score value items 0 none).2 other isMember another isScore
    rw [found] at same
    cases same
    exact below

end FirstBest

section UniqueOutcome

variable {State : Type} {Step : State → State → Prop} {size : State → Nat}

/-- No step leads on from here. -/
def Finished (Step : State → State → Prop) (state : State) : Prop := ∀ next, ¬ Step state next

/-- Whatever two steps disagree about, in any state reached from the start,
further steps can make up for. -/
def TiesHarmless (Step : State → State → Prop) (start : State) : Prop :=
  ∀ state, Relation.ReflTransGen Step start state →
    ∀ one other, Step state one → Step state other →
      Relation.Join (Relation.ReflTransGen Step) one other

theorem TiesHarmless.of_reachable {start state : State} (harmless : TiesHarmless Step start)
    (reached : Relation.ReflTransGen Step start state) :
    TiesHarmless Step state :=
  fun later further => harmless later (reached.trans further)

theorem exists_finished (shrinks : ∀ state next, Step state next → size next < size state)
    (start : State) :
    ∃ outcome,
      Relation.ReflTransGen Step start outcome ∧
      Finished Step outcome := by
  induction measured : size start using Nat.strong_induction_on generalizing start with
  | h bound inductionHypothesis =>
    by_cases isFinished : Finished Step start
    · exact ⟨start, .refl, isFinished⟩
    · unfold Finished at isFinished
      push Not at isFinished
      obtain ⟨next, firstStep⟩ := isFinished
      have smaller : size next < bound := by
        rw [← measured]
        exact shrinks start next firstStep
      obtain ⟨outcome, reached, atEnd⟩ := inductionHypothesis (size next) smaller next rfl
      exact ⟨outcome, .head firstStep reached, atEnd⟩

/-- Harmless ties leave one outcome: two runs to the end from one start end in
the same state. -/
theorem outcome_unique (shrinks : ∀ state next, Step state next → size next < size state)
    {start one other : State} (harmless : TiesHarmless Step start)
    (oneReached : Relation.ReflTransGen Step start one) (oneFinished : Finished Step one)
    (otherReached : Relation.ReflTransGen Step start other) (otherFinished : Finished Step other) :
    one = other := by
  -- By induction on the size of the start: the two first steps meet again.
  induction measured : size start using Nat.strong_induction_on generalizing start one other with
  | h bound inductionHypothesis =>
    rcases oneReached.cases_head with atOne | ⟨nextOne, stepOne, restOne⟩
    · subst atOne
      rcases otherReached.cases_head with atOther | ⟨next, step, -⟩
      · exact atOther
      · exact absurd step (oneFinished next)
    rcases otherReached.cases_head with
      atOther | ⟨nextOther, stepOther, restOther⟩
    · subst atOther
      exact absurd stepOne (otherFinished nextOne)
    obtain ⟨meeting, oneMeets, otherMeets⟩ :=
      harmless start .refl nextOne nextOther stepOne stepOther
    obtain ⟨outcome, fromMeeting, outcomeFinished⟩ := exists_finished shrinks meeting
    have oneSmaller : size nextOne < bound := by
      rw [← measured]
      exact shrinks start nextOne stepOne
    have otherSmaller : size nextOther < bound := by
      rw [← measured]
      exact shrinks start nextOther stepOther
    have oneEnds : one = outcome := inductionHypothesis (size nextOne) oneSmaller
        (harmless.of_reachable (.single stepOne)) restOne oneFinished
        (oneMeets.trans fromMeeting) outcomeFinished rfl
    have otherEnds : other = outcome := inductionHypothesis (size nextOther) otherSmaller
        (harmless.of_reachable (.single stepOther)) restOther
        otherFinished (otherMeets.trans fromMeeting) outcomeFinished rfl
    exact oneEnds.trans otherEnds.symm

end UniqueOutcome

section Greedy

variable {Candidate Value : Type} [LE Value] [Add Value]

/-- What decides a greedy selection: which candidates may be taken next, what
each would add, and when the best of them is still worth taking. -/
structure Rules (Candidate Value : Type) where
  eligible : Multiset Candidate → Candidate → Prop
  marginal : Multiset Candidate → Candidate → Value
  worthwhile : Multiset Candidate → Value → Prop

/-- What has been taken, what is left to take from, and the sum of what each
taken candidate added when it was taken. -/
structure Selection (Candidate Value : Type) where
  taken : Multiset Candidate
  pool : Multiset Candidate
  gained : Value

/-- Some eligible candidate of the largest marginal value is taken. -/
inductive Takes (rules : Rules Candidate Value) :
    Selection Candidate Value → Selection Candidate Value → Prop
  | best
      {taken rest : Multiset Candidate}
      {gained : Value}
      (candidate : Candidate)
      (isEligible : rules.eligible taken candidate)
      (isPeak :
        ∀ other ∈ candidate ::ₘ rest, rules.eligible taken other →
          rules.marginal taken other ≤ rules.marginal taken candidate)
      (isWorthwhile :
        rules.worthwhile taken (rules.marginal taken candidate)) :
      Takes rules
        ⟨taken, candidate ::ₘ rest, gained⟩
        ⟨candidate ::ₘ taken, rest,
          gained + rules.marginal taken candidate⟩

theorem Takes.shrinks (rules : Rules Candidate Value)
    (state next : Selection Candidate Value) (step : Takes rules state next) :
    next.pool.card < state.pool.card := by
  cases step
  simp only [Multiset.card_cons]
  exact Nat.lt_succ_self _

end Greedy

end GreedySelection
