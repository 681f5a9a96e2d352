import Mathlib.Data.List.Basic

namespace Challenge

/-!
# Keeping the best so far

A list of challengers is read in order, and each that beats the one kept so far
takes its place.  The first is replaced exactly when some challenger beats it;
and where beating is transitive, whoever is kept in its place beats it.
-/

variable {Contender : Type*}

/-- Who is kept of two contenders. -/
def keep (beats : Contender → Contender → Bool)
    (best challenger : Contender) : Contender :=
  if beats challenger best then challenger else best

/-- Who is kept in the end. -/
def champion (beats : Contender → Contender → Bool) (first : Contender)
    (challengers : List Contender) : Contender :=
  challengers.foldl (keep beats) first

variable {beats : Contender → Contender → Bool} {first : Contender}
  {challengers : List Contender} {challenger : Contender}

theorem champion_cons_of_beats (wins : beats challenger first = true) :
    champion beats first (challenger :: challengers) = champion beats challenger challengers := by
  rw [champion, List.foldl_cons, keep, if_pos wins]
  rfl

theorem champion_cons_of_not_beats (loses : beats challenger first = false) :
    champion beats first (challenger :: challengers) = champion beats first challengers := by
  rw [champion, List.foldl_cons, keep, if_neg (ne_true_of_eq_false loses)]
  rfl

theorem champion_eq_or_mem :
    champion beats first challengers = first ∨ champion beats first challengers ∈ challengers := by
  induction challengers generalizing first with
  | nil => exact Or.inl rfl
  | cons challenger rest inductionHypothesis =>
    cases wins : beats challenger first with
    | true =>
      rw [champion_cons_of_beats wins]
      exact Or.inr (List.mem_cons.mpr inductionHypothesis)
    | false =>
      rw [champion_cons_of_not_beats wins]
      exact inductionHypothesis.imp id (List.mem_cons_of_mem _)

theorem champion_eq_first (unbeaten : ∀ challenger ∈ challengers, beats challenger first = false) :
    champion beats first challengers = first := by
  induction challengers with
  | nil => rfl
  | cons challenger rest inductionHypothesis =>
    rw [champion_cons_of_not_beats (unbeaten _ List.mem_cons_self)]
    exact inductionHypothesis fun other member =>
      unbeaten other (List.mem_cons_of_mem _ member)

theorem champion_mem (beaten : ∃ challenger ∈ challengers, beats challenger first = true) :
    champion beats first challengers ∈ challengers := by
  induction challengers with
  | nil =>
    obtain ⟨challenger, member, _⟩ := beaten
    exact absurd member List.not_mem_nil
  | cons challenger rest inductionHypothesis =>
    cases wins : beats challenger first with
    | true =>
      rw [champion_cons_of_beats wins]
      exact List.mem_cons.mpr champion_eq_or_mem
    | false =>
      rw [champion_cons_of_not_beats wins]
      obtain ⟨winner, member, winnerBeats⟩ := beaten
      have inRest : winner ∈ rest := by
        rcases List.mem_cons.mp member with rfl | inRest
        · rw [wins] at winnerBeats
          cases winnerBeats
        · exact inRest
      exact List.mem_cons_of_mem _ (inductionHypothesis ⟨winner, inRest, winnerBeats⟩)

/-- Whoever takes the place of the first is better than it, if being better is
transitive among the contenders. -/
theorem champion_better {Sound : Contender → Prop} {Better : Contender → Contender → Prop}
    (isBetter :
      ∀ challenger best, Sound challenger → Sound best →
        beats challenger best = true → Better challenger best)
    (transitive :
      ∀ third second first, Sound third → Sound second → Sound first →
        Better third second → Better second first → Better third first)
    (firstSound : Sound first)
    (sound : ∀ challenger ∈ challengers, Sound challenger) :
    champion beats first challengers = first ∨ Better (champion beats first challengers) first := by
  induction challengers generalizing first with
  | nil => exact Or.inl rfl
  | cons challenger rest inductionHypothesis =>
    have challengerSound := sound challenger List.mem_cons_self
    have restSound : ∀ other ∈ rest, Sound other :=
      fun other member => sound other (List.mem_cons_of_mem _ member)
    cases wins : beats challenger first with
    | true =>
      have now := isBetter challenger first challengerSound firstSound wins
      rw [champion_cons_of_beats wins]
      rcases @champion_eq_or_mem _ beats challenger rest with
        isKept | inRest
      · rw [isKept]
        exact Or.inr now
      · rcases inductionHypothesis challengerSound restSound with
          isKept | better
        · rw [isKept]
          exact Or.inr now
        · exact Or.inr
              (transitive _ _ _ (restSound _ inRest) challengerSound firstSound better now)
    | false =>
      rw [champion_cons_of_not_beats wins]
      exact inductionHypothesis firstSound restSound

end Challenge
