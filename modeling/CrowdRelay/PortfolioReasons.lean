import CrowdRelay.PortfolioLedger

namespace CrowdRelay

open MachineInt GreedySelection

/-!
# Why a portfolio leaves a candidate out

The loop has three ends: no slot is left, nothing left may join, or the best
that may join is not worth a slot.  Whatever is left in the pool is told the
same reason there, and that reason is about the candidates that may still join.
-/

namespace PortfolioOptimizer

section Openness

variable (optimizer : PortfolioOptimizer) (selected : List PortfolioCandidate)
  (candidate : PortfolioCandidate)

/-- A normal slot is left, or an experimental one for an experiment. -/
def SlotOpen : Prop :=
  (selected.length : Int) < optimizer.config.maxDispatches.val ∨
    candidate.isExperimental = true ∧
      (selected.length : Int) - optimizer.config.maxDispatches.val <
        optimizer.config.experimentalDispatchBudget.val

/-- The bound on unproven audiences lets the candidate in. -/
def ProvenOpen : Prop :=
  ∀ base, optimizer.provenOnlyBeyond = some base →
    base.val ≤ selected.length →
    candidate.isExperimental = false →
    candidate.audienceKey ∈ optimizer.provenAudiences

/-- Taking the candidate would exceed the cost budget. -/
def ExceedsBudget : Prop :=
  0 < optimizer.config.costBudget ∧
    optimizer.config.costBudget < (selected.map PortfolioCandidate.units).sum + candidate.units

structure MayJoin : Prop where
  slotOpen : optimizer.SlotOpen selected candidate
  provenOpen : optimizer.ProvenOpen selected candidate
  withinBudget : ¬ optimizer.ExceedsBudget selected candidate

/-- The candidate's marginal value beside the selected ones. -/
def marginalBeside : ℚ := (optimizer.adjustmentsBeside selected candidate).marginalY30

end Openness

/-- The reason describes, for each candidate left out, the state in which the
selection stopped. -/
structure ReasonTruthful
    (optimizer : PortfolioOptimizer)
    (selected left : List PortfolioCandidate)
    (reason : RejectionReason) : Prop where
  budgetExhausted :
    reason = .budgetExhausted →
      ∀ candidate ∈ left, optimizer.ExceedsBudget selected candidate
  maxDispatchesReached :
    reason = .maxDispatchesReached →
      ∀ candidate ∈ left, ¬ optimizer.SlotOpen selected candidate
  negativeMarginalValue :
    ∀ candidate ∈ left,
      reason = .negativeMarginalValue ↔
        optimizer.marginalBeside selected candidate < 0
  belowThreshold :
    reason = .belowThreshold →
      ∀ candidate ∈ left,
        0 ≤ optimizer.marginalBeside selected candidate ∧
          optimizer.marginalBeside selected candidate <
            optimizer.config.minMarginalValue

/-- The reason describes, for the candidates that may still join, the state in
which the selection stopped. -/
structure ReasonDescribes
    (optimizer : PortfolioOptimizer)
    (selected left : List PortfolioCandidate)
    (reason : RejectionReason) : Prop where
  budgetExhausted :
    reason = .budgetExhausted →
      ∀ candidate ∈ left,
        optimizer.SlotOpen selected candidate →
        optimizer.ProvenOpen selected candidate →
        optimizer.ExceedsBudget selected candidate
  maxDispatchesReached :
    reason = .maxDispatchesReached →
      ∀ candidate ∈ left, ¬ optimizer.SlotOpen selected candidate
  negativeMarginalValue :
    (∃ candidate ∈ left, optimizer.MayJoin selected candidate) →
      (reason = .negativeMarginalValue ↔
        ∀ candidate ∈ left, optimizer.MayJoin selected candidate →
          optimizer.marginalBeside selected candidate < 0)
  negativeIsJudged :
    reason = .negativeMarginalValue →
      ∃ candidate ∈ left, optimizer.MayJoin selected candidate
  belowThreshold :
    reason = .belowThreshold →
      (∃ candidate ∈ left,
        optimizer.MayJoin selected candidate ∧
          0 ≤ optimizer.marginalBeside selected candidate) ∧
      ∀ candidate ∈ left, optimizer.MayJoin selected candidate →
        optimizer.marginalBeside selected candidate <
          optimizer.config.minMarginalValue

/-- The candidates a selection leaves out, all for one reason. -/
def Rejects (optimizer : PortfolioOptimizer) (candidates left : List PortfolioCandidate)
    (reason : RejectionReason) : Prop :=
  (∃ picked,
    (picked ++ left).Perm candidates ∧
      (optimizer.select candidates).selected = picked.map PortfolioCandidate.dispatched) ∧
    (optimizer.select candidates).rejected = left.map (PortfolioCandidate.rejection reason)

section Stopping

variable {optimizer : PortfolioOptimizer} {candidates picked : List PortfolioCandidate}
  {round : SelectionRound} {candidate : PortfolioCandidate} {reason : RejectionReason}

theorem totalSlotLimit_of_fits
    (fits :
      optimizer.config.maxDispatches.val + optimizer.config.experimentalDispatchBudget.val ≤
        4294967295) :
    optimizer.totalSlotLimit.val =
      optimizer.config.maxDispatches.val + optimizer.config.experimentalDispatchBudget.val :=
  Ranged.val_wrap_of_fits
    (Int.add_nonneg optimizer.config.maxDispatches.lower
      optimizer.config.experimentalDispatchBudget.lower) fits

theorem eligible_iff_mayJoin
    (fits :
      optimizer.config.maxDispatches.val + optimizer.config.experimentalDispatchBudget.val ≤
        4294967295)
    (picked : List PortfolioCandidate)
    (candidate : PortfolioCandidate) :
    optimizer.Eligible picked candidate ↔
      optimizer.MayJoin (picked.map PortfolioCandidate.dispatched)
        candidate := by
  have limit := totalSlotLimit_of_fits fits
  have normal := optimizer.config.maxDispatches.lower
  have experimental := optimizer.config.experimentalDispatchBudget.lower
  have units :
      ((picked.map PortfolioCandidate.dispatched).map PortfolioCandidate.units).sum =
        ((picked : Multiset PortfolioCandidate).map PortfolioCandidate.units).sum := by
    rw [List.map_map, Multiset.map_coe, Multiset.sum_coe]
    rfl
  constructor
  · intro isEligible
    obtain ⟨slotLeft, affordable, extraSlot, provenSlot⟩ := isEligible
    rw [Multiset.coe_card] at slotLeft extraSlot provenSlot
    refine ⟨?_, ?_, ?_⟩
    · unfold SlotOpen
      rw [List.length_map]
      by_cases full : optimizer.config.maxDispatches.val ≤ picked.length
      · obtain ⟨isExperiment, extra⟩ := extraSlot full
        exact .inr ⟨isExperiment, by omega⟩
      · exact .inl (not_le.mp full)
    · unfold ProvenOpen
      rw [List.length_map]
      exact provenSlot
    · rintro ⟨hasBudget, exceeds⟩
      rw [units] at exceeds
      exact absurd (affordable hasBudget) (not_le.mpr exceeds)
  · intro mayJoin
    obtain ⟨slotOpen, provenOpen, withinBudget⟩ := mayJoin
    unfold SlotOpen at slotOpen
    unfold ProvenOpen at provenOpen
    rw [List.length_map] at slotOpen provenOpen
    refine ⟨?_, ?_, ?_, ?_⟩
    · rw [Multiset.coe_card, limit]
      omega
    · intro hasBudget
      rw [← units]
      exact not_lt.mp fun exceeds => withinBudget ⟨hasBudget, exceeds⟩
    · rw [Multiset.coe_card]
      intro full
      rcases slotOpen with normalLeft | ⟨isExperiment, extra⟩
      · omega
      · exact ⟨isExperiment, by omega⟩
    · rw [Multiset.coe_card]
      exact provenOpen

theorem marginalBeside_dispatched (picked : List PortfolioCandidate)
    (candidate : PortfolioCandidate) :
    optimizer.marginalBeside (picked.map PortfolioCandidate.dispatched) candidate =
      (optimizer.adjustmentsBeside picked candidate).marginalY30 :=
  congrArg MarginalAdjustments.marginalY30 (adjustmentsBeside_dispatched optimizer picked candidate)

/-- A round that takes nothing found nothing, or nothing worth taking. -/
theorem verdict_stop (stops : optimizer.verdict round = .stop reason) :
    (optimizer.bestRemaining round = none ∧ reason = .budgetExhausted) ∨
      ∃ index best,
        optimizer.bestRemaining round = some (index, best) ∧
        optimizer.worthTaking round.selected.length best.marginalY30 = false ∧
        (best.marginalY30 < 0 ∧ reason = .negativeMarginalValue ∨
          0 ≤ best.marginalY30 ∧ reason = .belowThreshold) := by
  unfold verdict at stops
  cases found : optimizer.bestRemaining round with
  | none =>
    rw [found] at stops
    injection stops with isReason
    exact .inl ⟨rfl, isReason.symm⟩
  | some pair =>
    obtain ⟨index, best⟩ := pair
    rw [found] at stops
    by_cases worth : optimizer.worthTaking round.selected.length best.marginalY30 = true
    · simp only [worth] at stops
      cases stops
    · simp only [if_neg worth] at stops
      refine .inr ⟨index, best, rfl, Bool.eq_false_iff.mpr worth, ?_⟩
      by_cases negative : best.marginalY30 < 0
      · rw [if_pos negative] at stops
        injection stops with isReason
        exact .inl ⟨negative, isReason.symm⟩
      · rw [if_neg negative] at stops
        injection stops with isReason
        exact .inr ⟨not_lt.mp negative, isReason.symm⟩

theorem lt_threshold_of_not_worth {count : Nat} {marginal : ℚ}
    (notWorth : optimizer.worthTaking count marginal = false) :
    marginal < optimizer.config.minMarginalValue := by
  by_contra enough
  rw [worthTaking, decide_eq_true (not_lt.mp enough), Bool.true_or] at notWorth
  exact Bool.noConfusion notWorth

theorem Tracks.reason_describes (tracks : optimizer.Tracks candidates picked round)
    (fits :
      optimizer.config.maxDispatches.val + optimizer.config.experimentalDispatchBudget.val ≤
        4294967295)
    (stops : optimizer.Stops round reason) :
    optimizer.ReasonDescribes round.selected round.remaining reason := by
  have isSelected := tracks.selectedPicked
  have mayJoin :
      ∀ candidate,
        optimizer.MayJoin round.selected candidate ↔ optimizer.Eligible picked candidate := by
    intro candidate
    rw [isSelected]
    exact (eligible_iff_mayJoin fits picked candidate).symm
  have marginal :
      ∀ candidate,
        optimizer.marginalBeside round.selected candidate =
          (optimizer.adjustmentsBeside picked candidate).marginalY30 := by
    intro candidate
    rw [isSelected]
    exact marginalBeside_dispatched picked candidate
  cases stops with
  | closed noRound =>
    have noSlot : ∀ candidate ∈ round.remaining, ¬ optimizer.SlotOpen round.selected candidate := by
      intro candidate isLeft isOpen
      have full : ¬ round.selected.length < optimizer.totalSlotLimit.val :=
        fun slotLeft => noRound ⟨slotLeft, List.ne_nil_of_mem isLeft⟩
      rw [totalSlotLimit_of_fits fits] at full
      have experimental := optimizer.config.experimentalDispatchBudget.lower
      unfold SlotOpen at isOpen
      omega
    refine ⟨nofun, fun _ => noSlot, ?_, nofun, nofun⟩
    rintro ⟨candidate, isLeft, joins⟩
    exact absurd joins.slotOpen (noSlot candidate isLeft)
  | decided slotLeft stops =>
    rcases verdict_stop stops with
      ⟨nothing, rfl⟩ | ⟨index, best, found, notWorth, judged⟩
    · have noneJoins :
          ∀ candidate ∈ round.remaining, ¬ optimizer.MayJoin round.selected candidate := by
        intro candidate isLeft joins
        exact tracks.bestRemaining_none slotLeft nothing candidate isLeft
          ((mayJoin candidate).mp joins)
      refine ⟨?_, nofun, ?_, nofun, nofun⟩
      · intro _ candidate isLeft slotOpen provenOpen
        by_contra within
        exact noneJoins candidate isLeft ⟨slotOpen, provenOpen, within⟩
      · rintro ⟨candidate, isLeft, joins⟩
        exact absurd joins (noneJoins candidate isLeft)
    · have below := lt_threshold_of_not_worth notWorth
      obtain ⟨⟨winner, isPlace, isEligible, isBest⟩, isPeak⟩ :=
        tracks.bestRemaining_some slotLeft found
      have winnerLeft := List.mem_of_getElem? isPlace
      have winnerJoins := (mayJoin winner).mpr isEligible
      have winnerMarginal : optimizer.marginalBeside round.selected winner = best.marginalY30 := by
        rw [marginal, isBest]
      have atMost :
          ∀ candidate ∈ round.remaining,
            optimizer.MayJoin round.selected candidate →
            optimizer.marginalBeside round.selected candidate ≤ best.marginalY30 := by
        intro candidate isLeft joins
        rw [marginal]
        exact isPeak candidate isLeft ((mayJoin candidate).mp joins)
      rcases judged with ⟨negative, rfl⟩ | ⟨nonnegative, rfl⟩
      · refine ⟨nofun, nofun, fun _ => ⟨fun _ => ?_, fun _ => rfl⟩,
          fun _ => ⟨winner, winnerLeft, winnerJoins⟩, nofun⟩
        exact fun candidate isLeft joins =>
          (atMost candidate isLeft joins).trans_lt negative
      · refine ⟨nofun, nofun, fun _ => ⟨nofun, fun allNegative => ?_⟩,
          nofun, fun _ => ⟨⟨winner, winnerLeft, winnerJoins, ?_⟩, ?_⟩⟩
        · have isNegative := allNegative winner winnerLeft winnerJoins
          rw [winnerMarginal] at isNegative
          exact absurd nonnegative (not_le.mpr isNegative)
        · rw [winnerMarginal]
          exact nonnegative
        · exact fun candidate isLeft joins =>
            (atMost candidate isLeft joins).trans_lt below

end Stopping

/-- All rejected candidates share one reason, and it describes the state in
which the selection stopped for those that might still have joined. -/
theorem rejection_reason_describes_stop
    (optimizer : PortfolioOptimizer)
    (candidates : List PortfolioCandidate)
    (fits :
      optimizer.config.maxDispatches.val
          + optimizer.config.experimentalDispatchBudget.val ≤
        4294967295) :
    ∃ left reason,
      optimizer.Rejects candidates left reason ∧
      optimizer.ReasonDescribes (optimizer.select candidates).selected left
        reason := by
  obtain ⟨last, reason, -, stops, -, outcome⟩ := optimizer.exists_ending candidates
  have described := outcome.tracks.reason_describes fits stops
  refine ⟨last.round.remaining, reason,
      ⟨⟨last.picked, outcome.tracks.allPlaced, outcome.selected⟩, outcome.rejected⟩, ?_⟩
  rw [outcome.selected, ← outcome.tracks.selectedPicked]
  exact described

theorem single_slot_reason_describes_stop :
    (singleSlot.config.maxDispatches.val
        + singleSlot.config.experimentalDispatchBudget.val ≤ 4294967295) ∧
      ∃ left reason,
        singleSlot.Rejects
            [communityPost "black" 5, communityPost "doom" 3] left reason ∧
          singleSlot.ReasonDescribes
            (singleSlot.select
              [communityPost "black" 5, communityPost "doom" 3]).selected
            left reason :=
  ⟨by decide +kernel,
    rejection_reason_describes_stop singleSlot
      [communityPost "black" 5, communityPost "doom" 3] (by decide +kernel)⟩

section Counterexamples

variable {optimizer : PortfolioOptimizer} {candidates left : List PortfolioCandidate}
  {candidate : PortfolioCandidate} {reason given : RejectionReason}

theorem Rejects.mem_left (rejects : optimizer.Rejects candidates left reason)
    (isCandidate : candidate ∈ candidates)
    (notSelected : candidate.dispatched ∉ (optimizer.select candidates).selected) :
    candidate ∈ left := by
  obtain ⟨⟨picked, split, isSelected⟩, -⟩ := rejects
  rcases List.mem_append.mp (split.mem_iff.mpr isCandidate) with
    isPicked | isLeft
  · rw [isSelected] at notSelected
    exact absurd (List.mem_map_of_mem isPicked) notSelected
  · exact isLeft

theorem Rejects.reason_eq (rejects : optimizer.Rejects candidates left reason)
    (isLeft : candidate ∈ left)
    (only : ∀ rejection ∈ (optimizer.select candidates).rejected, rejection.reason = given) :
    reason = given := by
  have isThere : candidate.rejection reason ∈ (optimizer.select candidates).rejected := by
    rw [rejects.2]
    exact List.mem_map_of_mem isLeft
  exact only _ isThere

end Counterexamples

def experimentSlot : PortfolioOptimizer where
  config :=
    { PortfolioConfig.default with
      maxDispatches := 1
      experimentalDispatchBudget := 1 }
  actHistory := fun _ => none
  provenOnlyBeyond := none
  provenAudiences := ∅

/-- A post that would lose fans is left out for want of slots, one without a
budget for want of budget, and one that would lose fans as below the
threshold. -/
theorem rejection_reasons_not_truthful :
    (¬ ∃ left reason,
      singleSlot.Rejects
          [communityPost "black" 5, communityPost "doom" (-3)] left reason ∧
        singleSlot.ReasonTruthful
          (singleSlot.select
            [communityPost "black" 5, communityPost "doom" (-3)]).selected
          left reason) ∧
    (¬ ∃ left reason,
      experimentSlot.Rejects
          [communityPost "black" 5, communityPost "doom" 4] left reason ∧
        experimentSlot.ReasonTruthful
          (experimentSlot.select
            [communityPost "black" 5, communityPost "doom" 4]).selected
          left reason) ∧
    ¬ ∃ left reason,
      singleSlot.Rejects
          [communityPost "black" 0, communityPost "doom" (-3)] left reason ∧
        singleSlot.ReasonTruthful
          (singleSlot.select
            [communityPost "black" 0, communityPost "doom" (-3)]).selected
          left reason := by
  refine ⟨?_, ?_, ?_⟩
  · rintro ⟨left, reason, rejects, truthful⟩
    have isLeft : communityPost "doom" (-3) ∈ left := rejects.mem_left (by simp) (by decide +kernel)
    have isReason : reason = .maxDispatchesReached := rejects.reason_eq isLeft (by decide +kernel)
    have negative :
        singleSlot.marginalBeside
          (singleSlot.select
            [communityPost "black" 5, communityPost "doom" (-3)]).selected
          (communityPost "doom" (-3)) < 0 := by
      decide +kernel
    have told := (truthful.negativeMarginalValue _ isLeft).mpr negative
    rw [isReason] at told
    cases told
  · rintro ⟨left, reason, rejects, truthful⟩
    have isLeft : communityPost "doom" 4 ∈ left := rejects.mem_left (by simp) (by decide +kernel)
    have isReason : reason = .budgetExhausted := rejects.reason_eq isLeft (by decide +kernel)
    have hasBudget := (truthful.budgetExhausted isReason _ isLeft).1
    exact absurd hasBudget (by decide +kernel)
  · rintro ⟨left, reason, rejects, truthful⟩
    have isLeft : communityPost "doom" (-3) ∈ left := rejects.mem_left (by simp) (by decide +kernel)
    have isReason : reason = .belowThreshold := rejects.reason_eq isLeft (by decide +kernel)
    have nonnegative := (truthful.belowThreshold isReason _ isLeft).1
    exact absurd nonnegative (by decide +kernel)

end PortfolioOptimizer

end CrowdRelay
