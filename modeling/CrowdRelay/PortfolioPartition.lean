import Mathlib.Algebra.BigOperators.Group.Multiset.Basic
import CrowdRelay.Portfolio

namespace CrowdRelay

open MachineInt GreedySelection

/-!
# Portfolio selection as a budgeted partition

The optimizer's loop is a greedy selection in the abstract sense: what a round
may take, and what taking it adds, depend only on which candidates have been
taken.  The loop's counters are then a cache of that, and every bound on the
portfolio is the bound under which its last members were taken.
-/

namespace PortfolioOptimizer

/-- Whether a candidate may join the ones already taken. -/
structure Eligible
    (optimizer : PortfolioOptimizer)
    (taken : Multiset PortfolioCandidate)
    (candidate : PortfolioCandidate) : Prop where
  slotLeft : (taken.card : Int) < optimizer.totalSlotLimit.val
  affordable :
    0 < optimizer.config.costBudget →
      (taken.map PortfolioCandidate.units).sum + candidate.units ≤
        optimizer.config.costBudget
  extraSlot :
    optimizer.config.maxDispatches.val ≤ taken.card →
      candidate.isExperimental = true ∧
        ((taken.card - optimizer.config.maxDispatches.val.toNat : Nat) : Int) <
          optimizer.config.experimentalDispatchBudget.val
  provenSlot :
    ∀ base, optimizer.provenOnlyBeyond = some base →
      base.val ≤ taken.card →
      candidate.isExperimental = false →
      candidate.audienceKey ∈ optimizer.provenAudiences

variable (optimizer : PortfolioOptimizer)

/-- The adjustments of a candidate next to the ones already taken. -/
def adjustmentsBeside (taken : Multiset PortfolioCandidate)
    (candidate : PortfolioCandidate) : MarginalAdjustments :=
  optimizer.adjustments
    (taken.countP fun other => other.audienceKey = candidate.audienceKey)
    (taken.countP fun other => other.act = candidate.act)
    candidate

/-- The optimizer as the rules of a greedy selection. -/
def rules (optimizer : PortfolioOptimizer) : Rules PortfolioCandidate ℚ where
  eligible := optimizer.Eligible
  marginal taken candidate := (optimizer.adjustmentsBeside taken candidate).marginalY30
  worthwhile taken marginal := optimizer.worthTaking taken.card marginal = true

variable (candidates : List PortfolioCandidate)

/-- The selection every run of the loop starts from. -/
def start :
    Selection PortfolioCandidate ℚ where
  taken := 0
  pool := candidates
  gained := 0

/-- Each candidate was eligible beside the ones taken before it. -/
def Placed
    (picked : List PortfolioCandidate) : Prop :=
  ∀ (earlier : List PortfolioCandidate) (candidate : PortfolioCandidate)
    (later : List PortfolioCandidate),
    picked = earlier ++ candidate :: later →
    optimizer.Eligible earlier candidate

theorem placed_nil (optimizer : PortfolioOptimizer) : optimizer.Placed [] := by
  intro earlier candidate later shape
  simp at shape

theorem Placed.concat {optimizer : PortfolioOptimizer} {picked : List PortfolioCandidate}
    {candidate : PortfolioCandidate} (placed : optimizer.Placed picked)
    (isEligible : optimizer.Eligible picked candidate) :
    optimizer.Placed (picked ++ [candidate]) := by
  intro earlier other later shape
  rcases split_of_concat shape with
    ⟨rfl, rfl, rfl⟩ | ⟨between, rfl, samePicked⟩
  · exact isEligible
  · exact placed earlier other between samePicked

section Bounds

variable {optimizer : PortfolioOptimizer} {picked : List PortfolioCandidate}

theorem Placed.last_eligible (placed : optimizer.Placed picked) (nonempty : picked ≠ []) :
    ∃ (earlier : List PortfolioCandidate) (candidate : PortfolioCandidate),
      picked = earlier ++ [candidate] ∧
      optimizer.Eligible earlier candidate := by
  rcases List.eq_nil_or_concat' picked with isEmpty | ⟨earlier, last, shape⟩
  · exact absurd isEmpty nonempty
  · exact ⟨earlier, last, shape, placed earlier last [] shape⟩

theorem Placed.length_le (placed : optimizer.Placed picked) :
    (picked.length : Int) ≤ optimizer.totalSlotLimit.val := by
  by_cases isEmpty : picked = []
  · subst isEmpty
    exact optimizer.totalSlotLimit.lower
  · obtain ⟨earlier, candidate, shape, isEligible⟩ := placed.last_eligible isEmpty
    have slotLeft := isEligible.slotLeft
    rw [Multiset.coe_card] at slotLeft
    rw [shape, List.length_append, List.length_singleton]
    exact slotLeft

theorem totalSlotLimit_le (optimizer : PortfolioOptimizer) :
    optimizer.totalSlotLimit.val ≤
      optimizer.config.maxDispatches.val + optimizer.config.experimentalDispatchBudget.val :=
  Ranged.val_wrap_le
    (Int.add_nonneg optimizer.config.maxDispatches.lower
      optimizer.config.experimentalDispatchBudget.lower)

theorem Placed.cost_le (placed : optimizer.Placed picked)
    (hasBudget : 0 < optimizer.config.costBudget) :
    (picked.map PortfolioCandidate.units).sum ≤
      optimizer.config.costBudget := by
  by_cases isEmpty : picked = []
  · subst isEmpty
    exact hasBudget.le
  · obtain ⟨earlier, candidate, shape, isEligible⟩ := placed.last_eligible isEmpty
    have affordable := isEligible.affordable hasBudget
    rw [Multiset.map_coe, Multiset.sum_coe] at affordable
    rw [shape, List.map_append, List.sum_append, List.map_singleton, List.sum_singleton]
    exact affordable

theorem Placed.eligible_at (placed : optimizer.Placed picked) {index : Nat}
    {candidate : PortfolioCandidate} (isPicked : picked[index]? = some candidate) :
    optimizer.Eligible (picked.take index) candidate ∧ (picked.take index).length = index := by
  obtain ⟨inRange, -⟩ := List.getElem?_eq_some_iff.mp isPicked
  constructor
  · exact placed _ _ _ (split_of_getElem? isPicked)
  · rw [List.length_take]
    exact min_eq_left inRange.le

end Bounds

/-- A round of the loop, with the candidates taken before it in their order. -/
structure LoopPosition where
  picked : List PortfolioCandidate
  round : SelectionRound

def LoopPosition.standing
    (position : LoopPosition) : Selection PortfolioCandidate ℚ where
  taken := position.picked
  pool := position.round.remaining
  gained := position.round.totalExpectedFans

def firstPosition (candidates : List PortfolioCandidate) : LoopPosition where
  picked := []
  round := firstRound candidates

/-- One round that takes a candidate. -/
inductive Advances (optimizer : PortfolioOptimizer) :
    LoopPosition → LoopPosition → Prop
  | take
      {picked : List PortfolioCandidate}
      {round : SelectionRound}
      {index : Nat}
      {best : MarginalAdjustments}
      {candidate : PortfolioCandidate}
      (slotLeft : round.selected.length < optimizer.totalSlotLimit.val)
      (decided : optimizer.verdict round = .take index best)
      (isPlace : round.remaining[index]? = some candidate) :
      Advances optimizer
        ⟨picked, round⟩
        ⟨picked ++ [candidate], optimizer.accept round index best candidate⟩

/-- What the loop's variables say of the candidates taken so far. -/
structure Tracks
    (optimizer : PortfolioOptimizer)
    (candidates picked : List PortfolioCandidate)
    (round : SelectionRound) : Prop where
  selectedPicked :
    round.selected = picked.map PortfolioCandidate.dispatched
  allPlaced : (picked ++ round.remaining).Perm candidates
  audienceCounted :
    ∀ key, round.audienceCounts key =
      picked.countP fun other => other.audienceKey = key
  actCounted :
    ∀ act, round.actCounts act = picked.countP fun other => other.act = act
  costSummed :
    round.totalCost = (picked.map PortfolioCandidate.units).sum
  slotsCounted :
    round.experimentalSlotsUsed =
      picked.length - optimizer.config.maxDispatches.val.toNat
  nothingRejected : round.rejected = []
  placed : optimizer.Placed picked

theorem ranked_perm (candidates : List PortfolioCandidate) : (ranked candidates).Perm candidates :=
  List.perm_insertionSort _ candidates

theorem firstRound_tracks :
    optimizer.Tracks candidates [] (firstRound candidates) where
  selectedPicked := rfl
  allPlaced := ranked_perm candidates
  audienceCounted _ := rfl
  actCounted _ := rfl
  costSummed := rfl
  slotsCounted := (Nat.zero_sub _).symm
  nothingRejected := rfl
  placed := placed_nil optimizer

theorem firstPosition_standing (candidates : List PortfolioCandidate) :
    (firstPosition candidates).standing = start candidates := by
  unfold LoopPosition.standing firstPosition firstRound start
  rw [Multiset.coe_eq_coe.mpr (ranked_perm candidates)]
  rfl

variable {position : LoopPosition}

section Step

variable {optimizer : PortfolioOptimizer} {candidates picked : List PortfolioCandidate}
  {round : SelectionRound} {index : Nat} {best : MarginalAdjustments} {next : LoopPosition}

theorem Tracks.length_selected (tracks : optimizer.Tracks candidates picked round) :
    round.selected.length = picked.length := by
  rw [tracks.selectedPicked, List.length_map]

theorem provenOnlySkips_eq_false_iff (optimizer : PortfolioOptimizer)
    (selectedCount : Nat) (candidate : PortfolioCandidate) :
    optimizer.provenOnlySkips selectedCount candidate = false ↔
      ∀ base, optimizer.provenOnlyBeyond = some base →
        base.val ≤ selectedCount →
        candidate.isExperimental = false →
        candidate.audienceKey ∈ optimizer.provenAudiences := by
  unfold provenOnlySkips
  cases beyond : optimizer.provenOnlyBeyond with
  | none => simp
  | some base => cases candidate.isExperimental <;> simp

section

variable (tracks : optimizer.Tracks candidates picked round)
include tracks

theorem Tracks.extraSlot_iff (candidate : PortfolioCandidate) :
    (decide (optimizer.config.maxDispatches.val ≤ picked.length)
      && (!candidate.isExperimental
        || decide (optimizer.config.experimentalDispatchBudget.val ≤
            round.experimentalSlotsUsed))) = false ↔
      (optimizer.config.maxDispatches.val ≤ picked.length →
        candidate.isExperimental = true ∧
          ((picked.length - optimizer.config.maxDispatches.val.toNat :
              Nat) : Int) <
            optimizer.config.experimentalDispatchBudget.val) := by
  rw [tracks.slotsCounted]
  simp only [Bool.and_eq_false_imp, Bool.or_eq_false_iff,
    decide_eq_true_eq, decide_eq_false_iff_not, Bool.not_eq_false',
    not_le]

/-- While a slot is left, the scan passes over exactly the candidates that are
not eligible. -/
theorem Tracks.skips_eq_false_iff (slotLeft : round.selected.length < optimizer.totalSlotLimit.val)
    (candidate : PortfolioCandidate) :
    optimizer.skips round candidate = false ↔ optimizer.Eligible picked candidate := by
  rw [tracks.length_selected] at slotLeft
  unfold skips
  rw [Bool.or_eq_false_iff, Bool.or_eq_false_iff, tracks.length_selected,
    tracks.extraSlot_iff, provenOnlySkips_eq_false_iff,
    decide_eq_false_iff_not, not_and, not_lt, tracks.costSummed]
  constructor
  · rintro ⟨⟨affordable, extraSlot⟩, provenSlot⟩
    exact ⟨slotLeft, affordable, extraSlot, provenSlot⟩
  · rintro ⟨-, affordable, extraSlot, provenSlot⟩
    exact ⟨⟨affordable, extraSlot⟩, provenSlot⟩

/-- A candidate is scored when it is eligible, with the adjustments the taken
ones give it. -/
theorem Tracks.scored_eq (slotLeft : round.selected.length < optimizer.totalSlotLimit.val)
    (candidate : PortfolioCandidate) (score : MarginalAdjustments) :
    optimizer.scored round candidate = some score ↔
      optimizer.Eligible picked candidate ∧
      score = optimizer.adjustmentsBeside picked candidate := by
  unfold scored adjustmentsBeside
  rw [← tracks.skips_eq_false_iff slotLeft candidate,
    tracks.audienceCounted, tracks.actCounted, Multiset.coe_countP,
    Multiset.coe_countP]
  cases optimizer.skips round candidate with
  | true => simp
  | false => simp [eq_comm]

/-- The scan of a round finds nothing, or an eligible candidate no other one
beats. -/
theorem Tracks.bestRemaining_none (slotLeft : round.selected.length < optimizer.totalSlotLimit.val)
    (nothing : optimizer.bestRemaining round = none) (candidate : PortfolioCandidate)
    (isMember : candidate ∈ round.remaining) :
    ¬ optimizer.Eligible picked candidate := by
  intro isEligible
  have isScored := (tracks.scored_eq slotLeft candidate _).mpr ⟨isEligible, rfl⟩
  rw [firstBest_eq_none nothing candidate isMember] at isScored
  cases isScored

theorem Tracks.bestRemaining_some (slotLeft : round.selected.length < optimizer.totalSlotLimit.val)
    (found : optimizer.bestRemaining round = some (index, best)) :
    (∃ candidate, round.remaining[index]? = some candidate ∧
      optimizer.Eligible picked candidate ∧
      best = optimizer.adjustmentsBeside picked candidate) ∧
      ∀ other ∈ round.remaining,
        optimizer.Eligible picked other →
        (optimizer.adjustmentsBeside picked other).marginalY30 ≤ best.marginalY30 := by
  obtain ⟨⟨candidate, isPlace, isScored⟩, isPeak⟩ := firstBest_eq_some found
  constructor
  · exact ⟨candidate, isPlace,
      (tracks.scored_eq slotLeft candidate best).mp isScored⟩
  · intro other isMember isEligible
    exact isPeak other isMember _ ((tracks.scored_eq slotLeft other _).mpr ⟨isEligible, rfl⟩)

end

theorem verdict_take (takes : optimizer.verdict round = .take index best) :
    optimizer.bestRemaining round = some (index, best) ∧
      optimizer.worthTaking round.selected.length best.marginalY30 = true := by
  unfold verdict at takes
  cases found : optimizer.bestRemaining round with
  | none =>
    rw [found] at takes
    cases takes
  | some pair =>
    obtain ⟨place, peak⟩ := pair
    simp only [found] at takes
    by_cases worth : optimizer.worthTaking round.selected.length peak.marginalY30 = true
    · rw [if_pos worth] at takes
      cases takes
      exact ⟨rfl, worth⟩
    · rw [if_neg worth] at takes
      by_cases negative : peak.marginalY30 < 0
      · rw [if_pos negative] at takes
        cases takes
      · rw [if_neg negative] at takes
        cases takes

/-- A round that takes a candidate is one step of the greedy selection. -/
theorem Tracks.takes (tracks : optimizer.Tracks candidates picked round)
    (advances : optimizer.Advances ⟨picked, round⟩ next) :
    Takes optimizer.rules (LoopPosition.standing ⟨picked, round⟩) next.standing := by
  cases advances with
  | @take _ _ index best candidate slotLeft decided isPlace =>
    obtain ⟨found, worth⟩ := verdict_take decided
    obtain ⟨⟨sameCandidate, samePlace, isEligible, isBest⟩, isPeak⟩ :=
      tracks.bestRemaining_some slotLeft found
    rw [isPlace] at samePlace
    cases samePlace
    rw [tracks.length_selected] at worth
    subst isBest
    have pool :
        (round.remaining : Multiset PortfolioCandidate) =
          candidate ::ₘ (swapRemove round.remaining index : List PortfolioCandidate) :=
      Multiset.coe_eq_coe.mpr (perm_cons_swapRemove isPlace)
    have taken :
        ((picked ++ [candidate] : List PortfolioCandidate) :
            Multiset PortfolioCandidate) =
          candidate ::ₘ (picked : Multiset PortfolioCandidate) :=
      Multiset.coe_eq_coe.mpr (List.perm_append_singleton candidate picked)
    simp only [LoopPosition.standing, PortfolioOptimizer.accept]
    rw [pool, taken]
    refine Takes.best candidate isEligible ?_ worth
    intro other isMember otherEligible
    rw [← pool] at isMember
    exact isPeak other (Multiset.mem_coe.mp isMember) otherEligible

/-- Taking a candidate keeps the counters in step with what is taken. -/
theorem Tracks.advance (tracks : optimizer.Tracks candidates picked round)
    (advances : optimizer.Advances ⟨picked, round⟩ next) :
    optimizer.Tracks candidates next.picked next.round := by
  cases advances with
  | @take _ _ index best candidate slotLeft decided isPlace =>
    obtain ⟨⟨sameCandidate, samePlace, isEligible, -⟩, -⟩ :=
      tracks.bestRemaining_some slotLeft (verdict_take decided).1
    rw [isPlace] at samePlace
    cases samePlace
    exact
      { selectedPicked := by
          simp [PortfolioOptimizer.accept, tracks.selectedPicked]
        allPlaced := by
          refine List.Perm.trans ?_ tracks.allPlaced
          rw [List.append_assoc, List.singleton_append]
          exact (perm_cons_swapRemove isPlace).symm.append_left picked
        audienceCounted := by
          intro key
          rw [List.countP_append, ← tracks.audienceCounted]
          by_cases sameKey : candidate.audienceKey = key
          · subst sameKey
            simp [PortfolioOptimizer.accept]
          · simp [PortfolioOptimizer.accept, sameKey, Ne.symm sameKey]
        actCounted := by
          intro act
          rw [List.countP_append, ← tracks.actCounted]
          by_cases sameAct : candidate.act = act
          · subst sameAct
            simp [PortfolioOptimizer.accept]
          · simp [PortfolioOptimizer.accept, sameAct, Ne.symm sameAct]
        costSummed := by
          simp [PortfolioOptimizer.accept, tracks.costSummed]
        slotsCounted := by
          have lower := optimizer.config.maxDispatches.lower
          have extraSlot := isEligible.extraSlot
          rw [Multiset.coe_card] at extraSlot
          simp only [PortfolioOptimizer.accept, tracks.length_selected,
            tracks.slotsCounted, List.length_append,
            List.length_singleton]
          by_cases extra : optimizer.config.maxDispatches.val ≤ picked.length
          · rw [if_pos ⟨(extraSlot extra).1, extra⟩]
            omega
          · rw [if_neg fun both => extra both.2]
            omega
        nothingRejected := tracks.nothingRejected
        placed := tracks.placed.concat isEligible }

theorem tracks_of_run
    (run : Relation.ReflTransGen optimizer.Advances (firstPosition candidates) position) :
    optimizer.Tracks candidates position.picked position.round := by
  induction run with
  | refl => exact firstRound_tracks optimizer candidates
  | tail _ advances tracks => exact tracks.advance advances

theorem run_is_greedy
    (run : Relation.ReflTransGen optimizer.Advances (firstPosition candidates) position) :
    Relation.ReflTransGen (Takes optimizer.rules) (start candidates) position.standing := by
  induction run with
  | refl => rw [firstPosition_standing]
  | tail earlier advances greedy =>
    exact greedy.tail ((tracks_of_run earlier).takes advances)

end Step

/-- How the loop ends, and what it tells the rest of the pool. -/
inductive Stops
    (optimizer : PortfolioOptimizer)
    (round : SelectionRound) : RejectionReason → Prop
  | closed
      (noRound :
        ¬ (round.selected.length < optimizer.totalSlotLimit.val ∧
          round.remaining ≠ [])) :
      Stops optimizer round .maxDispatchesReached
  | decided
      {reason : RejectionReason}
      (slotLeft : round.selected.length < optimizer.totalSlotLimit.val)
      (stops : optimizer.verdict round = .stop reason) :
      Stops optimizer round reason

section Ending

variable {optimizer : PortfolioOptimizer} {candidates picked : List PortfolioCandidate}
  {round : SelectionRound} {reason : RejectionReason}

/-- A step needs an eligible candidate of the pool that is worth taking and no
worse than the others. -/
theorem finished_of_no_candidate
    (nobody :
      ∀ candidate ∈ round.remaining,
        optimizer.Eligible picked candidate →
        (∀ other ∈ round.remaining, optimizer.Eligible picked other →
          (optimizer.adjustmentsBeside picked other).marginalY30 ≤
            (optimizer.adjustmentsBeside picked candidate).marginalY30) →
        optimizer.worthTaking picked.length
            (optimizer.adjustmentsBeside picked candidate).marginalY30 =
          false) :
    Finished (Takes optimizer.rules) (LoopPosition.standing ⟨picked, round⟩) := by
  intro next step
  generalize isState : LoopPosition.standing ⟨picked, round⟩ = state at step
  cases step with
  | best candidate isEligible isPeak isWorthwhile =>
    injection isState with sameTaken samePool sameGained
    subst sameTaken
    rw [← samePool] at isPeak
    have isMember : candidate ∈ round.remaining := by
      rw [← Multiset.mem_coe, samePool]
      exact Multiset.mem_cons_self _ _
    have notWorth := nobody candidate isMember isEligible isPeak
    exact Bool.false_ne_true (notWorth.symm.trans isWorthwhile)

theorem finished_of_no_slot (noSlot : ¬ (picked.length : Int) < optimizer.totalSlotLimit.val) :
    Finished (Takes optimizer.rules) (LoopPosition.standing ⟨picked, round⟩) :=
  finished_of_no_candidate fun _ _ isEligible =>
    absurd isEligible.slotLeft noSlot

theorem finished_of_empty_pool (noPool : round.remaining = []) :
    Finished (Takes optimizer.rules) (LoopPosition.standing ⟨picked, round⟩) :=
  finished_of_no_candidate fun _ isMember => by
    rw [noPool] at isMember
    cases isMember

/-- A round stops when the greedy selection has nothing more to take. -/
theorem Tracks.finished_of_stop (tracks : optimizer.Tracks candidates picked round)
    (slotLeft : round.selected.length < optimizer.totalSlotLimit.val)
    (stops : optimizer.verdict round = .stop reason) :
    Finished (Takes optimizer.rules) (LoopPosition.standing ⟨picked, round⟩) := by
  refine finished_of_no_candidate ?_
  intro candidate isMember isEligible isPeak
  unfold verdict at stops
  cases found : optimizer.bestRemaining round with
  | none =>
    exact absurd isEligible (tracks.bestRemaining_none slotLeft found candidate isMember)
  | some pair =>
    obtain ⟨index, best⟩ := pair
    rw [found] at stops
    obtain ⟨⟨winner, isPlace, winnerEligible, isBest⟩, bestPeak⟩ :=
      tracks.bestRemaining_some slotLeft found
    have sameValue :
        (optimizer.adjustmentsBeside picked candidate).marginalY30 = best.marginalY30 := by
      refine le_antisymm (bestPeak candidate isMember isEligible) ?_
      rw [isBest]
      exact isPeak winner (List.mem_of_getElem? isPlace) winnerEligible
    rw [sameValue, ← tracks.length_selected]
    by_cases worth : optimizer.worthTaking round.selected.length best.marginalY30 = true
    · simp only [worth] at stops
      cases stops
    · exact Bool.eq_false_iff.mpr worth

@[simp] theorem rejectRemaining_twice (round : SelectionRound) (first second : RejectionReason) :
    (round.rejectRemaining first).rejectRemaining second = round.rejectRemaining first := by
  simp [SelectionRound.rejectRemaining]

theorem Tracks.finished_of_stops (tracks : optimizer.Tracks candidates picked round)
    (stops : optimizer.Stops round reason) :
    Finished (Takes optimizer.rules) (LoopPosition.standing ⟨picked, round⟩) := by
  cases stops with
  | closed noRound =>
    rcases not_and_or.mp noRound with noSlot | noPool
    · rw [tracks.length_selected] at noSlot
      exact finished_of_no_slot noSlot
    · exact finished_of_empty_pool (not_not.mp noPool)
  | decided slotLeft stops => exact tracks.finished_of_stop slotLeft stops

/-- From any tracked position the rounds run on to where the loop stops, and
reject the rest of the pool there for one reason. -/
theorem Tracks.rounds_end (tracks : optimizer.Tracks candidates picked round) {fuel : Nat}
    (enough : round.remaining.length ≤ fuel) :
    ∃ last reason,
      Relation.ReflTransGen optimizer.Advances ⟨picked, round⟩ last ∧
      optimizer.Stops last.round reason ∧
      (optimizer.rounds fuel round).rejectRemaining .maxDispatchesReached =
        last.round.rejectRemaining reason := by
  induction fuel generalizing picked round with
  | zero =>
    have noPool : round.remaining = [] := List.eq_nil_of_length_eq_zero (Nat.le_zero.mp enough)
    exact ⟨⟨picked, round⟩, .maxDispatchesReached, .refl,
      .closed fun isOpen => isOpen.2 noPool, rfl⟩
  | succ fuel inductionHypothesis =>
    unfold rounds
    by_cases isOpen : round.selected.length < optimizer.totalSlotLimit.val ∧ round.remaining ≠ []
    · rw [if_pos isOpen]
      cases decided : optimizer.verdict round with
      | stop reason =>
        exact ⟨⟨picked, round⟩, reason, .refl, .decided isOpen.1 decided,
          rejectRemaining_twice round reason _⟩
      | take index best =>
        obtain ⟨⟨candidate, isPlace, -⟩, -⟩ :=
          tracks.bestRemaining_some isOpen.1 (verdict_take decided).1
        simp only [isPlace]
        have advances : optimizer.Advances ⟨picked, round⟩ _ := .take isOpen.1 decided isPlace
        have shorter : (swapRemove round.remaining index).length ≤ fuel := by
          have lengths := (perm_cons_swapRemove isPlace).length_eq
          rw [List.length_cons] at lengths
          omega
        obtain ⟨last, reason, run, stops, ends⟩ :=
          inductionHypothesis (tracks.advance advances) shorter
        exact ⟨last, reason, .head advances run, stops, ends⟩
    · rw [if_neg isOpen]
      exact ⟨⟨picked, round⟩, .maxDispatchesReached, .refl, .closed isOpen, rfl⟩

theorem select_eq_lastRound (optimizer : PortfolioOptimizer)
    (candidates : List PortfolioCandidate) :
    optimizer.select candidates =
      { selected := (optimizer.lastRound candidates).selected
        rejected := (optimizer.lastRound candidates).rejected
        totalExpectedFans := (optimizer.lastRound candidates).totalExpectedFans
        doNothing := (optimizer.lastRound candidates).selected.isEmpty
        waitReason := none
        marginalAdjustments := (optimizer.lastRound candidates).marginalAdjustments } := by
  cases candidates with
  | nil => rfl
  | cons first rest => rfl

/-- What `select` returns of a list of candidates: the portfolio the loop ends
with, and the rest of the pool rejected for one reason. -/
structure Outcome
    (optimizer : PortfolioOptimizer)
    (candidates : List PortfolioCandidate)
    (last : LoopPosition)
    (reason : RejectionReason) : Prop where
  tracks : optimizer.Tracks candidates last.picked last.round
  finished : Finished (Takes optimizer.rules) last.standing
  selected :
    (optimizer.select candidates).selected =
      last.picked.map PortfolioCandidate.dispatched
  rejected :
    (optimizer.select candidates).rejected =
      last.round.remaining.map (PortfolioCandidate.rejection reason)
  expectedFans :
    (optimizer.select candidates).totalExpectedFans =
      last.round.totalExpectedFans
  idle :
    (optimizer.select candidates).doNothing = true ↔
      (optimizer.select candidates).selected = []

theorem rounds_of_run
    (run : Relation.ReflTransGen optimizer.Advances (firstPosition candidates) position)
    (spare : Nat) :
    optimizer.rounds (position.picked.length + spare) (firstRound candidates) =
      optimizer.rounds spare position.round := by
  induction run generalizing spare with
  | refl => rw [firstPosition, List.length_nil, Nat.zero_add]
  | tail _ advances inductionHypothesis =>
    cases advances with
    | @take picked round index best candidate slotLeft decided isPlace =>
      have pool : round.remaining ≠ [] := by
        intro isEmpty
        rw [isEmpty] at isPlace
        cases isPlace
      rw [List.length_append, List.length_singleton, Nat.add_assoc,
        Nat.add_comm 1 spare, inductionHypothesis (spare + 1)]
      conv_lhs => unfold rounds
      rw [if_pos ⟨slotLeft, pool⟩]
      simp only [decided, isPlace]

theorem exists_lastRound {position : LoopPosition}
    (run : Relation.ReflTransGen optimizer.Advances (firstPosition candidates) position) :
    ∃ last reason,
      Relation.ReflTransGen optimizer.Advances position last ∧
      optimizer.Stops last.round reason ∧
      optimizer.lastRound candidates = last.round.rejectRemaining reason := by
  have tracks := tracks_of_run run
  obtain ⟨last, reason, later, stops, ends⟩ := tracks.rounds_end le_rfl
  have fuel : candidates.length = position.picked.length + position.round.remaining.length := by
    rw [← tracks.allPlaced.length_eq, List.length_append]
  refine ⟨last, reason, later, stops, ?_⟩
  unfold lastRound
  rw [fuel, rounds_of_run run]
  exact ends

theorem outcome_of_lastRound {last : LoopPosition}
    (run : Relation.ReflTransGen optimizer.Advances (firstPosition candidates) last)
    (stops : optimizer.Stops last.round reason)
    (isLast : optimizer.lastRound candidates = last.round.rejectRemaining reason) :
    optimizer.Outcome candidates last reason := by
  have tracks := tracks_of_run run
  refine ⟨tracks, tracks.finished_of_stops stops, ?_, ?_, ?_, ?_⟩
  · rw [select_eq_lastRound, isLast]
    exact tracks.selectedPicked
  · rw [select_eq_lastRound, isLast]
    simp only [SelectionRound.rejectRemaining]
    rw [tracks.nothingRejected, List.nil_append]
  · rw [select_eq_lastRound, isLast]
    rfl
  · rw [select_eq_lastRound]
    exact List.isEmpty_iff

theorem exists_outcome
    (run : Relation.ReflTransGen optimizer.Advances (firstPosition candidates) position) :
    ∃ last reason,
      Relation.ReflTransGen optimizer.Advances position last ∧
      optimizer.Outcome candidates last reason := by
  obtain ⟨last, reason, later, stops, isLast⟩ := exists_lastRound run
  exact ⟨last, reason, later, outcome_of_lastRound (run.trans later) stops isLast⟩

theorem exists_ending (optimizer : PortfolioOptimizer) (candidates : List PortfolioCandidate) :
    ∃ last reason,
      Relation.ReflTransGen optimizer.Advances (firstPosition candidates) last ∧
      optimizer.Stops last.round reason ∧
      optimizer.lastRound candidates = last.round.rejectRemaining reason ∧
      optimizer.Outcome candidates last reason := by
  obtain ⟨last, reason, run, stops, isLast⟩ := @exists_lastRound optimizer candidates _ .refl
  exact ⟨last, reason, run, stops, isLast, outcome_of_lastRound run stops isLast⟩

end Ending

/-- Selecting a portfolio splits the candidates in two: the picked ones, each
sent out in its dispatch mode, and the others, each rejected under its key.
The slots, the experimental slots, the proven audiences and the cost budget
all hold of what is sent out, and nothing is done when that is nothing. -/
theorem selection_is_budgeted_partition
    (optimizer : PortfolioOptimizer)
    (candidates : List PortfolioCandidate) :
    (∃ (picked left : List PortfolioCandidate) (reason : RejectionReason),
      (picked ++ left).Perm candidates ∧
      (optimizer.select candidates).selected = picked.map PortfolioCandidate.dispatched ∧
      (optimizer.select candidates).rejected = left.map (PortfolioCandidate.rejection reason)) ∧
    ((optimizer.select candidates).selected.length : Int) ≤
      optimizer.config.maxDispatches.val
        + optimizer.config.experimentalDispatchBudget.val ∧
    (∀ (index : Nat) (candidate : PortfolioCandidate),
      (optimizer.select candidates).selected[index]? = some candidate →
      optimizer.config.maxDispatches.val ≤ index →
      candidate.isExperimental = true) ∧
    (∀ (base : U32) (index : Nat) (candidate : PortfolioCandidate),
      optimizer.provenOnlyBeyond = some base →
      (optimizer.select candidates).selected[index]? = some candidate →
      base.val ≤ index →
      candidate.isExperimental = false →
      candidate.audienceKey ∈ optimizer.provenAudiences) ∧
    (0 < optimizer.config.costBudget →
      ((optimizer.select candidates).selected.map
          PortfolioCandidate.units).sum ≤
        optimizer.config.costBudget) ∧
    ((optimizer.select candidates).doNothing = true ↔
      (optimizer.select candidates).selected = []) := by
  obtain ⟨last, reason, -, -, -, outcome⟩ := optimizer.exists_ending candidates
  have placed := outcome.tracks.placed
  have isSelected := outcome.selected
  have selectedAt :
      ∀ (index : Nat) (candidate : PortfolioCandidate),
        (optimizer.select candidates).selected[index]? = some candidate →
        ∃ original,
          candidate = original.dispatched ∧
          optimizer.Eligible (last.picked.take index) original ∧
          (last.picked.take index).length = index := by
    intro index candidate isAt
    rw [isSelected, List.getElem?_map, Option.map_eq_some_iff] at isAt
    obtain ⟨original, isOriginal, isDispatched⟩ := isAt
    exact ⟨original, isDispatched.symm, placed.eligible_at isOriginal⟩
  refine ⟨⟨last.picked, last.round.remaining, reason,
      outcome.tracks.allPlaced, isSelected, outcome.rejected⟩,
    ?_, ?_, ?_, ?_, outcome.idle⟩
  · rw [isSelected, List.length_map]
    exact placed.length_le.trans optimizer.totalSlotLimit_le
  · intro index candidate isAt beyond
    obtain ⟨original, isDispatched, isEligible, isIndex⟩ := selectedAt index candidate isAt
    have extraSlot := isEligible.extraSlot
    rw [Multiset.coe_card, isIndex] at extraSlot
    rw [isDispatched]
    exact (extraSlot beyond).1
  · intro base index candidate isBase isAt beyond notExperimental
    obtain ⟨original, isDispatched, isEligible, isIndex⟩ := selectedAt index candidate isAt
    have provenSlot := isEligible.provenSlot base isBase
    rw [Multiset.coe_card, isIndex] at provenSlot
    rw [isDispatched] at notExperimental ⊢
    exact provenSlot beyond notExperimental
  · intro hasBudget
    rw [isSelected, List.map_map]
    exact placed.cost_le hasBudget

end PortfolioOptimizer

end CrowdRelay
