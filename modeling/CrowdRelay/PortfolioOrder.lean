import CrowdRelay.PortfolioPartition
import CrowdRelay.StableRanking

namespace CrowdRelay

open MachineInt GreedySelection

/-!
# Portfolio selection and arrival order

The scan takes the first of several candidates of the same marginal value, and
what is first goes back to the order the candidates arrived in.  The outcome is
free of that order exactly when every tie that orders of arrival resolve
differently is harmless.
-/

def PortfolioSelection.opportunityKeys
    (selection : PortfolioSelection) : List String :=
  selection.selected.map PortfolioCandidate.key

/-- The same opportunities are selected, and as much is expected of them. -/
structure PortfolioSelection.Agrees
    (one other : PortfolioSelection) : Prop where
  sameKeys :
    ∀ key, key ∈ one.opportunityKeys ↔ key ∈ other.opportunityKeys
  sameFans : one.totalExpectedFans = other.totalExpectedFans

namespace PortfolioOptimizer

section Arrival

variable {optimizer : PortfolioOptimizer} {candidates arrival : List PortfolioCandidate}
  {other : List PortfolioCandidate} {last otherLast : LoopPosition}
  {reason otherReason : RejectionReason}

inductive ArrivalStep
    (optimizer : PortfolioOptimizer)
    (candidates : List PortfolioCandidate) :
    Selection PortfolioCandidate ℚ → Selection PortfolioCandidate ℚ → Prop
  | round
      {arrival : List PortfolioCandidate}
      {before after : LoopPosition}
      (reordered : arrival.Perm candidates)
      (run :
        Relation.ReflTransGen optimizer.Advances
          (firstPosition arrival) before)
      (advances : optimizer.Advances before after) :
      ArrivalStep optimizer candidates before.standing after.standing

theorem ArrivalStep.takes {state next : Selection PortfolioCandidate ℚ}
    (step : optimizer.ArrivalStep candidates state next) :
    Takes optimizer.rules state next := by
  cases step with
  | round reordered run advances => exact (tracks_of_run run).takes advances

theorem ArrivalStep.shrinks (state next : Selection PortfolioCandidate ℚ)
    (step : optimizer.ArrivalStep candidates state next) :
    next.pool.card < state.pool.card :=
  Takes.shrinks optimizer.rules state next step.takes

theorem arrivalSteps_of_run {before after : LoopPosition} (reordered : arrival.Perm candidates)
    (run : Relation.ReflTransGen optimizer.Advances (firstPosition arrival) before)
    (later : Relation.ReflTransGen optimizer.Advances before after) :
    Relation.ReflTransGen (optimizer.ArrivalStep candidates) before.standing after.standing := by
  induction later with
  | refl => exact .refl
  | tail earlier advances steps =>
    exact steps.tail (.round reordered (run.trans earlier) advances)

/-- Whatever the order of arrival, its outcome ends a run of such steps from
one and the same start. -/
theorem exists_arrival_outcome (optimizer : PortfolioOptimizer)
    (reordered : arrival.Perm candidates) :
    ∃ last reason,
      optimizer.Outcome arrival last reason ∧
      Relation.ReflTransGen (optimizer.ArrivalStep candidates) (start candidates) last.standing ∧
      Finished (optimizer.ArrivalStep candidates) last.standing := by
  have begun :
      Relation.ReflTransGen optimizer.Advances (firstPosition arrival) (firstPosition arrival) :=
    .refl
  obtain ⟨last, reason, run, outcome⟩ := exists_outcome begun
  have steps := arrivalSteps_of_run reordered begun run
  have sameStart : start arrival = start candidates := by
    unfold start
    rw [Multiset.coe_eq_coe.mpr reordered]
  rw [firstPosition_standing, sameStart] at steps
  exact ⟨last, reason, outcome, steps, fun next step => outcome.finished next step.takes⟩

theorem Outcome.opportunityKeys {last : LoopPosition} {reason : RejectionReason}
    (outcome : optimizer.Outcome arrival last reason) :
    (optimizer.select arrival).opportunityKeys = last.picked.map PortfolioCandidate.key := by
  unfold PortfolioSelection.opportunityKeys
  rw [outcome.selected, List.map_map]
  rfl

theorem agrees_of_standing_eq (outcome : optimizer.Outcome arrival last reason)
    (otherOutcome : optimizer.Outcome other otherLast otherReason)
    (sameStanding : last.standing = otherLast.standing) :
    (optimizer.select arrival).Agrees (optimizer.select other) := by
  injection sameStanding with sameTaken _ sameGained
  have samePicked : last.picked.Perm otherLast.picked := Multiset.coe_eq_coe.mp sameTaken
  constructor
  · intro key
    rw [outcome.opportunityKeys, otherOutcome.opportunityKeys]
    exact (samePicked.map _).mem_iff
  · rw [outcome.expectedFans, otherOutcome.expectedFans]
    exact sameGained

/-- The picked candidates of a list without repeated keys are known by their
keys. -/
theorem picked_perm_of_sameKeys (distinctKeys : (candidates.map PortfolioCandidate.key).Nodup)
    {picked left otherPicked otherLeft : List PortfolioCandidate}
    (split : (picked ++ left).Perm candidates)
    (otherSplit : (otherPicked ++ otherLeft).Perm candidates)
    (sameKeys :
      ∀ key, key ∈ picked.map PortfolioCandidate.key ↔
        key ∈ otherPicked.map PortfolioCandidate.key) :
    picked.Perm otherPicked := by
  have distinct : candidates.Nodup := distinctKeys.of_map _
  have pickedNodup : picked.Nodup := (List.nodup_append.mp (split.nodup_iff.mpr distinct)).1
  have otherNodup : otherPicked.Nodup :=
    (List.nodup_append.mp (otherSplit.nodup_iff.mpr distinct)).1
  have fromKeys :
      ∀ {one other : List PortfolioCandidate},
        (∀ candidate ∈ one, candidate ∈ candidates) →
        (∀ candidate ∈ other, candidate ∈ candidates) →
        (∀ key, key ∈ one.map PortfolioCandidate.key → key ∈ other.map PortfolioCandidate.key) →
        ∀ candidate ∈ one, candidate ∈ other := by
    intro one other oneIn otherIn keysIn candidate isMember
    obtain ⟨same, sameMember, sameKey⟩ := List.mem_map.mp (keysIn _ (List.mem_map_of_mem isMember))
    have isSame : same = candidate :=
      List.inj_on_of_nodup_map distinctKeys (otherIn same sameMember)
        (oneIn candidate isMember) sameKey
    rw [← isSame]
    exact sameMember
  have pickedIn : ∀ candidate ∈ picked, candidate ∈ candidates :=
    fun candidate isMember =>
      split.mem_iff.mp (List.mem_append_left left isMember)
  have otherIn : ∀ candidate ∈ otherPicked, candidate ∈ candidates :=
    fun candidate isMember =>
      otherSplit.mem_iff.mp (List.mem_append_left otherLeft isMember)
  refine (List.perm_ext_iff_of_nodup pickedNodup otherNodup).mpr ?_
  intro candidate
  exact ⟨fromKeys pickedIn otherIn (fun key => (sameKeys key).mp) candidate,
      fromKeys otherIn pickedIn (fun key => (sameKeys key).mpr) candidate⟩

/-- Without repeated keys one outcome is one standing at the end. -/
theorem standing_eq_of_agrees (distinctKeys : (candidates.map PortfolioCandidate.key).Nodup)
    (reordered : arrival.Perm candidates) (otherReordered : other.Perm candidates)
    (outcome : optimizer.Outcome arrival last reason)
    (otherOutcome : optimizer.Outcome other otherLast otherReason)
    (agrees : (optimizer.select arrival).Agrees (optimizer.select other)) :
    last.standing = otherLast.standing := by
  have split := outcome.tracks.allPlaced.trans reordered
  have otherSplit := otherOutcome.tracks.allPlaced.trans otherReordered
  have sameKeys := agrees.sameKeys
  rw [outcome.opportunityKeys, otherOutcome.opportunityKeys] at sameKeys
  have samePicked := picked_perm_of_sameKeys distinctKeys split otherSplit sameKeys
  have samePool : last.round.remaining.Perm otherLast.round.remaining := by
    refine (List.perm_append_left_iff otherLast.picked).mp ?_
    calc
      (otherLast.picked ++ last.round.remaining).Perm (last.picked ++ last.round.remaining) :=
        samePicked.symm.append_right _
      List.Perm _ candidates := split
      List.Perm _ (otherLast.picked ++ otherLast.round.remaining) := otherSplit.symm
  have sameFans := agrees.sameFans
  rw [outcome.expectedFans, otherOutcome.expectedFans] at sameFans
  unfold LoopPosition.standing
  rw [Multiset.coe_eq_coe.mpr samePicked, Multiset.coe_eq_coe.mpr samePool, sameFans]

end Arrival

def communityPost (target : String) (fans : ℚ) : PortfolioCandidate where
  opportunityId :=
    { templateId := "community-engager"
      target := target
      action := .post
      contextHash := "h" }
  act := 1
  audienceKey := "subreddit:" ++ target
  isExperimental := false
  decisionValue :=
    { expectedIncrementalY30 := fans
      uncertainty := 1
      estimationRegime := .y30Direct
      sampleSize := 20
      bridgeIsReliable := true
      resourceCostUnits := 1
      pragmaticValue := fans
      riskPenalty := none
      opportunityCost := 0
      economicValueFans := none
      harmFans := none
      uncertaintyPenalty := none
      decisionMode := .exploit }

def singleSlot : PortfolioOptimizer where
  config := { PortfolioConfig.default with maxDispatches := 1 }
  actHistory := fun _ => none
  provenOnlyBeyond := none
  provenAudiences := ∅

end PortfolioOptimizer

end CrowdRelay
