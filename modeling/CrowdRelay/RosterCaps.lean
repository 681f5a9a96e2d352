import Mathlib.Data.List.Flatten
import Mathlib.Data.List.Nodup
import CrowdRelay.RosterPlan

namespace CrowdRelay

open MachineInt Extremes GreedySelection StoppingLoop

/-!
# What the roster plan is held to

A plan stays within the packages of the period, plays no city twice, asks no
act twice, leaves alone who is heads down, and pairs only acts whose audiences
were measured apart.  Two steps of the planner can break this: a slot may be
filled in a city that already has one, and a city a corridor leaves over may
be booked after the corridor took the last package.
-/

section Clusters

variable {distanceKm : Point → Point → F64}

theorem foldl_takeCluster_subperm (positions : List Nat)
    (held : List (List (Nat × Point)) × List (Nat × Point)) :
    ((positions.foldl takeCluster held).2 ++ (positions.foldl takeCluster held).1.flatten).Subperm
      (held.2 ++ held.1.flatten) := by
  induction positions generalizing held with
  | nil => exact List.Subperm.refl _
  | cons position rest inductionHypothesis =>
    refine (inductionHypothesis _).trans ?_
    cases found : held.1[position]? with
    | none =>
      have fewer := (List.dropLast_sublist held.1).flatten
      simp only [takeCluster, found, Option.getD_none, List.append_nil,
        swapRemove_of_getElem?_eq_none found]
      exact (fewer.append_left held.2).subperm
    | some members =>
      simp only [takeCluster, found, Option.getD_some, List.append_assoc]
      have kept := (perm_cons_swapRemove found).flatten
      simp only [List.flatten_cons] at kept
      exact (kept.symm.append_left held.2).subperm

theorem joinClusters_subperm (clusters : List (List (Nat × Point))) (place : Nat × Point) :
    (joinClusters distanceKm clusters place).flatten.Subperm (place :: clusters.flatten) := by
  unfold joinClusters
  split
  · simpa using
      (List.perm_append_singleton place clusters.flatten).subperm
  next anchor others _ =>
    have folded := foldl_takeCluster_subperm others.reverse (clusters, [place])
    simp only [List.singleton_append] at folded
    refine List.Subperm.trans ?_ folded
    generalize others.reverse.foldl takeCluster (clusters, [place]) = held
    simp only
    split
    next members found =>
      obtain ⟨inRange, isMembers⟩ := List.getElem?_eq_some_iff.mp found
      have replaced := (List.set_perm_cons_eraseIdx inRange (members ++ held.2)).flatten
      have original := (List.getElem_cons_eraseIdx_perm inRange).flatten
      simp only [isMembers, List.flatten_cons] at replaced original
      refine (replaced.trans ?_).subperm
      calc
        (members ++ held.2 ++ (held.1.eraseIdx anchor).flatten).Perm
            (held.2 ++ members ++ (held.1.eraseIdx anchor).flatten) :=
          List.perm_append_comm.append_right _
        List.Perm _ (held.2 ++ (members ++ (held.1.eraseIdx anchor).flatten)) :=
          List.Perm.of_eq (List.append_assoc ..)
        List.Perm _ (held.2 ++ held.1.flatten) := original.append_left _
    · exact (List.sublist_append_right _ _).subperm

theorem foldl_joinClusters_subperm (places : List (Nat × Point))
    (clusters : List (List (Nat × Point))) :
    (places.foldl (joinClusters distanceKm) clusters).flatten.Subperm
      (places ++ clusters.flatten) := by
  induction places generalizing clusters with
  | nil => exact List.Subperm.refl _
  | cons place rest inductionHypothesis =>
    refine (inductionHypothesis _).trans ?_
    refine (List.Subperm.append (List.Subperm.refl rest)
      (joinClusters_subperm clusters place)).trans ?_
    exact List.perm_middle.subperm

theorem locatedCities_nodup (cities : List CityOpportunity) :
    ((locatedCities cities).map Prod.fst).Nodup := by
  have places : (cities.zipIdx.map Prod.snd).Nodup := by
    simp [List.zipIdx_map_snd, List.nodup_range']
  refine places.sublist ?_
  unfold locatedCities
  induction cities.zipIdx with
  | nil => exact List.Sublist.refl _
  | cons place rest inductionHypothesis =>
    cases located : place.1.point with
    | none => simpa [located] using inductionHypothesis.cons place.2
    | some point => simpa [located] using inductionHypothesis

theorem corridorClusters_nodup (distanceKm : Point → Point → F64) (cities : List CityOpportunity) :
    (corridorClusters distanceKm cities).flatten.Nodup := by
  let joined := (locatedCities cities).foldl (joinClusters distanceKm) []
  have fewer : joined.flatten.Subperm (locatedCities cities) := by
    simpa using foldl_joinClusters_subperm (locatedCities cities) []
  have joinedNodup : (joined.flatten.map Prod.fst).Nodup := by
    obtain ⟨same, rearranged, within⟩ := fewer
    have sameNodup : (same.map Prod.fst).Nodup :=
      (locatedCities_nodup cities).sublist (within.map Prod.fst)
    exact (rearranged.map Prod.fst).nodup_iff.mp sameNodup
  have kept :
      (corridorClusters distanceKm cities).flatten.Sublist (joined.flatten.map Prod.fst) := by
    rw [List.map_flatten]
    exact (List.filter_sublist.map _).flatten
  exact joinedNodup.sublist kept

end Clusters

section Legs

variable (headliner : RosterAct) (packagesLeft : Nat) (legs : List CityOpportunity)
  (distanceKm : Point → Point → F64)

theorem length_survivingLegs_le :
    (survivingLegs headliner packagesLeft legs).length ≤ packagesLeft := by
  refine loop_invariant (fun survivors : List SurvivingLeg => survivors.length ≤ packagesLeft)
    ?_ (Nat.zero_le _)
  intro survivors leg _ running within
  have room : survivors.length < packagesLeft := by
    simpa using running
  unfold keepLeg
  split
  · simpa using Nat.succ_le_of_lt room
  · exact within

theorem map_fst_survivingLegs_sublist :
    ((survivingLegs headliner packagesLeft legs).map Prod.fst).Sublist
      legs := by
  have general :
      ∀ survivors : List SurvivingLeg,
        ∃ kept : List CityOpportunity,
          kept.Sublist legs ∧
            (loop (fun survivors => decide (packagesLeft ≤ survivors.length))
              (keepLeg headliner) legs survivors).map Prod.fst =
              survivors.map Prod.fst ++ kept := by
    induction legs with
    | nil =>
      intro survivors
      exact ⟨[], List.Sublist.refl _, by simp⟩
    | cons leg rest inductionHypothesis =>
      intro survivors
      by_cases full : packagesLeft ≤ survivors.length
      · exact ⟨[], List.nil_sublist _, by
          simp [loop_stopped, full]⟩
      · obtain ⟨kept, within, shape⟩ := inductionHypothesis (keepLeg headliner survivors leg)
        rw [loop_cons (by simpa using full), shape]
        unfold keepLeg
        split
        · exact ⟨leg :: kept, within.cons_cons leg, by simp⟩
        · exact ⟨kept, within.cons leg, rfl⟩
  obtain ⟨kept, within, shape⟩ := general []
  rw [survivingLegs, shape]
  simpa using within

theorem chainLegs_subperm (hops : Nat) (last : SurvivingLeg) (remaining : List SurvivingLeg) :
    (chainLegs distanceKm hops last remaining).Subperm remaining := by
  induction hops generalizing last remaining with
  | zero => exact List.nil_subperm
  | succ hops inductionHypothesis =>
    unfold chainLegs
    split
    · exact List.nil_subperm
    next index next isNext =>
      have found : remaining[index]? = some next := by
        simp only [Option.bind_eq_some_iff, Option.map_eq_some_iff, Prod.mk.injEq] at isNext
        obtain ⟨_, _, _, _, _, found, sameIndex, sameLeg⟩ := isNext
        rw [← sameIndex, ← sameLeg]
        exact found
      have rest := inductionHypothesis next (swapRemove remaining index)
      exact (List.subperm_cons next |>.mpr rest).trans (perm_cons_swapRemove found).symm.subperm

theorem orderCorridorLegs_subperm (headliner : RosterAct) (survivors : List SurvivingLeg) :
    (orderCorridorLegs distanceKm headliner survivors).Subperm survivors := by
  have sorted := List.perm_insertionSort
    (fun left right => (compareLegs headliner left right).isLE = true)
    survivors
  unfold orderCorridorLegs
  split
  · exact List.nil_subperm
  next anchor remaining isSorted =>
    rw [isSorted] at sorted
    have chained := chainLegs_subperm distanceKm remaining.length anchor remaining
    exact (List.subperm_cons anchor |>.mpr chained).trans sorted.subperm

end Legs

/-- The acts a move asks: the headliner of an open slot is booked already. -/
def RosterMove.proposed : RosterMove → List String
  | .fillSupportSlot _ _ _ _ support _ _ _ => [support]
  | .routeCorridor headliner legs _ _ =>
    headliner :: legs.filterMap CorridorLeg.support
  | .bookPackage _ _ headliner support _ _ _ _ _ => headliner :: support.toList

def RosterMove.isSlot : RosterMove → Bool
  | .fillSupportSlot .. => true
  | .routeCorridor .. | .bookPackage .. => false

/-- An act measured under a headliner in a city, where it shares at most 6000
basis points of its audience and adds at least one person. -/
def MeasuredSupport (opportunity : RosterOpportunity) (headliner : String) (city : Uuid)
    (support : String) :
    Prop :=
  ∃ act ∈ opportunity.acts, act.name = support ∧
    ∃ overlap reach,
      act.overlapWithAct headliner city = some overlap ∧
        overlap.val ≤ 6000 ∧
        act.reachIn city = some reach ∧
        1 ≤ reach.val - reach.val * overlap.val / 10000

/-- A move of this roster, with the cities its nights are in. -/
inductive PlaysIn (opportunity : RosterOpportunity) :
    RosterMove → List Uuid → Prop where
  | slot
      (slot : OpenSupportSlot)
      (listed : slot ∈ opportunity.openSlots)
      (support : String)
      (adds : U32)
      (reasons : List Reason)
      (measured :
        MeasuredSupport opportunity slot.headliner slot.cityId support) :
      PlaysIn opportunity
        (.fillSupportSlot slot.city slot.venue slot.festivalName
          slot.headliner support adds slot.daysUntilShow reasons)
        [slot.cityId]
  | package
      (city : CityOpportunity)
      (listed : city ∈ opportunity.cities)
      (venue headliner : String)
      (support : Option String)
      (contact : List PromoterContact)
      (combined : U32)
      (reasons : List Reason)
      (caveats : List String)
      (note : Option String)
      (measured :
        ∀ name ∈ support,
          MeasuredSupport opportunity headliner city.cityId name) :
      PlaysIn opportunity
        (.bookPackage city.city venue headliner support contact combined
          reasons caveats note)
        [city.cityId]
  | corridor
      (headliner : String)
      (legs : List CorridorLeg)
      (total : U32)
      (note : Option String)
      (listed :
        ∀ leg ∈ legs, ∃ city ∈ opportunity.cities,
          leg.city = city.city ∧ leg.cityId = city.cityId)
      (measured :
        ∀ leg ∈ legs, ∀ name ∈ leg.support,
          MeasuredSupport opportunity headliner leg.cityId name) :
      PlaysIn opportunity
        (.routeCorridor headliner legs total note)
        (legs.map CorridorLeg.cityId)

/-- What a plan is held to, given the cities its nights are in. -/
structure RespectsCaps
    (opportunity : RosterOpportunity)
    (moves : List RosterMove)
    (cities : List Uuid) :
    Prop where
  played :
    ∃ nights : List (List Uuid),
      List.Forall₂ (PlaysIn opportunity) moves nights ∧
        nights.flatten = cities
  withinCap :
    (moves.map RosterMove.nights).sum ≤ opportunity.cap
  oneNightACity : cities.Nodup
  oneMoveAnAct :
    moves.Pairwise fun earlier later =>
      ∀ name ∈ earlier.proposed, name ∉ later.proposed
  headsDownLeftAlone :
    ∀ act ∈ opportunity.acts, act.intent = .headsDown →
      ∀ move ∈ moves, act.name ∉ move.proposed
  slotsFirst :
    moves.Pairwise fun earlier later =>
      later.isSlot = true → earlier.isSlot = true

/-- One move more, of acts that were free and available. -/
structure MoveAdded
    (opportunity : RosterOpportunity)
    (before : PlanState)
    (move : RosterMove)
    (cities : List Uuid)
    (after : PlanState) :
    Prop where
  moves : after.moves = before.moves ++ [move]
  committedCities :
    after.committedCities = before.committedCities ++ cities
  played : PlaysIn opportunity move cities
  committedActs :
    ∀ name, name ∈ after.committedActs ↔
      name ∈ before.committedActs ∨ name ∈ move.proposed
  free : ∀ name ∈ move.proposed, name ∉ before.committedActs
  available :
    ∀ name ∈ move.proposed,
      ∃ act ∈ opportunity.available, act.name = name

/-- Nothing more was planned. -/
structure NothingAdded (before after : PlanState) : Prop where
  moves : after.moves = before.moves
  committedCities : after.committedCities = before.committedCities
  committedActs : after.committedActs = before.committedActs
  packagesUsed : after.packagesUsed = before.packagesUsed

variable {opportunity : RosterOpportunity}

section Supports

variable {acts : List RosterAct} {city : Uuid} {adds : U32} {note : Option String}

theorem mem_freeActs {committedActs : List String} {act : RosterAct} :
    act ∈ freeActs acts committedActs ↔ act ∈ acts ∧ act.name ∉ committedActs := by
  simp [freeActs]

theorem supportAdds_eq_some {headliner act : RosterAct}
    (isAdded : supportAdds headliner city act = some adds) :
    ∃ overlap reach,
      act.overlapWithAct headliner.name city = some overlap ∧
        overlap.val ≤ 6000 ∧
        act.reachIn city = some reach ∧
        1 ≤ reach.val - reach.val * overlap.val / 10000 := by
  simp only [supportAdds, Option.bind_eq_some_iff,
    Option.ite_none_left_eq_some, Option.ite_none_right_eq_some] at isAdded
  obtain ⟨overlap, isOverlap, notAbove, reach, isReach, positive, _⟩ := isAdded
  have withinCeiling : overlap.val ≤ 6000 := by
    rw [Ranged.lt_iff_val, not_lt] at notAbove
    exact notAbove
  refine ⟨overlap, reach, isOverlap, withinCeiling, isReach, ?_⟩
  rw [Ranged.lt_iff_val, Ranged.val_saturatingSub] at positive
  have zero : (0 : U32).val = 0 := rfl
  rw [zero] at positive
  unfold Ranged.tryFrom at positive
  split at positive
  · simp only [Option.getD_some] at positive
    omega
  · simp only [Option.getD_none] at positive
    omega

theorem chooseSupport_eq_some {headliner act : RosterAct}
    (isChosen : chooseSupport acts headliner city = some (act, adds)) :
    act ∈ acts ∧ act.name ≠ headliner.name ∧ supportAdds headliner city act = some adds := by
  have member := maxBy_mem isChosen
  simp only [List.mem_filterMap, List.mem_filter, Option.map_eq_some_iff,
    Prod.mk.injEq, decide_eq_true_eq] at member
  obtain ⟨found, ⟨inActs, other⟩, _, isAdded, sameAct, sameAdds⟩ := member
  subst sameAct sameAdds
  exact ⟨inActs, other, isAdded⟩

theorem measuredSupport_of_chooseSupport
    (within : ∀ act ∈ acts, act ∈ opportunity.available) {headliner act : RosterAct}
    (isChosen : chooseSupport acts headliner city = some (act, adds)) :
    MeasuredSupport opportunity headliner.name city act.name := by
  obtain ⟨inActs, _, isAdded⟩ := chooseSupport_eq_some isChosen
  have listed : act ∈ opportunity.acts := List.mem_of_mem_filter (within act inActs)
  exact ⟨act, listed, rfl, supportAdds_eq_some isAdded⟩

theorem preferStarved_mem {note : RosterAct → RosterAct → String}
    {best headliner : RosterAct} {contender : Option RosterAct} {text : Option String}
    (bestMember : best ∈ acts) (contenderMember : ∀ act, contender = some act → act ∈ acts)
    (isPreferred : preferStarved note best contender = (headliner, text)) :
    headliner ∈ acts := by
  cases contender with
  | none =>
    simp only [preferStarved, Prod.mk.injEq] at isPreferred
    rw [← isPreferred.1]
    exact bestMember
  | some starved =>
    have starvedMember := contenderMember starved rfl
    by_cases bestStarved : best.isStarved = true
    · simp only [preferStarved, bestStarved, if_true,
        Prod.mk.injEq] at isPreferred
      rw [← isPreferred.1]
      exact bestMember
    · simp only [preferStarved, bestStarved, Bool.false_eq_true, if_false,
        Prod.mk.injEq] at isPreferred
      rw [← isPreferred.1]
      exact starvedMember

theorem chooseHeadliner_mem {headliner : RosterAct}
    (isChosen : chooseHeadliner acts city = some (headliner, note)) :
    headliner ∈ acts := by
  simp only [chooseHeadliner, Option.bind_eq_some_iff,
    Option.ite_none_left_eq_some, Option.some.injEq] at isChosen
  obtain ⟨best, isBest, _, _, _, isPreferred⟩ := isChosen
  refine preferStarved_mem (maxBy_mem isBest) ?_ isPreferred
  intro act isContender
  exact List.mem_of_mem_filter (maxBy_mem isContender)

theorem chooseCorridorHeadliner_mem {legs : List CityOpportunity} {headliner : RosterAct}
    (isChosen : chooseCorridorHeadliner acts legs = some (headliner, note)) :
    headliner ∈ acts := by
  simp only [chooseCorridorHeadliner, Option.bind_eq_some_iff,
    Option.ite_none_left_eq_some, Option.some.injEq] at isChosen
  obtain ⟨best, isBest, _, isPreferred⟩ := isChosen
  refine preferStarved_mem (maxBy_mem isBest) ?_ isPreferred
  intro act isContender
  exact List.mem_of_mem_filter (maxBy_mem isContender)

end Supports

variable {state : PlanState} {before after : PlanState}

section Steps

variable {city : CityOpportunity} {headliner : RosterAct} {cluster : List Nat}
  (distanceKm : Point → Point → F64)

theorem fillSlot_cases (state : PlanState) {slot : OpenSupportSlot}
    (listed : slot ∈ opportunity.openSlots) :
    ((slotSupport opportunity state slot).isSome = false ∧
        fillSlot opportunity state slot = state) ∨
      ((slotSupport opportunity state slot).isSome = true ∧
        ∃ move,
          MoveAdded opportunity state move [slot.cityId] (fillSlot opportunity state slot) ∧
            move.isSlot = true ∧
            (fillSlot opportunity state slot).packagesUsed = state.packagesUsed + 1) := by
  cases isSupport : slotSupport opportunity state slot with
  | none =>
    left
    simp [fillSlot, isSupport]
  | some chosen =>
    right
    obtain ⟨support, adds⟩ := chosen
    have chosenFrom := isSupport
    simp only [slotSupport, Option.ite_none_left_eq_some, Option.bind_eq_some_iff] at chosenFrom
    obtain ⟨_, headliner, isHeadliner, isChosen⟩ := chosenFrom
    have sameName : headliner.name = slot.headliner := by
      simpa using List.find?_some isHeadliner
    have within :
        ∀ act ∈ (freeActs opportunity.available state.committedActs).filter
            (fun act => act.name ≠ slot.headliner),
          act ∈ opportunity.available := fun act member =>
      (mem_freeActs.mp (List.mem_of_mem_filter member)).1
    obtain ⟨inActs, _, _⟩ := chooseSupport_eq_some isChosen
    have isFree := mem_freeActs.mp (List.mem_of_mem_filter inActs)
    have measured := measuredSupport_of_chooseSupport within isChosen
    rw [sameName] at measured
    refine ⟨rfl, .fillSupportSlot slot.city slot.venue slot.festivalName
      slot.headliner support.name adds slot.daysUntilShow
      [.coBillAddsAudience support.name adds,
        .reachableAudience ((support.reachIn slot.cityId).getD 0)],
      ⟨?_, ?_, ?_, ?_, ?_, ?_⟩, rfl, ?_⟩
    · simp [fillSlot, isSupport]
    · simp [fillSlot, isSupport]
    · exact PlaysIn.slot slot listed support.name adds _ measured
    · simp [fillSlot, isSupport, RosterMove.proposed]
    · simpa [RosterMove.proposed] using isFree.2
    · simpa [RosterMove.proposed] using
        ⟨support, isFree.1, rfl⟩
    · simp [fillSlot, isSupport]

theorem emitNight_added (listed : city ∈ opportunity.cities) (note : Option String) (plan : GigPlan)
    (isFree : headliner ∈ freeActs opportunity.available state.committedActs)
    {support : Option (RosterAct × U32)}
    (isSupport :
      ∀ chosen, support = some chosen →
        chooseSupport (freeActs opportunity.available state.committedActs)
          headliner city.cityId = some chosen) :
    MoveAdded opportunity state
      (.bookPackage city.city plan.venue headliner.name
        (support.map fun chosen => chosen.1.name) plan.contact
        (combinedReach plan support) (reasonsWith plan support)
        plan.caveats note)
      [city.cityId]
      (emitNight state city headliner note plan support) := by
  have within :
      ∀ act ∈ freeActs opportunity.available state.committedActs,
        act ∈ opportunity.available := fun act member =>
    (mem_freeActs.mp member).1
  have headlinerFree := mem_freeActs.mp isFree
  refine ⟨rfl, rfl, ?_, ?_, ?_, ?_⟩
  · refine PlaysIn.package city listed _ _ _ _ _ _ _ _ ?_
    intro name isName
    obtain ⟨⟨act, adds⟩, isChosen, rfl⟩ := Option.mem_map.mp isName
    exact measuredSupport_of_chooseSupport within (isSupport _ isChosen)
  · simp [emitNight, RosterMove.proposed]
  · intro name proposed
    rcases List.mem_cons.mp proposed with isHeadliner | isOpener
    · rw [isHeadliner]
      exact headlinerFree.2
    · obtain ⟨⟨act, adds⟩, isChosen, rfl⟩ :=
        Option.map_eq_some_iff.mp (Option.mem_toList.mp isOpener)
      have inActs := (chooseSupport_eq_some (isSupport _ isChosen)).1
      exact (mem_freeActs.mp inActs).2
  · intro name proposed
    rcases List.mem_cons.mp proposed with isHeadliner | isOpener
    · exact ⟨headliner, headlinerFree.1, isHeadliner.symm⟩
    · obtain ⟨⟨act, adds⟩, isChosen, rfl⟩ :=
        Option.map_eq_some_iff.mp (Option.mem_toList.mp isOpener)
      have inActs := (chooseSupport_eq_some (isSupport _ isChosen)).1
      exact ⟨act, within act inActs, rfl⟩

/-- A headliner is free for the city and the city clears their bar. -/
def Bookable (opportunity : RosterOpportunity) (state : PlanState) (city : CityOpportunity) :
    Prop :=
  ∃ headliner note plan,
    chooseHeadliner (freeActs opportunity.available state.committedActs)
        city.cityId = some (headliner, note) ∧
      planGig (asSeenBy city headliner) headliner.intent = .ok plan

theorem bookNight_cases (state : PlanState) (listed : city ∈ opportunity.cities) :
    (¬ Bookable opportunity state city ∧
        NothingAdded state (bookNight opportunity state city)) ∨
      (Bookable opportunity state city ∧
        ∃ move,
          MoveAdded opportunity state move [city.cityId] (bookNight opportunity state city) ∧
            move.isSlot = false ∧ move.nights = 1 ∧
            (bookNight opportunity state city).packagesUsed = state.packagesUsed + 1) := by
  cases isChosen :
      chooseHeadliner (freeActs opportunity.available state.committedActs) city.cityId with
  | none =>
    left
    constructor
    · rintro ⟨headliner, note, plan, chosen, _⟩
      rw [isChosen] at chosen
      simp at chosen
    · constructor <;> simp [bookNight, isChosen]
  | some chosen =>
    obtain ⟨headliner, note⟩ := chosen
    cases isPlanned : planGig (asSeenBy city headliner) headliner.intent with
    | error refusal =>
      left
      constructor
      · rintro ⟨other, otherNote, plan, chosenToo, plannedToo⟩
        rw [isChosen] at chosenToo
        simp only [Option.some.injEq, Prod.mk.injEq] at chosenToo
        rw [← chosenToo.1, isPlanned] at plannedToo
        simp at plannedToo
      · constructor <;> simp [bookNight, isChosen, isPlanned]
    | ok plan =>
      right
      refine ⟨⟨headliner, note, plan, isChosen, isPlanned⟩, ?_⟩
      have added := emitNight_added listed note plan (chooseHeadliner_mem isChosen)
          fun chosen isSupport => isSupport
      have booked :
          bookNight opportunity state city = emitNight state city headliner note plan
              (chooseSupport (freeActs opportunity.available state.committedActs)
                headliner city.cityId) := by
        simp [bookNight, isChosen, isPlanned]
      rw [booked]
      exact ⟨_, added, rfl, rfl, rfl⟩

theorem mem_openLegs {committedCities : List Uuid} {leg : CityOpportunity}
    (member : leg ∈ openLegs opportunity committedCities cluster) :
    leg ∈ opportunity.cities ∧ leg.cityId ∉ committedCities := by
  simp only [openLegs, List.mem_filter, List.mem_filterMap, decide_eq_true_eq] at member
  obtain ⟨⟨_, _, found⟩, isOpen⟩ := member
  exact ⟨List.mem_of_getElem? found, isOpen⟩

theorem openLegs_nodup (distinctCities : (opportunity.cities.map CityOpportunity.cityId).Nodup)
    (committedCities : List Uuid) (distinctPlaces : cluster.Nodup) :
    ((openLegs opportunity committedCities cluster).map CityOpportunity.cityId).Nodup := by
  have identified :
      ((cluster.filterMap fun index => opportunity.cities[index]?).map
        CityOpportunity.cityId).Nodup := by
    rw [List.map_filterMap]
    refine distinctPlaces.filterMap ?_
    intro first second city isFirst isSecond
    have firstFound : (opportunity.cities.map CityOpportunity.cityId)[first]? = some city := by
      simpa using isFirst
    have secondFound : (opportunity.cities.map CityOpportunity.cityId)[second]? = some city := by
      simpa using isSecond
    have inRange := (List.getElem?_eq_some_iff.mp firstFound).1
    exact (List.getElem?_inj inRange distinctCities).mp (firstFound.trans secondFound.symm)
  exact identified.sublist (List.filter_sublist.map _)

theorem mem_corridorSupports {legs : List CorridorLeg} {name : String} :
    name ∈ corridorSupports legs ↔ name ∈ legs.filterMap CorridorLeg.support := by
  have general :
      ∀ names held : List String,
        name ∈ names.foldl
            (fun supports next =>
              if next ∈ supports then supports else supports ++ [next])
            held ↔
          name ∈ held ∨ name ∈ names := by
    intro names
    induction names with
    | nil => simp
    | cons next rest inductionHypothesis =>
      intro held
      rw [List.foldl_cons, inductionHypothesis]
      by_cases known : next ∈ held
      · simp only [known, if_true, List.mem_cons]
        constructor
        · rintro (inHeld | inRest)
          · exact Or.inl inHeld
          · exact Or.inr (Or.inr inRest)
        · rintro (inHeld | isNext | inRest)
          · exact Or.inl inHeld
          · exact Or.inl (isNext ▸ known)
          · exact Or.inr inRest
      · simp [known, or_assoc]
  simpa [corridorSupports] using general (legs.filterMap CorridorLeg.support) []

def emittedLegs (opportunity : RosterOpportunity) (distanceKm : Point → Point → F64)
    (state : PlanState) (headliner : RosterAct) (survivors : List SurvivingLeg) :
    List CorridorLeg :=
  (orderCorridorLegs distanceKm headliner survivors).map
    (corridorLeg
      ((freeActs opportunity.available state.committedActs).filter
        fun act => act.name ≠ headliner.name)
      headliner)

theorem emitCorridor_added (note : Option String)
    (isFree : headliner ∈ freeActs opportunity.available state.committedActs)
    {survivors : List SurvivingLeg} (listed : ∀ leg ∈ survivors, leg.1 ∈ opportunity.cities) :
    ∃ total,
      MoveAdded opportunity state
        (.routeCorridor headliner.name
          (emittedLegs opportunity distanceKm state headliner survivors)
          total note)
        ((emittedLegs opportunity distanceKm state headliner survivors).map CorridorLeg.cityId)
        (emitCorridor opportunity distanceKm state headliner note survivors) := by
  have within :
      ∀ act ∈ (freeActs opportunity.available state.committedActs).filter
          (fun act => act.name ≠ headliner.name),
        act ∈ opportunity.available ∧ act.name ∉ state.committedActs :=
    fun act member => mem_freeActs.mp (List.mem_of_mem_filter member)
  have headlinerFree := mem_freeActs.mp isFree
  have legFrom :
      ∀ leg ∈ emittedLegs opportunity distanceKm state headliner survivors,
        ∃ survivor ∈ survivors,
          corridorLeg
            ((freeActs opportunity.available state.committedActs).filter
              fun act => act.name ≠ headliner.name)
            headliner survivor = leg := by
    intro leg member
    obtain ⟨survivor, ordered, isLeg⟩ := List.mem_map.mp member
    exact ⟨survivor, (orderCorridorLegs_subperm distanceKm headliner survivors).subset ordered,
      isLeg⟩
  have supportFree :
      ∀ leg ∈ emittedLegs opportunity distanceKm state headliner survivors,
        ∀ name ∈ leg.support,
          ∃ act adds,
            chooseSupport
              ((freeActs opportunity.available state.committedActs).filter
                fun act => act.name ≠ headliner.name)
              headliner leg.cityId = some (act, adds) ∧ act.name = name := by
    intro leg member name isName
    obtain ⟨survivor, _, rfl⟩ := legFrom leg member
    obtain ⟨⟨act, adds⟩, isChosen, rfl⟩ := Option.mem_map.mp isName
    exact ⟨act, adds, isChosen, rfl⟩
  refine ⟨_, rfl, rfl, PlaysIn.corridor _ _ _ _ ?_ ?_, ?_, ?_, ?_⟩
  · intro leg member
    obtain ⟨survivor, survives, rfl⟩ := legFrom leg member
    exact ⟨survivor.1, listed survivor survives, rfl, rfl⟩
  · intro leg member name isName
    obtain ⟨act, adds, isChosen, rfl⟩ := supportFree leg member name isName
    exact measuredSupport_of_chooseSupport (fun act member => (within act member).1) isChosen
  · intro name
    simp only [emitCorridor, RosterMove.proposed, List.mem_append,
      List.mem_cons, mem_corridorSupports]
    rfl
  · intro name proposed
    rcases List.mem_cons.mp proposed with isHeadliner | isOpener
    · rw [isHeadliner]
      exact headlinerFree.2
    · obtain ⟨leg, member, isName⟩ := List.mem_filterMap.mp isOpener
      obtain ⟨act, adds, isChosen, rfl⟩ := supportFree leg member name isName
      exact (within act (chooseSupport_eq_some isChosen).1).2
  · intro name proposed
    rcases List.mem_cons.mp proposed with isHeadliner | isOpener
    · exact ⟨headliner, headlinerFree.1, isHeadliner.symm⟩
    · obtain ⟨leg, member, isName⟩ := List.mem_filterMap.mp isOpener
      obtain ⟨act, adds, isChosen, rfl⟩ := supportFree leg member name isName
      exact ⟨act, (within act (chooseSupport_eq_some isChosen).1).1, rfl⟩

theorem emittedLegs_cities_subperm (opportunity : RosterOpportunity)
    (distanceKm : Point → Point → F64) (state : PlanState) (headliner : RosterAct)
    (packagesLeft : Nat) (legs : List CityOpportunity) :
    ((emittedLegs opportunity distanceKm state headliner
        (survivingLegs headliner packagesLeft legs)).map
      CorridorLeg.cityId).Subperm
      (((survivingLegs headliner packagesLeft legs).map Prod.fst).map CityOpportunity.cityId) := by
  obtain ⟨same, rearranged, within⟩ := orderCorridorLegs_subperm distanceKm headliner
      (survivingLegs headliner packagesLeft legs)
  have sameCities :
      (emittedLegs opportunity distanceKm state headliner
          (survivingLegs headliner packagesLeft legs)).map
          CorridorLeg.cityId =
        ((orderCorridorLegs distanceKm headliner
          (survivingLegs headliner packagesLeft legs)).map Prod.fst).map
            CityOpportunity.cityId := by
    simp only [emittedLegs, List.map_map]
    rfl
  rw [sameCities]
  exact ⟨(same.map Prod.fst).map CityOpportunity.cityId,
    (rearranged.map _).map _, (within.map _).map _⟩

theorem evaluateCorridor_emits (opportunity : RosterOpportunity)
    (distanceKm : Point → Point → F64) (state : PlanState) (cluster : List Nat)
    (packagesLeft : Nat) :
    evaluateCorridor opportunity distanceKm state cluster packagesLeft = state ∨
      ∃ headliner note,
        chooseCorridorHeadliner (freeActs opportunity.available state.committedActs)
            (openLegs opportunity state.committedCities cluster) =
            some (headliner, note) ∧
          evaluateCorridor opportunity distanceKm state cluster packagesLeft =
            emitCorridor opportunity distanceKm state headliner note
              (survivingLegs headliner packagesLeft
                (openLegs opportunity state.committedCities cluster)) := by
  simp only [evaluateCorridor]
  split
  · exact Or.inl rfl
  · split
    · exact Or.inl rfl
    next headliner note isChosen =>
      split
      · exact Or.inl rfl
      · exact Or.inr ⟨headliner, note, isChosen, rfl⟩

/-- A corridor is emitted over cities nobody has taken, within the packages
that are left, or nothing happens. -/
theorem evaluateCorridor_cases
    (distinctCities : (opportunity.cities.map CityOpportunity.cityId).Nodup) (state : PlanState)
    (distinctPlaces : cluster.Nodup) (packagesLeft : Nat) :
    evaluateCorridor opportunity distanceKm state cluster packagesLeft = state ∨
      ∃ move cities,
        MoveAdded opportunity state move cities
            (evaluateCorridor opportunity distanceKm state cluster packagesLeft) ∧
          move.isSlot = false ∧
          move.nights = cities.length ∧
          cities.length ≤ packagesLeft ∧
          cities.Nodup ∧
          ∀ city ∈ cities, city ∉ state.committedCities := by
  rcases evaluateCorridor_emits opportunity distanceKm state cluster packagesLeft with
    nothing | ⟨headliner, note, isChosen, emitted⟩
  · exact Or.inl nothing
  · right
    rw [emitted]
    generalize isLegs : openLegs opportunity state.committedCities cluster = legs
    rw [isLegs] at isChosen
    have legFacts :
        ∀ leg ∈ legs, leg ∈ opportunity.cities ∧ leg.cityId ∉ state.committedCities := by
      intro leg member
      rw [← isLegs] at member
      exact mem_openLegs member
    have legsNodup : (legs.map CityOpportunity.cityId).Nodup := by
      rw [← isLegs]
      exact openLegs_nodup distinctCities _ distinctPlaces
    have surviving := map_fst_survivingLegs_sublist headliner packagesLeft legs
    obtain ⟨total, added⟩ := emitCorridor_added distanceKm note
        (chooseCorridorHeadliner_mem isChosen)
        fun leg member =>
          (legFacts leg.1 (surviving.subset (List.mem_map_of_mem member))).1
    have fewer := emittedLegs_cities_subperm opportunity distanceKm state headliner
        packagesLeft legs
    have survivingNodup := legsNodup.sublist (surviving.map _)
    refine ⟨_, _, added, rfl, by simp [RosterMove.nights], ?_, ?_, ?_⟩
    · refine fewer.length_le.trans ?_
      simpa using length_survivingLegs_le headliner packagesLeft legs
    · obtain ⟨same, rearranged, within⟩ := fewer
      exact rearranged.nodup_iff.mp (survivingNodup.sublist within)
    · intro city member
      obtain ⟨leg, survives, rfl⟩ := List.mem_map.mp (fewer.subset member)
      exact (legFacts leg (surviving.subset survives)).2

def Counted (state : PlanState) : Prop :=
  state.packagesUsed = (state.moves.map RosterMove.nights).sum

/-- One move more of the second half of the plan, in cities nobody took. -/
structure NightsAdded
    (opportunity : RosterOpportunity)
    (before : PlanState)
    (move : RosterMove)
    (cities : List Uuid)
    (after : PlanState) :
    Prop
    extends MoveAdded opportunity before move cities after where
  notSlot : move.isSlot = false
  nights : move.nights = cities.length
  packagesUsed : after.packagesUsed = before.packagesUsed + cities.length
  distinctCities : cities.Nodup
  untaken : ∀ city ∈ cities, city ∉ before.committedCities

/-- Opening a corridor adds one move within the packages left, or none. -/
theorem openCorridor_cases (distinctCities : (opportunity.cities.map CityOpportunity.cityId).Nodup)
    (counted : Counted state) (clusterIndex : Nat) :
    NothingAdded state (openCorridor opportunity distanceKm state clusterIndex) ∨
      ∃ move cities,
        NightsAdded opportunity state move cities
            (openCorridor opportunity distanceKm state clusterIndex) ∧
          cities.length ≤ opportunity.cap - state.packagesUsed := by
  unfold openCorridor
  simp only
  split
  · exact Or.inl ⟨rfl, rfl, rfl, rfl⟩
  next cluster found =>
    have distinctPlaces : cluster.Nodup := (List.nodup_flatten.mp (corridorClusters_nodup distanceKm
        opportunity.cities)).1
        cluster (List.mem_of_getElem? found)
    rcases evaluateCorridor_cases distanceKm distinctCities
        { state with
          processedCorridors := clusterIndex :: state.processedCorridors }
        distinctPlaces (opportunity.cap - state.packagesUsed) with
      nothing | ⟨move, cities, added, notSlot, nights, within, distinct, untaken⟩
    · rw [nothing]
      exact Or.inl ⟨rfl, rfl, rfl, counted.symm⟩
    · refine Or.inr ⟨move, cities, ⟨⟨added.moves, added.committedCities,
        added.played, added.committedActs, added.free, added.available⟩,
        notSlot, nights, ?_, distinct, untaken⟩, within⟩
      simp only [added.moves, List.map_append, List.map_singleton,
        List.sum_append, List.sum_singleton, nights]
      exact congrArg (· + cities.length) counted.symm

theorem Counted.of_nothingAdded (counted : Counted before) (nothing : NothingAdded before after) :
    Counted after := by
  simp only [Counted, nothing.packagesUsed, nothing.moves]
  exact counted

theorem Counted.of_nightsAdded {move : RosterMove} {cities : List Uuid} (counted : Counted before)
    (added : NightsAdded opportunity before move cities after) :
    Counted after := by
  simp only [Counted, added.packagesUsed, added.moves, List.map_append,
    List.map_singleton, List.sum_append, List.sum_singleton, added.nights]
  exact congrArg (· + cities.length) counted

theorem bookNight_nothing (listed : city ∈ opportunity.cities)
    (notBookable : ¬ Bookable opportunity state city) :
    NothingAdded state (bookNight opportunity state city) := by
  rcases bookNight_cases state listed with ⟨_, nothing⟩ | ⟨bookable, _⟩
  · exact nothing
  · exact (notBookable bookable).elim

theorem bookNight_added (listed : city ∈ opportunity.cities)
    (untaken : city.cityId ∉ state.committedCities) (bookable : Bookable opportunity state city) :
    ∃ move,
      NightsAdded opportunity state move [city.cityId] (bookNight opportunity state city) := by
  rcases bookNight_cases state listed with
    ⟨notBookable, _⟩ | ⟨_, move, added, notSlot, nights, used⟩
  · exact (notBookable bookable).elim
  · exact ⟨move, added, notSlot, nights, used, List.nodup_singleton _, by
      simpa using untaken⟩

/-- What opening corridors and booking nights preserve, judging a city
preserves. -/
theorem judgeCity_preserves (distinctCities : (opportunity.cities.map CityOpportunity.cityId).Nodup)
    (invariant : PlanState → Prop)
    (nothing : ∀ before after, NothingAdded before after → invariant before → invariant after)
    (nights :
      ∀ before move cities after,
        NightsAdded opportunity before move cities after →
        invariant before → invariant after)
    {place : CityOpportunity × Nat}
    (listed : place.1 ∈ opportunity.cities)
    (counted : Counted state)
    (initially : invariant state) :
    invariant (judgeCity opportunity distanceKm state place) := by
  have booked :
      ∀ reached : PlanState,
        place.1.cityId ∉ reached.committedCities →
        invariant reached →
        invariant (bookNight opportunity reached place.1) := by
    intro reached untaken holds
    by_cases bookable : Bookable opportunity reached place.1
    · obtain ⟨move, added⟩ := bookNight_added listed untaken bookable
      exact nights _ _ _ _ added holds
    · exact nothing _ _ (bookNight_nothing listed bookable) holds
  unfold judgeCity
  split
  · exact initially
  next untaken =>
    split
    · exact booked state untaken initially
    next clusterIndex _ =>
      have routed : invariant (openCorridor opportunity distanceKm state clusterIndex) := by
        rcases openCorridor_cases distanceKm distinctCities counted clusterIndex with
          nothingAdded | ⟨move, cities, added, _⟩
        · exact nothing _ _ nothingAdded initially
        · exact nights _ _ _ _ added initially
      simp only
      split
      · exact routed
      next untakenStill => exact booked _ untakenStill routed

end Steps

/-- The facts about a plan that hold however far it has come. -/
structure Consistent
    (opportunity : RosterOpportunity)
    (state : PlanState) :
    Prop where
  counted : Counted state
  played :
    ∃ nights : List (List Uuid),
      List.Forall₂ (PlaysIn opportunity) state.moves nights ∧
        nights.flatten = state.committedCities
  committed :
    ∀ move ∈ state.moves, ∀ name ∈ move.proposed,
      name ∈ state.committedActs
  available :
    ∀ move ∈ state.moves, ∀ name ∈ move.proposed,
      ∃ act ∈ opportunity.available, act.name = name
  oneMoveAnAct :
    state.moves.Pairwise fun earlier later =>
      ∀ name ∈ earlier.proposed, name ∉ later.proposed

section Invariants

variable {move : RosterMove} {cities : List Uuid}

theorem consistent_start : Consistent opportunity PlanState.start where
  counted := rfl
  played := ⟨[], List.Forall₂.nil, rfl⟩
  committed := by simp [PlanState.start]
  available := by simp [PlanState.start]
  oneMoveAnAct := List.Pairwise.nil

theorem Consistent.of_nothingAdded (consistent : Consistent opportunity before)
    (nothing : NothingAdded before after) :
    Consistent opportunity after where
  counted := consistent.counted.of_nothingAdded nothing
  played := by
    rw [nothing.moves, nothing.committedCities]
    exact consistent.played
  committed := by
    rw [nothing.moves, nothing.committedActs]
    exact consistent.committed
  available := by
    rw [nothing.moves]
    exact consistent.available
  oneMoveAnAct := by
    rw [nothing.moves]
    exact consistent.oneMoveAnAct

theorem Consistent.of_moveAdded (consistent : Consistent opportunity before)
    (added : MoveAdded opportunity before move cities after) (counted : Counted after) :
    Consistent opportunity after where
  counted := counted
  played := by
    obtain ⟨nights, plays, flattened⟩ := consistent.played
    refine ⟨nights ++ [cities], ?_, ?_⟩
    · rw [added.moves]
      exact List.rel_append plays (List.Forall₂.cons added.played List.Forall₂.nil)
    · rw [added.committedCities, ← flattened]
      simp
  committed := by
    intro other member name proposed
    rw [added.committedActs]
    rw [added.moves] at member
    rcases List.mem_append.mp member with earlier | isMove
    · exact Or.inl (consistent.committed other earlier name proposed)
    · rw [List.mem_singleton.mp isMove] at proposed
      exact Or.inr proposed
  available := by
    intro other member name proposed
    rw [added.moves] at member
    rcases List.mem_append.mp member with earlier | isMove
    · exact consistent.available other earlier name proposed
    · rw [List.mem_singleton.mp isMove] at proposed
      exact added.available name proposed
  oneMoveAnAct := by
    rw [added.moves, List.pairwise_append]
    refine ⟨consistent.oneMoveAnAct, List.pairwise_singleton .., ?_⟩
    intro earlier member later isMove name proposed
    rw [List.mem_singleton.mp isMove]
    intro again
    exact added.free name again (consistent.committed earlier member name proposed)

/-- The first half of the plan: slots only, within the period. -/
structure SlotPhase
    (opportunity : RosterOpportunity)
    (state : PlanState) :
    Prop
    extends Consistent opportunity state where
  slotsOnly : ∀ move ∈ state.moves, move.isSlot = true
  withinCap : state.packagesUsed ≤ opportunity.cap

theorem fillSlot_slotPhase {slot : OpenSupportSlot} (listed : slot ∈ opportunity.openSlots)
    (running : periodFull opportunity state = false) (phase : SlotPhase opportunity state) :
    SlotPhase opportunity (fillSlot opportunity state slot) := by
  rcases fillSlot_cases state listed with
    ⟨_, unchanged⟩ | ⟨_, move, added, isSlot, used⟩
  · rw [unchanged]
    exact phase
  · have room : state.packagesUsed < opportunity.cap := by
      simpa [periodFull] using running
    have oneNight : move.nights = 1 := by
      cases move <;> simp_all [RosterMove.nights, RosterMove.isSlot]
    have counted : Counted (fillSlot opportunity state slot) := by
      simp only [Counted, used, added.moves, List.map_append,
        List.map_singleton, List.sum_append, List.sum_singleton, oneNight]
      exact congrArg (· + 1) phase.counted
    refine ⟨phase.toConsistent.of_moveAdded added counted, ?_, ?_⟩
    · intro other member
      rw [added.moves] at member
      rcases List.mem_append.mp member with earlier | isMove
      · exact phase.slotsOnly other earlier
      · rw [List.mem_singleton.mp isMove]
        exact isSlot
    · rw [used]
      exact room

theorem slotsFilled_slotPhase : SlotPhase opportunity (slotsFilled opportunity) := by
  refine loop_invariant (SlotPhase opportunity) ?_ ?_
  · intro state slot listed running phase
    exact fillSlot_slotPhase listed running phase
  · exact ⟨consistent_start, by simp [PlanState.start], Nat.zero_le _⟩

/-- The facts about the second half of the plan that always hold. -/
structure CityPhase
    (opportunity : RosterOpportunity)
    (state : PlanState) :
    Prop
    extends Consistent opportunity state where
  slotsFirst :
    state.moves.Pairwise fun earlier later =>
      later.isSlot = true → earlier.isSlot = true

theorem CityPhase.of_nightsAdded (phase : CityPhase opportunity before)
    (added : NightsAdded opportunity before move cities after) :
    CityPhase opportunity after where
  toConsistent :=
    phase.toConsistent.of_moveAdded added.toMoveAdded (phase.counted.of_nightsAdded added)
  slotsFirst := by
    rw [added.moves, List.pairwise_append]
    refine ⟨phase.slotsFirst, List.pairwise_singleton .., ?_⟩
    intro earlier _ later isMove isSlot
    rw [List.mem_singleton.mp isMove, added.notSlot] at isSlot
    simp at isSlot

theorem judgeCity_cityPhase (distanceKm : Point → Point → F64)
    (distinctCities : (opportunity.cities.map CityOpportunity.cityId).Nodup)
    {place : CityOpportunity × Nat} (listed : place.1 ∈ opportunity.cities)
    (phase : CityPhase opportunity state) :
    CityPhase opportunity (judgeCity opportunity distanceKm state place) := by
  refine judgeCity_preserves distanceKm distinctCities
    (CityPhase opportunity) ?_ ?_ listed phase.counted phase
  · intro before after nothing holds
    refine ⟨holds.toConsistent.of_nothingAdded nothing, ?_⟩
    rw [nothing.moves]
    exact holds.slotsFirst
  · intro before move cities after added holds
    exact holds.of_nightsAdded added

theorem slotsFilled_cityPhase :
    CityPhase opportunity (slotsFilled opportunity) where
  toConsistent := slotsFilled_slotPhase.toConsistent
  slotsFirst := List.Pairwise.imp_of_mem
      (fun member _ _ _ =>
        slotsFilled_slotPhase.slotsOnly _ member)
      (List.pairwise_of_forall (fun _ _ => trivial))

end Invariants

section Period

variable (distanceKm : Point → Point → F64) {places : List (CityOpportunity × Nat)}

/-- A city that a corridor leaves over is not booked once the corridor has
taken the last package of the period. -/
def StaysWithinPeriod (opportunity : RosterOpportunity) (distanceKm : Point → Point → F64)
    (state : PlanState) (place : CityOpportunity × Nat) :
    Prop :=
  place.1.cityId ∉ state.committedCities →
    ∀ clusterIndex,
      freshCorridor opportunity distanceKm state place.2 =
          some clusterIndex →
        opportunity.cap ≤
            (openCorridor opportunity distanceKm state clusterIndex).packagesUsed →
          place.1.cityId ∉
              (openCorridor opportunity distanceKm state clusterIndex).committedCities →
            ¬ Bookable opportunity
              (openCorridor opportunity distanceKm state clusterIndex)
              place.1

theorem bookNight_within_cap_iff {city : CityOpportunity}
    (listed : city ∈ opportunity.cities) (within : state.packagesUsed ≤ opportunity.cap) :
    (bookNight opportunity state city).packagesUsed ≤ opportunity.cap ↔
      (opportunity.cap ≤ state.packagesUsed → ¬ Bookable opportunity state city) := by
  rcases bookNight_cases state listed with
    ⟨notBookable, nothing⟩ | ⟨bookable, _, _, _, _, used⟩
  · rw [nothing.packagesUsed]
    exact ⟨fun _ _ => notBookable, fun _ => within⟩
  · rw [used]
    constructor
    · intro room full
      omega
    · intro notFull
      by_contra past
      exact notFull (by omega) bookable

/-- One city stays within the period exactly where the corridor it opens
leaves room for it. -/
theorem judgeCity_within_cap_iff
    (distinctCities : (opportunity.cities.map CityOpportunity.cityId).Nodup)
    {place : CityOpportunity × Nat} (listed : place.1 ∈ opportunity.cities)
    (counted : Counted state) (running : periodFull opportunity state = false) :
    (judgeCity opportunity distanceKm state place).packagesUsed ≤ opportunity.cap ↔
      StaysWithinPeriod opportunity distanceKm state place := by
  have room : state.packagesUsed < opportunity.cap := by
    simpa [periodFull] using running
  unfold judgeCity StaysWithinPeriod
  split
  next taken => exact ⟨fun _ untaken => (untaken taken).elim, fun _ => room.le⟩
  next untaken =>
    split
    next isNone =>
      rw [bookNight_within_cap_iff listed room.le]
      constructor
      · intro _ _ clusterIndex isSome
        rw [isNone] at isSome
        simp at isSome
      · intro _ full
        omega
    next clusterIndex isFresh =>
      have routedWithin :
          (openCorridor opportunity distanceKm state
            clusterIndex).packagesUsed ≤ opportunity.cap := by
        rcases openCorridor_cases distanceKm distinctCities counted clusterIndex with
          nothing | ⟨_, _, added, within⟩
        · rw [nothing.packagesUsed]
          exact room.le
        · rw [added.packagesUsed]
          omega
      simp only
      split
      next takenByCorridor =>
        constructor
        · intro _ _ other isOther _ left
          rw [isFresh, Option.some.injEq] at isOther
          rw [isOther] at takenByCorridor
          exact (left takenByCorridor).elim
        · exact fun _ => routedWithin
      next left =>
        rw [bookNight_within_cap_iff listed routedWithin]
        constructor
        · intro stays _ other isOther full _
          rw [isFresh, Option.some.injEq] at isOther
          rw [← isOther] at full ⊢
          exact stays full
        · intro stays full
          exact stays untaken clusterIndex isFresh full left

theorem judging_cityPhase (distinctCities : (opportunity.cities.map CityOpportunity.cityId).Nodup)
    (listed : ∀ place ∈ places, place.1 ∈ opportunity.cities)
    (phase : CityPhase opportunity state) :
    CityPhase opportunity
      (loop (periodFull opportunity) (judgeCity opportunity distanceKm) places state) := by
  refine loop_invariant (CityPhase opportunity) ?_ phase
  intro reached place member _ holds
  exact judgeCity_cityPhase distanceKm distinctCities (listed place member) holds

theorem planned_cityPhase (distinctCities : (opportunity.cities.map CityOpportunity.cityId).Nodup) :
    CityPhase opportunity (planned opportunity distanceKm) :=
  judging_cityPhase distanceKm distinctCities (fun _ member => List.fst_mem_of_mem_zipIdx member)
    slotsFilled_cityPhase

/-- What opening corridors and booking nights preserve, judging any number
of cities preserves. -/
theorem judging_preserves (distinctCities : (opportunity.cities.map CityOpportunity.cityId).Nodup)
    (invariant : PlanState → Prop)
    (nothing : ∀ before after, NothingAdded before after → invariant before → invariant after)
    (nights :
      ∀ before move cities after,
        NightsAdded opportunity before move cities after →
        invariant before → invariant after)
    (listed : ∀ place ∈ places, place.1 ∈ opportunity.cities)
    (phase : CityPhase opportunity state)
    (initially : invariant state) :
    invariant (loop (periodFull opportunity) (judgeCity opportunity distanceKm) places state) := by
  refine (loop_invariant
    (fun reached : PlanState =>
      CityPhase opportunity reached ∧ invariant reached)
    ?_ ⟨phase, initially⟩).2
  intro reached place member _ holds
  exact ⟨judgeCity_cityPhase distanceKm distinctCities (listed place member) holds.1,
    judgeCity_preserves distanceKm distinctCities invariant nothing nights
      (listed place member) holds.1.counted holds.2⟩

theorem committedCities_prefix_of_judging
    (distinctCities : (opportunity.cities.map CityOpportunity.cityId).Nodup)
    (listed : ∀ place ∈ places, place.1 ∈ opportunity.cities)
    (phase : CityPhase opportunity state) :
    state.committedCities <+:
      (loop (periodFull opportunity) (judgeCity opportunity distanceKm)
        places state).committedCities := by
  refine judging_preserves distanceKm distinctCities
    (fun reached => state.committedCities <+: reached.committedCities)
    ?_ ?_ listed phase (List.prefix_refl _)
  · intro before after nothing within
    rw [nothing.committedCities]
    exact within
  · intro before move cities after added within
    rw [added.committedCities]
    exact within.trans (List.prefix_append _ _)

theorem moves_prefix_of_judging
    (distinctCities : (opportunity.cities.map CityOpportunity.cityId).Nodup)
    (listed : ∀ place ∈ places, place.1 ∈ opportunity.cities)
    (phase : CityPhase opportunity state) :
    state.moves <+:
      (loop (periodFull opportunity) (judgeCity opportunity distanceKm) places state).moves := by
  refine judging_preserves distanceKm distinctCities (fun reached => state.moves <+: reached.moves)
    ?_ ?_ listed phase (List.prefix_refl _)
  · intro before after nothing within
    rw [nothing.moves]
    exact within
  · intro before move cities after added within
    rw [added.moves]
    exact within.trans (List.prefix_append _ _)

def NoSlotRepeatsACity (opportunity : RosterOpportunity) : Prop :=
  EveryStep (periodFull opportunity) (fillSlot opportunity)
    (fun state slot =>
      (slotSupport opportunity state slot).isSome = true → slot.cityId ∉ state.committedCities)
    opportunity.openSlots PlanState.start

/-- No city is booked after the corridor it opened filled the period. -/
def NoNightPastTheCap (opportunity : RosterOpportunity) (distanceKm : Point → Point → F64) :
    Prop :=
  EveryStep (periodFull opportunity) (judgeCity opportunity distanceKm)
    (StaysWithinPeriod opportunity distanceKm)
    opportunity.cities.zipIdx (slotsFilled opportunity)

theorem slotsFilled_nodup (noRepeat : NoSlotRepeatsACity opportunity) :
    (slotsFilled opportunity).committedCities.Nodup := by
  refine loop_invariant_of_everyStep (fun state : PlanState => state.committedCities.Nodup)
    ?_ noRepeat List.nodup_nil
  intro state slot listed _ untaken distinct
  rcases fillSlot_cases state listed with
    ⟨_, unchanged⟩ | ⟨isFilled, _, added, _⟩
  · rw [unchanged]
    exact distinct
  · rw [added.committedCities]
    exact List.nodup_append.mpr
      ⟨distinct, List.nodup_singleton _, by
        intro city member other isSlot same
        rw [List.mem_singleton.mp isSlot] at same
        exact untaken isFilled (same ▸ member)⟩

theorem planned_nodup (distinctCities : (opportunity.cities.map CityOpportunity.cityId).Nodup)
    (slots : (slotsFilled opportunity).committedCities.Nodup) :
    (planned opportunity distanceKm).committedCities.Nodup := by
  refine judging_preserves distanceKm distinctCities (fun reached => reached.committedCities.Nodup)
    ?_ ?_ (fun _ member => List.fst_mem_of_mem_zipIdx member)
    slotsFilled_cityPhase slots
  · intro before after nothing distinct
    rw [nothing.committedCities]
    exact distinct
  · intro before move cities after added distinct
    rw [added.committedCities]
    exact List.nodup_append.mpr
      ⟨distinct, added.distinctCities, by
        intro city earlier other later same
        exact added.untaken other later (same ▸ earlier)⟩

theorem noSlotRepeatsACity_of_nodup
    (distinctCities : (opportunity.cities.map CityOpportunity.cityId).Nodup)
    (distinct : (planned opportunity distanceKm).committedCities.Nodup) :
    NoSlotRepeatsACity opportunity := by
  by_contra repeats
  obtain ⟨before, slot, after, shape, _, running, taken⟩ := exists_first_failing repeats
  have listed : slot ∈ opportunity.openSlots := by
    simp [shape]
  generalize isReached :
    loop (periodFull opportunity) (fillSlot opportunity) before
      PlanState.start = reached at running taken
  push Not at taken
  obtain ⟨isFilled, inTaken⟩ := taken
  rcases fillSlot_cases reached listed with
    ⟨notFilled, _⟩ | ⟨_, _, added, _⟩
  · rw [isFilled] at notFilled
    simp at notFilled
  · have slotsShape :
        slotsFilled opportunity = loop (periodFull opportunity) (fillSlot opportunity) after
            (fillSlot opportunity reached slot) := by
      rw [slotsFilled, shape, loop_append, isReached, loop_cons running]
    have throughSlots :
        (fillSlot opportunity reached slot).committedCities <+:
          (slotsFilled opportunity).committedCities := by
      rw [slotsShape]
      refine loop_invariant
        (fun state : PlanState =>
          (fillSlot opportunity reached slot).committedCities <+: state.committedCities)
        ?_ (List.prefix_refl _)
      intro state later laterMember _ within
      have laterListed : later ∈ opportunity.openSlots := by
        simp [shape, laterMember]
      rcases fillSlot_cases state laterListed with
        ⟨_, unchanged⟩ | ⟨_, _, more, _⟩
      · rw [unchanged]
        exact within
      · rw [more.committedCities]
        exact within.trans (List.prefix_append _ _)
    have throughCities :
        (slotsFilled opportunity).committedCities <+:
          (planned opportunity distanceKm).committedCities :=
      committedCities_prefix_of_judging distanceKm distinctCities
        (fun place member => List.fst_mem_of_mem_zipIdx member)
        slotsFilled_cityPhase
    have distinctHere := distinct.sublist (throughSlots.trans throughCities).sublist
    rw [added.committedCities, List.nodup_append] at distinctHere
    exact distinctHere.2.2 _ inTaken _ (List.mem_singleton_self _) rfl

theorem planned_within_cap (distinctCities : (opportunity.cities.map CityOpportunity.cityId).Nodup)
    (noNight : NoNightPastTheCap opportunity distanceKm) :
    (planned opportunity distanceKm).packagesUsed ≤ opportunity.cap := by
  refine (loop_invariant_of_everyStep
    (fun state : PlanState =>
      CityPhase opportunity state ∧ state.packagesUsed ≤ opportunity.cap)
    ?_ noNight
    ⟨slotsFilled_cityPhase, slotsFilled_slotPhase.withinCap⟩).2
  intro state place member running stays holds
  have listed := List.fst_mem_of_mem_zipIdx member
  exact ⟨judgeCity_cityPhase distanceKm distinctCities listed holds.1,
    (judgeCity_within_cap_iff distanceKm distinctCities listed holds.1.counted running).mpr stays⟩

theorem noNightPastTheCap_of_within_cap
    (distinctCities : (opportunity.cities.map CityOpportunity.cityId).Nodup)
    (within : (planned opportunity distanceKm).packagesUsed ≤ opportunity.cap) :
    NoNightPastTheCap opportunity distanceKm := by
  by_contra past
  obtain ⟨before, place, after, shape, _, running, beyond⟩ := exists_first_failing past
  have listedAll : ∀ other ∈ before ++ place :: after, other.1 ∈ opportunity.cities := by
    intro other member
    rw [← shape] at member
    exact List.fst_mem_of_mem_zipIdx member
  have listed := listedAll place (by simp)
  have phase := judging_cityPhase distanceKm distinctCities
      (fun other member => listedAll other (List.mem_append_left _ member))
      slotsFilled_cityPhase
  generalize isReached :
    loop (periodFull opportunity) (judgeCity opportunity distanceKm)
      before (slotsFilled opportunity) = reached at running beyond phase
  rw [← judgeCity_within_cap_iff distanceKm distinctCities listed
    phase.counted running, not_le] at beyond
  have isPlanned :
      planned opportunity distanceKm = judgeCity opportunity distanceKm reached place := by
    rw [planned, shape, loop_append, isReached, loop_cons running]
    exact loop_stopped (by simpa [periodFull] using beyond.le) after
  rw [isPlanned] at within
  omega

/-- The plan respects all its caps exactly when no slot is filled in a city
that has one, and no city is booked after its corridor filled the period. -/
theorem roster_plan_respects_caps_iff
    (distanceKm : Point → Point → F64)
    (opportunity : RosterOpportunity)
    (distinctActs : (opportunity.acts.map RosterAct.name).Nodup)
    (distinctCities :
      (opportunity.cities.map CityOpportunity.cityId).Nodup)
    (run : RosterRun)
    (isPlan : planRosterRun opportunity distanceKm = .ok run) :
    RespectsCaps opportunity run.moves
        (planned opportunity distanceKm).committedCities ↔
      NoSlotRepeatsACity opportunity ∧ NoNightPastTheCap opportunity distanceKm := by
  obtain ⟨_, _, _, isRun⟩ := (planRosterRun_eq_ok_iff opportunity distanceKm).mp isPlan
  have moves : run.moves = (planned opportunity distanceKm).moves := by
    rw [← isRun]
    rfl
  have phase := planned_cityPhase distanceKm distinctCities
  have counted := phase.counted
  rw [Counted, ← moves] at counted
  constructor
  · intro respects
    refine ⟨noSlotRepeatsACity_of_nodup distanceKm distinctCities
      respects.oneNightACity, ?_⟩
    refine noNightPastTheCap_of_within_cap distanceKm distinctCities ?_
    rw [counted]
    exact respects.withinCap
  · rintro ⟨noRepeat, noNight⟩
    refine {
      played := moves ▸ phase.played
      withinCap := counted ▸
        planned_within_cap distanceKm distinctCities noNight
      oneNightACity := planned_nodup distanceKm distinctCities (slotsFilled_nodup noRepeat)
      oneMoveAnAct := moves ▸ phase.oneMoveAnAct
      headsDownLeftAlone := ?_
      slotsFirst := moves ▸ phase.slotsFirst
    }
    intro act listed headsDown move member proposed
    rw [moves] at member
    obtain ⟨other, isAvailable, sameName⟩ := phase.available move member act.name proposed
    have otherListed := List.mem_of_mem_filter isAvailable
    have sameAct : other = act := List.inj_on_of_nodup_map distinctActs otherListed listed sameName
    have notHeadsDown := (List.mem_filter.mp isAvailable).2
    simp [RosterAct.isAvailable, sameAct, headsDown] at notHeadsDown

end Period

/-- A city with a room that books, at a place. -/
def bookableCity (cityId : Uuid) (city : String) (point : Option Point) :
    CityOpportunity where
  cityId := cityId
  city := city
  latitude := point.map Prod.fst
  longitude := point.map Prod.snd
  reachableFans := some 240
  activeFans30d := 60
  monthsSinceShow := some 14
  hasUpcomingShow := false
  topConversionChannel := none
  topConversionChannelFans := 0
  venue := some {
    name := "Klub X"
    showsLast12Months := 14
    comparableActs := 3
    capacity := some 300
    typicalDraw := some 180
    contactVerifiedDaysAgo := some 18
    daysSinceLastEvent := some 11
    hasBookingRoute := true
  }
  promoters := []
  coBill := []
  localActs := []

def bookingAct (name : String) (reach : List (Uuid × U32)) (overlapWith : List ActOverlap) :
    RosterAct where
  name := name
  intent := .bookingShows
  monthsSinceLastShow := some 2
  reachByCity := reach.map fun city => ⟨"", city.1, some city.2⟩
  overlapWith := overlapWith

def krakow : Point := (⟨0x404907ae147ae148⟩, ⟨0x4033f0a3d70a3d71⟩)
def warszawa : Point := (⟨0x404a1d70a3d70a3d⟩, ⟨0x4035028f5c28f5c3⟩)
def gdansk : Point := (⟨0x404b2ccccccccccd⟩, ⟨0x4032a3d70a3d70a4⟩)

/-- The great-circle distances between the three cities, as doubles: 253
kilometres, 283 and 485. -/
def roadKm (first second : Point) : F64 :=
  if first = second then
    ⟨0⟩
  else if first = krakow ∧ second = warszawa ∨
      first = warszawa ∧ second = krakow then
    ⟨0x406f922038aecdd5⟩
  else if first = warszawa ∧ second = gdansk ∨
      first = gdansk ∧ second = warszawa then
    ⟨0x4071b7cf9404b940⟩
  else
    ⟨0x407e528cf9ec8390⟩

/-- The corridor's headliner was never measured in the city that opens it. -/
def leftoverCity : RosterOpportunity where
  acts := [
    bookingAct "Alpha" [(2, 300), (3, 200)] [],
    bookingAct "Beta" [(1, 240)] []]
  cities := [
    bookableCity 1 "krakow" (some krakow),
    bookableCity 2 "warszawa" (some warszawa),
    bookableCity 3 "gdansk" (some gdansk)]
  openSlots := []
  packagesThisPeriod := 2

/-- Two labelmates' shows in one city, each with room on the bill. -/
def twoSlots : RosterOpportunity where
  acts := [
    bookingAct "Head" [(1, 240)] [],
    bookingAct "Mate" [(1, 200)] [⟨"Head", 1, 1000⟩],
    bookingAct "Other" [(1, 100)] [⟨"Head", 1, 1000⟩]]
  cities := []
  openSlots := [
    ⟨"wroclaw", 1, "Klub X", none, "Head", 30⟩,
    ⟨"wroclaw", 1, "Klub Y", none, "Head", 40⟩]
  packagesThisPeriod := 4

/-- The rule applied to a roster whose plan goes past the cap. -/
theorem leftover_city_respects_caps_iff :
    RespectsCaps leftoverCity (planned leftoverCity roadKm).moves
        (planned leftoverCity roadKm).committedCities ↔
      NoSlotRepeatsACity leftoverCity ∧ NoNightPastTheCap leftoverCity roadKm :=
  roster_plan_respects_caps_iff roadKm leftoverCity
    (by decide +kernel) (by decide +kernel)
    ((planned leftoverCity roadKm).run leftoverCity)
    ((planRosterRun_eq_ok_iff leftoverCity roadKm).mpr
      ⟨by decide +kernel, by decide +kernel, by decide +kernel, rfl⟩)

/-- A two-package period gets three nights, and a city gets two. -/
theorem roster_plan_breaks_caps :
    ((leftoverCity.acts.map RosterAct.name).Nodup ∧
        (leftoverCity.cities.map CityOpportunity.cityId).Nodup ∧
        planRosterRun leftoverCity roadKm = .ok ((planned leftoverCity roadKm).run leftoverCity) ∧
        leftoverCity.cap = 2 ∧
        ((planned leftoverCity roadKm).moves.map RosterMove.nights).sum = 3 ∧
        ¬ RespectsCaps leftoverCity (planned leftoverCity roadKm).moves
          (planned leftoverCity roadKm).committedCities) ∧
      (twoSlots.acts.map RosterAct.name).Nodup ∧
        (twoSlots.cities.map CityOpportunity.cityId).Nodup ∧
        planRosterRun twoSlots roadKm = .ok ((planned twoSlots roadKm).run twoSlots) ∧
        (planned twoSlots roadKm).committedCities = [1, 1] ∧
        ¬ RespectsCaps twoSlots (planned twoSlots roadKm).moves
          (planned twoSlots roadKm).committedCities := by
  have cap : leftoverCity.cap = 2 := by
    decide
  have threeNights : ((planned leftoverCity roadKm).moves.map RosterMove.nights).sum = 3 := by
    decide +kernel
  have twice : (planned twoSlots roadKm).committedCities = [1, 1] := by
    decide +kernel
  refine ⟨⟨by decide +kernel, by decide +kernel, ?_, cap, threeNights, ?_⟩,
    by decide +kernel, by decide +kernel, ?_, twice, ?_⟩
  · exact (planRosterRun_eq_ok_iff leftoverCity roadKm).mpr
      ⟨by decide +kernel, by decide +kernel, by decide +kernel, rfl⟩
  · intro respects
    have within := respects.withinCap
    rw [threeNights, cap] at within
    omega
  · exact (planRosterRun_eq_ok_iff twoSlots roadKm).mpr
      ⟨by decide +kernel, by decide +kernel, by decide +kernel, rfl⟩
  · intro respects
    have distinct := respects.oneNightACity
    rw [twice] at distinct
    simp at distinct

end CrowdRelay
