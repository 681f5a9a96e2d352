import CrowdRelay.RosterCaps

namespace CrowdRelay

open MachineInt Extremes GreedySelection StoppingLoop

/-!
# The order the acts are listed in

Every choice for a single night is settled by name where reach is tied, so the
order of the acts is not seen.  The headliner of a corridor is not: of several
acts with the greatest summed reach the one listed last is taken, and of
several starved contenders too.  The plan is free of the order exactly where
no such tie decides a corridor.
-/

variable (opportunity : RosterOpportunity)

def RosterOpportunity.withActs (acts : List RosterAct) :
    RosterOpportunity :=
  { opportunity with acts := acts }

def SamePlan :
    Except RosterRefusal RosterRun →
    Except RosterRefusal RosterRun →
    Prop
  | .ok first, .ok second =>
    first.moves = second.moves ∧
      first.consideredAndRefused = second.consideredAndRefused ∧
      first.waiting.Perm second.waiting
  | .error first, .error second => first = second
  | .ok _, .error _ => False
  | .error _, .ok _ => False

/-- No two of the acts share a name. -/
def DistinctNames (acts : List RosterAct) : Prop := (acts.map RosterAct.name).Nodup

variable {acts : List RosterAct} {first second : List RosterAct}

section Choices

variable (city : Uuid)

instance transCmpReach (city : Uuid) : Std.TransCmp (compareReach city) :=
  inferInstanceAs
    (Std.TransCmp
      (compareLex (compareOn fun act : RosterAct => act.reachIn city)
        fun left right => compareOn RosterAct.name right left))

instance transCmpAdds : Std.TransCmp compareAdds :=
  inferInstanceAs
    (Std.TransCmp
      (compareLex (compareOn Prod.snd)
        fun left right : RosterAct × U32 =>
          compareOn (fun pair : RosterAct × U32 => pair.1.name) right left))

theorem DistinctNames.filter (distinct : DistinctNames acts) (keep : RosterAct → Bool) :
    DistinctNames (acts.filter keep) :=
  distinct.sublist (List.filter_sublist.map _)

theorem DistinctNames.of_perm (rearranged : first.Perm second) (distinct : DistinctNames first) :
    DistinctNames second :=
  (rearranged.map _).nodup_iff.mp distinct

theorem DistinctNames.eq_of_name (distinct : DistinctNames acts)
    {first second : RosterAct} (firstListed : first ∈ acts) (secondListed : second ∈ acts)
    (sameName : first.name = second.name) :
    first = second :=
  List.inj_on_of_nodup_map distinct firstListed secondListed sameName

theorem name_eq_of_compareReach {city : Uuid} {left right : RosterAct}
    (sameRank : compareReach city left right = .eq) :
    left.name = right.name := by
  simp only [compareReach, Ordering.then_eq_eq] at sameRank
  exact (Std.LawfulEqCmp.eq_of_compare sameRank.2).symm

theorem maxBy_compareReach_perm (rearranged : first.Perm second) (distinct : DistinctNames first) :
    maxBy (compareReach city) first = maxBy (compareReach city) second :=
  maxBy_perm rearranged fun _ leftListed _ rightListed sameRank =>
    distinct.eq_of_name leftListed rightListed (name_eq_of_compareReach sameRank)

theorem chooseHeadliner_perm (rearranged : first.Perm second) (distinct : DistinctNames first) :
    chooseHeadliner first city = chooseHeadliner second city := by
  have sameBest := maxBy_compareReach_perm city rearranged distinct
  have sameContender :
      ∀ best within,
        maxBy (compareReach city) (starvedWithin first best within) =
          maxBy (compareReach city) (starvedWithin second best within) :=
    fun best within =>
      maxBy_compareReach_perm city (rearranged.filter _) (distinct.filter _)
  simp only [chooseHeadliner, sameBest, sameContender]

theorem chooseSupport_perm (headliner : RosterAct) (city : Uuid)
    (rearranged : first.Perm second) (distinct : DistinctNames first) :
    chooseSupport first headliner city = chooseSupport second headliner city := by
  unfold chooseSupport
  refine maxBy_perm ((rearranged.filter _).filterMap _) ?_
  rintro ⟨left, leftAdds⟩ leftMember ⟨right, rightAdds⟩ rightMember sameRank
  simp only [List.mem_filterMap, List.mem_filter, Option.map_eq_some_iff,
    Prod.mk.injEq] at leftMember rightMember
  obtain ⟨_, ⟨leftListed, _⟩, _, leftAdded, rfl, rfl⟩ := leftMember
  obtain ⟨_, ⟨rightListed, _⟩, _, rightAdded, rfl, rfl⟩ := rightMember
  simp only [compareAdds, Ordering.then_eq_eq] at sameRank
  have sameName := (Std.LawfulEqCmp.eq_of_compare sameRank.2).symm
  have sameAct := distinct.eq_of_name leftListed rightListed sameName
  subst sameAct
  rw [leftAdded, Option.some.injEq] at rightAdded
  rw [rightAdded]

end Choices

/-- A contender that some order of the list brings to the front: one of the
greatest, where there is any. -/
def SomeGreatest (draw : RosterAct → U64) (acts : List RosterAct) :
    Option RosterAct → Prop
  | none => acts = []
  | some act => act ∈ acts ∧ ∀ other ∈ acts, draw other ≤ draw act

/-- A headliner, with the fairness note, that some order of the acts gives a
corridor over these legs. -/
def CorridorChoice (acts : List RosterAct) (legs : List CityOpportunity)
    (choice : RosterAct × Option String) :
    Prop :=
  ∃ best contender,
    SomeGreatest (corridorReach legs) acts (some best) ∧
      corridorReach legs best ≠ 0 ∧
      SomeGreatest (corridorReach legs) (corridorContenders acts legs best) contender ∧
      preferStarved corridorNote best contender = choice

/-- Acts that tie for a corridor do not decide it: whoever of them has two
legs to play is the only choice there is. -/
def CorridorSettled (state : PlanState) (cluster : List Nat) :
    Prop :=
  let legs := openLegs opportunity state.committedCities cluster
  let acts := freeActs opportunity.available state.committedActs
  2 ≤ legs.length →
    ∀ choice other,
      CorridorChoice acts legs choice →
      CorridorChoice acts legs other →
      2 ≤ (survivingLegs choice.1 (opportunity.cap - state.packagesUsed) legs).length →
      choice = other

variable (distanceKm : Point → Point → F64)

/-- No tie decides the corridor a city opens. -/
def TiesSettled (state : PlanState) (place : CityOpportunity × Nat) :
    Prop :=
  place.1.cityId ∉ state.committedCities →
    ∀ clusterIndex cluster,
      freshCorridor opportunity distanceKm state place.2 =
          some clusterIndex →
        (corridorClusters distanceKm opportunity.cities)[clusterIndex]? =
            some cluster →
          CorridorSettled opportunity state cluster

def NoTieDecides :
    Prop :=
  EveryStep (periodFull opportunity) (judgeCity opportunity distanceKm)
    (TiesSettled opportunity distanceKm)
    opportunity.cities.zipIdx (slotsFilled opportunity)

variable {legs : List CityOpportunity}

section CorridorChoices

variable {choice : RosterAct × Option String}

theorem someGreatest_of_maxByKey (draw : RosterAct → U64) (acts : List RosterAct) :
    SomeGreatest draw acts (maxByKey draw acts) := by
  cases isBest : maxByKey draw acts with
  | none => exact maxBy_eq_none_iff.mp isBest
  | some best => exact ⟨maxBy_mem isBest, le_maxByKey isBest⟩

theorem SomeGreatest.of_perm {draw : RosterAct → U64} (rearranged : first.Perm second)
    {choice : Option RosterAct} (greatest : SomeGreatest draw first choice) :
    SomeGreatest draw second choice := by
  cases choice with
  | none =>
    simp only [SomeGreatest] at greatest ⊢
    rw [greatest] at rearranged
    exact rearranged.symm.eq_nil
  | some act =>
    exact ⟨rearranged.mem_iff.mp greatest.1, fun other member =>
      greatest.2 other (rearranged.mem_iff.mpr member)⟩

theorem CorridorChoice.of_perm (rearranged : first.Perm second)
    (isChoice : CorridorChoice first legs choice) :
    CorridorChoice second legs choice := by
  obtain ⟨best, contender, isBest, draws, isContender, preferred⟩ := isChoice
  exact ⟨best, contender, isBest.of_perm rearranged, draws,
    isContender.of_perm (rearranged.filter _), preferred⟩

theorem CorridorChoice.mem (isChoice : CorridorChoice acts legs choice) : choice.1 ∈ acts := by
  obtain ⟨best, contender, isBest, _, isContender, preferred⟩ := isChoice
  refine preferStarved_mem isBest.1 ?_ preferred
  intro act isAct
  rw [isAct] at isContender
  exact List.mem_of_mem_filter isContender.1

theorem corridorChoice_of_chosen (isChosen : chooseCorridorHeadliner acts legs = some choice) :
    CorridorChoice acts legs choice := by
  simp only [chooseCorridorHeadliner, Option.bind_eq_some_iff,
    Option.ite_none_left_eq_some, Option.some.injEq] at isChosen
  obtain ⟨best, isBest, draws, preferred⟩ := isChosen
  refine ⟨best, _, ?_, draws, someGreatest_of_maxByKey _ _, preferred⟩
  have greatest := someGreatest_of_maxByKey (corridorReach legs) acts
  rw [isBest] at greatest
  exact greatest

theorem chooseCorridorHeadliner_eq_none_iff :
    chooseCorridorHeadliner acts legs = none ↔ ∀ act ∈ acts, corridorReach legs act = 0 := by
  cases isBest : maxByKey (corridorReach legs) acts with
  | none =>
    have noAct := maxBy_eq_none_iff.mp isBest
    subst noAct
    simp [chooseCorridorHeadliner, maxByKey, maxBy]
  | some best =>
    have member := maxBy_mem isBest
    have greatest := le_maxByKey isBest
    simp only [chooseCorridorHeadliner, isBest, Option.bind_some,
      ite_eq_left_iff, reduceCtorEq, imp_false, not_not]
    constructor
    · intro nobodyDraws act actMember
      have below := greatest act actMember
      rw [nobodyDraws] at below
      exact le_antisymm below (corridorReach legs act).lower
    · intro nobodyDraws
      exact nobodyDraws best member

end CorridorChoices

variable {opportunity : RosterOpportunity}

section Steps

variable (distanceKm : Point → Point → F64)

theorem available_withActs_perm (rearranged : opportunity.acts.Perm acts) :
    opportunity.available.Perm (opportunity.withActs acts).available :=
  rearranged.filter _

theorem freeActs_withActs_perm (rearranged : opportunity.acts.Perm acts)
    (committedActs : List String) :
    (freeActs opportunity.available committedActs).Perm
      (freeActs (opportunity.withActs acts).available committedActs) :=
  (available_withActs_perm rearranged).filter _

theorem freeActs_distinct (distinct : DistinctNames opportunity.acts)
    (committedActs : List String) :
    DistinctNames (freeActs opportunity.available committedActs) :=
  (distinct.filter _).filter _

section

variable (rearranged : opportunity.acts.Perm acts)
include rearranged

theorem find_withActs (distinct : DistinctNames opportunity.acts) (name : String) :
    (acts.find? fun act => act.name = name) =
      opportunity.acts.find? fun act => act.name = name := by
  have distinctToo := distinct.of_perm rearranged
  cases found : opportunity.acts.find? fun act => act.name = name with
  | none =>
    rw [List.find?_eq_none] at found ⊢
    intro act member
    exact found act (rearranged.mem_iff.mpr member)
  | some act =>
    have isNamed : act.name = name := by
      simpa using List.find?_some found
    have listed : act ∈ acts := rearranged.mem_iff.mp (List.mem_of_find?_eq_some found)
    cases foundToo : acts.find? fun act => act.name = name with
    | none =>
      rw [List.find?_eq_none] at foundToo
      exact (foundToo act listed (by simpa using isNamed)).elim
    | some other =>
      have otherNamed : other.name = name := by
        simpa using List.find?_some foundToo
      have otherListed := List.mem_of_find?_eq_some foundToo
      rw [distinctToo.eq_of_name otherListed listed (otherNamed.trans isNamed.symm)]

theorem fillSlot_withActs (distinct : DistinctNames opportunity.acts) (state : PlanState)
    (slot : OpenSupportSlot) :
    fillSlot (opportunity.withActs acts) state slot = fillSlot opportunity state slot := by
  have sameHeadliner := find_withActs rearranged distinct slot.headliner
  have sameSupport :
      ∀ headliner,
        chooseSupport
            ((freeActs (opportunity.withActs acts).available
              state.committedActs).filter fun act => act.name ≠ slot.headliner)
            headliner slot.cityId =
          chooseSupport
            ((freeActs opportunity.available state.committedActs).filter
              fun act => act.name ≠ slot.headliner)
            headliner slot.cityId :=
    fun headliner =>
      (chooseSupport_perm headliner slot.cityId
        ((freeActs_withActs_perm rearranged state.committedActs).filter _)
        ((freeActs_distinct distinct state.committedActs).filter _)).symm
  have sameSlotSupport :
      slotSupport (opportunity.withActs acts) state slot = slotSupport opportunity state slot := by
    simp only [slotSupport, sameSupport]
    rw [← sameHeadliner]
    rfl
  simp only [fillSlot, sameSlotSupport]

theorem bookNight_withActs (distinct : DistinctNames opportunity.acts) (state : PlanState)
    (city : CityOpportunity) :
    bookNight (opportunity.withActs acts) state city = bookNight opportunity state city := by
  have free := freeActs_withActs_perm rearranged state.committedActs
  have freeDistinct := freeActs_distinct distinct state.committedActs
  have sameHeadliner := chooseHeadliner_perm city.cityId free freeDistinct
  have sameSupport :=
    fun headliner =>
      chooseSupport_perm headliner city.cityId free freeDistinct
  simp only [bookNight, ← sameHeadliner, ← sameSupport]

theorem emitCorridor_withActs (distinct : DistinctNames opportunity.acts)
    (state : PlanState) (headliner : RosterAct) (note : Option String)
    (survivors : List SurvivingLeg) :
    emitCorridor (opportunity.withActs acts) distanceKm state headliner note survivors =
      emitCorridor opportunity distanceKm state headliner note
        survivors := by
  have sameLeg :
      corridorLeg
          ((freeActs (opportunity.withActs acts).available
            state.committedActs).filter fun act => act.name ≠ headliner.name)
          headliner =
        corridorLeg
          ((freeActs opportunity.available state.committedActs).filter
            fun act => act.name ≠ headliner.name)
          headliner := by
    funext leg
    have sameSupport := chooseSupport_perm headliner leg.1.cityId
        ((freeActs_withActs_perm rearranged state.committedActs).filter
          fun act => act.name ≠ headliner.name)
        ((freeActs_distinct distinct state.committedActs).filter _)
    simp only [corridorLeg, ← sameSupport]
  simp only [emitCorridor, sameLeg]

/-- Where no tie decides it the corridor is the same in any order. -/
theorem evaluateCorridor_withActs (distinct : DistinctNames opportunity.acts)
    {state : PlanState} {cluster : List Nat} (settled : CorridorSettled opportunity state cluster)
    (processedCorridors : List Nat) :
    evaluateCorridor (opportunity.withActs acts) distanceKm
        { state with processedCorridors := processedCorridors } cluster
        (opportunity.cap - state.packagesUsed) =
      evaluateCorridor opportunity distanceKm
        { state with processedCorridors := processedCorridors } cluster
        (opportunity.cap - state.packagesUsed) := by
  have free := freeActs_withActs_perm rearranged state.committedActs
  simp only [evaluateCorridor, emitCorridor_withActs distanceKm rearranged distinct]
  have sameLegs :
      openLegs (opportunity.withActs acts) state.committedCities cluster =
        openLegs opportunity state.committedCities cluster :=
    rfl
  rw [sameLegs]
  generalize isLegs : openLegs opportunity state.committedCities cluster = legs
  split
  · rfl
  next enoughLegs =>
    have settledHere := settled
    simp only [CorridorSettled, isLegs] at settledHere
    have onlyChoice := settledHere (not_lt.mp enoughLegs)
    cases isChosen :
        chooseCorridorHeadliner (freeActs opportunity.available state.committedActs) legs with
    | none =>
      have noneToo :
          chooseCorridorHeadliner
            (freeActs (opportunity.withActs acts).available state.committedActs) legs = none := by
        rw [chooseCorridorHeadliner_eq_none_iff] at isChosen ⊢
        intro act member
        exact isChosen act (free.mem_iff.mpr member)
      rw [noneToo]
    | some choice =>
      cases isOther :
          chooseCorridorHeadliner
            (freeActs (opportunity.withActs acts).available state.committedActs) legs with
      | none =>
        rw [chooseCorridorHeadliner_eq_none_iff] at isOther
        have noneToo :
            chooseCorridorHeadliner (freeActs opportunity.available state.committedActs)
              legs = none :=
          chooseCorridorHeadliner_eq_none_iff.mpr
            fun act member => isOther act (free.mem_iff.mp member)
        rw [isChosen] at noneToo
        simp at noneToo
      | some other =>
        have choiceFrom := corridorChoice_of_chosen isChosen
        have otherFrom := (corridorChoice_of_chosen isOther).of_perm free.symm
        by_cases choicePlays :
            2 ≤ (survivingLegs choice.1 (opportunity.cap - state.packagesUsed) legs).length
        · rw [onlyChoice choice other choiceFrom otherFrom choicePlays]
        · by_cases otherPlays :
              2 ≤ (survivingLegs other.1 (opportunity.cap - state.packagesUsed) legs).length
          · rw [onlyChoice other choice otherFrom choiceFrom otherPlays]
          · simp only [not_le.mp choicePlays, not_le.mp otherPlays, if_true]

/-- Judging a city is the same in any order where no tie decides it. -/
theorem judgeCity_withActs (distinct : DistinctNames opportunity.acts) {state : PlanState}
    {place : CityOpportunity × Nat} (settled : TiesSettled opportunity distanceKm state place) :
    judgeCity (opportunity.withActs acts) distanceKm state place =
      judgeCity opportunity distanceKm state place := by
  have sameFresh :
      freshCorridor (opportunity.withActs acts) distanceKm state place.2 =
        freshCorridor opportunity distanceKm state place.2 :=
    rfl
  simp only [judgeCity, bookNight_withActs rearranged distinct, sameFresh]
  by_cases taken : place.1.cityId ∈ state.committedCities
  · simp [taken]
  · simp only [taken, if_false]
    cases isFresh : freshCorridor opportunity distanceKm state place.2 with
    | none => rfl
    | some clusterIndex =>
      have sameRouted :
          openCorridor (opportunity.withActs acts) distanceKm state clusterIndex =
            openCorridor opportunity distanceKm state clusterIndex := by
        simp only [openCorridor]
        have sameClusters :
            corridorClusters distanceKm (opportunity.withActs acts).cities =
              corridorClusters distanceKm opportunity.cities :=
          rfl
        rw [sameClusters]
        split
        · rfl
        next cluster found =>
          have here := settled taken clusterIndex cluster isFresh found
          have sameCorridor := evaluateCorridor_withActs distanceKm rearranged distinct here
              (clusterIndex :: state.processedCorridors)
          exact congrArg
            (fun routed : PlanState =>
              { routed with
                packagesUsed := (routed.moves.map RosterMove.nights).sum })
            sameCorridor
      simp only [sameRouted]

theorem slotsFilled_withActs (distinct : DistinctNames opportunity.acts) :
    slotsFilled (opportunity.withActs acts) = slotsFilled opportunity := by
  have sameStep : fillSlot (opportunity.withActs acts) = fillSlot opportunity := by
    funext state slot
    exact fillSlot_withActs rearranged distinct state slot
  simp only [slotsFilled, sameStep]
  rfl

theorem judging_withActs (distinct : DistinctNames opportunity.acts)
    {places : List (CityOpportunity × Nat)} {state : PlanState}
    (settled :
      EveryStep (periodFull opportunity) (judgeCity opportunity distanceKm)
        (TiesSettled opportunity distanceKm) places state) :
    loop (periodFull opportunity) (judgeCity (opportunity.withActs acts) distanceKm) places state =
      loop (periodFull opportunity) (judgeCity opportunity distanceKm) places state :=
  loop_congr (settled.mono fun _ _ _ here =>
    judgeCity_withActs distanceKm rearranged distinct here)

theorem planned_withActs (distinct : DistinctNames opportunity.acts)
    (settled : NoTieDecides opportunity distanceKm) :
    planned (opportunity.withActs acts) distanceKm = planned opportunity distanceKm := by
  have sameJudging := judging_withActs distanceKm rearranged distinct settled
  rw [planned, slotsFilled_withActs rearranged distinct]
  exact sameJudging

theorem samePlan_of_planned_eq
    (sameState : planned (opportunity.withActs acts) distanceKm = planned opportunity distanceKm) :
    SamePlan (planRosterRun opportunity distanceKm)
      (planRosterRun (opportunity.withActs acts) distanceKm) := by
  have sameAvailable : (opportunity.withActs acts).available = [] ↔ opportunity.available = [] := by
    constructor
    · intro noAct
      have rearrangedAvailable := available_withActs_perm rearranged
      rw [noAct] at rearrangedAvailable
      exact rearrangedAvailable.eq_nil
    · intro noAct
      have rearrangedAvailable := available_withActs_perm rearranged
      rw [noAct] at rearrangedAvailable
      exact rearrangedAvailable.symm.eq_nil
  have samePackages :
      (opportunity.withActs acts).packagesThisPeriod = opportunity.packagesThisPeriod :=
    rfl
  simp only [planRosterRun, sameAvailable, samePackages, sameState]
  by_cases noAct : opportunity.available = []
  · simp [noAct, SamePlan]
  · by_cases full : opportunity.packagesThisPeriod = 0
    · simp [noAct, full, SamePlan]
    · by_cases nothing : (planned opportunity distanceKm).moves = []
      · simp [noAct, full, nothing, SamePlan]
      · simp only [noAct, full, nothing, if_false, SamePlan, PlanState.run,
          true_and]
        exact (freeActs_withActs_perm rearranged _).map _

end

end Steps

section Realised

variable {committedActs : List String}

theorem chooseCorridorHeadliner_eq_some {best : RosterAct} {contender : Option RosterAct}
    (isBest : maxByKey (corridorReach legs) acts = some best) (draws : corridorReach legs best ≠ 0)
    (isContender : maxByKey (corridorReach legs) (corridorContenders acts legs best) = contender) :
    chooseCorridorHeadliner acts legs = some (preferStarved corridorNote best contender) := by
  simp [chooseCorridorHeadliner, isBest, draws, isContender]

theorem corridorContenders_concat_best (front : List RosterAct)
    (legs : List CityOpportunity) (best : RosterAct) :
    corridorContenders (front ++ [best]) legs best = corridorContenders front legs best := by
  simp [corridorContenders, starvedWithin]

theorem corridorContenders_concat_contender {best starved : RosterAct}
    (contends : starved ∈ corridorContenders acts legs best) (front : List RosterAct) :
    corridorContenders (front ++ [starved]) legs best =
      corridorContenders front legs best ++ [starved] := by
  have passes := (List.mem_filter.mp contends).2
  simp only [corridorContenders, starvedWithin, List.filter_append,
    List.filter_cons, passes, if_true, List.filter_nil]

theorem corridorContenders_perm {first second : List RosterAct}
    (rearranged : first.Perm second) (legs : List CityOpportunity) (best : RosterAct) :
    (corridorContenders first legs best).Perm (corridorContenders second legs best) :=
  rearranged.filter _

theorem freeActs_withActs_concat {act : RosterAct}
    (isFree : act ∈ freeActs opportunity.available committedActs) (front : List RosterAct) :
    freeActs (opportunity.withActs (front ++ [act])).available committedActs =
      freeActs (opportunity.withActs front).available committedActs ++ [act] := by
  obtain ⟨isAvailable, notCommitted⟩ := mem_freeActs.mp isFree
  have available := (List.mem_filter.mp isAvailable).2
  simp [RosterOpportunity.available, RosterOpportunity.withActs, freeActs, available, notCommitted]

/-- Every choice for a corridor is made in some order of the acts. -/
theorem exists_order_of_choice {choice : RosterAct × Option String}
    (isChoice : CorridorChoice (freeActs opportunity.available committedActs) legs choice) :
    ∃ acts,
      opportunity.acts.Perm acts ∧
        chooseCorridorHeadliner (freeActs (opportunity.withActs acts).available committedActs)
            legs =
          some choice := by
  obtain ⟨best, contender, ⟨bestFree, greatest⟩, draws, isContender, preferred⟩ := isChoice
  have bestListed : best ∈ opportunity.acts := List.mem_of_mem_filter (mem_freeActs.mp bestFree).1
  have bestLast : opportunity.acts.Perm (opportunity.acts.erase best ++ [best]) :=
    (List.perm_cons_erase bestListed).trans (List.perm_append_singleton best _).symm
  cases contender with
  | none =>
    refine ⟨_, bestLast, ?_⟩
    have free := freeActs_withActs_perm bestLast committedActs
    rw [freeActs_withActs_concat bestFree] at free ⊢
    rw [← preferred]
    refine chooseCorridorHeadliner_eq_some ?_ draws ?_
    · refine maxByKey_concat_of_greatest fun act member => ?_
      exact greatest act (free.mem_iff.mpr (List.mem_append_left _ member))
    · have noContender := isContender.of_perm (free.filter _)
      exact maxBy_eq_none_iff.mpr noContender
  | some starved =>
    obtain ⟨starvedContends, greatestStarved⟩ := isContender
    have contends := starvedContends
    simp only [corridorContenders, starvedWithin, List.mem_filter,
      Bool.and_eq_true, decide_eq_true_eq] at contends
    obtain ⟨starvedFree, ⟨_, otherName⟩, _⟩ := contends
    have starvedListed : starved ∈ opportunity.acts :=
      List.mem_of_mem_filter (mem_freeActs.mp starvedFree).1
    have notBest : starved ≠ best := by
      intro same
      exact otherName (congrArg RosterAct.name same)
    have inRest : starved ∈ opportunity.acts.erase best :=
      (List.mem_erase_of_ne notBest).mpr starvedListed
    have starvedLast :
        opportunity.acts.Perm
          (((opportunity.acts.erase best).erase starved ++ [starved]) ++ [best]) :=
      bestLast.trans
        (((List.perm_cons_erase inRest).trans
          (List.perm_append_singleton starved _).symm).append_right _)
    refine ⟨_, starvedLast, ?_⟩
    have free := freeActs_withActs_perm starvedLast committedActs
    rw [freeActs_withActs_concat bestFree, freeActs_withActs_concat starvedFree] at free ⊢
    rw [← preferred]
    refine chooseCorridorHeadliner_eq_some ?_ draws ?_
    · refine maxByKey_concat_of_greatest fun act member => ?_
      exact greatest act (free.mem_iff.mpr (List.mem_append_left _ member))
    · have contenders := corridorContenders_perm free legs best
      rw [corridorContenders_concat_best, corridorContenders_concat_contender starvedContends]
        at contenders ⊢
      refine maxByKey_concat_of_greatest fun act member => ?_
      exact greatestStarved act (contenders.mem_iff.mpr (List.mem_append_left _ member))

end Realised

section Divergence

variable (distanceKm : Point → Point → F64) {cluster : List Nat} {state : PlanState}
  {place : CityOpportunity × Nat} {note : Option String}

def clusterCities (opportunity : RosterOpportunity) (cluster : List Nat) : List Uuid :=
  (cluster.filterMap fun index => opportunity.cities[index]?).map CityOpportunity.cityId

def RosterMove.legCities : RosterMove → List Uuid
  | .routeCorridor _ legs _ _ => legs.map CorridorLeg.cityId
  | .fillSupportSlot .. | .bookPackage .. => []

/-- Two corridors have no city in common. -/
theorem clusterCities_disjoint {distanceKm : Point → Point → F64}
    (distinctCities : (opportunity.cities.map CityOpportunity.cityId).Nodup) {first second : Nat}
    {firstCluster secondCluster : List Nat}
    (firstFound : (corridorClusters distanceKm opportunity.cities)[first]? = some firstCluster)
    (secondFound : (corridorClusters distanceKm opportunity.cities)[second]? = some secondCluster)
    (different : first ≠ second)
    {city : Uuid}
    (inFirst : city ∈ clusterCities opportunity firstCluster) :
    city ∉ clusterCities opportunity secondCluster := by
  intro inSecond
  have disjoint : firstCluster.Disjoint secondCluster := by
    have pairwise := (List.nodup_flatten.mp
        (corridorClusters_nodup distanceKm opportunity.cities)).2
    obtain ⟨firstInRange, isFirst⟩ := List.getElem?_eq_some_iff.mp firstFound
    obtain ⟨secondInRange, isSecond⟩ := List.getElem?_eq_some_iff.mp secondFound
    rw [List.pairwise_iff_getElem] at pairwise
    rw [← isFirst, ← isSecond]
    rcases Nat.lt_or_gt_of_ne different with before | after
    · exact pairwise first second firstInRange secondInRange before
    · intro index isFirstMember isSecondMember
      exact pairwise second first secondInRange firstInRange after isSecondMember isFirstMember
  simp only [clusterCities, List.mem_map, List.mem_filterMap] at inFirst inSecond
  obtain ⟨firstCity, ⟨firstIndex, firstMember, firstAt⟩, isCity⟩ := inFirst
  obtain ⟨secondCity, ⟨secondIndex, secondMember, secondAt⟩, isCityToo⟩ := inSecond
  have firstId : (opportunity.cities.map CityOpportunity.cityId)[firstIndex]? = some city := by
    simp [firstAt, isCity]
  have secondId : (opportunity.cities.map CityOpportunity.cityId)[secondIndex]? = some city := by
    simp [secondAt, isCityToo]
  have sameIndex : firstIndex = secondIndex :=
    (List.getElem?_inj (List.getElem?_eq_some_iff.mp firstId).1
      distinctCities).mp (firstId.trans secondId.symm)
  rw [sameIndex] at firstMember
  exact disjoint firstMember secondMember

theorem emittedLegs_within_cluster (state : PlanState) (cluster : List Nat)
    (headliner : RosterAct) (packagesLeft : Nat) :
    ∀ city ∈
        (emittedLegs opportunity distanceKm state headliner
          (survivingLegs headliner packagesLeft
            (openLegs opportunity state.committedCities cluster))).map
          CorridorLeg.cityId,
      city ∈ clusterCities opportunity cluster := by
  intro city member
  have survives := (emittedLegs_cities_subperm opportunity distanceKm state headliner packagesLeft
      (openLegs opportunity state.committedCities cluster)).subset member
  have isOpen := ((map_fst_survivingLegs_sublist headliner packagesLeft
      (openLegs opportunity state.committedCities cluster)).map
        CityOpportunity.cityId).subset survives
  exact (List.filter_sublist.map _).subset isOpen

theorem orderCorridorLegs_ne_nil (headliner : RosterAct) {survivors : List SurvivingLeg}
    (someSurvive : survivors ≠ []) :
    orderCorridorLegs distanceKm headliner survivors ≠ [] := by
  have sorted := List.perm_insertionSort
    (fun left right => (compareLegs headliner left right).isLE = true)
    survivors
  unfold orderCorridorLegs
  split
  next isSorted =>
    rw [isSorted] at sorted
    exact (someSurvive sorted.symm.eq_nil).elim
  · simp

/-- From here on no corridor of this cluster is planned. -/
structure LeavesOut
    (opportunity : RosterOpportunity)
    (cluster : List Nat)
    (clusterIndex : Nat)
    (movesBefore : Nat)
    (state : PlanState) :
    Prop where
  processed : clusterIndex ∈ state.processedCorridors
  enough : movesBefore ≤ state.moves.length
  leftOut :
    ∀ move ∈ state.moves.drop movesBefore,
      ∀ city ∈ move.legCities, city ∉ clusterCities opportunity cluster

theorem LeavesOut.of_moves {clusterIndex movesBefore : Nat} {before after : PlanState}
    (leaves : LeavesOut opportunity cluster clusterIndex movesBefore before)
    {more : List RosterMove} (moves : after.moves = before.moves ++ more)
    (others : ∀ move ∈ more, ∀ city ∈ move.legCities, city ∉ clusterCities opportunity cluster)
    (processed : ∀ index ∈ before.processedCorridors, index ∈ after.processedCorridors) :
    LeavesOut opportunity cluster clusterIndex movesBefore after where
  processed := processed _ leaves.processed
  enough := by
    rw [moves, List.length_append]
    exact Nat.le_add_right_of_le leaves.enough
  leftOut := by
    intro move member
    rw [moves, List.drop_append_of_le_length leaves.enough] at member
    rcases List.mem_append.mp member with earlier | isMore
    · exact leaves.leftOut move earlier
    · exact others move isMore

theorem bookNight_moves (opportunity : RosterOpportunity) (state : PlanState)
    (city : CityOpportunity) :
    (bookNight opportunity state city).processedCorridors = state.processedCorridors ∧
      ∃ more,
        (bookNight opportunity state city).moves = state.moves ++ more ∧
          ∀ move ∈ more, move.legCities = [] := by
  simp only [bookNight]
  split
  · exact ⟨rfl, [], (List.append_nil _).symm, by simp⟩
  · split
    · exact ⟨rfl, [], (List.append_nil _).symm, by simp⟩
    · refine ⟨rfl, _, rfl, ?_⟩
      intro move member
      rw [List.mem_singleton.mp member]
      rfl

theorem openCorridor_moves (opportunity : RosterOpportunity)
    (distanceKm : Point → Point → F64) (state : PlanState) (clusterIndex : Nat) :
    (openCorridor opportunity distanceKm state clusterIndex).processedCorridors =
        clusterIndex :: state.processedCorridors ∧
      ∃ more,
        (openCorridor opportunity distanceKm state clusterIndex).moves = state.moves ++ more ∧
          ∀ move ∈ more, ∀ city ∈ move.legCities,
            ∃ cluster,
              (corridorClusters distanceKm opportunity.cities)[clusterIndex]? = some cluster ∧
                city ∈ clusterCities opportunity cluster := by
  simp only [openCorridor]
  split
  · exact ⟨rfl, [], (List.append_nil _).symm, by simp⟩
  next cluster found =>
    rcases evaluateCorridor_emits opportunity distanceKm
        { state with
          processedCorridors := clusterIndex :: state.processedCorridors }
        cluster (opportunity.cap - state.packagesUsed) with
      nothing | ⟨headliner, note, _, emitted⟩
    · rw [nothing]
      exact ⟨rfl, [], (List.append_nil _).symm, by simp⟩
    · rw [emitted]
      refine ⟨rfl, _, rfl, ?_⟩
      intro move member city isLeg
      rw [List.mem_singleton.mp member] at isLeg
      exact ⟨cluster, found, emittedLegs_within_cluster distanceKm _ cluster headliner _ city isLeg⟩

theorem bookNight_leavesOut {clusterIndex movesBefore : Nat}
    (leaves : LeavesOut opportunity cluster clusterIndex movesBefore state)
    (city : CityOpportunity) :
    LeavesOut opportunity cluster clusterIndex movesBefore (bookNight opportunity state city) := by
  obtain ⟨processed, more, moves, noLegs⟩ := bookNight_moves opportunity state city
  refine leaves.of_moves moves ?_ ?_
  · intro move member legCity isLeg
    rw [noLegs move member] at isLeg
    simp at isLeg
  · intro index isProcessed
    rw [processed]
    exact isProcessed

/-- Once a cluster is processed no later city brings it back. -/
theorem judgeCity_leavesOut (distinctCities : (opportunity.cities.map CityOpportunity.cityId).Nodup)
    {clusterIndex movesBefore : Nat}
    (found : (corridorClusters distanceKm opportunity.cities)[clusterIndex]? = some cluster)
    (place : CityOpportunity × Nat)
    (leaves : LeavesOut opportunity cluster clusterIndex movesBefore state) :
    LeavesOut opportunity cluster clusterIndex movesBefore
      (judgeCity opportunity distanceKm state place) := by
  unfold judgeCity
  split
  · exact leaves
  · split
    · exact bookNight_leavesOut leaves place.1
    next other isFresh =>
      have notProcessed : other ∉ state.processedCorridors := by
        have fresh := (Option.filter_eq_some_iff.mp isFresh).2
        simpa using fresh
      obtain ⟨processed, more, moves, withinOther⟩ :=
        openCorridor_moves opportunity distanceKm state other
      have routed :
          LeavesOut opportunity cluster clusterIndex movesBefore
            (openCorridor opportunity distanceKm state other) := by
        refine leaves.of_moves moves ?_ ?_
        · intro move member city isLeg
          obtain ⟨otherCluster, otherFound, inOther⟩ := withinOther move member city isLeg
          have different : other ≠ clusterIndex := by
            intro same
            rw [same] at notProcessed
            exact notProcessed leaves.processed
          exact clusterCities_disjoint distinctCities otherFound found different inOther
        · intro index isProcessed
          rw [processed]
          exact List.mem_cons_of_mem _ isProcessed
      simp only
      split
      · exact routed
      · exact bookNight_leavesOut routed place.1

/-- The roster's own plan and its plan in another order have the same moves
where they are the same plan. -/
theorem moves_eq_of_samePlan (opportunity : RosterOpportunity)
    (distanceKm : Point → Point → F64) (acts : List RosterAct)
    (someAct : opportunity.available ≠ []) (somePackage : opportunity.packagesThisPeriod ≠ 0)
    (rearranged : opportunity.acts.Perm acts)
    (same :
      SamePlan (planRosterRun opportunity distanceKm)
        (planRosterRun (opportunity.withActs acts) distanceKm)) :
    (planned (opportunity.withActs acts) distanceKm).moves =
      (planned opportunity distanceKm).moves := by
  have someActToo : (opportunity.withActs acts).available ≠ [] := by
    intro noAct
    have available := available_withActs_perm rearranged
    rw [noAct] at available
    exact someAct available.eq_nil
  have somePackageToo : (opportunity.withActs acts).packagesThisPeriod ≠ 0 := somePackage
  by_cases nothing : (planned opportunity distanceKm).moves = []
  · by_cases nothingToo :
        (planned (opportunity.withActs acts) distanceKm).moves = []
    · rw [nothing, nothingToo]
    · simp [planRosterRun, someAct, someActToo, somePackage,
        somePackageToo, nothing, nothingToo, SamePlan] at same
  · by_cases nothingToo :
        (planned (opportunity.withActs acts) distanceKm).moves = []
    · simp [planRosterRun, someAct, someActToo, somePackage,
        somePackageToo, nothing, nothingToo, SamePlan] at same
    · simp only [planRosterRun, someAct, someActToo, somePackage,
        somePackageToo, nothing, nothingToo, if_false, SamePlan,
        PlanState.run] at same
      exact same.1.symm

/-- A city that opens a corridor somebody has two legs of gets it planned. -/
theorem corridor_planned (opportunity : RosterOpportunity)
    (distanceKm : Point → Point → F64) (untaken : place.1.cityId ∉ state.committedCities)
    {clusterIndex : Nat}
    (isFresh : freshCorridor opportunity distanceKm state place.2 = some clusterIndex)
    (found : (corridorClusters distanceKm opportunity.cities)[clusterIndex]? = some cluster)
    (enoughLegs : 2 ≤ (openLegs opportunity state.committedCities cluster).length)
    {headliner : RosterAct}
    (isChosen :
      chooseCorridorHeadliner (freeActs opportunity.available state.committedActs)
          (openLegs opportunity state.committedCities cluster) =
        some (headliner, note))
    (plays :
      2 ≤ (survivingLegs headliner (opportunity.cap - state.packagesUsed)
        (openLegs opportunity state.committedCities cluster)).length) :
    ∃ legs total,
      state.moves ++ [.routeCorridor headliner.name legs total note] <+:
          (judgeCity opportunity distanceKm state place).moves ∧
        legs ≠ [] ∧
        ∀ city ∈ legs.map CorridorLeg.cityId, city ∈ clusterCities opportunity cluster := by
  let opened :=
    { state with
      processedCorridors := clusterIndex :: state.processedCorridors }
  let survivors := survivingLegs headliner (opportunity.cap - state.packagesUsed)
      (openLegs opportunity state.committedCities cluster)
  have emitted :
      evaluateCorridor opportunity distanceKm opened cluster
          (opportunity.cap - state.packagesUsed) =
        emitCorridor opportunity distanceKm opened headliner note
          survivors := by
    simp only [evaluateCorridor, opened, survivors, isChosen,
      not_lt.mpr enoughLegs, not_lt.mpr plays, if_false]
  have routed :
      ∃ total,
        (openCorridor opportunity distanceKm state clusterIndex).moves = state.moves ++
            [.routeCorridor headliner.name
              (emittedLegs opportunity distanceKm opened headliner survivors)
              total note] := by
    simp only [openCorridor, found]
    exact ⟨_, congrArg PlanState.moves emitted⟩
  obtain ⟨total, moves⟩ := routed
  refine ⟨_, total, ?_, ?_, emittedLegs_within_cluster distanceKm opened
    cluster headliner (opportunity.cap - state.packagesUsed)⟩
  · rw [← moves]
    simp only [judgeCity, untaken, if_false, isFresh]
    split
    · exact List.prefix_refl _
    · obtain ⟨_, more, booked, _⟩ := bookNight_moves opportunity
          (openCorridor opportunity distanceKm state clusterIndex) place.1
      rw [booked]
      exact List.prefix_append _ _
  · intro noLegs
    have someSurvive : survivors ≠ [] := by
      intro noSurvivor
      simp only [survivors] at noSurvivor
      simp [noSurvivor] at plays
    exact orderCorridorLegs_ne_nil distanceKm headliner someSurvive (List.map_eq_nil_iff.mp noLegs)

/-- A city that opens a corridor nobody has two legs of leaves it out. -/
theorem corridor_left_out (opportunity : RosterOpportunity)
    (distanceKm : Point → Point → F64) (untaken : place.1.cityId ∉ state.committedCities)
    {clusterIndex : Nat}
    (isFresh : freshCorridor opportunity distanceKm state place.2 = some clusterIndex)
    (found : (corridorClusters distanceKm opportunity.cities)[clusterIndex]? = some cluster)
    {headliner : RosterAct}
    (isChosen :
      chooseCorridorHeadliner (freeActs opportunity.available state.committedActs)
          (openLegs opportunity state.committedCities cluster) =
        some (headliner, note))
    (tooFew :
      (survivingLegs headliner (opportunity.cap - state.packagesUsed)
        (openLegs opportunity state.committedCities cluster)).length < 2) :
    LeavesOut opportunity cluster clusterIndex state.moves.length
      (judgeCity opportunity distanceKm state place) := by
  have routed :
      LeavesOut opportunity cluster clusterIndex state.moves.length
        (openCorridor opportunity distanceKm state clusterIndex) := by
    simp only [openCorridor, found, evaluateCorridor, isChosen, tooFew, if_true, ite_self]
    exact ⟨List.mem_cons_self .., le_rfl, by simp⟩
  simp only [judgeCity, untaken, if_false, isFresh]
  split
  · exact routed
  · exact bookNight_leavesOut routed place.1

/-- The plan reaches this city, and no tie decides before it. -/
structure SettledUpTo
    (opportunity : RosterOpportunity)
    (distanceKm : Point → Point → F64)
    (before : List (CityOpportunity × Nat))
    (place : CityOpportunity × Nat)
    (after : List (CityOpportunity × Nat))
    (reached : PlanState) :
    Prop where
  shape : opportunity.cities.zipIdx = before ++ place :: after
  settled :
    EveryStep (periodFull opportunity) (judgeCity opportunity distanceKm)
      (TiesSettled opportunity distanceKm) before (slotsFilled opportunity)
  isReached :
    loop (periodFull opportunity) (judgeCity opportunity distanceKm) before
      (slotsFilled opportunity) = reached
  running : periodFull opportunity reached = false

section Reached

variable {distanceKm : Point → Point → F64} {before after : List (CityOpportunity × Nat)}
  {place : CityOpportunity × Nat} {reached : PlanState} {acts : List RosterAct}

section

variable (upTo : SettledUpTo opportunity distanceKm before place after reached)
include upTo

theorem SettledUpTo.reached_withActs (rearranged : opportunity.acts.Perm acts)
    (distinct : DistinctNames opportunity.acts) :
    loop (periodFull opportunity) (judgeCity (opportunity.withActs acts) distanceKm) before
        (slotsFilled opportunity) = reached :=
  (judging_withActs distanceKm rearranged distinct upTo.settled).trans upTo.isReached

theorem SettledUpTo.planned_withActs (rearranged : opportunity.acts.Perm acts)
    (distinct : DistinctNames opportunity.acts) :
    planned (opportunity.withActs acts) distanceKm = loop (periodFull (opportunity.withActs acts))
        (judgeCity (opportunity.withActs acts) distanceKm) after
        (judgeCity (opportunity.withActs acts) distanceKm reached place) := by
  have sameCities : (opportunity.withActs acts).cities.zipIdx = before ++ place :: after :=
    upTo.shape
  have sameFull : periodFull (opportunity.withActs acts) = periodFull opportunity := rfl
  rw [planned, sameCities, slotsFilled_withActs rearranged distinct,
    sameFull, loop_append, upTo.reached_withActs rearranged distinct,
    loop_cons upTo.running]

theorem SettledUpTo.listed {other : CityOpportunity × Nat}
    (member : other ∈ before ++ place :: after) :
    other.1 ∈ opportunity.cities := by
  rw [← upTo.shape] at member
  exact List.fst_mem_of_mem_zipIdx member

end

theorem distinctCities_withActs (acts : List RosterAct)
    (distinctCities : (opportunity.cities.map CityOpportunity.cityId).Nodup) :
    ((opportunity.withActs acts).cities.map CityOpportunity.cityId).Nodup :=
  distinctCities

theorem SettledUpTo.cityPhase (upTo : SettledUpTo opportunity distanceKm before place after reached)
    (rearranged : opportunity.acts.Perm acts) (distinct : DistinctNames opportunity.acts)
    (distinctCities : (opportunity.cities.map CityOpportunity.cityId).Nodup) :
    CityPhase (opportunity.withActs acts)
      (judgeCity (opportunity.withActs acts) distanceKm reached place) := by
  have distinctCitiesToo := distinctCities_withActs acts distinctCities
  have phase : CityPhase (opportunity.withActs acts) reached := by
    rw [← upTo.reached_withActs rearranged distinct, ← slotsFilled_withActs rearranged distinct]
    exact judging_cityPhase distanceKm distinctCitiesToo
      (fun _ earlier => upTo.listed (List.mem_append_left _ earlier))
      slotsFilled_cityPhase
  exact judgeCity_cityPhase distanceKm distinctCitiesToo
    (upTo.listed (List.mem_append_right _ List.mem_cons_self)) phase

section Corridor

variable {clusterIndex : Nat} {cluster : List Nat} {headliner : RosterAct} {note : Option String}

/-- The corridor of a headliner with two legs is the next move of the plan. -/
theorem SettledUpTo.corridor_next
    (upTo : SettledUpTo opportunity distanceKm before place after reached)
    (rearranged : opportunity.acts.Perm acts) (distinct : DistinctNames opportunity.acts)
    (distinctCities : (opportunity.cities.map CityOpportunity.cityId).Nodup)
    (untaken : place.1.cityId ∉ reached.committedCities)
    (isFresh : freshCorridor opportunity distanceKm reached place.2 = some clusterIndex)
    (found : (corridorClusters distanceKm opportunity.cities)[clusterIndex]? = some cluster)
    (enoughLegs : 2 ≤ (openLegs opportunity reached.committedCities cluster).length)
    (isChosen :
      chooseCorridorHeadliner (freeActs (opportunity.withActs acts).available reached.committedActs)
          (openLegs opportunity reached.committedCities cluster) =
        some (headliner, note))
    (plays :
      2 ≤ (survivingLegs headliner (opportunity.cap - reached.packagesUsed)
        (openLegs opportunity reached.committedCities cluster)).length) :
    ∃ legs total,
      (planned (opportunity.withActs acts) distanceKm).moves[reached.moves.length]? =
          some (.routeCorridor headliner.name legs total note) ∧
        legs ≠ [] ∧
        ∀ city ∈ legs.map CorridorLeg.cityId, city ∈ clusterCities opportunity cluster := by
  obtain ⟨legs, total, inMoves, someLegs, within⟩ :=
    corridor_planned (opportunity.withActs acts) distanceKm untaken isFresh
      found enoughLegs isChosen plays
  have listedAfter : ∀ later ∈ after, later.1 ∈ (opportunity.withActs acts).cities :=
    fun _ later =>
      upTo.listed (List.mem_append_right _ (List.mem_cons_of_mem _ later))
  obtain ⟨more, moves⟩ := inMoves.trans
      (moves_prefix_of_judging distanceKm (distinctCities_withActs acts distinctCities) listedAfter
        (upTo.cityPhase rearranged distinct distinctCities))
  refine ⟨legs, total, ?_, someLegs, within⟩
  rw [upTo.planned_withActs rearranged distinct, ← moves]
  simp

/-- A headliner without two legs leaves the cities of the corridor to nobody:
no later move goes there with a corridor. -/
theorem SettledUpTo.corridor_never
    (upTo : SettledUpTo opportunity distanceKm before place after reached)
    (rearranged : opportunity.acts.Perm acts) (distinct : DistinctNames opportunity.acts)
    (distinctCities : (opportunity.cities.map CityOpportunity.cityId).Nodup)
    (untaken : place.1.cityId ∉ reached.committedCities)
    (isFresh : freshCorridor opportunity distanceKm reached place.2 = some clusterIndex)
    (found : (corridorClusters distanceKm opportunity.cities)[clusterIndex]? = some cluster)
    (isChosen :
      chooseCorridorHeadliner (freeActs (opportunity.withActs acts).available reached.committedActs)
          (openLegs opportunity reached.committedCities cluster) =
        some (headliner, note))
    (tooFew :
      (survivingLegs headliner (opportunity.cap - reached.packagesUsed)
        (openLegs opportunity reached.committedCities cluster)).length < 2)
    {move : RosterMove}
    (isNext :
      (planned (opportunity.withActs acts) distanceKm).moves[reached.moves.length]? = some move) :
    ∀ city ∈ move.legCities, city ∉ clusterCities opportunity cluster := by
  have leaves := corridor_left_out (opportunity.withActs acts) distanceKm untaken isFresh
      found isChosen tooFew
  have leavesAll :
      LeavesOut (opportunity.withActs acts) cluster clusterIndex reached.moves.length
        (planned (opportunity.withActs acts) distanceKm) := by
    rw [upTo.planned_withActs rearranged distinct]
    refine loop_invariant
      (LeavesOut (opportunity.withActs acts) cluster clusterIndex reached.moves.length)
      ?_ leaves
    intro state later _ _ holds
    exact judgeCity_leavesOut distanceKm
      (distinctCities_withActs acts distinctCities) found later holds
  have isLater := List.mem_of_getElem?
    (show (List.drop reached.moves.length _)[0]? = some move by
      rw [List.getElem?_drop]
      exact isNext)
  exact leavesAll.leftOut move isLater

end Corridor

end Reached

theorem noTieDecides_of_order_free (distinct : DistinctNames opportunity.acts)
    (distinctCities : (opportunity.cities.map CityOpportunity.cityId).Nodup)
    (orderFree :
      ∀ acts, opportunity.acts.Perm acts →
        SamePlan (planRosterRun opportunity distanceKm)
          (planRosterRun (opportunity.withActs acts) distanceKm)) :
    NoTieDecides opportunity distanceKm := by
  by_contra tied
  obtain ⟨before, place, after, shape, settled, running, decides⟩ := exists_first_failing tied
  generalize isReached :
    loop (periodFull opportunity) (judgeCity opportunity distanceKm)
      before (slotsFilled opportunity) = reached at running decides
  have upTo : SettledUpTo opportunity distanceKm before place after reached :=
    ⟨shape, settled, isReached, running⟩
  simp only [TiesSettled, CorridorSettled, Classical.not_forall] at decides
  obtain ⟨untaken, clusterIndex, cluster, isFresh, found, enoughLegs,
    ⟨choiceAct, choiceNote⟩, ⟨otherAct, otherNote⟩, isChoice, isOther, plays,
    different⟩ := decides
  -- One order of the acts makes the one choice, another the other.
  obtain ⟨first, firstOrder, firstChosen⟩ := exists_order_of_choice isChoice
  obtain ⟨second, secondOrder, secondChosen⟩ := exists_order_of_choice isOther
  have someAct : opportunity.available ≠ [] := List.ne_nil_of_mem (mem_freeActs.mp isChoice.mem).1
  have somePackage : opportunity.packagesThisPeriod ≠ 0 := by
    intro noPackage
    have noCap : opportunity.cap = 0 := by
      rw [RosterOpportunity.cap, noPackage]
      rfl
    simp [periodFull, noCap] at running
  have sameMoves :
      (planned (opportunity.withActs first) distanceKm).moves =
        (planned (opportunity.withActs second) distanceKm).moves :=
    (moves_eq_of_samePlan opportunity distanceKm first someAct somePackage
      firstOrder (orderFree first firstOrder)).trans
      (moves_eq_of_samePlan opportunity distanceKm second someAct somePackage
        secondOrder (orderFree second secondOrder)).symm
  obtain ⟨legs, total, next, someLegs, within⟩ :=
    upTo.corridor_next firstOrder distinct distinctCities untaken isFresh
      found enoughLegs firstChosen plays
  rw [sameMoves] at next
  by_cases otherPlays :
      2 ≤ (survivingLegs otherAct (opportunity.cap - reached.packagesUsed)
        (openLegs opportunity reached.committedCities cluster)).length
  · obtain ⟨otherLegs, otherTotal, otherNext, _, _⟩ :=
      upTo.corridor_next secondOrder distinct distinctCities untaken isFresh
        found enoughLegs secondChosen otherPlays
    rw [otherNext] at next
    simp only [Option.some.injEq, RosterMove.routeCorridor.injEq] at next
    obtain ⟨sameName, _, _, sameNote⟩ := next
    have listed :
        ∀ act ∈ freeActs opportunity.available reached.committedActs,
          act ∈ opportunity.acts := fun act member =>
      List.mem_of_mem_filter (mem_freeActs.mp member).1
    have sameAct : otherAct = choiceAct :=
      distinct.eq_of_name (listed _ isOther.mem) (listed _ isChoice.mem) sameName
    exact different (by rw [sameAct, sameNote])
  · have never := upTo.corridor_never secondOrder distinct distinctCities untaken isFresh
        found secondChosen (not_le.mp otherPlays) next
    obtain ⟨leg, rest, isLegs⟩ := List.exists_cons_of_ne_nil someLegs
    have isLeg : leg.cityId ∈ legs.map CorridorLeg.cityId := by
      simp [isLegs]
    exact never leg.cityId isLeg (within leg.cityId isLeg)

end Divergence

/-- Without deciding ties the plan is the same in any order of the acts, and
where the cities are distinct it is the same in any order only then. -/
theorem roster_plan_free_of_act_order
    (distanceKm : Point → Point → F64)
    (opportunity : RosterOpportunity)
    (distinctActs : DistinctNames opportunity.acts) :
    (NoTieDecides opportunity distanceKm →
        ∀ acts, opportunity.acts.Perm acts →
          SamePlan (planRosterRun opportunity distanceKm)
            (planRosterRun (opportunity.withActs acts) distanceKm)) ∧
      ((opportunity.cities.map CityOpportunity.cityId).Nodup →
        (∀ acts, opportunity.acts.Perm acts →
          SamePlan (planRosterRun opportunity distanceKm)
            (planRosterRun (opportunity.withActs acts) distanceKm)) →
        NoTieDecides opportunity distanceKm) := by
  constructor
  · intro settled acts rearranged
    exact samePlan_of_planned_eq distanceKm rearranged
      (planned_withActs distanceKm rearranged distinctActs settled)
  · intro distinctCities orderFree
    exact noTieDecides_of_order_free distanceKm distinctActs distinctCities
      orderFree

/-- Two acts with the same draw over two nearby cities. -/
def tiedCorridor : RosterOpportunity where
  acts := [
    bookingAct "Alpha" [(1, 300), (2, 200)] [],
    bookingAct "Beta" [(1, 200), (2, 300)] []]
  cities := [
    bookableCity 1 "krakow" (some krakow),
    bookableCity 2 "warszawa" (some warszawa)]
  openSlots := []
  packagesThisPeriod := 4

theorem tied_corridor_free_of_act_order :
    (NoTieDecides tiedCorridor roadKm →
        ∀ acts, tiedCorridor.acts.Perm acts →
          SamePlan (planRosterRun tiedCorridor roadKm)
            (planRosterRun (tiedCorridor.withActs acts) roadKm)) ∧
      ((tiedCorridor.cities.map CityOpportunity.cityId).Nodup →
        (∀ acts, tiedCorridor.acts.Perm acts →
          SamePlan (planRosterRun tiedCorridor roadKm)
            (planRosterRun (tiedCorridor.withActs acts) roadKm)) →
        NoTieDecides tiedCorridor roadKm) :=
  roster_plan_free_of_act_order roadKm tiedCorridor
    (by unfold DistinctNames; decide +kernel)

/-- The corridor goes to the act that is listed last. -/
theorem tied_corridor_by_act_order :
    DistinctNames tiedCorridor.acts ∧
      tiedCorridor.acts.Perm tiedCorridor.acts.reverse ∧
      (planned tiedCorridor roadKm).moves.map RosterMove.proposed = [["Beta"]] ∧
      (planned (tiedCorridor.withActs tiedCorridor.acts.reverse)
          roadKm).moves.map RosterMove.proposed =
        [["Alpha"]] ∧
      ¬ SamePlan (planRosterRun tiedCorridor roadKm)
        (planRosterRun (tiedCorridor.withActs tiedCorridor.acts.reverse)
          roadKm) := by
  have listed : (planned tiedCorridor roadKm).moves.map RosterMove.proposed = [["Beta"]] := by
    decide +kernel
  have reversed :
      (planned (tiedCorridor.withActs tiedCorridor.acts.reverse)
          roadKm).moves.map RosterMove.proposed =
        [["Alpha"]] := by
    decide +kernel
  have rearranged : tiedCorridor.acts.Perm tiedCorridor.acts.reverse := (List.reverse_perm _).symm
  refine ⟨by unfold DistinctNames; decide +kernel, rearranged, listed,
    reversed, ?_⟩
  intro same
  have someAct : tiedCorridor.available ≠ [] := by
    decide +kernel
  have somePackage : tiedCorridor.packagesThisPeriod ≠ 0 := by
    decide +kernel
  have sameMoves := moves_eq_of_samePlan tiedCorridor roadKm tiedCorridor.acts.reverse
      someAct somePackage rearranged same
  rw [sameMoves, listed] at reversed
  simp at reversed

end CrowdRelay
