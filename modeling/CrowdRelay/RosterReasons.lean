import CrowdRelay.RosterOrder

namespace CrowdRelay

open MachineInt Extremes GreedySelection StoppingLoop

/-!
# Why a city got no night

A city the plan comes to while the period has room either has a night in some
move or is written down with a reason.  The reason that no act is free is
also given for a city where no act of the roster was ever measured.
-/

def RosterAct.DrawsIn (act : RosterAct) (city : Uuid) : Prop :=
  ∃ reach, act.reachIn city = some reach ∧ 0 < reach.val

/-- An act that is not heads down draws somebody in the city. -/
def Drawn (opportunity : RosterOpportunity) (city : Uuid) : Prop :=
  ∃ act ∈ opportunity.available, act.DrawsIn city

section Reasons

variable (opportunity : RosterOpportunity)

/-- Why a city judged for a night of its own is refused, if it is. -/
def skipReason (state : PlanState) (city : CityOpportunity) : Option CitySkipped :=
  match chooseHeadliner (freeActs opportunity.available state.committedActs) city.cityId with
  | none => some .noActFree
  | some (headliner, _) =>
    match planGig (asSeenBy city headliner) headliner.intent with
    | .error refusal => some (.refused refusal)
    | .ok _ => none

variable (distanceKm : Point → Point → F64)

/-- Where the plan stands when a city of the list is judged for a night of its
own, unless a move has taken it by then. -/
def judgedAlone (state : PlanState) (place : CityOpportunity × Nat) : Option PlanState :=
  if place.1.cityId ∈ state.committedCities then
    none
  else
    match freshCorridor opportunity distanceKm state place.2 with
    | none => some state
    | some clusterIndex =>
      let routed := openCorridor opportunity distanceKm state clusterIndex
      if place.1.cityId ∈ routed.committedCities then none else some routed

/-- The cities the plan comes to before the period is full, each with where
the plan stands there. -/
def cityVisits : List (PlanState × (CityOpportunity × Nat)) :=
  visited (periodFull opportunity) (judgeCity opportunity distanceKm)
    opportunity.cities.zipIdx (slotsFilled opportunity)

/-- The cities judged for a night of their own, each with where the plan stands
when it is. -/
def evaluations : List (PlanState × CityOpportunity) :=
  (cityVisits opportunity distanceKm).filterMap fun visit =>
    (judgedAlone opportunity distanceKm visit.1 visit.2).map fun reached =>
      (reached, visit.2.1)

end Reasons

/-- The cities a roster is told no for, in a plan or instead of one. -/
def refusedCities :
    Except RosterRefusal RosterRun → Option (List (String × CitySkipped))
  | .ok run => some run.consideredAndRefused
  | .error (.nothingClearedTheBar perCity) => some perCity
  | .error .noActIsAvailable | .error (.periodIsFull _) => none

/-- The reasons a roster is given are complete and true. -/
structure TellsWhy
    (opportunity : RosterOpportunity)
    (distanceKm : Point → Point → F64) :
    Prop where
  complete :
    ∀ run, planRosterRun opportunity distanceKm = .ok run →
      (run.moves.map RosterMove.nights).sum < opportunity.cap →
        ∀ city ∈ opportunity.cities,
          (∃ move ∈ run.moves, ∃ nights,
            PlaysIn opportunity move nights ∧ city.cityId ∈ nights) ∨
          ∃ reason, (city.city, reason) ∈ run.consideredAndRefused
  written :
    ∀ refused,
      refusedCities (planRosterRun opportunity distanceKm) = some refused →
        refused =
          (evaluations opportunity distanceKm).filterMap fun evaluation =>
            (skipReason opportunity evaluation.1 evaluation.2).map
              fun reason => (evaluation.2.city, reason)
  truthful :
    ∀ refused,
      refusedCities (planRosterRun opportunity distanceKm) = some refused →
        ∀ evaluation ∈ evaluations opportunity distanceKm,
          skipReason opportunity evaluation.1 evaluation.2 =
              some .noActFree →
            ∃ act ∈ opportunity.available,
              act.DrawsIn evaluation.2.cityId ∧
                ∃ move ∈ evaluation.1.moves, act.name ∈ move.proposed

section Choices

variable {city : Uuid} {plan : GigPlan} {headliner : RosterAct}

theorem le_of_isLE_compareReach {left right : RosterAct}
    (ordered : (compareReach city left right).isLE = true) {reach : U32}
    (isReach : left.reachIn city = some reach) :
    ∃ greater, right.reachIn city = some greater ∧ reach ≤ greater := by
  have reachOrdered : (compare (left.reachIn city) (right.reachIn city)).isLE = true := by
    simp only [compareReach] at ordered
    cases compared : compare (left.reachIn city) (right.reachIn city) with
    | lt | eq => rfl
    | gt =>
      rw [compared] at ordered
      cases ordered
  cases isGreater : right.reachIn city with
  | none =>
    rw [isReach, isGreater] at reachOrdered
    cases reachOrdered
  | some greater =>
    rw [isReach, isGreater] at reachOrdered
    exact ⟨greater, rfl, isLE_compare_iff.mp reachOrdered⟩

theorem chooseHeadliner_eq_none_iff {acts : List RosterAct} :
    chooseHeadliner acts city = none ↔ ∀ act ∈ acts, ¬ act.DrawsIn city := by
  cases isBest : maxBy (compareReach city) acts with
  | none =>
    have noAct := maxBy_eq_none_iff.mp isBest
    subst noAct
    simp [chooseHeadliner, maxBy]
  | some best =>
    simp only [chooseHeadliner, isBest, Option.bind_some,
      Option.bind_eq_none_iff, ite_eq_left_iff, reduceCtorEq, imp_false,
      not_not]
    constructor
    · rintro noReach act member ⟨reach, isReach, someReach⟩
      obtain ⟨greater, isGreater, below⟩ :=
        le_of_isLE_compareReach (isLE_maxBy isBest act member) isReach
      rw [noReach greater isGreater] at below
      exact absurd (Ranged.le_iff_val.mp below) (not_le.mpr someReach)
    · intro nobody reach isReach
      by_contra someReach
      refine nobody best (maxBy_mem isBest) ⟨reach, isReach, ?_⟩
      exact lt_of_le_of_ne reach.lower fun zero =>
        someReach (Ranged.val_injective zero.symm)

theorem someReach_of_planGig {city : CityOpportunity} {intent : TenantIntent}
    (isPlanned : planGig city intent = .ok plan) :
    ∃ reach, city.reachableFans = some reach ∧ 0 < reach.val := by
  unfold planGig at isPlanned
  split at isPlanned
  · cases isPlanned
  · split at isPlanned
    · cases isPlanned
    · split at isPlanned
      · cases isPlanned
      next reach isReach =>
        split at isPlanned
        · cases isPlanned
        next enough =>
          have atLeast := Ranged.le_iff_val.mp (not_lt.mp enough)
          have bar : (0 : Int) < minimumReachableForAGig.val := by
            decide
          exact ⟨reach, isReach, bar.trans_le atLeast⟩

theorem drawsIn_of_planGig {city : CityOpportunity}
    (isPlanned : planGig (asSeenBy city headliner) headliner.intent = .ok plan) :
    headliner.DrawsIn city.cityId :=
  someReach_of_planGig isPlanned

theorem drawsIn_of_survivingLegs {packagesLeft : Nat} {legs : List CityOpportunity}
    {leg : SurvivingLeg} (survives : leg ∈ survivingLegs headliner packagesLeft legs) :
    headliner.DrawsIn leg.1.cityId := by
  refine loop_invariant
    (fun survivors : List SurvivingLeg =>
      ∀ leg ∈ survivors, headliner.DrawsIn leg.1.cityId)
    ?_ (by simp) leg survives
  intro survivors city _ _ drawn leg member
  unfold keepLeg at member
  split at member
  next plan isPlanned =>
    rcases List.mem_append.mp member with earlier | isLeg
    · exact drawn leg earlier
    · rw [List.mem_singleton.mp isLeg]
      exact drawsIn_of_planGig isPlanned
  · exact drawn leg member

end Choices

variable {opportunity : RosterOpportunity} {state : PlanState} {city : CityOpportunity}

section Steps

variable (distanceKm : Point → Point → F64)

theorem openCorridor_adds (distanceKm : Point → Point → F64) (state : PlanState)
    (clusterIndex : Nat) :
    (openCorridor opportunity distanceKm state clusterIndex).refused = state.refused ∧
      (((openCorridor opportunity distanceKm state clusterIndex).moves = state.moves ∧
          (openCorridor opportunity distanceKm state
              clusterIndex).committedCities = state.committedCities ∧
          (openCorridor opportunity distanceKm state
              clusterIndex).committedActs = state.committedActs) ∨
        ∃ move cities,
          MoveAdded opportunity state move cities
              (openCorridor opportunity distanceKm state clusterIndex) ∧
            ∀ city ∈ cities, Drawn opportunity city) := by
  unfold openCorridor
  simp only
  split
  · exact ⟨rfl, Or.inl ⟨rfl, rfl, rfl⟩⟩
  next cluster _ =>
    rcases evaluateCorridor_emits opportunity distanceKm
        { state with
          processedCorridors := clusterIndex :: state.processedCorridors }
        cluster (opportunity.cap - state.packagesUsed) with
      nothing | ⟨headliner, note, isChosen, emitted⟩
    · rw [nothing]
      exact ⟨rfl, Or.inl ⟨rfl, rfl, rfl⟩⟩
    · rw [emitted]
      refine ⟨rfl, Or.inr ?_⟩
      have isFree := chooseCorridorHeadliner_mem isChosen
      have surviving := map_fst_survivingLegs_sublist headliner
          (opportunity.cap - state.packagesUsed)
          (openLegs opportunity state.committedCities cluster)
      have listed :
          ∀ leg ∈ survivingLegs headliner (opportunity.cap - state.packagesUsed)
              (openLegs opportunity state.committedCities cluster),
            leg.1 ∈ opportunity.cities := by
        intro leg survives
        exact (mem_openLegs (surviving.subset (List.mem_map_of_mem survives))).1
      obtain ⟨total, added⟩ := emitCorridor_added distanceKm note isFree listed
      refine ⟨_, _, ⟨added.moves, added.committedCities, added.played,
        added.committedActs, added.free, added.available⟩, ?_⟩
      intro city member
      have survives := (emittedLegs_cities_subperm opportunity distanceKm _ headliner _
          _).subset member
      rw [List.map_map] at survives
      obtain ⟨leg, isLeg, rfl⟩ := List.mem_map.mp survives
      exact ⟨headliner, (mem_freeActs.mp isFree).1, drawsIn_of_survivingLegs isLeg⟩

theorem openCorridor_counted (counted : Counted state) (clusterIndex : Nat) :
    Counted (openCorridor opportunity distanceKm state clusterIndex) := by
  unfold openCorridor
  simp only
  split
  · exact counted
  · rfl

theorem bookNight_refused (state : PlanState) (city : CityOpportunity) :
    (bookNight opportunity state city).refused = state.refused ++
        ((skipReason opportunity state city).map fun reason =>
          (city.city, reason)).toList := by
  cases isChosen :
      chooseHeadliner (freeActs opportunity.available state.committedActs) city.cityId with
  | none => simp [bookNight, skipReason, isChosen]
  | some chosen =>
    obtain ⟨headliner, note⟩ := chosen
    cases isPlanned : planGig (asSeenBy city headliner) headliner.intent with
    | error refusal => simp [bookNight, skipReason, isChosen, isPlanned]
    | ok plan => simp [bookNight, skipReason, isChosen, isPlanned, emitNight]

theorem bookNight_committedCities (state : PlanState) (city : CityOpportunity) :
    state.committedCities <+: (bookNight opportunity state city).committedCities := by
  simp only [bookNight]
  split
  · exact List.prefix_rfl
  · split
    · exact List.prefix_rfl
    · exact List.prefix_append _ _

theorem skipReason_eq_noActFree_iff :
    skipReason opportunity state city = some .noActFree ↔
      chooseHeadliner (freeActs opportunity.available state.committedActs) city.cityId = none := by
  cases isChosen :
      chooseHeadliner (freeActs opportunity.available state.committedActs) city.cityId with
  | none => simp [skipReason, isChosen]
  | some chosen =>
    obtain ⟨headliner, note⟩ := chosen
    cases isPlanned : planGig (asSeenBy city headliner) headliner.intent with
    | error refusal => simp [skipReason, isChosen, isPlanned]
    | ok plan => simp [skipReason, isChosen, isPlanned]

theorem bookable_of_skipReason (noReason : skipReason opportunity state city = none) :
    Bookable opportunity state city := by
  unfold skipReason at noReason
  split at noReason
  · cases noReason
  next headliner note isChosen =>
    split at noReason
    · cases noReason
    next plan isPlanned => exact ⟨headliner, note, plan, isChosen, isPlanned⟩

theorem Bookable.drawn (bookable : Bookable opportunity state city) :
    Drawn opportunity city.cityId := by
  obtain ⟨headliner, note, plan, isChosen, isPlanned⟩ := bookable
  exact ⟨headliner, (mem_freeActs.mp (chooseHeadliner_mem isChosen)).1,
    drawsIn_of_planGig isPlanned⟩

theorem drawn_of_slotSupport {slot : OpenSupportSlot}
    (isFilled : (slotSupport opportunity state slot).isSome = true) :
    Drawn opportunity slot.cityId := by
  obtain ⟨⟨support, adds⟩, isSupport⟩ := Option.isSome_iff_exists.mp isFilled
  simp only [slotSupport, Option.ite_none_left_eq_some, Option.bind_eq_some_iff] at isSupport
  obtain ⟨_, headliner, _, isChosen⟩ := isSupport
  obtain ⟨inActs, _, isAdded⟩ := chooseSupport_eq_some isChosen
  obtain ⟨overlap, reach, _, _, isReach, adds⟩ := supportAdds_eq_some isAdded
  refine ⟨support, (mem_freeActs.mp (List.mem_of_mem_filter inActs)).1, reach, isReach, ?_⟩
  have lower := reach.lower
  have share := Int.ediv_nonneg (Int.mul_nonneg lower overlap.lower) (by decide : (0 : Int) ≤ 10000)
  omega

/-- What opening a corridor and booking a night preserve, judging a city
preserves. -/
theorem judgeCity_invariant (invariant : PlanState → Prop) {place : CityOpportunity × Nat}
    (opened :
      ∀ state clusterIndex, invariant state →
        invariant (openCorridor opportunity distanceKm state clusterIndex))
    (booked : ∀ state, invariant state → invariant (bookNight opportunity state place.1))
    (initially : invariant state) :
    invariant (judgeCity opportunity distanceKm state place) := by
  unfold judgeCity
  split
  · exact initially
  · split
    · exact booked state initially
    next clusterIndex _ =>
      have routed := opened state clusterIndex initially
      simp only
      split
      · exact routed
      · exact booked _ routed

end Steps

/-- Everything that is taken is in a move, and somebody draws every city that
is taken. -/
structure Explained
    (opportunity : RosterOpportunity)
    (state : PlanState) :
    Prop where
  counted : Counted state
  played :
    ∀ city ∈ state.committedCities, ∃ move ∈ state.moves, ∃ nights,
      PlaysIn opportunity move nights ∧ city ∈ nights
  proposed :
    ∀ name ∈ state.committedActs, ∃ move ∈ state.moves,
      name ∈ move.proposed
  drawn : ∀ city ∈ state.committedCities, Drawn opportunity city

section Invariants

variable {before after : PlanState} (distanceKm : Point → Point → F64)

theorem Explained.of_same (explained : Explained opportunity before)
    (counted : Counted after) (moves : after.moves = before.moves)
    (committedCities : after.committedCities = before.committedCities)
    (committedActs : after.committedActs = before.committedActs) :
    Explained opportunity after where
  counted := counted
  played := by
    rw [moves, committedCities]
    exact explained.played
  proposed := by
    rw [moves, committedActs]
    exact explained.proposed
  drawn := by
    rw [committedCities]
    exact explained.drawn

theorem Explained.of_moveAdded {move : RosterMove} {cities : List Uuid}
    (explained : Explained opportunity before)
    (added : MoveAdded opportunity before move cities after) (counted : Counted after)
    (drawn : ∀ city ∈ cities, Drawn opportunity city) :
    Explained opportunity after where
  counted := counted
  played := by
    intro city member
    rw [added.committedCities] at member
    rw [added.moves]
    rcases List.mem_append.mp member with earlier | isNew
    · obtain ⟨other, isMove, nights, plays, inNights⟩ := explained.played city earlier
      exact ⟨other, List.mem_append_left _ isMove, nights, plays, inNights⟩
    · exact ⟨move, by simp, cities, added.played, isNew⟩
  proposed := by
    intro name member
    rw [added.moves]
    rcases (added.committedActs name).mp member with earlier | isNew
    · obtain ⟨other, isMove, named⟩ := explained.proposed name earlier
      exact ⟨other, List.mem_append_left _ isMove, named⟩
    · exact ⟨move, by simp, isNew⟩
  drawn := by
    intro city member
    rw [added.committedCities] at member
    rcases List.mem_append.mp member with earlier | isNew
    · exact explained.drawn city earlier
    · exact drawn city isNew

theorem explained_start : Explained opportunity PlanState.start where
  counted := rfl
  played := by simp [PlanState.start]
  proposed := by simp [PlanState.start]
  drawn := by simp [PlanState.start]

theorem fillSlot_explained {slot : OpenSupportSlot}
    (listed : slot ∈ opportunity.openSlots) (explained : Explained opportunity state) :
    Explained opportunity (fillSlot opportunity state slot) := by
  rcases fillSlot_cases state listed with
    ⟨_, unchanged⟩ | ⟨isFilled, move, added, isSlot, used⟩
  · rw [unchanged]
    exact explained
  · have oneNight : move.nights = 1 := by
      cases move <;> simp_all [RosterMove.nights, RosterMove.isSlot]
    refine explained.of_moveAdded added ?_ ?_
    · simp only [Counted, used, added.moves, List.map_append,
        List.map_singleton, List.sum_append, List.sum_singleton, oneNight]
      exact congrArg (· + 1) explained.counted
    · intro city member
      rw [List.mem_singleton.mp member]
      exact drawn_of_slotSupport isFilled

theorem openCorridor_explained (clusterIndex : Nat) (explained : Explained opportunity state) :
    Explained opportunity (openCorridor opportunity distanceKm state clusterIndex) := by
  have counted : Counted (openCorridor opportunity distanceKm state clusterIndex) :=
    openCorridor_counted distanceKm explained.counted clusterIndex
  obtain ⟨_, ⟨moves, cities, acts⟩ | ⟨move, cities, added, drawn⟩⟩ :=
    openCorridor_adds distanceKm state clusterIndex
  · exact explained.of_same counted moves cities acts
  · exact explained.of_moveAdded added counted drawn

theorem bookNight_explained {city : CityOpportunity} (listed : city ∈ opportunity.cities)
    (explained : Explained opportunity state) :
    Explained opportunity (bookNight opportunity state city) := by
  rcases bookNight_cases state listed with
    ⟨_, nothing⟩ | ⟨bookable, move, added, _, nights, used⟩
  · exact explained.of_same (explained.counted.of_nothingAdded nothing)
      nothing.moves nothing.committedCities nothing.committedActs
  · refine explained.of_moveAdded added ?_ ?_
    · simp only [Counted, used, added.moves, List.map_append,
        List.map_singleton, List.sum_append, List.sum_singleton, nights]
      exact congrArg (· + 1) explained.counted
    · intro other member
      rw [List.mem_singleton.mp member]
      exact bookable.drawn

theorem judgeCity_explained {place : CityOpportunity × Nat}
    (listed : place.1 ∈ opportunity.cities) (explained : Explained opportunity state) :
    Explained opportunity (judgeCity opportunity distanceKm state place) :=
  judgeCity_invariant distanceKm (Explained opportunity)
    (fun _ clusterIndex holds =>
      openCorridor_explained distanceKm clusterIndex holds)
    (fun _ holds => bookNight_explained listed holds)
    explained

theorem slotsFilled_explained : Explained opportunity (slotsFilled opportunity) :=
  loop_invariant (Explained opportunity) (fun _ _ listed _ holds => fillSlot_explained listed holds)
    explained_start

theorem planned_explained (opportunity : RosterOpportunity) (distanceKm : Point → Point → F64) :
    Explained opportunity (planned opportunity distanceKm) :=
  loop_invariant (Explained opportunity)
    (fun _ _ member _ holds =>
      judgeCity_explained distanceKm (List.fst_mem_of_mem_zipIdx member) holds)
    slotsFilled_explained

theorem cityVisits_explained {distanceKm : Point → Point → F64}
    {visit : PlanState × (CityOpportunity × Nat)}
    (isVisit : visit ∈ cityVisits opportunity distanceKm) :
    visit.2.1 ∈ opportunity.cities ∧ Explained opportunity visit.1 := by
  have visited := visited_invariant (Explained opportunity)
      (fun _ _ member _ holds =>
        judgeCity_explained distanceKm (List.fst_mem_of_mem_zipIdx member) holds)
      slotsFilled_explained isVisit
  exact ⟨List.fst_mem_of_mem_zipIdx visited.1, visited.2⟩

end Invariants

section Evaluations

variable {distanceKm : Point → Point → F64} {state reached : PlanState}
  {place : CityOpportunity × Nat}

theorem judgeCity_of_judgedAlone
    (alone : judgedAlone opportunity distanceKm state place = some reached) :
    judgeCity opportunity distanceKm state place = bookNight opportunity reached place.1 := by
  unfold judgedAlone at alone
  unfold judgeCity
  split at alone
  · cases alone
  next untaken =>
    rw [if_neg untaken]
    cases isFresh : freshCorridor opportunity distanceKm state place.2 with
    | none =>
      simp only [isFresh] at alone ⊢
      cases alone
      rfl
    | some clusterIndex =>
      simp only [isFresh] at alone ⊢
      split at alone
      · cases alone
      next untakenStill =>
        cases alone
        exact if_neg untakenStill

theorem reached_of_judgedAlone
    (alone : judgedAlone opportunity distanceKm state place = some reached) :
    reached = state ∨
      ∃ clusterIndex, reached = openCorridor opportunity distanceKm state clusterIndex := by
  unfold judgedAlone at alone
  split at alone
  · cases alone
  · split at alone
    · cases alone
      exact Or.inl rfl
    next clusterIndex _ =>
      simp only at alone
      split at alone
      · cases alone
      · cases alone
        exact Or.inr ⟨clusterIndex, rfl⟩

theorem refused_of_judgedAlone
    (alone : judgedAlone opportunity distanceKm state place = some reached) :
    reached.refused = state.refused := by
  rcases reached_of_judgedAlone alone with rfl | ⟨clusterIndex, rfl⟩
  · rfl
  · exact (openCorridor_adds distanceKm state clusterIndex).1

theorem explained_of_judgedAlone
    (alone : judgedAlone opportunity distanceKm state place = some reached)
    (explained : Explained opportunity state) :
    Explained opportunity reached := by
  rcases reached_of_judgedAlone alone with rfl | ⟨clusterIndex, rfl⟩
  · exact explained
  · exact openCorridor_explained distanceKm clusterIndex explained

theorem judgeCity_of_taken (taken : judgedAlone opportunity distanceKm state place = none) :
    place.1.cityId ∈ (judgeCity opportunity distanceKm state place).committedCities ∧
      (judgeCity opportunity distanceKm state place).refused = state.refused := by
  unfold judgedAlone at taken
  unfold judgeCity
  split at taken
  next already =>
    rw [if_pos already]
    exact ⟨already, rfl⟩
  next untaken =>
    rw [if_neg untaken]
    cases isFresh : freshCorridor opportunity distanceKm state place.2 with
    | none =>
      simp only [isFresh] at taken
      cases taken
    | some clusterIndex =>
      simp only [isFresh] at taken ⊢
      split at taken
      next routed =>
        rw [if_pos routed]
        exact ⟨routed, (openCorridor_adds distanceKm state clusterIndex).1⟩
      · cases taken

/-- The city is taken by a move, or refused. -/
def CitySettled (city : CityOpportunity) (state : PlanState) : Prop :=
  city.cityId ∈ state.committedCities ∨ ∃ reason, (city.city, reason) ∈ state.refused

theorem judgeCity_settles (listed : place.1 ∈ opportunity.cities) :
    CitySettled place.1 (judgeCity opportunity distanceKm state place) := by
  cases alone : judgedAlone opportunity distanceKm state place with
  | none => exact Or.inl (judgeCity_of_taken alone).1
  | some reached =>
    rw [judgeCity_of_judgedAlone alone]
    cases isReason : skipReason opportunity reached place.1 with
    | none =>
      rcases bookNight_cases reached listed with
        ⟨notBookable, _⟩ | ⟨_, move, added, _⟩
      · exact absurd (bookable_of_skipReason isReason) notBookable
      · left
        rw [added.committedCities]
        simp
    | some reason =>
      right
      refine ⟨reason, ?_⟩
      rw [bookNight_refused, isReason]
      simp

theorem judgeCity_keeps_settled (settled : CitySettled city state) :
    CitySettled city (judgeCity opportunity distanceKm state place) := by
  refine judgeCity_invariant distanceKm (CitySettled city) ?_ ?_ settled
  · intro before clusterIndex holds
    obtain ⟨refused, ⟨_, cities, _⟩ | ⟨move, cities, added, _⟩⟩ :=
      @openCorridor_adds opportunity distanceKm before clusterIndex
    · rw [CitySettled, refused, cities]
      exact holds
    · rw [CitySettled, refused, added.committedCities]
      exact holds.imp_left (List.mem_append_left _)
  · intro before holds
    have more := @bookNight_committedCities opportunity before place.1
    rw [CitySettled, bookNight_refused]
    refine holds.imp (fun taken => more.subset taken) ?_
    rintro ⟨reason, member⟩
    exact ⟨reason, List.mem_append_left _ member⟩

theorem planned_refused (opportunity : RosterOpportunity) (distanceKm : Point → Point → F64) :
    (planned opportunity distanceKm).refused =
      (evaluations opportunity distanceKm).filterMap fun evaluation =>
        (skipReason opportunity evaluation.1 evaluation.2).map
          fun reason => (evaluation.2.city, reason) := by
  have nothingYet : (slotsFilled opportunity).refused = [] := by
    refine loop_invariant (fun state : PlanState => state.refused = []) ?_ rfl
    intro state slot listed _ nothing
    unfold fillSlot
    split
    · exact nothing
    · exact nothing
  have writes :
      ∀ (state : PlanState) (place : CityOpportunity × Nat),
        (judgeCity opportunity distanceKm state place).refused = state.refused ++
            ((judgedAlone opportunity distanceKm state place).bind
              fun reached =>
                (skipReason opportunity reached place.1).map fun reason =>
                  (place.1.city, reason)).toList := by
    intro state place
    cases alone : judgedAlone opportunity distanceKm state place with
    | none => simp [(judgeCity_of_taken alone).2]
    | some reached =>
      rw [judgeCity_of_judgedAlone alone, bookNight_refused, refused_of_judgedAlone alone]
      rfl
  rw [planned, loop_log writes, nothingYet, List.nil_append, evaluations,
    List.filterMap_filterMap, List.filterMap_eq_flatMap_toList]
  refine congrArg (List.flatMap · _) (funext fun visit => ?_)
  cases judgedAlone opportunity distanceKm visit.1 visit.2 <;> rfl

theorem refusedCities_planRosterRun {refused : List (String × CitySkipped)} :
    refusedCities (planRosterRun opportunity distanceKm) = some refused ↔
      opportunity.available ≠ [] ∧ opportunity.packagesThisPeriod ≠ 0 ∧
        (planned opportunity distanceKm).refused = refused := by
  by_cases noAct : opportunity.available = []
  · simp [planRosterRun, noAct, refusedCities]
  · by_cases full : opportunity.packagesThisPeriod = 0
    · simp [planRosterRun, noAct, full, refusedCities]
    · by_cases nothing : (planned opportunity distanceKm).moves = []
      · simp [planRosterRun, noAct, full, nothing, refusedCities]
      · simp [planRosterRun, noAct, full, nothing, refusedCities, PlanState.run]

theorem settled_of_room
    (room : ((planned opportunity distanceKm).moves.map RosterMove.nights).sum < opportunity.cap)
    (listed : city ∈ opportunity.cities) :
    CitySettled city (planned opportunity distanceKm) := by
  have counted := (planned_explained opportunity distanceKm).counted
  have running : periodFull opportunity (planned opportunity distanceKm) = false := by
    rw [← counted] at room
    simpa [periodFull] using room
  have everyCity := map_snd_visited running
  rw [← List.zipIdx_map_fst 0 opportunity.cities] at listed
  obtain ⟨place, isPlace, rfl⟩ := List.mem_map.mp listed
  rw [← everyCity] at isPlace
  obtain ⟨visit, isVisit, rfl⟩ := List.mem_map.mp isPlace
  exact loop_established (CitySettled visit.2.1) (fun _ _ => judgeCity_keeps_settled) isVisit
    (judgeCity_settles (cityVisits_explained isVisit).1)

/-- A city the plan comes to is drawn by somebody, if a missing act is always
one that plays elsewhere. -/
theorem drawn_of_visit
    (truthful :
      ∀ evaluation ∈ evaluations opportunity distanceKm,
        skipReason opportunity evaluation.1 evaluation.2 = some .noActFree →
          Drawn opportunity evaluation.2.cityId)
    {visit : PlanState × (CityOpportunity × Nat)}
    (isVisit : visit ∈ cityVisits opportunity distanceKm) :
    Drawn opportunity visit.2.1.cityId := by
  obtain ⟨listed, explained⟩ := cityVisits_explained isVisit
  cases alone : judgedAlone opportunity distanceKm visit.1 visit.2 with
  | none =>
    exact (judgeCity_explained distanceKm listed explained).drawn _ (judgeCity_of_taken alone).1
  | some reached =>
    have isEvaluation : (reached, visit.2.1) ∈ evaluations opportunity distanceKm :=
      List.mem_filterMap.mpr ⟨visit, isVisit, by rw [alone]; rfl⟩
    by_cases nobodyFree : skipReason opportunity reached visit.2.1 = some .noActFree
    · exact truthful _ isEvaluation nobodyFree
    · rw [skipReason_eq_noActFree_iff, chooseHeadliner_eq_none_iff]
        at nobodyFree
      push Not at nobodyFree
      obtain ⟨act, isFree, draws⟩ := nobodyFree
      exact ⟨act, (mem_freeActs.mp isFree).1, draws⟩

theorem plays_elsewhere {evaluation : PlanState × CityOpportunity}
    (isEvaluation : evaluation ∈ evaluations opportunity distanceKm)
    (nobodyFree : skipReason opportunity evaluation.1 evaluation.2 = some .noActFree)
    {act : RosterAct} (isAvailable : act ∈ opportunity.available)
    (draws : act.DrawsIn evaluation.2.cityId) :
    ∃ move ∈ evaluation.1.moves, act.name ∈ move.proposed := by
  obtain ⟨visit, isVisit, isReached⟩ := List.mem_filterMap.mp isEvaluation
  obtain ⟨reached, alone, rfl⟩ := Option.map_eq_some_iff.mp isReached
  have explained := explained_of_judgedAlone alone (cityVisits_explained isVisit).2
  rw [skipReason_eq_noActFree_iff, chooseHeadliner_eq_none_iff] at nobodyFree
  refine explained.proposed act.name ?_
  by_contra notTaken
  exact nobodyFree act (mem_freeActs.mpr ⟨isAvailable, notTaken⟩) draws

end Evaluations

/-- The reasons are complete and true exactly if somebody draws every city the
plan comes to. -/
theorem roster_plan_tells_why_iff
    (opportunity : RosterOpportunity)
    (distanceKm : Point → Point → F64) :
    TellsWhy opportunity distanceKm ↔
      (opportunity.available ≠ [] →
        ∀ visit ∈ cityVisits opportunity distanceKm, Drawn opportunity visit.2.1.cityId) := by
  constructor
  · intro tells someAct visit isVisit
    have somePackage : opportunity.packagesThisPeriod ≠ 0 := by
      intro noPackage
      have full : periodFull opportunity (slotsFilled opportunity) = true := by
        have noCap : opportunity.cap = 0 := by
          rw [RosterOpportunity.cap, noPackage]
          rfl
        simp [periodFull, noCap]
      rw [cityVisits, visited_stopped full] at isVisit
      cases isVisit
    have isTold := refusedCities_planRosterRun.mpr
        ⟨someAct, somePackage, (rfl :
          (planned opportunity distanceKm).refused = _)⟩
    refine drawn_of_visit ?_ isVisit
    intro evaluation isEvaluation nobodyFree
    obtain ⟨act, isAvailable, draws, _⟩ :=
      tells.truthful _ isTold evaluation isEvaluation nobodyFree
    exact ⟨act, isAvailable, draws⟩
  · intro drawn
    constructor
    · intro run isPlan room city listed
      obtain ⟨_, _, _, rfl⟩ := (planRosterRun_eq_ok_iff opportunity distanceKm).mp isPlan
      exact (settled_of_room room listed).imp_left
        ((planned_explained opportunity distanceKm).played _)
    · intro refused isTold
      obtain ⟨_, _, rfl⟩ := refusedCities_planRosterRun.mp isTold
      exact planned_refused opportunity distanceKm
    · intro refused isTold evaluation isEvaluation nobodyFree
      obtain ⟨someAct, _, _⟩ := refusedCities_planRosterRun.mp isTold
      obtain ⟨visit, isVisit, isReached⟩ := List.mem_filterMap.mp isEvaluation
      obtain ⟨act, isAvailable, draws⟩ := drawn someAct visit isVisit
      obtain ⟨reached, _, isSame⟩ := Option.map_eq_some_iff.mp isReached
      have sameCity : evaluation.2 = visit.2.1 := by
        rw [← isSame]
      rw [← sameCity] at draws
      exact ⟨act, isAvailable, draws, plays_elsewhere isEvaluation nobodyFree isAvailable draws⟩

/-- A city where no act of the roster was ever measured, and an act that is
free all along. -/
def unmeasuredCity : RosterOpportunity where
  acts := [
    bookingAct "Alpha" [(1, 240)] [],
    bookingAct "Beta" [(1, 200)] []]
  cities := [
    bookableCity 2 "gdansk" none,
    bookableCity 1 "krakow" none]
  openSlots := []
  packagesThisPeriod := 4

/-- A city nobody was measured in is told that every act who could play it is
booked elsewhere, before anything is booked. -/
theorem unmeasured_city_is_told_no_act_is_free :
    (planRosterRun unmeasuredCity roadKm =
          .ok ((planned unmeasuredCity roadKm).run unmeasuredCity) ∧
        ((planned unmeasuredCity roadKm).run
            unmeasuredCity).consideredAndRefused =
          [("gdansk", .noActFree)] ∧
        ((planned unmeasuredCity roadKm).run unmeasuredCity).waiting = ["Beta"] ∧
        (evaluations unmeasuredCity roadKm).map
            (fun evaluation => (evaluation.2.city, evaluation.1.moves)) =
          [("gdansk", []), ("krakow", [])]) ∧
      ¬ TellsWhy unmeasuredCity roadKm := by
  have isPlan :
      planRosterRun unmeasuredCity roadKm =
        .ok ((planned unmeasuredCity roadKm).run unmeasuredCity) :=
    (planRosterRun_eq_ok_iff unmeasuredCity roadKm).mpr
      ⟨by decide +kernel, by decide +kernel, by decide +kernel, rfl⟩
  refine ⟨⟨isPlan, by decide +kernel, by decide +kernel, by decide +kernel⟩,
    ?_⟩
  intro tells
  have isTold :
      refusedCities (planRosterRun unmeasuredCity roadKm) =
        some (planned unmeasuredCity roadKm).refused := by
    rw [isPlan]
    rfl
  have isEvaluation :
      (PlanState.start, bookableCity 2 "gdansk" none) ∈ evaluations unmeasuredCity roadKm := by
    decide +kernel
  have nobodyFree :
      skipReason unmeasuredCity PlanState.start
          (bookableCity 2 "gdansk" none) =
        some .noActFree := by
    decide +kernel
  obtain ⟨_, _, _, move, member, _⟩ := tells.truthful _ isTold _ isEvaluation nobodyFree
  exact absurd member List.not_mem_nil

end CrowdRelay
