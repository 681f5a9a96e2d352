import Mathlib.Algebra.Order.BigOperators.Group.List
import Mathlib.Algebra.Order.Group.Int
import Mathlib.Algebra.Ring.Int.Defs
import CrowdRelay.RosterOrder

namespace CrowdRelay

open MachineInt Extremes GreedySelection StoppingLoop

/-!
# Who headlines a corridor

The act is picked over the open legs of the cluster, before the band planner
refuses any of them and before the period's cap cuts them short.  Over those
legs it draws the share of every free act that fairness leaves it, and a note
says so where somebody draws more.  Over the legs that remain it need not.
-/

/-- The summed measured reach of an act over some cities, exactly. -/
def runReach (act : RosterAct) (cities : List Uuid) : Int :=
  ((cities.filterMap act.reachIn).map Ranged.val).sum

/-- The draw of every act over the cities fits the counter it is summed and
scaled in. -/
def DrawsFit (acts : List RosterAct) (cities : List Uuid) : Prop :=
  ∀ act ∈ acts, runReach act cities * starvedShare.val ≤ 18446744073709551615

/-- A headliner that draws a run: the share of everybody's draw, and a note
exactly where somebody draws more. -/
structure DrawsRun
    (acts : List RosterAct)
    (headliner : RosterAct)
    (note : Option String)
    (cities : List Uuid) :
    Prop where
  share :
    ∀ act ∈ acts,
      runReach act cities * starvedShare.val / 10000 ≤
        runReach headliner cities
  explained :
    note.isSome ↔
      ∃ act ∈ acts, runReach headliner cities < runReach act cities

/-- A headliner a run is offered to: the share of everybody's draw, a note
where somebody draws more, and none unless a starved act stands in for one
that is not starved and draws as much or more. -/
structure DrawsOffer
    (acts : List RosterAct)
    (headliner : RosterAct)
    (note : Option String)
    (cities : List Uuid) :
    Prop where
  share :
    ∀ act ∈ acts,
      runReach act cities * starvedShare.val / 10000 ≤
        runReach headliner cities
  explained :
    ∀ act ∈ acts,
      runReach headliner cities < runReach act cities → note.isSome
  standsIn :
    note.isSome →
      headliner.isStarved ∧
        ∃ act ∈ acts,
          act.name ≠ headliner.name ∧ act.isStarved = false ∧
            runReach headliner cities ≤ runReach act cities

section Draws

variable {acts : List RosterAct} {cities : List Uuid} {other : List Uuid}
  {headliner : RosterAct} {note : Option String} {legs : List CityOpportunity}

theorem runReach_nonneg (act : RosterAct) (cities : List Uuid) : 0 ≤ runReach act cities := by
  apply List.sum_nonneg
  intro reach member
  obtain ⟨measured, _, rfl⟩ := List.mem_map.mp member
  exact measured.lower

theorem runReach_perm (act : RosterAct) (rearranged : cities.Perm other) :
    runReach act cities = runReach act other :=
  ((rearranged.filterMap act.reachIn).map Ranged.val).sum_eq

theorem DrawsOffer.of_perm (rearranged : cities.Perm other)
    (offer : DrawsOffer acts headliner note cities) :
    DrawsOffer acts headliner note other := by
  have same : ∀ act, runReach act cities = runReach act other :=
    fun act => runReach_perm act rearranged
  constructor
  · intro act member
    rw [← same, ← same]
    exact offer.share act member
  · intro act member more
    rw [← same, ← same] at more
    exact offer.explained act member more
  · intro noted
    obtain ⟨starved, act, member, apart, rested, more⟩ := offer.standsIn noted
    rw [same, same] at more
    exact ⟨starved, act, member, apart, rested, more⟩

theorem val_corridorReach (fits : DrawsFit acts (legs.map CityOpportunity.cityId))
    {act : RosterAct} (member : act ∈ acts) :
    (corridorReach legs act).val = runReach act (legs.map CityOpportunity.cityId) := by
  have counted :
      ∀ reaches : List U32,
        reaches.foldl (fun total reach => total + reach.val) 0 = (reaches.map Ranged.val).sum := by
    intro reaches
    rw [List.sum_eq_foldl, List.foldl_map]
  have summed :
      (legs.filterMap fun leg => act.reachIn leg.cityId).foldl
          (fun total reach => total + reach.val) 0 =
        runReach act (legs.map CityOpportunity.cityId) := by
    rw [counted, runReach, List.filterMap_map]
    rfl
  have nonnegative := runReach_nonneg act (legs.map CityOpportunity.cityId)
  have fitsToo := fits act member
  have share : starvedShare.val = 8000 := by
    decide
  rw [share] at fitsToo
  rw [corridorReach, summed]
  exact Ranged.val_wrap_of_fits nonnegative (by omega)

/-- Either the best draw headlines without a note, or a starved contender
stands in for it with one. -/
theorem preferStarved_cases {best headliner : RosterAct} {contender : Option RosterAct}
    (preferred : preferStarved corridorNote best contender = (headliner, note)) :
    (headliner = best ∧ note = none) ∨
      (contender = some headliner ∧ best.isStarved = false ∧ note.isSome) := by
  unfold preferStarved at preferred
  split at preferred
  next starved =>
    split at preferred
    · cases preferred
      exact Or.inl ⟨rfl, rfl⟩
    next rested =>
      cases preferred
      exact Or.inr ⟨rfl, by simpa using rested, rfl⟩
  · cases preferred
    exact Or.inl ⟨rfl, rfl⟩

theorem of_mem_corridorContenders (fits : DrawsFit acts (legs.map CityOpportunity.cityId))
    {best starved : RosterAct} (bestMember : best ∈ acts)
    (contends : starved ∈ corridorContenders acts legs best) :
    starved ∈ acts ∧ starved.isStarved ∧ starved.name ≠ best.name ∧
      runReach best (legs.map CityOpportunity.cityId) * starvedShare.val / 10000 ≤
        runReach starved (legs.map CityOpportunity.cityId) := by
  simp only [corridorContenders, starvedWithin, List.mem_filter,
    Bool.and_eq_true, decide_eq_true_eq] at contends
  obtain ⟨member, ⟨isStarved, apart⟩, within, _⟩ := contends
  refine ⟨member, isStarved, apart, ?_⟩
  have nonnegative := runReach_nonneg best (legs.map CityOpportunity.cityId)
  have scaled := fits best bestMember
  have share : starvedShare.val = 8000 := by
    decide
  rw [share] at scaled
  rw [Ranged.le_iff_val, val_corridorReach fits member, Ranged.quotient,
    val_corridorReach fits bestMember, share,
    Ranged.val_saturate,
    Ranged.val_wrap_of_fits (by omega) scaled] at within
  have divisor : (10000 : U64).val = 10000 := by
    decide
  rw [divisor] at within
  rw [share]
  omega

/-- Whoever is chosen is a headliner the run is offered to. -/
theorem drawsOffer_of_choice (fits : DrawsFit acts (legs.map CityOpportunity.cityId))
    (isChoice : CorridorChoice acts legs (headliner, note)) :
    DrawsOffer acts headliner note (legs.map CityOpportunity.cityId) := by
  obtain ⟨best, contender, ⟨bestMember, greatest⟩, _, isContender, preferred⟩ := isChoice
  have atMost :
      ∀ act ∈ acts,
        runReach act (legs.map CityOpportunity.cityId) ≤
          runReach best (legs.map CityOpportunity.cityId) := by
    intro act member
    have below := Ranged.le_iff_val.mp (greatest act member)
    rwa [val_corridorReach fits member, val_corridorReach fits bestMember] at below
  have share : starvedShare.val = 8000 := by
    decide
  rcases preferStarved_cases preferred with
    ⟨rfl, rfl⟩ | ⟨rfl, rested, noted⟩
  · constructor
    · intro act member
      have nonnegative := runReach_nonneg act (legs.map CityOpportunity.cityId)
      have below := atMost act member
      rw [share]
      omega
    · intro act member more
      exact absurd (atMost act member) (not_le.mpr more)
    · intro noted
      cases noted
  · obtain ⟨_, isStarved, apart, within⟩ := of_mem_corridorContenders fits bestMember isContender.1
    constructor
    · intro act member
      have below := atMost act member
      rw [share] at within ⊢
      omega
    · intro _ _ _
      exact noted
    · intro _
      exact ⟨isStarved, best, bestMember, apart.symm, rested,
        atMost headliner (List.mem_of_mem_filter isContender.1)⟩

end Draws

section Emission

variable {opportunity : RosterOpportunity} {distanceKm : Point → Point → F64}
  {state : PlanState} {cluster : List Nat} {packagesLeft : Nat}

/-- A corridor that was emitted has the chosen headliner and note, and some
of the open legs. -/
theorem routeCorridor_emitted {name : String} {legs : List CorridorLeg} {total : U32}
    {note : Option String}
    (emits :
      (evaluateCorridor opportunity distanceKm state cluster packagesLeft).moves =
        state.moves ++ [.routeCorridor name legs total note]) :
    ∃ headliner,
      chooseCorridorHeadliner (freeActs opportunity.available state.committedActs)
          (openLegs opportunity state.committedCities cluster) =
          some (headliner, note) ∧
        headliner.name = name ∧
        (legs.map CorridorLeg.cityId).Subperm
          ((openLegs opportunity state.committedCities cluster).map CityOpportunity.cityId) := by
  rcases evaluateCorridor_emits opportunity distanceKm state cluster packagesLeft with
    nothing | ⟨headliner, chosenNote, isChosen, emitted⟩
  · rw [nothing] at emits
    simp at emits
  · rw [emitted] at emits
    simp only [emitCorridor, List.append_cancel_left_eq,
      List.cons.injEq, RosterMove.routeCorridor.injEq, and_true] at emits
    obtain ⟨sameName, sameLegs, _, sameNote⟩ := emits
    refine ⟨headliner, ?_, sameName, ?_⟩
    · rw [← sameNote]
      exact isChosen
    · have someOpen := (map_fst_survivingLegs_sublist headliner packagesLeft
          (openLegs opportunity state.committedCities cluster)).map CityOpportunity.cityId
      have someSurviving := emittedLegs_cities_subperm opportunity distanceKm state headliner
          packagesLeft (openLegs opportunity state.committedCities cluster)
      rw [← sameLegs]
      exact someSurviving.trans someOpen.subperm

end Emission

/-- A corridor's headliner draws the open legs it was offered, and the run it
is given where no leg of them is left out. -/
theorem corridor_headliner_draws_its_offer
    (opportunity : RosterOpportunity)
    (distanceKm : Point → Point → F64)
    (state : PlanState)
    (cluster : List Nat)
    (packagesLeft : Nat)
    (fits :
      DrawsFit (freeActs opportunity.available state.committedActs)
        ((openLegs opportunity state.committedCities cluster).map
          CityOpportunity.cityId))
    (name : String)
    (legs : List CorridorLeg)
    (total : U32)
    (note : Option String)
    (emits :
      (evaluateCorridor opportunity distanceKm state cluster
          packagesLeft).moves =
        state.moves ++ [.routeCorridor name legs total note]) :
    ∃ headliner ∈ freeActs opportunity.available state.committedActs,
      headliner.name = name ∧
        DrawsOffer (freeActs opportunity.available state.committedActs)
          headliner note
          ((openLegs opportunity state.committedCities cluster).map
            CityOpportunity.cityId) ∧
        (legs.map CorridorLeg.cityId).Subperm
          ((openLegs opportunity state.committedCities cluster).map
            CityOpportunity.cityId) ∧
        (legs.length =
            (openLegs opportunity state.committedCities cluster).length →
          DrawsOffer (freeActs opportunity.available state.committedActs)
            headliner note (legs.map CorridorLeg.cityId)) := by
  obtain ⟨headliner, isChosen, sameName, someOpen⟩ := routeCorridor_emitted emits
  have isChoice := corridorChoice_of_chosen isChosen
  have offer := drawsOffer_of_choice fits isChoice
  refine ⟨headliner, isChoice.mem, sameName, offer, someOpen, ?_⟩
  intro allOpen
  have rearranged := someOpen.perm_of_length_le (by simp [allOpen])
  exact offer.of_perm rearranged.symm

/-- The strongest city of the act that draws the cluster has no room. -/
def roomlessOpener : RosterOpportunity where
  acts := [
    bookingAct "Alpha" [(1, 1000), (2, 60), (3, 60)] [],
    bookingAct "Beta" [(2, 300), (3, 300)] []]
  cities := [
    { bookableCity 1 "krakow" (some krakow) with venue := none },
    bookableCity 2 "warszawa" (some warszawa),
    bookableCity 3 "gdansk" (some gdansk)]
  openSlots := []
  packagesThisPeriod := 4

def strongestOpener : RosterAct := bookingAct "Alpha" [(1, 1000), (2, 60), (3, 60)] []

/-- The legs of the corridor that is routed past the city without a room. -/
def roomlessLegs : List CorridorLeg :=
  emittedLegs roomlessOpener roadKm PlanState.start strongestOpener
    (survivingLegs strongestOpener 4 (openLegs roomlessOpener [] [0, 1, 2]))

/-- A starved act draws a corridor just as much as one that has played. -/
def evenDraw : RosterOpportunity where
  acts := [
    { bookingAct "Alpha" [(1, 300), (2, 300)] [] with
      monthsSinceLastShow := none },
    bookingAct "Beta" [(1, 300), (2, 300)] []]
  cities := [
    bookableCity 1 "krakow" (some krakow),
    bookableCity 2 "warszawa" (some warszawa)]
  openSlots := []
  packagesThisPeriod := 4

def starvedOpener : RosterAct :=
  { bookingAct "Alpha" [(1, 300), (2, 300)] [] with
    monthsSinceLastShow := none }

def evenLegs : List CorridorLeg :=
  emittedLegs evenDraw roadKm PlanState.start starvedOpener
    (survivingLegs starvedOpener 4 (openLegs evenDraw [] [0, 1]))

def evenNote : String :=
  "Alpha headlines the corridor over Beta on fairness: their draw across the run is within 20% and they have never played a show on record."

/-- The rule applied to the corridor of the starved act. -/
theorem even_draw_headliner_draws_its_offer :
    (evaluateCorridor evenDraw roadKm PlanState.start [0, 1] 4).moves =
        PlanState.start.moves ++ [.routeCorridor "Alpha" evenLegs 600 (some evenNote)] ∧
      ∃ headliner ∈ freeActs evenDraw.available [],
        headliner.name = "Alpha" ∧
          DrawsOffer (freeActs evenDraw.available []) headliner
            (some evenNote)
            ((openLegs evenDraw [] [0, 1]).map CityOpportunity.cityId) ∧
          (evenLegs.map CorridorLeg.cityId).Subperm
            ((openLegs evenDraw [] [0, 1]).map CityOpportunity.cityId) ∧
          (evenLegs.length = (openLegs evenDraw [] [0, 1]).length →
            DrawsOffer (freeActs evenDraw.available []) headliner
              (some evenNote) (evenLegs.map CorridorLeg.cityId)) := by
  have emits :
      (evaluateCorridor evenDraw roadKm PlanState.start [0, 1] 4).moves =
        PlanState.start.moves ++ [.routeCorridor "Alpha" evenLegs 600 (some evenNote)] := by
    decide +kernel
  exact ⟨emits,
    corridor_headliner_draws_its_offer evenDraw roadKm PlanState.start
      [0, 1] 4 (by unfold DrawsFit; decide +kernel) "Alpha" evenLegs 600
      (some evenNote) emits⟩

/-- The corridor past the city without a room is headlined by an act that
draws 120 of it where another draws 600, without a note, and one that is drawn
evenly comes with a note. -/
theorem corridor_headliner_draws_less :
    (corridorClusters roadKm roomlessOpener.cities = [[0, 1, 2]] ∧
        (evaluateCorridor roomlessOpener roadKm PlanState.start [0, 1, 2]
            4).moves =
          [.routeCorridor "Alpha" roomlessLegs 120 none] ∧
        roomlessLegs.map CorridorLeg.city = ["warszawa", "gdansk"] ∧
        ∀ headliner ∈ freeActs roomlessOpener.available [],
          headliner.name = "Alpha" →
            ¬ DrawsRun (freeActs roomlessOpener.available []) headliner none
              (roomlessLegs.map CorridorLeg.cityId)) ∧
      corridorClusters roadKm evenDraw.cities = [[0, 1]] ∧
        (evaluateCorridor evenDraw roadKm PlanState.start [0, 1] 4).moves =
          [.routeCorridor "Alpha" evenLegs 600 (some evenNote)] ∧
        ∀ headliner ∈ freeActs evenDraw.available [],
          headliner.name = "Alpha" →
            ¬ DrawsRun (freeActs evenDraw.available []) headliner
              (some evenNote) (evenLegs.map CorridorLeg.cityId) := by
  refine ⟨⟨by decide +kernel, by decide +kernel, by decide +kernel, ?_⟩,
    by decide +kernel, by decide +kernel, ?_⟩
  · have less :
        ∀ headliner ∈ freeActs roomlessOpener.available [],
          headliner.name = "Alpha" →
            ∃ act ∈ freeActs roomlessOpener.available [],
              runReach headliner (roomlessLegs.map CorridorLeg.cityId) <
                runReach act (roomlessLegs.map CorridorLeg.cityId) *
                  starvedShare.val / 10000 := by
      decide +kernel
    intro headliner member isAlpha draws
    obtain ⟨act, actMember, more⟩ := less headliner member isAlpha
    exact absurd (draws.share act actMember) (not_le.mpr more)
  · have nobody :
        ∀ headliner ∈ freeActs evenDraw.available [],
          headliner.name = "Alpha" →
            ∀ act ∈ freeActs evenDraw.available [],
              runReach act (evenLegs.map CorridorLeg.cityId) ≤
                runReach headliner (evenLegs.map CorridorLeg.cityId) := by
      decide +kernel
    intro headliner member isAlpha draws
    obtain ⟨act, actMember, more⟩ := draws.explained.mp rfl
    exact absurd (nobody headliner member isAlpha act actMember)
      (not_le.mpr more)

end CrowdRelay
