import Mathlib.Algebra.GroupWithZero.Nat
import CrowdRelay.Extremes
import CrowdRelay.GigPlan
import CrowdRelay.GreedySelection
import CrowdRelay.StoppingLoop

namespace CrowdRelay

open MachineInt Extremes GreedySelection StoppingLoop

/-!
# The next period of a roster

Several acts, the cities they could play and the support slots that are open
on their labelmates' bills.  The planner fills slots first, then walks the
cities: the first city of a group of nearby ones opens a corridor, a run of
several nights under one headliner, and a city no corridor took is judged as a
night of its own.  Acts and cities once used are committed for the period.
-/

structure CityReach where
  city : String
  cityId : Uuid
  reachable : Option U32
  deriving DecidableEq

structure ActOverlap where
  otherAct : String
  cityId : Uuid
  overlapBasisPoints : U16
  deriving DecidableEq

structure RosterAct where
  name : String
  intent : TenantIntent
  monthsSinceLastShow : Option U16
  reachByCity : List CityReach
  overlapWith : List ActOverlap
  deriving DecidableEq

/-- A confirmed show of one of the acts, with room on the bill. -/
structure OpenSupportSlot where
  city : String
  cityId : Uuid
  venue : String
  festivalName : Option String
  headliner : String
  daysUntilShow : U16
  deriving DecidableEq

structure RosterOpportunity where
  acts : List RosterAct
  cities : List CityOpportunity
  openSlots : List OpenSupportSlot
  packagesThisPeriod : U16
  deriving DecidableEq

structure CorridorLeg where
  city : String
  cityId : Uuid
  venue : String
  contact : List PromoterContact
  support : Option String
  combinedReachable : U32
  reasons : List Reason
  caveats : List String
  deriving DecidableEq

inductive RosterMove where
  | fillSupportSlot
      (city venue : String)
      (festivalName : Option String)
      (headliner support : String)
      (addsReachable : U32)
      (daysUntilShow : U16)
      (reasons : List Reason)
  | routeCorridor
      (headliner : String)
      (legs : List CorridorLeg)
      (totalReachable : U32)
      (fairnessNote : Option String)
  | bookPackage
      (city venue headliner : String)
      (support : Option String)
      (contact : List PromoterContact)
      (combinedReachable : U32)
      (reasons : List Reason)
      (caveats : List String)
      (fairnessNote : Option String)
  deriving DecidableEq

/-- Why a city produced no move. -/
inductive CitySkipped where
  | refused (refusal : GigRefusal)
  | noActFree
  deriving DecidableEq

/-- Why the roster planner produced nothing. -/
inductive RosterRefusal where
  | noActIsAvailable
  | periodIsFull (cap : U16)
  | nothingClearedTheBar (perCity : List (String × CitySkipped))
  deriving DecidableEq

structure RosterRun where
  moves : List RosterMove
  waiting : List String
  consideredAndRefused : List (String × CitySkipped)
  deriving DecidableEq

def starvedAfterMonths : U16 := 6

def starvedActMarginBasisPoints : U16 := 2000

/-- Three hundred kilometres, as a double. -/
def corridorRadiusKm : F64 := ⟨0x4072C00000000000⟩

def minimumSlotLeadDays : U16 := 10

namespace RosterAct

/-- The act's reach in a city, absent where it was never measured. -/
def reachIn (act : RosterAct) (city : Uuid) : Option U32 :=
  (act.reachByCity.find? fun reach => reach.cityId = city).bind CityReach.reachable

/-- The share of the act's audience that another act has in the city. -/
def overlapWithAct (act : RosterAct) (other : String) (city : Uuid) : Option U16 :=
  (act.overlapWith.find? fun overlap =>
      overlap.otherAct = other ∧ overlap.cityId = city).map
    ActOverlap.overlapBasisPoints

def isStarved (act : RosterAct) : Bool :=
  act.monthsSinceLastShow.all fun months =>
    decide (starvedAfterMonths ≤ months)

def isAvailable (act : RosterAct) : Bool := decide (act.intent ≠ .headsDown)

end RosterAct

/-- The share of the best draw a starved act has to reach, out of 10000. -/
def starvedShare : U16 := (10000 : U16).saturatingSub starvedActMarginBasisPoints

/-- By reach in the city, and of the same reach by name, the first greatest. -/
def compareReach (city : Uuid) (left right : RosterAct) : Ordering :=
  (compare (left.reachIn city) (right.reachIn city)).then (compare right.name left.name)

/-- The sentence that explains a headliner chosen on fairness. -/
def fairnessNote (starved best : RosterAct) (headlines draw ending : String) :
    String :=
  starved.name ++ headlines ++ best.name ++ " on fairness: " ++ draw
    ++ toString (starvedActMarginBasisPoints.val / 100)
    ++ "% and they have "
    ++ (match starved.monthsSinceLastShow with
      | some months => "not played in " ++ toString months.val ++ " months."
      | none => "never played a show on record.")
    ++ ending

/-- The best draw headlines, unless it is not starved and a contender is. -/
def preferStarved (note : RosterAct → RosterAct → String) (best : RosterAct)
    (contender : Option RosterAct) :
    RosterAct × Option String :=
  match contender with
  | some starved =>
    if best.isStarved then (best, none) else (starved, some (note starved best))
  | none => (best, none)

/-- Starved acts other than the best one, within the margin of its draw. -/
def starvedWithin (acts : List RosterAct) (best : RosterAct) (within : RosterAct → Bool) :
    List RosterAct :=
  acts.filter fun act =>
    act.isStarved && decide (act.name ≠ best.name) && within act

def cityNote (starved best : RosterAct) : String :=
  fairnessNote starved best " headlines over " "their local draw is within "
    " Overrule it if the room needs the bigger name."

/-- Pick the act for a city by local draw, with fairness as a tie-break. -/
def chooseHeadliner (acts : List RosterAct) (city : Uuid) : Option (RosterAct × Option String) :=
  (maxBy (compareReach city) acts).bind fun best =>
    (best.reachIn city).bind fun bestReach =>
      if bestReach = 0 then
        none
      else
        let floor :=
          (Ranged.tryFrom (bestReach.val * starvedShare.val / 10000) : Option U32).getD bestReach
        let contenders :=
          starvedWithin acts best fun act =>
            (act.reachIn city).any fun reach =>
              decide (floor ≤ reach ∧ 0 < reach)
        some (preferStarved cityNote best (maxBy (compareReach city) contenders))

/-- What an act adds under a headliner in a city, if the pair was measured
there and is not one audience. -/
def supportAdds (headliner : RosterAct) (city : Uuid) (act : RosterAct) : Option U32 :=
  (act.overlapWithAct headliner.name city).bind fun overlap =>
    if pairingOverlapCeilingBasisPoints < overlap then
      none
    else
      (act.reachIn city).bind fun reach =>
        let shared := (Ranged.tryFrom (reach.val * overlap.val / 10000) : Option U32).getD reach
        let adds := reach.saturatingSub shared
        if 0 < adds then some adds else none

def compareAdds (left right : RosterAct × U32) : Ordering :=
  (compare left.2 right.2).then (compare right.1.name left.1.name)

/-- The best labelmate to put under a headliner in a city, if any. -/
def chooseSupport (acts : List RosterAct) (headliner : RosterAct) (city : Uuid) :
    Option (RosterAct × U32) :=
  maxBy compareAdds
    ((acts.filter fun act => act.name ≠ headliner.name).filterMap fun act =>
      (supportAdds headliner city act).map fun adds => (act, adds))

/-- The summed measured reach of an act over the legs of a corridor. -/
def corridorReach (legs : List CityOpportunity) (act : RosterAct) : U64 :=
  Ranged.wrap
    ((legs.filterMap fun leg => act.reachIn leg.cityId).foldl
      (fun total reach => total + reach.val) 0)

def corridorNote (starved best : RosterAct) : String :=
  fairnessNote starved best " headlines the corridor over "
    "their draw across the run is within " ""

/-- Starved acts within the margin of the best summed reach. -/
def corridorContenders (acts : List RosterAct) (legs : List CityOpportunity) (best : RosterAct) :
    List RosterAct :=
  let total := corridorReach legs best
  let floor : U64 := (Ranged.wrap (total.val * starvedShare.val) : U64).quotient 10000
  starvedWithin acts best fun act =>
    decide (floor ≤ corridorReach legs act ∧ 0 < corridorReach legs act)

/-- Which act plays the corridor: the strongest summed measured reach. -/
def chooseCorridorHeadliner (acts : List RosterAct) (legs : List CityOpportunity) :
    Option (RosterAct × Option String) :=
  (maxByKey (corridorReach legs) acts).bind fun best =>
    if corridorReach legs best = 0 then
      none
    else
      some (preferStarved corridorNote best
        (maxByKey (corridorReach legs) (corridorContenders acts legs best)))

abbrev Point := F64 × F64

/-- Where the catalogue pins a city, when it does. -/
def CityOpportunity.point (city : CityOpportunity) : Option Point :=
  city.latitude.bind fun latitude =>
    city.longitude.map fun longitude => (latitude, longitude)

/-- A corridor leg that its headliner's own evidence supports. -/
abbrev SurvivingLeg := CityOpportunity × GigPlan

/-- How far the planner has come. -/
structure PlanState where
  moves : List RosterMove
  refused : List (String × CitySkipped)
  committedActs : List String
  committedCities : List Uuid
  packagesUsed : Nat
  processedCorridors : List Nat
  deriving DecidableEq

def PlanState.start : PlanState where
  moves := []
  refused := []
  committedActs := []
  committedCities := []
  packagesUsed := 0
  processedCorridors := []

def RosterMove.nights : RosterMove → Nat
  | .routeCorridor _ legs _ _ => legs.length
  | .fillSupportSlot .. | .bookPackage .. => 1

/-- The acts among these that no move has taken yet. -/
def freeActs (acts : List RosterAct) (committedActs : List String) : List RosterAct :=
  acts.filter fun act => act.name ∉ committedActs

section Clusters

variable (distanceKm : Point → Point → F64)

def clustersWithin (clusters : List (List (Nat × Point))) (place : Nat × Point) : List Nat :=
  (clusters.zipIdx.filter fun cluster =>
    cluster.1.any fun member =>
      F64.le (distanceKm member.2 place.2) corridorRadiusKm).map Prod.snd

def takeCluster (held : List (List (Nat × Point)) × List (Nat × Point)) (position : Nat) :
    List (List (Nat × Point)) × List (Nat × Point) :=
  (swapRemove held.1 position, held.2 ++ (held.1[position]?).getD [])

/-- Add one place to the clusters: it joins the first one within reach, and
every other one within reach is folded into that one. -/
def joinClusters (clusters : List (List (Nat × Point))) (place : Nat × Point) :
    List (List (Nat × Point)) :=
  match clustersWithin distanceKm clusters place with
  | [] => clusters ++ [[place]]
  | anchor :: others =>
    -- From the last one on, so that earlier places stay where they are.
    let folded := others.reverse.foldl takeCluster (clusters, [place])
    match folded.1[anchor]? with
    | some members => folded.1.set anchor (members ++ folded.2)
    | none => folded.1

def locatedCities (cities : List CityOpportunity) : List (Nat × Point) :=
  cities.zipIdx.filterMap fun place =>
    place.1.point.map fun point => (place.2, point)

/-- Group the cities into corridors of two or more, by their places. -/
def corridorClusters (cities : List CityOpportunity) : List (List Nat) :=
  (((locatedCities cities).foldl (joinClusters distanceKm) []).filter
    fun members => 2 ≤ members.length).map fun members =>
      members.map Prod.fst

/-- The cluster a city belongs to. -/
def corridorOf (clusters : List (List Nat)) (cityIndex : Nat) : Option Nat :=
  ((clusters.zipIdx.filter fun cluster =>
    cityIndex ∈ cluster.1).getLast?).map Prod.snd

def nearestLeg (last : Point) (remaining : List SurvivingLeg) : Option Nat :=
  (minBy (fun left right => F64.totalCmp left.2 right.2)
    (remaining.zipIdx.filterMap fun leg =>
      leg.1.1.point.map fun point =>
        (leg.2, distanceKm last point))).map Prod.fst

/-- From the leg just placed always on to the nearest remaining one. -/
def chainLegs : Nat → SurvivingLeg → List SurvivingLeg → List SurvivingLeg
  | 0, _, _ => []
  | hops + 1, last, remaining =>
    match last.1.point.bind fun point =>
        (nearestLeg distanceKm point remaining).bind fun index =>
          (remaining[index]?).map fun next => (index, next) with
    | none => []
    | some (index, next) => next :: chainLegs hops next (swapRemove remaining index)

/-- The strongest night first, and of the same reach the smaller city id. -/
def compareLegs (headliner : RosterAct) (left right : SurvivingLeg) :
    Ordering :=
  (compare ((headliner.reachIn right.1.cityId).getD 0)
      ((headliner.reachIn left.1.cityId).getD 0)).then
    (compare left.1.cityId right.1.cityId)

def orderCorridorLegs (headliner : RosterAct) (survivors : List SurvivingLeg) : List SurvivingLeg :=
  match survivors.insertionSort fun left right =>
      (compareLegs headliner left right).isLE = true with
  | [] => []
  | anchor :: remaining =>
    anchor :: chainLegs distanceKm remaining.length anchor remaining

end Clusters

section Moves

variable (opportunity : RosterOpportunity)

/-- The period's cap, as the counters see it. -/
def RosterOpportunity.cap : Nat := opportunity.packagesThisPeriod.val.toNat

def RosterOpportunity.available : List RosterAct := opportunity.acts.filter RosterAct.isAvailable

def periodFull (state : PlanState) : Bool := decide (opportunity.cap ≤ state.packagesUsed)

/-- Who would open the night of a slot, with what they add. -/
def slotSupport (state : PlanState) (slot : OpenSupportSlot) : Option (RosterAct × U32) :=
  if slot.daysUntilShow < minimumSlotLeadDays then
    none
  else
    (opportunity.acts.find? fun act => act.name = slot.headliner).bind
      fun headliner =>
        chooseSupport
          ((freeActs opportunity.available state.committedActs).filter
            fun act => act.name ≠ slot.headliner)
          headliner slot.cityId

def fillSlot (state : PlanState) (slot : OpenSupportSlot) : PlanState :=
  match slotSupport opportunity state slot with
  | none => state
  | some (support, adds) =>
    { state with
      moves :=
        state.moves ++
          [.fillSupportSlot slot.city slot.venue slot.festivalName
            slot.headliner support.name adds slot.daysUntilShow
            [.coBillAddsAudience support.name adds,
              .reachableAudience ((support.reachIn slot.cityId).getD 0)]]
      committedActs := state.committedActs ++ [support.name]
      committedCities := state.committedCities ++ [slot.cityId]
      packagesUsed := state.packagesUsed + 1 }

/-- A city as the headliner sees it: their own reach is what fills it. -/
def asSeenBy (city : CityOpportunity) (headliner : RosterAct) :
    CityOpportunity :=
  { city with reachableFans := headliner.reachIn city.cityId }

/-- The people a night reaches, its support included. -/
def combinedReach (plan : GigPlan) (support : Option (RosterAct × U32)) :
    U32 :=
  match support with
  | none => plan.reach.reachable
  | some (_, adds) => Ranged.wrap (plan.reach.reachable.val + adds.val)

/-- The reasons for a night, its support included. -/
def reasonsWith (plan : GigPlan) (support : Option (RosterAct × U32)) : List Reason :=
  match support with
  | none => plan.reasons
  | some (act, adds) => plan.reasons ++ [.coBillAddsAudience act.name adds]

def emitNight (state : PlanState) (city : CityOpportunity) (headliner : RosterAct)
    (note : Option String) (plan : GigPlan) (support : Option (RosterAct × U32)) :
    PlanState :=
  { state with
    moves :=
      state.moves ++
        [.bookPackage city.city plan.venue headliner.name
          (support.map fun chosen => chosen.1.name) plan.contact
          (combinedReach plan support) (reasonsWith plan support)
          plan.caveats note]
    committedCities := state.committedCities ++ [city.cityId]
    committedActs :=
      state.committedActs ++ headliner.name :: (support.map fun chosen => chosen.1.name).toList
    packagesUsed := state.packagesUsed + 1 }

def bookNight (state : PlanState) (city : CityOpportunity) : PlanState :=
  let candidates := freeActs opportunity.available state.committedActs
  match chooseHeadliner candidates city.cityId with
  | none => { state with refused := state.refused ++ [(city.city, .noActFree)] }
  | some (headliner, note) =>
    match planGig (asSeenBy city headliner) headliner.intent with
    | .error refusal =>
      { state with
        refused := state.refused ++ [(city.city, .refused refusal)] }
    | .ok plan =>
      emitNight state city headliner note plan (chooseSupport candidates headliner city.cityId)

/-- Keep a leg when the headliner's own evidence supports it. -/
def keepLeg (headliner : RosterAct) (survivors : List SurvivingLeg) (leg : CityOpportunity) :
    List SurvivingLeg :=
  match planGig (asSeenBy leg headliner) headliner.intent with
  | .ok plan => survivors ++ [(leg, plan)]
  | .error _ => survivors

def survivingLegs (headliner : RosterAct) (packagesLeft : Nat) (legs : List CityOpportunity) :
    List SurvivingLeg :=
  loop (fun survivors => decide (packagesLeft ≤ survivors.length)) (keepLeg headliner) legs []

def corridorLeg (candidates : List RosterAct) (headliner : RosterAct) (leg : SurvivingLeg) :
    CorridorLeg :=
  let support := chooseSupport candidates headliner leg.1.cityId
  { city := leg.1.city
    cityId := leg.1.cityId
    venue := leg.2.venue
    contact := leg.2.contact
    support := support.map fun chosen => chosen.1.name
    combinedReachable := combinedReach leg.2 support
    reasons := reasonsWith leg.2 support
    caveats := leg.2.caveats }

def corridorSupports (legs : List CorridorLeg) : List String :=
  (legs.filterMap CorridorLeg.support).foldl
    (fun supports name =>
      if name ∈ supports then supports else supports ++ [name])
    []

/-- The legs of a cluster that no move has taken yet. -/
def openLegs (committedCities : List Uuid) (cluster : List Nat) : List CityOpportunity :=
  (cluster.filterMap fun index => opportunity.cities[index]?).filter
    fun city => city.cityId ∉ committedCities

variable (distanceKm : Point → Point → F64)

def emitCorridor (state : PlanState) (headliner : RosterAct) (note : Option String)
    (survivors : List SurvivingLeg) :
    PlanState :=
  let candidates :=
    (freeActs opportunity.available state.committedActs).filter fun act => act.name ≠ headliner.name
  let legs :=
    (orderCorridorLegs distanceKm headliner survivors).map (corridorLeg candidates headliner)
  { state with
    moves :=
      state.moves ++
        [.routeCorridor headliner.name legs
          (legs.foldl
            (fun total leg =>
              Ranged.wrap (total.val + leg.combinedReachable.val)) 0)
          note]
    committedCities := state.committedCities ++ legs.map CorridorLeg.cityId
    committedActs := state.committedActs ++ headliner.name :: corridorSupports legs }

/-- Evaluate one corridor: it is emitted when two or more legs survive. -/
def evaluateCorridor (state : PlanState) (cluster : List Nat) (packagesLeft : Nat) :
    PlanState :=
  let legs := openLegs opportunity state.committedCities cluster
  if legs.length < 2 then
    state
  else
    match chooseCorridorHeadliner (freeActs opportunity.available state.committedActs) legs with
    | none => state
    | some (headliner, note) =>
      let survivors := survivingLegs headliner packagesLeft legs
      if survivors.length < 2 then
        state
      else
        emitCorridor opportunity distanceKm state headliner note survivors

/-- The corridor a city opens, unless it was opened before. -/
def freshCorridor (state : PlanState) (cityIndex : Nat) : Option Nat :=
  (corridorOf (corridorClusters distanceKm opportunity.cities) cityIndex).filter
    fun clusterIndex => clusterIndex ∉ state.processedCorridors

/-- Open one corridor and count the packages used so far anew. -/
def openCorridor (state : PlanState) (clusterIndex : Nat) : PlanState :=
  let opened :=
    { state with
      processedCorridors := clusterIndex :: state.processedCorridors }
  match (corridorClusters distanceKm opportunity.cities)[clusterIndex]? with
  | none => opened
  | some cluster =>
    let routed :=
      evaluateCorridor opportunity distanceKm opened cluster (opportunity.cap - opened.packagesUsed)
    { routed with
      packagesUsed := (routed.moves.map RosterMove.nights).sum }

def judgeCity (state : PlanState) (place : CityOpportunity × Nat) :
    PlanState :=
  if place.1.cityId ∈ state.committedCities then
    state
  else
    match freshCorridor opportunity distanceKm state place.2 with
    | none => bookNight opportunity state place.1
    | some clusterIndex =>
      let routed := openCorridor opportunity distanceKm state clusterIndex
      if place.1.cityId ∈ routed.committedCities then
        routed
      else
        bookNight opportunity routed place.1

/-- The state after the open slots. -/
def slotsFilled : PlanState :=
  loop (periodFull opportunity) (fillSlot opportunity) opportunity.openSlots PlanState.start

/-- The state after the slots and the cities. -/
def planned : PlanState :=
  loop (periodFull opportunity) (judgeCity opportunity distanceKm)
    opportunity.cities.zipIdx (slotsFilled opportunity)

/-- The plan a final state stands for, with the acts left waiting. -/
def PlanState.run (opportunity : RosterOpportunity) (state : PlanState) :
    RosterRun where
  moves := state.moves
  waiting := (freeActs opportunity.available state.committedActs).map RosterAct.name
  consideredAndRefused := state.refused

def planRosterRun : Except RosterRefusal RosterRun :=
  if opportunity.available = [] then
    .error .noActIsAvailable
  else if opportunity.packagesThisPeriod = 0 then
    .error (.periodIsFull 0)
  else
    let state := planned opportunity distanceKm
    if state.moves = [] then
      .error (.nothingClearedTheBar state.refused)
    else
      .ok (state.run opportunity)

theorem planRosterRun_eq_ok_iff {run : RosterRun} :
    planRosterRun opportunity distanceKm = .ok run ↔
      opportunity.available ≠ [] ∧
        opportunity.packagesThisPeriod ≠ 0 ∧
        (planned opportunity distanceKm).moves ≠ [] ∧
        (planned opportunity distanceKm).run opportunity = run := by
  by_cases noAct : opportunity.available = []
  · simp [planRosterRun, noAct]
  · by_cases full : opportunity.packagesThisPeriod = 0
    · simp [planRosterRun, noAct, full]
    · by_cases nothing : (planned opportunity distanceKm).moves = []
      · simp [planRosterRun, noAct, full, nothing]
      · simp [planRosterRun, noAct, full, nothing]

end Moves

end CrowdRelay
