import Mathlib.Data.Prod.Lex
import CrowdRelay.NearestNext
import CrowdRelay.RankedPrefix
import CrowdRelay.RosterCaps

namespace CrowdRelay

open Extremes GreedySelection MachineInt NearestNext RankedPrefix

/-!
# The order of the legs of a corridor

A corridor starts at the strongest night of its headliner and goes on to the
nearest remaining leg.  Of equally near ones it takes the first that is left
in the list, and that list is ordered by the headliner's reach and not by the
ids of the cities.
-/

section Legs

variable (distanceKm : Point → Point → F64)

/-- The distance between two located legs. -/
def legKm (one other : SurvivingLeg) : F64 :=
  match one.1.point, other.1.point with
  | some here, some there => distanceKm here there
  | _, _ => ⟨0⟩

def legDistance (one other : SurvivingLeg) : Int := (legKm distanceKm one other).totalKey

def legName (leg : SurvivingLeg) : Nat := leg.1.cityId.toNat

def headlinerReach (headliner : RosterAct) (leg : SurvivingLeg) : U32 :=
  (headliner.reachIn leg.1.cityId).getD 0

variable (headliner : RosterAct) (survivors : List SurvivingLeg)

/-- The legs by what the headliner draws there, and by their ids. -/
def strongestFirst : List SurvivingLeg :=
  survivors.insertionSort fun left right =>
    (compareLegs headliner left right).isLE = true

/-- What the order of the legs of a corridor is to be. -/
structure DrivesNearest
    (headliner : RosterAct)
    (survivors : List SurvivingLeg) : Prop where
  permuted :
    (orderCorridorLegs distanceKm headliner survivors).Perm survivors
  strongest :
    ∀ anchor later,
      orderCorridorLegs distanceKm headliner survivors = anchor :: later →
        ∀ leg ∈ survivors,
          headlinerReach headliner leg ≤ headlinerReach headliner anchor
  nearest :
    ∀ anchor later,
      orderCorridorLegs distanceKm headliner survivors = anchor :: later →
        FollowsNearest (legDistance distanceKm) legName anchor later
  anyOrder :
    ∀ arranged, arranged.Perm survivors →
      orderCorridorLegs distanceKm headliner arranged =
        orderCorridorLegs distanceKm headliner survivors

/-- Wherever the drive comes, the first of the nearest legs that are left has
the smallest id of the nearest. -/
def TiesFallById : Prop :=
  match strongestFirst headliner survivors with
  | [] => True
  | anchor :: remaining =>
    TiesFall (legDistance distanceKm) legName remaining.length anchor remaining

end Legs

section Sorting

variable {headliner : RosterAct} {survivors : List SurvivingLeg}

def legRank (headliner : RosterAct) (leg : SurvivingLeg) : U32ᵒᵈ ×ₗ Nat :=
  toLex (OrderDual.toDual (headlinerReach headliner leg), legName leg)

theorem isLE_compareLegs_iff (left right : SurvivingLeg) :
    (compareLegs headliner left right).isLE = true ↔
      legRank headliner left ≤ legRank headliner right := by
  unfold compareLegs legRank
  rw [Ordering.isLE_then_iff_or, compare_lt_iff_lt, compare_eq_iff_eq,
    isLE_compare_uuid_iff, Prod.Lex.toLex_le_toLex, OrderDual.toDual_lt_toDual,
    OrderDual.toDual_inj]
  exact or_congr Iff.rfl (and_congr eq_comm Iff.rfl)

theorem strongestFirst_perm (headliner : RosterAct) (survivors : List SurvivingLeg) :
    (strongestFirst headliner survivors).Perm survivors :=
  List.perm_insertionSort _ survivors

theorem strongestFirst_ranked (distinct : (survivors.map legName).Nodup) :
    Ranked (legRank headliner) (strongestFirst headliner survivors) := by
  refine ranked_insertionSort isLE_compareLegs_iff ?_
  rw [List.Nodup, List.pairwise_map] at distinct ⊢
  refine distinct.imp ?_
  intro left right different same
  exact different (Prod.ext_iff.mp (toLex.injective same)).2

theorem strongestFirst_eq_of_perm {arranged : List SurvivingLeg}
    (same : arranged.Perm survivors) (distinct : (survivors.map legName).Nodup) :
    strongestFirst headliner arranged = strongestFirst headliner survivors := by
  have rearranged := (strongestFirst_perm headliner arranged).trans
      (same.trans (strongestFirst_perm headliner survivors).symm)
  exact Ranked.eq_of_perm rearranged
    (strongestFirst_ranked ((same.map legName).nodup_iff.mpr distinct))
    (strongestFirst_ranked distinct)

theorem headlinerReach_le_first (distinct : (survivors.map legName).Nodup)
    {anchor : SurvivingLeg} {remaining : List SurvivingLeg}
    (sorted : strongestFirst headliner survivors = anchor :: remaining)
    {leg : SurvivingLeg} (isLeg : leg ∈ survivors) :
    headlinerReach headliner leg ≤ headlinerReach headliner anchor := by
  have ranked := @strongestFirst_ranked headliner survivors distinct
  rw [← (strongestFirst_perm headliner survivors).mem_iff, sorted] at isLeg
  rw [sorted] at ranked
  rcases List.mem_cons.mp isLeg with rfl | isLater
  · exact le_rfl
  · have before := (List.pairwise_cons.mp ranked).1 leg isLater
    rcases Prod.Lex.toLex_lt_toLex.mp before with stronger | ⟨same, _⟩
    · exact (OrderDual.toDual_lt_toDual.mp stronger).le
    · exact (OrderDual.toDual_inj.mp same).ge

end Sorting

section Driving

variable {distanceKm : Point → Point → F64} {headliner : RosterAct}
  {survivors : List SurvivingLeg} {last : SurvivingLeg} {remaining : List SurvivingLeg}

abbrev Located (leg : SurvivingLeg) : Prop := leg.1.point.isSome = true

theorem legKm_of_located {last leg : SurvivingLeg} {here there : Point}
    (isHere : last.1.point = some here) (isThere : leg.1.point = some there) :
    legKm distanceKm last leg = distanceKm here there := by
  rw [legKm, isHere, isThere]

theorem nearestLeg_eq_firstNearest {here : Point} (isHere : last.1.point = some here)
    (located : ∀ leg ∈ remaining, Located leg) :
    nearestLeg distanceKm here remaining =
      (firstNearest (legDistance distanceKm) last remaining).map
        Prod.snd := by
  have measured :
      (remaining.zipIdx.filterMap fun leg =>
          leg.1.1.point.map fun point => (leg.2, distanceKm here point)) =
        remaining.zipIdx.map fun leg =>
          (leg.2, legKm distanceKm last leg.1) := by
    rw [← List.filterMap_eq_map]
    apply List.filterMap_congr
    intro leg isLeg
    have isRemaining : leg.1 ∈ remaining :=
      List.mem_of_getElem? (List.mem_zipIdx_iff_getElem?.mp isLeg)
    obtain ⟨there, isThere⟩ := Option.isSome_iff_exists.mp (located leg.1 isRemaining)
    rw [isThere, Option.map_some, Function.comp_apply, legKm_of_located isHere isThere]
  have searched := @minBy_map (SurvivingLeg × Nat)
      (fun left right =>
        compare (legDistance distanceKm last left.1) (legDistance distanceKm last right.1))
      (Nat × F64) (fun left right => F64.totalCmp left.2 right.2)
      (fun leg => (leg.2, legKm distanceKm last leg.1)) (fun _ _ => rfl)
      remaining.zipIdx
  rw [nearestLeg, measured, searched, firstNearest, Option.map_map]
  rfl

theorem chainLegs_eq_chain (hops : Nat) (lastLocated : Located last)
    (located : ∀ leg ∈ remaining, Located leg) :
    chainLegs distanceKm hops last remaining =
      chain (legDistance distanceKm) hops last remaining := by
  induction hops generalizing last remaining with
  | zero => rfl
  | succ hops inductionHypothesis =>
    obtain ⟨here, isHere⟩ := Option.isSome_iff_exists.mp lastLocated
    rw [chainLegs, isHere, Option.bind_some, nearestLeg_eq_firstNearest isHere located, chain]
    cases found : firstNearest (legDistance distanceKm) last remaining with
    | none => rfl
    | some chosen =>
      obtain ⟨next, index⟩ := chosen
      have isNext := (firstNearest_eq_some found).1
      have same := perm_cons_swapRemove isNext
      rw [Option.map_some, Option.bind_some, isNext]
      exact congrArg (next :: ·)
        (inductionHypothesis (located next (List.mem_of_getElem? isNext))
          fun leg isLeg =>
            located leg (same.mem_iff.mpr (List.mem_cons_of_mem _ isLeg)))

theorem orderCorridorLegs_eq (located : ∀ leg ∈ survivors, Located leg) :
    orderCorridorLegs distanceKm headliner survivors =
      match strongestFirst headliner survivors with
      | [] => []
      | anchor :: remaining =>
        anchor :: chain (legDistance distanceKm) remaining.length anchor
            remaining := by
  have same := strongestFirst_perm headliner survivors
  unfold orderCorridorLegs
  change (match strongestFirst headliner survivors with
    | [] => []
    | anchor :: remaining =>
      anchor :: chainLegs distanceKm remaining.length anchor remaining) = _
  cases sorted : strongestFirst headliner survivors with
  | nil => rfl
  | cons anchor remaining =>
    rw [sorted] at same
    have sortedLocated : ∀ leg ∈ anchor :: remaining, Located leg :=
      fun leg isLeg => located leg (same.mem_iff.mp isLeg)
    exact congrArg (anchor :: ·)
      (chainLegs_eq_chain remaining.length (sortedLocated anchor List.mem_cons_self)
        fun leg isLeg => sortedLocated leg (List.mem_cons_of_mem _ isLeg))

theorem legNames_nodup (distinct : (survivors.map fun leg => leg.1.cityId).Nodup) :
    (survivors.map legName).Nodup := by
  rw [List.Nodup, List.pairwise_map] at distinct ⊢
  exact distinct.imp fun different same =>
    different (BitVec.eq_of_toNat_eq same)

theorem orderCorridorLegs_perm (located : ∀ leg ∈ survivors, Located leg) :
    (orderCorridorLegs distanceKm headliner survivors).Perm survivors := by
  have same := strongestFirst_perm headliner survivors
  rw [orderCorridorLegs_eq located]
  cases sorted : strongestFirst headliner survivors with
  | nil =>
    rw [sorted] at same
    exact same
  | cons anchor remaining =>
    rw [sorted] at same
    exact ((chain_perm remaining.length rfl).cons anchor).trans same

theorem orderCorridorLegs_eq_of_perm (located : ∀ leg ∈ survivors, Located leg)
    (names : (survivors.map legName).Nodup) {arranged : List SurvivingLeg}
    (same : arranged.Perm survivors) :
    orderCorridorLegs distanceKm headliner arranged =
      orderCorridorLegs distanceKm headliner survivors := by
  have arrangedLocated : ∀ leg ∈ arranged, Located leg :=
    fun leg isLeg => located leg (same.mem_iff.mp isLeg)
  rw [orderCorridorLegs_eq located, orderCorridorLegs_eq arrangedLocated,
    strongestFirst_eq_of_perm same names]

/-- The drive keeps to the ids exactly when its ties fall so; everything else
it is to be it always is. -/
theorem drivesNearest_iff
    (distanceKm : Point → Point → F64)
    (headliner : RosterAct)
    (survivors : List SurvivingLeg)
    (located : ∀ leg ∈ survivors, Located leg)
    (distinct : (survivors.map fun leg => leg.1.cityId).Nodup) :
    DrivesNearest distanceKm headliner survivors ↔ TiesFallById distanceKm headliner survivors := by
  have names := legNames_nodup distinct
  have same := strongestFirst_perm headliner survivors
  have isOrdered := @orderCorridorLegs_eq distanceKm headliner _ located
  have always :
      (∀ anchor later,
          orderCorridorLegs distanceKm headliner survivors =
              anchor :: later →
            FollowsNearest (legDistance distanceKm) legName anchor later) →
        DrivesNearest distanceKm headliner survivors := by
    intro nearest
    refine ⟨orderCorridorLegs_perm located, ?_, nearest, ?_⟩
    · intro anchor later ordered leg isLeg
      rw [isOrdered] at ordered
      cases sorted : strongestFirst headliner survivors with
      | nil =>
        rw [sorted] at ordered
        cases ordered
      | cons first remaining =>
        rw [sorted] at ordered
        obtain ⟨rfl, _⟩ := List.cons.inj ordered
        exact headlinerReach_le_first names sorted isLeg
    · intro arranged rearranged
      exact orderCorridorLegs_eq_of_perm located names rearranged
  unfold TiesFallById
  cases sorted : strongestFirst headliner survivors with
  | nil =>
    rw [sorted] at isOrdered
    refine iff_of_true (always ?_) trivial
    intro anchor later ordered
    rw [isOrdered] at ordered
    cases ordered
  | cons anchor remaining =>
    rw [sorted] at isOrdered same
    have restNames : (remaining.map legName).Nodup :=
      (List.nodup_cons.mp ((same.map legName).nodup_iff.mpr names)).2
    have follows := @followsNearest_chain_iff _ _ _ _ _ (legDistance distanceKm) legName
        anchor remaining remaining.length rfl restNames
    constructor
    · intro drives
      exact follows.mp (drives.nearest anchor _ isOrdered)
    · intro ties
      apply always
      intro first later ordered
      rw [isOrdered] at ordered
      obtain ⟨rfl, rfl⟩ := List.cons.inj ordered
      exact follows.mpr ties

end Driving

def greenwichTown : Point := (⟨0x404a000000000000⟩, ⟨0⟩)
def easternTown : Point := (⟨0x404a000000000000⟩, ⟨0x3ff0000000000000⟩)
def westernTown : Point := (⟨0x404a000000000000⟩, ⟨0xbff0000000000000⟩)

/-- One town lies as far to the east of the middle one as the other one lies
to its west: 68 kilometres. -/
def twinKm (first second : Point) : F64 :=
  if first = second then
    ⟨0⟩
  else if first = greenwichTown ∨ second = greenwichTown then
    ⟨0x40511d4e1e8f1279⟩
  else
    ⟨0x40611d339916ed75⟩

/-- An act that draws more in the east than in the west. -/
def easternAct : RosterAct := bookingAct "Alpha" [(1, 300), (2, 100), (3, 200)] []

def twinLegs : List SurvivingLeg :=
  survivingLegs easternAct 3 [
    bookableCity 1 "middle" (some greenwichTown),
    bookableCity 2 "west" (some westernTown),
    bookableCity 3 "east" (some easternTown)]

/-- The rule applied to the two towns. -/
theorem drivesNearest_iff_twinLegs :
    DrivesNearest twinKm easternAct twinLegs ↔ TiesFallById twinKm easternAct twinLegs :=
  drivesNearest_iff twinKm easternAct twinLegs (by decide +kernel)
    (by decide +kernel)

theorem twinLegs_driven : orderCorridorLegs twinKm easternAct twinLegs ≠ [] := by
  decide +kernel

/-- The east has the greater id and is driven to first. -/
theorem twinLegs_drivenByReach :
    ((∀ one other, twinKm one other = twinKm other one) ∧
        (∀ leg ∈ twinLegs, Located leg) ∧
        (twinLegs.map fun leg => leg.1.cityId).Nodup ∧
        ((orderCorridorLegs twinKm easternAct twinLegs).map fun leg =>
            leg.1.city) =
          ["middle", "east", "west"]) ∧
      ¬ DrivesNearest twinKm easternAct twinLegs := by
  refine ⟨⟨?_, by decide +kernel, by decide +kernel, by decide +kernel⟩, ?_⟩
  · intro one other
    unfold twinKm
    exact if_congr eq_comm rfl (if_congr or_comm rfl rfl)
  · intro drives
    have follows := drives.nearest _ _ (List.cons_head_tail twinLegs_driven).symm
    exact absurd follows (by decide +kernel)

end CrowdRelay
