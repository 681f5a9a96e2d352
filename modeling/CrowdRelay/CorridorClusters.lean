import Mathlib.Combinatorics.SimpleGraph.Connectivity.Connected
import CrowdRelay.Components
import CrowdRelay.RosterCaps

namespace CrowdRelay

open Components GreedySelection

/-!
# Corridors are connected components

Cities come in one by one, and each is folded into the clusters that have a
member within reach of it.  When the way back is as long as the way there, what
remains are the connected components of the located cities, whatever their
order.
-/

/-- The clusters, without the order in them and among them. -/
def asParts {Item : Type} (clusters : List (List Item)) : Multiset (Multiset Item) :=
  Multiset.ofList (clusters.map Multiset.ofList)

variable {Item : Type}

section Parts

variable {clusters others : List (List Item)}

theorem asParts_cons (cluster : List Item) :
    asParts (cluster :: clusters) = (cluster : Multiset Item) ::ₘ asParts clusters :=
  rfl

theorem asParts_append : asParts (clusters ++ others) = asParts clusters + asParts others := by
  rw [asParts, List.map_append]
  rfl

theorem asParts_of_perm (same : clusters.Perm others) : asParts clusters = asParts others :=
  Multiset.coe_eq_coe.mpr (same.map _)

theorem join_asParts : (asParts clusters).join = (clusters.flatten : Multiset Item) :=
  Multiset.coe_join clusters

theorem asParts_filter {kept : Multiset Item → Prop} [DecidablePred kept]
    {test : List Item → Bool} (agrees : ∀ cluster, test cluster = true ↔ kept cluster) :
    asParts (clusters.filter test) = (asParts clusters).filter kept := by
  induction clusters with
  | nil => rfl
  | cons cluster rest inductionHypothesis =>
    rw [asParts_cons, List.filter_cons]
    by_cases isKept : kept cluster
    · rw [if_pos ((agrees cluster).mpr isKept), asParts_cons,
        inductionHypothesis, Multiset.filter_cons_of_pos _ isKept]
    · rw [if_neg (mt (agrees cluster).mp isKept), inductionHypothesis,
        Multiset.filter_cons_of_neg _ isKept]

end Parts

section Folding

variable (items : List Item)

/-- Clusters taken out from the last one on are those that stood there. -/
theorem foldl_takeCluster {positions : List Nat} (descending : positions.Pairwise (· > ·))
    (held : List (List (Nat × Point)) × List (Nat × Point))
    (inRange : ∀ position ∈ positions, position < held.1.length) :
    let taken := positions.filterMap (held.1[·]?)
    let after := positions.foldl takeCluster held
    held.1.Perm (taken ++ after.1) ∧
      after.2 = held.2 ++ taken.flatten ∧
      ∀ place, (∀ position ∈ positions, place < position) → after.1[place]? = held.1[place]? := by
  induction positions generalizing held with
  | nil => exact ⟨List.Perm.refl _, (List.append_nil _).symm, fun _ _ => rfl⟩
  | cons position rest inductionHypothesis =>
    obtain ⟨greater, restDescending⟩ := List.pairwise_cons.mp descending
    have within : position < held.1.length := inRange position List.mem_cons_self
    have found : held.1[position]? = some held.1[position] := List.getElem?_eq_getElem within
    let next := takeCluster held position
    have earlier :
        ∀ place < position, next.1[place]? = held.1[place]? := fun _ before =>
      getElem?_swapRemove_of_lt within before
    have sameTaken : rest.filterMap (next.1[·]?) = rest.filterMap (held.1[·]?) :=
      List.filterMap_congr fun place isPlace =>
        earlier place (greater place isPlace)
    have nextInRange : ∀ place ∈ rest, place < next.1.length := by
      intro place isPlace
      have before := greater place isPlace
      rw [show next.1.length = held.1.length - 1 from
        length_swapRemove _ _]
      omega
    obtain ⟨kept, gathered, unmoved⟩ := inductionHypothesis restDescending next nextInRange
    rw [sameTaken] at kept gathered
    refine ⟨?_, ?_, ?_⟩
    · rw [List.filterMap_cons_some found]
      exact (perm_cons_swapRemove found).trans (kept.cons _)
    · rw [List.filterMap_cons_some found, List.flatten_cons,
        List.foldl_cons, gathered, ← List.append_assoc]
      congr 1
      change held.2 ++ (held.1[position]?).getD [] = _
      rw [found, Option.getD_some]
    · intro place before
      rw [List.foldl_cons, unmoved place fun later isLater =>
          before later (List.mem_cons_of_mem _ isLater)]
      exact earlier place (before position List.mem_cons_self)

theorem filterMap_placesWhere (test : Item → Bool) :
    ((items.zipIdx.filter fun item => test item.1).map Prod.snd).filterMap (items[·]?) =
      items.filter test := by
  have there :
      ∀ item ∈ items.zipIdx.filter fun item => test item.1,
        items[item.2]? = some item.1 := fun item isKept =>
    List.mem_zipIdx_iff_getElem?.mp (List.mem_filter.mp isKept).1
  rw [List.filterMap_map]
  calc
    List.filterMap ((items[·]?) ∘ Prod.snd) (items.zipIdx.filter fun item => test item.1) =
        List.filterMap (some ∘ Prod.fst) (items.zipIdx.filter fun item => test item.1) :=
      List.filterMap_congr there
    _ = (items.zipIdx.filter (test ∘ Prod.fst)).map Prod.fst := by
      rw [List.filterMap_eq_map]
      rfl
    _ = items.filter test := by
      rw [← List.filter_map, List.zipIdx_map_fst]

theorem placesWhere_ascending (test : Item × Nat → Bool) :
    ((items.zipIdx.filter test).map Prod.snd).Pairwise (· < ·) := by
  refine List.Pairwise.sublist (List.filter_sublist.map Prod.snd) ?_
  rw [List.zipIdx_map_snd]
  exact List.pairwise_lt_range'

end Folding

variable {distanceKm : Point → Point → F64}

section Joining

variable {place : Nat × Point} (clusters : List (List (Nat × Point))) {position : Nat}

/-- The second place is within the corridor radius of the first. -/
def WithinReach (distanceKm : Point → Point → F64)
    (one other : Nat × Point) : Prop :=
  F64.le (distanceKm one.2 other.2) corridorRadiusKm = true

/-- A cluster has a member within reach of the place. -/
def reaches (distanceKm : Point → Point → F64) (place : Nat × Point)
    (cluster : List (Nat × Point)) : Bool :=
  cluster.any fun member =>
    F64.le (distanceKm member.2 place.2) corridorRadiusKm

theorem reaches_iff (cluster : List (Nat × Point)) :
    reaches distanceKm place cluster = true ↔ Touches (WithinReach distanceKm) place cluster :=
  List.any_eq_true

theorem filterMap_clustersWithin (place : Nat × Point) :
    (clustersWithin distanceKm clusters place).filterMap (clusters[·]?) =
      clusters.filter (reaches distanceKm place) :=
  filterMap_placesWhere clusters (reaches distanceKm place)

theorem lt_length_of_mem_clustersWithin {clusters : List (List (Nat × Point))}
    (isPosition : position ∈ clustersWithin distanceKm clusters place) :
    position < clusters.length := by
  obtain ⟨cluster, isKept, rfl⟩ := List.mem_map.mp isPosition
  have found := List.mem_zipIdx_iff_getElem?.mp (List.mem_filter.mp isKept).1
  exact (List.getElem?_eq_some_iff.mp found).1

theorem asParts_set {Item : Type} {clusters : List (List Item)} {members : List Item}
    (found : clusters[position]? = some members) :
    ∃ rest,
      asParts clusters = (members : Multiset Item) ::ₘ asParts rest ∧
        ∀ grown,
          asParts (clusters.set position grown) = (grown : Multiset Item) ::ₘ asParts rest := by
  obtain ⟨inRange, rfl⟩ := List.getElem?_eq_some_iff.mp found
  refine ⟨clusters.eraseIdx position, ?_, fun grown => ?_⟩
  · rw [← asParts_cons]
    exact (asParts_of_perm (List.getElem_cons_eraseIdx_perm inRange)).symm
  · rw [← asParts_cons]
    exact asParts_of_perm (List.set_perm_cons_eraseIdx inRange grown)

/-- What the fold over all clusters within reach leaves, and what it folds. -/
theorem asParts_joinClusters_cons {clusters : List (List (Nat × Point))} {anchor : Nat}
    {others : List Nat} (within : clustersWithin distanceKm clusters place = anchor :: others) :
    ∃ rest,
      asParts clusters = asParts ((anchor :: others).filterMap (clusters[·]?)) + asParts rest ∧
        asParts (joinClusters distanceKm clusters place) =
          (place ::ₘ (asParts ((anchor :: others).filterMap (clusters[·]?))).join) ::ₘ
            asParts rest := by
  have ascending : (anchor :: others).Pairwise (· < ·) := by
    rw [← within]
    exact placesWhere_ascending clusters _
  obtain ⟨first, restAscending⟩ := List.pairwise_cons.mp ascending
  have inRange : ∀ position ∈ anchor :: others, position < clusters.length := by
    rw [← within]
    exact fun _ => lt_length_of_mem_clustersWithin
  have anchorFound := List.getElem?_eq_getElem (inRange anchor List.mem_cons_self)
  obtain ⟨kept, gathered, unmoved⟩ := foldl_takeCluster (List.pairwise_reverse.mpr restAscending)
      (clusters, [place]) fun position isOther =>
        inRange position (List.mem_cons_of_mem _ (List.mem_reverse.mp isOther))
  have anchorStays := unmoved anchor fun position isOther =>
      first position (List.mem_reverse.mp isOther)
  obtain ⟨rest, splits, replaced⟩ := asParts_set (anchorStays.trans anchorFound)
  have takenParts :
      asParts (others.reverse.filterMap (clusters[·]?)) =
        asParts (others.filterMap (clusters[·]?)) :=
    asParts_of_perm ((List.reverse_perm others).filterMap _)
  refine ⟨rest, ?_, ?_⟩
  · rw [asParts_of_perm kept, asParts_append, splits, takenParts,
      List.filterMap_cons_some anchorFound, asParts_cons, Multiset.cons_add,
      Multiset.add_cons]
  · unfold joinClusters
    simp only [within, anchorStays, anchorFound]
    rw [replaced, gathered, List.filterMap_cons_some anchorFound, asParts_cons,
      Multiset.join_cons, ← takenParts, join_asParts]
    congr 1
    rw [← Multiset.coe_add, ← Multiset.coe_add, Multiset.coe_singleton,
      ← Multiset.singleton_add, add_left_comm]

theorem asParts_joinClusters (place : Nat × Point)
    [DecidablePred (Touches (WithinReach distanceKm) place)] :
    asParts (joinClusters distanceKm clusters place) =
      joined (WithinReach distanceKm) place (asParts clusters) := by
  have touched :
      asParts (clusters.filter (reaches distanceKm place)) =
        (asParts clusters).filter (Touches (WithinReach distanceKm) place) :=
    asParts_filter reaches_iff
  have split := Multiset.filter_add_not (Touches (WithinReach distanceKm) place) (asParts clusters)
  rw [joined, ← touched]
  rw [← touched] at split
  rw [← filterMap_clustersWithin] at split ⊢
  cases within : clustersWithin distanceKm clusters place with
  | nil =>
    rw [within] at split
    have untouched :
        (asParts clusters).filter (¬ Touches (WithinReach distanceKm) place ·) = asParts clusters :=
      (zero_add _).symm.trans split
    rw [untouched, List.filterMap_nil]
    unfold joinClusters
    rw [within]
    exact asParts_of_perm (List.perm_append_singleton [place] clusters)
  | cons anchor others =>
    obtain ⟨rest, splits, merged⟩ := asParts_joinClusters_cons within
    rw [within] at split
    rw [merged, add_left_cancel (split.trans splits)]

end Joining

def ReachBothWays (distanceKm : Point → Point → F64) : Prop :=
  ∀ one other,
    F64.le (distanceKm one other) corridorRadiusKm = F64.le (distanceKm other one) corridorRadiusKm

theorem areComponents_foldl (bothWays : ReachBothWays distanceKm)
    {places : List (Nat × Point)} (distinct : places.Nodup) :
    AreComponents (WithinReach distanceKm) places
      (asParts (places.foldl (joinClusters distanceKm) [])) := by
  classical
  induction places using List.reverseRecOn with
  | nil => exact areComponents_zero
  | append_singleton front last inductionHypothesis =>
    have fresh : last ∉ (front : Multiset (Nat × Point)) := by
      intro again
      exact List.disjoint_of_nodup_append distinct again (List.mem_singleton_self last)
    have frontDistinct : front.Nodup := distinct.of_append_left
    rw [List.foldl_append, List.foldl_cons, List.foldl_nil, asParts_joinClusters,
      Multiset.coe_eq_coe.mpr (List.perm_append_singleton last front)]
    exact AreComponents.join (fun one other within => (bothWays other.2 one.2).trans within)
      (inductionHypothesis frontDistinct) fresh

theorem locatedCities_distinct (cities : List CityOpportunity) : (locatedCities cities).Nodup :=
  (locatedCities_nodup cities).of_map Prod.fst

section Graph

variable (distanceKm : Point → Point → F64) (cities : List CityOpportunity)

/-- Where the city at a place of the list lies, when that is known. -/
def pointAt (index : Nat) : Option Point := cities[index]?.bind CityOpportunity.point

/-- The places of two located cities within reach of each other. -/
def hopGraph : SimpleGraph Nat :=
  SimpleGraph.fromRel fun one other =>
    ∃ here ∈ pointAt cities one, ∃ there ∈ pointAt cities other,
      F64.le (distanceKm here there) corridorRadiusKm = true

def clusteredCities : List (List CityOpportunity) :=
  (corridorClusters distanceKm cities).map fun cluster =>
    cluster.filterMap (cities[·]?)

end Graph

section Paths

variable {cities : List CityOpportunity} {one other : Nat} {cluster : List (Nat × Point)}
  {member : Nat × Point}

theorem mem_locatedCities {index : Nat} {point : Point} :
    (index, point) ∈ locatedCities cities ↔ pointAt cities index = some point := by
  simp only [locatedCities, List.mem_filterMap, List.mem_zipIdx_iff_getElem?,
    Option.map_eq_some_iff, Prod.mk.injEq, pointAt, Option.bind_eq_some_iff]
  constructor
  · rintro ⟨⟨city, place⟩, found, _, located, rfl, rfl⟩
    exact ⟨city, found, located⟩
  · rintro ⟨city, found, located⟩
    exact ⟨(city, index), found, point, located, rfl, rfl⟩

theorem reachable_of_connected {one other : Nat × Point}
    (path : Connected (WithinReach distanceKm) (locatedCities cities : Multiset _) one other) :
    (hopGraph distanceKm cities).Reachable one.1 other.1 := by
  induction path with
  | refl => exact SimpleGraph.Reachable.refl _
  | @tail middle last _ link inductionHypothesis =>
    by_cases same : middle.1 = last.1
    · exact same ▸ inductionHypothesis
    · obtain ⟨isMiddle, isLast, within⟩ := link
      refine inductionHypothesis.trans (SimpleGraph.Adj.reachable ?_)
      exact ⟨same, Or.inl
        ⟨middle.2, mem_locatedCities.mp isMiddle, last.2, mem_locatedCities.mp isLast, within⟩⟩

theorem connected_of_reachable (bothWays : ReachBothWays distanceKm)
    (reachable : (hopGraph distanceKm cities).Reachable one other) {here : Point}
    (located : pointAt cities one = some here) :
    ∃ there,
      pointAt cities other = some there ∧
        Connected (WithinReach distanceKm) (locatedCities cities : Multiset _)
          (one, here) (other, there) := by
  rw [SimpleGraph.reachable_iff_reflTransGen] at reachable
  induction reachable with
  | refl => exact ⟨here, located, Relation.ReflTransGen.refl⟩
  | @tail middle last _ adjacent inductionHypothesis =>
    obtain ⟨there, found, path⟩ := inductionHypothesis
    have next :
        ∃ beyond, pointAt cities last = some beyond ∧
          F64.le (distanceKm there beyond) corridorRadiusKm = true := by
      rcases adjacent.2 with ⟨left, isLeft, right, isRight, within⟩ |
        ⟨left, isLeft, right, isRight, within⟩
      · rw [found] at isLeft
        cases isLeft
        exact ⟨right, isRight, within⟩
      · rw [found] at isRight
        cases isRight
        exact ⟨left, isLeft, (bothWays there left).trans within⟩
    obtain ⟨beyond, isBeyond, within⟩ := next
    exact ⟨beyond, isBeyond, path.tail
      ⟨mem_locatedCities.mpr found, mem_locatedCities.mpr isBeyond, within⟩⟩

theorem located_of_reachable (reachable : (hopGraph distanceKm cities).Reachable one other)
    (different : one ≠ other) :
    ∃ here, pointAt cities one = some here := by
  rw [SimpleGraph.reachable_iff_reflTransGen] at reachable
  rcases reachable.cases_head with same | ⟨next, adjacent, _⟩
  · exact absurd same different
  · rcases adjacent.2 with ⟨here, isHere, _⟩ | ⟨_, _, here, isHere, _⟩
    · exact ⟨here, isHere⟩
    · exact ⟨here, isHere⟩

/-- The clusters of all located cities. -/
def joinedPlaces (distanceKm : Point → Point → F64)
    (cities : List CityOpportunity) : List (List (Nat × Point)) :=
  (locatedCities cities).foldl (joinClusters distanceKm) []

theorem joinedPlaces_components (bothWays : ReachBothWays distanceKm) :
    AreComponents (WithinReach distanceKm) (locatedCities cities)
      (asParts (joinedPlaces distanceKm cities)) :=
  areComponents_foldl bothWays (locatedCities_distinct cities)

theorem mem_asParts {Item : Type} {clusters : List (List Item)} {cluster : List Item}
    (isCluster : cluster ∈ clusters) :
    (cluster : Multiset Item) ∈ asParts clusters :=
  Multiset.mem_coe.mpr (List.mem_map_of_mem isCluster)

section

variable (bothWays : ReachBothWays distanceKm)
include bothWays

theorem mem_cluster_iff_reachable (isCluster : cluster ∈ joinedPlaces distanceKm cities)
    (isMember : member ∈ cluster) (place : Nat) :
    place ∈ cluster.map Prod.fst ↔ (hopGraph distanceKm cities).Reachable member.1 place := by
  have components := @joinedPlaces_components _ cities bothWays
  have connected := components.connected _ (mem_asParts isCluster) member isMember
  constructor
  · intro isPlace
    obtain ⟨other, isOther, rfl⟩ := List.mem_map.mp isPlace
    exact reachable_of_connected ((connected other).mp isOther)
  · intro reachable
    have located : pointAt cities member.1 = some member.2 := mem_locatedCities.mp
        (components.mem_items (mem_asParts isCluster) isMember)
    obtain ⟨there, _, path⟩ := connected_of_reachable bothWays reachable located
    exact List.mem_map.mpr ⟨(place, there), (connected _).mpr path, rfl⟩

theorem cluster_eq_supp (isCluster : cluster ∈ joinedPlaces distanceKm cities)
    (isMember : member ∈ cluster) :
    {place | place ∈ cluster.map Prod.fst} =
      ((hopGraph distanceKm cities).connectedComponentMk member.1).supp := by
  ext place
  have reaches := mem_cluster_iff_reachable bothWays isCluster isMember place
  rw [SimpleGraph.ConnectedComponent.mem_supp_iff, SimpleGraph.ConnectedComponent.eq]
  exact ⟨fun isPlace => (reaches.mp isPlace).symm, fun reachable => reaches.mpr reachable.symm⟩

theorem cluster_distinct (isCluster : cluster ∈ joinedPlaces distanceKm cities) :
    (cluster.map Prod.fst).Nodup := by
  have components := @joinedPlaces_components _ cities bothWays
  have isPart := mem_asParts isCluster
  apply List.Nodup.map_on
  · intro one isOne other isOther sameIndex
    have here := mem_locatedCities.mp (components.mem_items isPart isOne)
    have there := mem_locatedCities.mp (components.mem_items isPart isOther)
    rw [sameIndex, there] at here
    exact Prod.ext sameIndex (Option.some.inj here).symm
  · exact Multiset.coe_nodup.mp (components.nodup_cluster isPart)

end

theorem two_le_length_iff (distinct : (cluster.map Prod.fst).Nodup) :
    2 ≤ cluster.length ↔ {place | place ∈ cluster.map Prod.fst}.Nontrivial := by
  match cluster with
  | [] => simp
  | [only] => simp
  | first :: second :: rest =>
    have different : first.1 ≠ second.1 := by
      intro same
      simp [same] at distinct
    refine iff_of_true (by simp) ⟨first.1, ?_, second.1, ?_, different⟩
    · simp
    · simp

theorem corridorClusters_components (bothWays : ReachBothWays distanceKm) (places : Set Nat) :
    (∃ cluster ∈ corridorClusters distanceKm cities,
        {place | place ∈ cluster} = places) ↔
      ∃ component : (hopGraph distanceKm cities).ConnectedComponent,
        component.supp = places ∧ places.Nontrivial := by
  have components := @joinedPlaces_components _ cities bothWays
  constructor
  · rintro ⟨_, isCorridor, rfl⟩
    obtain ⟨cluster, isKept, rfl⟩ := List.mem_map.mp isCorridor
    obtain ⟨isCluster, twoOrMore⟩ := List.mem_filter.mp isKept
    obtain ⟨member, isMember⟩ := components.exists_member (mem_asParts isCluster)
    exact ⟨_, (cluster_eq_supp bothWays isCluster isMember).symm,
      (two_le_length_iff (cluster_distinct bothWays isCluster)).mp (of_decide_eq_true twoOrMore)⟩
  · rintro ⟨component, rfl, one, isOne, other, isOther, different⟩
    have reachable : (hopGraph distanceKm cities).Reachable one other :=
      SimpleGraph.ConnectedComponent.exact (isOne.trans isOther.symm)
    obtain ⟨here, located⟩ := located_of_reachable reachable different
    obtain ⟨part, isPart, isMember⟩ := components.exists_cluster
        (Multiset.mem_coe.mpr (mem_locatedCities.mpr located))
    obtain ⟨cluster, isCluster, rfl⟩ := List.mem_map.mp (Multiset.mem_coe.mp isPart)
    have same := cluster_eq_supp bothWays isCluster isMember
    have isComponent : (hopGraph distanceKm cities).connectedComponentMk one = component := isOne
    rw [isComponent] at same
    refine ⟨cluster.map Prod.fst, ?_, same⟩
    refine List.mem_map_of_mem (List.mem_filter.mpr ⟨isCluster, ?_⟩)
    apply decide_eq_true
    rw [two_le_length_iff (cluster_distinct bothWays isCluster), same]
    exact ⟨one, isOne, other, isOther, different⟩

end Paths

section Order

variable {cities arranged : List CityOpportunity}

/-- A place under another number. -/
def renumbered (number : Nat → Nat) (place : Nat × Point) : Nat × Point := (number place.1, place.2)

theorem asParts_foldl_renumbered (number : Nat → Nat) (places : List (Nat × Point)) :
    asParts ((places.map (renumbered number)).foldl (joinClusters distanceKm) []) =
      (asParts (places.foldl (joinClusters distanceKm) [])).map
        (Multiset.map (renumbered number)) := by
  classical
  induction places using List.reverseRecOn with
  | nil => rfl
  | append_singleton front last inductionHypothesis =>
    rw [List.map_append, List.map_singleton, List.foldl_append,
      List.foldl_append, List.foldl_cons, List.foldl_cons, List.foldl_nil,
      List.foldl_nil, asParts_joinClusters, asParts_joinClusters,
      inductionHypothesis]
    exact joined_map fun _ _ => Iff.rfl

def citiesAt (cities : List CityOpportunity)
    (part : Multiset (Nat × Point)) : Multiset CityOpportunity :=
  part.filterMap fun place => cities[place.1]?

theorem asParts_clusteredCities (cities : List CityOpportunity) :
    asParts (clusteredCities distanceKm cities) =
      ((asParts (joinedPlaces distanceKm cities)).filter (2 ≤ ·.card)).map (citiesAt cities) := by
  have kept :
      asParts
          ((joinedPlaces distanceKm cities).filter fun cluster =>
            decide (2 ≤ cluster.length)) =
        (asParts (joinedPlaces distanceKm cities)).filter (2 ≤ ·.card) :=
    asParts_filter fun cluster => decide_eq_true_iff
  rw [← kept, asParts, asParts, Multiset.map_coe, clusteredCities,
    corridorClusters, List.map_map, List.map_map, List.map_map]
  congr 1
  apply List.map_congr_left
  intro cluster _
  simp only [Function.comp_apply, citiesAt, Multiset.filterMap_coe, List.filterMap_map]

/-- In another order the cities stand under other numbers. -/
theorem exists_numbers (same : arranged.Perm cities) :
    ∃ number : Nat → Nat,
      (∀ index, cities[number index]? = arranged[index]?) ∧
        (arranged.zipIdx.map fun place => (place.1, number place.2)).Perm
          cities.zipIdx := by
  have pairs :
      List.Forall₂ (fun city (place : CityOpportunity × Nat) => city = place.1)
        cities cities.zipIdx := by
    apply List.forall₂_map_right_iff.mp
    rw [List.zipIdx_map_fst, List.forall₂_eq_eq_eq]
  obtain ⟨tagged, tags, rearranged⟩ := List.perm_comp_forall₂ same pairs
  have isArranged : arranged = tagged.map Prod.fst := by
    rw [← List.forall₂_eq_eq_eq]
    exact List.forall₂_map_right_iff.mpr tags
  let number (index : Nat) : Nat := (tagged[index]?.map Prod.snd).getD (cities.length + index)
  have numbered : (arranged.zipIdx.map fun place => (place.1, number place.2)) = tagged := by
    apply List.ext_getElem?
    intro index
    rw [List.getElem?_map, List.getElem?_zipIdx, isArranged, List.getElem?_map]
    cases found : tagged[index]? with
    | none => rfl
    | some place => simp [number, found]
  refine ⟨number, ?_, numbered ▸ rearranged⟩
  intro index
  rw [isArranged, List.getElem?_map]
  cases found : tagged[index]? with
  | none => simp [number, found]
  | some place =>
    have isPlace : place ∈ cities.zipIdx := rearranged.subset (List.mem_of_getElem? found)
    simpa [number, found] using List.mem_zipIdx_iff_getElem?.mp isPlace

theorem locatedCities_renumbered {number : Nat → Nat}
    (same : (arranged.zipIdx.map fun place => (place.1, number place.2)).Perm cities.zipIdx) :
    ((locatedCities arranged).map (renumbered number)).Perm (locatedCities cities) := by
  refine List.Perm.trans (List.Perm.of_eq ?_)
    (same.filterMap fun place =>
      place.1.point.map fun point => (place.2, point))
  rw [locatedCities, List.map_filterMap, List.filterMap_map]
  apply List.filterMap_congr
  intro place _
  simp only [Function.comp_apply, Option.map_map]
  rfl

theorem asParts_clusteredCities_perm (bothWays : ReachBothWays distanceKm)
    (same : arranged.Perm cities) :
    asParts (clusteredCities distanceKm arranged) =
      asParts (clusteredCities distanceKm cities) := by
  obtain ⟨number, sameCity, renumber⟩ := exists_numbers same
  have samePlaces := locatedCities_renumbered renumber
  have parts :
      (asParts (joinedPlaces distanceKm arranged)).map (Multiset.map (renumbered number)) =
        asParts (joinedPlaces distanceKm cities) := by
    rw [joinedPlaces, ← asParts_foldl_renumbered]
    have distinct := samePlaces.nodup_iff.mpr (locatedCities_distinct cities)
    have components := areComponents_foldl bothWays distinct
    rw [Multiset.coe_eq_coe.mpr samePlaces] at components
    exact components.unique (joinedPlaces_components bothWays)
  rw [asParts_clusteredCities, asParts_clusteredCities, ← parts,
    Multiset.filter_map, Multiset.map_map]
  simp only [Function.comp_def, Multiset.card_map]
  apply Multiset.map_congr rfl
  intro part _
  rw [citiesAt, citiesAt, Multiset.filterMap_map]
  simp only [Function.comp_def, renumbered, sameCity]

end Order

structure FindsCorridors
    (distanceKm : Point → Point → F64)
    (cities : List CityOpportunity) : Prop where
  components :
    ∀ places : Set Nat,
      (∃ cluster ∈ corridorClusters distanceKm cities,
          {place | place ∈ cluster} = places) ↔
        ∃ component : (hopGraph distanceKm cities).ConnectedComponent,
          component.supp = places ∧ places.Nontrivial
  once : (corridorClusters distanceKm cities).flatten.Nodup
  located :
    ∀ place ∈ (corridorClusters distanceKm cities).flatten,
      (pointAt cities place).isSome = true
  anyOrder :
    ∀ arranged : List CityOpportunity, arranged.Perm cities →
      asParts (clusteredCities distanceKm arranged) =
        asParts (clusteredCities distanceKm cities)

/-- The planner groups the located cities into their components. -/
theorem findsCorridors
    (distanceKm : Point → Point → F64)
    (cities : List CityOpportunity)
    (bothWays : ReachBothWays distanceKm) :
    FindsCorridors distanceKm cities where
  components := corridorClusters_components bothWays
  once := corridorClusters_nodup distanceKm cities
  located := by
    intro place isPlace
    obtain ⟨_, isCorridor, inCorridor⟩ := List.mem_flatten.mp isPlace
    obtain ⟨cluster, isKept, rfl⟩ := List.mem_map.mp isCorridor
    obtain ⟨member, isMember, rfl⟩ := List.mem_map.mp inCorridor
    have isLocated := (joinedPlaces_components bothWays).mem_items
        (mem_asParts (List.mem_filter.mp isKept).1) isMember
    rw [mem_locatedCities.mp isLocated]
    rfl
  anyOrder _ same := asParts_clusteredCities_perm bothWays same

theorem roadKm_comm (one other : Point) : roadKm one other = roadKm other one := by
  unfold roadKm
  by_cases same : one = other
  · rw [if_pos same, if_pos same.symm]
  · rw [if_neg same, if_neg (Ne.symm same)]
    refine if_congr ?_ rfl (if_congr ?_ rfl rfl)
    · rw [or_comm, and_comm, @and_comm (one = krakow)]
    · rw [or_comm, and_comm, @and_comm (one = warszawa)]

/-- The ends of this corridor are out of each other's reach. -/
theorem findsCorridors_threeCities :
    F64.le (roadKm krakow gdansk) corridorRadiusKm = false ∧
      corridorClusters roadKm leftoverCity.cities = [[0, 1, 2]] ∧
      FindsCorridors roadKm leftoverCity.cities :=
  ⟨by decide, by decide +kernel,
    findsCorridors roadKm leftoverCity.cities fun one other =>
      congrArg (F64.le · corridorRadiusKm) (roadKm_comm one other)⟩

end CrowdRelay
