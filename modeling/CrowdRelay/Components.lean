import Mathlib.Data.Multiset.Bind
import Mathlib.Data.Multiset.Filter
import Mathlib.Logic.Relation

namespace Components

/-!
# Connected components, one item after the other

Items that come in one by one are kept in clusters.  An item joins all clusters
that have a member linked to it, which makes them one.  When links go both
ways, the clusters are the connected components of the items so far, and there
is only one way to be that.
-/

variable {Item : Type}

section Clusters

variable (Linked : Item → Item → Prop)

/-- A link between two of the items. -/
def LinkedIn (items : Multiset Item) (one other : Item) : Prop :=
  one ∈ items ∧ other ∈ items ∧ Linked one other

/-- A path of links between items. -/
def Connected (items : Multiset Item) : Item → Item → Prop :=
  Relation.ReflTransGen (LinkedIn Linked items)

/-- Every item is in one cluster, with all that is connected to it. -/
structure AreComponents
    (items : Multiset Item)
    (clusters : Multiset (Multiset Item)) : Prop where
  distinct : items.Nodup
  covers : clusters.join = items
  inhabited : 0 ∉ clusters
  connected :
    ∀ cluster ∈ clusters, ∀ one ∈ cluster, ∀ other,
      other ∈ cluster ↔ Connected Linked items one other

/-- A cluster has a member linked to the item. -/
def Touches (item : Item) (cluster : Multiset Item) : Prop := ∃ member ∈ cluster, Linked member item

/-- The clusters with one more item. -/
def joined (item : Item) [DecidablePred (Touches Linked item)]
    (clusters : Multiset (Multiset Item)) : Multiset (Multiset Item) :=
  (item ::ₘ (clusters.filter (Touches Linked item)).join) ::ₘ
    clusters.filter (¬ Touches Linked item ·)

end Clusters

section Paths

variable {Linked : Item → Item → Prop} {items : Multiset Item} {one other item : Item}

theorem Connected.symm (both : ∀ one other, Linked one other → Linked other one)
    (path : Connected Linked items one other) :
    Connected Linked items other one := by
  induction path with
  | refl => exact Relation.ReflTransGen.refl
  | tail _ link inductionHypothesis =>
    exact Relation.ReflTransGen.head ⟨link.2.1, link.1, both _ _ link.2.2⟩ inductionHypothesis

theorem Connected.cons (path : Connected Linked items one other) :
    Connected Linked (item ::ₘ items) one other :=
  Relation.ReflTransGen.mono
    (fun _ _ link =>
      ⟨Multiset.mem_cons_of_mem link.1, Multiset.mem_cons_of_mem link.2.1, link.2.2⟩)
    one other path

theorem Connected.passes {holds : Item → Prop}
    (steps : ∀ one other, LinkedIn Linked items one other → holds one → holds other)
    (path : Connected Linked items one other) (start : holds one) :
    holds other := by
  induction path with
  | refl => exact start
  | tail _ link inductionHypothesis => exact steps _ _ link inductionHypothesis

end Paths

section Laws

variable {Linked : Item → Item → Prop} {items : Multiset Item} {clusters : Multiset (Multiset Item)}
  {item : Item} {cluster : Multiset Item} {member : Item}

theorem areComponents_zero : AreComponents Linked 0 0 where
  distinct := Multiset.nodup_zero
  covers := rfl
  inhabited := Multiset.notMem_zero _
  connected _ isCluster := absurd isCluster (Multiset.notMem_zero _)

section

variable (components : AreComponents Linked items clusters)
include components

theorem AreComponents.mem_items (isCluster : cluster ∈ clusters) (isMember : member ∈ cluster) :
    member ∈ items := by
  rw [← components.covers]
  exact Multiset.mem_join.mpr ⟨cluster, isCluster, isMember⟩

theorem AreComponents.exists_cluster (isItem : member ∈ items) :
    ∃ cluster ∈ clusters, member ∈ cluster := by
  rw [← components.covers] at isItem
  exact Multiset.mem_join.mp isItem

theorem AreComponents.exists_member (isCluster : cluster ∈ clusters) : ∃ member, member ∈ cluster :=
  Multiset.exists_mem_of_ne_zero fun isEmpty =>
    components.inhabited (isEmpty ▸ isCluster)

theorem AreComponents.nodup_cluster (isCluster : cluster ∈ clusters) :
    cluster.Nodup := by
  refine Multiset.nodup_of_le ?_ components.distinct
  rw [← components.covers]
  obtain ⟨rest, rfl⟩ := Multiset.exists_cons_of_mem isCluster
  rw [Multiset.join_cons]
  exact Multiset.le_add_right _ _

theorem AreComponents.nodup :
    clusters.Nodup := by
  apply Multiset.nodup_iff_ne_cons_cons.mpr
  rintro cluster rest rfl
  obtain ⟨member, isMember⟩ := components.exists_member (Multiset.mem_cons_self cluster _)
  have twice := components.distinct
  rw [← components.covers, Multiset.join_cons, Multiset.join_cons] at twice
  exact Multiset.disjoint_left.mp (Multiset.nodup_add.mp twice).2.2 isMember
    (Multiset.mem_add.mpr (Or.inl isMember))

theorem AreComponents.unique {others : Multiset (Multiset Item)}
    (areOthers : AreComponents Linked items others) :
    clusters = others := by
  have sub :
      ∀ {these those : Multiset (Multiset Item)},
        AreComponents Linked items these →
        AreComponents Linked items those →
        ∀ cluster ∈ these, cluster ∈ those := by
    intro these those areThese areThose cluster isCluster
    obtain ⟨member, isMember⟩ := areThese.exists_member isCluster
    obtain ⟨same, isSame, inSame⟩ := areThose.exists_cluster (areThese.mem_items isCluster isMember)
    have equal : cluster = same := by
      apply (Multiset.Nodup.ext (areThese.nodup_cluster isCluster)
        (areThose.nodup_cluster isSame)).mpr
      intro other
      rw [areThese.connected cluster isCluster member isMember,
        areThose.connected same isSame member inSame]
    rw [equal]
    exact isSame
  apply (Multiset.Nodup.ext components.nodup areOthers.nodup).mpr
  intro cluster
  exact ⟨sub components areOthers cluster, sub areOthers components cluster⟩

end

/-- Clusters that are connected inside and that no link leaves are the
components. -/
theorem areComponents_of_closed (distinct : items.Nodup) (covers : clusters.join = items)
    (inhabited : 0 ∉ clusters)
    (within :
      ∀ cluster ∈ clusters, ∀ one ∈ cluster, ∀ other ∈ cluster, Connected Linked items one other)
    (closed :
      ∀ cluster ∈ clusters, ∀ one ∈ cluster, ∀ other,
        LinkedIn Linked items one other → other ∈ cluster) :
    AreComponents Linked items clusters where
  distinct := distinct
  covers := covers
  inhabited := inhabited
  connected cluster isCluster one isOne other := by
    constructor
    · exact within cluster isCluster one isOne other
    · intro path
      exact path.passes
        (fun _ next link isMember =>
          closed cluster isCluster _ isMember next link)
        isOne

theorem AreComponents.connected_of_touches
    (components : AreComponents Linked items clusters) (isCluster : cluster ∈ clusters)
    (touches : Touches Linked item cluster) {one : Item} (isOne : one ∈ cluster) :
    Connected Linked (item ::ₘ items) one item := by
  obtain ⟨member, isMember, linked⟩ := touches
  have path : Connected Linked items one member :=
    (components.connected cluster isCluster one isOne member).mp isMember
  have isItem : member ∈ items := components.mem_items isCluster isMember
  exact path.cons.tail ⟨Multiset.mem_cons_of_mem isItem, Multiset.mem_cons_self item items, linked⟩

theorem AreComponents.mem_of_linked (components : AreComponents Linked items clusters)
    (isCluster : cluster ∈ clusters) {one other : Item} (isOne : one ∈ cluster)
    (isOther : other ∈ items) (linked : Linked one other) :
    other ∈ cluster :=
  (components.connected cluster isCluster one isOne other).mpr
    (Relation.ReflTransGen.single ⟨components.mem_items isCluster isOne, isOther, linked⟩)

section Joining

variable [DecidablePred (Touches Linked item)]

theorem mem_joined {cluster : Multiset Item} :
    cluster ∈ joined Linked item clusters ↔
      cluster = item ::ₘ (clusters.filter (Touches Linked item)).join ∨
        cluster ∈ clusters ∧ ¬ Touches Linked item cluster := by
  rw [joined, Multiset.mem_cons, Multiset.mem_filter]

theorem mem_touched {member : Item} :
    member ∈ (clusters.filter (Touches Linked item)).join ↔
      ∃ cluster ∈ clusters, Touches Linked item cluster ∧ member ∈ cluster := by
  simp only [Multiset.mem_join, Multiset.mem_filter, and_assoc]

theorem join_joined : (joined Linked item clusters).join = item ::ₘ clusters.join := by
  rw [joined, Multiset.join_cons, Multiset.cons_add, ← Multiset.join_add, Multiset.filter_add_not]

/-- Clusters of images join as the clusters do when images are linked as the
items are. -/
theorem joined_map {Image : Type} {image : Item → Image} {ImageLinked : Image → Image → Prop}
    [DecidablePred (Touches ImageLinked (image item))]
    (alike : ∀ one other, ImageLinked (image one) (image other) ↔ Linked one other) :
    joined ImageLinked (image item) (clusters.map (Multiset.map image)) =
      (joined Linked item clusters).map (Multiset.map image) := by
  have touches :
      ∀ cluster : Multiset Item,
        Touches ImageLinked (image item) (cluster.map image) ↔ Touches Linked item cluster := by
    intro cluster
    simp only [Touches, Multiset.mem_map, exists_exists_and_eq_and, alike]
  rw [joined, joined, Multiset.filter_map, Multiset.filter_map,
    Multiset.map_cons, Multiset.map_cons, Multiset.map_join]
  simp only [Function.comp_def, touches]

theorem AreComponents.join (both : ∀ one other, Linked one other → Linked other one)
    (components : AreComponents Linked items clusters) (fresh : item ∉ items) :
    AreComponents Linked (item ::ₘ items) (joined Linked item clusters) := by
  have toItem :
      ∀ one ∈ item ::ₘ (clusters.filter (Touches Linked item)).join,
        Connected Linked (item ::ₘ items) one item := by
    intro one isOne
    rcases Multiset.mem_cons.mp isOne with rfl | isTouched
    · exact Relation.ReflTransGen.refl
    · obtain ⟨cluster, isCluster, touches, isMember⟩ := mem_touched.mp isTouched
      exact components.connected_of_touches isCluster touches isMember
  apply areComponents_of_closed
  · exact Multiset.nodup_cons.mpr ⟨fresh, components.distinct⟩
  · rw [join_joined, components.covers]
  · intro isEmpty
    rcases mem_joined.mp isEmpty with merged | ⟨isCluster, _⟩
    · exact Multiset.zero_ne_cons merged
    · exact components.inhabited isCluster
  · intro cluster isJoined one isOne other isOther
    rcases mem_joined.mp isJoined with rfl | ⟨isCluster, _⟩
    · exact (toItem one isOne).trans ((toItem other isOther).symm both)
    · exact ((components.connected cluster isCluster one isOne other).mp
          isOther).cons
  · rintro cluster isJoined one isOne other ⟨_, isOther, linked⟩
    rcases mem_joined.mp isJoined with rfl | ⟨isCluster, untouched⟩
    · rcases Multiset.mem_cons.mp isOther with rfl | oldOther
      · exact Multiset.mem_cons_self _ _
      · apply Multiset.mem_cons_of_mem
        rcases Multiset.mem_cons.mp isOne with rfl | isTouched
        · obtain ⟨cluster, isCluster, isMember⟩ := components.exists_cluster oldOther
          exact mem_touched.mpr ⟨cluster, isCluster, ⟨other, isMember, both _ _ linked⟩, isMember⟩
        · obtain ⟨cluster, isCluster, touches, isMember⟩ := mem_touched.mp isTouched
          exact mem_touched.mpr
            ⟨cluster, isCluster, touches,
              components.mem_of_linked isCluster isMember oldOther linked⟩
    · rcases Multiset.mem_cons.mp isOther with rfl | oldOther
      · exact absurd ⟨one, isOne, linked⟩ untouched
      · exact components.mem_of_linked isCluster isOne oldOther linked

end Joining

end Laws

end Components
