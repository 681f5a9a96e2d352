import Mathlib.Data.List.Nodup
import Mathlib.Data.List.Pairwise
import CrowdRelay.DropLinks

namespace CrowdRelay

/-!
# Drops that share a link

A key that was changed for its link carries a digest, and one that was not
carries none.  The comparison that tells them apart folds the letter case, so
two keys that differ in nothing else share a link, and so do a key that spells
a digest and the key the digest is of.
-/

/-- A key that goes into the link as it is, letter case apart. -/
def Verbatim (lane sourceKey : Text) : Prop := boundedKey sourceKey lane = lowercaseKey sourceKey

instance Verbatim.decidable (lane sourceKey : Text) : Decidable (Verbatim lane sourceKey) :=
  inferInstanceAs (Decidable (_ = _))

def digestedKey (sourceKey lane : Text) : Text :=
  boundedKey sourceKey lane ++ '-' :: hex8 (dropSurgeKeyDigest sourceKey)

/-- No key that goes in as it is reads in its link as another one. -/
structure KeysKeptApart (lane : Text) (keys : List Text) : Prop where
  letterCase :
    ∀ key ∈ keys, ∀ other ∈ keys,
      Verbatim lane key → Verbatim lane other → key ≠ other →
      lowercaseKey key ≠ lowercaseKey other
  digest :
    ∀ key ∈ keys, ∀ other ∈ keys,
      Verbatim lane key → ¬ Verbatim lane other →
      lowercaseKey key ≠ digestedKey other lane

/-- The names of the lanes, letter by letter. -/
def laneNames : List Text := dropSurgeLanes.map String.toList

/-- The law that drops never share a link, and lanes keep their clicks. -/
structure DropLinksStayApart (keys : List Text) : Prop where
  perKey :
    ∀ lane ∈ laneNames,
      (keys.filterMap (dropSurgeLinkSlug · lane)).Nodup
  perLane :
    ∀ lane ∈ laneNames, ∀ other ∈ laneNames, lane ≠ other →
      ∀ key ∈ keys, ∀ otherKey ∈ keys,
        ∀ slug ∈ dropSurgeLinkSlug key lane,
          slug ∉ dropSurgeLinkSlug otherKey other
  short :
    ∀ lane, ∀ key ∈ keys, ∀ slug ∈ dropSurgeLinkSlug key lane,
      slug.length ≤ 100

section Bodies

variable {key other lane : Text}

theorem linkBody_verbatim (verbatim : Verbatim lane key) :
    linkBody key lane = lowercaseKey key := by
  have noDigest : slugDigest key lane = [] := if_pos verbatim
  rw [linkBody, noDigest, List.append_nil]
  exact verbatim

theorem linkBody_changed (changed : ¬ Verbatim lane key) :
    linkBody key lane = digestedKey key lane := by
  have digest : slugDigest key lane = '-' :: hex8 (dropSurgeKeyDigest key) := if_neg changed
  rw [linkBody, digest]
  rfl

theorem digest_eq_of_digestedKey_eq (same : digestedKey key lane = digestedKey other lane) :
    dropSurgeKeyDigest key = dropSurgeKeyDigest other := by
  have tails := (List.append_inj' same (by simp)).2
  exact hex8_injective (List.cons.inj tails).2

theorem KeysKeptApart.linkBody_ne {keys : List Text} (apart : KeysKeptApart lane keys)
    (isKey : key ∈ keys) (isOther : other ∈ keys) (differ : key ≠ other)
    (digests : dropSurgeKeyDigest key ≠ dropSurgeKeyDigest other) :
    linkBody key lane ≠ linkBody other lane := by
  by_cases verbatim : Verbatim lane key
  · rw [linkBody_verbatim verbatim]
    by_cases otherVerbatim : Verbatim lane other
    · rw [linkBody_verbatim otherVerbatim]
      exact apart.letterCase key isKey other isOther verbatim otherVerbatim differ
    · rw [linkBody_changed otherVerbatim]
      exact apart.digest key isKey other isOther verbatim otherVerbatim
  · rw [linkBody_changed verbatim]
    by_cases otherVerbatim : Verbatim lane other
    · rw [linkBody_verbatim otherVerbatim]
      exact (apart.digest other isOther key isKey otherVerbatim verbatim).symm
    · rw [linkBody_changed otherVerbatim]
      exact fun same => digests (digest_eq_of_digestedKey_eq same)

end Bodies

section Lanes

variable {keys : List Text} {lane : Text} {key other : Text}

theorem dash_not_mem_lane (isLane : lane ∈ laneNames) : '-' ∉ lane := by
  have spelled : ∀ name ∈ laneNames, name.all (· != '-') = true := by
    decide
  intro isDash
  have notDash := List.all_eq_true.mp (spelled lane isLane) _ isDash
  simp at notDash

theorem linkBody_eq_of_slug {key other slug : Text} (isSlug : slug ∈ dropSurgeLinkSlug key lane)
    (isOtherSlug : slug ∈ dropSurgeLinkSlug other lane) :
    linkBody key lane = linkBody other lane := by
  obtain ⟨-, made⟩ := mem_dropSurgeLinkSlug_iff.mp isSlug
  obtain ⟨-, otherMade⟩ := mem_dropSurgeLinkSlug_iff.mp isOtherSlug
  rw [made, List.append_assoc, List.append_assoc] at otherMade
  exact List.append_cancel_right (List.append_cancel_left otherMade)

theorem nodup_filterMap_iff {Key Name : Type} {name : Key → Option Name} {keys : List Key}
    (distinct : keys.Nodup) :
    (keys.filterMap name).Nodup ↔
      ∀ key ∈ keys, ∀ other ∈ keys, key ≠ other → ∀ slug ∈ name key, slug ∉ name other := by
  rw [List.Nodup, List.pairwise_filterMap]
  constructor
  · intro apart
    have symmetric :
        Std.Symm fun key other : Key =>
          ∀ slug, name key = some slug → ∀ second, name other = some second → slug ≠ second :=
      ⟨fun _ _ differ slug isSlug second isSecond =>
        (differ second isSecond slug isSlug).symm⟩
    intro key isKey other isOther differ slug isSlug isSecond
    exact apart.forall isKey isOther differ slug isSlug slug isSecond rfl
  · intro apart
    refine distinct.imp_of_mem ?_
    rintro key other isKey isOther differ slug isSlug second isSecond rfl
    exact apart key isKey other isOther differ slug isSlug isSecond

theorem boundedKey_ne_nil (verbatim : Verbatim lane key)
    (sameLetters : lowercaseKey key = lowercaseKey other) (differ : key ≠ other) :
    boundedKey key lane ≠ [] := by
  intro nothing
  rw [Verbatim, nothing] at verbatim
  have isNil : key = [] := List.map_eq_nil_iff.mp verbatim.symm
  have otherNil : other = [] := List.map_eq_nil_iff.mp (sameLetters.symm.trans verbatim.symm)
  exact differ (isNil.trans otherNil.symm)

theorem boundedKey_ne_nil_of_digest (verbatim : Verbatim lane key)
    (spelled : lowercaseKey key = digestedKey other lane) :
    boundedKey key lane ≠ [] ∧ boundedKey other lane ≠ [] := by
  have bounded : boundedKey key lane = digestedKey other lane := verbatim.trans spelled
  constructor
  · rw [bounded, digestedKey]
    simp
  · intro nothing
    rw [digestedKey, nothing, List.nil_append] at bounded
    have isDash := isAlphanum_of_boundedKey_eq_cons bounded
    exact absurd isDash (by decide)

theorem slugs_apart_iff (digests : (keys.map dropSurgeKeyDigest).Nodup) :
    (∀ key ∈ keys, ∀ other ∈ keys, key ≠ other →
        ∀ slug ∈ dropSurgeLinkSlug key lane, slug ∉ dropSurgeLinkSlug other lane) ↔
      KeysKeptApart lane keys := by
  constructor
  · intro apart
    have bodiesDiffer :
        ∀ {key other : Text}, key ∈ keys → other ∈ keys → key ≠ other →
          boundedKey key lane ≠ [] → boundedKey other lane ≠ [] →
          linkBody key lane ≠ linkBody other lane := by
      intro key other isKey isOther differ something otherThing sameBody
      exact apart key isKey other isOther differ _ (mem_dropSurgeLinkSlug_iff.mpr ⟨something, rfl⟩)
          (mem_dropSurgeLinkSlug_iff.mpr ⟨otherThing, by rw [sameBody]⟩)
    refine ⟨?_, ?_⟩
    · intro key isKey other isOther verbatim otherVerbatim differ sameLetters
      refine bodiesDiffer isKey isOther differ (boundedKey_ne_nil verbatim sameLetters differ)
          (boundedKey_ne_nil otherVerbatim sameLetters.symm differ.symm) ?_
      rw [linkBody_verbatim verbatim, linkBody_verbatim otherVerbatim, sameLetters]
    · intro key isKey other isOther verbatim changed spelled
      obtain ⟨something, otherThing⟩ := boundedKey_ne_nil_of_digest verbatim spelled
      have differ : key ≠ other := fun same => changed (same ▸ verbatim)
      refine bodiesDiffer isKey isOther differ something otherThing ?_
      rw [linkBody_verbatim verbatim, linkBody_changed changed, spelled]
  · intro apart key isKey other isOther differ slug isSlug isOtherSlug
    exact apart.linkBody_ne isKey isOther differ
        (fun same =>
          differ (List.inj_on_of_nodup_map digests isKey isOther same))
        (linkBody_eq_of_slug isSlug isOtherSlug)

end Lanes

/--
Drops stay apart exactly where no two keys that go in as they are differ in
letter case only, and no such key spells another key with its digest.
-/
theorem dropLinksStayApart_iff
    {keys : List Text}
    (distinct : keys.Nodup)
    (digests : (keys.map dropSurgeKeyDigest).Nodup) :
    DropLinksStayApart keys ↔ ∀ lane ∈ laneNames, KeysKeptApart lane keys := by
  constructor
  · intro law lane isLane
    exact (slugs_apart_iff digests).mp
      ((nodup_filterMap_iff distinct).mp (law.perKey lane isLane))
  · intro apart
    refine ⟨?_, ?_, ?_⟩
    · intro lane isLane
      exact (nodup_filterMap_iff distinct).mpr
        ((slugs_apart_iff digests).mpr (apart lane isLane))
    · intro lane isLane other isOther differ key _ otherKey _ slug isSlug
        isOtherSlug
      obtain ⟨-, made⟩ := mem_dropSurgeLinkSlug_iff.mp isSlug
      obtain ⟨-, otherMade⟩ := mem_dropSurgeLinkSlug_iff.mp isOtherSlug
      exact differ
        (append_dash_inj (dash_not_mem_lane isLane) (dash_not_mem_lane isOther)
          (made.symm.trans otherMade)).2
    · intro lane key _ slug isSlug
      exact length_slug_le isSlug

/-- Two releases whose keys need a digest, and one whose key does not. -/
def threeReleases : List Text :=
  ["youtube:iijgBMteL9I", "youtube/iijgBMteL9I", "release-technophobia"].map String.toList

theorem threeReleases_stayApart_iff :
    DropLinksStayApart threeReleases ↔ ∀ lane ∈ laneNames, KeysKeptApart lane threeReleases :=
  dropLinksStayApart_iff (by decide +kernel) (by decide +kernel)

/-- Two keys that differ in letter case only. -/
def shoutedRelease : List Text := ["release-Technophobia", "release-technophobia"].map String.toList

/-- Both are given the same link on every lane. -/
theorem shoutedRelease_sharesLink :
    shoutedRelease.Nodup ∧
      (shoutedRelease.map dropSurgeKeyDigest).Nodup ∧
      (shoutedRelease.map fun key =>
          dropSurgeLinkSlug key "email".toList) =
        [some "drop-release-technophobia-email".toList,
          some "drop-release-technophobia-email".toList] ∧
      ¬ DropLinksStayApart shoutedRelease := by
  have shared :
      (shoutedRelease.map fun key =>
          dropSurgeLinkSlug key "email".toList) =
        [some "drop-release-technophobia-email".toList,
          some "drop-release-technophobia-email".toList] := by
    decide +kernel
  refine ⟨by decide +kernel, by decide +kernel, shared, ?_⟩
  intro law
  have apart := law.perKey "email".toList (by decide +kernel)
  exact absurd apart (by decide +kernel)

end CrowdRelay
