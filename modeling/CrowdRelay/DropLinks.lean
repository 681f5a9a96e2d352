import CrowdRelay.FixedWidth
import CrowdRelay.PublishGuard
import Mathlib.Tactic.NormNum

namespace CrowdRelay

/-!
# The links of a drop surge

A fresh video or release goes out on several lanes at once, each with a link of
its own.  The name of a link is made of the key of the source and the lane; a
key that had to be changed for it carries a digest of what it was.
-/

/-- The lanes a fresh video or release goes out on. -/
def dropSurgeLanes : List String :=
  ["signal_push", "email", "telegram", "discord", "instagram", "facebook", "x", "community"]

def dropSurgeKeyDigest (sourceKey : Text) : UInt32 :=
  (sourceKey.flatMap String.utf8EncodeChar).foldl
    (fun hash byte => (hash ^^^ byte.toUInt32) * 0x01000193)
    0x811c9dc5

/-- A number of 32 bits in eight hexadecimal digits. -/
def hex8 (number : UInt32) : Text := (FixedWidth.digits 16 8 number.toNat).map Nat.digitChar

/-- How many bytes a text takes. -/
def byteLength (text : Text) : Nat := (text.map Char.utf8Size).sum

def slugPrefix : Text := "drop-".toList

/-- The characters a key may take up, with room for the lane and a digest. -/
def slugBudget (lane : Text) : Nat := 100 - (slugPrefix.length + byteLength ('-' :: lane) + 9)

/-- A key in the letters, digits and dashes of a link. -/
def cleanedKey (sourceKey : Text) : Text :=
  sourceKey.map fun character =>
    if character.isAlphanum then character.toLower else '-'

def boundedKey (sourceKey lane : Text) : Text :=
  let trimmed := ((cleanedKey sourceKey).dropWhile (· == '-')).rdropWhile (· == '-')
  (trimmed.take (slugBudget lane)).rdropWhile (· == '-')

def lowercaseKey (sourceKey : Text) : Text := sourceKey.map Char.toLower

/-- What tells a changed key from the others. -/
def slugDigest (sourceKey lane : Text) : Text :=
  if boundedKey sourceKey lane = lowercaseKey sourceKey then
    []
  else
    '-' :: hex8 (dropSurgeKeyDigest sourceKey)

def dropSurgeLinkSlug (sourceKey lane : Text) : Option Text :=
  let bounded := boundedKey sourceKey lane
  if bounded = [] ∨ (bounded.head?.any Char.isAlphanum) = false then
    none
  else
    some (slugPrefix ++ bounded ++ slugDigest sourceKey lane ++ '-' :: lane)

section Shape

variable {sourceKey lane slug : Text}

@[simp] theorem length_hex8 (number : UInt32) : (hex8 number).length = 8 :=
  FixedWidth.length_text 8 number.toNat

theorem hex8_injective : Function.Injective hex8 := by
  intro first second same
  have width : 2 ^ 32 = 16 ^ 8 := by norm_num
  exact UInt32.toNat_inj.mp
    (FixedWidth.text_injective (by norm_num) (by norm_num)
      (width ▸ first.toNat_lt) (width ▸ second.toNat_lt) same)

theorem length_le_byteLength (text : Text) : text.length ≤ byteLength text := by
  induction text with
  | nil => exact le_rfl
  | cons character rest inductionHypothesis =>
    have size := character.utf8Size_pos
    rw [byteLength, List.map_cons, List.sum_cons, List.length_cons]
    rw [byteLength] at inductionHypothesis
    omega

theorem toNat_lt_of_isAlphanum {character : Char} (alphanumeric : character.isAlphanum = true) :
    character.toNat < 123 := by
  have code : character.toNat = character.val.toNat := rfl
  delta Char.isAlphanum Char.isAlpha Char.isLower Char.isUpper Char.isDigit at alphanumeric
  simp only [Bool.or_eq_true, Bool.and_eq_true, decide_eq_true_eq,
    UInt32.le_iff_toNat_le, ge_iff_le] at alphanumeric
  simp at alphanumeric
  omega

theorem isAlphanum_toLower {character : Char} (alphanumeric : character.isAlphanum = true) :
    character.toLower.isAlphanum = true := by
  have table :
      ∀ code < 123, (Char.ofNat code).isAlphanum = true →
        (Char.ofNat code).toLower.isAlphanum = true := by
    decide
  have small := toNat_lt_of_isAlphanum alphanumeric
  have entry := table character.toNat small
  rw [Char.ofNat_toNat] at entry
  exact entry alphanumeric

theorem mem_cleanedKey {character : Char} (isCleaned : character ∈ cleanedKey sourceKey)
    (notDash : character ≠ '-') :
    character.isAlphanum = true := by
  obtain ⟨original, _, rfl⟩ := List.mem_map.mp isCleaned
  by_cases alphanumeric : original.isAlphanum = true
  · rw [if_pos alphanumeric]
    exact isAlphanum_toLower alphanumeric
  · exact absurd (if_neg alphanumeric) notDash

theorem boundedKey_prefix (sourceKey lane : Text) :
    boundedKey sourceKey lane <+: (cleanedKey sourceKey).dropWhile (· == '-') :=
  (List.rdropWhile_prefix _ _).trans ((List.take_prefix _ _).trans (List.rdropWhile_prefix _ _))

theorem length_boundedKey_le (sourceKey lane : Text) :
    (boundedKey sourceKey lane).length ≤ slugBudget lane :=
  (List.rdropWhile_prefix _ _).length_le.trans (List.length_take_le _ _)

theorem isAlphanum_of_boundedKey_eq_cons {first : Char} {rest : Text}
    (bounded : boundedKey sourceKey lane = first :: rest) :
    first.isAlphanum = true := by
  obtain ⟨tail, whole⟩ := boundedKey_prefix sourceKey lane
  rw [bounded, List.cons_append] at whole
  have notDash := List.head?_dropWhile_not (· == '-') (cleanedKey sourceKey)
  rw [← whole] at notDash
  have isCleaned : first ∈ cleanedKey sourceKey :=
    (List.dropWhile_suffix _).subset (whole ▸ List.mem_cons_self)
  exact mem_cleanedKey isCleaned fun isDash => by simp [isDash] at notDash

/-- The part of a link's name that tells its key. -/
def linkBody (sourceKey lane : Text) : Text :=
  boundedKey sourceKey lane ++ slugDigest sourceKey lane

theorem dropSurgeLinkSlug_eq (sourceKey lane : Text) :
    dropSurgeLinkSlug sourceKey lane =
      if boundedKey sourceKey lane = [] then
        none
      else
        some (slugPrefix ++ linkBody sourceKey lane ++ '-' :: lane) := by
  rw [dropSurgeLinkSlug, linkBody]
  cases bounded : boundedKey sourceKey lane with
  | nil => rfl
  | cons first rest =>
    have alphanumeric := isAlphanum_of_boundedKey_eq_cons bounded
    simp [alphanumeric]

theorem mem_dropSurgeLinkSlug_iff :
    slug ∈ dropSurgeLinkSlug sourceKey lane ↔
      boundedKey sourceKey lane ≠ [] ∧
        slug = slugPrefix ++ linkBody sourceKey lane ++ '-' :: lane := by
  rw [dropSurgeLinkSlug_eq]
  split
  · rename_i nothing
    simp [nothing]
  · rename_i something
    simp [something, eq_comm]

theorem length_slug_le (isSlug : slug ∈ dropSurgeLinkSlug sourceKey lane) : slug.length ≤ 100 := by
  obtain ⟨something, rfl⟩ := mem_dropSurgeLinkSlug_iff.mp isSlug
  have bounded := length_boundedKey_le sourceKey lane
  have positive := List.length_pos_iff.mpr something
  have digest : (slugDigest sourceKey lane).length ≤ 9 := by
    rw [slugDigest]
    split
    · exact Nat.zero_le _
    · simp
  have bytes := length_le_byteLength ('-' :: lane)
  rw [slugBudget] at bounded
  rw [linkBody, List.length_append, List.length_append, List.length_append]
  omega

theorem append_dash_inj {first second lane other : Text} (noDash : '-' ∉ lane)
    (otherNoDash : '-' ∉ other) (same : first ++ '-' :: lane = second ++ '-' :: other) :
    first = second ∧ lane = other := by
  have last :
      ∀ {before after : Text}, '-' ∉ after →
        ((before ++ '-' :: after).reverse.takeWhile (· ≠ '-')).reverse = after := by
    intro before after noDash
    have passed : ∀ character ∈ after.reverse, decide (character ≠ '-') = true := by
      intro character isAfter
      refine decide_eq_true fun isDash => noDash ?_
      rw [← isDash]
      exact List.mem_reverse.mp isAfter
    rw [List.reverse_append, List.reverse_cons, List.append_assoc,
      List.takeWhile_append_of_pos passed]
    simp
  have sameLane : lane = other := by
    rw [← @last first lane noDash, same, last otherNoDash]
  subst sameLane
  exact ⟨List.append_cancel_right same, rfl⟩

end Shape

end CrowdRelay
