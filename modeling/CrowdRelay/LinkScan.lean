import CrowdRelay.TrackedLinks

namespace CrowdRelay

open TextScan

/-!
# What the scan of a letter misses

The scan cuts a letter into words and looks only at words that read as an
`http` or `https` URL from their first character on.  An address that is joined
to other characters, or whose word is not read as such a URL, goes unseen.
-/

/-- An absolute web address begins here. -/
def AddressAt (text : Text) (place : Nat) : Prop :=
  "http://".toList <+: text.drop place ∨ "https://".toList <+: text.drop place

instance AddressAt.decidable (text : Text) (place : Nat) : Decidable (AddressAt text place) :=
  inferInstanceAs (Decidable (_ ∨ _))

/-- The text from a place up to the next break. -/
def wordAt (text : Text) (place : Nat) : Text := (text.drop place).takeWhile (!isLinkBreak ·)

/-- A word begins here that reads as a link to follow. -/
def LinkSeenAt (url : UrlReader) (text : Text) (place : Nat) : Prop :=
  StartsPiece isLinkBreak text place ∧ WebLink url (wordAt text place)

/-- Every address of a letter the scan passes is a redirect of the site exactly
when a link of the letter is flagged, or every address the scan does not see as
a link is such a redirect all the same. -/
theorem passed_addresses_tracked_iff
    (url : UrlReader)
    (text : Text)
    (siteRoot : Option Text) :
    (untrackedLinksIn url text siteRoot = [] →
        ∀ place, AddressAt text place → SiteRedirect siteRoot (wordAt text place)) ↔
      (∃ word ∈ text.splitOnP isLinkBreak, WebLink url word ∧
        ¬ (Comparable url siteRoot ∧ SiteRedirect siteRoot word)) ∨
      ∀ place, AddressAt text place → ¬ LinkSeenAt url text place →
        SiteRedirect siteRoot (wordAt text place) := by
  rw [untrackedLinksIn_eq_nil_iff]
  constructor
  · intro missesNothing
    by_cases passes :
        ∀ word ∈ text.splitOnP isLinkBreak, WebLink url word →
          Comparable url siteRoot ∧ SiteRedirect siteRoot word
    · exact Or.inr fun place begins _ => missesNothing passes place begins
    · push Not at passes
      obtain ⟨word, isWord, isLink, untracked⟩ := passes
      exact Or.inl ⟨word, isWord, isLink, fun both => untracked both.1 both.2⟩
  · rintro (⟨word, isWord, isLink, untracked⟩ | unseenTracked) passes place begins
    · exact absurd (passes word isWord isLink) untracked
    · by_cases seen : LinkSeenAt url text place
      · exact (passes _ (takeWhile_mem_splitOnP seen.1) seen.2).2
      · exact unseenTracked place begins seen

section Joined

variable {url : UrlReader} {word : Text}

def SchemeBeforeColon (url : UrlReader) : Prop :=
  ∀ text parsed, url text = some parsed → ':' ∈ text ∧ parsed.scheme = text.takeWhile (· != ':')

theorem WebLink.begins (schemes : SchemeBeforeColon url) (isLink : WebLink url word) :
    "http:".toList <+: word ∨ "https:".toList <+: word := by
  obtain ⟨parsed, isParsed, isWeb, -⟩ := isLink
  obtain ⟨hasColon, isScheme⟩ := schemes word parsed isParsed
  have spelled : parsed.scheme ++ [':'] <+: word := by
    rw [isScheme]
    exact takeWhile_append_prefix hasColon
  rcases isWeb with isHttp | isHttps
  · rw [isHttp] at spelled
    exact Or.inl spelled
  · rw [isHttps] at spelled
    exact Or.inr spelled

theorem passes_of_no_word_begins {text : Text} (schemes : SchemeBeforeColon url)
    (joined :
      ∀ word ∈ text.splitOnP isLinkBreak, ¬ ("http:".toList <+: word ∨ "https:".toList <+: word))
    (siteRoot : Option Text) :
    untrackedLinksIn url text siteRoot = [] := by
  rw [untrackedLinksIn_eq_nil_iff]
  intro word isWord isLink
  exact absurd (isLink.begins schemes) (joined word isWord)

def isHostCharacter (character : Char) : Bool :=
  character.isLower || character.isDigit
    || ['.', '-', '\''].contains character

def isPathCharacter (character : Char) : Bool :=
  character.isAlphanum || ['/', '-', '_'].contains character

/-- A reader of plain URLs: a web address of a host and a path, or a text under
another scheme. -/
def plainReader : UrlReader := fun text =>
  let scheme := text.takeWhile (· != ':')
  let rest := text.dropWhile (· != ':')
  if [httpScheme, httpsScheme].contains scheme then
    match rest with
    | ':' :: '/' :: '/' :: address =>
      let host := address.takeWhile (· != '/')
      let path := address.dropWhile (· != '/')
      if !host.isEmpty && host.all isHostCharacter
          && path.all isPathCharacter then
        some
          { scheme := scheme
            username := []
            password := none
            host := some host
            path := if path.isEmpty then ['/'] else path
            query := none
            fragment := none }
      else
        none
    | _ => none
  else if !scheme.isEmpty && scheme.all Char.isLower then
    match rest with
    | ':' :: path =>
      some
        { scheme := scheme
          username := []
          password := none
          host := none
          path := path
          query := none
          fragment := none }
    | _ => none
  else
    none

theorem plainReader_schemeBeforeColon : SchemeBeforeColon plainReader := by
  intro text parsed isParsed
  have hasColon : ∀ rest, text.dropWhile (· != ':') = ':' :: rest → ':' ∈ text := by
    intro rest shape
    apply (List.dropWhile_sublist (· != ':')).subset
    rw [shape]
    exact List.mem_cons_self
  unfold plainReader at isParsed
  dsimp only at isParsed
  split at isParsed
  · split at isParsed
    · rename_i address shape
      split at isParsed
      · cases isParsed
        exact ⟨hasColon _ shape, rfl⟩
      · cases isParsed
    · cases isParsed
  · split at isParsed
    · split at isParsed
      · rename_i path shape
        cases isParsed
        exact ⟨hasColon _ shape, rfl⟩
      · cases isParsed
    · cases isParsed

/-- A foreign address behind a label and a colon passes. -/
theorem labelled_address_passes :
    ¬ ∀ url : UrlReader, SchemeBeforeColon url →
      ∀ (text : Text) (siteRoot : Option Text),
        untrackedLinksIn url text siteRoot = [] →
        ∀ place, AddressAt text place → SiteRedirect siteRoot (wordAt text place) := by
  intro missesNothing
  have passes :
      untrackedLinksIn plainReader "listen:https://evil.example".toList
          (some "https://virya.music".toList) =
        [] := by
    apply passes_of_no_word_begins plainReader_schemeBeforeColon
    decide +kernel
  obtain ⟨root, isRoot, slug, isRedirect⟩ :=
    missesNothing plainReader plainReader_schemeBeforeColon _ _ passes 7
      (by decide)
  cases isRoot
  have onSite :
      redirectPrefix (linkRoot "https://virya.music".toList) <+:
        wordAt "listen:https://evil.example".toList 7 := by
    rw [isRedirect]
    exact List.prefix_append _ _
  revert onSite
  decide +kernel

end Joined

end CrowdRelay
