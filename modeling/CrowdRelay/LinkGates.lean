import CrowdRelay.LinkScan
import CrowdRelay.Slugify

namespace CrowdRelay

open TextScan

/-!
# The two gates of a tracked link

A link is accepted by what it reads as, and a letter is scanned for how its
links are spelled.  The scan passes an accepted link exactly when it is spelled
as the redirect of the site; the links the site prints pass both gates.
-/

/-- What both gates rely on a reader for: a host holds no whitespace, and a
plain path behind an origin is read as that path on the same host. -/
structure ReadsPlainPaths (url : UrlReader) : Prop where
  host_visible :
    ∀ text parsed host, url text = some parsed → parsed.host = some host →
      ∀ character ∈ host, isWhitespace character = false
  path_behind :
    ∀ root origin path, url root = some origin →
      origin.isSiteOrigin = true →
      (∀ character ∈ root, ' ' < character) →
      (∀ character ∈ path, isPathCharacter character = true) →
      ∃ linked, url (root ++ '/' :: path) = some linked ∧
        linked.scheme = origin.scheme ∧ linked.host = origin.host ∧
        linked.query = none ∧ linked.fragment = none ∧
        linked.visibleSegments = (path.splitOn '/').filter (!·.isEmpty)

def OriginOf (url : UrlReader) (siteOrigin host : Text) : Prop :=
  ∃ origin, url (linkRoot siteOrigin) = some origin ∧
    origin.isSiteOrigin = true ∧ origin.host = some host

/-- Nothing in a text parts the words of a letter. -/
def OneWord (text : Text) : Prop := ∀ character ∈ text, isLinkBreak character = false

theorem oneWord_of_all {text : Text} (goesOn : text.all (!isLinkBreak ·) = true) :
    OneWord text := by
  intro character isThere
  have atCharacter := List.all_eq_true.mp goesOn character isThere
  rwa [Bool.not_eq_true'] at atCharacter

section Characters

variable {character : Char}

theorem isSlugCharacter_lt (isSlug : isSlugCharacter true character = true) :
    character.toNat < 128 := by
  unfold isSlugCharacter isSlugAlphanumeric at isSlug
  delta Char.isDigit Char.isLower Char.isUpper at isSlug
  simp only [Bool.or_eq_true, Bool.true_and, Bool.and_eq_true,
    decide_eq_true_eq, beq_iff_eq, ge_iff_le, UInt32.le_iff_toNat_le] at isSlug
  rcases isSlug with
    (((⟨-, isDigit⟩ | ⟨-, isLower⟩) | ⟨-, isUpper⟩) | rfl) | rfl
  · exact lt_of_le_of_lt isDigit (by decide)
  · exact lt_of_le_of_lt isLower (by decide)
  · exact lt_of_le_of_lt isUpper (by decide)
  · decide
  · decide

theorem isSlugCharacter_plain (isSlug : isSlugCharacter true character = true) :
    isPathCharacter character = true ∧ character ≠ '/' ∧ isLinkBreak character = false := by
  have plain :
      ∀ code < 128, isSlugCharacter true (Char.ofNat code) = true →
        isPathCharacter (Char.ofNat code) = true ∧ Char.ofNat code ≠ '/' ∧
          isLinkBreak (Char.ofNat code) = false := by
    decide +kernel
  have atCode := plain character.toNat (isSlugCharacter_lt isSlug)
  rw [Char.ofNat_toNat] at atCode
  exact atCode isSlug

end Characters

section Printed

variable {url : UrlReader} {siteOrigin host : Text} {hosts : List Text}

theorem oneWord_forSite (oneWord : OneWord (linkRoot siteOrigin)) (slug : SmartLinkSlug) :
    OneWord (TrackedLink.forSite siteOrigin slug).asStr := by
  intro character isThere
  unfold TrackedLink.forSite redirectPrefix at isThere
  rcases List.mem_append.mp isThere with inFront | inSlug
  · rcases List.mem_append.mp inFront with inRoot | inPath
    · exact oneWord character inRoot
    · exact @oneWord_of_all "/l/".toList (by decide) character inPath
  · exact (isSlugCharacter_plain (slug.isSlugCharacter_of_mem _ inSlug)).2.2

theorem untrackedLinksIn_oneWord {word : Text} {siteRoot : Option Text}
    (oneWord : OneWord word) (isLink : WebLink url word) :
    untrackedLinksIn url word siteRoot =
      if (trackedSiteSlug url word siteRoot).isSome then [] else [word] := by
  unfold untrackedLinksIn letterLinks
  rw [List.splitOnP_eq_singleton oneWord, List.filter_cons,
    if_pos (isLetterLink_iff.mpr isLink), List.filter_nil, List.filter_cons]
  cases trackedSiteSlug url word siteRoot <;> rfl

theorem OriginOf.comparable (isOrigin : OriginOf url siteOrigin host) :
    Comparable url (some siteOrigin) := by
  obtain ⟨origin, reads, isSite, -⟩ := isOrigin
  exact ⟨siteOrigin, rfl, origin, reads, isSite⟩

theorem forSite_passes (isOrigin : OriginOf url siteOrigin host)
    (oneWord : OneWord (linkRoot siteOrigin)) (slug : SmartLinkSlug) :
    untrackedLinksIn url (TrackedLink.forSite siteOrigin slug).asStr (some siteOrigin) = [] := by
  rw [untrackedLinksIn_eq_nil_iff]
  intro word isWord isLink
  rw [List.splitOnP_eq_singleton (oneWord_forSite oneWord slug), List.mem_singleton] at isWord
  exact ⟨isOrigin.comparable, siteOrigin, rfl, slug, isWord⟩

theorem trustedHost_of_only (reads : ReadsPlainPaths url)
    (isOrigin : OriginOf url siteOrigin host) (named : hosts ≠ [])
    (only : ∀ trusted ∈ hosts, trusted = host) :
    TrustedHost hosts host := by
  obtain ⟨origin, isParsed, -, hasHost⟩ := isOrigin
  obtain ⟨trusted, isTrusted⟩ := List.exists_mem_of_ne_nil hosts named
  refine ⟨trusted, isTrusted, ?_⟩
  rw [only trusted isTrusted, trim_eq_self (reads.host_visible _ origin host isParsed hasHost)]
  exact beq_self_eq_true _

theorem visible_of_oneWord {text : Text} (oneWord : OneWord text) :
    ∀ character ∈ text, isWhitespace character = false := by
  intro character isThere
  have goesOn := oneWord character isThere
  rw [isLinkBreak, Bool.or_eq_false_iff] at goesOn
  exact goesOn.1

theorem redirectSlug_splitOn (slug : SmartLinkSlug) :
    redirectSlug ((('l' :: '/' :: slug.asStr).splitOn '/').filter (!·.isEmpty)) =
      some slug.asStr := by
  have noSlash : '/' ∉ slug.asStr := fun isThere =>
    (isSlugCharacter_plain (slug.isSlugCharacter_of_mem _ isThere)).2.1 rfl
  have pieces := List.splitOn_append_cons_self_of_not_mem (show '/' ∉ ['l'] by decide) slug.asStr
  rw [List.splitOn_eq_singleton noSlash] at pieces
  rw [show 'l' :: '/' :: slug.asStr = ['l'] ++ '/' :: slug.asStr from rfl, pieces]
  simp [slug.asStr_ne_nil, redirectSlug]

/-- Composing accepts what the site prints. -/
theorem parse_forSite (reads : ReadsPlainPaths url) (isOrigin : OriginOf url siteOrigin host)
    (printed : ∀ character ∈ linkRoot siteOrigin, ' ' < character)
    (oneWord : OneWord (linkRoot siteOrigin)) (trusted : TrustedHost hosts host)
    (slug : SmartLinkSlug) :
    TrackedLink.parse url (TrackedLink.forSite siteOrigin slug).asStr hosts =
      .ok (TrackedLink.forSite siteOrigin slug) := by
  obtain ⟨origin, isParsed, isSite, hasHost⟩ := isOrigin
  have isTrimmed :
      trim (TrackedLink.forSite siteOrigin slug).asStr =
        (TrackedLink.forSite siteOrigin slug).asStr :=
    trim_eq_self (visible_of_oneWord (oneWord_forSite oneWord slug))
  have plainPath : ∀ character ∈ 'l' :: '/' :: slug.asStr, isPathCharacter character = true := by
    intro character isThere
    rcases List.mem_cons.mp isThere with rfl | behind
    · decide
    · rcases List.mem_cons.mp behind with rfl | inSlug
      · decide
      · exact (isSlugCharacter_plain (slug.isSlugCharacter_of_mem _ inSlug)).1
  obtain ⟨linked, isLinked, sameScheme, sameHost, noQuery, noFragment, path⟩ :=
    reads.path_behind _ origin _ isParsed isSite printed plainPath
  have isHttps : origin.scheme = httpsScheme := by
    simp only [ParsedUrl.isSiteOrigin, Bool.and_eq_true, beq_iff_eq] at isSite
    exact isSite.1.1.1.1.1
  have spelled :
      (TrackedLink.forSite siteOrigin slug).asStr =
        linkRoot siteOrigin ++ '/' :: 'l' :: '/' :: slug.asStr := by
    unfold TrackedLink.forSite redirectPrefix
    rw [List.append_assoc]
    rfl
  rw [TrackedLink.parse_eq_ok_iff, isTrimmed]
  exact ⟨rfl, linked, by rw [spelled]; exact isLinked,
      { https := sameScheme.trans isHttps
        trusted := ⟨host, sameHost.trans hasHost, trusted⟩
        noQuery := noQuery
        noFragment := noFragment
        redirects := ⟨slug, by rw [path]; exact redirectSlug_splitOn slug⟩ }⟩

end Printed

section Accepted

variable {url : UrlReader} {text : Text} {hosts : List Text} {link : TrackedLink}

theorem webLink_of_accepted (accepted : TrackedLink.parse url text hosts = .ok link) :
    WebLink url link.asStr := by
  obtain ⟨isPrinted, parsed, isParsed, reads⟩ := TrackedLink.parse_eq_ok_iff.mp accepted
  obtain ⟨host, hasHost, -⟩ := reads.trusted
  rw [isPrinted]
  exact ⟨parsed, isParsed, Or.inr reads.https, by rw [hasHost]; rfl⟩

theorem accepted_flagged {siteRoot : Option Text}
    (accepted : TrackedLink.parse url text hosts = .ok link)
    (oneWord : OneWord link.asStr) (otherwise : ¬ SiteRedirect siteRoot link.asStr) :
    untrackedLinksIn url link.asStr siteRoot = [link.asStr] := by
  rw [untrackedLinksIn_oneWord oneWord (webLink_of_accepted accepted), if_neg]
  intro isTracked
  exact otherwise (trackedSiteSlug_isSome_iff.mp isTracked).2

end Accepted

section Plain

variable {text scheme host path : Text} {parsed : ParsedUrl}

def PlainPath (path : Text) : Prop :=
  (∀ character ∈ path, isPathCharacter character = true) ∧
    (path = [] ∨ ∃ behind, path = '/' :: behind)

def PlainHost (host : Text) : Prop :=
  host ≠ [] ∧ ∀ character ∈ host, isHostCharacter character = true

/-- What the plain reader reads out of a web address. -/
def plainUrl (scheme host path : Text) : ParsedUrl where
  scheme := scheme
  username := []
  password := none
  host := some host
  path := if path.isEmpty then ['/'] else path
  query := none
  fragment := none

theorem isHostCharacter_visible {character : Char} (isHost : isHostCharacter character = true) :
    isWhitespace character = false ∧ character ≠ '/' := by
  have ofSlug :
      isSlugCharacter true character = true → isWhitespace character = false ∧ character ≠ '/' := by
    intro isSlug
    obtain ⟨-, notSlash, goesOn⟩ := isSlugCharacter_plain isSlug
    rw [isLinkBreak, Bool.or_eq_false_iff] at goesOn
    exact ⟨goesOn.1, notSlash⟩
  simp only [isHostCharacter, Bool.or_eq_true, List.contains_cons, beq_iff_eq,
    List.contains_nil, Bool.false_eq_true, or_false] at isHost
  rcases isHost with (isLower | isDigit) | rfl | rfl | rfl
  · exact ofSlug (by simp [isSlugCharacter, isSlugAlphanumeric, isLower])
  · exact ofSlug (by simp [isSlugCharacter, isSlugAlphanumeric, isDigit])
  · decide
  · decide
  · decide

theorem plainReader_https (isHost : PlainHost host) (isPath : PlainPath path) :
    plainReader ("https://".toList ++ host ++ path) = some (plainUrl httpsScheme host path) := by
  have atColon := takeWhile_dropWhile_append
      (List.all_eq_true.mp (show httpsScheme.all (· != ':') = true by decide))
      (show ∀ character ∈ (':' :: '/' :: '/' :: (host ++ path)).head?,
          (character != ':') = false by simp)
  have atSlash := @takeWhile_dropWhile_append (· != '/') host path
      (fun character isThere => by
        simpa using (isHostCharacter_visible (isHost.2 character isThere)).2)
      (by rcases isPath.2 with rfl | ⟨behind, rfl⟩ <;> simp)
  have spelled :
      "https://".toList ++ host ++ path = httpsScheme ++ ':' :: '/' :: '/' :: (host ++ path) := by
    rw [List.append_assoc]
    rfl
  have hostPlain : host.all isHostCharacter = true := List.all_eq_true.mpr isHost.2
  have pathPlain : path.all isPathCharacter = true := List.all_eq_true.mpr isPath.1
  have named : host.isEmpty = false := List.isEmpty_eq_false_iff.mpr isHost.1
  have isWeb : [httpScheme, httpsScheme].contains httpsScheme = true := by
    decide
  unfold plainReader
  simp only [spelled, atColon, atSlash, isWeb, if_true, hostPlain, pathPlain,
    named, Bool.not_false, Bool.and_self, plainUrl]

/-- The plain reader reads a web address, or something without a host. -/
theorem plainReader_cases (isParsed : plainReader text = some parsed) :
    (∃ scheme host path, PlainHost host ∧ PlainPath path ∧
      text = scheme ++ "://".toList ++ host ++ path ∧
      parsed = plainUrl scheme host path) ∨
    (parsed.host = none ∧ parsed.scheme ≠ httpsScheme) := by
  have atColon : text.takeWhile (· != ':') ++ text.dropWhile (· != ':') = text :=
    List.takeWhile_append_dropWhile
  unfold plainReader at isParsed
  dsimp only at isParsed
  split at isParsed
  · left
    split at isParsed
    · rename_i address shape
      split at isParsed
      · rename_i plain
        cases isParsed
        have atSlash : address.takeWhile (· != '/') ++ address.dropWhile (· != '/') = address :=
          List.takeWhile_append_dropWhile
        simp only [Bool.and_eq_true, Bool.not_eq_true',
          List.isEmpty_eq_false_iff, List.all_eq_true] at plain
        refine ⟨text.takeWhile (· != ':'), address.takeWhile (· != '/'),
            address.dropWhile (· != '/'), plain.1, ⟨plain.2, ?_⟩, ?_, rfl⟩
        · cases behind : address.dropWhile (· != '/') with
          | nil => exact Or.inl rfl
          | cons first rest =>
            have stops := List.head?_dropWhile_not (· != '/') address
            rw [behind] at stops
            have isSlash : first = '/' := by
              simpa using stops
            exact Or.inr ⟨rest, by rw [isSlash]⟩
        · rw [List.append_assoc, atSlash, List.append_assoc]
          rw [shape] at atColon
          exact atColon.symm
      · cases isParsed
    · cases isParsed
  · right
    rename_i notWeb
    split at isParsed
    · split at isParsed
      · cases isParsed
        refine ⟨rfl, ?_⟩
        intro isHttps
        apply notWeb
        rw [show text.takeWhile (· != ':') = httpsScheme from isHttps]
        decide
      · cases isParsed
    · cases isParsed

theorem plainReader_readsPlainPaths : ReadsPlainPaths plainReader where
  host_visible := by
    intro text parsed host isParsed hasHost
    rcases plainReader_cases isParsed with
      ⟨scheme, named, path, isHost, -, -, rfl⟩ | ⟨noHost, -⟩
    · cases hasHost
      intro character isThere
      exact (isHostCharacter_visible (isHost.2 character isThere)).1
    · rw [noHost] at hasHost
      cases hasHost
  path_behind := by
    intro root origin path isParsed isSite printed isPath
    simp only [ParsedUrl.isSiteOrigin, Bool.and_eq_true, beq_iff_eq] at isSite
    obtain ⟨scheme, host, front, isHost, isFront, rfl, rfl⟩ | ⟨-, notHttps⟩ :=
      plainReader_cases isParsed
    swap
    · exact absurd isSite.1.1.1.1.1 notHttps
    have isHttps : scheme = httpsScheme := isSite.1.1.1.1.1
    subst isHttps
    have atRoot : front = [] ∨ front = ['/'] := by
      have isRoot : (plainUrl httpsScheme host front).path = ['/'] := isSite.1.1.2
      rcases isFront.2 with rfl | ⟨behind, rfl⟩
      · exact Or.inl rfl
      · exact Or.inr isRoot
    have isPlain : PlainPath (front ++ '/' :: path) := by
      constructor
      · intro character isThere
        rcases List.mem_append.mp isThere with inFront | inPath
        · exact isFront.1 character inFront
        · rcases List.mem_cons.mp inPath with rfl | behind
          · decide
          · exact isPath character behind
      · rcases atRoot with rfl | rfl
        · exact Or.inr ⟨path, rfl⟩
        · exact Or.inr ⟨'/' :: path, rfl⟩
    refine ⟨plainUrl httpsScheme host (front ++ '/' :: path), ?_, rfl, rfl, rfl, rfl, ?_⟩
    · rw [List.append_assoc]
      exact plainReader_https isHost isPlain
    · rcases atRoot with rfl | rfl
      · rfl
      · have pieces := List.splitOn_append_cons_self_of_not_mem
            (show '/' ∉ [] from List.not_mem_nil) path
        change (('/' :: path).splitOn '/').filter (!·.isEmpty) = _
        rw [show '/' :: path = [] ++ '/' :: path from rfl, pieces]
        rfl

end Plain

/-- For a site whose origin is one word, the scan passes an accepted link that
is spelled as the redirect of the site and flags every other that is one word;
what the site prints passes both gates. -/
theorem link_gates_agree_on_site_redirects
    (url : UrlReader)
    (reads : ReadsPlainPaths url)
    (siteOrigin host : Text)
    (isOrigin : OriginOf url siteOrigin host)
    (printed : ∀ character ∈ linkRoot siteOrigin, ' ' < character)
    (oneWord : OneWord (linkRoot siteOrigin))
    (hosts : List Text)
    (named : hosts ≠ [])
    (only : ∀ trusted ∈ hosts, trusted = host) :
    (∀ text link, TrackedLink.parse url text hosts = .ok link →
      (SiteRedirect (some siteOrigin) link.asStr →
        untrackedLinksIn url link.asStr (some siteOrigin) = []) ∧
      (¬ SiteRedirect (some siteOrigin) link.asStr → OneWord link.asStr →
        untrackedLinksIn url link.asStr (some siteOrigin) = [link.asStr])) ∧
    ∀ slug,
      TrackedLink.parse url (TrackedLink.forSite siteOrigin slug).asStr hosts =
        .ok (TrackedLink.forSite siteOrigin slug) ∧
      untrackedLinksIn url (TrackedLink.forSite siteOrigin slug).asStr
        (some siteOrigin) = [] := by
  constructor
  · intro text link accepted
    constructor
    · rintro ⟨root, isRoot, slug, isPrinted⟩
      cases isRoot
      rw [isPrinted]
      exact forSite_passes isOrigin oneWord slug
    · intro otherwise isOneWord
      exact accepted_flagged accepted isOneWord otherwise
  · intro slug
    exact ⟨parse_forSite reads isOrigin printed oneWord
          (trustedHost_of_only reads isOrigin named only) slug,
        forSite_passes isOrigin oneWord slug⟩

/-- The gates agree for a site read by the plain reader. -/
theorem plain_site_gates_agree :
    (∀ text link,
      TrackedLink.parse plainReader text ["virya.music".toList] = .ok link →
      (SiteRedirect (some "https://virya.music/".toList) link.asStr →
        untrackedLinksIn plainReader link.asStr
            (some "https://virya.music/".toList) =
          []) ∧
      (¬ SiteRedirect (some "https://virya.music/".toList) link.asStr →
        OneWord link.asStr →
        untrackedLinksIn plainReader link.asStr
            (some "https://virya.music/".toList) =
          [link.asStr])) ∧
    ∀ slug,
      TrackedLink.parse plainReader
          (TrackedLink.forSite "https://virya.music/".toList slug).asStr
          ["virya.music".toList] =
        .ok (TrackedLink.forSite "https://virya.music/".toList slug) ∧
      untrackedLinksIn plainReader
          (TrackedLink.forSite "https://virya.music/".toList slug).asStr
          (some "https://virya.music/".toList) =
        [] :=
  link_gates_agree_on_site_redirects plainReader plainReader_readsPlainPaths
    "https://virya.music/".toList "virya.music".toList
    ⟨plainUrl httpsScheme "virya.music".toList [], by decide, by decide, rfl⟩
    (fun character isThere =>
      of_decide_eq_true
        (List.all_eq_true.mp
          (show (linkRoot "https://virya.music/".toList).all (' ' < ·) = true
            by decide)
          character isThere))
    (oneWord_of_all (by decide)) ["virya.music".toList] (by decide)
    (by decide)

/-- The redirect of the API is accepted and flagged, and what a site with an
apostrophe in its host prints is flagged. -/
theorem link_gates_disagree :
    (¬ ∀ url : UrlReader, ReadsPlainPaths url →
      ∀ siteOrigin host, OriginOf url siteOrigin host →
      ∀ hosts : List Text, hosts ≠ [] → (∀ trusted ∈ hosts, trusted = host) →
      ∀ text link, TrackedLink.parse url text hosts = .ok link →
        untrackedLinksIn url link.asStr (some siteOrigin) = []) ∧
    ¬ ∀ url : UrlReader, ReadsPlainPaths url →
      ∀ siteOrigin host, OriginOf url siteOrigin host →
      ∀ slug,
        untrackedLinksIn url (TrackedLink.forSite siteOrigin slug).asStr
          (some siteOrigin) = [] := by
  constructor
  · intro agree
    have passes := agree plainReader plainReader_readsPlainPaths
        "https://virya.music".toList "virya.music".toList
        ⟨plainUrl httpsScheme "virya.music".toList [], by decide, by decide, rfl⟩
        ["virya.music".toList] (by decide) (by decide)
        "https://virya.music/v1/go/site".toList
        ⟨"https://virya.music/v1/go/site".toList⟩ (by decide +kernel)
    revert passes
    decide +kernel
  · intro agree
    have passes := agree plainReader plainReader_readsPlainPaths
        "https://rock'n'roll.example".toList "rock'n'roll.example".toList
        ⟨plainUrl httpsScheme "rock'n'roll.example".toList [], by decide, by decide, rfl⟩
        ⟨"site".toList, by decide⟩
    revert passes
    decide +kernel

section DropSurge

variable {sourceKey slug : Text} {lane : String}

theorem isSlugCharacter_of_isAlphanum {character : Char}
    (alphanumeric : character.isAlphanum = true) :
    isSlugCharacter true character = true := by
  have small := toNat_lt_of_isAlphanum alphanumeric
  have table :
      ∀ code < 123, (Char.ofNat code).isAlphanum = true →
        isSlugCharacter true (Char.ofNat code) = true := by
    decide
  have entry := table character.toNat small
  rw [Char.ofNat_toNat] at entry
  exact entry alphanumeric

theorem isSlugCharacter_linkBody {character : Char}
    (isThere : character ∈ linkBody sourceKey lane.toList) :
    isSlugCharacter true character = true := by
  rcases List.mem_append.mp isThere with inKey | inDigest
  · have begins := boundedKey_prefix sourceKey lane.toList
    have isCleaned := (List.dropWhile_suffix _).subset (begins.subset inKey)
    by_cases isDash : character = '-'
    · rw [isDash]
      rfl
    · exact isSlugCharacter_of_isAlphanum (mem_cleanedKey isCleaned isDash)
  · unfold slugDigest at inDigest
    split at inDigest
    · cases inDigest
    · rcases List.mem_cons.mp inDigest with rfl | inHex
      · rfl
      · obtain ⟨digit, isDigit, rfl⟩ := List.mem_map.mp inHex
        have small := FixedWidth.lt_of_mem_digits (by decide) isDigit
        have table : ∀ digit < 16, isSlugCharacter true (Nat.digitChar digit) = true := by decide
        exact table digit small

/-- Every name the surge gives a link is one the redirect takes. -/
theorem validateSlug_of_mem_dropSurgeLinkSlug (isLane : lane ∈ dropSurgeLanes)
    (isSlug : slug ∈ dropSurgeLinkSlug sourceKey lane.toList) :
    validateSlug slug true = .ok slug := by
  have short := length_slug_le isSlug
  obtain ⟨-, rfl⟩ := mem_dropSurgeLinkSlug_iff.mp isSlug
  have lanes : ∀ lane ∈ dropSurgeLanes, lane.toList.all (isSlugCharacter true) = true := by
    decide +kernel
  have belongs :
      ∀ character ∈ slugPrefix ++ linkBody sourceKey lane.toList ++ '-' :: lane.toList,
        isSlugCharacter true character = true := by
    intro character isThere
    rw [List.append_assoc, List.mem_append, List.mem_append, List.mem_cons] at isThere
    rcases isThere with inPrefix | inBody | rfl | inLane
    · have spelled : slugPrefix.all (isSlugCharacter true) = true := by decide
      exact List.all_eq_true.mp spelled character inPrefix
    · exact isSlugCharacter_linkBody inBody
    · rfl
    · exact List.all_eq_true.mp (lanes lane isLane) character inLane
  have bytes := byteLength_of_ascii fun character isThere =>
    isSlugCharacter_lt (belongs character isThere)
  unfold validateSlug
  have begins : slugPrefix = 'd' :: "rop-".toList := by decide
  rw [begins] at bytes belongs short ⊢
  dsimp only [List.cons_append]
  rw [if_neg, if_neg (by decide), List.findIdx?_eq_none_iff.mpr]
  · intro character isThere
    rw [belongs character isThere]
    rfl
  · exact not_lt.mpr (bytes.le.trans (short.trans (by decide)))

end DropSurge

end CrowdRelay
