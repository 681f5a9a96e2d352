import CrowdRelay.DropLinks

namespace CrowdRelay

/-!
# Validated slugs

The names links, cities and events are reached under.  A slug keeps the text it
was read from, so reading it again gives the same slug.
-/

/-- The most bytes a slug may take. -/
def maxSlugLength : Nat := 128

inductive SlugError where
  | empty
  | tooLong (max : Nat)
  | invalidStart
  | invalidCharacter (index : Nat)
  deriving Repr, DecidableEq

def isSlugAlphanumeric (allowUppercase : Bool) (character : Char) : Bool :=
  character.isDigit || character.isLower
    || (allowUppercase && character.isUpper)

def isSlugCharacter (allowUppercase : Bool) (character : Char) : Bool :=
  isSlugAlphanumeric allowUppercase character
    || character == '_' || character == '-'

/-- The text itself, where it is a slug.  Up to the first character that does
not belong every character takes one byte, so its place is its byte. -/
def validateSlug (value : Text) (allowUppercase : Bool) : Except SlugError Text :=
  match value with
  | [] => .error .empty
  | first :: _ =>
    if maxSlugLength < byteLength value then
      .error (.tooLong maxSlugLength)
    else if !isSlugAlphanumeric allowUppercase first then
      .error .invalidStart
    else
      match value.findIdx? (!isSlugCharacter allowUppercase ·) with
      | some index => .error (.invalidCharacter index)
      | none => .ok value

section Validation

variable {value slug : Text} {allowUppercase : Bool}

theorem validateSlug_eq_ok (isSlug : validateSlug value allowUppercase = .ok slug) :
    slug = value ∧ value ≠ [] ∧
      ∀ character ∈ value, isSlugCharacter allowUppercase character = true := by
  unfold validateSlug at isSlug
  split at isSlug
  · cases isSlug
  · split_ifs at isSlug
    split at isSlug
    · cases isSlug
    · rename_i allBelong
      injection isSlug with isValue
      refine ⟨isValue.symm, List.cons_ne_nil _ _, ?_⟩
      intro character isThere
      simpa using List.findIdx?_eq_none_iff.mp allBelong character isThere

end Validation

structure SmartLinkSlug where
  asStr : Text
  valid : validateSlug asStr true = .ok asStr
  deriving DecidableEq

namespace SmartLinkSlug

def parse (value : Text) : Except SlugError SmartLinkSlug :=
  match valid : validateSlug value true with
  | .error refusal => .error refusal
  | .ok slug => .ok ⟨slug, (validateSlug_eq_ok valid).1 ▸ valid⟩

variable {value : Text} {slug : SmartLinkSlug}

theorem parse_eq_ok_iff : parse value = .ok slug ↔ value = slug.asStr := by
  constructor
  · intro isSlug
    unfold parse at isSlug
    split at isSlug
    · cases isSlug
    · rename_i text valid
      injection isSlug with isSlug
      rw [← isSlug]
      exact (validateSlug_eq_ok valid).1.symm
  · rintro rfl
    unfold parse
    split
    · rename_i refusal invalid
      rw [slug.valid] at invalid
      cases invalid
    · rename_i text valid
      congr
      exact (validateSlug_eq_ok valid).1

theorem parse_asStr (slug : SmartLinkSlug) : parse slug.asStr = .ok slug := parse_eq_ok_iff.mpr rfl

theorem asStr_ne_nil (slug : SmartLinkSlug) : slug.asStr ≠ [] := (validateSlug_eq_ok slug.valid).2.1

theorem isSlugCharacter_of_mem (slug : SmartLinkSlug) (character : Char)
    (isThere : character ∈ slug.asStr) :
    isSlugCharacter true character = true :=
  (validateSlug_eq_ok slug.valid).2.2 character isThere

end SmartLinkSlug

open TextScan

/-!
## Tracked links

Every link of a letter passes through the tenant's own redirect, which records
the click.  A link is checked twice: when it is composed, by what it reads as,
and when the letter is sent, by how it is spelled.  Reading an absolute URL is
left to a reader the definitions take.
-/

/-- What is read out of an absolute URL. -/
structure ParsedUrl where
  scheme : Text
  username : Text
  password : Option Text
  host : Option Text
  path : Text
  query : Option Text
  fragment : Option Text
  deriving Repr, DecidableEq

/-- Reads a text as an absolute URL, where it is one. -/
abbrev UrlReader := Text → Option ParsedUrl

def httpScheme : Text := "http".toList

def httpsScheme : Text := "https".toList

/-- A full URL, ready to print in a letter. -/
structure TrackedLink where
  asStr : Text
  deriving Repr, DecidableEq

inductive TrackedLinkRefusal where
  | notAbsoluteHttps
  | foreignHost
  | notRedirectPath
  | badSlug
  deriving Repr, DecidableEq

namespace ParsedUrl

/-- The parts of a path that begins with a slash. -/
def pathSegments (parsed : ParsedUrl) : Option (List Text) :=
  match parsed.path with
  | '/' :: behind => some (behind.splitOn '/')
  | _ => none

def visibleSegments (parsed : ParsedUrl) : List Text :=
  (parsed.pathSegments.getD []).filter (!·.isEmpty)

end ParsedUrl

/-- The last segment of a redirect, the site's or the API's. -/
def redirectSlug : List Text → Option Text
  | [['l'], slug] => some slug
  | [['v', '1'], ['g', 'o'], slug] => some slug
  | _ => none

/-- The same host, letter case of ASCII letters apart. -/
def eqIgnoreAsciiCase (left right : Text) : Bool := left.map Char.toLower == right.map Char.toLower

/-- The root of the tenant's site as it is compared and printed. -/
def linkRoot (siteOrigin : Text) : Text := trimSlashes (trim siteOrigin)

/-- The site's redirect up to the slug. -/
def redirectPrefix (root : Text) : Text := root ++ "/l/".toList

namespace TrackedLink

/-- Accepts a redirect through one of the trusted hosts. -/
def parse (url : UrlReader) (text : Text)
    (trustedHosts : List Text) : Except TrackedLinkRefusal TrackedLink :=
  let trimmed := trim text
  match url trimmed with
  | none => .error .notAbsoluteHttps
  | some parsed =>
    if parsed.scheme ≠ httpsScheme then
      .error .notAbsoluteHttps
    else
      match parsed.host with
      | none => .error .foreignHost
      | some host =>
        if !trustedHosts.any
            (fun trusted => eqIgnoreAsciiCase host (trim trusted)) then
          .error .foreignHost
        else if parsed.query.isSome || parsed.fragment.isSome then
          .error .notRedirectPath
        else
          match redirectSlug parsed.visibleSegments with
          | none => .error .notRedirectPath
          | some slug =>
            match SmartLinkSlug.parse slug with
            | .error _ => .error .badSlug
            | .ok _ => .ok ⟨trimmed⟩

/-- The link of the site's own redirect. -/
def forSite (siteOrigin : Text) (slug : SmartLinkSlug) : TrackedLink :=
  ⟨redirectPrefix (linkRoot siteOrigin) ++ slug.asStr⟩

end TrackedLink

/-- What the words of a letter are parted by. -/
def isLinkBreak (character : Char) : Bool :=
  isWhitespace character
    || ['"', '\'', '<', '>', '(', ')', '[', ']'].contains character

/-- A word that reads as an `http` or `https` URL with a host. -/
def isLetterLink (url : UrlReader) (word : Text) : Bool :=
  match url word with
  | none => false
  | some parsed =>
    [httpScheme, httpsScheme].contains parsed.scheme && parsed.host.isSome

def letterLinks (url : UrlReader) (text : Text) : List Text :=
  (text.splitOnP isLinkBreak).filter (isLetterLink url)

/-- An origin a link may be compared with. -/
def ParsedUrl.isSiteOrigin (origin : ParsedUrl) : Bool :=
  origin.scheme == httpsScheme
    && origin.username.isEmpty
    && origin.password.isNone
    && origin.path == ['/']
    && origin.query.isNone
    && origin.fragment.isNone

variable (url : UrlReader)

def trackedSiteSlug (token : Text)
    (siteRoot : Option Text) : Option Text := do
  let root := linkRoot (← siteRoot)
  let origin ← url root
  if !origin.isSiteOrigin then
    none
  else
    let slug ← (redirectPrefix root).isPrefixOf? token
    match SmartLinkSlug.parse slug with
    | .error _ => none
    | .ok slug => some slug.asStr

variable (text : Text) (siteRoot : Option Text)

/-- The links of a letter that are not the site's redirect. -/
def untrackedLinksIn : List Text :=
  (letterLinks url text).filter fun token => (trackedSiteSlug url token siteRoot).isNone

def trackedSiteLinkSlugsIn : Option (List Text) :=
  (letterLinks url text).mapM fun token => trackedSiteSlug url token siteRoot

section Composing

variable {url : UrlReader} {text : Text} {hosts : List Text} {link : TrackedLink}

/-- A host a link may go through. -/
def TrustedHost (hosts : List Text) (host : Text) : Prop :=
  ∃ trusted ∈ hosts, eqIgnoreAsciiCase host (trim trusted) = true

structure ReadsAsRedirect
    (hosts : List Text)
    (parsed : ParsedUrl) : Prop where
  https : parsed.scheme = httpsScheme
  trusted : ∃ host, parsed.host = some host ∧ TrustedHost hosts host
  noQuery : parsed.query = none
  noFragment : parsed.fragment = none
  redirects :
    ∃ slug : SmartLinkSlug,
      redirectSlug parsed.visibleSegments = some slug.asStr

/-- Accepted is what reads as a redirect, and it is kept as it was spelled. -/
theorem TrackedLink.parse_eq_ok_iff :
    TrackedLink.parse url text hosts = .ok link ↔
      link.asStr = trim text ∧
      ∃ parsed, url (trim text) = some parsed ∧ ReadsAsRedirect hosts parsed := by
  constructor
  · intro accepted
    unfold TrackedLink.parse at accepted
    dsimp only at accepted
    split at accepted
    · cases accepted
    rename_i parsed isParsed
    split at accepted
    · cases accepted
    rename_i isHttps
    split at accepted
    · cases accepted
    rename_i host hasHost
    split at accepted
    · cases accepted
    rename_i trusted
    split at accepted
    · cases accepted
    rename_i quiet
    split at accepted
    · cases accepted
    rename_i segment isRedirect
    split at accepted
    · cases accepted
    rename_i slug isSlug
    injection accepted with isLink
    rw [Bool.not_eq_true', Bool.not_eq_false, List.any_eq_true] at trusted
    rw [Bool.or_eq_true, not_or, Bool.not_eq_true, Bool.not_eq_true,
      Option.isSome_eq_false_iff, Option.isSome_eq_false_iff,
      Option.isNone_iff_eq_none, Option.isNone_iff_eq_none] at quiet
    rw [SmartLinkSlug.parse_eq_ok_iff.mp isSlug] at isRedirect
    exact ⟨by rw [← isLink], parsed, isParsed,
        { https := not_not.mp isHttps
          trusted := ⟨host, hasHost, trusted⟩
          noQuery := quiet.1
          noFragment := quiet.2
          redirects := ⟨slug, isRedirect⟩ }⟩
  · rintro ⟨isLink, parsed, isParsed, reads⟩
    obtain ⟨host, hasHost, trusted⟩ := reads.trusted
    obtain ⟨slug, isRedirect⟩ := reads.redirects
    have isTrusted : hosts.any (fun trusted => eqIgnoreAsciiCase host (trim trusted)) = true :=
      List.any_eq_true.mpr trusted
    have isPrinted : (⟨trim text⟩ : TrackedLink) = link := by
      rw [← isLink]
    unfold TrackedLink.parse
    simp only [isParsed, reads.https, hasHost, isTrusted, reads.noQuery,
      reads.noFragment, isRedirect, SmartLinkSlug.parse_asStr, isPrinted,
      ne_eq, not_true_eq_false, if_false, Bool.not_true, Option.isSome_none,
      Bool.or_self, Bool.false_eq_true]

end Composing

section Sending

variable {url : UrlReader} {text word : Text} {siteRoot : Option Text}

/-- A word that reads as a link to follow. -/
def WebLink (url : UrlReader) (word : Text) : Prop :=
  ∃ parsed, url word = some parsed ∧
    (parsed.scheme = httpScheme ∨ parsed.scheme = httpsScheme) ∧
    parsed.host.isSome

def SiteRedirect (siteRoot : Option Text) (word : Text) : Prop :=
  ∃ root ∈ siteRoot, ∃ slug : SmartLinkSlug, word = (TrackedLink.forSite root slug).asStr

/-- The site has an origin links can be compared with. -/
def Comparable (url : UrlReader) (siteRoot : Option Text) : Prop :=
  ∃ root ∈ siteRoot, ∃ origin, url (linkRoot root) = some origin ∧ origin.isSiteOrigin = true

theorem isLetterLink_iff : isLetterLink url word = true ↔ WebLink url word := by
  unfold isLetterLink WebLink
  cases url word with
  | none => simp
  | some parsed => simp [Bool.and_eq_true]

/-- A link is tracked exactly when it is spelled as the redirect of a site it
can be compared with. -/
theorem trackedSiteSlug_isSome_iff :
    (trackedSiteSlug url word siteRoot).isSome = true ↔
      Comparable url siteRoot ∧ SiteRedirect siteRoot word := by
  cases siteRoot with
  | none => simp [trackedSiteSlug, Comparable]
  | some root =>
    simp only [trackedSiteSlug, Comparable, SiteRedirect, Option.mem_def,
      Option.some.injEq, exists_eq_left', Option.bind_eq_bind,
      Option.bind_some]
    cases isOrigin : url (linkRoot root) with
    | none => simp
    | some origin =>
      simp only [Option.bind_some, Option.some.injEq, exists_eq_left']
      cases comparable : origin.isSiteOrigin with
      | false => simp
      | true =>
        simp only [Bool.not_true, Bool.false_eq_true, if_false, true_and]
        constructor
        · intro isTracked
          obtain ⟨found, isFound⟩ := Option.isSome_iff_exists.mp isTracked
          obtain ⟨rest, isRest, inRest⟩ := Option.bind_eq_some_iff.mp isFound
          rw [List.isPrefixOf?_eq_some_iff_append_eq] at isRest
          split at inRest
          · cases inRest
          · rename_i slug isSlug
            rw [SmartLinkSlug.parse_eq_ok_iff] at isSlug
            exact ⟨slug, by rw [← isRest, isSlug]; rfl⟩
        · rintro ⟨slug, rfl⟩
          have isRest :
              (redirectPrefix (linkRoot root)).isPrefixOf? (TrackedLink.forSite root slug).asStr =
                some slug.asStr :=
            List.isPrefixOf?_eq_some_iff_append_eq.mpr rfl
          rw [isRest, Option.bind_some, SmartLinkSlug.parse_asStr]
          rfl

theorem untrackedLinksIn_eq_nil_iff :
    untrackedLinksIn url text siteRoot = [] ↔
      ∀ word ∈ text.splitOnP isLinkBreak, WebLink url word →
        Comparable url siteRoot ∧ SiteRedirect siteRoot word := by
  unfold untrackedLinksIn letterLinks
  rw [List.filter_eq_nil_iff]
  constructor
  · intro allTracked word isWord isLink
    have isTracked := allTracked word (List.mem_filter.mpr ⟨isWord, isLetterLink_iff.mpr isLink⟩)
    rw [Bool.not_eq_true, Option.isNone_eq_false_iff] at isTracked
    exact trackedSiteSlug_isSome_iff.mp isTracked
  · intro allTracked word isLink
    obtain ⟨isWord, reads⟩ := List.mem_filter.mp isLink
    rw [Bool.not_eq_true, Option.isNone_eq_false_iff]
    exact trackedSiteSlug_isSome_iff.mpr (allTracked word isWord (isLetterLink_iff.mp reads))

end Sending

end CrowdRelay
