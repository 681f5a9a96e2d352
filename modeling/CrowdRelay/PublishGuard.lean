import Mathlib.Algebra.Order.Ring.Rat
import Mathlib.Data.Finset.Insert
import CrowdRelay.TextScan

namespace CrowdRelay

open TextScan

/-!
# What may be published unread

The review every drafted post goes through before it is published under the
tenant's name without a person having read it.
-/

abbrev Text := List Char

/-- The parts of the review that rest on large tables: full lower-casing, the
classes of letters, and the digest of a text's UTF-8 encoding. -/
structure TextTables where
  toLowercase : Text → Text
  isAlphabetic : Char → Bool
  isUppercase : Char → Bool
  sha256 : Text → List UInt8

inductive PublishChannel where
  | telegram
  | discord
  | instagram
  | social
  | community
  deriving Repr, DecidableEq

namespace PublishChannel

def minimumCharacters : PublishChannel → Nat
  | .telegram | .discord | .instagram | .community => 40
  | .social => 20

def maximumCharacters : PublishChannel → Nat
  | .telegram => 4000
  | .discord => 1900
  | .instagram => 2100
  | .social => 280
  | .community => 2000

/-- One link for the transport and one for the draft, on every channel. -/
def maximumLinks : PublishChannel → Nat := fun _ => 2

end PublishChannel

/-- Why a post is held. -/
inductive HoldReason where
  | empty
  | tooShort
  | tooLong
  | unapprovedLink
  | tooManyLinks
  | unfilledTemplate
  | contactDetails
  | excessiveCapitals
  | excessivePunctuation
  | duplicateOfRecentPost
  deriving Repr, DecidableEq

inductive PublishVerdict where
  | publish
  | holdForHuman (reason : HoldReason)
  deriving Repr, DecidableEq

/-- What the review knows beyond the text. -/
structure PublishContext where
  channel : PublishChannel
  approvedOrigins : List Text
  approvedLinks : List Text
  recentContentHashes : Finset Text
  dedupeText : Option Text

/-- What a link begins with. -/
def schemes : List Text := ["https://".toList, "http://".toList, "www.".toList]

/-- Where a link stops. -/
def isTerminator (character : Char) : Bool :=
  isWhitespace character
    || decide (character ∈ [')', ']', '>', '"', '\'', '\x60', ',', ';'])

/-- Sentence punctuation, which does not belong to the link it follows. -/
def isSentenceEnd (character : Char) : Bool := decide (character ∈ ['.', '!', '?', ':'])

structure ExtractedLink where
  start : Nat
  link : Text
  deriving Repr, DecidableEq

/-- A text from a place up to where a link there stops. -/
def linkRun (body : Text) (start : Nat) : Text := (body.drop start).takeWhile (!isTerminator ·)

/-- The link at a place, without the sentence punctuation behind it. -/
def linkAt (body : Text) (start : Nat) : Text := (linkRun body start).rdropWhile isSentenceEnd

/-- The links from a place on.  The place moves on with every link, so the
length of the text is fuel enough. -/
def extractLinksFrom (body : Text) : Nat → Nat → List ExtractedLink
  | 0, _ => []
  | fuel + 1, cursor =>
    match findFirst schemes (body.drop cursor) with
    | none => []
    | some offset =>
      let start := cursor + offset
      let stop := start + (linkRun body start).length
      let later := extractLinksFrom body fuel (max stop (start + 1))
      if (linkAt body start).isEmpty then later else ⟨start, linkAt body start⟩ :: later

/-- Every link in a text, wherever in a word it begins. -/
def extractLinks (body : Text) : List ExtractedLink := extractLinksFrom body (body.length + 1) 0

def withoutLinks (links : List ExtractedLink) (body : Text) : Text :=
  links.foldl (fun words extracted => replace extracted.link [' '] words) body

def trimSlashes (link : Text) : Text := link.rdropWhile (· == '/')

/-- One of the exact links the tenant's own records publish. -/
def matchesApprovedLink (link approved : Text) : Bool :=
  !(trimSlashes (trim approved)).isEmpty && trimSlashes link == trimSlashes (trim approved)

/-- What may follow an approved origin: the end of the host, or nothing. -/
def endsAtHostBoundary : Text → Bool
  | [] => true
  | character :: _ => decide (character ∈ ['/', '?', '#'])

def matchesApprovedOrigin (link origin : Text) : Bool :=
  !(trimSlashes origin).isEmpty
    && decide (trimSlashes origin <+: link)
    && endsAtHostBoundary (link.drop (trimSlashes origin).length)

def isApproved (context : PublishContext) (link : Text) : Bool :=
  context.approvedLinks.any (matchesApprovedLink link)
    || context.approvedOrigins.any (matchesApprovedOrigin link)

/-- Scaffolding that must not survive into a post. -/
def templateMarkers : List Text :=
  ["\x7b\x7b".toList, "\x7d\x7d".toList, "[insert".toList, "[your".toList,
    "[band".toList, "[link]".toList, "todo:".toList, "tbd".toList,
    "lorem ipsum".toList, "as an ai".toList, "i cannot".toList,
    "placeholder".toList]

/-- An `@` with text before it and a dotted domain after it. -/
def looksLikeEmail (word : Text) : Bool :=
  let token := (word.dropWhile (!·.isAlphanum)).rdropWhile (!·.isAlphanum)
  match token.dropWhile (· != '@') with
  | [] => false
  | _ :: domain =>
    !(token.takeWhile (· != '@')).isEmpty
      && decide ('.' ∈ domain)
      && domain.getLast? != some '.'

/-- Nine digits with nothing but the separators of a phone number between
them. -/
def hasDigitRun : Nat → Text → Bool
  | _, [] => false
  | run, character :: rest =>
    if character.isDigit then
      decide (9 ≤ run + 1) || hasDigitRun (run + 1) rest
    else if character ∈ [' ', '-', '(', ')', '+', '.'] then
      hasDigitRun run rest
    else
      hasDigitRun 0 rest

def containsContactDetails (body : Text) : Bool :=
  (splitWhitespace body).any looksLikeEmail || hasDigitRun 0 body

def capitalRatio (tables : TextTables) (body : Text) : ℚ :=
  let letters := body.countP tables.isAlphabetic
  if letters = 0 then 0 else (body.countP tables.isUppercase : ℚ) / letters

/-- More than three of one mark in a row, `!` or `?`. -/
def hasPunctuationFloodFrom : Nat → Char → Text → Bool
  | _, _, [] => false
  | run, last, character :: rest =>
    if character ∈ ['!', '?'] then
      let run := if character = last then run + 1 else 1
      decide (3 < run) || hasPunctuationFloodFrom run character rest
    else
      hasPunctuationFloodFrom 0 character rest

def hasPunctuationFlood (body : Text) : Bool := hasPunctuationFloodFrom 0 '\x00' body

/-- A byte as two hexadecimal digits. -/
def hexByte (byte : UInt8) : Text :=
  [Nat.digitChar (byte.toNat / 16), Nat.digitChar (byte.toNat % 16)]

/-- The identity of a post's text, spaces and letter case apart. -/
def contentHash (tables : TextTables) (body : Text) : Text :=
  (tables.sha256 (tables.toLowercase (normalizeSpaces body))).flatMap hexByte

def reviewOutboundPost (tables : TextTables) (body : Text)
    (context : PublishContext) : PublishVerdict :=
  let trimmed := trim body
  let substantiveBasis := context.dedupeText.getD trimmed
  let substantive := normalizeSpaces (withoutLinks (extractLinks substantiveBasis) substantiveBasis)
  let links := extractLinks trimmed
  if trimmed.isEmpty then
    .holdForHuman .empty
  else if substantive.length < context.channel.minimumCharacters then
    .holdForHuman .tooShort
  else if context.channel.maximumCharacters < trimmed.length then
    .holdForHuman .tooLong
  else if templateMarkers.any
      (contains · (tables.toLowercase trimmed)) then
    .holdForHuman .unfilledTemplate
  else if context.channel.maximumLinks < links.length then
    .holdForHuman .tooManyLinks
  else if links.any (fun extracted => !isApproved context extracted.link) then
    .holdForHuman .unapprovedLink
  else if containsContactDetails (withoutLinks links trimmed) then
    .holdForHuman .contactDetails
  else if 40 < trimmed.length ∧ 1 / 2 < capitalRatio tables trimmed then
    .holdForHuman .excessiveCapitals
  else if hasPunctuationFlood trimmed then
    .holdForHuman .excessivePunctuation
  else if contentHash tables (context.dedupeText.getD trimmed) ∈
      context.recentContentHashes then
    .holdForHuman .duplicateOfRecentPost
  else
    .publish

end CrowdRelay
