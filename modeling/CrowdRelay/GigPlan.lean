import Mathlib.Data.List.Sort
import CrowdRelay.ActionPayload

namespace CrowdRelay

open MachineInt

/-!
# The next show of one act in one city

What is known about a city, and the decision whether to propose a gig there.
A proposal carries the reasons it rests on and what is not known; a refusal
names what would change it.  Coordinates are doubles kept as their bits, since
nothing here computes with them.
-/

/-- A double by its bits. -/
structure F64 where
  bits : BitVec 64
  deriving DecidableEq

namespace F64

/-- The integer that orders doubles by their bits, the sign bit first. -/
def totalKey (value : F64) : Int :=
  if value.bits.toInt < 0 then -1 - (value.bits.toInt + 9223372036854775808) else value.bits.toInt

/-- The total order on bits, in which minus zero comes before zero. -/
def totalCmp (left right : F64) : Ordering := compare left.totalKey right.totalKey

/-- The bits of the value without its sign. -/
def magnitude (value : F64) : Nat := value.bits.toNat % 9223372036854775808

def isNan (value : F64) : Bool := decide (9218868437227405312 < value.magnitude)

/-- The numeric comparison, false on what is not a number. -/
def le (left right : F64) : Bool :=
  !left.isNan && !right.isNan &&
    (decide (left.totalKey ≤ right.totalKey) || (left.magnitude == 0 && right.magnitude == 0))

end F64

inductive TenantIntent where
  | unstated
  | bookingShows
  | workingARelease
  | headsDown
  deriving Repr, DecidableEq

/-- A room, as the registry and the researched sheet know it. -/
structure VenueEvidence where
  name : String
  showsLast12Months : U16
  comparableActs : U16
  capacity : Option U32
  typicalDraw : Option U32
  contactVerifiedDaysAgo : Option U16
  daysSinceLastEvent : Option U16
  hasBookingRoute : Bool
  deriving DecidableEq

/-- Somebody who books in the city, and how well they know the tenant. -/
structure PromoterRef where
  key : String
  name : String
  relationshipScore : U16
  answeredLastTime : Bool
  hasRoute : Bool
  deriving DecidableEq

structure PromoterContact where
  key : String
  name : String
  deriving DecidableEq

structure CoBillAct where
  workspace : Uuid
  name : String
  reachableHere : U32
  sharedWithTenant : U32
  audienceOverlapBasisPoints : U16
  consentedToShareBills : Bool
  deriving DecidableEq

/-- An act tied to the city that nobody has measured. -/
structure LocalAct where
  name : String
  sharedGenres : List String
  billedRooms : U16
  reachableVia : String
  deriving DecidableEq

/-- What the planner knows about one city. -/
structure CityOpportunity where
  cityId : Uuid
  city : String
  latitude : Option F64
  longitude : Option F64
  reachableFans : Option U32
  activeFans30d : U32
  monthsSinceShow : Option U16
  hasUpcomingShow : Bool
  topConversionChannel : Option String
  topConversionChannelFans : U32
  venue : Option VenueEvidence
  promoters : List PromoterRef
  coBill : List CoBillAct
  localActs : List LocalAct
  deriving DecidableEq

/-- One fact that contributed to a proposal. -/
inductive Reason where
  | comparableActsPlayedHere (count ofShows : U16)
  | reachableAudience (reachable : U32)
  | roomDraws (typicalDraw : U32)
  | neverPlayedButHasFans (reachable : U32)
  | overdueReturn (months : U16) (active30d : U32)
  | coBillAddsAudience (act : String) (addsReachable : U32)
  | warmPromoter (name : String)
  | roomIsActive (daysSinceLastEvent : U16)
  | fansConvertedHere (count : U32) (channel : String)
  deriving DecidableEq

/-- Why no proposal was made. -/
inductive GigRefusal where
  | alreadyBooked
  | noRoomOnRecord
  | noContactableRoute (venue : String)
  | roomLooksDormant (venue : String) (daysSinceLastEvent : Option U16)
  | tooFewReachable (reachable floor : U32)
  | audienceNotMeasurable
  | notWhatTheTenantIsDoing (intent : TenantIntent)
  deriving DecidableEq

/-- How many people a show could plausibly reach, and on what basis. -/
structure ReachEstimate where
  reachable : U32
  addedByCoBill : U32
  roomTypicalDraw : Option U32
  basis : String
  deriving DecidableEq

/-- The proposal. -/
structure GigPlan where
  cityId : Uuid
  city : String
  venue : String
  contact : List PromoterContact
  inviteToBill : List String
  localActs : List LocalAct
  reasons : List Reason
  reach : ReachEstimate
  fitsIntent : String
  caveats : List String
  deriving DecidableEq

def minimumReachableForAGig : U32 := 50

def dormantRoomDays : U16 := 270

def contactStaleDays : U16 := 120

def pairingOverlapCeilingBasisPoints : U16 := 6000

/-- What a willing co-bill adds here, nothing when it only splits the door. -/
def CoBillAct.contribution (act : CoBillAct) : Option U32 :=
  let adds := act.reachableHere.saturatingSub act.sharedWithTenant
  if act.consentedToShareBills = true ∧
      act.audienceOverlapBasisPoints ≤ pairingOverlapCeilingBasisPoints ∧
      adds ≠ 0 then
    some adds
  else
    none

def addedActs (acts : List CoBillAct) : List (CoBillAct × U32) :=
  acts.filterMap fun act => act.contribution.map fun adds => (act, adds)

/-- Answered first, then the warmer relationship, then by name. -/
def comparePromoters (left right : PromoterRef) : Ordering :=
  (compare right.answeredLastTime left.answeredLastTime).then
    ((compare right.relationshipScore left.relationshipScore).then (compare left.name right.name))

def rankPromoters (promoters : List PromoterRef) : List PromoterRef :=
  promoters.insertionSort fun left right =>
    (comparePromoters left right).isLE = true

/-- Promoters to write to, each key once, where it first stands. -/
def contacts : List PromoterRef → List String → List PromoterContact
  | [], _ => []
  | promoter :: rest, seenKeys =>
    if promoter.key ∈ seenKeys then
      contacts rest seenKeys
    else
      ⟨promoter.key, promoter.name⟩ :: contacts rest (promoter.key :: seenKeys)

variable (opportunity : CityOpportunity)

/-- The reason a gap between shows gives, if any. -/
def timingReason (reachableFans : U32) : List Reason :=
  match opportunity.monthsSinceShow with
  | none => [.neverPlayedButHasFans reachableFans]
  | some months =>
    if 12 ≤ months ∧ 0 < opportunity.activeFans30d then
      [.overdueReturn months opportunity.activeFans30d]
    else
      []

/-- The reason the channel that brought fans here gives, if any. -/
def conversionReason (opportunity : CityOpportunity) : List Reason :=
  match opportunity.topConversionChannel with
  | some channel =>
    if 0 < opportunity.topConversionChannelFans then
      [.fansConvertedHere opportunity.topConversionChannelFans channel]
    else
      []
  | none => []

/-- The reasons in the order a promoter weighs them. -/
def gigReasons (venue : VenueEvidence) (reachableFans : U32) (ranked : List PromoterRef) :
    List Reason :=
  (if 0 < venue.comparableActs then
    [.comparableActsPlayedHere venue.comparableActs venue.showsLast12Months]
  else
    [])
    ++ [.reachableAudience reachableFans]
    ++ (venue.typicalDraw.map Reason.roomDraws).toList
    ++ conversionReason opportunity
    ++ timingReason opportunity reachableFans
    ++ (addedActs opportunity.coBill).map (fun added => .coBillAddsAudience added.1.name added.2)
    ++ ((ranked.find? fun promoter =>
        promoter.answeredLastTime && decide (50 ≤ promoter.relationshipScore)).map
      fun warm => Reason.warmPromoter warm.name).toList
    ++ (venue.daysSinceLastEvent.map Reason.roomIsActive).toList

/-- What is not known, stated on the proposal. -/
def gigCaveats (venue : VenueEvidence) : List String :=
  (if venue.capacity = none then
    ["We do not know what " ++ venue.name
      ++ " holds, so nothing here says the room is the right size."]
  else
    [])
    ++ (if venue.typicalDraw = none then
      ["No show at this room has sold tickets through us, so its draw is "
        ++ "unmeasured rather than low."]
    else
      [])
    ++ (match venue.contactVerifiedDaysAgo with
      | none =>
        ["Nobody has confirmed the booking address works. Verify it before " ++ "writing."]
      | some days =>
        if contactStaleDays < days then
          ["The booking contact was last confirmed " ++ toString days.val
            ++ " days ago. People leave venues; check it still reaches "
            ++ "somebody."]
        else
          [])
    ++ (if venue.comparableActs = 0 then
      ["No act from your genre has played here on record. That is not a no — "
        ++ "it is the thing a promoter will ask about."]
    else
      [])

def fitsIntent : TenantIntent → String
  | .bookingShows => "You said you are booking shows. This is that."
  | .workingARelease =>
    "You said the release is the focus. A show here is a launch night "
      ++ "rather than a detour — the audience is already listening."
  | .unstated =>
    "You have not said what you are working on, so the timing here is "
      ++ "unverified. The evidence supports the city; only you know whether "
      ++ "now is the moment."
  | .headsDown => ""

def reachBasis (venue : VenueEvidence) : String :=
  match venue.typicalDraw with
  | some _ =>
    "Reachable means consented and inside the radius the fan chose. The "
      ++ "room's draw is the mean paid orders per ticketed show there, "
      ++ "across every tenant who has played it — history, not a forecast."
  | none =>
    "Reachable means consented and inside the radius the fan chose. The "
      ++ "room's own draw is unmeasured, so this is an audience estimate "
      ++ "with no venue history behind it."

/-- Decide whether to propose a gig in this city, and say why either way. -/
def planGig (intent : TenantIntent) : Except GigRefusal GigPlan :=
  if opportunity.hasUpcomingShow = true then
    .error .alreadyBooked
  else if intent = .headsDown then
    .error (.notWhatTheTenantIsDoing intent)
  else
    match opportunity.reachableFans with
    | none => .error .audienceNotMeasurable
    | some reachableFans =>
      if reachableFans < minimumReachableForAGig then
        .error (.tooFewReachable reachableFans minimumReachableForAGig)
      else
        match opportunity.venue with
        | none => .error .noRoomOnRecord
        | some venue =>
          let dormant :=
            venue.daysSinceLastEvent.all fun days =>
              decide (dormantRoomDays < days)
          let contactable := opportunity.promoters.filter (·.hasRoute)
          if dormant = true then
            .error (.roomLooksDormant venue.name venue.daysSinceLastEvent)
          else if venue.hasBookingRoute = false ∧ contactable = [] then
            .error (.noContactableRoute venue.name)
          else
            let ranked := rankPromoters contactable
            .ok {
              cityId := opportunity.cityId
              city := opportunity.city
              venue := venue.name
              contact := contacts ranked []
              inviteToBill :=
                (addedActs opportunity.coBill).map fun added =>
                  added.1.name
              localActs := opportunity.localActs
              reasons := gigReasons opportunity venue reachableFans ranked
              reach := {
                reachable := reachableFans
                addedByCoBill :=
                  (addedActs opportunity.coBill).foldl
                    (fun total added => total.saturatingAdd added.2) 0
                roomTypicalDraw := venue.typicalDraw
                basis := reachBasis venue
              }
              fitsIntent := fitsIntent intent
              caveats := gigCaveats venue
            }

/-!
## One letter for each inbox

The promoters are walked in the order of their rank, so a key goes to the
first ranked of those who share it.
-/

instance transCmpPromoters : Std.TransCmp comparePromoters :=
  inferInstanceAs
    (Std.TransCmp
      (compareLex (fun left right => compareOn PromoterRef.answeredLastTime right left)
        (compareLex (fun left right => compareOn PromoterRef.relationshipScore right left)
          (compareOn PromoterRef.name))))

namespace PromoterRef

/-- The promoter is written to no later than the other one. -/
abbrev Ahead (promoter other : PromoterRef) : Prop := (comparePromoters promoter other).isLE = true

/-- Nobody who shares the promoter's key is written to before. -/
def FirstOfKey (promoters : List PromoterRef) (promoter : PromoterRef) : Prop :=
  promoter ∈ promoters ∧ ∀ other ∈ promoters, other.key = promoter.key → promoter.Ahead other

theorem ahead_antisymm {left right : PromoterRef} (ahead : left.Ahead right)
    (behind : right.Ahead left) :
    left.name = right.name := by
  have same := Std.OrientedCmp.isLE_antisymm ahead behind
  simp only [comparePromoters, Ordering.then_eq_eq] at same
  exact Std.LawfulEqCmp.eq_of_compare same.2.2

theorem rankPromoters_ahead (promoters : List PromoterRef) :
    (rankPromoters promoters).Pairwise Ahead := by
  have isTotal : Std.Total Ahead :=
    ⟨fun left right => by
      have turned : comparePromoters right left = (comparePromoters left right).swap :=
        Std.OrientedCmp.eq_swap
      simp only [Ahead, turned]
      cases comparePromoters left right <;> simp⟩
  have isTrans : IsTrans PromoterRef Ahead := ⟨fun _ _ _ => Std.TransCmp.isLE_trans⟩
  exact List.pairwise_insertionSort Ahead _

end PromoterRef

section Contacts

open PromoterRef

variable {ranked : List PromoterRef}

theorem mem_contacts_iff {seenKeys : List String} {contact : PromoterContact} :
    contact ∈ contacts ranked seenKeys ↔
      contact.key ∉ seenKeys ∧
        ∃ promoter, ranked.find? (·.key == contact.key) = some promoter ∧
          contact = ⟨promoter.key, promoter.name⟩ := by
  fun_induction contacts ranked seenKeys with
  | case1 => simp
  | case2 promoter rest seenKeys seen inductionHypothesis =>
    rw [inductionHypothesis]
    refine and_congr_right fun fresh => ?_
    have isOther : promoter.key ≠ contact.key := fun same => fresh (same ▸ seen)
    simp [isOther]
  | case3 promoter rest seenKeys fresh inductionHypothesis =>
    rw [List.mem_cons, inductionHypothesis]
    by_cases same : promoter.key = contact.key
    · have isFresh : contact.key ∉ seenKeys := same ▸ fresh
      simp [same, isFresh]
    · have isOther : contact ≠ ⟨promoter.key, promoter.name⟩ := fun equal => same (equal ▸ rfl)
      simp [same, Ne.symm same, isOther]

theorem contacts_keys_nodup (ranked : List PromoterRef) (seenKeys : List String) :
    ((contacts ranked seenKeys).map PromoterContact.key).Nodup := by
  fun_induction contacts ranked seenKeys with
  | case1 => exact List.nodup_nil
  | case2 promoter rest seenKeys seen inductionHypothesis => exact inductionHypothesis
  | case3 promoter rest seenKeys fresh inductionHypothesis =>
    refine List.nodup_cons.mpr ⟨?_, inductionHypothesis⟩
    intro again
    obtain ⟨contact, listed, sameKey⟩ := List.mem_map.mp again
    exact (mem_contacts_iff.mp listed).1 (sameKey ▸ List.mem_cons_self)

theorem firstOfKey_of_find (inOrder : ranked.Pairwise Ahead) {key : String}
    {promoter : PromoterRef} (found : ranked.find? (·.key == key) = some promoter) :
    promoter.key = key ∧ FirstOfKey ranked promoter := by
  obtain ⟨isKey, before, after, split, others⟩ := List.find?_eq_some_iff_append.mp found
  refine ⟨by simpa using isKey, List.mem_of_find?_eq_some found, ?_⟩
  subst split
  intro other isOther sameKey
  obtain isBefore | isAfter := List.mem_append.mp isOther
  · have notKey := others other isBefore
    rw [sameKey, isKey] at notKey
    cases notKey
  · obtain rfl | later := List.mem_cons.mp isAfter
    · exact Std.ReflCmp.isLE_rfl
    · exact (List.pairwise_cons.mp (List.pairwise_append.mp inOrder).2.1).1 other later

theorem mem_contacts_iff_first (inOrder : ranked.Pairwise Ahead) (contact : PromoterContact) :
    contact ∈ contacts ranked [] ↔
      ∃ promoter, FirstOfKey ranked promoter ∧ contact = ⟨promoter.key, promoter.name⟩ := by
  rw [mem_contacts_iff]
  constructor
  · rintro ⟨_, promoter, found, isContact⟩
    exact ⟨promoter, (firstOfKey_of_find inOrder found).2, isContact⟩
  · rintro ⟨promoter, isFirst, rfl⟩
    have isSome : (ranked.find? (·.key == promoter.key)).isSome := by
      rw [List.find?_isSome]
      exact ⟨promoter, isFirst.1, beq_self_eq_true _⟩
    obtain ⟨best, found⟩ := Option.isSome_iff_exists.mp isSome
    obtain ⟨sameKey, bestFirst⟩ := firstOfKey_of_find inOrder found
    have sameName := ahead_antisymm (bestFirst.2 promoter isFirst.1 sameKey.symm)
      (isFirst.2 best bestFirst.1 sameKey)
    refine ⟨List.not_mem_nil, best, found, ?_⟩
    rw [sameKey, sameName]

theorem contacts_eq_nil (nobody : contacts ranked [] = []) : ranked = [] := by
  cases ranked with
  | nil => rfl
  | cons promoter rest => simp [contacts] at nobody

variable {opportunity} {intent : TenantIntent} {plan : GigPlan}

theorem planGig_contact (planned : planGig opportunity intent = .ok plan) :
    plan.contact = contacts (rankPromoters (opportunity.promoters.filter (·.hasRoute))) [] ∧
      (opportunity.promoters.filter (·.hasRoute) = [] →
        opportunity.venue.any (·.hasBookingRoute) = true) := by
  unfold planGig at planned
  split at planned <;> try contradiction
  split at planned <;> try contradiction
  split at planned <;> try contradiction
  split at planned <;> try contradiction
  split at planned <;> try contradiction
  rename_i venue isVenue
  dsimp only at planned
  split at planned <;> try contradiction
  split at planned <;> try contradiction
  rename_i routed
  cases planned
  refine ⟨rfl, fun noPromoter => ?_⟩
  rw [isVenue, Option.any_some]
  by_contra noRoute
  exact routed ⟨Bool.not_eq_true _ ▸ noRoute, noPromoter⟩

/-- A proposal writes to each inbox once, in the name of the first ranked of
the promoters there, and to nobody only where the room itself takes bookings. -/
theorem planGig_writes_once (opportunity : CityOpportunity) (intent : TenantIntent)
    (planned : planGig opportunity intent = .ok plan) :
    (plan.contact.map PromoterContact.key).Nodup ∧
      (∀ contact, contact ∈ plan.contact ↔
        ∃ promoter, FirstOfKey (opportunity.promoters.filter (·.hasRoute)) promoter ∧
          contact = ⟨promoter.key, promoter.name⟩) ∧
      (plan.contact = [] → opportunity.venue.any (·.hasBookingRoute) = true) := by
  obtain ⟨isContact, bookedByRoom⟩ := planGig_contact planned
  rw [isContact]
  refine ⟨contacts_keys_nodup _ _, ?_, ?_⟩
  · intro contact
    rw [mem_contacts_iff_first (rankPromoters_ahead _)]
    simp only [FirstOfKey, rankPromoters, (List.perm_insertionSort _ _).mem_iff]
  · intro nobody
    have unranked := (List.perm_insertionSort _ _).symm.trans (.of_eq (contacts_eq_nil nobody))
    exact bookedByRoom (List.perm_nil.mp unranked)

end Contacts

/-- Two who answer at one address: the warmer one stands second on record. -/
def sharedInbox : CityOpportunity where
  cityId := 1
  city := "Ghent"
  latitude := none
  longitude := none
  reachableFans := some 80
  activeFans30d := 40
  monthsSinceShow := none
  hasUpcomingShow := false
  topConversionChannel := none
  topConversionChannelFans := 0
  venue := some ⟨"Cellar", 4, 2, none, none, none, some 20, false⟩
  promoters := [⟨"booking", "Ada", 10, false, true⟩, ⟨"booking", "Ben", 60, true, true⟩]
  coBill := []
  localActs := []

theorem sharedInbox_written_once :
    ∃ plan, planGig sharedInbox .unstated = .ok plan ∧
      (plan.contact.map PromoterContact.key).Nodup ∧
      plan.contact = [⟨"booking", "Ben"⟩] :=
  ⟨_, rfl, (planGig_writes_once sharedInbox .unstated rfl).1, by decide +kernel⟩

end CrowdRelay
