import Mathlib.Data.Prod.Lex
import Mathlib.Data.String.Basic
import Mathlib.Tactic.Linarith
import CrowdRelay.ClearDays
import CrowdRelay.DecisionLedger
import CrowdRelay.Medians
import CrowdRelay.RosterPlan

namespace CrowdRelay

open ClearDays MachineInt Medians Ranged

/-!
# The window of a booking proposal

The dates a proposal asks for: how far ahead the room books, the first day that
is clear of the band's own shows, and how often the room runs shows.  Without a
show of the room and without a confirmed show near it no window is proposed.
-/

/-- A calendar day, counted from the epoch. -/
abbrev Date := Int

/-- The day of an instant. -/
def dateOf (atTime : OffsetDateTime) : Date := atTime / nanosPerDay

def wholeDaysTowardZero (duration : Int) : Int := duration.tdiv nanosPerDay

namespace F64

def roundedMagnitude (value : F64) : Nat :=
  let exponent := value.magnitude / 2 ^ 52
  let mantissa := value.magnitude % 2 ^ 52 + (if exponent = 0 then 0 else 2 ^ 52)
  if 1075 ≤ exponent then
    mantissa * 2 ^ (exponent - 1075)
  else
    (mantissa + 2 ^ (1074 - exponent)) / 2 ^ (1075 - exponent)

/-- The value rounded away from zero on halves, in the range of an integer. -/
def roundToI64 (value : F64) : I64 :=
  if value.isNan then
    0
  else if value.bits.toInt < 0 then
    saturate (-value.roundedMagnitude)
  else
    saturate value.roundedMagnitude

end F64

def fallbackLeadDays : Int := 21
def fallbackSpanDays : Int := 30
def collisionGuardDays : Int := 3
def minSpanDays : Int := 14
def maxSpanDays : Int := 90
def routingDistanceKm : F64 := ⟨0x4079000000000000⟩
def adjacentWindowDays : Int := 5
def minRoomSample : Nat := 2

structure BookingWindowOwnShow where
  startsAt : OffsetDateTime
  slug : String
  coords : Option Point
  confirmed : Bool
  deriving DecidableEq

structure BookingWindowInputs where
  /-- When a show of the room started and when it was created. -/
  roomShows : List (OffsetDateTime × OffsetDateTime)
  ownShows : List BookingWindowOwnShow
  venueCoords : Option Point
  deriving DecidableEq

inductive WindowBasis where
  | roomRhythm (medianGapDays : Int)
  | leadTime (medianDays : Int)
  | calendarClear (after : Date)
  | adjacentShow (eventSlug : String) (distanceKm : I64)
  deriving DecidableEq

structure ProposedWindow where
  start : Date
  ending : Date
  basis : List WindowBasis
  deriving DecidableEq

def averageDays (lower upper : Int) : Int := (lower + upper).tdiv 2

def medianDays (values : List Int) : Int := (median averageDays values).getD 0

/-- How many days before its start each show of the room was created. -/
def leadDays (roomShows : List (OffsetDateTime × OffsetDateTime)) : List Int :=
  roomShows.map fun roomShow =>
    max (wholeDaysTowardZero (roomShow.1 - roomShow.2)) 0

variable (roomShows : List (OffsetDateTime × OffsetDateTime))

/-- How far ahead the room books. -/
def medianLeadDays : Option Int :=
  if minRoomSample ≤ roomShows.length then some (medianDays (leadDays roomShows)) else none

/-- The days between one start and the next. -/
def gapDays (starts : List OffsetDateTime) : List Int :=
  (starts.zip starts.tail).map fun pair =>
    wholeDaysTowardZero (pair.2 - pair.1)

/-- How often the room runs shows. -/
def medianGapDays : Option Int :=
  if minRoomSample ≤ roomShows.length then
    some (medianDays (gapDays ((roomShows.map Prod.fst).insertionSort (· ≤ ·))))
  else
    none

def ownDates (ownShows : List BookingWindowOwnShow) : List Date :=
  ownShows.map fun ownShow => dateOf ownShow.startsAt

variable (inputs : BookingWindowInputs) (now : OffsetDateTime)

def firstAsk : Date := dateOf now + (medianLeadDays inputs.roomShows).getD fallbackLeadDays

/-- The start walked past the own shows, and the last show it was moved past. -/
def clearStart : Date × Option Date :=
  walk collisionGuardDays (ownDates inputs.ownShows)
    (inputs.ownShows.length + 1) (firstAsk inputs now, none)

def spanDays (inputs : BookingWindowInputs) : Int :=
  match medianGapDays inputs.roomShows with
  | some gap => max minSpanDays (min maxSpanDays gap)
  | none => fallbackSpanDays

def compareNights (left right : BookingWindowOwnShow × I64) : Ordering :=
  (compare left.2 right.2).then (compare left.1.slug right.1.slug)

section Proposal

variable (distanceKm : Point → Point → F64) (inputs : BookingWindowInputs)

/-- The confirmed own shows within routing distance of a room. -/
def nearbyShows : List (BookingWindowOwnShow × I64) :=
  match inputs.venueCoords with
  | none => []
  | some venue =>
    (((inputs.ownShows.filter (·.confirmed)).filterMap fun ownShow =>
      ownShow.coords.map fun coords =>
        (ownShow, distanceKm coords venue)).filter fun measured =>
      F64.le measured.2 routingDistanceKm).map fun measured =>
    (measured.1, measured.2.roundToI64)

/-- Within five days of a window. -/
def nearWindow (start ending : Date) (ownShow : BookingWindowOwnShow) : Bool :=
  decide (-adjacentWindowDays ≤ dateOf ownShow.startsAt - start) &&
    decide (dateOf ownShow.startsAt - ending ≤ adjacentWindowDays)

/-- The window, or nothing where nothing supports one. -/
def proposeBookingWindow
    (now : OffsetDateTime) : Option ProposedWindow :=
  let nearby := nearbyShows distanceKm inputs
  if inputs.roomShows.isEmpty && nearby.isEmpty then
    none
  else
    let moved := clearStart inputs now
    let ending := moved.1 + spanDays inputs
    let adjacent :=
      (nearby.filter fun night =>
        nearWindow moved.1 ending night.1).insertionSort fun left right =>
          (compareNights left right).isLE = true
    some
      { start := moved.1
        ending := ending
        basis :=
          ((medianLeadDays inputs.roomShows).map WindowBasis.leadTime).toList ++
            (moved.2.map WindowBasis.calendarClear).toList ++
              ((medianGapDays inputs.roomShows).map
                WindowBasis.roomRhythm).toList ++
                adjacent.map fun night =>
                  WindowBasis.adjacentShow night.1.slug night.2 }

/-- What a confirmed own show near the room and the window is named as. -/
def adjacentNight (window : ProposedWindow)
    (ownShow : BookingWindowOwnShow) : Option (String × I64) :=
  match inputs.venueCoords, ownShow.coords with
  | some venue, some coords =>
    if ownShow.confirmed &&
        F64.le (distanceKm coords venue) routingDistanceKm &&
        decide (window.start - 5 ≤ dateOf ownShow.startsAt ∧
          dateOf ownShow.startsAt ≤ window.ending + 5) then
      some (ownShow.slug, (distanceKm coords venue).roundToI64)
    else
      none
  | _, _ => none

def WindowBasis.adjacent? : WindowBasis → Option (String × I64)
  | .adjacentShow eventSlug distanceKm => some (eventSlug, distanceKm)
  | _ => none

/-- The day the room could be asked for: the median lead from now, or three
weeks where there are not two shows to take a median of. -/
inductive FirstDay
    (inputs : BookingWindowInputs)
    (now : OffsetDateTime)
    (first : Date) : Prop where
  | observed
      (lead : Int)
      (enough : 2 ≤ inputs.roomShows.length)
      (isMedian : IsMedian averageDays (leadDays inputs.roomShows) lead)
      (isFirst : first = dateOf now + lead)
  | fallback
      (thin : inputs.roomShows.length < 2)
      (isFirst : first = dateOf now + 21)

/-- The length of a window: the median gap between the shows of the room, put
between two weeks and ninety days, or thirty days. -/
inductive WindowLength (inputs : BookingWindowInputs) (days : Int) : Prop where
  | observed
      (starts : List OffsetDateTime)
      (gap : Int)
      (enough : 2 ≤ inputs.roomShows.length)
      (isStarts : starts.Perm (inputs.roomShows.map Prod.fst))
      (inOrder : starts.Pairwise (· ≤ ·))
      (isMedian : IsMedian averageDays (gapDays starts) gap)
      (isSpan : days = max 14 (min 90 gap))
  | fallback
      (thin : inputs.roomShows.length < 2)
      (isSpan : days = 30)

/-- What a proposed window is, given the day the room could be asked for. -/
structure IsBookingWindow
    (inputs : BookingWindowInputs)
    (now : OffsetDateTime)
    (first : Date)
    (window : ProposedWindow) : Prop where
  isFirst : FirstDay inputs now first
  /-- The start is the first day from then on that is more than three days from
  every own show. -/
  firstClear :
    IsLeast
      {day | first ≤ day ∧
        ∀ ownShow ∈ inputs.ownShows, 3 < |day - dateOf ownShow.startsAt|}
      window.start
  calendarClear_iff :
    (∃ after, .calendarClear after ∈ window.basis) ↔ window.start ≠ first
  namesOwnShow :
    ∀ after,
      .calendarClear after ∈ window.basis →
        window.start = after + 4 ∧
          ∃ ownShow ∈ inputs.ownShows, dateOf ownShow.startsAt = after
  span : WindowLength inputs (window.ending - window.start)
  /-- One entry for each adjacent night. -/
  adjacentNights :
    (window.basis.filterMap WindowBasis.adjacent?).Perm
      (inputs.ownShows.filterMap (adjacentNight distanceKm inputs window))

end Proposal

/-! ## The start -/

section Start

variable (inputs : BookingWindowInputs) (now : OffsetDateTime)

theorem exists_isMedian {values : List Int} (hasOne : values ≠ []) :
    IsMedian averageDays values (medianDays values) := by
  obtain ⟨value, isMedian⟩ := exists_median averageDays hasOne
  rw [medianDays, isMedian]
  exact median_eq_some_iff.mp isMedian

theorem firstDay_firstAsk : FirstDay inputs now (firstAsk inputs now) := by
  unfold firstAsk medianLeadDays
  split
  · rename_i enough
    refine FirstDay.observed _ enough (exists_isMedian ?_) rfl
    exact List.ne_nil_of_length_pos (by
      rw [leadDays, List.length_map]
      exact Nat.lt_of_lt_of_le Nat.zero_lt_two enough)
  · rename_i thin
    exact FirstDay.fallback (Nat.lt_of_not_le thin) rfl

theorem windowLength_spanDays : WindowLength inputs (spanDays inputs) := by
  unfold spanDays medianGapDays
  split
  · rename_i gap isGap
    split at isGap
    · rename_i enough
      cases isGap
      refine WindowLength.observed _ _ enough (List.perm_insertionSort _ _)
        (List.pairwise_insertionSort _ _) (exists_isMedian ?_) rfl
      refine List.ne_nil_of_length_pos ?_
      have two : 2 ≤ inputs.roomShows.length := enough
      simp only [gapDays, List.length_map, List.length_zip, List.length_tail,
        List.length_insertionSort]
      omega
    · cases isGap
  · rename_i noGap
    split at noGap
    · cases noGap
    · rename_i thin
      exact WindowLength.fallback (Nat.lt_of_not_le thin) rfl

theorem clear_ownDates_iff (day : Date) :
    Clear collisionGuardDays (ownDates inputs.ownShows) day ↔
      ∀ ownShow ∈ inputs.ownShows, 3 < |day - dateOf ownShow.startsAt| :=
  List.forall_mem_map

theorem clearStart_isLeast :
    IsLeast
      {day | firstAsk inputs now ≤ day ∧
        ∀ ownShow ∈ inputs.ownShows, 3 < |day - dateOf ownShow.startsAt|}
      (clearStart inputs now).1 := by
  have least := @walk_isLeast collisionGuardDays (ownDates inputs.ownShows) (firstAsk inputs now)
  simp only [clear_ownDates_iff] at least
  rw [ownDates, List.length_map] at least
  exact least

theorem clearStart_walked :
    Walked collisionGuardDays (ownDates inputs.ownShows)
      (firstAsk inputs now) (clearStart inputs now) :=
  walk_walked _ _ (Walked.start _)

theorem clearStart_moved_iff :
    (∃ after, (clearStart inputs now).2 = some after) ↔
      (clearStart inputs now).1 ≠ firstAsk inputs now := by
  have walked := clearStart_walked inputs now
  constructor
  · rintro ⟨after, isPassed⟩
    exact ne_of_gt (walked.moved after isPassed).2.2
  · intro hasMoved
    refine Option.ne_none_iff_exists'.mp fun isUnmoved => ?_
    exact hasMoved (walked.unmoved isUnmoved)

theorem clearStart_names {after : Date} (isPassed : (clearStart inputs now).2 = some after) :
    (clearStart inputs now).1 = after + 4 ∧
      ∃ ownShow ∈ inputs.ownShows, dateOf ownShow.startsAt = after := by
  obtain ⟨isShow, isStart, _⟩ := (clearStart_walked inputs now).moved after isPassed
  refine ⟨?_, List.mem_map.mp isShow⟩
  rw [isStart, collisionGuardDays, add_assoc]
  rfl

end Start

/-! ## The adjacent nights -/

section Adjacent

variable (distanceKm : Point → Point → F64)

/-- What an adjacent night is sorted by and named as. -/
def nightKey (night : BookingWindowOwnShow × I64) : I64 ×ₗ String := toLex (night.2, night.1.slug)

def named (key : I64 ×ₗ String) : WindowBasis := .adjacentShow (ofLex key).2 (ofLex key).1

theorem isLE_compareNights_iff {left right : BookingWindowOwnShow × I64} :
    (compareNights left right).isLE = true ↔ nightKey left ≤ nightKey right := by
  unfold compareNights nightKey
  rw [Ordering.isLE_then_iff_or, compare_lt_iff_lt, compare_eq_iff_eq,
    Ordering.isLE_iff_ne_gt, ← Ne, compare_le_iff_le, Prod.Lex.toLex_le_toLex]

theorem sortedNights_map_named (nights : List (BookingWindowOwnShow × I64)) :
    (nights.insertionSort fun left right =>
        (compareNights left right).isLE = true).map
      (fun night => WindowBasis.adjacentShow night.1.slug night.2) =
      ((nights.map nightKey).insertionSort (· ≤ ·)).map named := by
  have sortedKeys :
      (nights.insertionSort fun left right =>
          (compareNights left right).isLE = true).map nightKey =
        (nights.map nightKey).insertionSort (· ≤ ·) :=
    List.map_insertionSort _ _ nightKey nights fun left _ right _ => isLE_compareNights_iff
  rw [← sortedKeys, List.map_map]
  rfl

theorem nearWindow_iff {start ending : Date} {ownShow : BookingWindowOwnShow} :
    nearWindow start ending ownShow = true ↔
      start - 5 ≤ dateOf ownShow.startsAt ∧ dateOf ownShow.startsAt ≤ ending + 5 := by
  rw [nearWindow, Bool.and_eq_true, decide_eq_true_eq, decide_eq_true_eq, adjacentWindowDays]
  constructor <;> rintro ⟨after, before⟩ <;> constructor <;> linarith

/-- The nights near a window are the adjacent nights, in the order of the own
shows. -/
theorem nearbyShows_near (inputs : BookingWindowInputs) (window : ProposedWindow) :
    ((nearbyShows distanceKm inputs).filter fun night =>
        nearWindow window.start window.ending night.1).map
      (fun night => (night.1.slug, night.2)) =
      inputs.ownShows.filterMap (adjacentNight distanceKm inputs window) := by
  unfold nearbyShows adjacentNight
  cases inputs.venueCoords with
  | none => simp
  | some venue =>
    -- Every pass over the shows is one that keeps or drops each of them.
    simp only [List.filterMap_filter, List.filter_filterMap, List.map_filterMap]
    refine List.filterMap_congr fun ownShow _ => ?_
    have sameWindow :
        decide (window.start - 5 ≤ dateOf ownShow.startsAt ∧
            dateOf ownShow.startsAt ≤ window.ending + 5) =
          nearWindow window.start window.ending ownShow :=
      Bool.eq_iff_iff.mpr ((by simp : _ ↔ _).trans nearWindow_iff.symm)
    rw [sameWindow]
    cases ownShow.coords with
    | none => cases ownShow.confirmed <;> rfl
    | some coords =>
      cases confirmed : ownShow.confirmed <;>
        cases within : F64.le (distanceKm coords venue) routingDistanceKm <;>
        cases near : nearWindow window.start window.ending ownShow <;>
        simp [Option.filter, within, near]

end Adjacent

/-! ## The proposal -/

section Correctness

variable {distanceKm : Point → Point → F64} {inputs other : BookingWindowInputs}
  {now : OffsetDateTime} {window : ProposedWindow}

section

variable (answers : proposeBookingWindow distanceKm inputs now = some window)
include answers

theorem eq_of_proposeBookingWindow :
    window.start = (clearStart inputs now).1 ∧
      window.ending = window.start + spanDays inputs ∧
      window.basis = ((medianLeadDays inputs.roomShows).map WindowBasis.leadTime).toList ++
          ((clearStart inputs now).2.map WindowBasis.calendarClear).toList ++
            ((medianGapDays inputs.roomShows).map WindowBasis.roomRhythm).toList ++
              ((((nearbyShows distanceKm inputs).filter fun night =>
                nearWindow window.start window.ending night.1).map
                  nightKey).insertionSort (· ≤ ·)).map named := by
  unfold proposeBookingWindow at answers
  dsimp only at answers
  split at answers
  · cases answers
  · cases answers
    exact ⟨rfl, rfl, by rw [sortedNights_map_named]⟩

theorem calendarClear_mem_iff {after : Date} :
    .calendarClear after ∈ window.basis ↔ (clearStart inputs now).2 = some after := by
  obtain ⟨_, _, isBasis⟩ := eq_of_proposeBookingWindow answers
  rw [isBasis]
  simp [named]

theorem filterMap_adjacent? :
    (window.basis.filterMap WindowBasis.adjacent?).Perm
      (inputs.ownShows.filterMap (adjacentNight distanceKm inputs window)) := by
  obtain ⟨_, _, isBasis⟩ := eq_of_proposeBookingWindow answers
  have noOther :
      ∀ (part : Option Int) (entry : Int → WindowBasis),
        (∀ value, (entry value).adjacent? = none) →
          (part.map entry).toList.filterMap WindowBasis.adjacent? = [] := by
    intro part entry isOther
    cases part with
    | none => rfl
    | some value => simp [isOther value]
  rw [isBasis, List.filterMap_append, List.filterMap_append,
    List.filterMap_append, noOther _ _ fun _ => rfl, noOther _ _ fun _ => rfl,
    noOther _ _ fun _ => rfl, List.nil_append, List.nil_append, List.nil_append,
    ← nearbyShows_near, List.filterMap_map]
  have names :
      ∀ keys : List (I64 ×ₗ String),
        keys.filterMap (WindowBasis.adjacent? ∘ named) =
          keys.map fun key => ((ofLex key).2, (ofLex key).1) := by
    intro keys
    rw [← List.filterMap_eq_map]
    rfl
  rw [names]
  refine ((List.perm_insertionSort _ _).map _).trans ?_
  rw [List.map_map]
  exact List.Perm.refl _

end

theorem nearbyShows_perm (sameShows : inputs.ownShows.Perm other.ownShows)
    (sameVenue : inputs.venueCoords = other.venueCoords) :
    (nearbyShows distanceKm inputs).Perm (nearbyShows distanceKm other) := by
  unfold nearbyShows
  rw [sameVenue]
  cases other.venueCoords with
  | none => exact List.Perm.refl _
  | some venue => exact (((sameShows.filter _).filterMap _).filter _).map _

/-- The two input lists in another order. -/
structure Reordered (inputs other : BookingWindowInputs) : Prop where
  sameRoom : inputs.roomShows.Perm other.roomShows
  sameShows : inputs.ownShows.Perm other.ownShows
  sameVenue : inputs.venueCoords = other.venueCoords

theorem medianLeadDays_eq (reordered : Reordered inputs other) :
    medianLeadDays inputs.roomShows = medianLeadDays other.roomShows := by
  have sameMedian :
      medianDays (leadDays inputs.roomShows) = medianDays (leadDays other.roomShows) := by
    rw [medianDays, medianDays, leadDays, leadDays, median_eq_of_perm (reordered.sameRoom.map _)]
  rw [medianLeadDays, medianLeadDays, reordered.sameRoom.length_eq, sameMedian]

theorem medianGapDays_eq (reordered : Reordered inputs other) :
    medianGapDays inputs.roomShows = medianGapDays other.roomShows := by
  rw [medianGapDays, medianGapDays, reordered.sameRoom.length_eq,
    insertionSort_eq_of_perm (reordered.sameRoom.map Prod.fst)]

theorem clearStart_eq (reordered : Reordered inputs other) :
    clearStart inputs now = clearStart other now := by
  have sameFirst : firstAsk inputs now = firstAsk other now := by
    rw [firstAsk, firstAsk, medianLeadDays_eq reordered]
  rw [clearStart, clearStart, sameFirst, reordered.sameShows.length_eq, ownDates, ownDates]
  exact walk_congr (reordered.sameShows.map _) _ _

theorem proposeBookingWindow_eq (reordered : Reordered inputs other) :
    proposeBookingWindow distanceKm inputs now = proposeBookingWindow distanceKm other now := by
  have sameNearby := @nearbyShows_perm distanceKm inputs other reordered.sameShows
      reordered.sameVenue
  have sameSpan : spanDays inputs = spanDays other := by
    rw [spanDays, spanDays, medianGapDays_eq reordered]
  unfold proposeBookingWindow
  simp only [sortedNights_map_named, reordered.sameRoom.isEmpty_eq,
    sameNearby.isEmpty_eq, medianLeadDays_eq reordered,
    medianGapDays_eq reordered, @clearStart_eq inputs other now reordered,
    sameSpan]
  rw [insertionSort_eq_of_perm ((sameNearby.filter _).map nightKey)]

/--
A proposed window is what it should be, and the order of the shows that come in
does not matter.
-/
theorem proposeBookingWindow_correct
    (distanceKm : Point → Point → F64)
    (inputs : BookingWindowInputs)
    (now : OffsetDateTime) :
    (∀ window,
      proposeBookingWindow distanceKm inputs now = some window →
        ∃ first, IsBookingWindow distanceKm inputs now first window) ∧
      ∀ other,
        Reordered inputs other →
          proposeBookingWindow distanceKm other now =
            proposeBookingWindow distanceKm inputs now := by
  refine ⟨fun window answers => ⟨firstAsk inputs now, ?_⟩,
    fun other reordered => (proposeBookingWindow_eq reordered).symm⟩
  obtain ⟨isStart, isEnding, _⟩ := eq_of_proposeBookingWindow answers
  refine
    { isFirst := firstDay_firstAsk inputs now
      firstClear := ?_
      calendarClear_iff := ?_
      namesOwnShow := ?_
      span := ?_
      adjacentNights := filterMap_adjacent? answers }
  · rw [isStart]
    exact clearStart_isLeast inputs now
  · rw [isStart, ← clearStart_moved_iff]
    exact exists_congr fun _ => calendarClear_mem_iff answers
  · intro after isNamed
    rw [isStart]
    exact clearStart_names inputs now ((calendarClear_mem_iff answers).mp isNamed)
  · rw [isEnding, add_sub_cancel_left]
    exact windowLength_spanDays inputs

/-- Two shows of the room four weeks apart, booked six weeks ahead, and own
shows on the days around the first day that could be asked for. -/
def crowdedCalendar : BookingWindowInputs where
  roomShows := [(-20 * nanosPerDay, -62 * nanosPerDay), (-48 * nanosPerDay, -90 * nanosPerDay)]
  ownShows :=
    [{ startsAt := 46 * nanosPerDay
       slug := "second"
       coords := none
       confirmed := true },
      { startsAt := 40 * nanosPerDay
        slug := "first"
        coords := none
        confirmed := false },
      { startsAt := 54 * nanosPerDay
        slug := "near"
        coords := some (⟨0x40490147ae147ae1⟩, ⟨0x4033f0a3d70a3d71⟩)
        confirmed := true }]
  venueCoords := some (⟨0x404a1d70a3d70a3d⟩, ⟨0x4035028f5c28f5c3⟩)

/-- Every two different places are 252 kilometres apart. -/
def oneRoad (first second : Point) : F64 := if first = second then ⟨0⟩ else ⟨0x406f800000000000⟩

/-- The start is moved past both weeks, and the show behind it is named. -/
theorem proposeBookingWindow_crowdedCalendar :
    ∃ first,
      IsBookingWindow oneRoad crowdedCalendar 0 first
        { start := 50
          ending := 78
          basis := [.leadTime 42, .calendarClear 46, .roomRhythm 28, .adjacentShow "near" 252] } :=
  (proposeBookingWindow_correct oneRoad crowdedCalendar 0).1 _ (by decide)

end Correctness

end CrowdRelay
