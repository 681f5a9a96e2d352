import Mathlib.Algebra.Order.Field.Rat
import Mathlib.Tactic.FieldSimp
import Mathlib.Tactic.Linarith
import CrowdRelay.ProportionalShares
import CrowdRelay.StampOrder

namespace CrowdRelay.SelfAssessment

open ProportionalShares Watermark

/-!
# The brain's verdict on itself

Daily readings of the North Star are collapsed to the last of each day, and
the mean of the later half is compared with that of the earlier one.
-/

def minimumDays : Nat := 6
def materialChange : ℚ := 1 / 20
def minAbsoluteChange : ℚ := 2
def stagnationAfterFlatDays : Nat := 30

inductive BrainState where
  | improving
  | learning
  | stagnant
  | regressing
  | initializing
  deriving Repr, DecidableEq

structure DailyNorthStar where
  day : Int
  value : ℚ
  deriving Repr, DecidableEq

/-- A reading replaces the one before it if that is of the same day. -/
def collapseInto (collapsed : List DailyNorthStar)
    (sample : DailyNorthStar) : List DailyNorthStar :=
  match collapsed.getLast? with
  | some previous =>
    if previous.day = sample.day then collapsed.dropLast ++ [sample] else collapsed ++ [sample]
  | none => [sample]

/-- One reading a day, in the order of the days. -/
def dailySeries (samples : List DailyNorthStar) : List DailyNorthStar :=
  (inStampOrder DailyNorthStar.day samples).foldl collapseInto []

/-- What a flat series of so many days says. -/
def flat (days : Nat) : BrainState :=
  if stagnationAfterFlatDays ≤ days then .stagnant else .learning

/-- What the means of the two halves of so many days say. -/
def trend (days : Nat) (earlier later : ℚ) : BrainState :=
  if earlier ≤ 0 then
    if 0 < later then .improving else .learning
  else
    let delta := later - earlier
    if |delta| < minAbsoluteChange then
      flat days
    else
      let change := delta / earlier
      if materialChange < change then
        .improving
      else if change < -materialChange then
        .regressing
      else
        flat days

def earlierMean (series : List DailyNorthStar) : ℚ :=
  mean ((series.take (series.length / 2)).map DailyNorthStar.value)

def laterMean (series : List DailyNorthStar) : ℚ :=
  mean ((series.drop (series.length / 2)).map DailyNorthStar.value)

/-- Assesses the trend in a series of daily readings. -/
def assess (samples : List DailyNorthStar) : BrainState :=
  let series := dailySeries samples
  if series.length < minimumDays then
    .initializing
  else
    trend series.length (earlierMean series) (laterMean series)

section Collapse

variable {samples : List DailyNorthStar}

def lastListed (samples : List DailyNorthStar)
    (day : Int) : Option DailyNorthStar :=
  (samples.filter fun sample => sample.day = day).getLast?

theorem lastListed_concat (samples : List DailyNorthStar) (sample : DailyNorthStar) (day : Int) :
    lastListed (samples ++ [sample]) day =
      if sample.day = day then some sample else lastListed samples day := by
  unfold lastListed
  rw [List.filter_append, List.filter_singleton]
  by_cases same : sample.day = day
  · simp [same]
  · simp [same]

/-- One reading for each day so far, the last one of that day. -/
structure Collapses
    (samples collapsed : List DailyNorthStar) : Prop where
  ordered : collapsed.Pairwise fun one other => one.day < other.day
  last : ∀ reading, reading ∈ collapsed ↔
    lastListed samples reading.day = some reading

theorem day_of_lastListed {day : Int} {reading : DailyNorthStar}
    (isLast : lastListed samples day = some reading) :
    reading ∈ samples ∧ reading.day = day := by
  have member := List.mem_of_getLast? isLast
  rw [List.mem_filter] at member
  exact ⟨member.1, by simpa using member.2⟩

/-- A reading of the last day so far or a later one keeps the series right. -/
theorem Collapses.step {samples collapsed : List DailyNorthStar} {sample : DailyNorthStar}
    (collapses : Collapses samples collapsed)
    (notBefore : ∀ other ∈ samples, other.day ≤ sample.day) :
    Collapses (samples ++ [sample]) (collapseInto collapsed sample) := by
  obtain ⟨ordered, last⟩ := collapses
  -- What stays in the series is what is of an earlier day than the reading.
  obtain ⟨kept, shape, keptIff, earlier⟩ :
      ∃ kept, collapseInto collapsed sample = kept ++ [sample] ∧
        (∀ reading, reading ∈ kept ↔ reading ∈ collapsed ∧ reading.day ≠ sample.day) ∧
        kept.Sublist collapsed := by
    have upTo : ∀ reading ∈ collapsed, reading.day ≤ sample.day :=
      fun reading member =>
        notBefore reading (day_of_lastListed ((last reading).mp member)).1
    unfold collapseInto
    cases collapsed using List.reverseRecOn with
    | nil => exact ⟨[], rfl, by simp, .slnil⟩
    | append_singleton front previous =>
      have before : ∀ reading ∈ front, reading.day < previous.day :=
        fun reading member =>
          (List.pairwise_append.mp ordered).2.2 reading member previous List.mem_cons_self
      have previousUpTo := upTo previous (by simp)
      rw [List.getLast?_concat]
      by_cases same : previous.day = sample.day
      · refine ⟨front, by simp [same], ?_, List.sublist_append_left _ _⟩
        intro reading
        constructor
        · intro member
          have less := before reading member
          exact ⟨by simp [member], by omega⟩
        · rintro ⟨member, otherDay⟩
          rcases List.mem_append.mp member with member | member
          · exact member
          · rw [List.mem_singleton.mp member] at otherDay
            exact absurd same otherDay
      · refine ⟨front ++ [previous], by simp [same], ?_, .refl _⟩
        intro reading
        constructor
        · intro member
          refine ⟨member, ?_⟩
          rcases List.mem_append.mp member with inFront | isLast
          · have less := before reading inFront
            omega
          · rw [List.mem_singleton.mp isLast]
            exact same
        · exact fun member => member.1
  rw [shape]
  constructor
  · refine List.pairwise_append.mpr
      ⟨ordered.sublist earlier, List.pairwise_singleton _ _, ?_⟩
    intro reading member other isSample
    obtain ⟨inSeries, otherDay⟩ := (keptIff reading).mp member
    have upTo := notBefore reading (day_of_lastListed ((last reading).mp inSeries)).1
    rw [List.mem_singleton.mp isSample]
    omega
  · intro reading
    rw [List.mem_append, List.mem_singleton, keptIff, last, lastListed_concat]
    by_cases sameDay : sample.day = reading.day
    · rw [if_pos sameDay, Option.some.injEq, eq_comm (a := sample)]
      exact
        ⟨fun either => either.resolve_left fun both =>
          both.2 sameDay.symm, Or.inr⟩
    · rw [if_neg sameDay]
      constructor
      · rintro (⟨isLast, _⟩ | rfl)
        · exact isLast
        · exact absurd rfl sameDay
      · exact fun isLast => Or.inl ⟨isLast, fun same => sameDay same.symm⟩

theorem collapses_of_ordered (ordered : samples.Pairwise fun one other => one.day ≤ other.day) :
    Collapses samples (samples.foldl collapseInto []) := by
  induction samples using List.reverseRecOn with
  | nil => exact ⟨.nil, by simp [lastListed]⟩
  | append_singleton front sample inductionHypothesis =>
    obtain ⟨frontOrdered, _, upTo⟩ := List.pairwise_append.mp ordered
    rw [List.foldl_append]
    exact (inductionHypothesis frontOrdered).step fun other member =>
        upTo other member sample List.mem_cons_self

theorem collapses_dailySeries (samples : List DailyNorthStar) :
    Collapses samples (dailySeries samples) := by
  obtain ⟨ordered, last⟩ := collapses_of_ordered (inStampOrder_pairwise DailyNorthStar.day samples)
  refine ⟨ordered, fun reading => ?_⟩
  have kept := filter_inStampOrder DailyNorthStar.day samples reading.day
  rw [dailySeries, last, lastListed, kept]
  rfl

theorem dailySeries_eq {samples others : List DailyNorthStar}
    (same : ∀ day, lastListed samples day = lastListed others day) :
    dailySeries samples = dailySeries others := by
  have first := collapses_dailySeries samples
  have second := collapses_dailySeries others
  have distinct :
      ∀ series : List DailyNorthStar,
        series.Pairwise (fun one other => one.day < other.day) →
        series.Nodup :=
    fun series ordered => ordered.imp fun less same => by
      rw [same] at less
      exact lt_irrefl _ less
  have rearranged : (dailySeries samples).Perm (dailySeries others) := by
    rw [List.perm_ext_iff_of_nodup (distinct _ first.ordered) (distinct _ second.ordered)]
    intro reading
    rw [first.last, second.last, same]
  exact rearranged.eq_of_pairwise
      (fun one other _ _ less more => absurd (less.trans more) (lt_irrefl _))
      first.ordered second.ordered

end Collapse

theorem exists_mean_le_le {values : List ℚ} (someValue : values ≠ []) :
    (∃ value ∈ values, mean values ≤ value) ∧ ∃ value ∈ values, value ≤ mean values := by
  have notEmpty : ¬ values.isEmpty = true := by
    simpa using someValue
  have counted : (0 : ℚ) < values.length := length_pos_of_not_empty notEmpty
  have total : (values.map fun _ => mean values).sum = (values.map id).sum := by
    rw [List.map_id, List.map_const', List.sum_replicate, nsmul_eq_mul, mean, if_neg notEmpty]
    field_simp
  exact ⟨List.exists_le_of_sum_le someValue _ _ total.le,
      List.exists_le_of_sum_le someValue _ _ total.ge⟩

theorem mean_le_mean {values raised : List ℚ} (higher : List.Forall₂ (· ≤ ·) values raised) :
    mean values ≤ mean raised := by
  have sums := higher.sum_le_sum
  have lengths := higher.length_eq
  unfold mean
  by_cases none : raised.isEmpty = true
  · have empty : values.isEmpty = true := by
      rw [List.isEmpty_iff_length_eq_zero] at none ⊢
      omega
    rw [if_pos none, if_pos empty]
  · have notEmpty : ¬ values.isEmpty = true := by
      rw [List.isEmpty_iff_length_eq_zero] at none ⊢
      omega
    rw [if_neg none, if_neg notEmpty, lengths]
    exact div_le_div_of_nonneg_right sums (Nat.cast_nonneg _)

section Trend

variable {days : Nat} {earlier later : ℚ}

theorem flat_ne (days : Nat) : flat days ≠ .improving ∧ flat days ≠ .regressing := by
  unfold flat
  split <;> simp

theorem trend_of_nothing (nothing : earlier ≤ 0) :
    trend days earlier later = if 0 < later then .improving else .learning := by
  rw [trend, if_pos nothing]

theorem trend_eq_improving_iff (something : 0 < earlier) :
    trend days earlier later = .improving ↔
      2 ≤ later - earlier ∧ earlier / 20 < later - earlier := by
  have share : materialChange < (later - earlier) / earlier ↔ earlier / 20 < later - earlier := by
    rw [lt_div_iff₀ something, materialChange]
    constructor <;> intro less <;> linarith
  rw [trend, if_neg (not_le.mpr something)]
  simp only [share, minAbsoluteChange]
  split_ifs with small rises falls
  · simp only [(flat_ne days).1, false_iff]
    intro rise
    exact absurd rise.1 (not_le.mpr (abs_lt.mp small).2)
  · refine iff_of_true rfl ⟨?_, rises⟩
    rw [abs_of_pos (by linarith)] at small
    exact not_lt.mp small
  · simp only [false_iff]
    exact fun rise => rises rise.2
  · simp only [(flat_ne days).1, false_iff]
    exact fun rise => rises rise.2

theorem trend_eq_regressing_iff (something : 0 < earlier) :
    trend days earlier later = .regressing ↔
      2 ≤ earlier - later ∧ earlier / 20 < earlier - later := by
  have rise : materialChange < (later - earlier) / earlier ↔ earlier / 20 < later - earlier := by
    rw [lt_div_iff₀ something, materialChange]
    constructor <;> intro less <;> linarith
  have fall : (later - earlier) / earlier < -materialChange ↔ earlier / 20 < earlier - later := by
    rw [div_lt_iff₀ something, materialChange]
    constructor <;> intro less <;> linarith
  rw [trend, if_neg (not_le.mpr something)]
  simp only [rise, fall, minAbsoluteChange]
  split_ifs with small rises falls
  · simp only [(flat_ne days).2, false_iff]
    intro less
    have above := (abs_lt.mp small).1
    linarith [less.1]
  · simp only [false_iff]
    intro less
    linarith [less.2]
  · refine iff_of_true rfl ⟨?_, falls⟩
    rw [abs_of_neg (by linarith)] at small
    linarith [not_lt.mp small]
  · simp only [(flat_ne days).2, false_iff]
    exact fun less => falls less.2

theorem trend_mono {higher : ℚ} (raise : later ≤ higher) :
    (trend days earlier later = .improving →
      trend days earlier higher = .improving) ∧
      (trend days earlier higher = .regressing → trend days earlier later = .regressing) := by
  rcases le_or_gt earlier 0 with nothing | something
  · rw [trend_of_nothing nothing, trend_of_nothing nothing]
    by_cases rises : 0 < later
    · simp [rises, rises.trans_le raise]
    · by_cases risesNow : 0 < higher <;> simp [rises, risesNow]
  · rw [trend_eq_improving_iff something, trend_eq_improving_iff something,
      trend_eq_regressing_iff something, trend_eq_regressing_iff something]
    constructor
    · rintro ⟨enough, more⟩
      constructor <;> linarith
    · rintro ⟨enough, more⟩
      constructor <;> linarith

end Trend

section Verdict

variable {samples raised : List DailyNorthStar}

/-- The same days and earlier half, and no later reading lower. -/
structure RaisesLaterHalf (series raised : List DailyNorthStar) : Prop where
  sameDays : series.map DailyNorthStar.day = raised.map DailyNorthStar.day
  sameEarlier :
    series.take (series.length / 2) = raised.take (raised.length / 2)
  later :
    List.Forall₂ (fun reading raised => reading.value ≤ raised.value)
      (series.drop (series.length / 2)) (raised.drop (raised.length / 2))

theorem assess_eq_trend (enough : minimumDays ≤ (dailySeries samples).length) :
    assess samples = trend (dailySeries samples).length (earlierMean (dailySeries samples))
        (laterMean (dailySeries samples)) := by
  simp only [assess, if_neg (not_lt.mpr enough)]

theorem enough_of_verdict (verdict : assess samples = .improving ∨ assess samples = .regressing) :
    minimumDays ≤ (dailySeries samples).length := by
  by_contra few
  simp [assess, not_le.mp few] at verdict

theorem mean_part_nonneg (nonnegative : ∀ sample ∈ samples, 0 ≤ sample.value)
    {part : List DailyNorthStar} (within : part ⊆ dailySeries samples) :
    0 ≤ mean (part.map DailyNorthStar.value) := by
  by_cases none : part.map DailyNorthStar.value = []
  · rw [none]
    exact le_of_eq rfl
  · obtain ⟨_, value, member, below⟩ := exists_mean_le_le none
    obtain ⟨reading, inPart, rfl⟩ := List.mem_map.mp member
    have isLast := ((collapses_dailySeries samples).last reading).mp (within inPart)
    exact (nonnegative reading (day_of_lastListed isLast).1).trans below

/-- The two halves of a narrow series have means as near as its values. -/
theorem abs_means_lt {series : List DailyNorthStar} (enough : minimumDays ≤ series.length)
    (narrow :
      ∀ one ∈ series, ∀ other ∈ series,
        |one.value - other.value| < minAbsoluteChange) :
    |laterMean series - earlierMean series| < minAbsoluteChange := by
  have someDays : 6 ≤ series.length := enough
  have earlierSome : (series.take (series.length / 2)).map DailyNorthStar.value ≠ [] := by
    rw [ne_eq, ← List.length_eq_zero_iff, List.length_map, List.length_take]
    omega
  have laterSome : (series.drop (series.length / 2)).map DailyNorthStar.value ≠ [] := by
    rw [ne_eq, ← List.length_eq_zero_iff, List.length_map, List.length_drop]
    omega
  obtain ⟨⟨_, high, aboveEarlier⟩, _, low, belowEarlier⟩ := exists_mean_le_le earlierSome
  obtain ⟨⟨_, laterHigh, aboveLater⟩, _, laterLow, belowLater⟩ := exists_mean_le_le laterSome
  obtain ⟨highest, inEarlier, rfl⟩ := List.mem_map.mp high
  obtain ⟨lowest, inEarlierLow, rfl⟩ := List.mem_map.mp low
  obtain ⟨laterHighest, inLater, rfl⟩ := List.mem_map.mp laterHigh
  obtain ⟨laterLowest, inLaterLow, rfl⟩ := List.mem_map.mp laterLow
  have rise := abs_lt.mp
      (narrow laterHighest (List.mem_of_mem_drop inLater)
        lowest (List.mem_of_mem_take inEarlierLow))
  have fall := abs_lt.mp
      (narrow laterLowest (List.mem_of_mem_drop inLaterLow)
        highest (List.mem_of_mem_take inEarlier))
  unfold laterMean earlierMean
  rw [abs_lt]
  constructor <;> linarith [rise.2, fall.1]

theorem trend_iff {days : Nat} {earlier later : ℚ} (earlierNonneg : 0 ≤ earlier)
    (laterNonneg : 0 ≤ later) :
    (trend days earlier later = .improving ↔
      (2 ≤ later - earlier ∧ earlier / 20 < later - earlier) ∨ (earlier = 0 ∧ 0 < later)) ∧
      (trend days earlier later = .regressing ↔
        2 ≤ earlier - later ∧ earlier / 20 < earlier - later) := by
  rcases earlierNonneg.eq_or_lt with nothing | something
  · rw [trend_of_nothing nothing.ge, ← nothing]
    by_cases rises : 0 < later
    · simp [rises, laterNonneg]
    · have nothingLater : later = 0 := le_antisymm (not_lt.mp rises) laterNonneg
      simp [nothingLater]
  · rw [trend_eq_improving_iff something, trend_eq_regressing_iff something]
    simp [something.ne']

theorem means_of_verdict (nonnegative : ∀ sample ∈ samples, 0 ≤ sample.value) :
    let earlier := earlierMean (dailySeries samples)
    let later := laterMean (dailySeries samples)
    (assess samples = .improving →
      (2 ≤ later - earlier ∧ earlier / 20 < later - earlier) ∨ (earlier = 0 ∧ 0 < later)) ∧
      (assess samples = .regressing → 2 ≤ earlier - later ∧ earlier / 20 < earlier - later) := by
  intro earlier later
  have earlierNonneg : 0 ≤ earlier := mean_part_nonneg nonnegative (List.take_subset _ _)
  have laterNonneg : 0 ≤ later := mean_part_nonneg nonnegative (List.drop_subset _ _)
  constructor
  · intro improves
    rw [assess_eq_trend (enough_of_verdict (Or.inl improves))] at improves
    exact (trend_iff earlierNonneg laterNonneg).1.mp improves
  · intro regresses
    rw [assess_eq_trend (enough_of_verdict (Or.inr regresses))] at regresses
    exact (trend_iff earlierNonneg laterNonneg).2.mp regresses

theorem assess_mono (raises : RaisesLaterHalf (dailySeries samples) (dailySeries raised)) :
    (assess samples = .improving → assess raised = .improving) ∧
      (assess raised = .regressing → assess samples = .regressing) := by
  have sameLength : (dailySeries samples).length = (dailySeries raised).length := by
    simpa using congrArg List.length raises.sameDays
  have sameMean : earlierMean (dailySeries samples) = earlierMean (dailySeries raised) := by
    rw [earlierMean, raises.sameEarlier, earlierMean]
  have higher : laterMean (dailySeries samples) ≤ laterMean (dailySeries raised) :=
    mean_le_mean (List.forall₂_map_left_iff.mpr (List.forall₂_map_right_iff.mpr raises.later))
  by_cases enough : minimumDays ≤ (dailySeries samples).length
  · rw [assess_eq_trend enough, assess_eq_trend (sameLength ▸ enough),
      ← sameLength, ← sameMean]
    exact trend_mono higher
  · have notEither :=
      fun either => enough (@enough_of_verdict samples either)
    have notEitherRaised :=
      fun either =>
        enough (sameLength ▸ @enough_of_verdict raised either)
    exact ⟨fun improves => absurd (Or.inl improves) notEither,
        fun regresses => absurd (Or.inr regresses) notEitherRaised⟩

/--
The verdict rests on the last reading of each day and on the means of the two
halves, which have to differ by two units and a twentieth unless the earlier
one is zero; a higher later half never makes it worse.
-/
theorem verdict_is_a_trend
    (samples : List DailyNorthStar)
    (nonnegative : ∀ sample ∈ samples, 0 ≤ sample.value) :
    (∀ others,
      (∀ day, lastListed samples day = lastListed others day) →
      assess samples = assess others) ∧
      (assess samples = .improving →
        let earlier := earlierMean (dailySeries samples)
        let later := laterMean (dailySeries samples)
        (2 ≤ later - earlier ∧ earlier / 20 < later - earlier) ∨ (earlier = 0 ∧ 0 < later)) ∧
      (assess samples = .regressing →
        let earlier := earlierMean (dailySeries samples)
        let later := laterMean (dailySeries samples)
        2 ≤ earlier - later ∧ earlier / 20 < earlier - later) ∧
      (∀ raised,
        RaisesLaterHalf (dailySeries samples) (dailySeries raised) →
        (assess samples = .improving → assess raised = .improving) ∧
          (assess raised = .regressing → assess samples = .regressing)) ∧
      ((∀ one ∈ dailySeries samples, ∀ other ∈ dailySeries samples,
          |one.value - other.value| < 2) →
        assess samples ≠ .regressing ∧
          (assess samples = .improving →
            earlierMean (dailySeries samples) = 0 ∧ 0 < laterMean (dailySeries samples))) := by
  obtain ⟨improving, regressing⟩ := means_of_verdict nonnegative
  refine ⟨?_, improving, regressing, fun _ => assess_mono, ?_⟩
  · intro others same
    simp only [assess, dailySeries_eq same]
  · intro narrow
    constructor
    · intro regresses
      have near := abs_lt.mp
          (abs_means_lt (enough_of_verdict (Or.inr regresses)) narrow)
      have far := (regressing regresses).1
      linarith [near.1, show minAbsoluteChange = 2 from rfl]
    · intro improves
      have near := abs_lt.mp
          (abs_means_lt (enough_of_verdict (Or.inl improves)) narrow)
      rcases improving improves with ⟨far, _⟩ | fromNothing
      · linarith [near.2, show minAbsoluteChange = 2 from rfl]
      · exact fromNothing

def fromDayZero (values : List ℚ) : List DailyNorthStar :=
  values.zipIdx.map fun (value, day) => ⟨day, value⟩

theorem verdict_is_a_trend_growing :
    let growing := fromDayZero [10, 10, 10, 40, 55, 70]
    assess growing = assess (⟨0, 3⟩ :: growing) ∧
      earlierMean (dailySeries growing) / 20 <
        laterMean (dailySeries growing) - earlierMean (dailySeries growing) ∧
      assess (fromDayZero [10, 10, 10, 40, 55, 80]) = .improving ∧
      assess (fromDayZero [10, 10, 10, 11, 11, 11]) ≠ .regressing := by
  intro growing
  have laws := verdict_is_a_trend growing (by decide +kernel)
  have improves : assess growing = .improving := by decide +kernel
  have steady := verdict_is_a_trend (fromDayZero [10, 10, 10, 11, 11, 11])
      (by decide +kernel)
  have raises :
      RaisesLaterHalf (dailySeries growing)
        (dailySeries (fromDayZero [10, 10, 10, 40, 55, 80])) := by
    have first : dailySeries growing = growing := by decide +kernel
    have second :
        dailySeries (fromDayZero [10, 10, 10, 40, 55, 80]) =
          fromDayZero [10, 10, 10, 40, 55, 80] := by decide +kernel
    rw [first, second]
    constructor <;> norm_num [growing, fromDayZero]
  refine ⟨laws.1 _ ?_, ?_, (laws.2.2.2.1 _ raises).1 improves,
      (steady.2.2.2.2 (by decide +kernel)).1⟩
  · intro day
    by_cases first : day = 0
    · subst first
      rfl
    · simp [lastListed, Ne.symm first]
  · rcases laws.2.1 improves with rise | fromNothing
    · exact rise.2
    · exact absurd fromNothing.1 (by decide +kernel)

/-- The means of the halves are one fan apart. -/
theorem a_first_fan_is_improvement :
    let samples := fromDayZero [0, 0, 0, 1, 1, 1]
    assess samples = .improving ∧
      ¬ (2 ≤ laterMean (dailySeries samples) -
        earlierMean (dailySeries samples)) := by
  decide +kernel

end Verdict

end CrowdRelay.SelfAssessment
