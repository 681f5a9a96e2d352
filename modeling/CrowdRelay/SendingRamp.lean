import CrowdRelay.FreeReach
import CrowdRelay.PromotionBudget

namespace CrowdRelay

open MachineInt

/-!
# How the sending ramp moves

The ceiling as a function of the whole ramp steps since the first send, and
what faults and time do to it.  Elapsed time is signed and the number of steps
is not: a clock one whole step behind the first send reads as a ramp that has
run its course.
-/

variable {policy : DeliverabilityPolicy}

section Faults

theorem faultRate_mono (sent : U32) {fewer more : U32} (ordered : fewer ≤ more) :
    faultRate sent fewer ≤ faultRate sent more := by
  have fewerLower := fewer.lower
  have divisor : 0 < max sent.val 1 := by omega
  have scaled : fewer.val * 10000 / max sent.val 1 ≤ more.val * 10000 / max sent.val 1 := by
    rw [Ranged.le_iff_val] at ordered
    exact Int.ediv_le_ediv divisor (by omega)
  have nonnegative : 0 ≤ fewer.val * 10000 / max sent.val 1 := Int.ediv_nonneg (by omega) (by omega)
  have most : (4294967295 : U32).val = 4294967295 := rfl
  unfold faultRate Ranged.tryFrom
  rw [Ranged.le_iff_val]
  split
  · split
    · exact scaled
    · simp only [Option.getD_some, Option.getD_none, most]
      omega
  · rw [dif_neg (by omega)]

variable {cleaner worse : DeliverabilitySnapshot}

/-- The same sending with no fewer bounces and no fewer complaints. -/
structure MoreFaults (cleaner worse : DeliverabilitySnapshot) : Prop where
  bounces : cleaner.bounces30d ≤ worse.bounces30d
  complaints : cleaner.complaints30d ≤ worse.complaints30d
  sent : worse.sent30d = cleaner.sent30d
  firstSent : worse.firstSentAt = cleaner.firstSentAt
  ceiling : worse.weeklyThirdPartyCeiling = cleaner.weeklyThirdPartyCeiling

theorem sendingAllowed_iff {snapshot : DeliverabilitySnapshot} :
    (verdict snapshot policy).sendingAllowed = true ↔
      snapshot.sent30d < policy.minimumRateSample ∨
        (faultRate snapshot.sent30d snapshot.complaints30d).val <
            policy.maxComplaintRateBasisPoints.val ∧
          (faultRate snapshot.sent30d snapshot.bounces30d).val <
            policy.maxBounceRateBasisPoints.val := by
  unfold verdict
  split
  · simp_all [DeliverabilityVerdict.sendingAllowed]
  · split
    · rename_i complaints
      simp_all only [DeliverabilityVerdict.sendingAllowed, Bool.false_eq_true, false_or, false_iff]
      omega
    · split
      · rename_i bounces
        simp_all only [DeliverabilityVerdict.sendingAllowed,
          Bool.false_eq_true, false_or, false_iff]
        omega
      · simp_all [DeliverabilityVerdict.sendingAllowed]

theorem sendingAllowed_of_moreFaults (faults : MoreFaults cleaner worse)
    (allowed : (verdict worse policy).sendingAllowed = true) :
    (verdict cleaner policy).sendingAllowed = true := by
  rw [sendingAllowed_iff] at allowed ⊢
  rw [faults.sent] at allowed
  refine allowed.imp_right ?_
  rintro ⟨complaints, bounces⟩
  have fewerComplaints := Ranged.le_iff_val.mp (faultRate_mono cleaner.sent30d faults.complaints)
  have fewerBounces := Ranged.le_iff_val.mp (faultRate_mono cleaner.sent30d faults.bounces)
  exact ⟨by omega, by omega⟩

end Faults

section Steps

variable (policy : DeliverabilityPolicy)

def rampStepSeconds : Int := 86400 * max policy.rampStepDays.val 1

def sinceFirstSend (firstSentAt now : OffsetDateTime) : Int :=
  now.unixTimestamp - firstSentAt.unixTimestamp

def WholeStepBehind (firstSentAt now : OffsetDateTime) : Prop :=
  sinceFirstSend firstSentAt now ≤ -rampStepSeconds policy

instance decidableWholeStepBehind (firstSentAt now : OffsetDateTime) :
    Decidable (WholeStepBehind policy firstSentAt now) :=
  inferInstanceAs (Decidable (_ ≤ _))

/-- The whole ramp steps since the first send, none before it. -/
def wholeSteps (firstSentAt now : OffsetDateTime) : Int :=
  max 0 (sinceFirstSend firstSentAt now / rampStepSeconds policy)

def countedSteps (firstSentAt now : OffsetDateTime) : U32 :=
  (Ranged.tryFrom
    (((now.unixTimestamp - firstSentAt.unixTimestamp).tdiv
      86400).tdiv (max policy.rampStepDays.val 1))).getD 4294967295

theorem rampStepSeconds_pos : 0 < rampStepSeconds policy := by
  unfold rampStepSeconds
  omega

theorem wholeSteps_nonneg (firstSentAt now : OffsetDateTime) :
    0 ≤ wholeSteps policy firstSentAt now :=
  le_max_left _ _

theorem elapsedSteps_eq (elapsed : Int) :
    (elapsed.tdiv 86400).tdiv (max policy.rampStepDays.val 1) =
      elapsed.tdiv (rampStepSeconds policy) := by
  unfold rampStepSeconds
  have days : 0 < max policy.rampStepDays.val 1 := by omega
  rcases Int.le_total 0 elapsed with after | before
  · rw [Int.tdiv_eq_ediv_of_nonneg after,
      Int.tdiv_eq_ediv_of_nonneg (Int.ediv_nonneg after (by decide)),
      Int.tdiv_eq_ediv_of_nonneg after,
      Int.ediv_ediv_of_nonneg (by decide)]
  · have flipped : 0 ≤ -elapsed := by omega
    have positive :
        ((-elapsed).tdiv 86400).tdiv (max policy.rampStepDays.val 1) =
          (-elapsed).tdiv (86400 * max policy.rampStepDays.val 1) := by
      rw [Int.tdiv_eq_ediv_of_nonneg flipped,
        Int.tdiv_eq_ediv_of_nonneg (Int.ediv_nonneg flipped (by decide)),
        Int.tdiv_eq_ediv_of_nonneg flipped,
        Int.ediv_ediv_of_nonneg (by decide)]
    rw [Int.neg_tdiv, Int.neg_tdiv, Int.neg_tdiv] at positive
    omega

/-- A truncated quotient cast to an unsigned count, the most if it fails. -/
theorem val_tryFrom_tdiv {step : Int} (positive : 0 < step) (elapsed : Int) :
    ((Ranged.tryFrom (elapsed.tdiv step)).getD (4294967295 : U32)).val =
      if elapsed ≤ -step then
        4294967295
      else
        min 4294967295 (max 0 (elapsed / step)) := by
  have most : (4294967295 : U32).val = 4294967295 := rfl
  rcases Int.le_total 0 elapsed with after | before
  · have nonnegative : 0 ≤ elapsed / step := Int.ediv_nonneg after (by omega)
    rw [if_neg (by omega), Int.tdiv_eq_ediv_of_nonneg after]
    unfold Ranged.tryFrom
    split
    · simp only [Option.getD_some]
      omega
    · simp only [Option.getD_none, most]
      omega
  · have flipped : elapsed.tdiv step = -(-elapsed / step) := by
      have unsigned := @Int.tdiv_eq_ediv_of_nonneg (-elapsed) step (by omega)
      rw [Int.neg_tdiv] at unsigned
      omega
    rw [flipped]
    by_cases behind : elapsed ≤ -step
    · have whole : 1 ≤ -elapsed / step := (Int.le_ediv_iff_mul_le positive).mpr (by omega)
      rw [if_pos behind, Ranged.tryFrom, dif_neg (by omega)]
      rfl
    · have part : -elapsed / step = 0 := Int.ediv_eq_zero_of_lt (by omega) (by omega)
      have started : elapsed / step ≤ 0 := Int.ediv_le_of_le_mul positive (by omega)
      rw [if_neg behind, part, Ranged.tryFrom,
        dif_pos (by decide : (0 : Int) ≤ -0 ∧ -0 ≤ (4294967295 : Int))]
      simp only [Option.getD_some]
      omega

/--
Steps are counted exactly from the first send on, and for less than a step
before it; a whole step or more before it they read as the most there are.
-/
theorem val_countedSteps (firstSentAt now : OffsetDateTime) :
    (countedSteps policy firstSentAt now).val =
      if WholeStepBehind policy firstSentAt now then
        4294967295
      else
        min 4294967295 (wholeSteps policy firstSentAt now) := by
  unfold countedSteps
  rw [elapsedSteps_eq]
  exact val_tryFrom_tdiv (rampStepSeconds_pos policy) (sinceFirstSend firstSentAt now)

theorem wholeSteps_mono (firstSentAt : OffsetDateTime) {earlier later : OffsetDateTime}
    (ordered : earlier ≤ later) :
    wholeSteps policy firstSentAt earlier ≤ wholeSteps policy firstSentAt later := by
  have seconds : earlier.unixTimestamp ≤ later.unixTimestamp := Int.ediv_le_ediv (by decide) ordered
  have positive := rampStepSeconds_pos policy
  have steps :
      sinceFirstSend firstSentAt earlier / rampStepSeconds policy ≤
        sinceFirstSend firstSentAt later / rampStepSeconds policy := by
    unfold sinceFirstSend
    exact Int.ediv_le_ediv positive (by omega)
  unfold wholeSteps
  omega

end Steps

variable {snapshot : DeliverabilitySnapshot}

section Ceiling

variable {firstSentAt : OffsetDateTime}

/-- What the ramp would allow after so many steps, with no operator ceiling. -/
def rampHeight (policy : DeliverabilityPolicy) (steps : Int) : Int :=
  policy.rampStartTouches.val + policy.rampStepTouches.val * steps

theorem rampHeight_mono {fewer more : Int} (ordered : fewer ≤ more) :
    rampHeight policy fewer ≤ rampHeight policy more := by
  have touches := policy.rampStepTouches.lower
  have climbed := Int.mul_le_mul_of_nonneg_left ordered touches
  unfold rampHeight
  omega

theorem rampedCeiling_of_halted
    (halted : (verdict snapshot policy).sendingAllowed = false) (now : OffsetDateTime) :
    (rampedCeiling snapshot policy now).val = 0 := by
  rw [rampedCeiling, if_neg (by simp [halted])]
  rfl

section

variable (allowed : (verdict snapshot policy).sendingAllowed = true)
include allowed

theorem rampedCeiling_of_neverSent (neverSent : snapshot.firstSentAt = none)
    (now : OffsetDateTime) :
    rampedCeiling snapshot policy now =
      min policy.rampStartTouches snapshot.weeklyThirdPartyCeiling := by
  rw [rampedCeiling, if_pos allowed, neverSent]

theorem rampedCeiling_of_sent (sent : snapshot.firstSentAt = some firstSentAt)
    (now : OffsetDateTime) :
    (rampedCeiling snapshot policy now).val =
      min (rampHeight policy (countedSteps policy firstSentAt now).val)
        snapshot.weeklyThirdPartyCeiling.val := by
  have start := policy.rampStartTouches.lower
  have touches := policy.rampStepTouches.lower
  have steps := (countedSteps policy firstSentAt now).lower
  have ceiling := snapshot.weeklyThirdPartyCeiling.upper
  have climbed : 0 ≤ policy.rampStepTouches.val * (countedSteps policy firstSentAt now).val :=
    Int.mul_nonneg touches steps
  rw [rampedCeiling, if_pos allowed, sent]
  change (min (policy.rampStartTouches.saturatingAdd
    (policy.rampStepTouches.saturatingMul (countedSteps policy firstSentAt now)))
    snapshot.weeklyThirdPartyCeiling).val = _
  rw [Ranged.val_min, Ranged.val_saturatingAdd, Ranged.saturatingMul,
    Ranged.val_saturate, rampHeight]
  omega

theorem rampedCeiling_of_behind (sent : snapshot.firstSentAt = some firstSentAt)
    {now : OffsetDateTime} (behind : WholeStepBehind policy firstSentAt now)
    (climbs : 0 < policy.rampStepTouches.val) :
    (rampedCeiling snapshot policy now).val =
      snapshot.weeklyThirdPartyCeiling.val := by
  have start := policy.rampStartTouches.lower
  have ceiling := snapshot.weeklyThirdPartyCeiling.upper
  rw [rampedCeiling_of_sent allowed sent, val_countedSteps, if_pos behind, rampHeight]
  omega

/-- From less than a step before the first send on, steps are exact. -/
theorem rampedCeiling_of_not_behind (sent : snapshot.firstSentAt = some firstSentAt)
    {now : OffsetDateTime} (onTime : ¬ WholeStepBehind policy firstSentAt now) :
    (rampedCeiling snapshot policy now).val =
      min (rampHeight policy (wholeSteps policy firstSentAt now))
        snapshot.weeklyThirdPartyCeiling.val := by
  have start := policy.rampStartTouches.lower
  have touches := policy.rampStepTouches.lower
  have ceiling := snapshot.weeklyThirdPartyCeiling.upper
  have steps := wholeSteps_nonneg policy firstSentAt now
  rw [rampedCeiling_of_sent allowed sent, val_countedSteps, if_neg onTime]
  rcases Int.le_total (wholeSteps policy firstSentAt now) 4294967295 with counted | uncounted
  · rw [min_eq_right counted]
  · -- Past the largest count the ramp is flat or beyond any ceiling.
    rw [min_eq_left uncounted]
    rcases Int.lt_or_le 0 policy.rampStepTouches.val with climbs | flat
    · have most := @rampHeight_mono policy _ _ uncounted
      have reached : snapshot.weeklyThirdPartyCeiling.val ≤ rampHeight policy 4294967295 := by
        unfold rampHeight
        omega
      omega
    · have still : policy.rampStepTouches.val = 0 := by omega
      simp only [rampHeight, still, Int.zero_mul]

theorem rampedCeiling_of_flat (sent : snapshot.firstSentAt = some firstSentAt)
    (flat : policy.rampStepTouches.val = 0) (now : OffsetDateTime) :
    (rampedCeiling snapshot policy now).val = min policy.rampStartTouches.val
        snapshot.weeklyThirdPartyCeiling.val := by
  rw [rampedCeiling_of_sent allowed sent, rampHeight, flat, Int.zero_mul, Int.add_zero]

end

theorem rampedCeiling_le_ceiling (now : OffsetDateTime) :
    rampedCeiling snapshot policy now ≤ snapshot.weeklyThirdPartyCeiling := by
  have lower := snapshot.weeklyThirdPartyCeiling.lower
  unfold rampedCeiling
  split
  · split
    · exact min_le_right _ _
    · exact min_le_right _ _
  · exact Ranged.le_iff_val.mpr lower

theorem rampedCeiling_le_of_moreFaults {cleaner worse : DeliverabilitySnapshot}
    (faults : MoreFaults cleaner worse) (now : OffsetDateTime) :
    rampedCeiling worse policy now ≤ rampedCeiling cleaner policy now := by
  by_cases allowed : (verdict worse policy).sendingAllowed = true
  · have cleanerAllowed := sendingAllowed_of_moreFaults faults allowed
    unfold rampedCeiling
    rw [if_pos allowed, if_pos cleanerAllowed, faults.firstSent, faults.ceiling]
  · have halted : (verdict worse policy).sendingAllowed = false := by
      simpa using allowed
    rw [Ranged.le_iff_val, rampedCeiling_of_halted halted]
    exact (rampedCeiling cleaner policy now).lower

/--
When time does not lower the ceiling: nothing ramps, the earlier clock is not a
whole step behind the first send or the later one is so as well, or the ramp
has reached the operator's ceiling by then.
-/
def TimeWidens (snapshot : DeliverabilitySnapshot) (policy : DeliverabilityPolicy)
    (earlier later : OffsetDateTime) : Prop :=
  (verdict snapshot policy).sendingAllowed = false ∨
    policy.rampStepTouches.val = 0 ∨
    ∀ firstSentAt, snapshot.firstSentAt = some firstSentAt →
      WholeStepBehind policy firstSentAt earlier →
      WholeStepBehind policy firstSentAt later ∨
        snapshot.weeklyThirdPartyCeiling.val ≤
          rampHeight policy (wholeSteps policy firstSentAt later)

/--
When a clock before the first send reads no more than the start of the ramp:
nothing ramps, the operator's ceiling is no higher, or the clock is less than a
whole step behind.
-/
def SkewStaysLow (snapshot : DeliverabilitySnapshot) (policy : DeliverabilityPolicy)
    (firstSentAt now : OffsetDateTime) : Prop :=
  (verdict snapshot policy).sendingAllowed = false ∨
    policy.rampStepTouches.val = 0 ∨
    snapshot.weeklyThirdPartyCeiling ≤ policy.rampStartTouches ∨
    ¬ WholeStepBehind policy firstSentAt now

theorem rampedCeiling_le_later_iff {earlier later : OffsetDateTime} (ordered : earlier ≤ later) :
    rampedCeiling snapshot policy earlier ≤ rampedCeiling snapshot policy later ↔
      TimeWidens snapshot policy earlier later := by
  rw [Ranged.le_iff_val]
  by_cases allowed : (verdict snapshot policy).sendingAllowed = true
  case neg =>
    have halted : (verdict snapshot policy).sendingAllowed = false := by
      simpa using allowed
    rw [rampedCeiling_of_halted halted, rampedCeiling_of_halted halted]
    exact iff_of_true (le_refl _) (Or.inl halted)
  cases sent : snapshot.firstSentAt with
  | none =>
    rw [rampedCeiling_of_neverSent allowed sent, rampedCeiling_of_neverSent allowed sent]
    refine iff_of_true (le_refl _) (Or.inr (Or.inr ?_))
    intro firstSentAt some
    rw [sent] at some
    cases some
  | some firstSentAt =>
    simp only [TimeWidens, allowed, sent, Bool.true_eq_false, false_or,
      Option.some.injEq, forall_eq']
    have touches := policy.rampStepTouches.lower
    have widened := wholeSteps_mono policy firstSentAt ordered
    have higher := @rampHeight_mono policy _ _ widened
    rcases Int.lt_or_eq_of_le touches with climbs | flat
    case inr =>
      rw [rampedCeiling_of_flat allowed sent flat.symm,
        rampedCeiling_of_flat allowed sent flat.symm]
      exact iff_of_true (le_refl _) (Or.inl flat.symm)
    by_cases behind : WholeStepBehind policy firstSentAt earlier
    · rw [rampedCeiling_of_behind allowed sent behind climbs]
      by_cases still : WholeStepBehind policy firstSentAt later
      · rw [rampedCeiling_of_behind allowed sent still climbs]
        exact iff_of_true (le_refl _) (Or.inr (fun _ => Or.inl still))
      · rw [rampedCeiling_of_not_behind allowed sent still]
        simp only [behind, still, forall_const, false_or]
        omega
    · have onTime : ¬ WholeStepBehind policy firstSentAt later := by
        have seconds : earlier.unixTimestamp ≤ later.unixTimestamp :=
          Int.ediv_le_ediv (by decide) ordered
        unfold WholeStepBehind sinceFirstSend at *
        omega
      rw [rampedCeiling_of_not_behind allowed sent behind,
        rampedCeiling_of_not_behind allowed sent onTime]
      exact iff_of_true (by omega) (Or.inr (fun happened => absurd happened behind))

theorem rampedCeiling_before_first_iff {firstSentAt now : OffsetDateTime}
    (sent : snapshot.firstSentAt = some firstSentAt) (before : now < firstSentAt) :
    rampedCeiling snapshot policy now ≤ policy.rampStartTouches ↔
      SkewStaysLow snapshot policy firstSentAt now := by
  rw [Ranged.le_iff_val]
  have start := policy.rampStartTouches.lower
  have touches := policy.rampStepTouches.lower
  by_cases allowed : (verdict snapshot policy).sendingAllowed = true
  case neg =>
    have halted : (verdict snapshot policy).sendingAllowed = false := by
      simpa using allowed
    rw [rampedCeiling_of_halted halted]
    exact iff_of_true start (Or.inl halted)
  simp only [SkewStaysLow, allowed, Bool.true_eq_false, false_or]
  rcases Int.lt_or_eq_of_le touches with climbs | flat
  case inr =>
    rw [rampedCeiling_of_flat allowed sent flat.symm]
    exact iff_of_true (by omega) (Or.inl flat.symm)
  by_cases behind : WholeStepBehind policy firstSentAt now
  · rw [rampedCeiling_of_behind allowed sent behind climbs,
      Ranged.le_iff_val]
    simp only [behind, not_true_eq_false, or_false]
    omega
  · have seconds : now.unixTimestamp ≤ firstSentAt.unixTimestamp :=
      Int.ediv_le_ediv (by decide) (le_of_lt before)
    have notYet : sinceFirstSend firstSentAt now / rampStepSeconds policy ≤ 0 :=
      Int.ediv_le_of_le_mul (rampStepSeconds_pos policy) (by unfold sinceFirstSend; omega)
    have none : wholeSteps policy firstSentAt now = 0 := by
      unfold wholeSteps
      omega
    rw [rampedCeiling_of_not_behind allowed sent behind, none,
      rampHeight, Int.mul_zero, Int.add_zero]
    exact iff_of_true (by omega) (Or.inr (Or.inr behind))

end Ceiling

/--
The sending ramp is bounded by the operator's ceiling, closed to a halted
sender and never widened by faults; time widens it, and a clock before the
first send reads no more than its start, exactly under the conditions above.
-/
theorem sending_ramp_laws
    (snapshot : DeliverabilitySnapshot)
    (policy : DeliverabilityPolicy) :
    (∀ now, rampedCeiling snapshot policy now ≤
      snapshot.weeklyThirdPartyCeiling) ∧
    ((verdict snapshot policy).sendingAllowed = false →
      ∀ now, rampedCeiling snapshot policy now = 0) ∧
    (∀ worse, MoreFaults snapshot worse →
      ∀ now, rampedCeiling worse policy now ≤ rampedCeiling snapshot policy now) ∧
    (∀ earlier later, earlier ≤ later →
      (rampedCeiling snapshot policy earlier ≤
          rampedCeiling snapshot policy later ↔
        TimeWidens snapshot policy earlier later)) ∧
    (∀ firstSentAt now, snapshot.firstSentAt = some firstSentAt →
      now < firstSentAt →
      (rampedCeiling snapshot policy now ≤ policy.rampStartTouches ↔
        SkewStaysLow snapshot policy firstSentAt now)) := by
  refine ⟨rampedCeiling_le_ceiling, ?_, ?_, ?_, ?_⟩
  · intro halted now
    exact Ranged.val_injective (rampedCeiling_of_halted halted now)
  · intro worse faults now
    exact rampedCeiling_le_of_moreFaults faults now
  · intro earlier later ordered
    exact rampedCeiling_le_later_iff ordered
  · intro firstSentAt now sent before
    exact rampedCeiling_before_first_iff sent before

/-- A clean record that has just begun to send under a ceiling of forty. -/
def justBegun : DeliverabilitySnapshot where
  sent30d := 0
  bounces30d := 0
  complaints30d := 0
  firstSentAt := some (1780000000 * 1000000000)
  weeklyThirdPartyCeiling := 40

theorem sending_ramp_laws_witness :
    rampedCeiling justBegun .default (1780000000 * 1000000000) ≤
      rampedCeiling justBegun .default (1780604800 * 1000000000) :=
  ((sending_ramp_laws justBegun .default).2.2.2.1 _ _
    (by decide)).mpr
    (Or.inr (Or.inr (by
      intro firstSentAt sent behind
      cases sent
      revert behind
      decide)))

/-- A week before the first send the whole budget is open, not its start. -/
theorem clock_a_week_behind_opens_the_budget :
    (rampedCeiling justBegun .default
        ((1780000000 - 604800) * 1000000000)).val = 40 ∧
      (rampedCeiling justBegun .default
        (1780000000 * 1000000000)).val = 3 := by
  decide +kernel

/-!
# When the sending ramp next widens

The announced step is the end of the ramp step the clock is in.  Up to it the
ceiling stands still and there it is higher, as long as that point is still in
the calendar: adding past its end does not return.
-/

/-- Adding days to a point in time, which fails past the calendar's end. -/
def addDays (time : OffsetDateTime) (days : Int) : Option OffsetDateTime :=
  let sum := time + days * 86400 * 1000000000
  if sum ≤ lastOffsetDateTime then some sum else none

/-- Whether the ramp has anything left to give. -/
def rampComplete (snapshot : DeliverabilitySnapshot) (policy : DeliverabilityPolicy)
    (now : OffsetDateTime) : Bool :=
  snapshot.weeklyThirdPartyCeiling ≤ rampedCeiling snapshot policy now

/--
When the ramp next widens, `some none` once it is finished or halted; the
outer `none` is an addition that does not return.
-/
def nextRampStepAt (snapshot : DeliverabilitySnapshot) (policy : DeliverabilityPolicy)
    (now : OffsetDateTime) : Option (Option OffsetDateTime) :=
  if rampComplete snapshot policy now ||
      !(verdict snapshot policy).sendingAllowed then
    some none
  else
    match snapshot.firstSentAt with
    | none => some none
    | some firstSentAt =>
      let step := max policy.rampStepDays.val 1
      let elapsedDays := (now.unixTimestamp - firstSentAt.unixTimestamp).tdiv 86400
      let nextStep := elapsedDays.tdiv step + 1
      (addDays firstSentAt (nextStep * step)).map some

section NextStep

variable {firstSentAt now : OffsetDateTime} {instant : OffsetDateTime}

/-- The end of the ramp step a clock is in, were there no last day. -/
def endOfStep (policy : DeliverabilityPolicy)
    (firstSentAt now : OffsetDateTime) : OffsetDateTime :=
  firstSentAt +
    (wholeSteps policy firstSentAt now + 1) * rampStepSeconds policy * 1000000000

theorem wholeSteps_of_sent (begun : firstSentAt ≤ now) :
    wholeSteps policy firstSentAt now =
      sinceFirstSend firstSentAt now / rampStepSeconds policy := by
  have seconds : firstSentAt.unixTimestamp ≤ now.unixTimestamp := Int.ediv_le_ediv (by decide) begun
  have nonnegative : 0 ≤ sinceFirstSend firstSentAt now / rampStepSeconds policy :=
    Int.ediv_nonneg (by unfold sinceFirstSend; omega) (le_of_lt (rampStepSeconds_pos policy))
  unfold wholeSteps
  omega

theorem not_wholeStepBehind_of_sent (begun : firstSentAt ≤ now) :
    ¬ WholeStepBehind policy firstSentAt now := by
  have positive := rampStepSeconds_pos policy
  have seconds : firstSentAt.unixTimestamp ≤ now.unixTimestamp := Int.ediv_le_ediv (by decide) begun
  unfold WholeStepBehind sinceFirstSend
  omega

theorem nextRampStepAt_eq (allowed : (verdict snapshot policy).sendingAllowed = true)
    (incomplete : rampComplete snapshot policy now = false)
    (sent : snapshot.firstSentAt = some firstSentAt) (begun : firstSentAt ≤ now) :
    nextRampStepAt snapshot policy now =
      if endOfStep policy firstSentAt now ≤ lastOffsetDateTime then
        some (some (endOfStep policy firstSentAt now))
      else
        none := by
  have seconds : firstSentAt.unixTimestamp ≤ now.unixTimestamp := Int.ediv_le_ediv (by decide) begun
  have elapsed : 0 ≤ sinceFirstSend firstSentAt now := by
    unfold sinceFirstSend
    omega
  have steps :
      ((now.unixTimestamp - firstSentAt.unixTimestamp).tdiv 86400).tdiv
          (max policy.rampStepDays.val 1) =
        wholeSteps policy firstSentAt now := by
    rw [elapsedSteps_eq, wholeSteps_of_sent begun]
    exact Int.tdiv_eq_ediv_of_nonneg elapsed
  have length :
      (wholeSteps policy firstSentAt now + 1) * max policy.rampStepDays.val 1 * 86400 =
        (wholeSteps policy firstSentAt now + 1) * rampStepSeconds policy := by
    rw [rampStepSeconds, Int.mul_assoc, Int.mul_comm (max policy.rampStepDays.val 1)]
  have added :
      addDays firstSentAt
          ((wholeSteps policy firstSentAt now + 1) * max policy.rampStepDays.val 1) =
        if endOfStep policy firstSentAt now ≤ lastOffsetDateTime then
          some (endOfStep policy firstSentAt now)
        else
          none := by
    unfold addDays endOfStep
    rw [length]
  unfold nextRampStepAt
  rw [if_neg (by simp [incomplete, allowed]), sent]
  simp only [steps, added]
  split <;> rfl

theorem unixTimestamp_endOfStep :
    (endOfStep policy firstSentAt now).unixTimestamp = firstSentAt.unixTimestamp +
        (wholeSteps policy firstSentAt now + 1) * rampStepSeconds policy := by
  unfold endOfStep OffsetDateTime.unixTimestamp
  exact Int.add_mul_ediv_right _ _ (by decide)

theorem lt_endOfStep (begun : firstSentAt ≤ now) : now < endOfStep policy firstSentAt now := by
  apply lt_of_unixTimestamp_lt
  have within := Int.lt_ediv_add_one_mul_self (sinceFirstSend firstSentAt now)
      (rampStepSeconds_pos policy)
  rw [unixTimestamp_endOfStep, wholeSteps_of_sent begun]
  unfold sinceFirstSend at *
  omega

theorem whole_seconds_before {start length instant : Int} (wholeSecond : start % 1000000000 = 0)
    (before : instant < start + length * 1000000000) :
    instant / 1000000000 < start / 1000000000 + length := by
  omega

theorem wholeSteps_until (begun : firstSentAt ≤ now)
    (wholeSecond : firstSentAt % 1000000000 = 0) (after : now ≤ instant)
    (before : instant < endOfStep policy firstSentAt now) :
    wholeSteps policy firstSentAt instant = wholeSteps policy firstSentAt now := by
  have positive := rampStepSeconds_pos policy
  have grown := wholeSteps_mono policy firstSentAt after
  have seconds : instant.unixTimestamp < (endOfStep policy firstSentAt now).unixTimestamp := by
    rw [unixTimestamp_endOfStep]
    exact whole_seconds_before wholeSecond before
  rw [unixTimestamp_endOfStep] at seconds
  have below :
      sinceFirstSend firstSentAt instant / rampStepSeconds policy <
        wholeSteps policy firstSentAt now + 1 := by
    apply Int.ediv_lt_of_lt_mul positive
    unfold sinceFirstSend
    omega
  rw [wholeSteps_of_sent (begun.trans after)] at grown ⊢
  omega

theorem wholeSteps_endOfStep (begun : firstSentAt ≤ now) :
    wholeSteps policy firstSentAt (endOfStep policy firstSentAt now) =
      wholeSteps policy firstSentAt now + 1 := by
  have ahead := @lt_endOfStep policy _ _ begun
  have elapsed :
      sinceFirstSend firstSentAt (endOfStep policy firstSentAt now) =
        (wholeSteps policy firstSentAt now + 1) * rampStepSeconds policy := by
    rw [sinceFirstSend, unixTimestamp_endOfStep]
    omega
  rw [wholeSteps_of_sent (begun.trans (le_of_lt ahead)), elapsed]
  exact Int.mul_ediv_cancel _ (ne_of_gt (rampStepSeconds_pos policy))

theorem rampedCeiling_lt_endOfStep (allowed : (verdict snapshot policy).sendingAllowed = true)
    (incomplete : rampComplete snapshot policy now = false)
    (climbs : 0 < policy.rampStepTouches.val)
    (sent : snapshot.firstSentAt = some firstSentAt) (begun : firstSentAt ≤ now) :
    rampedCeiling snapshot policy now <
      rampedCeiling snapshot policy (endOfStep policy firstSentAt now) := by
  have ahead := @lt_endOfStep policy _ _ begun
  have here := rampedCeiling_of_not_behind allowed sent (not_wholeStepBehind_of_sent begun)
  have there := rampedCeiling_of_not_behind allowed sent
      (@not_wholeStepBehind_of_sent policy _ _ (begun.trans (le_of_lt ahead)))
  have room : (rampedCeiling snapshot policy now).val < snapshot.weeklyThirdPartyCeiling.val := by
    simpa [rampComplete, Ranged.lt_iff_val] using incomplete
  have higher :
      rampHeight policy (wholeSteps policy firstSentAt now) <
        rampHeight policy (wholeSteps policy firstSentAt now + 1) := by
    unfold rampHeight
    rw [Int.mul_add, Int.mul_one]
    omega
  rw [wholeSteps_endOfStep begun] at there
  rw [Ranged.lt_iff_val]
  omega

theorem rampedCeiling_until (allowed : (verdict snapshot policy).sendingAllowed = true)
    (sent : snapshot.firstSentAt = some firstSentAt) (begun : firstSentAt ≤ now)
    (wholeSecond : firstSentAt % 1000000000 = 0) (after : now ≤ instant)
    (before : instant < endOfStep policy firstSentAt now) :
    rampedCeiling snapshot policy instant = rampedCeiling snapshot policy now := by
  rw [Ranged.eq_iff_val,
    rampedCeiling_of_not_behind allowed sent (not_wholeStepBehind_of_sent (begun.trans after)),
    rampedCeiling_of_not_behind allowed sent (not_wholeStepBehind_of_sent begun),
    wholeSteps_until begun wholeSecond after before]

end NextStep

structure AnnouncesNextStep
    (snapshot : DeliverabilitySnapshot)
    (policy : DeliverabilityPolicy)
    (now next : OffsetDateTime) : Prop where
  announced : nextRampStepAt snapshot policy now = some (some next)
  ahead : now < next
  still :
    ∀ instant, now ≤ instant → instant < next →
      rampedCeiling snapshot policy instant =
        rampedCeiling snapshot policy now
  wider :
    rampedCeiling snapshot policy now < rampedCeiling snapshot policy next

/--
A climbing, healthy and incomplete ramp announces its next step exactly, if
and only if that step is still in the calendar.
-/
theorem announcesNextStep_iff
    {snapshot : DeliverabilitySnapshot}
    {policy : DeliverabilityPolicy}
    {firstSentAt now : OffsetDateTime}
    (climbs : 0 < policy.rampStepTouches)
    (allowed : (verdict snapshot policy).sendingAllowed = true)
    (incomplete : rampComplete snapshot policy now = false)
    (sent : snapshot.firstSentAt = some firstSentAt)
    (begun : firstSentAt ≤ now)
    (wholeSecond : firstSentAt % 1000000000 = 0) :
    (∃ next, AnnouncesNextStep snapshot policy now next) ↔
      firstSentAt +
          ((now.unixTimestamp - firstSentAt.unixTimestamp) /
              (86400 * max policy.rampStepDays.val 1) + 1) *
            (86400 * max policy.rampStepDays.val 1) * 1000000000 ≤
        lastOffsetDateTime := by
  have announced := nextRampStepAt_eq allowed incomplete sent begun
  have same :
      endOfStep policy firstSentAt now =
        firstSentAt +
          ((now.unixTimestamp - firstSentAt.unixTimestamp) /
              (86400 * max policy.rampStepDays.val 1) + 1) *
            (86400 * max policy.rampStepDays.val 1) * 1000000000 := by
    rw [endOfStep, wholeSteps_of_sent begun]
    rfl
  rw [← same]
  constructor
  · rintro ⟨next, announces⟩
    by_contra beyond
    rw [if_neg beyond, announces.announced] at announced
    cases announced
  · intro within
    rw [if_pos within] at announced
    refine ⟨endOfStep policy firstSentAt now, announced, lt_endOfStep begun, ?_, ?_⟩
    · intro instant after before
      exact rampedCeiling_until allowed sent begun wholeSecond after before
    · exact rampedCeiling_lt_endOfStep allowed incomplete
          (Ranged.lt_iff_val.mp climbs) sent begun

theorem announcesNextStep_justBegun :
    ∃ next, AnnouncesNextStep justBegun .default (1780000000 * 1000000000) next :=
  (announcesNextStep_iff (by decide) (by decide) (by decide) rfl
    (le_refl _) (by decide)).mpr (by decide)

/-- A ramp whose steps last ten thousand years never announces one. -/
theorem endless_step_does_not_return :
    nextRampStepAt justBegun
        { DeliverabilityPolicy.default with rampStepDays := 3652500 }
        (1780000000 * 1000000000) =
      none := by
  decide +kernel

end CrowdRelay
