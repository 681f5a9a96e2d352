import CrowdRelay.ActionPayload
import CrowdRelay.LiveOpportunity

namespace CrowdRelay

open MachineInt Ranged

/-!
# Free-reach pitching in waves

A batch of pitches around one anchor is drafted together and sized to what is
left of the weekly third-party budget.  The budget itself ramps up with the
sending history, and a halted sender has none.
-/

structure DeliverabilityPolicy where
  rampStartTouches : U32
  rampStepTouches : U32
  rampStepDays : U32
  maxBounceRateBasisPoints : U16
  maxComplaintRateBasisPoints : U16
  minimumRateSample : U32
  deriving Repr, DecidableEq

def DeliverabilityPolicy.default : DeliverabilityPolicy where
  rampStartTouches := 3
  rampStepTouches := 3
  rampStepDays := 7
  maxBounceRateBasisPoints := 200
  maxComplaintRateBasisPoints := 10
  minimumRateSample := 20

structure DeliverabilitySnapshot where
  sent30d : U32
  bounces30d : U32
  complaints30d : U32
  firstSentAt : Option OffsetDateTime
  weeklyThirdPartyCeiling : U32
  deriving Repr, DecidableEq

inductive DeliverabilityVerdict where
  | healthy
  | haltBounceRate
  | haltComplaintRate
  deriving Repr, DecidableEq

def DeliverabilityVerdict.sendingAllowed : DeliverabilityVerdict → Bool
  | healthy => true
  | _ => false

/-- A count in basis points of what was sent. -/
def faultRate (sent30d count : U32) : U32 :=
  (tryFrom (count.val * 10000 / max sent30d.val 1)).getD 4294967295

variable (snapshot : DeliverabilitySnapshot)

/-- Below the sample floor a rate is noise; complaints are read first. -/
def verdict
    (policy : DeliverabilityPolicy) : DeliverabilityVerdict :=
  if snapshot.sent30d < policy.minimumRateSample then
    .healthy
  else if policy.maxComplaintRateBasisPoints.val ≤
      (faultRate snapshot.sent30d snapshot.complaints30d).val then
    .haltComplaintRate
  else if policy.maxBounceRateBasisPoints.val ≤
      (faultRate snapshot.sent30d snapshot.bounces30d).val then
    .haltBounceRate
  else
    .healthy

/-- How many third-party sends the week may hold. -/
def rampedCeiling (policy : DeliverabilityPolicy)
    (now : OffsetDateTime) : U32 :=
  if (verdict snapshot policy).sendingAllowed then
    match snapshot.firstSentAt with
    | none => min policy.rampStartTouches snapshot.weeklyThirdPartyCeiling
    | some firstSentAt =>
      let step := max policy.rampStepDays.val 1
      let elapsedDays := (now.unixTimestamp - firstSentAt.unixTimestamp).tdiv 86400
      let steps : U32 := (tryFrom (elapsedDays.tdiv step)).getD 4294967295
      min
        (policy.rampStartTouches.saturatingAdd (policy.rampStepTouches.saturatingMul steps))
        snapshot.weeklyThirdPartyCeiling
  else
    0

inductive OutreachTargetKind where
  | playlist
  | radio
  | press
  | creator
  | supportSlot
  | endorsement
  | mediaPatronage
  | organiser
  | agent
  | label
  deriving Repr, DecidableEq

inductive WaveAnchor where
  | release (releaseId : Uuid)
  | event (eventId : Uuid)
  | catalogue (seasonId : Uuid)
  | threads (seasonId : Uuid)
  deriving Repr, DecidableEq

def WaveAnchor.isThreads : WaveAnchor → Bool
  | threads _ => true
  | _ => false

inductive WaveState where
  | drafting
  | sealed
  | approved
  | expired
  deriving Repr, DecidableEq

def WaveState.settled : WaveState → Bool
  | approved => true
  | expired => true
  | _ => false

structure FreeReachPolicy where
  maxPitchesPerWave : U16
  minPitchesPerWave : U16
  openLeadHours : U32
  draftingHours : U32
  deriving Repr, DecidableEq

def FreeReachPolicy.default : FreeReachPolicy where
  maxPitchesPerWave := 12
  minPitchesPerWave := 3
  openLeadHours := 1008
  draftingHours := 168

structure WaveSnapshot where
  anchor : WaveAnchor
  targetKind : OutreachTargetKind
  state : WaveState
  openedAt : OffsetDateTime
  anchorAt : OffsetDateTime
  pitches : U16
  eligibleTargets : U32
  thirdPartyBudgetRemaining : U32
  anchorActive : Bool
  deriving Repr, DecidableEq

inductive WaveExpiry where
  | anchorPassed
  | anchorWithdrawn
  | tooFewPitches
  deriving Repr, DecidableEq

inductive WaveHold where
  | notOurs
  | noEligibleTargets
  | budgetReached
  deriving Repr, DecidableEq

inductive WaveDecision where
  | addPitch
  | seal
  | expire (reason : WaveExpiry)
  | hold (hold : WaveHold)
  deriving Repr, DecidableEq

/-- The lower of the operator's ceiling and what is left of the budget. -/
def waveCapacity (snapshot : WaveSnapshot)
    (policy : FreeReachPolicy) : U16 :=
  let budget : U16 := (tryFrom snapshot.thirdPartyBudgetRemaining.val).getD 65535
  min policy.maxPitchesPerWave budget

/-- The wave's next move.  Sealing beats adding. -/
def evaluateWave (snapshot : WaveSnapshot) (policy : FreeReachPolicy)
    (now : OffsetDateTime) : WaveDecision :=
  if snapshot.state.settled then
    .hold .notOurs
  else if !snapshot.anchorActive then
    .expire .anchorWithdrawn
  else if snapshot.anchorAt.unixTimestamp ≤ now.unixTimestamp then
    .expire .anchorPassed
  else if snapshot.state = .sealed then
    .hold .notOurs
  else
    let capacity := waveCapacity snapshot policy
    let windowCloses : OffsetDateTime :=
      snapshot.openedAt + policy.draftingHours.val * 3600 * 1000000000
    if capacity ≤ snapshot.pitches then
      if policy.minPitchesPerWave ≤ snapshot.pitches then .seal else .expire .tooFewPitches
    else if windowCloses.unixTimestamp ≤ now.unixTimestamp then
      if policy.minPitchesPerWave ≤ snapshot.pitches then .seal else .expire .tooFewPitches
    else if snapshot.eligibleTargets = 0 then
      .hold .noEligibleTargets
    else
      .addPitch

def waveIsWorthOpening (anchorActive : Bool) (hoursUntilAnchor : I64)
    (eligibleTargets thirdPartyBudgetRemaining : U32)
    (policy : FreeReachPolicy) : Bool :=
  anchorActive &&
    decide (hoursUntilAnchor.val ≤ policy.openLeadHours.val) &&
    decide (policy.draftingHours.val < hoursUntilAnchor.val) &&
    decide (policy.minPitchesPerWave.val ≤ eligibleTargets.val) &&
    decide (policy.minPitchesPerWave.val ≤ thirdPartyBudgetRemaining.val)

section Capacity

variable {snapshot : WaveSnapshot} {policy : FreeReachPolicy} {now : OffsetDateTime}

theorem waveCapacity_val :
    (waveCapacity snapshot policy).val = min policy.maxPitchesPerWave.val
        snapshot.thirdPartyBudgetRemaining.val := by
  have ceiling := policy.maxPitchesPerWave.upper
  simp only [waveCapacity, Ranged.val_min]
  cases fits : (tryFrom snapshot.thirdPartyBudgetRemaining.val : Option U16) with
  | none =>
    have lower := snapshot.thirdPartyBudgetRemaining.lower
    have tooLarge : 65535 < snapshot.thirdPartyBudgetRemaining.val := by
      by_contra small
      have converted := (@tryFrom_isSome_iff 0 65535 _).mpr ⟨lower, not_lt.mp small⟩
      rw [fits] at converted
      cases converted
    have widest : (65535 : U16).val = 65535 := rfl
    rw [Option.getD_none, widest]
    omega
  | some budget => rw [Option.getD_some, tryFrom_eq_some_iff.mp fits]

theorem pitches_lt_of_addPitch (adds : evaluateWave snapshot policy now = .addPitch) :
    snapshot.pitches < waveCapacity snapshot policy := by
  unfold evaluateWave at adds
  dsimp only at adds
  split at adds
  · cases adds
  split at adds
  · cases adds
  split at adds
  · cases adds
  split at adds
  · cases adds
  split at adds
  · split at adds <;> cases adds
  · rename_i room
    exact lt_of_not_ge room

theorem minPitches_le_of_seal (seals : evaluateWave snapshot policy now = .seal) :
    policy.minPitchesPerWave ≤ snapshot.pitches := by
  unfold evaluateWave at seals
  dsimp only at seals
  split at seals
  · cases seals
  split at seals
  · cases seals
  split at seals
  · cases seals
  split at seals
  · cases seals
  split at seals
  · split at seals
    · assumption
    · cases seals
  split at seals
  · split at seals
    · assumption
    · cases seals
  · split at seals <;> cases seals

end Capacity

end CrowdRelay
