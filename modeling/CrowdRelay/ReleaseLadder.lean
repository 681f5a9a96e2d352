import Mathlib.Algebra.Order.Ring.Int
import CrowdRelay.ContentSupply
import CrowdRelay.FirstWaiting

namespace CrowdRelay

open FirstWaiting MachineInt Ranged

/-!
# The ladder of a release

Which milestone of a release is due, and the ladder as a page shows it.  The
evaluator answers from the first window that is open; the page judges each
rung by its own due date.
-/

structure ReleaseMilestoneHistory where
  calendarSeeded : Bool
  editorialPitchParked : Bool
  announcementSent : Bool
  pressStarted : Bool
  fanWarmupSent : Bool
  countdownSent : Bool
  releaseDaySent : Bool
  sustainSent : Bool
  wrapSent : Bool
  catalogueRotationSent : Bool
  deriving Repr, DecidableEq

namespace ReleaseMilestoneHistory

def recorded (history : ReleaseMilestoneHistory) : ReleaseMilestone → Bool
  | .seedCalendar => history.calendarSeeded
  | .editorialPitch => history.editorialPitchParked
  | .announcement => history.announcementSent
  | .startPress => history.pressStarted
  | .fanWarmup => history.fanWarmupSent
  | .countdown => history.countdownSent
  | .releaseDay => history.releaseDaySent
  | .sustain => history.sustainSent
  | .wrap => history.wrapSent
  | .catalogueRotation => history.catalogueRotationSent

variable (history : ReleaseMilestoneHistory)

def record :
    ReleaseMilestone → ReleaseMilestoneHistory
  | .seedCalendar => { history with calendarSeeded := true }
  | .editorialPitch => { history with editorialPitchParked := true }
  | .announcement => { history with announcementSent := true }
  | .startPress => { history with pressStarted := true }
  | .fanWarmup => { history with fanWarmupSent := true }
  | .countdown => { history with countdownSent := true }
  | .releaseDay => { history with releaseDaySent := true }
  | .sustain => { history with sustainSent := true }
  | .wrap => { history with wrapSent := true }
  | .catalogueRotation => { history with catalogueRotationSent := true }

@[simp] theorem recorded_record (marked milestone : ReleaseMilestone) :
    (history.record marked).recorded milestone =
      (decide (milestone = marked) || history.recorded milestone) := by
  cases marked <;> cases milestone <;> rfl

end ReleaseMilestoneHistory

structure ReleasePlanSnapshot where
  releaseAt : OffsetDateTime
  active : Bool
  tier : ReleaseTier
  assetsReady : Bool
  communicationEnabled : Bool
  pressEnabled : Bool
  editorialPitchCompletedAt : Option OffsetDateTime
  editorialPitchEscalatedAt : Option OffsetDateTime
  history : ReleaseMilestoneHistory
  deriving Repr, DecidableEq

structure ReleaseAutopilotPolicy where
  calendarLeadDays : U32
  editorialPitchDaysBefore : U32
  editorialPitchEscalateWithinDays : U32
  editorialPitchEscalationCooldownHours : U32
  announcementDaysBefore : U32
  pressDaysBefore : U32
  fanWarmupDaysBefore : U32
  countdownDaysBefore : U32
  sustainDaysAfter : U32
  wrapDaysAfter : U32
  catalogueRotationDaysAfter : U32
  deriving Repr, DecidableEq

def ReleaseAutopilotPolicy.default : ReleaseAutopilotPolicy where
  calendarLeadDays := 42
  editorialPitchDaysBefore := 28
  editorialPitchEscalateWithinDays := 10
  editorialPitchEscalationCooldownHours := 48
  announcementDaysBefore := 28
  pressDaysBefore := 21
  fanWarmupDaysBefore := 14
  countdownDaysBefore := 7
  sustainDaysAfter := 3
  wrapDaysAfter := 14
  catalogueRotationDaysAfter := 30

inductive ReleaseHoldReason where
  | invalidPolicy
  | inactive
  | tierFiller
  | assetsMissing
  | communicationDisabled
  | notDue
  | alreadyDone
  deriving Repr, DecidableEq

inductive ReleaseDecision where
  | hold (reason : ReleaseHoldReason)
  | request (milestone : ReleaseMilestone) (confidence : Confidence)
  | escalateEditorialPitch (dueAt : OffsetDateTime) (confidence : Confidence)
  deriving Repr, DecidableEq

def validReleasePolicy (policy : ReleaseAutopilotPolicy) : Bool :=
  policy.editorialPitchDaysBefore >
      policy.editorialPitchEscalateWithinDays &&
    policy.editorialPitchEscalationCooldownHours > 0 &&
    policy.calendarLeadDays ≥ policy.announcementDaysBefore &&
    policy.announcementDaysBefore ≥ policy.pressDaysBefore &&
    policy.pressDaysBefore ≥ policy.fanWarmupDaysBefore &&
    policy.fanWarmupDaysBefore ≥ policy.countdownDaysBefore &&
    policy.countdownDaysBefore > 0 &&
    policy.wrapDaysAfter > policy.sustainDaysAfter &&
    policy.catalogueRotationDaysAfter > policy.wrapDaysAfter

def daysLong (days : U32) : Int := days.val * nanosPerDay

def answerWindow (history : ReleaseMilestoneHistory) (milestone : ReleaseMilestone)
    (confidence : Confidence) : ReleaseDecision :=
  if history.recorded milestone then .hold .alreadyDone else .request milestone confidence

section Evaluation

variable (snapshot : ReleasePlanSnapshot) (policy : ReleaseAutopilotPolicy) (now : OffsetDateTime)

def pitchDueAt : OffsetDateTime := snapshot.releaseAt - daysLong policy.editorialPitchDaysBefore

/-- The last chase of the pitch is long enough ago. -/
def pitchCooled : Bool :=
  snapshot.editorialPitchEscalatedAt.all fun last =>
    last + policy.editorialPitchEscalationCooldownHours.val * nanosPerHour ≤ now

/-- The windows of the ladder, the last one first. -/
def evaluateWindows : ReleaseDecision :=
  let untilRelease := snapshot.releaseAt - now
  if untilRelease ≤ -daysLong policy.catalogueRotationDaysAfter then
    answerWindow snapshot.history .catalogueRotation 9500
  else if untilRelease ≤ -daysLong policy.wrapDaysAfter then
    answerWindow snapshot.history .wrap 9500
  else if untilRelease ≤ -daysLong policy.sustainDaysAfter then
    answerWindow snapshot.history .sustain 9500
  else if untilRelease ≤ 0 then
    answerWindow snapshot.history .releaseDay 9900
  else if untilRelease ≤ daysLong policy.countdownDaysBefore then
    answerWindow snapshot.history .countdown 9400
  else if untilRelease ≤ daysLong policy.fanWarmupDaysBefore then
    answerWindow snapshot.history .fanWarmup 9200
  else if snapshot.pressEnabled &&
      untilRelease ≤ daysLong policy.pressDaysBefore then
    answerWindow snapshot.history .startPress 9100
  else if untilRelease ≤ daysLong policy.announcementDaysBefore then
    answerWindow snapshot.history .announcement 9300
  else
    .hold .notDue

/-- A plan filed after its publication still gets its press wave. -/
def evaluateLatePress : ReleaseDecision :=
  let untilRelease := snapshot.releaseAt - now
  if snapshot.pressEnabled && !snapshot.history.pressStarted &&
      untilRelease ≤ 0 && -(14 * nanosPerDay) < untilRelease then
    .request .startPress 9100
  else
    evaluateWindows snapshot policy now

/-- The pitch before the ladder: its deadline is somebody else's. -/
def evaluatePitch : ReleaseDecision :=
  let untilRelease := snapshot.releaseAt - now
  if snapshot.editorialPitchCompletedAt.isNone && 0 < untilRelease then
    if !snapshot.history.editorialPitchParked &&
        pitchDueAt snapshot policy ≤ now then
      .request .editorialPitch 9900
    else if snapshot.history.editorialPitchParked &&
        untilRelease ≤ daysLong policy.editorialPitchEscalateWithinDays &&
        pitchCooled snapshot policy now then
      .escalateEditorialPitch (pitchDueAt snapshot policy) 9800
    else
      evaluateLatePress snapshot policy now
  else
    evaluateLatePress snapshot policy now

def evaluateRelease : ReleaseDecision :=
  if !validReleasePolicy policy then
    .hold .invalidPolicy
  else if !snapshot.active then
    .hold .inactive
  else if snapshot.tier = .filler then
    .hold .tierFiller
  else if !snapshot.history.calendarSeeded &&
      snapshot.releaseAt - daysLong policy.calendarLeadDays ≤ now then
    .request .seedCalendar 9900
  else if !snapshot.assetsReady then
    .hold .assetsMissing
  else if !snapshot.communicationEnabled then
    .hold .communicationDisabled
  else
    evaluatePitch snapshot policy now

end Evaluation

/-! ## The view -/

inductive ReleaseStepState where
  | done
  | parked
  | due
  | upcoming
  | disabled
  | blocked
  | held
  deriving Repr, DecidableEq

structure ReleaseTimelineStep where
  milestone : ReleaseMilestone
  offsetDays : I32
  dueAt : OffsetDateTime
  completedAt : Option OffsetDateTime
  state : ReleaseStepState
  deriving Repr, DecidableEq

/-- The days of a rung relative to the release. -/
def rungOffset (policy : ReleaseAutopilotPolicy) : ReleaseMilestone → Int
  | .seedCalendar => -policy.calendarLeadDays.val
  | .editorialPitch => -policy.editorialPitchDaysBefore.val
  | .announcement => -policy.announcementDaysBefore.val
  | .startPress => -policy.pressDaysBefore.val
  | .fanWarmup => -policy.fanWarmupDaysBefore.val
  | .countdown => -policy.countdownDaysBefore.val
  | .releaseDay => 0
  | .sustain => policy.sustainDaysAfter.val
  | .wrap => policy.wrapDaysAfter.val
  | .catalogueRotation => policy.catalogueRotationDaysAfter.val

def releaseRungs : List ReleaseMilestone :=
  [.seedCalendar, .editorialPitch, .announcement, .startPress, .fanWarmup,
    .countdown, .releaseDay, .sustain, .wrap, .catalogueRotation]

section View

variable (snapshot : ReleasePlanSnapshot) (policy : ReleaseAutopilotPolicy) (now : OffsetDateTime)

def rungDueAt (milestone : ReleaseMilestone) : OffsetDateTime :=
  snapshot.releaseAt + rungOffset policy milestone * nanosPerDay

def stepState (milestone : ReleaseMilestone) (completedAt : Option OffsetDateTime)
    (dueAt : OffsetDateTime)
    (held : List ReleaseMilestone) : ReleaseStepState :=
  if completedAt.isSome then
    .done
  else if milestone ∈ held then
    .held
  else if milestone = .editorialPitch &&
      snapshot.history.editorialPitchParked then
    .parked
  else if snapshot.tier = .filler then
    .disabled
  else if milestone = .startPress && !snapshot.pressEnabled then
    .disabled
  else if milestone ≠ .seedCalendar &&
      (!snapshot.assetsReady || !snapshot.communicationEnabled) then
    .blocked
  else if dueAt ≤ now then
    .due
  else
    .upcoming

variable (completed : List (ReleaseMilestone × OffsetDateTime))

/-- When a rung was completed: for the pitch, when a human said so. -/
def rungCompletedAt
    (milestone : ReleaseMilestone) : Option OffsetDateTime :=
  if milestone = .editorialPitch then
    snapshot.editorialPitchCompletedAt
  else
    (completed.find? fun entry => entry.1 = milestone).map Prod.snd

def releaseTimeline
    (held : List ReleaseMilestone) : List ReleaseTimelineStep :=
  releaseRungs.map fun milestone =>
    let dueAt := rungDueAt snapshot policy milestone
    let completedAt := rungCompletedAt snapshot completed milestone
    { milestone := milestone
      offsetDays := (tryFrom (rungOffset policy milestone)).getD 2147483647
      dueAt := dueAt
      completedAt := completedAt
      state := stepState snapshot now milestone completedAt dueAt held }

end View

end CrowdRelay
