import Mathlib.Tactic.Linarith
import CrowdRelay.ReleaseLadder

namespace CrowdRelay

open FirstWaiting MachineInt Ranged

/-!
# Where the release view drifts from the decisions

The evaluation is repeated at one instant, with what it requests recorded, and
works off the rungs that are open at that instant in their order.
-/

/-- A plan with the list of its completed milestones. -/
structure ReleaseRecord where
  snapshot : ReleasePlanSnapshot
  completed : List (ReleaseMilestone × OffsetDateTime)
  consistent :
    ∀ milestone,
      snapshot.history.recorded milestone = true ↔
        ∃ entry ∈ completed, entry.1 = milestone

/-- A milestone is recorded in the history and in the list. -/
def ReleaseRecord.record (plan : ReleaseRecord) (milestone : ReleaseMilestone)
    (now : OffsetDateTime) : ReleaseRecord where
  snapshot := { plan.snapshot with history := plan.snapshot.history.record milestone }
  completed := plan.completed ++ [(milestone, now)]
  consistent := by
    intro other
    simp only [ReleaseMilestoneHistory.recorded_record, Bool.or_eq_true,
      decide_eq_true_eq, List.mem_append, List.mem_singleton,
      plan.consistent other]
    constructor
    · rintro (rfl | ⟨entry, isEntry, isOther⟩)
      · exact ⟨(other, now), Or.inr rfl, rfl⟩
      · exact ⟨entry, Or.inl isEntry, isOther⟩
    · rintro ⟨entry, isEntry | rfl, isOther⟩
      · exact Or.inr ⟨entry, isEntry, isOther⟩
      · exact Or.inl isOther.symm

def ReleaseRecord.timeline (plan : ReleaseRecord) (policy : ReleaseAutopilotPolicy)
    (now : OffsetDateTime) : List ReleaseTimelineStep :=
  releaseTimeline plan.snapshot policy now plan.completed []

def ReleaseRecord.ShowsDue (plan : ReleaseRecord) (policy : ReleaseAutopilotPolicy)
    (now : OffsetDateTime)
    (milestone : ReleaseMilestone) : Prop :=
  ∃ step ∈ plan.timeline policy now, step.milestone = milestone ∧ step.state = .due

/--
The evaluation repeated at one instant until it requests nothing: what it
requested and the plan after it.  `none` only where the rounds do not suffice.
-/
def repeatRelease (policy : ReleaseAutopilotPolicy) (now : OffsetDateTime) :
    Nat → ReleaseRecord → Option (List ReleaseMilestone × ReleaseRecord)
  | 0, _ => none
  | rounds + 1, plan =>
    match evaluateRelease plan.snapshot policy now with
    | .request milestone _ =>
      (repeatRelease policy now rounds (plan.record milestone now)).map
        fun later => (milestone :: later.1, later.2)
    | .hold _ => some ([], plan)
    | .escalateEditorialPitch _ _ => some ([], plan)

/-- A plan whose vertical is run: nothing at the level of the plan holds it. -/
structure RunsVertical
    (snapshot : ReleasePlanSnapshot)
    (policy : ReleaseAutopilotPolicy) : Prop where
  valid : validReleasePolicy policy = true
  active : snapshot.active = true
  notFiller : snapshot.tier ≠ .filler
  assetsReady : snapshot.assetsReady = true
  communicationEnabled : snapshot.communicationEnabled = true

section Rungs

variable (snapshot : ReleasePlanSnapshot) (policy : ReleaseAutopilotPolicy) (now : OffsetDateTime)

def rungDue (milestone : ReleaseMilestone) : Bool :=
  decide (rungDueAt snapshot policy milestone ≤ now)

/-- The rungs that have windows of their own, the last one first. -/
def ladderDown : List ReleaseMilestone :=
  [.catalogueRotation, .wrap, .sustain, .releaseDay, .countdown,
    .fanWarmup] ++ ((if snapshot.pressEnabled then [.startPress] else []) ++ [.announcement])

/-- The rung whose window is open: the last that is due. -/
def latestDue : Option ReleaseMilestone := (ladderDown snapshot).find? (rungDue snapshot policy now)

/-- The pitch may still be handed in. -/
def pitchOpen : Bool :=
  snapshot.editorialPitchCompletedAt.isNone && decide (now < snapshot.releaseAt)

/-- The pitch is chased, which keeps the ladder waiting. -/
def escalationStands : Bool :=
  pitchOpen snapshot now &&
    decide (snapshot.releaseAt - now ≤ daysLong policy.editorialPitchEscalateWithinDays) &&
    pitchCooled snapshot policy now

/-- The two weeks in which a release that is out still gets its press wave. -/
def latePressOpen : Bool :=
  snapshot.pressEnabled && decide (snapshot.releaseAt ≤ now) &&
    decide (now < snapshot.releaseAt + 14 * nanosPerDay)

def openRungs : List ReleaseMilestone :=
  [.seedCalendar].filter (rungDue snapshot policy now) ++
    ([.editorialPitch].filter fun milestone =>
        pitchOpen snapshot now && rungDue snapshot policy now milestone) ++
      if escalationStands snapshot policy now then
        []
      else
        ([.startPress].filter fun _ => latePressOpen snapshot now) ++
          (latestDue snapshot policy now).toList

/-- The rungs that the evaluation gets to, now or later. -/
inductive Reached (milestone : ReleaseMilestone) : Prop where
  | calendar (isCalendar : milestone = .seedCalendar)
  | pitch
      (isPitch : milestone = .editorialPitch)
      (beforeRelease : now < snapshot.releaseAt)
  | press
      (isPress : milestone = .startPress)
      (inTime : now < snapshot.releaseAt + 14 * nanosPerDay)
  | window
      (isLatest : latestDue snapshot policy now = some milestone)
      (unchased : escalationStands snapshot policy now = false)

end Rungs

/-- The view and the decisions agree about a run at one instant. -/
structure ViewAgrees
    (policy : ReleaseAutopilotPolicy)
    (now : OffsetDateTime)
    (plan : ReleaseRecord)
    (requested : List ReleaseMilestone)
    (after : ReleaseRecord) : Prop where
  /-- What is requested was shown as due. -/
  wasDue : ∀ milestone ∈ requested, plan.ShowsDue policy now milestone
  /-- What is still shown as due is requested at some later instant. -/
  comesLater :
    ∀ milestone,
      after.ShowsDue policy now milestone →
      ∃ later, now ≤ later ∧
        ∃ confidence,
          evaluateRelease after.snapshot policy later =
            .request milestone confidence

variable {snapshot : ReleasePlanSnapshot} {policy : ReleaseAutopilotPolicy}
  {now : OffsetDateTime} {milestone : ReleaseMilestone}

def rungConfidence : ReleaseMilestone → Confidence
  | .catalogueRotation | .wrap | .sustain => 9500
  | .releaseDay | .seedCalendar | .editorialPitch => 9900
  | .countdown => 9400
  | .fanWarmup => 9200
  | .startPress => 9100
  | .announcement => 9300

variable (history : ReleaseMilestoneHistory)

/-- The answer to the window that is open, if any is. -/
def answerLatest :
    Option ReleaseMilestone → ReleaseDecision
  | none => .hold .notDue
  | some milestone => answerWindow history milestone (rungConfidence milestone)

theorem answerLatest_find?_cons (due : ReleaseMilestone → Bool)
    (milestone : ReleaseMilestone) (rest : List ReleaseMilestone) :
    answerLatest history ((milestone :: rest).find? due) =
      if due milestone = true then
        answerWindow history milestone (rungConfidence milestone)
      else
        answerLatest history (rest.find? due) := by
  rw [List.find?_cons]
  cases due milestone <;> rfl

theorem rungDue_iff (milestone : ReleaseMilestone) :
    rungDue snapshot policy now milestone = true ↔
      snapshot.releaseAt - now ≤ -(rungOffset policy milestone * nanosPerDay) := by
  unfold rungDue rungDueAt
  rw [decide_eq_true_eq]
  constructor <;> intro due <;> linarith

theorem evaluateWindows_eq :
    evaluateWindows snapshot policy now =
      answerLatest snapshot.history (latestDue snapshot policy now) := by
  unfold latestDue ladderDown
  cases press : snapshot.pressEnabled <;>
    simp only [List.cons_append, List.nil_append, answerLatest_find?_cons,
      List.find?_nil, rungDue_iff, evaluateWindows, press, daysLong, rungOffset,
      Int.neg_mul, Int.neg_neg, Int.zero_mul, Int.neg_zero, Bool.true_and,
      Bool.false_and, Bool.false_eq_true, if_false, if_true] <;>
    simp [rungConfidence, answerLatest]

def ReleaseDecision.requested? : ReleaseDecision → Option ReleaseMilestone
  | .request milestone _ => some milestone
  | .hold _ => none
  | .escalateEditorialPitch _ _ => none

/-- A rung that is not recorded yet. -/
def unrecorded
    (milestone : ReleaseMilestone) : Bool :=
  !history.recorded milestone

theorem requested?_answerLatest (history : ReleaseMilestoneHistory) :
    ∀ latest : Option ReleaseMilestone,
      (answerLatest history latest).requested? = latest.toList.find? (unrecorded history)
  | none => rfl
  | some milestone => by
      simp only [answerLatest, answerWindow, Option.toList_some,
        List.find?_cons, List.find?_nil, unrecorded]
      cases history.recorded milestone <;> rfl

theorem find?_singleton_filter (milestone : ReleaseMilestone)
    (opens waits : ReleaseMilestone → Bool) :
    ([milestone].filter opens).find? waits =
      if opens milestone && waits milestone then some milestone else none := by
  cases isOpen : opens milestone <;> cases isWaiting : waits milestone <;>
    simp [isOpen, isWaiting]

theorem requested?_evaluateLatePress :
    (evaluateLatePress snapshot policy now).requested? =
      (([ReleaseMilestone.startPress].filter
            fun _ => latePressOpen snapshot now) ++
          (latestDue snapshot policy now).toList).find?
        (unrecorded snapshot.history) := by
  have sameOpening :
      (snapshot.pressEnabled && !snapshot.history.pressStarted &&
          decide (snapshot.releaseAt - now ≤ 0) &&
          decide (-(14 * nanosPerDay) < snapshot.releaseAt - now)) =
        (latePressOpen snapshot now && unrecorded snapshot.history .startPress) := by
    have released : snapshot.releaseAt - now ≤ 0 ↔ snapshot.releaseAt ≤ now := sub_nonpos
    have inTime :
        -(14 * nanosPerDay) < snapshot.releaseAt - now ↔
          now < snapshot.releaseAt + 14 * nanosPerDay := by
      constructor <;> intro bound <;> linarith
    simp only [latePressOpen, unrecorded, ReleaseMilestoneHistory.recorded, released, inTime]
    cases snapshot.pressEnabled <;> cases snapshot.history.pressStarted <;> simp
  rw [List.find?_append, find?_singleton_filter, ← sameOpening,
    ← requested?_answerLatest, ← evaluateWindows_eq]
  unfold evaluateLatePress
  dsimp only
  split <;> simp_all [ReleaseDecision.requested?]

theorem pitchDueAt_eq : pitchDueAt snapshot policy = rungDueAt snapshot policy .editorialPitch := by
  simp only [pitchDueAt, rungDueAt, rungOffset, daysLong, Int.neg_mul]
  exact sub_eq_add_neg _ _

theorem pitchOpen_iff :
    pitchOpen snapshot now = true ↔
      snapshot.editorialPitchCompletedAt = none ∧ now < snapshot.releaseAt := by
  simp [pitchOpen]

theorem escalationStands_iff :
    escalationStands snapshot policy now = true ↔
      pitchOpen snapshot now = true ∧
        snapshot.releaseAt - now ≤ daysLong policy.editorialPitchEscalateWithinDays ∧
        pitchCooled snapshot policy now = true := by
  simp [escalationStands, and_assoc]

theorem pitchDue_of_escalationStands (valid : validReleasePolicy policy = true)
    (stands : escalationStands snapshot policy now = true) :
    rungDue snapshot policy now .editorialPitch = true := by
  obtain ⟨_, within, _⟩ := escalationStands_iff.mp stands
  have earlier :
      policy.editorialPitchEscalateWithinDays.val < policy.editorialPitchDaysBefore.val := by
    simp only [validReleasePolicy, Bool.and_eq_true, decide_eq_true_eq] at valid
    exact valid.1.1.1.1.1.1.1.1
  rw [rungDue_iff]
  simp only [rungOffset, daysLong, nanosPerDay] at within ⊢
  linarith

/-- An open pitch is asked for once, and chased after that. -/
theorem evaluatePitch_eq :
    evaluatePitch snapshot policy now =
      if (pitchOpen snapshot now && rungDue snapshot policy now .editorialPitch) &&
          unrecorded snapshot.history .editorialPitch then
        .request .editorialPitch 9900
      else if !unrecorded snapshot.history .editorialPitch &&
          escalationStands snapshot policy now then
        .escalateEditorialPitch (pitchDueAt snapshot policy) 9800
      else
        evaluateLatePress snapshot policy now := by
  have ahead : 0 < snapshot.releaseAt - now ↔ now < snapshot.releaseAt := sub_pos
  have sameOpening :
      (snapshot.editorialPitchCompletedAt.isNone && decide (0 < snapshot.releaseAt - now)) =
        pitchOpen snapshot now := by
    simp only [pitchOpen, ahead]
  have sameDue :
      decide (pitchDueAt snapshot policy ≤ now) = rungDue snapshot policy now .editorialPitch := by
    rw [pitchDueAt_eq, rungDue]
  cases isOpen : pitchOpen snapshot now with
  | false =>
    rw [isOpen] at sameOpening
    simp only [evaluatePitch, sameOpening, escalationStands, isOpen,
      Bool.false_and, Bool.and_false, Bool.false_eq_true, if_false]
  | true =>
    rw [isOpen] at sameOpening
    simp only [evaluatePitch, sameOpening, sameDue, escalationStands, isOpen,
      unrecorded, ReleaseMilestoneHistory.recorded]
    cases parked : snapshot.history.editorialPitchParked <;> simp

/-- The pitch comes before both, and a pitch that is chased before them. -/
theorem requested?_evaluatePitch (valid : validReleasePolicy policy = true) :
    (evaluatePitch snapshot policy now).requested? =
      (([ReleaseMilestone.editorialPitch].filter fun milestone =>
            pitchOpen snapshot now && rungDue snapshot policy now milestone) ++
          if escalationStands snapshot policy now then
            []
          else
            ([ReleaseMilestone.startPress].filter
                fun _ => latePressOpen snapshot now) ++
              (latestDue snapshot policy now).toList).find?
        (unrecorded snapshot.history) := by
  rw [evaluatePitch_eq, List.find?_append, find?_singleton_filter]
  by_cases asks :
      ((pitchOpen snapshot now && rungDue snapshot policy now .editorialPitch) &&
          unrecorded snapshot.history .editorialPitch) = true
  · rw [if_pos asks, if_pos asks]
    rfl
  rw [if_neg asks, if_neg asks, Option.none_or]
  cases stands : escalationStands snapshot policy now with
  | false =>
    rw [Bool.and_false, if_neg Bool.false_ne_true, if_neg Bool.false_ne_true]
    exact requested?_evaluateLatePress
  | true =>
    -- A pitch that is chased is due, so it has been asked for.
    have isOpen := (escalationStands_iff.mp stands).1
    have isDue := pitchDue_of_escalationStands valid stands
    have asked : unrecorded snapshot.history .editorialPitch = false := by
      simpa [isOpen, isDue] using asks
    rw [asked]
    rfl

theorem requested?_evaluateRelease (runs : RunsVertical snapshot policy) :
    (evaluateRelease snapshot policy now).requested? =
      (openRungs snapshot policy now).find? (unrecorded snapshot.history) := by
  have calendarDue :
      decide (snapshot.releaseAt - daysLong policy.calendarLeadDays ≤ now) =
        rungDue snapshot policy now .seedCalendar := by
    rw [rungDue, rungDueAt, rungOffset, daysLong, Int.neg_mul, ← sub_eq_add_neg]
  have calendarWaits :
      (!snapshot.history.calendarSeeded) = unrecorded snapshot.history .seedCalendar := rfl
  unfold openRungs
  rw [List.append_assoc, List.find?_append, find?_singleton_filter,
    ← requested?_evaluatePitch runs.valid]
  simp only [evaluateRelease, runs.valid, runs.active, runs.notFiller,
    runs.assetsReady, runs.communicationEnabled, calendarDue, calendarWaits,
    Bool.not_true, Bool.false_eq_true, if_false]
  rw [Bool.and_comm]
  cases rungDue snapshot policy now .seedCalendar &&
      unrecorded snapshot.history .seedCalendar <;> rfl

/-! ### The open rungs -/

theorem latestDue_mem (isLatest : latestDue snapshot policy now = some milestone) :
    milestone ∈ ladderDown snapshot ∧ rungDue snapshot policy now milestone = true :=
  ⟨List.mem_of_find?_eq_some isLatest, List.find?_some isLatest⟩

theorem ladderDown_own (inLadder : milestone ∈ ladderDown snapshot) :
    milestone ≠ .seedCalendar ∧ milestone ≠ .editorialPitch := by
  revert inLadder
  unfold ladderDown
  cases snapshot.pressEnabled <;> cases milestone <;> simp

theorem latestDue_of_released (released : snapshot.releaseAt ≤ now)
    (isLatest : latestDue snapshot policy now = some milestone) :
    0 ≤ rungOffset policy milestone ∧ milestone ≠ .startPress := by
  have outDue : rungDue snapshot policy now .releaseDay = true := by
    rw [rungDue_iff]
    simp only [rungOffset, Int.zero_mul, Int.neg_zero]
    exact sub_nonpos.mpr released
  revert isLatest
  unfold latestDue ladderDown
  simp only [List.cons_append, List.find?_cons, outDue]
  cases rungDue snapshot policy now .catalogueRotation with
  | true =>
    rintro ⟨⟩
    exact ⟨policy.catalogueRotationDaysAfter.lower, by simp⟩
  | false =>
    cases rungDue snapshot policy now .wrap with
    | true =>
      rintro ⟨⟩
      exact ⟨policy.wrapDaysAfter.lower, by simp⟩
    | false =>
      cases rungDue snapshot policy now .sustain with
      | true =>
        rintro ⟨⟩
        exact ⟨policy.sustainDaysAfter.lower, by simp⟩
      | false =>
        rintro ⟨⟩
        exact ⟨le_refl 0, by simp⟩

theorem latePressOpen_iff :
    latePressOpen snapshot now = true ↔
      snapshot.pressEnabled = true ∧ snapshot.releaseAt ≤ now ∧
        now < snapshot.releaseAt + 14 * nanosPerDay := by
  simp [latePressOpen, and_assoc]

theorem mem_openRungs_iff {milestone : ReleaseMilestone} :
    milestone ∈ openRungs snapshot policy now ↔
      milestone = .seedCalendar ∧
          rungDue snapshot policy now .seedCalendar = true ∨
        milestone = .editorialPitch ∧ pitchOpen snapshot now = true ∧
          rungDue snapshot policy now .editorialPitch = true ∨
        escalationStands snapshot policy now = false ∧
          (milestone = .startPress ∧ latePressOpen snapshot now = true ∨
            latestDue snapshot policy now = some milestone) := by
  unfold openRungs
  cases escalationStands snapshot policy now <;>
    cases calendarDue : rungDue snapshot policy now .seedCalendar <;>
    cases pitchDue : rungDue snapshot policy now .editorialPitch <;>
    cases pitchOpen snapshot now <;>
    cases latePressOpen snapshot now <;>
    simp [calendarDue, pitchDue]

theorem nodup_pressAndLatest :
    (([ReleaseMilestone.startPress].filter
          fun _ => latePressOpen snapshot now) ++
        (latestDue snapshot policy now).toList).Nodup := by
  have latestOnce : (latestDue snapshot policy now).toList.Nodup := by
    cases latestDue snapshot policy now <;> simp
  cases press : latePressOpen snapshot now with
  | false => simpa using latestOnce
  | true =>
    refine List.nodup_cons.mpr ⟨fun isLatest => ?_, latestOnce⟩
    have released := (latePressOpen_iff.mp press).2.1
    exact (latestDue_of_released released (Option.mem_toList.mp isLatest)).2 rfl

theorem openRungs_sublist :
    (openRungs snapshot policy now).Sublist
      ([ReleaseMilestone.seedCalendar] ++ [ReleaseMilestone.editorialPitch] ++
        (([ReleaseMilestone.startPress].filter
            fun _ => latePressOpen snapshot now) ++
          (latestDue snapshot policy now).toList)) := by
  refine List.Sublist.append (List.Sublist.append List.filter_sublist List.filter_sublist) ?_
  split
  · exact List.nil_sublist _
  · exact List.Sublist.refl _

theorem nodup_openRungs : (openRungs snapshot policy now).Nodup := by
  have ladderOnly :
      ∀ milestone ∈ ([ReleaseMilestone.startPress].filter
            fun _ => latePressOpen snapshot now) ++
          (latestDue snapshot policy now).toList,
        milestone ≠ .seedCalendar ∧ milestone ≠ .editorialPitch := by
    intro milestone isThere
    obtain isPress | isLatest := List.mem_append.mp isThere
    · obtain rfl := List.mem_singleton.mp (List.mem_filter.mp isPress).1
      simp
    · exact ladderDown_own (latestDue_mem (Option.mem_toList.mp isLatest)).1
  refine List.Nodup.sublist openRungs_sublist ?_
  refine List.nodup_append.mpr ⟨by simp, nodup_pressAndLatest, ?_⟩
  rintro first isFirst milestone isThere rfl
  obtain ⟨notCalendar, notPitch⟩ := ladderOnly first isThere
  simp [notCalendar, notPitch] at isFirst

theorem openRungs_length_le : (openRungs snapshot policy now).length ≤ 4 := by
  have latestAtMost : (latestDue snapshot policy now).toList.length ≤ 1 := by
    cases latestDue snapshot policy now <;> simp
  have pressAtMost :
      ([ReleaseMilestone.startPress].filter fun _ => latePressOpen snapshot now).length ≤ 1 :=
    List.length_filter_le _ _
  have atMost := (@openRungs_sublist snapshot policy now).length_le
  simp only [List.length_append, List.length_singleton] at atMost
  omega

/-! ### The run -/

variable {plan : ReleaseRecord}

/-- The rungs a run requests: the open ones that are not recorded. -/
def waitingRungs (plan : ReleaseRecord) (policy : ReleaseAutopilotPolicy)
    (now : OffsetDateTime) : List ReleaseMilestone :=
  (openRungs plan.snapshot policy now).filter (unrecorded plan.snapshot.history)

def ReleaseRecord.recordAll (plan : ReleaseRecord) (milestones : List ReleaseMilestone)
    (now : OffsetDateTime) : ReleaseRecord :=
  milestones.foldl (fun sofar milestone => sofar.record milestone now) plan

theorem repeatRelease_rest (nothing : (evaluateRelease plan.snapshot policy now).requested? = none)
    (rounds : Nat) :
    repeatRelease policy now (rounds + 1) plan = some ([], plan) := by
  simp only [repeatRelease]
  cases decision : evaluateRelease plan.snapshot policy now with
  | hold reason => rfl
  | escalateEditorialPitch dueAt confidence => rfl
  | request milestone confidence =>
    rw [decision] at nothing
    cases nothing

theorem repeatRelease_request
    (requests : (evaluateRelease plan.snapshot policy now).requested? = some milestone)
    (rounds : Nat) :
    repeatRelease policy now (rounds + 1) plan =
      (repeatRelease policy now rounds (plan.record milestone now)).map
        fun later => (milestone :: later.1, later.2) := by
  rw [repeatRelease]
  cases decision : evaluateRelease plan.snapshot policy now with
  | hold reason => rw [decision] at requests; cases requests
  | escalateEditorialPitch dueAt confidence =>
    rw [decision] at requests
    cases requests
  | request first confidence =>
    rw [decision] at requests
    cases requests
    rfl

theorem RunsVertical.record (runs : RunsVertical plan.snapshot policy)
    (milestone : ReleaseMilestone) :
    RunsVertical (plan.record milestone now).snapshot policy :=
  ⟨runs.valid, runs.active, runs.notFiller, runs.assetsReady, runs.communicationEnabled⟩

/-- A run requests the waiting rungs in their order and records them. -/
theorem repeatRelease_eq :
    ∀ (rounds : Nat) (plan : ReleaseRecord),
      RunsVertical plan.snapshot policy →
      (waitingRungs plan policy now).length < rounds →
      repeatRelease policy now rounds plan =
        some (waitingRungs plan policy now, plan.recordAll (waitingRungs plan policy now) now)
  | 0, _, _, enough => absurd enough (Nat.not_lt_zero _)
  | rounds + 1, plan, runs, enough => by
      cases found :
          (openRungs plan.snapshot policy now).find? (unrecorded plan.snapshot.history) with
      | none =>
        have nothing : waitingRungs plan policy now = [] := by
          rw [waitingRungs, List.filter_eq_nil_iff]
          exact List.find?_eq_none.mp found
        rw [repeatRelease_rest ((requested?_evaluateRelease runs).trans found), nothing]
        rfl
      | some milestone =>
        have behind :
            waitingRungs plan policy now =
              milestone :: waitingRungs (plan.record milestone now) policy now := by
          unfold waitingRungs
          rw [filter_eq_cons nodup_openRungs found]
          congr 1
          refine List.filter_congr fun other _ => ?_
          simp [unrecorded, ReleaseRecord.record, Bool.and_comm]
        rw [behind, List.length_cons, Nat.succ_lt_succ_iff] at enough
        rw [repeatRelease_request ((requested?_evaluateRelease runs).trans found),
          repeatRelease_eq rounds _ (runs.record milestone) enough, behind]
        rfl

theorem recordAll_snapshot :
    ∀ (milestones : List ReleaseMilestone) (plan : ReleaseRecord),
      (plan.recordAll milestones now).snapshot =
        { plan.snapshot with
          history := (plan.recordAll milestones now).snapshot.history }
  | [], _ => rfl
  | milestone :: rest, plan => recordAll_snapshot rest (plan.record milestone now)

theorem recorded_recordAll (other : ReleaseMilestone) :
    ∀ (milestones : List ReleaseMilestone) (plan : ReleaseRecord),
      (plan.recordAll milestones now).snapshot.history.recorded other = true ↔
        other ∈ milestones ∨ plan.snapshot.history.recorded other = true
  | [], plan => by simp [ReleaseRecord.recordAll]
  | milestone :: rest, plan => by
      have later := recorded_recordAll other rest (plan.record milestone now)
      rw [ReleaseRecord.recordAll, List.foldl_cons]
      refine later.trans ?_
      simp only [ReleaseRecord.record, ReleaseMilestoneHistory.recorded_record, Bool.or_eq_true,
        decide_eq_true_eq, List.mem_cons]
      tauto

/-! ### The view -/

theorem showsDue_iff_state :
    plan.ShowsDue policy now milestone ↔
      stepState plan.snapshot now milestone (rungCompletedAt plan.snapshot plan.completed milestone)
        (rungDueAt plan.snapshot policy milestone) [] = .due := by
  have isRung : milestone ∈ releaseRungs := by cases milestone <;> decide
  constructor
  · rintro ⟨step, isStep, rfl, isDue⟩
    obtain ⟨rung, _, rfl⟩ := List.mem_map.mp isStep
    exact isDue
  · intro isDue
    exact ⟨_, List.mem_map_of_mem isRung, rfl, isDue⟩

/-- What keeps the page from showing a rung that is due as due. -/
def settled (plan : ReleaseRecord) (milestone : ReleaseMilestone) : Prop :=
  plan.snapshot.history.recorded milestone = true ∨
    milestone = .editorialPitch ∧ plan.snapshot.editorialPitchCompletedAt.isSome = true ∨
    milestone = .startPress ∧ plan.snapshot.pressEnabled = false

theorem completedAt_isSome_iff (plan : ReleaseRecord) (notPitch : milestone ≠ .editorialPitch) :
    (rungCompletedAt plan.snapshot plan.completed milestone).isSome = true ↔
      plan.snapshot.history.recorded milestone = true := by
  rw [rungCompletedAt, if_neg notPitch, Option.isSome_map, List.find?_isSome,
    plan.consistent milestone]
  simp

theorem showsDue_iff (runs : RunsVertical plan.snapshot policy) :
    plan.ShowsDue policy now milestone ↔
      rungDue plan.snapshot policy now milestone = true ∧ ¬ settled plan milestone := by
  have isFine := runs.notFiller
  rw [showsDue_iff_state]
  by_cases isPitch : milestone = .editorialPitch
  · subst isPitch
    cases completed : plan.snapshot.editorialPitchCompletedAt <;>
      cases parked : plan.snapshot.history.editorialPitchParked <;>
      simp [stepState, settled, rungCompletedAt, rungDue, completed, parked,
        isFine, runs.assetsReady, runs.communicationEnabled,
        ReleaseMilestoneHistory.recorded]
  · have isRecorded := completedAt_isSome_iff plan isPitch
    cases done :
        (rungCompletedAt plan.snapshot plan.completed milestone).isSome <;>
      cases press : plan.snapshot.pressEnabled <;>
      by_cases isPress : milestone = .startPress <;>
      simp_all [stepState, settled, rungDue, runs.assetsReady, runs.communicationEnabled]

section Later

variable {now later : OffsetDateTime}

theorem requested?_eq_some_iff {decision : ReleaseDecision} :
    decision.requested? = some milestone ↔
      ∃ confidence, decision = .request milestone confidence := by
  cases decision <;> simp [ReleaseDecision.requested?]

theorem pressEnabled_of_mem_ladderDown
    (inLadder : ReleaseMilestone.startPress ∈ ladderDown snapshot) :
    snapshot.pressEnabled = true := by
  revert inLadder
  unfold ladderDown
  cases snapshot.pressEnabled <;> simp

theorem rungDue_of_mem_openRungs (opens : milestone ∈ openRungs snapshot policy now) :
    rungDue snapshot policy now milestone = true := by
  obtain ⟨rfl, due⟩ | ⟨rfl, _, due⟩ | ⟨_, ⟨rfl, press⟩ | isLatest⟩ := mem_openRungs_iff.mp opens
  · exact due
  · exact due
  · have released := (latePressOpen_iff.mp press).2.1
    have ahead := policy.pressDaysBefore.lower
    rw [rungDue_iff]
    simp only [rungOffset, nanosPerDay]
    linarith
  · exact (latestDue_mem isLatest).2

theorem recorded_of_settled {plan : ReleaseRecord}
    (opens : milestone ∈ openRungs plan.snapshot policy now) (isSettled : settled plan milestone) :
    plan.snapshot.history.recorded milestone = true := by
  obtain recorded | ⟨rfl, completed⟩ | ⟨rfl, disabled⟩ := isSettled
  · exact recorded
  · obtain ⟨isCalendar, _⟩ | ⟨_, isOpen, _⟩ | ⟨_, ⟨isPress, _⟩ | isLatest⟩ :=
      mem_openRungs_iff.mp opens
    · cases isCalendar
    · rw [(pitchOpen_iff.mp isOpen).1] at completed
      cases completed
    · cases isPress
    · exact absurd rfl (ladderDown_own (latestDue_mem isLatest).1).2
  · obtain ⟨isCalendar, _⟩ | ⟨isPitch, _⟩ | ⟨_, ⟨_, press⟩ | isLatest⟩ := mem_openRungs_iff.mp opens
    · cases isCalendar
    · cases isPitch
    · rw [(latePressOpen_iff.mp press).1] at disabled
      cases disabled
    · rw [pressEnabled_of_mem_ladderDown (latestDue_mem isLatest).1] at disabled
      cases disabled

theorem rungDue_mono (inOrder : now ≤ later) (due : rungDue snapshot policy now milestone = true) :
    rungDue snapshot policy later milestone = true :=
  decide_eq_true (le_trans (of_decide_eq_true due) inOrder)

theorem escalationStands_mono (inOrder : now ≤ later) (before : later < snapshot.releaseAt)
    (stands : escalationStands snapshot policy now = true) :
    escalationStands snapshot policy later = true := by
  obtain ⟨isOpen, within, cooled⟩ := escalationStands_iff.mp stands
  refine escalationStands_iff.mpr ⟨pitchOpen_iff.mpr ⟨(pitchOpen_iff.mp isOpen).1, before⟩, ?_, ?_⟩
  · exact le_trans (sub_le_sub_left inOrder _) within
  · unfold pitchCooled at cooled ⊢
    cases escalated : snapshot.editorialPitchEscalatedAt with
    | none => rfl
    | some last =>
      rw [escalated, Option.all_some, decide_eq_true_eq] at cooled
      rw [Option.all_some, decide_eq_true_eq]
      exact le_trans cooled inOrder

theorem reached_of_open_later (inOrder : now ≤ later)
    (due : rungDue snapshot policy now milestone = true)
    (opens : milestone ∈ openRungs snapshot policy later) :
    Reached snapshot policy now milestone := by
  obtain ⟨isCalendar, _⟩ | ⟨isPitch, isOpen, _⟩ |
      ⟨unchased, ⟨isPress, press⟩ | isLatest⟩ := mem_openRungs_iff.mp opens
  · exact Reached.calendar isCalendar
  · exact Reached.pitch isPitch
      (lt_of_le_of_lt inOrder (pitchOpen_iff.mp isOpen).2)
  · exact Reached.press isPress
      (lt_of_le_of_lt inOrder (latePressOpen_iff.mp press).2.2)
  · have latestNow : latestDue snapshot policy now = some milestone :=
      find?_eq_some_of_imp (fun _ => rungDue_mono inOrder) isLatest due
    cases stands : escalationStands snapshot policy now with
    | false => exact Reached.window latestNow stands
    | true =>
      -- The chase ends with the release, where only windows after it open.
      have released : snapshot.releaseAt ≤ later := by
        refine not_lt.mp fun before => ?_
        rw [escalationStands_mono inOrder before stands] at unchased
        cases unchased
      have before := (pitchOpen_iff.mp (escalationStands_iff.mp stands).1).2
      have offset := (latestDue_of_released released isLatest).1
      rw [rungDue_iff] at due
      simp only [nanosPerDay] at due
      exact absurd before (by linarith)

theorem not_requested_later (runs : RunsVertical snapshot policy)
    (due : rungDue snapshot policy now milestone = true)
    (missed : ¬ Reached snapshot policy now milestone) (inOrder : now ≤ later)
    (confidence : Confidence) :
    evaluateRelease snapshot policy later ≠ .request milestone confidence := by
  intro requests
  have found := @requested?_evaluateRelease snapshot policy later runs
  rw [requests] at found
  exact missed (reached_of_open_later inOrder due (List.mem_of_find?_eq_some found.symm))

theorem press_with_release (runs : RunsVertical snapshot policy)
    (seeded : snapshot.history.recorded .seedCalendar = true)
    (waits : snapshot.history.recorded .startPress = false) (press : snapshot.pressEnabled = true) :
    ∃ confidence,
      evaluateRelease snapshot policy snapshot.releaseAt = .request .startPress confidence := by
  have out : pitchOpen snapshot snapshot.releaseAt = false := by
    simp [pitchOpen]
  have unchased : escalationStands snapshot policy snapshot.releaseAt = false := by
    simp [escalationStands, out]
  have opens : latePressOpen snapshot snapshot.releaseAt = true := latePressOpen_iff.mpr
      ⟨press, le_refl _, by simp only [nanosPerDay]; linarith⟩
  rw [← requested?_eq_some_iff, requested?_evaluateRelease runs]
  simp [openRungs, List.find?_append, out, unchased, opens, unrecorded, seeded, waits]

end Later

theorem mem_waitingRungs_iff {milestone : ReleaseMilestone} :
    milestone ∈ waitingRungs plan policy now ↔
      milestone ∈ openRungs plan.snapshot policy now ∧
        plan.snapshot.history.recorded milestone = false := by
  simp [waitingRungs, unrecorded]

section

variable (runs : RunsVertical plan.snapshot policy)
include runs

theorem showsDue_of_waiting (waits : milestone ∈ waitingRungs plan policy now) :
    plan.ShowsDue policy now milestone := by
  obtain ⟨opens, unrecordedYet⟩ := mem_waitingRungs_iff.mp waits
  refine (showsDue_iff runs).mpr ⟨rungDue_of_mem_openRungs opens, fun isSettled => ?_⟩
  rw [recorded_of_settled opens isSettled] at unrecordedYet
  cases unrecordedYet

/-- A rung the evaluation gets to is requested in the run, or is the press. -/
theorem waiting_or_press (shown : plan.ShowsDue policy now milestone)
    (reached : Reached plan.snapshot policy now milestone) :
    milestone ∈ waitingRungs plan policy now ∨
      milestone = .startPress ∧ plan.snapshot.pressEnabled = true ∧
        now < plan.snapshot.releaseAt := by
  obtain ⟨due, unsettled⟩ := (showsDue_iff runs).mp shown
  have waits : plan.snapshot.history.recorded milestone = false :=
    Bool.eq_false_iff.mpr fun recorded => unsettled (Or.inl recorded)
  cases reached with
  | calendar isCalendar =>
    subst isCalendar
    exact Or.inl (mem_waitingRungs_iff.mpr ⟨mem_openRungs_iff.mpr (Or.inl ⟨rfl, due⟩), waits⟩)
  | pitch isPitch before =>
    subst isPitch
    have incomplete : plan.snapshot.editorialPitchCompletedAt = none := by
      cases completed : plan.snapshot.editorialPitchCompletedAt with
      | none => rfl
      | some time =>
        exact absurd (Or.inr (Or.inl ⟨rfl, by rw [completed]; rfl⟩)) unsettled
    exact Or.inl (mem_waitingRungs_iff.mpr
      ⟨mem_openRungs_iff.mpr (Or.inr (Or.inl ⟨rfl, pitchOpen_iff.mpr ⟨incomplete, before⟩, due⟩)),
        waits⟩)
  | press isPress inTime =>
    subst isPress
    have enabled : plan.snapshot.pressEnabled = true := by
      cases press : plan.snapshot.pressEnabled with
      | true => rfl
      | false => exact absurd (Or.inr (Or.inr ⟨rfl, press⟩)) unsettled
    cases lt_or_ge now plan.snapshot.releaseAt with
    | inl before => exact Or.inr ⟨rfl, enabled, before⟩
    | inr released =>
      have unchased : escalationStands plan.snapshot policy now = false :=
        Bool.eq_false_iff.mpr fun stands =>
          absurd (pitchOpen_iff.mp (escalationStands_iff.mp stands).1).2 (not_lt.mpr released)
      exact Or.inl (mem_waitingRungs_iff.mpr
        ⟨mem_openRungs_iff.mpr (Or.inr (Or.inr ⟨unchased, Or.inl
          ⟨rfl, latePressOpen_iff.mpr ⟨enabled, released, inTime⟩⟩⟩)),
          waits⟩)
  | window isLatest unchased =>
    exact Or.inl (mem_waitingRungs_iff.mpr
      ⟨mem_openRungs_iff.mpr (Or.inr (Or.inr ⟨unchased, Or.inr isLatest⟩)), waits⟩)

variable (milestones : List ReleaseMilestone)

theorem RunsVertical.recordAll : RunsVertical (plan.recordAll milestones now).snapshot policy := by
  rw [recordAll_snapshot]
  exact ⟨runs.valid, runs.active, runs.notFiller, runs.assetsReady, runs.communicationEnabled⟩

theorem showsDue_recordAll :
    (plan.recordAll milestones now).ShowsDue policy now milestone ↔
      plan.ShowsDue policy now milestone ∧ milestone ∉ milestones := by
  rw [showsDue_iff (runs.recordAll milestones), showsDue_iff runs, settled,
    settled, recorded_recordAll]
  rw [recordAll_snapshot]
  simp only [rungDue, rungDueAt]
  tauto

end

theorem calendarDue_of_pressDue (valid : validReleasePolicy policy = true)
    (due : rungDue plan.snapshot policy now .startPress = true) :
    rungDue plan.snapshot policy now .seedCalendar = true := by
  simp only [validReleasePolicy, Bool.and_eq_true, decide_eq_true_eq] at valid
  obtain ⟨⟨⟨⟨⟨⟨⟨⟨_, _⟩, calendarFirst⟩, announcementFirst⟩, _⟩, _⟩, _⟩, _⟩, _⟩ := valid
  have inOrder : policy.pressDaysBefore.val ≤ policy.calendarLeadDays.val :=
    le_trans announcementFirst calendarFirst
  rw [rungDue_iff] at due ⊢
  simp only [rungOffset, nanosPerDay] at due ⊢
  linarith

theorem reached_of_recordAll {milestones : List ReleaseMilestone}
    (reached : Reached (plan.recordAll milestones now).snapshot policy now milestone) :
    Reached plan.snapshot policy now milestone := by
  rw [recordAll_snapshot] at reached
  cases reached with
  | calendar isCalendar => exact Reached.calendar isCalendar
  | pitch isPitch before => exact Reached.pitch isPitch before
  | press isPress inTime => exact Reached.press isPress inTime
  | window isLatest unchased => exact Reached.window isLatest unchased

theorem press_after_run (runs : RunsVertical plan.snapshot policy)
    (enabled : plan.snapshot.pressEnabled = true)
    (shownAfter :
      (plan.recordAll (waitingRungs plan policy now) now).ShowsDue policy now .startPress) :
    ∃ confidence,
      evaluateRelease (plan.recordAll (waitingRungs plan policy now) now).snapshot
          policy plan.snapshot.releaseAt =
        .request .startPress confidence := by
  have runsAfter :
      RunsVertical (plan.recordAll (waitingRungs plan policy now) now).snapshot
        policy :=
    runs.recordAll _
  have unsettled := ((showsDue_iff runsAfter).mp shownAfter).2
  have due := ((showsDue_iff runs).mp ((showsDue_recordAll runs _).mp shownAfter).1).1
  have calendarDue := calendarDue_of_pressDue runs.valid due
  have seeded :
      (plan.recordAll (waitingRungs plan policy now)
        now).snapshot.history.recorded .seedCalendar = true := by
    rw [recorded_recordAll, mem_waitingRungs_iff, mem_openRungs_iff]
    cases recorded : plan.snapshot.history.recorded .seedCalendar with
    | true => exact Or.inr rfl
    | false => exact Or.inl ⟨Or.inl ⟨rfl, calendarDue⟩, rfl⟩
  have waits :
      (plan.recordAll (waitingRungs plan policy now)
        now).snapshot.history.recorded .startPress = false :=
    Bool.eq_false_iff.mpr fun recorded => unsettled (Or.inl recorded)
  have press := press_with_release runsAfter seeded waits
  rw [recordAll_snapshot] at press ⊢
  exact press enabled

/--
The run ends, and the page and the decisions agree about it exactly when the
evaluation gets to every rung that the page shows as due.
-/
theorem viewAgrees_iff
    (policy : ReleaseAutopilotPolicy)
    (now : OffsetDateTime)
    (plan : ReleaseRecord)
    (runs : RunsVertical plan.snapshot policy) :
    ∃ requested after,
      repeatRelease policy now (releaseRungs.length + 1) plan =
          some (requested, after) ∧
        (ViewAgrees policy now plan requested after ↔
          ∀ milestone,
            plan.ShowsDue policy now milestone → Reached plan.snapshot policy now milestone) := by
  have enough : (waitingRungs plan policy now).length < releaseRungs.length + 1 := lt_of_le_of_lt
      (le_trans (List.length_filter_le _ _) openRungs_length_le) (by decide)
  refine ⟨_, _, repeatRelease_eq _ plan runs enough, ?_⟩
  have runsAfter :
      RunsVertical (plan.recordAll (waitingRungs plan policy now) now).snapshot
        policy :=
    runs.recordAll _
  constructor
  · intro agrees milestone shown
    by_cases waits : milestone ∈ waitingRungs plan policy now
    · exact reached_of_open_later (le_refl now)
        ((showsDue_iff runs).mp shown).1 (mem_waitingRungs_iff.mp waits).1
    · obtain ⟨later, inOrder, confidence, requests⟩ := agrees.comesLater milestone
          ((showsDue_recordAll runs _).mpr ⟨shown, waits⟩)
      by_contra missed
      exact not_requested_later runsAfter
        ((showsDue_iff runsAfter).mp
          ((showsDue_recordAll runs _).mpr ⟨shown, waits⟩)).1
        (fun reached => missed (reached_of_recordAll reached))
        inOrder confidence requests
  · intro allReached
    refine ⟨fun milestone => showsDue_of_waiting runs, ?_⟩
    intro milestone shownAfter
    obtain ⟨shown, notRequested⟩ := (showsDue_recordAll runs _).mp shownAfter
    obtain waits | ⟨rfl, enabled, before⟩ :=
      waiting_or_press runs shown (allReached milestone shown)
    · exact absurd waits notRequested
    · exact ⟨plan.snapshot.releaseAt, le_of_lt before, press_after_run runs enabled shownAfter⟩

/-- A release planned with nothing but its calendar and its pitch behind it. -/
def plannedAhead (days : Int) : ReleaseRecord where
  snapshot :=
    { releaseAt := days * nanosPerDay
      active := true
      tier := .single
      assetsReady := true
      communicationEnabled := true
      pressEnabled := true
      editorialPitchCompletedAt := some 0
      editorialPitchEscalatedAt := none
      history :=
        { calendarSeeded := true
          editorialPitchParked := true
          announcementSent := false
          pressStarted := false
          fanWarmupSent := false
          countdownSent := false
          releaseDaySent := false
          sustainSent := false
          wrapSent := false
          catalogueRotationSent := false } }
  completed := [(.seedCalendar, 0), (.editorialPitch, 0)]
  consistent := by rintro (_ | _) <;> simp [ReleaseMilestoneHistory.recorded]

theorem plannedAhead_runs (days : Int) : RunsVertical (plannedAhead days).snapshot .default :=
  ⟨by decide, rfl, by simp [plannedAhead], rfl, rfl⟩

/-- Four weeks ahead the announcement is the only rung that is due. -/
theorem viewAgrees_plannedAhead :
    RunsVertical (plannedAhead 28).snapshot .default ∧
      ∃ requested after,
        repeatRelease .default 0 (releaseRungs.length + 1) (plannedAhead 28) =
            some (requested, after) ∧
          ViewAgrees .default 0 (plannedAhead 28) requested after := by
  obtain ⟨requested, after, isRun, agrees⟩ :=
    viewAgrees_iff .default 0 (plannedAhead 28) (plannedAhead_runs 28)
  refine ⟨plannedAhead_runs 28, requested, after, isRun,
    agrees.mpr fun milestone shown => ?_⟩
  obtain ⟨due, unsettled⟩ := (showsDue_iff (plannedAhead_runs 28)).mp shown
  cases milestone with
  | seedCalendar => exact Reached.calendar rfl
  | editorialPitch => exact Reached.pitch rfl (by decide)
  | announcement => exact Reached.window (by decide) (by decide)
  | _ => exact absurd due (by decide)

/--
Two weeks ahead the announcement has lost its window to the warm-up.  The page
shows it as due, and nothing requests it any more.
-/
theorem announcement_stays_due :
    ¬ ∀ (policy : ReleaseAutopilotPolicy) (now : OffsetDateTime)
        (plan : ReleaseRecord),
      RunsVertical plan.snapshot policy →
        ∀ rounds requested after,
          repeatRelease policy now rounds plan = some (requested, after) →
            ViewAgrees policy now plan requested after := by
  intro always
  have runs := plannedAhead_runs 14
  have agrees := always .default 0 (plannedAhead 14) runs 5
    (waitingRungs (plannedAhead 14) .default 0) _
    (repeatRelease_eq 5 (plannedAhead 14) runs (by decide))
  have shown : (plannedAhead 14).ShowsDue .default 0 .announcement :=
    (showsDue_iff runs).mpr ⟨by decide, by simp [settled, plannedAhead,
      ReleaseMilestoneHistory.recorded]⟩
  have shownAfter := (showsDue_recordAll runs (waitingRungs (plannedAhead 14) .default 0)).mpr
      ⟨shown, by decide⟩
  obtain ⟨later, inOrder, confidence, requests⟩ := agrees.comesLater .announcement shownAfter
  refine not_requested_later (runs.recordAll _)
    ((showsDue_iff (runs.recordAll _)).mp shownAfter).1 (fun reached => ?_)
    inOrder confidence requests
  obtain isCalendar | ⟨isPitch, _⟩ | ⟨isPress, _⟩ | ⟨isLatest, _⟩ := reached_of_recordAll reached
  · cases isCalendar
  · cases isPitch
  · cases isPress
  · exact absurd isLatest (by decide)

end CrowdRelay
