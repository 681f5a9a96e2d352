import Mathlib.Data.List.Perm.Subperm
import CrowdRelay.FirstWaiting
import CrowdRelay.ShowLadder

namespace CrowdRelay

open FirstWaiting MachineInt Ranged

/-!
# The rungs of the ladder

The ladder of a show is a list of rungs in the order of the evaluation, and
the evaluation names the first that is due.  Passing over a lever marks it and
looks again, which ends at the first rung that is due and not passed over, or
at a partner lever that is held.
-/

/-! ## The ladder as a list -/

namespace ShowGrowthLever

/-- The order in which the evaluation looks at the levers. -/
def rung : ShowGrowthLever → Nat
  | .canonicalLinkSetup => 0
  | .freeListingSweep => 1
  | .audienceCaptureSetup => 2
  | .partnerCrossPromo => 3
  | .grassrootsSceneRelay => 4
  | .fanAmbassadors => 5
  | .socialProofRelay => 6
  | .freeFanChannelPush => 7
  | .merchBuyerOffer => 8
  | .highIntentLastMile => 9
  | .postShowRecap => 10
  | .postShowMerchFollowUp => 11
  | .postShowFollowAsk => 12

def preShow : List ShowGrowthLever :=
  [.canonicalLinkSetup, .freeListingSweep, .audienceCaptureSetup,
    .partnerCrossPromo, .grassrootsSceneRelay, .fanAmbassadors,
    .socialProofRelay, .freeFanChannelPush, .merchBuyerOffer,
    .highIntentLastMile]

def postShow : List ShowGrowthLever := [.postShowRecap, .postShowMerchFollowUp, .postShowFollowAsk]

def all : List ShowGrowthLever := preShow ++ postShow

theorem mem_all (lever : ShowGrowthLever) : lever ∈ all := by
  cases lever <;> decide

def baseConfidence : ShowGrowthLever → Confidence
  | .canonicalLinkSetup => 9800
  | .freeListingSweep => 9500
  | .audienceCaptureSetup => 9450
  | .partnerCrossPromo => 9400
  | .grassrootsSceneRelay => 9350
  | .fanAmbassadors => 9100
  | .socialProofRelay => 8900
  | .freeFanChannelPush => 9250
  | .merchBuyerOffer => 9300
  | .highIntentLastMile => 9500
  | .postShowRecap => 9100
  | .postShowMerchFollowUp => 9200
  | .postShowFollowAsk => 9400

end ShowGrowthLever

section Ladder

variable (snapshot : ShowGrowthSnapshot) (policy : ShowGrowthPolicy) (now : OffsetDateTime)

/-- The timing and the evidence that a lever waits for, its history aside. -/
def gateHolds (lever : ShowGrowthLever) : Bool :=
  let sinceShow := now - snapshot.startsAt
  let days := wholeDays (snapshot.startsAt - now)
  match lever with
  | .canonicalLinkSetup => true
  | .freeListingSweep => days ≤ policy.freeListingLeadDays.val
  | .audienceCaptureSetup => days ≤ policy.audienceCaptureLeadDays.val
  | .partnerCrossPromo => days ≤ policy.partnerCrossPromoLeadDays.val
  | .grassrootsSceneRelay => days ≤ policy.grassrootsSceneRelayLeadDays.val
  | .fanAmbassadors =>
    days ≤ policy.fanAmbassadorLeadDays.val &&
      snapshot.communicationEnabled &&
      snapshot.citySignalFans ≥ policy.minimumCitySignalFans &&
      snapshot.qualifiedReferrersInCity ≥ policy.minimumReferrersForAmbassadorPush
  | .socialProofRelay =>
    days ≤ policy.socialProofLeadDays.val && behindSalesPace snapshot policy days
  | .freeFanChannelPush => days ≤ policy.freeFanChannelPushLeadDays.val
  | .merchBuyerOffer =>
    days ≤ policy.merchPreorderLeadDays.val &&
      snapshot.communicationEnabled &&
      snapshot.paidBuyers ≥ policy.minimumPaidBuyersForMerchOffer
  | .highIntentLastMile =>
    days ≤ policy.lastMileLeadDays.val &&
      snapshot.communicationEnabled &&
      behindSalesPace snapshot policy days &&
      snapshot.interestedFans.saturatingSub snapshot.paidBuyers ≥ policy.minimumUnconvertedInterest
  | .postShowRecap =>
    sinceShow ≤ policy.postShowRecapHours.val * nanosPerHour &&
      snapshot.communicationEnabled &&
      snapshot.attendees ≥ policy.minimumAttendeesForRecap
  | .postShowMerchFollowUp =>
    sinceShow ≤ policy.postShowMerchHours.val * nanosPerHour &&
      snapshot.communicationEnabled &&
      snapshot.attendees ≥ policy.minimumAttendeesForPostShowMerch
  | .postShowFollowAsk =>
    sinceShow ≤ policy.postShowFollowAskHours.val * nanosPerHour &&
      snapshot.communicationEnabled &&
      snapshot.attendees ≥ policy.minimumAttendeesForFollowAsk

def isDue (lever : ShowGrowthLever) : Bool :=
  gateHolds snapshot policy now lever && !snapshot.history.requested lever

/-- The rungs that the evaluation looks at, before or after the show. -/
def ladder : List ShowGrowthLever :=
  if snapshot.startsAt - now ≤ 0 then ShowGrowthLever.postShow else ShowGrowthLever.preShow

/-- The evaluation gets as far as the rungs. -/
def ladderOpen : Bool :=
  validShowGrowthPolicy policy &&
    !(snapshot.paidTickets > snapshot.capacity && snapshot.capacity > 0) &&
    snapshot.published &&
    (snapshot.startsAt - now ≤ 0 || wholeDays (snapshot.startsAt - now) ≤ policy.lookaheadDays.val)

def sendAtFor : ShowGrowthLever → Option OffsetDateTime
  | .postShowRecap => snapshot.morningAfterSendAt
  | .postShowFollowAsk => some (followAskSendAt snapshot policy)
  | _ => none

def heldEdge (lever : ShowGrowthLever) : Bool :=
  lever = .partnerCrossPromo && snapshot.unreciprocatedCrossbillEdge

/-- The decision for the rung that was found. -/
def decisionFor : Option ShowGrowthLever → ShowGrowthDecision
  | none => .hold .notDue
  | some lever =>
    if heldEdge snapshot lever then
      .hold .unreciprocatedCrossbill
    else
      .request lever lever.baseConfidence (sendAtFor snapshot policy lever)

end Ladder

variable {snapshot : ShowGrowthSnapshot} {policy : ShowGrowthPolicy} {now : OffsetDateTime}

theorem decisionFor_find?_cons (due : ShowGrowthLever → Bool) (lever : ShowGrowthLever)
    (rest : List ShowGrowthLever) :
    decisionFor snapshot policy ((lever :: rest).find? due) =
      if due lever then
        decisionFor snapshot policy (some lever)
      else
        decisionFor snapshot policy (rest.find? due) := by
  rw [List.find?_cons]
  cases due lever <;> rfl

theorem evaluatePostShow_eq :
    evaluatePostShow snapshot policy now =
      decisionFor snapshot policy (ShowGrowthLever.postShow.find? (isDue snapshot policy now)) := by
  simp only [ShowGrowthLever.postShow, decisionFor_find?_cons, isDue,
    gateHolds, ShowGrowthHistory.requested, evaluatePostShow]
  simp [decisionFor, heldEdge, ShowGrowthLever.baseConfidence, sendAtFor,
    and_comm, and_left_comm, and_assoc]

theorem evaluatePreShow_eq :
    evaluatePreShow snapshot policy (wholeDays (snapshot.startsAt - now)) =
      decisionFor snapshot policy (ShowGrowthLever.preShow.find? (isDue snapshot policy now)) := by
  simp only [ShowGrowthLever.preShow, decisionFor_find?_cons, isDue,
    gateHolds, ShowGrowthHistory.requested, evaluatePreShow]
  simp [decisionFor, heldEdge, ShowGrowthLever.baseConfidence, sendAtFor,
    and_comm, and_left_comm, and_assoc]

theorem evaluateShowGrowth_of_open (isOpen : ladderOpen snapshot policy now = true) :
    evaluateShowGrowth snapshot policy now =
      decisionFor snapshot policy ((ladder snapshot now).find? (isDue snapshot policy now)) := by
  unfold ladderOpen at isOpen
  simp only [Bool.and_eq_true, Bool.not_eq_true', Bool.or_eq_true, decide_eq_true_eq] at isOpen
  obtain ⟨⟨⟨valid, sane⟩, published⟩, timely⟩ := isOpen
  unfold evaluateShowGrowth ladder
  simp only [valid, sane, published, Bool.not_true, Bool.false_eq_true, if_false]
  split
  · exact evaluatePostShow_eq
  · rename_i ahead
    rw [if_neg (not_lt.mpr (timely.resolve_left ahead))]
    exact evaluatePreShow_eq

theorem evaluateShowGrowth_of_closed (isClosed : ladderOpen snapshot policy now = false) :
    ∃ reason,
      evaluateShowGrowth snapshot policy now = .hold reason ∧
        reason ≠ .unreciprocatedCrossbill := by
  unfold evaluateShowGrowth
  split
  · exact ⟨_, rfl, by decide⟩
  · rename_i valid
    split
    · exact ⟨_, rfl, by decide⟩
    · rename_i sane
      split
      · exact ⟨_, rfl, by decide⟩
      · rename_i published
        rw [Bool.not_eq_true', Bool.not_eq_false] at valid published
        unfold ladderOpen at isClosed
        rw [valid, published, Bool.eq_false_iff.mpr sane] at isClosed
        simp only [Bool.not_false, Bool.and_self, Bool.true_and,
          Bool.or_eq_false_iff, decide_eq_false_iff_not] at isClosed
        dsimp only
        rw [if_neg isClosed.1, if_pos (not_le.mp isClosed.2)]
        exact ⟨_, rfl, by decide⟩

/-! ## Marking levers -/

section Marking

variable (snapshot : ShowGrowthSnapshot) (policy : ShowGrowthPolicy)
  (now : OffsetDateTime) (marked : ShowGrowthLever)

@[simp] theorem ladder_markRequested :
    ladder (snapshot.markRequested marked) now = ladder snapshot now :=
  rfl

@[simp] theorem ladderOpen_markRequested :
    ladderOpen (snapshot.markRequested marked) policy now = ladderOpen snapshot policy now :=
  rfl

@[simp] theorem heldEdge_markRequested :
    heldEdge (snapshot.markRequested marked) = heldEdge snapshot :=
  rfl

@[simp] theorem decisionFor_markRequested :
    decisionFor (snapshot.markRequested marked) policy = decisionFor snapshot policy := by
  funext found
  cases found with
  | none => rfl
  | some lever => cases lever <;> rfl

@[simp] theorem isDue_markRequested (lever : ShowGrowthLever) :
    isDue (snapshot.markRequested marked) policy now lever =
      (decide (lever ≠ marked) && isDue snapshot policy now lever) := by
  have gate :
      gateHolds (snapshot.markRequested marked) policy now lever =
        gateHolds snapshot policy now lever := by
    cases lever <;> rfl
  unfold isDue
  rw [gate, ShowGrowthSnapshot.markRequested, ShowGrowthHistory.requested_markRequested]
  by_cases same : lever = marked
  · simp [same]
  · simp [same]

end Marking

/-! ## Passing over -/

variable {lever : ShowGrowthLever}

section PassingOver

variable {passOver : ShowGrowthLever → Bool} {rounds : Nat} {masked : ShowGrowthSnapshot}
  {passedOver : List ShowGrowthLever}

def endsAt (snapshot : ShowGrowthSnapshot) (policy : ShowGrowthPolicy)
    (now : OffsetDateTime) (passOver : ShowGrowthLever → Bool)
    (lever : ShowGrowthLever) : Bool :=
  isDue snapshot policy now lever && (!passOver lever || heldEdge snapshot lever)

/-- The levers passed over are marked, so none is met twice. -/
structure PassedOver
    (rounds : Nat)
    (masked : ShowGrowthSnapshot)
    (passedOver : List ShowGrowthLever) : Prop where
  distinct : passedOver.Nodup
  requested : ∀ lever ∈ passedOver, masked.history.requested lever = true
  enough : 14 ≤ rounds + passedOver.length

theorem PassedOver.fresh_of_isDue (passed : PassedOver rounds masked passedOver)
    (due : isDue masked policy now lever = true) :
    lever ∉ passedOver := by
  intro isPassed
  have requested := passed.requested lever isPassed
  simp [isDue, requested] at due

theorem PassedOver.mark (passed : PassedOver (rounds + 1) masked passedOver)
    (fresh : lever ∉ passedOver) :
    PassedOver rounds (masked.markRequested lever) (passedOver ++ [lever]) where
  distinct := by
    simpa [List.nodup_append] using
      ⟨passed.distinct, fun other isPassed same => fresh (same ▸ isPassed)⟩
  requested := by
    intro other isPassed
    rw [ShowGrowthSnapshot.markRequested, ShowGrowthHistory.requested_markRequested]
    rcases List.mem_append.mp isPassed with isOld | isNew
    · simp [passed.requested other isOld]
    · simp [List.mem_singleton.mp isNew]
  enough := by
    have enough := passed.enough
    rw [List.length_append, List.length_singleton]
    omega

/-- A lever that is passed over ends nothing, so its mark changes no rung at
which the loop ends. -/
theorem endsAt_markRequested (passes : passOver lever = true)
    (notHeld : heldEdge masked lever = false) :
    endsAt (masked.markRequested lever) policy now passOver =
      endsAt masked policy now passOver := by
  funext other
  unfold endsAt
  rw [isDue_markRequested, heldEdge_markRequested]
  by_cases isLever : other = lever
  · rw [isLever, passes, notHeld]
    simp
  · simp [isLever]

/-- The loop comes to an end, at the first rung that ends it. -/
theorem passOverLoop_of_open (isOpen : ladderOpen masked policy now = true)
    (passed : PassedOver rounds masked passedOver) :
    ∃ skipped,
      passOverLoop policy now passOver rounds masked passedOver = some
          (decisionFor masked policy
            ((ladder masked now).find? (endsAt masked policy now passOver)),
            skipped) := by
  induction rounds generalizing masked passedOver with
  | zero =>
    have atMost : passedOver.length ≤ ShowGrowthLever.all.length :=
      (passed.distinct.subperm fun lever _ =>
        ShowGrowthLever.mem_all lever).length_le
    have enough := passed.enough
    change passedOver.length ≤ 13 at atMost
    omega
  | succ rounds inductionHypothesis =>
    have weaker :
        ∀ lever,
          endsAt masked policy now passOver lever = true →
          isDue masked policy now lever = true :=
      fun lever ends => (Bool.and_eq_true_iff.mp ends).1
    unfold passOverLoop
    rw [evaluateShowGrowth_of_open isOpen]
    cases found : (ladder masked now).find? (isDue masked policy now) with
    | none =>
      have ended : (ladder masked now).find? (endsAt masked policy now passOver) = none := by
        rw [List.find?_eq_none] at found ⊢
        exact fun lever isRung ends =>
          found lever isRung (weaker lever ends)
      exact ⟨passedOver, by rw [ended]; rfl⟩
    | some lever =>
      have due : isDue masked policy now lever = true := List.find?_some found
      by_cases held : heldEdge masked lever = true
      · have ends : endsAt masked policy now passOver lever = true := by
          simp [endsAt, due, held]
        have ended := find?_eq_some_of_imp weaker found ends
        refine ⟨passedOver, ?_⟩
        rw [ended, decisionFor, if_pos held]
      · rw [Bool.not_eq_true] at held
        by_cases passes : passOver lever = true
        · have fresh := passed.fresh_of_isDue due
          have stillOpen : ladderOpen (masked.markRequested lever) policy now = true :=
            (ladderOpen_markRequested masked policy now lever).trans isOpen
          obtain ⟨skipped, ended⟩ := inductionHypothesis stillOpen (passed.mark fresh)
          rw [endsAt_markRequested passes held, ladder_markRequested,
            decisionFor_markRequested] at ended
          refine ⟨skipped, ?_⟩
          simp only [decisionFor, held, Bool.false_eq_true, if_false,
            passes, List.contains_eq_mem, fresh, decide_false,
            Bool.not_false, Bool.and_self, if_true]
          exact ended
        · have ends : endsAt masked policy now passOver lever = true := by
            simp [endsAt, due, passes]
          have ended := find?_eq_some_of_imp weaker found ends
          refine ⟨passedOver, ?_⟩
          rw [ended]
          simp [decisionFor, held, passes]

theorem evaluateShowGrowthPassingOver_of_open {snapshot : ShowGrowthSnapshot}
    (isOpen : ladderOpen snapshot policy now = true) :
    ∃ skipped,
      evaluateShowGrowthPassingOver snapshot policy now passOver = some
          (decisionFor snapshot policy
            ((ladder snapshot now).find? (endsAt snapshot policy now passOver)),
            skipped) :=
  passOverLoop_of_open isOpen
    { distinct := List.nodup_nil
      requested := fun _ absent => by cases absent
      enough := Nat.le_refl 14 }

theorem evaluateShowGrowthPassingOver_of_closed {snapshot : ShowGrowthSnapshot}
    (isClosed : ladderOpen snapshot policy now = false) :
    ∃ reason,
      evaluateShowGrowthPassingOver snapshot policy now passOver = some (.hold reason, []) ∧
        reason ≠ .unreciprocatedCrossbill := by
  obtain ⟨reason, held, other⟩ := evaluateShowGrowth_of_closed isClosed
  refine ⟨reason, ?_, other⟩
  unfold evaluateShowGrowthPassingOver passOverLoop
  rw [held]

end PassingOver

/-! ## A lever on its own -/

def ShowGrowthSnapshot.onlyLever (snapshot : ShowGrowthSnapshot)
    (lever : ShowGrowthLever) : ShowGrowthSnapshot :=
  (ShowGrowthLever.all.filter fun other => other ≠ lever).foldl
    ShowGrowthSnapshot.markRequested snapshot

/-- With every other lever out of the way, the lever is the one asked for. -/
def WouldRequest (snapshot : ShowGrowthSnapshot) (policy : ShowGrowthPolicy) (now : OffsetDateTime)
    (lever : ShowGrowthLever) : Prop :=
  ∃ confidence sendAt,
    evaluateShowGrowth (snapshot.onlyLever lever) policy now = .request lever confidence sendAt

theorem foldl_markRequested (levers : List ShowGrowthLever) (snapshot : ShowGrowthSnapshot) :
    let marked := levers.foldl ShowGrowthSnapshot.markRequested snapshot
    ladderOpen marked policy now = ladderOpen snapshot policy now ∧
      ladder marked now = ladder snapshot now ∧
      heldEdge marked = heldEdge snapshot ∧
      ∀ lever,
        isDue marked policy now lever =
          (decide (lever ∉ levers) && isDue snapshot policy now lever) := by
  induction levers generalizing snapshot with
  | nil => exact ⟨rfl, rfl, rfl, fun lever => by simp⟩
  | cons first rest inductionHypothesis =>
    obtain ⟨opens, rungs, held, due⟩ := inductionHypothesis (snapshot.markRequested first)
    refine ⟨opens.trans (ladderOpen_markRequested snapshot policy now first),
        rungs, held, fun lever => ?_⟩
    rw [List.foldl_cons, due, isDue_markRequested]
    by_cases isFirst : lever = first
    · simp [isFirst]
    · simp [isFirst]

/-- A lever would be asked for where it is a due rung of an open ladder. -/
theorem wouldRequest_iff :
    WouldRequest snapshot policy now lever ↔
      ladderOpen snapshot policy now = true ∧
        lever ∈ ladder snapshot now ∧
        isDue snapshot policy now lever = true ∧
        heldEdge snapshot lever = false := by
  obtain ⟨opens, rungs, held, due⟩ := @foldl_markRequested policy now
      (ShowGrowthLever.all.filter fun other => other ≠ lever) snapshot
  have alone :
      ∀ other,
        isDue (snapshot.onlyLever lever) policy now other = true ↔
          other = lever ∧ isDue snapshot policy now lever = true := by
    intro other
    rw [ShowGrowthSnapshot.onlyLever, due]
    by_cases same : other = lever
    · simp [same]
    · simp [same, ShowGrowthLever.mem_all]
  unfold WouldRequest
  cases isOpen : ladderOpen snapshot policy now with
  | false =>
    obtain ⟨reason, held, _⟩ := evaluateShowGrowth_of_closed (opens.trans isOpen)
    constructor
    · rintro ⟨confidence, sendAt, requested⟩
      rw [ShowGrowthSnapshot.onlyLever, held] at requested
      cases requested
    · rintro ⟨absent, _⟩
      cases absent
  | true =>
    have decided :
        evaluateShowGrowth (snapshot.onlyLever lever) policy now =
          decisionFor (snapshot.onlyLever lever) policy
            ((ladder snapshot now).find? (isDue (snapshot.onlyLever lever) policy now)) := by
      rw [ShowGrowthSnapshot.onlyLever, evaluateShowGrowth_of_open (opens.trans isOpen), rungs]
    rw [decided]
    constructor
    · rintro ⟨confidence, sendAt, requested⟩
      cases found : (ladder snapshot now).find? (isDue (snapshot.onlyLever lever) policy now) with
      | none =>
        rw [found] at requested
        cases requested
      | some other =>
        obtain ⟨rfl, isDueLever⟩ := (alone other).mp (List.find?_some found)
        refine ⟨rfl, List.mem_of_find?_eq_some found, isDueLever, ?_⟩
        rw [found, decisionFor, ShowGrowthSnapshot.onlyLever, held] at requested
        split at requested
        · cases requested
        · rename_i free
          exact Bool.eq_false_iff.mpr free
    · rintro ⟨_, isRung, isDueLever, free⟩
      have found :
          (ladder snapshot now).find?
            (isDue (snapshot.onlyLever lever) policy now) = some lever := by
        cases found : (ladder snapshot now).find? (isDue (snapshot.onlyLever lever) policy now) with
        | none =>
          exact absurd ((alone lever).mpr ⟨rfl, isDueLever⟩)
              (List.find?_eq_none.mp found lever isRung)
        | some other => rw [((alone other).mp (List.find?_some found)).1]
      rw [found, decisionFor, ShowGrowthSnapshot.onlyLever, held, free]
      exact ⟨_, _, rfl⟩

end CrowdRelay
