import CrowdRelay.LadderRungs
import CrowdRelay.ShowGrowthArm

namespace CrowdRelay

open FirstWaiting MachineInt Ranged

/-!
# Which lever the arm offers

The arm offers the first rung that is due and not passed over.  Where that
lever's own record retired it the offer is a decline, and the rungs after it
wait.
-/

/-! ## What the arm offers -/

section Arm

variable (reads : ShowGrowthReads) (policy : ShowGrowthPolicy)
  (snapshot : ShowGrowthSnapshot) {lever : ShowGrowthLever}

def mayOffer (lever : ShowGrowthLever) : Bool :=
  isDue snapshot policy reads.now lever && !passesOver reads snapshot lever

/-- The first due lever that the arm does not pass over. -/
def nextLever : Option ShowGrowthLever :=
  if ladderOpen snapshot policy reads.now then
    (ladder snapshot reads.now).find? (mayOffer reads policy snapshot)
  else
    none

/-- What the arm makes of the lever it offers. -/
def offerOf (lever : ShowGrowthLever) : ShowGrowthCandidate :=
  requestCandidate reads policy snapshot lever lever.baseConfidence
    (sendAtFor snapshot policy lever) (failedAttempts reads snapshot lever)

variable {reads policy snapshot}

theorem passesOver_of_heldEdge {lever : ShowGrowthLever} (held : heldEdge snapshot lever = true) :
    lever = .partnerCrossPromo ∧ passesOver reads snapshot lever = true := by
  obtain ⟨isPartner, _⟩ := Bool.and_eq_true_iff.mp held
  obtain rfl := of_decide_eq_true isPartner
  exact ⟨rfl, rfl⟩

theorem heldEdge_of_passes (offered : passesOver reads snapshot lever = false) :
    heldEdge snapshot lever = false := by
  refine Bool.eq_false_iff.mpr fun held => ?_
  rw [(passesOver_of_heldEdge held).2] at offered
  cases offered

theorem heldEdge_of_mayOffer (offered : mayOffer reads policy snapshot lever = true) :
    heldEdge snapshot lever = false := by
  rw [mayOffer, Bool.and_eq_true, Bool.not_eq_true'] at offered
  exact heldEdge_of_passes offered.2

/-- The loop ends at what may be offered, or at the held partner lever. -/
theorem find?_endsAt_cases :
    let ended := (ladder snapshot reads.now).find?
        (endsAt snapshot policy reads.now (passesOver reads snapshot))
    ended = (ladder snapshot reads.now).find? (mayOffer reads policy snapshot) ∨
      ended = some .partnerCrossPromo ∧ heldEdge snapshot .partnerCrossPromo = true := by
  have offersEnd :
      ∀ lever,
        mayOffer reads policy snapshot lever = true →
        endsAt snapshot policy reads.now (passesOver reads snapshot) lever = true := by
    intro lever offered
    rw [mayOffer, Bool.and_eq_true] at offered
    simp [endsAt, offered.1, offered.2]
  dsimp only
  cases found :
      (ladder snapshot reads.now).find?
        (endsAt snapshot policy reads.now (passesOver reads snapshot)) with
  | none =>
    left
    refine (List.find?_eq_none.mpr fun lever isRung offered => ?_).symm
    exact List.find?_eq_none.mp found lever isRung (offersEnd lever offered)
  | some lever =>
    have ends := List.find?_some found
    rw [endsAt, Bool.and_eq_true, Bool.or_eq_true] at ends
    rcases ends.2 with offered | held
    · left
      refine (find?_eq_some_of_imp offersEnd found ?_).symm
      rw [mayOffer, ends.1, offered]
      rfl
    · right
      obtain ⟨rfl, _⟩ := @passesOver_of_heldEdge reads snapshot lever held
      exact ⟨rfl, held⟩

theorem endsAt_partner_masked :
    endsAt (snapshot.markRequested .partnerCrossPromo) policy reads.now
        (passesOver reads snapshot) =
      mayOffer reads policy snapshot := by
  funext lever
  unfold endsAt mayOffer
  rw [isDue_markRequested, heldEdge_markRequested]
  by_cases isPartner : lever = .partnerCrossPromo
  · obtain rfl := isPartner
    have passes : passesOver reads snapshot .partnerCrossPromo = true := rfl
    simp [passes]
  · simp [isPartner, heldEdge]

theorem evaluateServiceable_of_open {masked : ShowGrowthSnapshot}
    (isOpen : ladderOpen masked policy reads.now = true) :
    evaluateServiceable reads policy snapshot masked = some
        (decisionFor masked policy
          ((ladder masked reads.now).find?
            (endsAt masked policy reads.now (passesOver reads snapshot)))) := by
  obtain ⟨skipped, ended⟩ := @evaluateShowGrowthPassingOver_of_open policy reads.now
      (passesOver reads snapshot) masked isOpen
  rw [evaluateServiceable, ended]
  rfl

theorem decisionFor_of_mayOffer (offered : mayOffer reads policy snapshot lever = true) :
    decisionFor snapshot policy (some lever) =
      .request lever lever.baseConfidence (sendAtFor snapshot policy lever) := by
  rw [decisionFor, heldEdge_of_mayOffer offered]
  rfl

/--
The arm offers the first due lever it does not pass over, behind at most the
decline of the partner lever.
-/
theorem showGrowthCandidates_eq (configured : reads.policy.config = .showGrowth policy) :
    ∃ declines : List ShowGrowthCandidate,
      (∀ decline ∈ declines, decline.decisionKind = unreciprocatedCrossbill) ∧
        showGrowthCandidates reads snapshot = some
            (declines ++
              ((nextLever reads policy snapshot).map (offerOf reads policy snapshot)).toList) := by
  unfold showGrowthCandidates nextLever
  rw [configured]
  dsimp only
  cases isOpen : ladderOpen snapshot policy reads.now with
  | false =>
    obtain ⟨reason, held, other⟩ := @evaluateShowGrowthPassingOver_of_closed policy reads.now
        (passesOver reads snapshot) snapshot isOpen
    refine ⟨[], by simp, ?_⟩
    rw [evaluateServiceable, held]
    cases reason with
    | unreciprocatedCrossbill => exact absurd rfl other
    | _ => rfl
  | true =>
    rw [evaluateServiceable_of_open isOpen, if_pos rfl]
    rcases @find?_endsAt_cases reads policy snapshot with
      same | ⟨ended, held⟩
    · refine ⟨[], by simp, ?_⟩
      rw [same]
      cases found : (ladder snapshot reads.now).find? (mayOffer reads policy snapshot) with
      | none => rfl
      | some lever =>
        rw [decisionFor_of_mayOffer (List.find?_some found)]
        rfl
    · refine ⟨[unreciprocatedCrossbillDecline reads policy snapshot],
          fun decline isDecline => ?_, ?_⟩
      · rw [List.mem_singleton.mp isDecline]
        rfl
      · have stillOpen :
            ladderOpen (snapshot.markRequested .partnerCrossPromo) policy reads.now = true :=
          (ladderOpen_markRequested snapshot policy reads.now _).trans isOpen
        rw [ended, decisionFor, if_pos held]
        dsimp only
        rw [evaluateServiceable_of_open stillOpen, endsAt_partner_masked,
          ladder_markRequested, decisionFor_markRequested]
        cases found : (ladder snapshot reads.now).find? (mayOffer reads policy snapshot) with
        | none => rfl
        | some lever =>
          rw [decisionFor_of_mayOffer (List.find?_some found)]
          rfl

end Arm

/-! ## Levers that are starved -/

/-- A lever that is due on its own, and that nothing speaks against. -/
structure Eligible
    (reads : ShowGrowthReads)
    (policy : ShowGrowthPolicy)
    (snapshot : ShowGrowthSnapshot)
    (lever : ShowGrowthLever) : Prop where
  due : WouldRequest snapshot policy reads.now lever
  unrelated : lever.isRelationshipSensitive = false
  executable :
    lever.isFirstParty = true ∨ reads.externalExecutorLive = true
  untried : failedAttempts reads snapshot lever < maxLeverAttempts
  standing : isRetiredLever reads lever = false

/-- A lever that would be asked for, were it not for its own record. -/
structure RetiredOnly
    (reads : ShowGrowthReads)
    (policy : ShowGrowthPolicy)
    (snapshot : ShowGrowthSnapshot)
    (lever : ShowGrowthLever) : Prop where
  due : WouldRequest snapshot policy reads.now lever
  offered : passesOver reads snapshot lever = false
  retired : isRetiredLever reads lever = true

section Starving

variable {reads : ShowGrowthReads} {policy : ShowGrowthPolicy}
  {snapshot : ShowGrowthSnapshot} {lever : ShowGrowthLever}

theorem passesOver_eq_false_iff :
    passesOver reads snapshot lever = false ↔
      lever.isRelationshipSensitive = false ∧
        (lever.isFirstParty = true ∨ reads.externalExecutorLive = true) ∧
        failedAttempts reads snapshot lever < maxLeverAttempts := by
  unfold passesOver
  rw [Bool.or_eq_false_iff, Bool.or_eq_false_iff, Bool.and_eq_false_iff,
    Bool.not_eq_false', Bool.not_eq_false', decide_eq_false_iff_not,
    ge_iff_le, not_le, and_assoc, or_comm]

theorem eligible_iff :
    Eligible reads policy snapshot lever ↔
      WouldRequest snapshot policy reads.now lever ∧
        passesOver reads snapshot lever = false ∧
        isRetiredLever reads lever = false := by
  rw [passesOver_eq_false_iff]
  constructor
  · intro eligible
    exact ⟨eligible.due, ⟨eligible.unrelated, eligible.executable, eligible.untried⟩,
        eligible.standing⟩
  · rintro ⟨due, ⟨unrelated, executable, untried⟩, standing⟩
    exact ⟨due, unrelated, executable, untried, standing⟩

theorem ladder_sorted (snapshot : ShowGrowthSnapshot) (now : OffsetDateTime) :
    (ladder snapshot now).Pairwise fun one other => one.rung < other.rung := by
  unfold ladder
  split <;> decide

theorem rung_le_of_find? {meets : ShowGrowthLever → Bool} {levers : List ShowGrowthLever}
    (sorted : levers.Pairwise fun one other => one.rung < other.rung)
    (found : levers.find? meets = some lever) {other : ShowGrowthLever}
    (isIn : other ∈ levers) (otherMeets : meets other = true) :
    lever.rung ≤ other.rung := by
  obtain ⟨_, before, after, rfl, earlier⟩ := List.find?_eq_some_iff_append.mp found
  rcases List.mem_append.mp isIn with isEarlier | isLater
  · have unmet := earlier other isEarlier
    rw [otherMeets] at unmet
    cases unmet
  · have rest := (List.pairwise_append.mp sorted).2.1
    rcases List.mem_cons.mp isLater with rfl | isAfter
    · exact Nat.le_refl _
    · exact Nat.le_of_lt ((List.pairwise_cons.mp rest).1 other isAfter)

theorem nextLever_eq_some (next : nextLever reads policy snapshot = some lever) :
    WouldRequest snapshot policy reads.now lever ∧
      passesOver reads snapshot lever = false ∧
      ∀ other,
        WouldRequest snapshot policy reads.now other →
        passesOver reads snapshot other = false →
        lever.rung ≤ other.rung := by
  unfold nextLever at next
  split at next
  · rename_i isOpen
    have met := List.find?_some next
    rw [mayOffer, Bool.and_eq_true, Bool.not_eq_true'] at met
    refine ⟨?_, met.2, fun other due offered => ?_⟩
    · exact wouldRequest_iff.mpr
          ⟨isOpen, List.mem_of_find?_eq_some next, met.1, heldEdge_of_passes met.2⟩
    · obtain ⟨_, isRung, isDueOther, _⟩ := wouldRequest_iff.mp due
      exact rung_le_of_find? (ladder_sorted snapshot reads.now) next isRung
          (by simp [mayOffer, isDueOther, offered])
  · cases next

theorem nextLever_of_wouldRequest (due : WouldRequest snapshot policy reads.now lever)
    (offered : passesOver reads snapshot lever = false) :
    ∃ next, nextLever reads policy snapshot = some next := by
  obtain ⟨isOpen, isRung, isDueLever, _⟩ := wouldRequest_iff.mp due
  rw [nextLever, if_pos isOpen, ← Option.isSome_iff_exists, List.find?_isSome]
  exact ⟨lever, isRung, by simp [mayOffer, isDueLever, offered]⟩

theorem offerOf_requests_iff (other : ShowGrowthLever) :
    (offerOf reads policy snapshot lever).Requests other ↔
      isRetiredLever reads lever = false ∧ lever = other := by
  unfold offerOf requestCandidate ShowGrowthCandidate.Requests
  split
  · rename_i retired
    constructor
    · rintro ⟨kind, _⟩
      have others : leverRetired ≠ activateShowGrowthLever := by decide +kernel
      exact absurd kind others
    · rintro ⟨standing, _⟩
      rw [retired] at standing
      cases standing
  · rename_i standing
    exact ⟨fun same => ⟨Bool.eq_false_iff.mpr standing, same.2⟩, fun same => ⟨rfl, same.2⟩⟩

theorem nextLever_of_requests (configured : reads.policy.config = .showGrowth policy)
    {candidates : List ShowGrowthCandidate}
    (returned : showGrowthCandidates reads snapshot = some candidates)
    {candidate : ShowGrowthCandidate} (isCandidate : candidate ∈ candidates)
    (asks : candidate.Requests lever) :
    nextLever reads policy snapshot = some lever ∧ isRetiredLever reads lever = false := by
  obtain ⟨declines, areDeclines, isReturned⟩ :=
    @showGrowthCandidates_eq reads policy snapshot configured
  rw [returned] at isReturned
  obtain rfl := Option.some.inj isReturned
  rcases List.mem_append.mp isCandidate with isDecline | isOffer
  · have kind := asks.1
    rw [areDeclines candidate isDecline] at kind
    exact absurd kind (by decide +kernel)
  · obtain ⟨next, isNext, rfl⟩ := Option.map_eq_some_iff.mp (Option.mem_toList.mp isOffer)
    obtain ⟨standing, rfl⟩ := (offerOf_requests_iff lever).mp asks
    exact ⟨isNext, standing⟩

/--
Every lever that is only retired comes after one that may be asked for, or
there is none to starve.
-/
def NoneStarved (reads : ShowGrowthReads) (policy : ShowGrowthPolicy)
    (snapshot : ShowGrowthSnapshot) : Prop :=
  ∀ lever retired,
    Eligible reads policy snapshot lever →
    RetiredOnly reads policy snapshot retired →
    ∃ earlier, Eligible reads policy snapshot earlier ∧ earlier.rung < retired.rung

/-- An eligible lever brings a request about. -/
def LadderMoves (reads : ShowGrowthReads) (policy : ShowGrowthPolicy)
    (snapshot : ShowGrowthSnapshot)
    (candidates : List ShowGrowthCandidate) : Prop :=
  (∃ lever, Eligible reads policy snapshot lever) →
  ∃ candidate ∈ candidates, ∃ lever, Eligible reads policy snapshot lever ∧ candidate.Requests lever

/-- The ladder moves exactly where no retired lever stands first. -/
theorem ladderMoves_iff (configured : reads.policy.config = .showGrowth policy) :
    ∃ candidates,
      showGrowthCandidates reads snapshot = some candidates ∧
        (LadderMoves reads policy snapshot candidates ↔ NoneStarved reads policy snapshot) := by
  obtain ⟨declines, _, returned⟩ := @showGrowthCandidates_eq reads policy snapshot configured
  refine ⟨_, returned, ?_, ?_⟩
  · intro moves lever retired eligible isRetired
    obtain ⟨candidate, isCandidate, asked, eligibleAsked, asks⟩ := moves ⟨lever, eligible⟩
    obtain ⟨isNext, standing⟩ := nextLever_of_requests configured returned isCandidate asks
    have inOrder := (nextLever_eq_some isNext).2.2 retired isRetired.due isRetired.offered
    refine ⟨asked, eligibleAsked, lt_of_le_of_ne inOrder fun same => ?_⟩
    have isAsked : asked = retired := by
      revert same
      cases asked <;> cases retired <;> decide
    rw [isAsked, isRetired.retired] at standing
    cases standing
  · rintro unstarved ⟨lever, eligible⟩
    obtain ⟨due, offered, _⟩ := eligible_iff.mp eligible
    obtain ⟨next, isNext⟩ := nextLever_of_wouldRequest due offered
    obtain ⟨dueNext, offeredNext, first⟩ := nextLever_eq_some isNext
    have standing : isRetiredLever reads next = false := by
      refine Bool.eq_false_iff.mpr fun retired => ?_
      obtain ⟨earlier, eligibleEarlier, before⟩ :=
        unstarved lever next eligible ⟨dueNext, offeredNext, retired⟩
      obtain ⟨dueEarlier, offeredEarlier, _⟩ := eligible_iff.mp eligibleEarlier
      exact absurd (first earlier dueEarlier offeredEarlier) (not_le.mpr before)
    refine ⟨offerOf reads policy snapshot next, ?_, next,
        eligible_iff.mpr ⟨dueNext, offeredNext, standing⟩,
        (offerOf_requests_iff next).mpr ⟨standing, rfl⟩⟩
    rw [isNext]
    exact List.mem_append_right _ (List.mem_singleton.mpr rfl)

end Starving

/-! ## Runs of cycles -/

structure ShowCycle where
  reads : ShowGrowthReads
  facts : ShowGrowthSnapshot

structure CycleRequests where
  reads : ShowGrowthReads
  snapshot : ShowGrowthSnapshot
  levers : List ShowGrowthLever

def requestedLevers
    (candidates : List ShowGrowthCandidate) : List ShowGrowthLever :=
  (candidates.filter fun candidate =>
      candidate.decisionKind = activateShowGrowthLever).map fun candidate =>
    candidate.action.lever

def cycleLevers (reads : ShowGrowthReads)
    (snapshot : ShowGrowthSnapshot) : List ShowGrowthLever :=
  ((showGrowthCandidates reads snapshot).map requestedLevers).getD []

def ShowGrowthSnapshot.withHistory (facts : ShowGrowthSnapshot)
    (history : ShowGrowthHistory) : ShowGrowthSnapshot :=
  { facts with history := history }

/-- The history of a show carries over, its facts may change at will. -/
def showMachine :
    Machine.Transducer ShowGrowthHistory ShowCycle CycleRequests where
  step history cycle :=
    let snapshot := cycle.facts.withHistory history
    let levers := cycleLevers cycle.reads snapshot
    (levers.foldl ShowGrowthHistory.markRequested history,
      { reads := cycle.reads
        snapshot := snapshot
        levers := levers })

/-- A lever is asked for under its own timing and evidence gates. -/
def CycleRequests.Justified (requests : CycleRequests) : Prop :=
  ∀ lever ∈ requests.levers,
    ∃ policy,
      requests.reads.policy.config = .showGrowth policy ∧
        WouldRequest requests.snapshot policy requests.reads.now lever

section Runs

variable {reads : ShowGrowthReads} {snapshot : ShowGrowthSnapshot} (history : ShowGrowthHistory)

theorem requestedLevers_append (earlier later : List ShowGrowthCandidate) :
    requestedLevers (earlier ++ later) = requestedLevers earlier ++ requestedLevers later := by
  rw [requestedLevers, List.filter_append, List.map_append]
  rfl

theorem requestedLevers_of_declines {declines : List ShowGrowthCandidate}
    (areDeclines : ∀ decline ∈ declines, decline.decisionKind = unreciprocatedCrossbill) :
    requestedLevers declines = [] := by
  unfold requestedLevers
  rw [List.map_eq_nil_iff, List.filter_eq_nil_iff]
  intro decline isDecline isRequest
  have kind := of_decide_eq_true isRequest
  rw [areDeclines decline isDecline] at kind
  exact absurd kind (by decide +kernel)

theorem requestedLevers_offerOf (policy : ShowGrowthPolicy) (lever : ShowGrowthLever) :
    requestedLevers [offerOf reads policy snapshot lever] =
      if isRetiredLever reads lever then [] else [lever] := by
  have kind := @offerOf_requests_iff reads policy snapshot lever
  unfold requestedLevers
  split
  · rename_i retired
    rw [List.filter_cons_of_neg, List.filter_nil, List.map_nil]
    intro isRequest
    have standing := ((kind _).mp ⟨of_decide_eq_true isRequest, rfl⟩).1
    rw [retired] at standing
    cases standing
  · rename_i standing
    obtain ⟨isRequest, same⟩ := (kind lever).mpr ⟨Bool.eq_false_iff.mpr standing, rfl⟩
    simp [isRequest, same]

theorem cycleLevers_cases (reads : ShowGrowthReads) (snapshot : ShowGrowthSnapshot) :
    cycleLevers reads snapshot = [] ∨
      ∃ policy lever,
        reads.policy.config = .showGrowth policy ∧
          nextLever reads policy snapshot = some lever ∧
          cycleLevers reads snapshot = [lever] := by
  unfold cycleLevers
  cases configured : reads.policy.config with
  | other =>
    left
    rw [showGrowthCandidates, configured]
    rfl
  | showGrowth policy =>
    obtain ⟨declines, areDeclines, returned⟩ :=
      @showGrowthCandidates_eq reads policy snapshot configured
    rw [returned, Option.map_some, Option.getD_some,
      requestedLevers_append, requestedLevers_of_declines areDeclines,
      List.nil_append]
    cases next : nextLever reads policy snapshot with
    | none => exact Or.inl rfl
    | some lever =>
      rw [Option.map_some, Option.toList_some, requestedLevers_offerOf]
      split
      · exact Or.inl rfl
      · exact Or.inr ⟨policy, lever, rfl, next, rfl⟩

theorem justified_showMachine (cycle : ShowCycle) :
    (showMachine.step history cycle).2.Justified := by
  intro lever isAsked
  change lever ∈ cycleLevers cycle.reads (cycle.facts.withHistory history) at isAsked
  rcases cycleLevers_cases cycle.reads (cycle.facts.withHistory history) with
    none | ⟨policy, next, configured, isNext, asked⟩
  · rw [none] at isAsked
    cases isAsked
  · rw [asked] at isAsked
    obtain rfl := List.mem_singleton.mp isAsked
    exact ⟨policy, configured, (nextLever_eq_some isNext).1⟩

theorem count_showMachine (lever : ShowGrowthLever) (history : ShowGrowthHistory)
    (cycle : ShowCycle) :
    (showMachine.step history cycle).2.levers.count lever +
        (!(showMachine.step history cycle).1.requested lever).toNat ≤
      (!history.requested lever).toNat := by
  unfold showMachine
  dsimp only
  rcases cycleLevers_cases cycle.reads (cycle.facts.withHistory history) with
    none | ⟨policy, next, _, isNext, asked⟩
  · rw [none, List.count_nil, Nat.zero_add]
    exact Nat.le_refl _
  · rw [asked, List.foldl_cons, List.foldl_nil,
      ShowGrowthHistory.requested_markRequested, List.count_singleton]
    by_cases same : lever = next
    · obtain rfl := same
      obtain ⟨_, _, isDueLever, _⟩ := wouldRequest_iff.mp (nextLever_eq_some isNext).1
      have fresh : history.requested lever = false :=
        Bool.not_eq_true' _ ▸ (Bool.and_eq_true_iff.mp isDueLever).2
      simp [fresh]
    · simp [same, Ne.symm same]

theorem leverRequests_le_one (cycles : List ShowCycle) (lever : ShowGrowthLever) :
    ((showMachine.log history cycles).flatMap CycleRequests.levers).count lever ≤ 1 := by
  have bounded :
      ((showMachine.log history cycles).map fun requests =>
          requests.levers.count lever).sum +
          (!(showMachine.final history cycles).requested lever).toNat ≤
        (!history.requested lever).toNat :=
    showMachine.log_within_room (fun history => (!history.requested lever).toNat)
      (fun requests => requests.levers.count lever)
      (fun _ _ (_ : True) => trivial)
      (fun history cycle _ => count_showMachine lever history cycle)
      trivial cycles
  rw [List.count_flatMap]
  exact (Nat.le_add_right _ _).trans (bounded.trans (Bool.toNat_le _))

end Runs

/--
The ladder of a show moves exactly where no lever that is only retired stands
before every lever that may be asked for; and over any run each lever is asked
for once at most, and only while its own gates hold.
-/
theorem showLadder_moves_iff
    (reads : ShowGrowthReads)
    (policy : ShowGrowthPolicy)
    (snapshot : ShowGrowthSnapshot)
    (configured : reads.policy.config = .showGrowth policy) :
    (∃ candidates,
      showGrowthCandidates reads snapshot = some candidates ∧
        (LadderMoves reads policy snapshot candidates ↔ NoneStarved reads policy snapshot)) ∧
      ∀ history cycles,
        (∀ lever,
          ((showMachine.log history cycles).flatMap
            CycleRequests.levers).count lever ≤ 1) ∧
          ∀ requests ∈ showMachine.log history cycles, requests.Justified :=
  ⟨ladderMoves_iff configured, fun history cycles =>
    ⟨leverRequests_le_one history cycles,
      showMachine.forall_mem_log
        (fun _ _ (_ : True) => trivial)
        (fun history cycle _ => justified_showMachine history cycle)
        trivial cycles⟩⟩

/-! ## A retired lever that starves the ladder -/

/-- A cycle with an executor live; the standings are given. -/
def weekdayReads (standings : String → Option Standing) : ShowGrowthReads where
  policy :=
    { context := .showGrowth
      enabled := true
      autonomyLevel := .requireApproval
      minimumConfidence := 8000
      maxActions24h := 10
      config := .showGrowth .default
      version := 1 }
  evidence :=
    { observations := 20
      bootstrapSpent := 0
      bootstrapCap := 0 }
  standings := standings
  externalExecutorLive := true
  failures := fun _ _ => none
  now := 0

def showInSeventeenDays : ShowGrowthSnapshot where
  eventId := 7
  published := true
  communicationEnabled := true
  startsAt := 17 * nanosPerDay
  capacity := 100
  paidTickets := 8
  paidBuyers := 6
  paidTicketsLast7d := 0
  interestedFans := 30
  citySignalFans := 20
  qualifiedReferrersInCity := 4
  beaconPartners := 2
  humanBookingTargets30d := 0
  attendees := 0
  morningAfterSendAt := none
  unreciprocatedCrossbillEdge := false
  ladderApproved := false
  history := { ShowGrowthHistory.empty with canonicalLinkSetupRequested := true }

theorem showInSeventeenDays_moves_iff :
    (∃ candidates,
      showGrowthCandidates (weekdayReads fun _ => none)
            showInSeventeenDays = some candidates ∧
        (LadderMoves (weekdayReads fun _ => none) .default
              showInSeventeenDays candidates ↔
          NoneStarved (weekdayReads fun _ => none) .default
            showInSeventeenDays)) ∧
      ∀ history cycles,
        (∀ lever,
          ((showMachine.log history cycles).flatMap
            CycleRequests.levers).count lever ≤ 1) ∧
          ∀ requests ∈ showMachine.log history cycles, requests.Justified :=
  showLadder_moves_iff (weekdayReads fun _ => none) .default
    showInSeventeenDays rfl

def sweepRetired (key : String) : Option Standing :=
  if key = "show.growth.request:free_listing_sweep" then
    some (.retired .repeatedlyWorsened)
  else
    none

/-- The retired sweep is declined, and the push to the fans waits for it. -/
theorem sweepRetired_starvesPush :
    ¬ ∀ reads policy snapshot candidates,
        reads.policy.config = .showGrowth policy →
        snapshot.published = true →
        validShowGrowthPolicy policy = true →
        showGrowthCandidates reads snapshot = some candidates →
        LadderMoves reads policy snapshot candidates := by
  intro moves
  obtain ⟨declines, _, returned⟩ := @showGrowthCandidates_eq (weekdayReads sweepRetired) .default
      showInSeventeenDays rfl
  have push :
      Eligible (weekdayReads sweepRetired) .default showInSeventeenDays
        .freeFanChannelPush :=
    { due := ⟨9250, none, by decide +kernel⟩
      unrelated := rfl
      executable := Or.inl rfl
      untried := by decide +kernel
      standing := by decide +kernel }
  obtain ⟨candidate, isCandidate, lever, _, asks⟩ :=
    moves _ _ _ _ rfl rfl (by decide +kernel) returned ⟨_, push⟩
  have asked : lever ∈ cycleLevers (weekdayReads sweepRetired)
      showInSeventeenDays := by
    rw [cycleLevers, returned, Option.map_some, Option.getD_some, requestedLevers, List.mem_map]
    exact ⟨candidate, List.mem_filter.mpr ⟨isCandidate, decide_eq_true asks.1⟩, asks.2⟩
  have silent : cycleLevers (weekdayReads sweepRetired) showInSeventeenDays = [] := by
    decide +kernel
  rw [silent] at asked
  cases asked

end CrowdRelay
