import CrowdRelay.SupplyArm

namespace CrowdRelay

/-!
# The probe of a quiet lane

A quiet lane gets one candidate per cycle, and the gate picks it when it looks
at it: whether the store makes an action of it is only known afterwards.
-/

section Lanes

variable (reads : SupplyReads) (key : DeliveryLaneKey)

/-- The candidate passed the funnel and would be delivered by the lane. -/
def SupplyEvent.isFor
    (event : SupplyEvent) : Bool :=
  passesFunnel reads event.candidate &&
    deliveryLaneForCandidate reads.communities event.candidate = some key

def SupplyEntry.inLane
    (entry : SupplyEntry) : Bool :=
  deliveryLaneForCandidate reads.communities entry.candidate = some key

/-- How many actions the cycle created for a lane. -/
def createdFor
    (entries : List SupplyEntry) : Nat :=
  entries.countP fun entry => entry.created && entry.inLane reads key

/-- An arm at the start of a cycle: no lane is probed yet. -/
def supplyStart (cycle : CycleState) (verdicts : DeliveryLaneKey → Option LaneVerdict)
    (recentRelays : List RecentRelayPush) : SupplyArm where
  cycle := cycle
  laneGate := ⟨verdicts, ∅⟩
  recentRelays := recentRelays

/--
Busy and blocked lanes get nothing, a quiet lane gets one action at most and
gets it if any of its candidates would become one, and an open lane is held by
nothing but the other gates.
-/
structure LanesProbed
    (gate : DeliveryLaneGate)
    (events : List SupplyEvent)
    (entries : List SupplyEntry) : Prop where
  busyGetsNothing :
    ∀ key,
      gate.availability key = .busy ∨ gate.availability key = .blocked →
      createdFor reads key entries = 0
  quietGetsOne :
    ∀ key,
      gate.availability key = .probe →
      createdFor reads key entries ≤ 1
  probeIsUsed :
    ∀ key,
      gate.availability key = .probe →
      (∃ event ∈ events,
        event.isFor reads key = true ∧ event.outcome.creates = true) →
      createdFor reads key entries = 1
  openIsFree :
    ∀ key,
      gate.availability key = .isOpen →
      ∀ entry ∈ entries,
        entry.inLane reads key = true →
        entry.verdict ≠ .heldByLane

/-- The first candidate for a lane is one the store makes an action of. -/
def FirstCreates (events : List SupplyEvent)
    (key : DeliveryLaneKey) : Prop :=
  ∃ before first after,
    events = before ++ first :: after ∧
      (∀ earlier ∈ before, earlier.isFor reads key = false) ∧
      first.isFor reads key = true ∧
      first.outcome.creates = true

end Lanes

section Step

variable {reads : SupplyReads} {arm : SupplyArm} {event : SupplyEvent} {key : DeliveryLaneKey}

theorem routeStep_of_lane
    (inLane : deliveryLaneForCandidate reads.communities event.candidate = some key) :
    routeStep reads arm event =
      match arm.laneGate.availability key with
      | .isOpen => persistStep reads arm event
      | .probe =>
        let probed :=
          { arm with
            laneGate.probed := insert key arm.laneGate.probed }
        if key ∈ arm.laneGate.probed then
          (probed, ⟨event.candidate, .heldByLane⟩)
        else
          persistStep reads probed event
      | .busy | .blocked => (arm, ⟨event.candidate, .heldByLane⟩) := by
  have noPush := relayPush?_eq_none_of_lane inLane
  unfold routeStep DeliveryLaneGate.allowsCandidate
  simp only [inLane, pacingAllows, noPush]
  cases arm.laneGate.availability key with
  | isOpen => rfl
  | probe =>
    by_cases spent : key ∈ arm.laneGate.probed
    · simp [spent]
    · simp [spent]
  | busy => rfl
  | blocked => rfl

theorem verdicts_routeStep :
    (routeStep reads arm event).1.laneGate.verdicts =
      arm.laneGate.verdicts := by
  have gateKept : (arm.laneGate.allowsCandidate reads.communities
      event.candidate).1.verdicts = arm.laneGate.verdicts := by
    unfold DeliveryLaneGate.allowsCandidate
    split
    · rfl
    · split <;> rfl
  unfold routeStep
  dsimp only
  split
  · exact gateKept
  · split
    · exact gateKept
    · exact gateKept

theorem availability_supplyStep :
    (supplyStep reads arm event).1.laneGate.availability key = arm.laneGate.availability key := by
  unfold DeliveryLaneGate.availability
  cases passes : passesFunnel reads event.candidate with
  | false => rw [(supplyStep_of_held passes).1]
  | true => rw [supplyStep_of_passes passes, verdicts_routeStep]

/-- A candidate that is not for the lane leaves its probe as it was. -/
theorem mem_probed_supplyStep (notFor : event.isFor reads key = false) :
    key ∈ (supplyStep reads arm event).1.laneGate.probed ↔ key ∈ arm.laneGate.probed := by
  cases passes : passesFunnel reads event.candidate with
  | false => rw [(supplyStep_of_held passes).1]
  | true =>
    rw [supplyStep_of_passes passes]
    have otherLane : deliveryLaneForCandidate reads.communities event.candidate ≠ some key := by
      simpa [SupplyEvent.isFor, passes] using notFor
    have gateKept :
        key ∈ (arm.laneGate.allowsCandidate reads.communities
          event.candidate).1.probed ↔ key ∈ arm.laneGate.probed := by
      unfold DeliveryLaneGate.allowsCandidate
      split
      · rfl
      · rename_i other isOther
        split
        · rfl
        · rw [Finset.mem_insert]
          have otherKey : key ≠ other := by
            rintro rfl
            exact otherLane isOther
          simp [otherKey]
        · rfl
        · rfl
    unfold routeStep
    dsimp only
    split
    · exact gateKept
    · split
      · exact gateKept
      · exact gateKept

theorem not_created_of_not_isFor (notFor : event.isFor reads key = false) :
    ((supplyStep reads arm event).2.created &&
      (supplyStep reads arm event).2.inLane reads key) = false := by
  cases passes : passesFunnel reads event.candidate with
  | false => rw [(supplyStep_of_held passes).2.1, Bool.false_and]
  | true =>
    have otherLane : deliveryLaneForCandidate reads.communities event.candidate ≠ some key := by
      simpa [SupplyEvent.isFor, passes] using notFor
    simp [SupplyEntry.inLane, otherLane]

theorem supplyStep_of_isFor (isFor : event.isFor reads key = true) :
    supplyStep reads arm event =
      match arm.laneGate.availability key with
      | .isOpen => persistStep reads arm event
      | .probe =>
        let probed :=
          { arm with
            laneGate.probed := insert key arm.laneGate.probed }
        if key ∈ arm.laneGate.probed then
          (probed, ⟨event.candidate, .heldByLane⟩)
        else
          persistStep reads probed event
      | .busy | .blocked => (arm, ⟨event.candidate, .heldByLane⟩) := by
  simp only [SupplyEvent.isFor, Bool.and_eq_true, decide_eq_true_eq] at isFor
  rw [supplyStep_of_passes isFor.1, routeStep_of_lane isFor.2]

end Step

section Run

variable {reads : SupplyReads} {key : DeliveryLaneKey} (arm : SupplyArm) (events : List SupplyEvent)

theorem log_supplyArm_cons (event : SupplyEvent) (later : List SupplyEvent) :
    (supplyArm reads).log arm (event :: later) = (supplyStep reads arm event).2 ::
        (supplyArm reads).log (supplyStep reads arm event).1 later := by
  rw [Machine.Transducer.log_cons]
  rfl

theorem createdFor_cons (entry : SupplyEntry) (entries : List SupplyEntry) :
    createdFor reads key (entry :: entries) =
      createdFor reads key entries + (entry.created && entry.inLane reads key).toNat := by
  unfold createdFor
  rw [List.countP_cons]
  cases entry.created && entry.inLane reads key <;> rfl

theorem createdFor_log_eq_zero_of_busy
    (busy : arm.laneGate.availability key = .busy ∨ arm.laneGate.availability key = .blocked) :
    createdFor reads key ((supplyArm reads).log arm events) = 0 := by
  induction events generalizing arm with
  | nil => rfl
  | cons event later inductionHypothesis =>
    rw [log_supplyArm_cons, createdFor_cons,
      inductionHypothesis _ (by simpa only [availability_supplyStep] using busy)]
    cases isFor : event.isFor reads key with
    | false => rw [not_created_of_not_isFor isFor, Bool.toNat_false]
    | true =>
      rw [supplyStep_of_isFor isFor]
      rcases busy with isBusy | isBlocked
      · rw [isBusy]
        rfl
      · rw [isBlocked]
        rfl

theorem createdFor_log_eq_zero_of_spent (quiet : arm.laneGate.availability key = .probe)
    (spent : key ∈ arm.laneGate.probed) :
    createdFor reads key ((supplyArm reads).log arm events) = 0 := by
  induction events generalizing arm with
  | nil => rfl
  | cons event later inductionHypothesis =>
    have stillQuiet : (supplyStep reads arm event).1.laneGate.availability key = .probe := by
      rw [availability_supplyStep, quiet]
    rw [log_supplyArm_cons, createdFor_cons]
    cases isFor : event.isFor reads key with
    | false =>
      rw [not_created_of_not_isFor isFor, Bool.toNat_false]
      exact inductionHypothesis _ stillQuiet ((mem_probed_supplyStep isFor).mpr spent)
    | true =>
      have step := @supplyStep_of_isFor reads arm event key isFor
      rw [quiet] at step
      simp only [spent, ↓reduceIte] at step
      have stillSpent : key ∈ (supplyStep reads arm event).1.laneGate.probed := by
        rw [step]
        exact Finset.mem_insert_self _ _
      rw [inductionHypothesis _ stillQuiet stillSpent, step]
      rfl

/-- The lane gets what its first candidate becomes. -/
theorem createdFor_log_of_fresh (quiet : arm.laneGate.availability key = .probe)
    (fresh : key ∉ arm.laneGate.probed) :
    createdFor reads key ((supplyArm reads).log arm events) =
      ((events.find? fun event => event.isFor reads key).any fun event =>
        event.outcome.creates).toNat := by
  induction events generalizing arm with
  | nil => rfl
  | cons event later inductionHypothesis =>
    have stillQuiet : (supplyStep reads arm event).1.laneGate.availability key = .probe := by
      rw [availability_supplyStep, quiet]
    rw [log_supplyArm_cons, createdFor_cons]
    cases isFor : event.isFor reads key with
    | false =>
      rw [not_created_of_not_isFor isFor, Bool.toNat_false,
        List.find?_cons_of_neg (by simp [isFor])]
      exact inductionHypothesis _ stillQuiet
        (fun isProbed => fresh ((mem_probed_supplyStep isFor).mp isProbed))
    | true =>
      have step := @supplyStep_of_isFor reads arm event key isFor
      rw [quiet] at step
      simp only [fresh, ↓reduceIte] at step
      have nowSpent : key ∈ (supplyStep reads arm event).1.laneGate.probed := by
        rw [step]
        exact Finset.mem_insert_self _ _
      have inLane : (supplyStep reads arm event).2.inLane reads key = true := by
        simp only [SupplyEvent.isFor, Bool.and_eq_true] at isFor
        simpa [SupplyEntry.inLane] using isFor.2
      rw [createdFor_log_eq_zero_of_spent _ _ stillQuiet nowSpent, inLane,
        List.find?_cons_of_pos isFor, step, created_persistStep]
      simp

theorem not_heldByLane_of_open (isOpen : arm.laneGate.availability key = .isOpen)
    {entry : SupplyEntry} (reported : entry ∈ (supplyArm reads).log arm events)
    (inLane : entry.inLane reads key = true) :
    entry.verdict ≠ .heldByLane := by
  induction events generalizing arm with
  | nil => cases reported
  | cons event later inductionHypothesis =>
    rw [log_supplyArm_cons] at reported
    rcases List.mem_cons.mp reported with rfl | isLater
    · cases isFor : event.isFor reads key with
      | false =>
        have held : passesFunnel reads event.candidate = false := by
          simp only [SupplyEntry.inLane, candidate_supplyStep] at inLane
          simpa [SupplyEvent.isFor, inLane] using isFor
        exact (supplyStep_of_held held).2.2
      | true =>
        rw [supplyStep_of_isFor isFor, isOpen]
        exact fun heldByLane => by cases heldByLane
    · exact inductionHypothesis _
        (by rw [availability_supplyStep, isOpen]) isLater

theorem firstCreates_iff {events : List SupplyEvent} :
    FirstCreates reads events key ↔
      ((events.find? fun event => event.isFor reads key).any fun event =>
        event.outcome.creates) = true := by
  constructor
  · rintro ⟨before, first, after, rfl, others, isFor, creates⟩
    have found : (before ++ first :: after).find?
        (fun event => event.isFor reads key) = some first :=
      List.find?_eq_some_iff_append.mpr
        ⟨isFor, before, after, rfl, fun earlier isEarlier => by
          rw [others earlier isEarlier]; rfl⟩
    rw [found]
    exact creates
  · intro creates
    obtain ⟨first, found, creates⟩ := (Option.any_eq_true _ _).mp creates
    obtain ⟨isFor, before, after, shape, others⟩ := List.find?_eq_some_iff_append.mp found
    refine ⟨before, first, after, shape, ?_, isFor, creates⟩
    intro earlier isEarlier
    simpa using others earlier isEarlier

/--
The promise of the lane gate is kept exactly when the first candidate for
every quiet lane becomes an action, if any of its candidates would.
-/
theorem lanesProbed_iff
    (cycle : CycleState)
    (verdicts : DeliveryLaneKey → Option LaneVerdict)
    (recentRelays : List RecentRelayPush)
    (events : List SupplyEvent) :
    LanesProbed reads ⟨verdicts, ∅⟩ events
        ((supplyArm reads).log (supplyStart cycle verdicts recentRelays)
          events) ↔
      ∀ key,
        DeliveryLaneGate.availability ⟨verdicts, ∅⟩ key = .probe →
        (∃ event ∈ events, event.isFor reads key = true ∧ event.outcome.creates = true) →
        FirstCreates reads events key := by
  have created : ∀ key,
      DeliveryLaneGate.availability ⟨verdicts, ∅⟩ key = .probe →
      createdFor reads key
          ((supplyArm reads).log (supplyStart cycle verdicts recentRelays)
            events) =
        ((events.find? fun event => event.isFor reads key).any fun event =>
          event.outcome.creates).toNat :=
    fun key quiet =>
      createdFor_log_of_fresh _ _ quiet (Finset.notMem_empty key)
  constructor
  · intro probed key quiet someCreates
    have isUsed := probed.probeIsUsed key quiet someCreates
    rw [created key quiet] at isUsed
    exact firstCreates_iff.mpr (Bool.toNat_eq_one.mp isUsed)
  · intro firstCreates
    refine ⟨?_, ?_, ?_, ?_⟩
    · intro key busy
      exact createdFor_log_eq_zero_of_busy _ _ busy
    · intro key quiet
      rw [created key quiet]
      exact Bool.toNat_le _
    · intro key quiet someCreates
      rw [created key quiet, firstCreates_iff.mp (firstCreates key quiet someCreates)]
      rfl
    · intro key isOpen entry reported inLane
      exact not_heldByLane_of_open _ _ isOpen reported inLane

/-- The draft of one video for the band's own Instagram. -/
def instagramSurge (source : Uuid) : SupplyCandidate where
  subject := dropSurgeSubject source "instagram"
  decisionKind := .dropSurgeFanout
  disposition := .autoExecute
  policySnapshot := .object []
  content := .agentContent (some "social-post") (some "instagram")
  decisionKey := "decision:drop_surge:v1:" ++ uuidText source ++ ":instagram"
  actionIdempotencyKey := "action:drop_surge:" ++ uuidText source ++ ":instagram"
  relayPush := relayPush_of_kind SupplyDecisionKind.noConfusion

/-- The newest video is posted already, the one before it is not. -/
def postedThenNew : List SupplyEvent :=
  [⟨instagramSurge 2, .stored (.actionReady false 1 false)⟩,
    ⟨instagramSurge 1, .stored (.actionReady true 2 true)⟩]

/-- A cycle that nothing limits, and that no funnel controls. -/
def unlimitedCycle : CycleState where
  limits :=
    { ceilings := []
      envelope := GrowthEnvelope.default
      usage := ⟨0, 0, 0, none, 0⟩
      touchAges := fun _ => none
      touchedThisCycle := ∅ }
  report := .empty

def plainReads : SupplyReads where
  letters := ⟨Char.isAlphanum, fun character => [character.toLower]⟩
  now := 0
  communities := []
  control := none
  executablePlatforms := []

/--
The probe of the quiet lane goes to the draft that is answered already, and
the draft that would become an action is held.
-/
theorem answeredDraft_spendsProbe :
    ¬ LanesProbed plainReads ⟨fun _ => none, ∅⟩ postedThenNew
        ((supplyArm plainReads).log
          (supplyStart unlimitedCycle (fun _ => none) []) postedThenNew) := by
  intro probed
  have isUsed := probed.probeIsUsed ⟨.owned, "instagram"⟩ rfl
    ⟨⟨instagramSurge 1, .stored (.actionReady true 2 true)⟩,
      List.mem_cons_of_mem _ (List.mem_singleton_self _), rfl, rfl⟩
  rw [createdFor_log_of_fresh _ _ rfl (Finset.notMem_empty _)] at isUsed
  have firstAnswered :
      (postedThenNew.find? fun event =>
        event.isFor plainReads ⟨.owned, "instagram"⟩) =
        some ⟨instagramSurge 2, .stored (.actionReady false 1 false)⟩ :=
    rfl
  rw [firstAnswered] at isUsed
  cases isUsed

end Run

end CrowdRelay
