import CrowdRelay.LaneProbes

namespace CrowdRelay

/-!
# Relay pushes over any run

Every cycle reads the pushes of the last days anew and remembers the ones it
raises itself.  What was cancelled reaches nobody and is not read again.
-/

structure SignalPushRow where
  idempotencyKey : String
  decisionKind : SupplyDecisionKind
  createdAt : OffsetDateTime
  title : String
  body : String
  cancelled : Bool
  deriving Repr, DecidableEq

namespace SignalPushRow

def push (row : SignalPushRow) : RecentRelayPush := ⟨row.createdAt, row.title, row.body⟩

/-- A relay push that was not cancelled. -/
def isLiveRelay (row : SignalPushRow) : Bool := row.decisionKind = .relayOwnedPost && !row.cancelled

end SignalPushRow

/-- The uncancelled pushes under a relay's key, from a point in time on. -/
def loadRecentRelayPushes (rows : List SignalPushRow)
    (since : OffsetDateTime) : List RecentRelayPush :=
  (rows.filter fun row =>
    isRelayPushKey row.idempotencyKey && !row.cancelled &&
      since ≤ row.createdAt).map SignalPushRow.push

/-- What one cycle finds, and the candidates that it looks at. -/
structure RelayCycle where
  now : OffsetDateTime
  communities : List CommunityRelayTarget
  control : Option OrganicFunnelDirective
  executablePlatforms : List String
  verdicts : DeliveryLaneKey → Option LaneVerdict
  cycle : CycleState
  events : List SupplyEvent

inductive RelayEvent where
  | supply (cycle : RelayCycle)
  /-- A push is cancelled: denied, expired or withdrawn. -/
  | cancel (place : Nat)

section Runs

variable (letters : LetterTables)

def RelayCycle.reads (cycle : RelayCycle) : SupplyReads where
  letters := letters
  now := cycle.now
  communities := cycle.communities
  control := cycle.control
  executablePlatforms := cycle.executablePlatforms

def createdPush (now : OffsetDateTime)
    (entry : SupplyEntry) : Option SignalPushRow :=
  match entry.created, entry.candidate.content with
  | true, .signalPush title body =>
    some
      { idempotencyKey := entry.candidate.actionIdempotencyKey
        decisionKind := entry.candidate.decisionKind
        createdAt := now
        title := title
        body := body
        cancelled := false }
  | _, _ => none

def RelayCycle.raised (cycle : RelayCycle)
    (rows : List SignalPushRow) : List SignalPushRow :=
  let recent := loadRecentRelayPushes rows (cycle.now - relayPushDedupeDays * nanosPerDay)
  ((supplyArm (cycle.reads letters)).log
    (supplyStart cycle.cycle cycle.verdicts recent) cycle.events).filterMap (createdPush cycle.now)

def relayStep
    (rows : List SignalPushRow) : RelayEvent → List SignalPushRow
  | .supply cycle => rows ++ cycle.raised letters rows
  | .cancel place => rows.modify place fun row => { row with cancelled := true }

def pushesAfter (events : List RelayEvent) : List SignalPushRow :=
  events.foldl (relayStep letters) []

/-- The relay pushes on record that are not cancelled, as they were raised. -/
def liveRelays (rows : List SignalPushRow) : List RecentRelayPush :=
  (rows.filter SignalPushRow.isLiveRelay).map SignalPushRow.push

/--
Any two relay pushes are well apart, and neither says what the other said
within the days that are remembered.
-/
def RelaysPaced (rows : List SignalPushRow) : Prop :=
  (liveRelays rows).Pairwise (PacedBefore letters)

end Runs

section Cycle

variable {reads : SupplyReads} {arm : SupplyArm} {event : SupplyEvent}

def createdRelay? (now : OffsetDateTime)
    (entry : SupplyEntry) : Option RecentRelayPush :=
  if entry.created then
    entry.candidate.relayPush?.map fun words => ⟨now, words.1, words.2⟩
  else
    none

theorem mem_recentRelays_supplyStep {push : RecentRelayPush} (isRecent : push ∈ arm.recentRelays) :
    push ∈ (supplyStep reads arm event).1.recentRelays := by
  have remembered : ∀ actionId, push ∈ rememberRelay reads event.candidate actionId
        arm.recentRelays := by
    intro actionId
    unfold rememberRelay
    split
    · exact List.mem_append_left _ isRecent
    · exact isRecent
  cases passes : passesFunnel reads event.candidate with
  | false =>
    rw [(supplyStep_of_held passes).1]
    exact isRecent
  | true =>
    rw [supplyStep_of_passes passes]
    unfold routeStep
    dsimp only
    split
    · exact isRecent
    · split
      · exact isRecent
      · exact remembered _

/--
A relay push that is created was well after all that was remembered, and is
remembered itself.
-/
theorem createdRelay_supplyStep {push : RecentRelayPush}
    (created : createdRelay? reads.now (supplyStep reads arm event).2 = some push) :
    (∀ earlier ∈ arm.recentRelays, PacedBefore reads.letters earlier push) ∧
      push ∈ (supplyStep reads arm event).1.recentRelays := by
  unfold createdRelay? at created
  split at created
  · rename_i isCreated
    rw [candidate_supplyStep, Option.map_eq_some_iff] at created
    obtain ⟨⟨title, body⟩, isPush, rfl⟩ := created
    cases passes : passesFunnel reads event.candidate with
    | false =>
      rw [(supplyStep_of_held passes).2.1] at isCreated
      cases isCreated
    | true =>
      rw [supplyStep_of_passes passes] at isCreated ⊢
      unfold routeStep at isCreated ⊢
      dsimp only at isCreated ⊢
      split at isCreated
      · cases isCreated
      · rename_i isAllowed
        split at isCreated
        · cases isCreated
        · rename_i isPaced
          rw [if_neg isAllowed, if_neg isPaced]
          simp only [pacingAllows, isPush, Bool.not_eq_true',
            Bool.not_eq_false, decide_eq_true_eq] at isPaced
          refine ⟨relayPushVerdict_eq_send_iff.mp isPaced, ?_⟩
          rw [created_persistStep] at isCreated
          have handedBack := actionId?_isSome_of_creates arm.cycle
            event.candidate.toDecisionCandidate isCreated
          obtain ⟨actionId, found⟩ := Option.isSome_iff_exists.mp handedBack
          simp [persistStep, rememberRelay, found, isPush]
  · cases created

/-- The relay pushes of a cycle keep their distance to all before them. -/
theorem pairwise_createdRelays (arm : SupplyArm) (events : List SupplyEvent) :
    (∀ earlier ∈ arm.recentRelays,
      ∀ push ∈ ((supplyArm reads).log arm events).filterMap (createdRelay? reads.now),
        PacedBefore reads.letters earlier push) ∧
      (((supplyArm reads).log arm events).filterMap
        (createdRelay? reads.now)).Pairwise (PacedBefore reads.letters) := by
  induction events generalizing arm with
  | nil =>
    exact ⟨fun _ _ _ isRaised => absurd isRaised List.not_mem_nil, List.Pairwise.nil⟩
  | cons event later inductionHypothesis =>
    obtain ⟨laterAfter, laterPaced⟩ := inductionHypothesis (supplyStep reads arm event).1
    rw [log_supplyArm_cons]
    cases created : createdRelay? reads.now (supplyStep reads arm event).2 with
    | none =>
      rw [List.filterMap_cons_none created]
      exact ⟨fun earlier isRecent =>
        laterAfter earlier (mem_recentRelays_supplyStep isRecent),
        laterPaced⟩
    | some push =>
      obtain ⟨paced, isRemembered⟩ := createdRelay_supplyStep created
      rw [List.filterMap_cons_some created]
      refine ⟨?_, List.Pairwise.cons (laterAfter push isRemembered) laterPaced⟩
      intro earlier isRecent raised isRaised
      rcases List.mem_cons.mp isRaised with rfl | isLater
      · exact paced earlier isRecent
      · exact laterAfter earlier (mem_recentRelays_supplyStep isRecent)
          raised isLater

end Cycle

section Kept

variable {letters : LetterTables} {rows : List SignalPushRow} {now : OffsetDateTime}
  {entry : SupplyEntry} {row : SignalPushRow}

/-- What the pacing can rely on: what it did before, and that it finds it. -/
structure RelaysKept
    (letters : LetterTables)
    (rows : List SignalPushRow) : Prop where
  paced : RelaysPaced letters rows
  keyed :
    ∀ row ∈ rows,
      row.isLiveRelay = true → isRelayPushKey row.idempotencyKey = true

theorem mem_liveRelays_iff {push : RecentRelayPush} :
    push ∈ liveRelays rows ↔ ∃ row ∈ rows, row.isLiveRelay = true ∧ row.push = push := by
  simp [liveRelays, and_assoc]

theorem filter_isLiveRelay_createdPush (now : OffsetDateTime) (entries : List SupplyEntry) :
    liveRelays (entries.filterMap (createdPush now)) = entries.filterMap (createdRelay? now) := by
  unfold liveRelays
  rw [List.filter_filterMap, List.map_filterMap]
  congr 1
  funext entry
  unfold createdPush createdRelay? SupplyCandidate.relayPush?
  cases entry.created with
  | false => rfl
  | true =>
    cases entry.candidate.content <;> cases entry.candidate.decisionKind <;>
      rfl

theorem isRelayPushKey_of_createdPush (created : createdPush now entry = some row)
    (isRelay : row.isLiveRelay = true) :
    isRelayPushKey row.idempotencyKey = true := by
  unfold createdPush at created
  split at created
  · rename_i title body _ isPush
    cases created
    simp only [SignalPushRow.isLiveRelay, Bool.and_eq_true, decide_eq_true_eq] at isRelay
    exact (entry.candidate.relayPush title body isPush isRelay.1).2
  · cases created

theorem pacedBefore_of_forgotten {earlier push : RecentRelayPush}
    (forgotten : earlier.atTime < push.atTime - relayPushDedupeDays * nanosPerDay) :
    PacedBefore letters earlier push := by
  have longAgo : relayPushDedupeDays * nanosPerDay < push.atTime - earlier.atTime :=
    Int.lt_sub_left_of_add_lt (Int.add_lt_of_lt_sub_right forgotten)
  refine ⟨?_, fun isRemembered => ?_, fun isRemembered => ?_⟩
  · exact le_trans (by decide) (le_of_lt longAgo)
  · exact absurd isRemembered (not_le_of_gt longAgo)
  · exact absurd isRemembered (not_le_of_gt longAgo)

theorem pacedBefore_of_loaded (kept : RelaysKept letters rows)
    {earlier push : RecentRelayPush} (isLive : earlier ∈ liveRelays rows)
    (isNow : push.atTime = now)
    (loadedPaced :
      ∀ recent ∈ loadRecentRelayPushes rows (now - relayPushDedupeDays * nanosPerDay),
        PacedBefore letters recent push) :
    PacedBefore letters earlier push := by
  obtain ⟨row, onRecord, isRelay, rfl⟩ := mem_liveRelays_iff.mp isLive
  by_cases isRead : now - relayPushDedupeDays * nanosPerDay ≤ row.createdAt
  · refine loadedPaced _ (List.mem_map_of_mem (List.mem_filter.mpr ?_))
    have notCancelled : (!row.cancelled) = true := (Bool.and_eq_true_iff.mp isRelay).2
    refine ⟨onRecord, ?_⟩
    simp [kept.keyed row onRecord isRelay, notCancelled, isRead]
  · subst isNow
    exact pacedBefore_of_forgotten (lt_of_not_ge isRead)

theorem liveRelays_append (later : List SignalPushRow) :
    liveRelays (rows ++ later) = liveRelays rows ++ liveRelays later := by
  simp [liveRelays]

theorem liveRelays_cons (row : SignalPushRow) :
    liveRelays (row :: rows) =
      if row.isLiveRelay then row.push :: liveRelays rows
      else liveRelays rows := by
  unfold liveRelays
  rw [List.filter_cons]
  split <;> rfl

theorem liveRelays_cancel_sublist (place : Nat) :
    (liveRelays (rows.modify place fun row =>
      { row with cancelled := true })).Sublist (liveRelays rows) := by
  induction rows generalizing place with
  | nil => cases place <;> exact List.Sublist.refl _
  | cons row rest inductionHypothesis =>
    cases place with
    | zero =>
      have notLive : ({ row with cancelled := true } : SignalPushRow).isLiveRelay = false := by
        simp [SignalPushRow.isLiveRelay]
      rw [List.modify_zero_cons, liveRelays_cons, liveRelays_cons, notLive,
        if_neg Bool.false_ne_true]
      split
      · exact List.sublist_cons_self _ _
      · exact List.Sublist.refl _
    | succ earlier =>
      rw [List.modify_succ_cons, liveRelays_cons, liveRelays_cons]
      split
      · exact (inductionHypothesis earlier).cons_cons _
      · exact inductionHypothesis earlier

theorem mem_cancel {place : Nat}
    (onRecord : row ∈ rows.modify place fun row =>
      { row with cancelled := true }) :
    ∃ original ∈ rows, row = original ∨ row = { original with cancelled := true } := by
  induction rows generalizing place with
  | nil => cases place <;> cases onRecord
  | cons first rest inductionHypothesis =>
    cases place with
    | zero =>
      rcases List.mem_cons.mp onRecord with isFirst | inRest
      · exact ⟨first, List.mem_cons_self, Or.inr isFirst⟩
      · exact ⟨row, List.mem_cons_of_mem _ inRest, Or.inl rfl⟩
    | succ earlier =>
      rcases List.mem_cons.mp onRecord with isFirst | inRest
      · exact ⟨first, List.mem_cons_self, Or.inl isFirst⟩
      · obtain ⟨original, inOriginal, same⟩ := inductionHypothesis inRest
        exact ⟨original, List.mem_cons_of_mem _ inOriginal, same⟩

theorem atTime_of_createdRelay {push : RecentRelayPush}
    (created : createdRelay? now entry = some push) :
    push.atTime = now := by
  unfold createdRelay? at created
  split at created
  · obtain ⟨words, _, rfl⟩ := Option.map_eq_some_iff.mp created
    rfl
  · cases created

/-- One cycle, or one cancellation, keeps the pushes paced. -/
theorem RelaysKept.step (kept : RelaysKept letters rows) (event : RelayEvent) :
    RelaysKept letters (relayStep letters rows event) := by
  cases event with
  | supply cycle =>
    have raisedPaced := @pairwise_createdRelays (cycle.reads letters)
      (supplyStart cycle.cycle cycle.verdicts
        (loadRecentRelayPushes rows (cycle.now - relayPushDedupeDays * nanosPerDay)))
      cycle.events
    have sameRelays : liveRelays (cycle.raised letters rows) = _ :=
      filter_isLiveRelay_createdPush _ _
    refine ⟨?_, ?_⟩
    · unfold RelaysPaced relayStep
      rw [liveRelays_append, sameRelays, List.pairwise_append]
      refine ⟨kept.paced, raisedPaced.2, ?_⟩
      intro earlier isLive push isRaised
      obtain ⟨entry, _, created⟩ := List.mem_filterMap.mp isRaised
      exact pacedBefore_of_loaded kept isLive (atTime_of_createdRelay created)
        fun recent isRecent => raisedPaced.1 recent isRecent push isRaised
    · intro row onRecord isRelay
      rcases List.mem_append.mp onRecord with isOld | isNew
      · exact kept.keyed row isOld isRelay
      · obtain ⟨entry, _, created⟩ := List.mem_filterMap.mp isNew
        exact isRelayPushKey_of_createdPush created isRelay
  | cancel place =>
    refine ⟨kept.paced.sublist (liveRelays_cancel_sublist place), ?_⟩
    intro row onRecord isRelay
    obtain ⟨original, onOriginal, rfl | rfl⟩ := mem_cancel onRecord
    · exact kept.keyed _ onOriginal isRelay
    · simp [SignalPushRow.isLiveRelay] at isRelay

/--
Over every run of cycles, and of cancellations between them, the live relay
pushes keep their distance and repeat nobody's words.
-/
theorem relaysPaced_pushesAfter (events : List RelayEvent) :
    RelaysPaced letters (pushesAfter letters events) := by
  have keptAfter : ∀ (events : List RelayEvent) (rows : List SignalPushRow),
      RelaysKept letters rows →
      RelaysKept letters (events.foldl (relayStep letters) rows) := by
    intro events
    induction events with
    | nil =>
      exact fun _ kept => kept
    | cons event later inductionHypothesis =>
      exact fun _ kept => inductionHypothesis _ (kept.step event)
  exact (keptAfter events []
    ⟨List.Pairwise.nil, fun _ onRecord => absurd onRecord List.not_mem_nil⟩).paced

/-- A post without a letter, carried with its permalink. -/
def wordlessRelay (source : Uuid) (sourceText link : String) :
    SupplyCandidate where
  subject := .contentSource source
  decisionKind := .relayOwnedPost
  disposition := .autoExecute
  policySnapshot := .object []
  content := .signalPush "🔥🔥🔥" link
  decisionKey := "decision:relay:v1:" ++ sourceText ++ ":signal_push"
  actionIdempotencyKey := relayKeyHead ++ sourceText ++ relayKeyTail
  relayPush := fun _ _ _ _ =>
    ⟨fun _ => ActionSubject.noConfusion, isRelayPushKey_relayKey _⟩

def raisingCycle (now : OffsetDateTime)
    (candidate : SupplyCandidate) : RelayEvent :=
  .supply
    { now := now
      communities := []
      control := none
      executablePlatforms := []
      verdicts := fun _ => none
      cycle := unlimitedCycle
      events := [⟨candidate, .stored (.actionReady true 1 true)⟩] }

def wordlessRun : List RelayEvent :=
  [raisingCycle 0
      (wordlessRelay 1 "00000000-0000-0000-0000-000000000001" "https://www.instagram.com/p/A/"),
    raisingCycle (12 * nanosPerHour)
      (wordlessRelay 2 "00000000-0000-0000-0000-000000000002" "https://www.instagram.com/p/B/")]

/--
Two posts that say nothing but their links are both pushed, twelve hours
apart: without words there is nothing to remember.
-/
theorem wordlessRelays_repeat :
    ¬ (liveRelays (pushesAfter plainReads.letters wordlessRun)).Pairwise
        fun first second =>
          second.atTime - first.atTime ≤ relayPushDedupeDays * nanosPerDay →
          relayWords plainReads.letters second.title second.body ≠
            relayWords plainReads.letters first.title first.body := by
  have bothRaised :
      liveRelays (pushesAfter plainReads.letters wordlessRun) =
        [⟨0, "🔥🔥🔥", "https://www.instagram.com/p/A/"⟩,
          ⟨12 * nanosPerHour, "🔥🔥🔥", "https://www.instagram.com/p/B/"⟩] := by
    rfl
  rw [bothRaised]
  intro distinct
  have differ := (List.pairwise_cons.mp distinct).1 _
    (List.mem_singleton_self _) (by decide)
  exact differ (by decide)

end Kept

end CrowdRelay
