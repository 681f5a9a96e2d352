import CrowdRelay.Fallible
import CrowdRelay.InboxLedger

namespace CrowdRelay.Inbox

open MachineInt Ranged

/-!
# One inbox, one pitch at a time

A snapshot says what is in flight for its target when the cycle loads it, and
says it still at its turn as long as the cycle has not pitched the target in
between.  Every run in which no cycle pitches a target twice keeps to one
pitch at a time, to the lifetime cap and to the cooldown.
-/

/-- A later first pitch keeps its distance to every earlier touch. -/
def Rested (outreach : OutreachPolicy)
    (earlier later : OutreachInteraction) : Prop :=
  earlier.direction = .outbound →
  later.direction = .outbound →
  later.phase = .initial →
  earlier.targetId = later.targetId →
  earlier.occurredAt + outreachDays outreach.initialCooldownDays ≤ later.occurredAt

/-- What was read for a target is still so. -/
structure ReadStands
    (ledger : OutreachLedger)
    (snapshot : OutreachSnapshot) : Prop where
  idle : ledger.inFlightFor snapshot.targetId = 0
  silent :
    ledger.everReplied snapshot.targetId = false →
    snapshot.targetEverReplied = false
  touches :
    snapshot.lifetimeOutbound.val = ledger.outboundTo snapshot.targetId
  stamp :
    snapshot.threadFollowup = false →
    snapshot.targetLastOutreachAt = ledger.lastOutreachAt snapshot.targetId

structure LedgerKept
    (outreach : OutreachPolicy)
    (clock : OffsetDateTime)
    (ledger : OutreachLedger) : Prop where
  single : ∀ target, ledger.inFlightFor target ≤ 1
  room :
    ∀ target,
      ledger.everReplied target = false →
      ((ledger.outboundTo target + ledger.inFlightFor target : Nat) : Int) ≤
        outreach.maximumLifetimeContacts.val
  stamped :
    ∀ message ∈ ledger.interactions,
      message.direction = .outbound →
      ∃ touchedAt,
        ledger.lastOutreachAt message.targetId = some touchedAt ∧
          message.occurredAt ≤ touchedAt ∧
          touchedAt ≤ clock
  rested :
    ∀ action ∈ ledger.actions,
      action.status.inFlight = true →
      action.phase = .initial →
      ∀ message ∈ ledger.interactions,
        message.direction = .outbound →
        message.targetId = action.targetId →
        message.occurredAt + outreachDays outreach.initialCooldownDays ≤
          clock
  spaced : ledger.interactions.Pairwise (Rested outreach)

structure InboxKept
    (outreach : OutreachPolicy)
    (state : InboxState) : Prop where
  cycleBehind : state.cycleNow ≤ state.clock
  ledger : LedgerKept outreach state.clock state.ledger
  current :
    ∀ snapshot ∈ state.pending,
      snapshot.targetId ∉ state.pitched →
      snapshot.inFlight = false →
      ReadStands state.ledger snapshot

/-! ## What the ledger operations change -/

variable {action : PitchAction}

section Counting

variable {ledger : OutreachLedger}

theorem inFlightFor_pos (member : action ∈ ledger.actions)
    (inFlight : action.status.inFlight = true) :
    0 < ledger.inFlightFor action.targetId := by
  refine List.countP_pos_iff.mpr ⟨action, member, ?_⟩
  rw [inFlight, Bool.and_true, decide_eq_true_eq]

theorem inFlightFor_insertPitch {pitch : OutreachPitch} {status : PitchStatus}
    {after : OutreachLedger} (inserted : ledger.insertPitch pitch status = some after)
    (target : Uuid) :
    after.inFlightFor target ≤
      ledger.inFlightFor target + if pitch.targetId = target then 1 else 0 := by
  unfold OutreachLedger.insertPitch at inserted
  split at inserted
  · cases inserted
  · cases inserted
    unfold OutreachLedger.inFlightFor
    rw [List.countP_append, List.countP_singleton]
    refine Nat.add_le_add_left ?_ _
    by_cases same : pitch.targetId = target
    · rw [if_pos same]
      split
      · exact le_refl 1
      · exact Nat.zero_le 1
    · rw [if_neg same, if_neg]
      rw [Bool.and_eq_true, decide_eq_true_eq]
      exact fun both => same both.1

theorem inFlightFor_setStatus {index : Nat} {action : PitchAction} {status : PitchStatus}
    (found : ledger.actions[index]? = some action)
    (wasInFlight : action.status.inFlight = true) (target : Uuid) :
    (ledger.setStatus index action status).inFlightFor target +
        (if action.targetId = target then 1 else 0) =
      ledger.inFlightFor target + if action.targetId = target && status.inFlight then 1 else 0 := by
  obtain ⟨inRange, rfl⟩ := List.getElem?_eq_some_iff.mp found
  obtain ⟨before, later, split, _, replaced⟩ := @List.exists_of_set _ index
      { ledger.actions[index] with status := status } _ inRange
  unfold OutreachLedger.inFlightFor OutreachLedger.setStatus
  dsimp only
  have counted :
      ledger.actions.countP
          (fun action =>
            action.targetId = target && action.status.inFlight) =
        (before ++ ledger.actions[index] :: later).countP
          (fun action =>
            action.targetId = target && action.status.inFlight) := by
    rw [← split]
  rw [replaced, counted, List.countP_append, List.countP_append,
    List.countP_cons, List.countP_cons, wasInFlight, Bool.and_true]
  simp only [decide_eq_true_eq]
  omega

theorem inFlightFor_setStatus_le {index : Nat} {action : PitchAction}
    {status : PitchStatus} (found : ledger.actions[index]? = some action)
    (wasInFlight : action.status.inFlight = true) (target : Uuid) :
    (ledger.setStatus index action status).inFlightFor target ≤ ledger.inFlightFor target := by
  have counted := @inFlightFor_setStatus ledger index action status found wasInFlight target
  by_cases same : action.targetId = target
  · rw [if_pos same] at counted
    refine Nat.le_of_add_le_add_right (counted.le.trans ?_)
    refine Nat.add_le_add_left ?_ _
    split
    · exact le_refl 1
    · exact Nat.zero_le 1
  · rw [if_neg same, if_neg] at counted
    · exact counted.le
    · rw [Bool.and_eq_true, decide_eq_true_eq]
      exact fun both => same both.1

theorem inFlightFor_setStatus_succeeded {index : Nat} (found : ledger.actions[index]? = some action)
    (wasInFlight : action.status.inFlight = true) (target : Uuid) :
    (ledger.setStatus index action .succeeded).inFlightFor target +
        (if action.targetId = target then 1 else 0) =
      ledger.inFlightFor target := by
  have counted := @inFlightFor_setStatus ledger index action .succeeded found wasInFlight target
  have finished : PitchStatus.succeeded.inFlight = false := rfl
  rw [finished, Bool.and_false, if_neg Bool.false_ne_true] at counted
  exact counted

end Counting

section Interactions

variable (ledger : OutreachLedger) (action : PitchAction) (now : OffsetDateTime) (target : Uuid)

theorem outboundTo_recordOutreachSent :
    (ledger.recordOutreachSent action now).outboundTo target =
      ledger.outboundTo target + if action.targetId = target then 1 else 0 := by
  unfold OutreachLedger.outboundTo OutreachLedger.recordOutreachSent
  rw [List.countP_append, List.countP_singleton]
  unfold OutreachInteraction.isOutboundTo
  simp

theorem everReplied_recordOutreachSent :
    (ledger.recordOutreachSent action now).everReplied target = ledger.everReplied target := by
  unfold OutreachLedger.everReplied OutreachLedger.recordOutreachSent
  rw [List.any_append]
  unfold OutreachInteraction.isInboundFrom
  simp

theorem outboundTo_recordReply (replier : Uuid) (disposition : OutreachReplyDisposition)
    (occurredAt : OffsetDateTime) (target : Uuid) :
    (ledger.recordReply replier disposition occurredAt).outboundTo target =
      ledger.outboundTo target := by
  unfold OutreachLedger.outboundTo OutreachLedger.recordReply
  rw [List.countP_append, List.countP_singleton]
  unfold OutreachInteraction.isOutboundTo
  simp

theorem everReplied_of_recordReply {replier : Uuid}
    {disposition : OutreachReplyDisposition} {occurredAt : OffsetDateTime} {target : Uuid}
    (silent : (ledger.recordReply replier disposition occurredAt).everReplied target = false) :
    ledger.everReplied target = false := by
  unfold OutreachLedger.everReplied OutreachLedger.recordReply at silent
  rw [List.any_append, Bool.or_eq_false_iff] at silent
  exact silent.1

end Interactions

/-! ## Each operation keeps the ledger -/

variable {outreach : OutreachPolicy} {clock : OffsetDateTime}
  {ledger after : OutreachLedger} {snapshot : OutreachSnapshot} {index : Nat}

section Ledger

variable {pitch : OutreachPitch} {status : PitchStatus}

theorem LedgerKept.elapse (kept : LedgerKept outreach clock ledger)
    {later : OffsetDateTime} (passes : clock ≤ later) :
    LedgerKept outreach later ledger where
  single := kept.single
  room := kept.room
  stamped := by
    intro message member outbound
    obtain ⟨touchedAt, stamp, before, behind⟩ := kept.stamped message member outbound
    exact ⟨touchedAt, stamp, before, behind.trans passes⟩
  rested := by
    intro action isAction inFlight initial message member outbound same
    exact (kept.rested action isAction inFlight initial message member outbound same).trans passes
  spaced := kept.spaced

theorem insertPitch_eq (inserted : ledger.insertPitch pitch status = some after) :
    after =
      { ledger with
        actions := ledger.actions ++
            [{ opportunityId := pitch.opportunityId
               targetId := pitch.targetId
               phase := pitch.phase
               status := status }] } := by
  unfold OutreachLedger.insertPitch at inserted
  split at inserted
  · cases inserted
  · exact (Option.some.inj inserted).symm

section

variable (kept : LedgerKept outreach clock ledger)
include kept

/-- A pitch on a reading that stands leaves everything in order. -/
theorem LedgerKept.insertPitch (stands : ReadStands ledger snapshot)
    {now : OffsetDateTime} (behind : now ≤ clock)
    (founded : RequestFounded snapshot outreach now pitch.phase)
    (about : pitch.targetId = snapshot.targetId)
    (inserted : ledger.insertPitch pitch status = some after) :
    LedgerKept outreach clock after := by
  have counts := inFlightFor_insertPitch inserted
  have others :
      ∀ target,
        pitch.targetId ≠ target →
        after.inFlightFor target ≤ ledger.inFlightFor target := by
    intro target other
    have counted := counts target
    rw [if_neg other] at counted
    exact counted
  have own : after.inFlightFor pitch.targetId ≤ 1 := by
    have counted := counts pitch.targetId
    rw [if_pos rfl, about, stands.idle] at counted
    rw [about]
    exact counted
  have inserts := insertPitch_eq inserted
  subst inserts
  refine
    { single := ?_
      room := ?_
      stamped := kept.stamped
      rested := ?_
      spaced := kept.spaced }
  · intro target
    by_cases same : pitch.targetId = target
    · rw [← same]
      exact own
    · exact (others target same).trans (kept.single target)
  · intro target silent
    by_cases same : pitch.targetId = target
    · subst same
      have room := founded.underCap (stands.silent (about ▸ silent))
      rw [Ranged.lt_iff_val, stands.touches, ← about] at room
      refine le_trans ?_ (Int.add_one_le_of_lt room)
      exact_mod_cast Nat.add_le_add_left own (ledger.outboundTo pitch.targetId)
    · refine le_trans ?_ (kept.room target silent)
      exact_mod_cast Nat.add_le_add_left (others target same) _
  · intro action isAction inFlight initial message member outbound same
    rcases List.mem_append.mp isAction with isOld | isNew
    · exact kept.rested action isOld inFlight initial message member outbound
          same
    · rw [List.mem_singleton] at isNew
      subst isNew
      obtain ⟨touchedAt, stamp, before, _⟩ := kept.stamped message member outbound
      have sameTarget : message.targetId = snapshot.targetId := same.trans about
      have read : snapshot.targetLastOutreachAt = some touchedAt := by
        rw [stands.stamp (founded.ownLane initial), ← sameTarget]
        exact stamp
      have old := founded.rested initial touchedAt read
      exact (Int.add_le_add_right before _).trans (old.trans behind)

theorem LedgerKept.setStatus (status : PitchStatus) (found : ledger.actions[index]? = some action)
    (wasInFlight : action.status.inFlight = true) :
    LedgerKept outreach clock (ledger.setStatus index action status) := by
  have fewer :
      ∀ target,
        (ledger.setStatus index action status).inFlightFor target ≤ ledger.inFlightFor target :=
    inFlightFor_setStatus_le found wasInFlight
  refine
    { single := fun target => (fewer target).trans (kept.single target)
      room := ?_
      stamped := kept.stamped
      rested := ?_
      spaced := kept.spaced }
  · intro target silent
    refine le_trans ?_ (kept.room target silent)
    exact_mod_cast Nat.add_le_add_left (fewer target) _
  · intro moved isMoved inFlight initial
    rcases List.mem_or_eq_of_mem_set isMoved with isOld | rfl
    · exact kept.rested moved isOld inFlight initial
    · exact kept.rested action (List.mem_of_getElem? found) wasInFlight initial

/-- A message that goes out ends the pitch it is of. -/
theorem LedgerKept.execute (found : ledger.actions[index]? = some action)
    (wasInFlight : action.status.inFlight = true) :
    LedgerKept outreach clock
      ((ledger.setStatus index action .succeeded).recordOutreachSent action clock) := by
  have settled := kept.setStatus .succeeded found wasInFlight
  have one :
      ∀ target,
        ((ledger.setStatus index action .succeeded).recordOutreachSent action
              clock).inFlightFor target +
            (if action.targetId = target then 1 else 0) =
          ledger.inFlightFor target :=
    inFlightFor_setStatus_succeeded found wasInFlight
  refine
    { single := settled.single
      room := ?_
      stamped := ?_
      rested := ?_
      spaced := ?_ }
  · intro target silent
    rw [everReplied_recordOutreachSent] at silent
    rw [outboundTo_recordOutreachSent, Nat.add_right_comm, Nat.add_assoc, one target]
    exact kept.room target silent
  · intro message member outbound
    by_cases same : message.targetId = action.targetId
    · refine ⟨clock, if_pos same, ?_, le_refl clock⟩
      rcases List.mem_append.mp member with isOld | isNew
      · obtain ⟨touchedAt, _, before, behind⟩ := kept.stamped message isOld outbound
        exact before.trans behind
      · rw [List.mem_singleton.mp isNew]
    · rcases List.mem_append.mp member with isOld | isNew
      · obtain ⟨touchedAt, stamp, bounds⟩ := kept.stamped message isOld outbound
        exact ⟨touchedAt, (if_neg same).trans stamp, bounds⟩
      · rw [List.mem_singleton.mp isNew] at same
        exact absurd rfl same
  · intro other isOther inFlight initial message member outbound same
    rcases List.mem_append.mp member with isOld | isNew
    · exact settled.rested other isOther inFlight initial message isOld outbound
          same
    · -- The target has nothing in flight any more.
      have counted := one other.targetId
      rw [List.mem_singleton.mp isNew] at same
      rw [if_pos same] at counted
      have busy := inFlightFor_pos isOther inFlight
      have atMost := kept.single other.targetId
      rw [← counted] at atMost
      exact absurd busy (Nat.not_lt.mpr (Nat.le_of_succ_le_succ atMost))
  · refine List.pairwise_append.mpr
        ⟨kept.spaced, List.pairwise_singleton _ _, ?_⟩
    intro earlier isEarlier later isLater
    rw [List.mem_singleton.mp isLater]
    intro outbound _ initial same
    refine kept.rested action (List.mem_of_getElem? found) wasInFlight ?_ earlier
        isEarlier outbound same
    cases isPhase : action.phase with
    | initial => rfl
    | followUp =>
      rw [isPhase] at initial
      cases initial

theorem LedgerKept.recordReply (target : Uuid) (disposition : OutreachReplyDisposition)
    (occurredAt : OffsetDateTime) :
    LedgerKept outreach clock (ledger.recordReply target disposition occurredAt) := by
  have old :
      ∀ message ∈ (ledger.recordReply target disposition occurredAt).interactions,
        message.direction = .outbound →
        message ∈ ledger.interactions := by
    intro message member outbound
    rcases List.mem_append.mp member with isOld | isNew
    · exact isOld
    · rw [List.mem_singleton.mp isNew] at outbound
      cases outbound
  refine
    { single := kept.single
      room := ?_
      stamped := fun message member outbound =>
        kept.stamped message (old message member outbound) outbound
      rested := ?_
      spaced := ?_ }
  · intro replier silent
    rw [outboundTo_recordReply]
    exact kept.room replier (everReplied_of_recordReply ledger silent)
  · intro action isAction inFlight initial message member outbound
    exact kept.rested action isAction inFlight initial message
        (old message member outbound) outbound
  · refine List.pairwise_append.mpr
        ⟨kept.spaced, List.pairwise_singleton _ _, ?_⟩
    intro earlier _ later isLater _ outbound
    rw [List.mem_singleton.mp isLater] at outbound
    cases outbound

end

end Ledger

/-! ## Readings that stand -/

theorem readStands_of_load {facts : OpportunityFacts}
    (loaded : ledger.outreachSnapshot clock facts = .ok snapshot)
    (idle : snapshot.inFlight = false) :
    ReadStands ledger snapshot := by
  unfold OutreachLedger.outreachSnapshot at loaded
  split at loaded
  · rename_i followupCount lifetimeOutbound _ lifetime
    cases loaded
    refine
      { idle := ?_
        silent := fun silent => silent
        touches := tryFrom_eq_some_iff.mp lifetime
        stamp := fun isPitch => ?_ }
    · refine List.countP_eq_zero.mpr fun action member => ?_
      exact List.any_eq_false.mp idle action member
    · dsimp only at isPitch ⊢
      rw [isPitch, if_neg Bool.false_ne_true]
  · cases loaded

theorem exists_facts_of_load {opportunities : List OpportunityFacts}
    {snapshots : List OutreachSnapshot}
    (loaded : ledger.loadOutreachSnapshots clock opportunities = .ok snapshots)
    (member : snapshot ∈ snapshots) :
    ∃ facts ∈ opportunities, ledger.outreachSnapshot clock facts = .ok snapshot := by
  obtain ⟨_, rfl⟩ := Fallible.mapM_eq_ok_iff.mp loaded
  exact Fallible.mem_results_iff.mp member

section

variable (stands : ReadStands ledger snapshot)
include stands

theorem ReadStands.insertPitch {pitch : OutreachPitch} {status : PitchStatus}
    (inserted : ledger.insertPitch pitch status = some after)
    (other : pitch.targetId ≠ snapshot.targetId) :
    ReadStands after snapshot := by
  have counted := inFlightFor_insertPitch inserted snapshot.targetId
  rw [if_neg other, stands.idle] at counted
  have inserts := insertPitch_eq inserted
  subst inserts
  exact
    { idle := Nat.le_zero.mp counted
      silent := stands.silent
      touches := stands.touches
      stamp := stands.stamp }

theorem ReadStands.setStatus (status : PitchStatus) (found : ledger.actions[index]? = some action)
    (wasInFlight : action.status.inFlight = true) :
    ReadStands (ledger.setStatus index action status) snapshot where
  idle := by
    have fewer := @inFlightFor_setStatus_le ledger index action status found wasInFlight
        snapshot.targetId
    rw [stands.idle] at fewer
    exact Nat.le_zero.mp fewer
  silent := stands.silent
  touches := stands.touches
  stamp := stands.stamp

theorem ReadStands.execute (found : ledger.actions[index]? = some action)
    (wasInFlight : action.status.inFlight = true) :
    ReadStands ((ledger.setStatus index action .succeeded).recordOutreachSent action clock)
      snapshot := by
  have settled := stands.setStatus .succeeded found wasInFlight
  have other : action.targetId ≠ snapshot.targetId := by
    intro same
    have busy := inFlightFor_pos (List.mem_of_getElem? found) wasInFlight
    rw [same, stands.idle] at busy
    exact Nat.lt_irrefl 0 busy
  refine
    { idle := settled.idle
      silent := fun silent => ?_
      touches := ?_
      stamp := fun isPitch => ?_ }
  · rw [everReplied_recordOutreachSent] at silent
    exact stands.silent silent
  · rw [outboundTo_recordOutreachSent, if_neg other, Nat.add_zero]
    exact stands.touches
  · exact (stands.stamp isPitch).trans (if_neg (Ne.symm other)).symm

theorem ReadStands.recordReply (target : Uuid) (disposition : OutreachReplyDisposition)
    (occurredAt : OffsetDateTime) :
    ReadStands (ledger.recordReply target disposition occurredAt) snapshot where
  idle := stands.idle
  silent := fun silent =>
    stands.silent (everReplied_of_recordReply ledger silent)
  touches := by
    rw [outboundTo_recordReply]
    exact stands.touches
  stamp := stands.stamp

end

/-! ## Runs -/

section Runs

variable {policy : AutopilotPolicy} {state : InboxState} {waveId : Option Uuid}
  {answer : PitchAnswer}

/-- No turn comes to an action for a target its cycle already pitched. -/
def PitchesAnew (policy : AutopilotPolicy) (outreach : OutreachPolicy)
    (state : InboxState) : InboxEvent → Prop
  | .draft waveId answer =>
    ∀ snapshot ∈ state.pending.head?,
      snapshot.targetId ∈ state.pitched →
      draftInto policy outreach state snapshot waveId answer = none
  | _ => True

theorem draftInto_cases {snapshot : OutreachSnapshot} {ledger : OutreachLedger} {target : Uuid}
    (drafted : draftInto policy outreach state snapshot waveId answer = some (ledger, target)) :
    ∃ pitch status,
      target = snapshot.targetId ∧
        pitch.targetId = snapshot.targetId ∧
        RequestFounded snapshot outreach state.cycleNow pitch.phase ∧
        state.ledger.insertPitch pitch status = some ledger := by
  obtain ⟨pitch, pitched, answered⟩ := Option.bind_eq_some_iff.mp drafted
  obtain ⟨status, _, stored⟩ := Option.bind_eq_some_iff.mp answered
  obtain ⟨after, inserted, same⟩ := Option.map_eq_some_iff.mp stored
  obtain ⟨rfl, rfl⟩ := Prod.mk.inj same
  unfold draftedPitch at pitched
  split at pitched
  · cases pitched
  · obtain ⟨founded, _, about, _⟩ := request_of_outreachCandidate pitched
    exact ⟨pitch, status, about, about, founded, inserted⟩

theorem PitchMove.inFlight_of_apply {move : PitchMove} {status moved : PitchStatus}
    (applied : move.apply status = some moved) :
    status.inFlight = true := by
  cases status with
  | awaitingApproval => rfl
  | queued => rfl
  | processing => rfl
  | succeeded => cases move <;> cases applied
  | failed => cases move <;> cases applied
  | cancelled => cases move <;> cases applied

theorem inboxKept_fresh (clock : OffsetDateTime) :
    InboxKept outreach (.fresh clock) where
  cycleBehind := le_refl clock
  ledger :=
    { single := fun _ => Nat.zero_le 1
      room := fun _ _ => outreach.maximumLifetimeContacts.lower
      stamped := fun _ absent => absurd absent List.not_mem_nil
      rested := fun _ absent => absurd absent List.not_mem_nil
      spaced := List.Pairwise.nil }
  current := fun _ absent => absurd absent List.not_mem_nil

/-- A draft keeps the inboxes, unless its target is pitched again. -/
theorem InboxKept.draft (anew : PitchesAnew policy outreach state (.draft waveId answer))
    (kept : InboxKept outreach state) :
    InboxKept outreach (inboxStep policy outreach state (.draft waveId answer)) := by
  unfold inboxStep
  dsimp only
  split
  · exact kept
  rename_i snapshot rest isPending
  have atHead : snapshot ∈ state.pending := by
    rw [isPending]
    exact List.mem_cons_self
  have later : ∀ next ∈ rest, next ∈ state.pending := by
    intro next inRest
    rw [isPending]
    exact List.mem_cons_of_mem _ inRest
  split
  · exact
      { cycleBehind := kept.cycleBehind
        ledger := kept.ledger
        current := fun next inRest =>
          kept.current next (later next inRest) }
  · rename_i ledger target drafted
    have fresh : snapshot.targetId ∉ state.pitched := by
      intro again
      have nothing := anew snapshot (by rw [isPending]; rfl) again
      rw [drafted] at nothing
      cases nothing
    obtain ⟨pitch, status, rfl, about, founded, inserted⟩ := draftInto_cases drafted
    have stands := kept.current snapshot atHead fresh founded.notInFlight
    refine
      { cycleBehind := kept.cycleBehind
        ledger := kept.ledger.insertPitch stands kept.cycleBehind founded about inserted
        current := ?_ }
    intro next inRest unpitched idle
    have other := List.ne_of_not_mem_cons unpitched
    have unpitchedBefore := List.not_mem_of_not_mem_cons unpitched
    refine (kept.current next (later next inRest) unpitchedBefore idle).insertPitch inserted ?_
    rw [about]
    exact Ne.symm other

/-- One step keeps the inboxes, unless a target is pitched again. -/
theorem InboxKept.step {event : InboxEvent}
    (anew : PitchesAnew policy outreach state event) (kept : InboxKept outreach state) :
    InboxKept outreach (inboxStep policy outreach state event) := by
  cases event with
  | elapse time =>
    have passes : state.clock ≤ state.clock + time :=
      Int.le_add_of_nonneg_right (Int.natCast_nonneg time)
    exact
      { cycleBehind := kept.cycleBehind.trans passes
        ledger := kept.ledger.elapse passes
        current := kept.current }
  | openCycle =>
    exact
      { cycleBehind := le_refl state.clock
        ledger := kept.ledger
        current := kept.current }
  | load opportunities =>
    refine
      { cycleBehind := kept.cycleBehind
        ledger := kept.ledger
        current := ?_ }
    intro snapshot member _ idle
    unfold inboxStep at member
    dsimp only at member
    split at member
    · rename_i loaded
      obtain ⟨facts, _, read⟩ := exists_facts_of_load loaded member
      exact readStands_of_load read idle
    · cases member
  | draft waveId answer => exact kept.draft anew
  | move index move =>
    unfold inboxStep
    dsimp only
    split
    · exact kept
    rename_i action found
    split
    · exact kept
    rename_i status applied
    have wasInFlight := PitchMove.inFlight_of_apply applied
    exact
      { cycleBehind := kept.cycleBehind
        ledger := kept.ledger.setStatus status found wasInFlight
        current := fun snapshot member unpitched idle =>
          (kept.current snapshot member unpitched idle).setStatus status found wasInFlight }
  | execute index =>
    unfold inboxStep
    dsimp only
    split
    · exact kept
    rename_i action found
    split
    · rename_i isProcessing
      have wasInFlight : action.status.inFlight = true := by
        rw [isProcessing]
        rfl
      exact
        { cycleBehind := kept.cycleBehind
          ledger := kept.ledger.execute found wasInFlight
          current := fun snapshot member unpitched idle =>
            (kept.current snapshot member unpitched idle).execute found wasInFlight }
    · exact kept
  | reply target disposition occurredAt =>
    exact
      { cycleBehind := kept.cycleBehind
        ledger := kept.ledger.recordReply target disposition occurredAt
        current := fun snapshot member unpitched idle =>
          (kept.current snapshot member unpitched idle).recordReply target disposition occurredAt }

structure OneInbox
    (outreach : OutreachPolicy)
    (ledger : OutreachLedger) : Prop where
  single : ∀ target, ledger.inFlightFor target ≤ 1
  capped :
    ∀ target,
      ledger.everReplied target = false →
      (ledger.outboundTo target : Int) ≤
        outreach.maximumLifetimeContacts.val
  spaced :
    ledger.interactions.Pairwise fun earlier later =>
      earlier.direction = .outbound →
      earlier.phase = .initial →
      later.direction = .outbound →
      later.phase = .initial →
      earlier.targetId = later.targetId →
      earlier.occurredAt + outreachDays outreach.initialCooldownDays ≤
        later.occurredAt

theorem InboxKept.oneInbox (kept : InboxKept outreach state) :
    OneInbox outreach state.ledger where
  single := kept.ledger.single
  capped := by
    intro target silent
    refine le_trans ?_ (kept.ledger.room target silent)
    exact_mod_cast Nat.le_add_right _ _
  spaced := kept.ledger.spaced.imp
      fun rested outbound _ laterOutbound initial same =>
        rested outbound laterOutbound initial same

end Runs

/--
In every run in which no cycle pitches a target twice, every inbox has one
pitch at a time, keeps to the lifetime cap, and rests between first pitches.
-/
theorem oneInbox_of_pitchesAnew
    (policy : AutopilotPolicy)
    (outreach : OutreachPolicy)
    (start : OffsetDateTime)
    (events : List InboxEvent)
    (anew :
      ∀ visit ∈ (inboxes policy outreach).visits (.fresh start) events,
        PitchesAnew policy outreach visit.1 visit.2) :
    OneInbox outreach
      ((inboxes policy outreach).final (.fresh start) events).ledger :=
  ((inboxes policy outreach).final_invariant_of_visits
    (fun _ _ => InboxKept.step) (inboxKept_fresh start) anew).1.oneInbox

instance
    (policy : AutopilotPolicy)
    (outreach : OutreachPolicy)
    (state : InboxState)
    (event : InboxEvent) :
    Decidable (PitchesAnew policy outreach state event) := by
  unfold PitchesAnew
  split <;> infer_instance

def stationOpportunity (opportunityId : Uuid) : OpportunityFacts where
  opportunityId := opportunityId
  targetId := 1
  targetKind := .radio
  targetVersion := 1
  active := true
  verified := true
  acceptsOutreach := true
  relevanceBasisPoints := 9000
  evidenceConfidence := 9000
  observedAt := 0
  expiresAt := 90 * 86400 * 1000000000
  hasRecentResearch := true
  waveOnly := false
  threadFollowup := false

/-- One opportunity, pitched and sent, and found again in the next cycle. -/
theorem oneInbox_oneOpportunity :
    OneInbox .default
      ((inboxes outreachAutopilot .default).final (.fresh 0)
        [.openCycle, .load [stationOpportunity 2], .draft none .parked,
          .move 0 .approve, .move 0 .claim, .elapse 60, .execute 0,
          .openCycle, .load [stationOpportunity 2],
          .draft none .parked]).ledger :=
  oneInbox_of_pitchesAnew _ _ _ _ (by decide +kernel)

/-- Two opportunities of one station are two cards of one cycle. -/
theorem twoOpportunities_twoInFlight :
    ¬ OneInbox .default
      ((inboxes outreachAutopilot .default).final (.fresh 0)
        [.openCycle, .load [stationOpportunity 2, stationOpportunity 3],
          .draft none .parked, .draft none .parked]).ledger := by
  intro promised
  exact absurd (promised.single 1) (by decide +kernel)

end CrowdRelay.Inbox
