import CrowdRelay.OneInbox

namespace CrowdRelay.Inbox

open MachineInt Ranged

/-!
# What a reply on record stops

A cycle reads the replies of an inbox before it drafts, and a reply on record
holds every pitch to that inbox.  Nothing new is pitched to it then, whatever
happens meanwhile: what still goes out was in flight when the reply came in.
-/

/-- The pitches to a target, whatever became of them. -/
def OutreachLedger.pitchesTo (ledger : OutreachLedger) (target : Uuid) : Nat :=
  ledger.actions.countP fun action => action.targetId = target

/-- No pitch was added, and what went out since was in flight before. -/
structure NothingNew
    (target : Uuid)
    (before after : OutreachLedger) : Prop where
  pitches : after.pitchesTo target = before.pitchesTo target
  messages :
    after.outboundTo target + after.inFlightFor target ≤
      before.outboundTo target + before.inFlightFor target

/-- What is on record for a target, and shows in whatever a cycle has read. -/
structure OnRecord
    (target : Uuid)
    (heard : List OutreachInteraction → Prop)
    (shows : OutreachSnapshot → Prop)
    (state : InboxState) : Prop where
  heard : heard (state.ledger.repliesFrom target)
  read : ∀ snapshot ∈ state.pending, snapshot.targetId = target → shows snapshot

section Steps

variable {policy : AutopilotPolicy} {outreach : OutreachPolicy} {target : Uuid}
  {state : InboxState} {event : InboxEvent} {ledger : OutreachLedger}

theorem NothingNew.refl (ledger : OutreachLedger) : NothingNew target ledger ledger := ⟨rfl, le_rfl⟩

theorem NothingNew.trans {before between after : OutreachLedger}
    (first : NothingNew target before between) (second : NothingNew target between after) :
    NothingNew target before after :=
  ⟨second.pitches.trans first.pitches, second.messages.trans first.messages⟩

theorem pitchesTo_setStatus {index : Nat} {action : PitchAction}
    (found : ledger.actions[index]? = some action) (status : PitchStatus) :
    (ledger.setStatus index action status).pitchesTo target = ledger.pitchesTo target := by
  obtain ⟨inRange, rfl⟩ := List.getElem?_eq_some_iff.mp found
  have counted :=
    @List.boole_getElem_le_countP _ (fun action => action.targetId = target) _ _ inRange
  simp only [OutreachLedger.pitchesTo, OutreachLedger.setStatus, List.countP_set inRange]
  omega

theorem NothingNew.setStatus {index : Nat} {action : PitchAction}
    (found : ledger.actions[index]? = some action)
    (wasInFlight : action.status.inFlight = true) (status : PitchStatus) :
    NothingNew target ledger (ledger.setStatus index action status) where
  pitches := pitchesTo_setStatus found status
  messages := Nat.add_le_add_left (inFlightFor_setStatus_le found wasInFlight target) _

theorem NothingNew.execute {index : Nat} {action : PitchAction}
    (found : ledger.actions[index]? = some action)
    (wasInFlight : action.status.inFlight = true) (now : OffsetDateTime) :
    NothingNew target ledger
      ((ledger.setStatus index action .succeeded).recordOutreachSent action now) where
  pitches := pitchesTo_setStatus found .succeeded
  messages := by
    have counted := inFlightFor_setStatus_succeeded found wasInFlight target
    rw [outboundTo_recordOutreachSent, add_assoc, add_comm _ (OutreachLedger.inFlightFor _ _)]
    exact Nat.add_le_add_left counted.le _

theorem NothingNew.insertPitch {pitch : OutreachPitch} {status : PitchStatus}
    {after : OutreachLedger} (inserted : ledger.insertPitch pitch status = some after)
    (other : pitch.targetId ≠ target) :
    NothingNew target ledger after where
  pitches := by
    rw [insertPitch_eq inserted, OutreachLedger.pitchesTo, List.countP_append,
      List.countP_singleton, if_neg (by simpa using other)]
    rfl
  messages := by
    have counted := inFlightFor_insertPitch inserted target
    rw [if_neg other] at counted
    refine Nat.add_le_add (Nat.le_of_eq ?_) counted
    rw [insertPitch_eq inserted]
    rfl

/-- A step pitches nothing to a target whose every reading is held. -/
theorem nothingNew_step
    (held :
      ∀ snapshot ∈ state.pending,
        snapshot.targetId = target →
        ∀ waveId, draftedPitch policy outreach state.cycleNow waveId snapshot = none) :
    NothingNew target state.ledger (inboxStep policy outreach state event).ledger := by
  cases event with
  | draft waveId answer =>
    unfold inboxStep
    dsimp only
    split
    · exact .refl _
    rename_i snapshot rest isPending
    split
    · exact .refl _
    rename_i ledger drafted isDrafted
    obtain ⟨pitch, status, _, about, _, inserted⟩ := draftInto_cases isDrafted
    refine .insertPitch inserted fun same => ?_
    have nothing := held snapshot (by simp [isPending]) (about.symm.trans same) waveId
    simp [draftInto, nothing] at isDrafted
  | move index move =>
    unfold inboxStep
    dsimp only
    split
    · exact .refl _
    rename_i action found
    split
    · exact .refl _
    rename_i status applied
    exact .setStatus found (PitchMove.inFlight_of_apply applied) status
  | execute index =>
    unfold inboxStep
    dsimp only
    split
    · exact .refl _
    rename_i action found
    split
    · rename_i isProcessing
      exact .execute found (by rw [isProcessing]; rfl) _
    · exact .refl _
  | reply replier disposition occurredAt =>
    exact ⟨rfl, by
      simp only [inboxStep]
      rw [outboundTo_recordReply]
      rfl⟩
  | _ => exact .refl _

end Steps

/-! ## Replies on record -/

/-- The latest reply is of a kind. -/
def LatestReply (kind : OutreachReplyDisposition → Prop)
    (replies : List OutreachInteraction) : Prop :=
  ∃ reply,
    Extremes.maxByKey OutreachInteraction.occurredAt replies = some reply ∧ kind reply.disposition

section Replies

variable {kind : OutreachReplyDisposition → Prop} {ledger : OutreachLedger}
  {snapshot : OutreachSnapshot}

/-- Whichever of two replies counts as the later one, it is of the kind. -/
theorem LatestReply.concat {replies : List OutreachInteraction}
    (latest : LatestReply kind replies) {next : OutreachInteraction}
    (isKind : kind next.disposition) :
    LatestReply kind (replies ++ [next]) := by
  obtain ⟨reply, isLatest, ofKind⟩ := latest
  rw [LatestReply, Extremes.maxByKey, Extremes.maxBy_concat, ← Extremes.maxByKey, isLatest]
  refine ⟨_, rfl, ?_⟩
  unfold Extremes.laterGreater
  split <;> assumption

theorem repliesFrom_recordReply (replier target : Uuid)
    (disposition : OutreachReplyDisposition) (occurredAt : OffsetDateTime) :
    (ledger.recordReply replier disposition occurredAt).repliesFrom target =
      ledger.repliesFrom target ++
        if replier = target then
          [⟨replier, none, .inbound, .reply, disposition, occurredAt⟩]
        else
          [] := by
  unfold OutreachLedger.repliesFrom OutreachLedger.recordReply
  rw [List.filter_append, List.filter_singleton]
  simp [OutreachInteraction.isInboundFrom]

theorem repliesFrom_recordOutreachSent (action : PitchAction) (now : OffsetDateTime)
    (target : Uuid) :
    (ledger.recordOutreachSent action now).repliesFrom target = ledger.repliesFrom target := by
  unfold OutreachLedger.repliesFrom OutreachLedger.recordOutreachSent
  rw [List.filter_append, List.filter_singleton]
  simp [OutreachInteraction.isInboundFrom]

/-- A reply that holds the relationship leaves nothing to draft. -/
theorem draftedPitch_eq_none {outreach : OutreachPolicy} {now : OffsetDateTime}
    (holds : (replyHold snapshot outreach now).isSome = true) (policy : AutopilotPolicy)
    (waveId : Option Uuid) :
    draftedPitch policy outreach now waveId snapshot = none := by
  have related : ∀ phase confidence,
      evaluateRelationship snapshot outreach now ≠ .request phase confidence := by
    obtain ⟨reason, isHold⟩ := Option.isSome_iff_exists.mp holds
    intro phase confidence requested
    unfold evaluateRelationship at requested
    rw [isHold] at requested
    repeat'
      first
        | cases requested
        | split at requested
  have held : ∀ phase confidence,
      evaluateOutreach snapshot outreach now ≠ .request phase confidence := by
    intro phase confidence requested
    unfold evaluateOutreach at requested
    split at requested
    · rename_i isRequest
      exact related _ _ isRequest
    · exact related _ _ requested
  unfold draftedPitch outreachCandidate
  split
  · rfl
  · dsimp only
    split
    · rfl
    · rename_i isRequest
      exact absurd isRequest (held _ _)

end Replies

section Runs

variable {policy : AutopilotPolicy} {outreach : OutreachPolicy} {target : Uuid}
  {heard : List OutreachInteraction → Prop} {shows : OutreachSnapshot → Prop}
  {state : InboxState} {event : InboxEvent}

/-- A cycle's load shows what is on record. -/
def Shown (heard : List OutreachInteraction → Prop)
    (shows : OutreachSnapshot → Prop) : Prop :=
  ∀ (ledger : OutreachLedger) clock facts snapshot,
    ledger.outreachSnapshot clock facts = .ok snapshot →
    heard (ledger.repliesFrom snapshot.targetId) →
    shows snapshot

/-- Another reply of the target leaves on record what is there. -/
def KeepsRecord (target : Uuid)
    (heard : List OutreachInteraction → Prop) : InboxEvent → Prop
  | .reply replier disposition occurredAt =>
    replier = target →
    ∀ replies,
      heard replies →
      heard (replies ++ [⟨replier, none, .inbound, .reply, disposition, occurredAt⟩])
  | _ => True

theorem OnRecord.step (loads : Shown heard shows) (keeps : KeepsRecord target heard event)
    (record : OnRecord target heard shows state) :
    OnRecord target heard shows (inboxStep policy outreach state event) := by
  cases event with
  | elapse time => exact ⟨record.heard, record.read⟩
  | openCycle => exact ⟨record.heard, record.read⟩
  | load opportunities =>
    refine ⟨record.heard, fun snapshot member isTarget => ?_⟩
    unfold inboxStep at member
    dsimp only at member
    split at member
    · rename_i loaded
      obtain ⟨facts, _, read⟩ := exists_facts_of_load loaded member
      exact loads _ _ _ _ read (isTarget ▸ record.heard)
    · cases member
  | draft waveId answer =>
    unfold inboxStep
    dsimp only
    split
    · exact record
    rename_i snapshot rest isPending
    have read : ∀ next ∈ rest, next.targetId = target → shows next := by
      intro next inRest
      exact record.read next (by rw [isPending]; exact List.mem_cons_of_mem _ inRest)
    split
    · exact ⟨record.heard, read⟩
    · rename_i ledger drafted isDrafted
      obtain ⟨pitch, status, _, _, _, inserted⟩ := draftInto_cases isDrafted
      rw [insertPitch_eq inserted]
      exact ⟨record.heard, read⟩
  | move index move =>
    unfold inboxStep
    dsimp only
    split
    · exact record
    split
    · exact record
    · exact ⟨record.heard, record.read⟩
  | execute index =>
    unfold inboxStep
    dsimp only
    split
    · exact record
    split
    · refine ⟨?_, record.read⟩
      rw [repliesFrom_recordOutreachSent]
      exact record.heard
    · exact record
  | reply replier disposition occurredAt =>
    refine ⟨?_, record.read⟩
    unfold inboxStep
    dsimp only
    rw [repliesFrom_recordReply]
    split
    · rename_i isTarget
      exact keeps isTarget _ record.heard
    · rw [List.append_nil]
      exact record.heard

/-- While what is on record holds every pitch, a run pitches nothing new. -/
theorem nothingNew_run (loads : Shown heard shows)
    (record : OnRecord target heard shows state) {events : List InboxEvent}
    (keeps : ∀ event ∈ events, KeepsRecord target heard event)
    (holds :
      ∀ visit ∈ (inboxes policy outreach).visits state events,
        ∀ snapshot, shows snapshot → (replyHold snapshot outreach visit.1.cycleNow).isSome = true) :
    NothingNew target state.ledger ((inboxes policy outreach).final state events).ledger := by
  have stepped :
      ∀ now event,
        (KeepsRecord target heard event ∧
          ∀ snapshot, shows snapshot → (replyHold snapshot outreach now.cycleNow).isSome = true) →
        NothingNew target state.ledger now.ledger ∧ OnRecord target heard shows now →
        NothingNew target state.ledger ((inboxes policy outreach).step now event).1.ledger ∧
          OnRecord target heard shows ((inboxes policy outreach).step now event).1 := by
    rintro now event ⟨keepsRecord, held⟩ ⟨nothing, onRecord⟩
    refine ⟨nothing.trans (nothingNew_step fun snapshot isPending isTarget waveId => ?_),
      onRecord.step loads keepsRecord⟩
    exact draftedPitch_eq_none (held snapshot (onRecord.read snapshot isPending isTarget))
      policy waveId
  exact ((inboxes policy outreach).final_invariant_of_visits stepped ⟨.refl _, record⟩
    fun visit visited =>
      ⟨keeps _ (Machine.Transducer.mem_of_mem_visits _ visited), holds visit visited⟩).1.1

end Runs

/-! ## Answers and declines -/

/-- An answer after which nothing is pitched any more. -/
def Closes (disposition : OutreachReplyDisposition) : Prop :=
  disposition = .received ∨ disposition = .positive ∨ disposition = .doNotContact

instance : DecidablePred Closes := fun disposition =>
  inferInstanceAs (Decidable (disposition = _ ∨ disposition = _ ∨ disposition = _))

/--
Once an inbox answered, be it a yes or a stop, no run pitches anything new to it
for as long as only such answers come in.
-/
theorem nothing_pitched_after_answer (policy : AutopilotPolicy)
    (outreach : OutreachPolicy) (target : Uuid) (state : InboxState) (events : List InboxEvent)
    (answered :
      OnRecord target (LatestReply Closes) (fun snapshot => Closes snapshot.lastReply) state)
    (answers :
      ∀ disposition occurredAt,
        InboxEvent.reply target disposition occurredAt ∈ events → Closes disposition) :
    NothingNew target state.ledger ((inboxes policy outreach).final state events).ledger := by
  refine nothingNew_run ?_ answered ?_ ?_
  · rintro ledger clock facts snapshot loaded ⟨reply, isLatest, closes⟩
    unfold OutreachLedger.outreachSnapshot at loaded
    split at loaded
    · cases loaded
      dsimp only at isLatest ⊢
      rw [isLatest]
      exact closes
    · cases loaded
  · intro event isRead
    cases event with
    | reply replier disposition occurredAt =>
      rintro rfl replies latest
      exact latest.concat (answers _ _ isRead)
    | _ => trivial
  · rintro visit _ snapshot (closes | closes | closes) <;>
      simp [replyHold, closes]

/-- A station that was pitched and replies, as the next cycle reads it. -/
def repliedStation (disposition : OutreachReplyDisposition) : InboxState :=
  (inboxes outreachAutopilot .default).final (.fresh 0)
    [.openCycle, .load [stationOpportunity 2], .draft none .released,
      .reply 1 disposition 0, .load [stationOpportunity 2, stationOpportunity 3]]

/-- The pitch in flight still goes out, the second opportunity is not pitched. -/
theorem nothing_pitched_after_stop :
    NothingNew 1 (repliedStation .doNotContact).ledger
      ((inboxes outreachAutopilot .default).final (repliedStation .doNotContact)
        [.draft none .released, .draft none .released, .move 0 .claim, .execute 0]).ledger :=
  nothing_pitched_after_answer _ _ 1 _ _
    ⟨⟨⟨1, none, .inbound, .reply, .doNotContact, 0⟩, by decide +kernel, Or.inr (Or.inr rfl)⟩,
      by decide +kernel⟩
    (fun _ _ isRead => by simp at isRead)

/-- The inbox declined at a time, and its latest reply can be read. -/
def DeclinedSince (declinedAt : OffsetDateTime)
    (replies : List OutreachInteraction) : Prop :=
  LatestReply (· ≠ .none) replies ∧
    ∃ reply ∈ replies, reply.disposition = .declined ∧ declinedAt ≤ reply.occurredAt

def ShowsDecline (declinedAt : OffsetDateTime)
    (snapshot : OutreachSnapshot) : Prop :=
  snapshot.lastReply ≠ .none ∧ ∃ last ∈ snapshot.lastDeclinedAt, declinedAt ≤ last

end CrowdRelay.Inbox
