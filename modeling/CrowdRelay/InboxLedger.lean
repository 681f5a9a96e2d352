import CrowdRelay.Extremes
import CrowdRelay.Outreach
import CrowdRelay.Persist

namespace CrowdRelay.Inbox

open MachineInt Ranged

/-!
# The inboxes of a workspace

Pitch actions and the interactions that executing them leaves behind, and the
cycle that reads them once before it pitches.  What is in flight, and how
often an inbox was written to, is counted for the inbox and not for the
opportunity.
-/

inductive PitchStatus where
  | awaitingApproval
  | queued
  | processing
  | succeeded
  | failed
  | cancelled
  deriving Repr, DecidableEq

def PitchStatus.inFlight : PitchStatus → Bool
  | awaitingApproval => true
  | queued => true
  | processing => true
  | succeeded => false
  | failed => false
  | cancelled => false

/-- An outreach action, its subject an opportunity of the target. -/
structure PitchAction where
  opportunityId : Uuid
  targetId : Uuid
  phase : OutreachPhase
  status : PitchStatus
  deriving Repr, DecidableEq

inductive InteractionDirection where
  | outbound
  | inbound
  deriving Repr, DecidableEq

inductive InteractionPhase where
  | initial
  | followup
  | reply
  deriving Repr, DecidableEq

structure OutreachInteraction where
  targetId : Uuid
  opportunityId : Option Uuid
  direction : InteractionDirection
  phase : InteractionPhase
  disposition : OutreachReplyDisposition
  occurredAt : OffsetDateTime
  deriving Repr, DecidableEq

namespace OutreachInteraction

variable (target : Uuid) (interaction : OutreachInteraction)

/-- A message that went out to the target. -/
def isOutboundTo : Bool := interaction.targetId = target && interaction.direction = .outbound

/-- A message that came in from the target. -/
def isInboundFrom : Bool := interaction.targetId = target && interaction.direction = .inbound

/-- A message that went out about the opportunity. -/
def isOutboundAbout (opportunity : Uuid)
    (interaction : OutreachInteraction) : Bool :=
  interaction.opportunityId = some opportunity && interaction.direction = .outbound

end OutreachInteraction

/-- The actions, the interactions, and the targets' `last_outreach_at`. -/
structure OutreachLedger where
  actions : List PitchAction
  interactions : List OutreachInteraction
  lastOutreachAt : Uuid → Option OffsetDateTime

/-- What a snapshot takes from the opportunity and its target. -/
structure OpportunityFacts where
  opportunityId : Uuid
  targetId : Uuid
  targetKind : OutreachTargetKind
  targetVersion : I64
  active : Bool
  verified : Bool
  acceptsOutreach : Bool
  relevanceBasisPoints : U16
  evidenceConfidence : Confidence
  observedAt : OffsetDateTime
  expiresAt : OffsetDateTime
  hasRecentResearch : Bool
  waveOnly : Bool
  threadFollowup : Bool
  deriving Repr, DecidableEq

namespace OutreachLedger

variable (ledger : OutreachLedger)

def inFlightFor (target : Uuid) : Nat :=
  ledger.actions.countP fun action =>
    action.targetId = target && action.status.inFlight

def outboundTo (target : Uuid) : Nat :=
  ledger.interactions.countP (OutreachInteraction.isOutboundTo target)

def everReplied (target : Uuid) : Bool :=
  ledger.interactions.any (OutreachInteraction.isInboundFrom target)

def repliesFrom (target : Uuid) : List OutreachInteraction :=
  ledger.interactions.filter fun interaction =>
    interaction.isInboundFrom target && interaction.phase = .reply

variable (target : Uuid) (clock : OffsetDateTime)

/-- The imported message that a thread's silence is counted from. -/
def threadAnchor : Option OffsetDateTime :=
  ((ledger.interactions.filter fun message =>
      message.isOutboundTo target &&
        message.opportunityId.isNone &&
        message.occurredAt ≤ clock &&
        ledger.interactions.all fun later =>
          later.targetId ≠ target || later.occurredAt ≤ message.occurredAt).map
    OutreachInteraction.occurredAt).max?

def followupsAbout (opportunity : Uuid) : Nat :=
  ledger.interactions.countP fun interaction =>
    interaction.isOutboundAbout opportunity && interaction.phase = .followup

/-- One row of the snapshot load; a count too large for its type fails it. -/
def outreachSnapshot
    (facts : OpportunityFacts) : Except RepositoryError OutreachSnapshot :=
  match (tryFrom (ledger.followupsAbout facts.opportunityId) : Option U16),
      (tryFrom (ledger.outboundTo facts.targetId) : Option U16) with
  | some followupCount, some lifetimeOutbound =>
    .ok
      { opportunityId := facts.opportunityId
        targetId := facts.targetId
        targetKind := facts.targetKind
        targetVersion := facts.targetVersion
        active := facts.active
        verified := facts.verified
        acceptsOutreach := facts.acceptsOutreach
        relevanceBasisPoints := facts.relevanceBasisPoints
        evidenceConfidence := facts.evidenceConfidence
        observedAt := facts.observedAt
        expiresAt := facts.expiresAt
        lastOutreachAt :=
          ((ledger.interactions.filter
              (OutreachInteraction.isOutboundAbout facts.opportunityId)).map
            OutreachInteraction.occurredAt).max?
        targetLastOutreachAt :=
          if facts.threadFollowup then
            ledger.threadAnchor facts.targetId clock
          else
            ledger.lastOutreachAt facts.targetId
        followupCount := followupCount
        lifetimeOutbound := lifetimeOutbound
        targetEverReplied := ledger.everReplied facts.targetId
        lastReply :=
          match Extremes.maxByKey OutreachInteraction.occurredAt
              (ledger.repliesFrom facts.targetId) with
          | some reply => reply.disposition
          | none => .none
        lastDeclinedAt :=
          (((ledger.repliesFrom facts.targetId).filter fun reply =>
              reply.disposition = .declined).map
            OutreachInteraction.occurredAt).max?
        inFlight :=
          ledger.actions.any fun action =>
            action.targetId = facts.targetId && action.status.inFlight
        hasRecentResearch := facts.hasRecentResearch
        waveOnly := facts.waveOnly
        threadFollowup := facts.threadFollowup }
  | _, _ => .error .unexpected

/-- All snapshots of a cycle, or an error where one row cannot be read. -/
def loadOutreachSnapshots (opportunities : List OpportunityFacts) :
    Except RepositoryError (List OutreachSnapshot) :=
  opportunities.mapM (ledger.outreachSnapshot clock)

/-- A new action; an opportunity with one in flight takes no second. -/
def insertPitch (pitch : OutreachPitch)
    (status : PitchStatus) : Option OutreachLedger :=
  if ledger.actions.any fun action =>
      action.opportunityId = pitch.opportunityId && action.status.inFlight then
    none
  else
    some
      { ledger with
        actions :=
          ledger.actions ++
            [{ opportunityId := pitch.opportunityId
               targetId := pitch.targetId
               phase := pitch.phase
               status := status }] }

def setStatus (index : Nat) (action : PitchAction)
    (status : PitchStatus) : OutreachLedger :=
  { ledger with
    actions := ledger.actions.set index { action with status := status } }

/-- The outbound interaction, and the target's stamp. -/
def recordOutreachSent (action : PitchAction)
    (now : OffsetDateTime) : OutreachLedger :=
  { ledger with
    interactions :=
      ledger.interactions ++
        [{ targetId := action.targetId
           opportunityId := some action.opportunityId
           direction := .outbound
           phase :=
             match action.phase with
             | .initial => .initial
             | .followUp => .followup
           disposition := .none
           occurredAt := now }]
    lastOutreachAt := fun target =>
      if target = action.targetId then some now else ledger.lastOutreachAt target }

/-- A reply that came in, not linked to an opportunity. -/
def recordReply (disposition : OutreachReplyDisposition)
    (occurredAt : OffsetDateTime) : OutreachLedger :=
  { ledger with
    interactions :=
      ledger.interactions ++
        [{ targetId := target
           opportunityId := none
           direction := .inbound
           phase := .reply
           disposition := disposition
           occurredAt := occurredAt }] }

end OutreachLedger

/-- What moves a pitch along without a message going out. -/
inductive PitchMove where
  | approve
  | claim
  | requeue
  | fail
  | cancel
  | expire
  deriving Repr, DecidableEq

def PitchMove.apply : PitchMove → PitchStatus → Option PitchStatus
  | .approve, .awaitingApproval => some .queued
  | .claim, .queued => some .processing
  | .requeue, .processing => some .queued
  | .fail, .processing => some .failed
  | .cancel, .awaitingApproval => some .cancelled
  | .cancel, .queued => some .cancelled
  | .expire, .awaitingApproval => some .cancelled
  | _, _ => none

/-- What the persistence of a candidate comes to. -/
inductive PitchAnswer where
  | refused
  | parked
  | released
  deriving Repr, DecidableEq

def PitchAnswer.status? : PitchAnswer → Option PitchStatus
  | refused => none
  | parked => some .awaitingApproval
  | released => some .queued

/-- The pitches of a run of cycles, and everything that goes on meanwhile. -/
inductive InboxEvent where
  | elapse (time : Nat)
  | openCycle
  | load (opportunities : List OpportunityFacts)
  | draft
      (waveId : Option Uuid)
      (answer : PitchAnswer)
  | move
      (action : Nat)
      (move : PitchMove)
  | execute (action : Nat)
  | reply
      (target : Uuid)
      (disposition : OutreachReplyDisposition)
      (occurredAt : OffsetDateTime)

/--
The ledger, and the cycle: its instant, the snapshots that are still to be
drafted, and the targets it pitched since it loaded them.
-/
structure InboxState where
  clock : OffsetDateTime
  ledger : OutreachLedger
  cycleNow : OffsetDateTime
  pending : List OutreachSnapshot
  pitched : List Uuid

/-- A workspace that has written to nobody yet. -/
def InboxState.fresh (clock : OffsetDateTime) : InboxState where
  clock := clock
  ledger :=
    { actions := []
      interactions := []
      lastOutreachAt := fun _ => none }
  cycleNow := clock
  pending := []
  pitched := []

section Steps

variable (policy : AutopilotPolicy) (outreach : OutreachPolicy)

/-- The pitch that a snapshot comes to at its turn. -/
def draftedPitch (now : OffsetDateTime) (waveId : Option Uuid)
    (snapshot : OutreachSnapshot) : Option OutreachPitch :=
  if snapshot.waveOnly && waveId.isNone then
    none
  else
    outreachCandidate snapshot policy (some outreach) waveId now

variable (state : InboxState)

/-- What a turn adds to the ledger, and the target it pitches. -/
def draftInto (snapshot : OutreachSnapshot) (waveId : Option Uuid)
    (answer : PitchAnswer) : Option (OutreachLedger × Uuid) :=
  (draftedPitch policy outreach state.cycleNow waveId snapshot).bind
    fun pitch =>
      answer.status?.bind fun status =>
        (state.ledger.insertPitch pitch status).map fun ledger =>
          (ledger, pitch.targetId)

def inboxStep : InboxEvent → InboxState
  | .elapse time => { state with clock := state.clock + time }
  | .openCycle => { state with cycleNow := state.clock }
  | .load opportunities =>
    { state with
      pending :=
        match state.ledger.loadOutreachSnapshots state.clock opportunities with
        | .ok snapshots => snapshots
        | .error _ => []
      pitched := [] }
  | .draft waveId answer =>
    match state.pending with
    | [] => state
    | snapshot :: rest =>
      match draftInto policy outreach state snapshot waveId answer with
      | none => { state with pending := rest }
      | some (ledger, target) =>
        { state with
          ledger := ledger
          pending := rest
          pitched := target :: state.pitched }
  | .move index move =>
    match state.ledger.actions[index]? with
    | none => state
    | some action =>
      match move.apply action.status with
      | none => state
      | some status =>
        { state with
          ledger := state.ledger.setStatus index action status }
  | .execute index =>
    match state.ledger.actions[index]? with
    | none => state
    | some action =>
      if action.status = .processing then
        { state with
          ledger :=
            (state.ledger.setStatus index action .succeeded).recordOutreachSent action state.clock }
      else
        state
  | .reply target disposition occurredAt =>
    { state with
      ledger := state.ledger.recordReply target disposition occurredAt }

/-- The inboxes as a machine that reports nothing. -/
def inboxes : Machine.Transducer InboxState InboxEvent Unit where
  step state event := (inboxStep policy outreach state event, ())

end Steps

end CrowdRelay.Inbox
