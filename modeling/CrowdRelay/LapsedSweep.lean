import CrowdRelay.DecisionRuns

namespace CrowdRelay

/-!
# Asks that die in the queue

An action that waits for a person carries a window.  A sweep cancels what
outlived its window, and what nobody can answer, and frees the key of most of
them so that the same proposal may come back.  A proposal counts the lapsed
asks of its key before it inserts another, in two statements: whatever commits
in between is not in the count.
-/

structure Ask where
  /-- The key of its proposal, whatever became of the column since. -/
  proposedUnder : String
  approvalExpiresAt : Option OffsetDateTime
  row : ActionRow
  deriving Repr, DecidableEq

namespace Ask

def isAwaiting (ask : Ask) : Bool := ask.row.status = .awaitingApproval

/-- It outlived its window, and a sweep saw it. -/
def isLapsed (ask : Ask) : Bool := ask.row.lastErrorKind = some "approval_expired"

/-- The order of the sweep's batches; a row without a window comes last. -/
def dueBefore (one other : Ask) : Bool :=
  match one.approvalExpiresAt, other.approvalExpiresAt with
  | some first, some second =>
    first < second || first = second && one.row.id ≤ other.row.id
  | some _, none => true
  | none, some _ => false
  | none, none => one.row.id ≤ other.row.id

def createdBefore (one other : Ask) : Bool :=
  one.row.createdAt < other.row.createdAt ||
    one.row.createdAt = other.row.createdAt && one.row.id ≤ other.row.id

end Ask

/-! ## Writing rows -/

/-- What an update sets, and the suffix that frees the key. -/
structure RowWrite where
  status : ActionStatus
  lastErrorKind : Option String
  suffix : Option String
  deriving Repr, DecidableEq

namespace RowWrite

def onto (write : RowWrite)
    (row : ActionRow) : ActionRow :=
  { row with
    status := write.status
    lastErrorKind := write.lastErrorKind
    idempotencyKey :=
      match write.suffix with
      | some suffix => row.idempotencyKey ++ suffix ++ toString row.id
      | none => row.idempotencyKey }

def approvalExpired : RowWrite :=
  { status := .cancelled
    lastErrorKind := some "approval_expired"
    suffix := some ":lapsed:" }

def insufficientEvidence : RowWrite :=
  { status := .cancelled
    lastErrorKind := some "insufficient_evidence"
    suffix := none }

def opportunityRetired : RowWrite :=
  { status := .cancelled
    lastErrorKind := some "opportunity_retired"
    suffix := some ":retired:" }

def communityLanguageMismatch : RowWrite :=
  { status := .cancelled
    lastErrorKind := some "community_language_mismatch"
    suffix := some ":language:" }

end RowWrite

/-- What a person or an executor makes of an action: never an ask again. -/
structure Answer extends RowWrite where
  settles : status ≠ .awaitingApproval
  answered : lastErrorKind ≠ some "approval_expired"

def ActionStatus.isFinished : ActionStatus → Bool
  | .succeeded | .failed | .cancelled => true
  | _ => false

variable (write : RowWrite)

def writtenAsk (chosen : List Ask)
    (ask : Ask) : Ask :=
  if ask ∈ chosen then { ask with row := write.onto ask.row } else ask

/-- The key column is unique: an update that would break it fails. -/
def writeAsks
    (chosen asks : List Ask) : Option (List Ask) :=
  let after := asks.map (writtenAsk write chosen)
  if (after.map fun ask => ask.row.idempotencyKey).Nodup then some after else none

/-! ## The sweep -/

/-- What a sweep is called with, and what its joins say of the rows. -/
structure SweepReads where
  now : OffsetDateTime
  limit : Option Nat
  /-- Rows that another transaction holds. -/
  locked : List Nat
  /-- Decisions without any confidence. -/
  unfounded : List Nat
  /-- Letters whose opportunity is no longer live. -/
  retired : List Nat
  /-- Drafts that are not in the language of their community. -/
  mismatched : List Nat
  deriving Repr, DecidableEq

section Sweep

variable (reads : SweepReads) (asks : List Ask)

/-- A batch of the waiting rows, those locked elsewhere skipped. -/
def sweepBatch (order : Ask → Ask → Bool)
    (dies : Ask → Bool) : List Ask :=
  let candidates :=
    (asks.filter fun ask =>
        ask.isAwaiting && !reads.locked.contains ask.row.id &&
          dies ask).insertionSort fun one other => order one other
  match reads.limit with
  | some limit => candidates.take limit
  | none => candidates

def lapsingAsks : List Ask :=
  sweepBatch reads asks Ask.dueBefore fun ask =>
    match ask.approvalExpiresAt with
    | some expiresAt => expiresAt ≤ reads.now
    | none => false

def unfoundedAsks : List Ask :=
  sweepBatch reads asks Ask.dueBefore fun ask =>
    reads.unfounded.contains ask.row.decisionId

def retiredAsks : List Ask :=
  sweepBatch reads asks Ask.dueBefore fun ask =>
    ask.row.actionKind = "outreach.request" && reads.retired.contains ask.row.id

/-- The batch is cut before its drafts are judged. -/
def mismatchedAsks : List Ask :=
  (sweepBatch reads asks Ask.createdBefore fun ask =>
      ask.row.actionKind = "community.engage.request").filter fun ask =>
    reads.mismatched.contains ask.row.id

/-- The four deaths, one statement after the other, or none of them. -/
def sweepLapsedApprovalAsks : Option (List Ask) := do
  let expired ← writeAsks .approvalExpired (lapsingAsks reads asks) asks
  let founded ← writeAsks .insufficientEvidence (unfoundedAsks reads expired) expired
  let live ← writeAsks .opportunityRetired (retiredAsks reads founded) founded
  writeAsks .communityLanguageMismatch (mismatchedAsks reads live) live

end Sweep

/-! ## Proposals in flight -/

/-- A transaction between its count and its insert. -/
structure PendingAsk where
  candidate : LedgerCandidate
  reads : LedgerReads
  status : ActionStatus
  decisionId : Nat
  approvalExpiresAt : OffsetDateTime

structure AskLedger where
  asks : List Ask
  pending : List PendingAsk

def askTables (asks : List Ask) : DecisionTables :=
  { decisions := []
    actions := asks.map Ask.row }

def approvalWindow : Int := 72 * 3600 * 1000000000

def statusToInsert (tables : DecisionTables) (reads : LedgerReads)
    (candidate : LedgerCandidate) : Option ActionStatus :=
  match quotaHasRoom tables reads candidate with
  | .ok true =>
    if reads.lifecycleEpisodeAnswered then none else newActionStatus tables reads candidate
  | _ => none

variable (asks : List Ask) (proposal : PendingAsk)

def newAsk : Ask :=
  { proposedUnder := proposal.candidate.actionIdempotencyKey
    approvalExpiresAt :=
      if proposal.status = .awaitingApproval then some proposal.approvalExpiresAt else none
    row :=
      newAction (askTables asks) proposal.reads proposal.candidate
        proposal.decisionId proposal.status }

/-- The insert finds the keys and the subjects as they are by now. -/
def insertAsk : List Ask :=
  match
      sameKeyAction (askTables asks) proposal.candidate,
      inFlightAction (askTables asks) proposal.candidate with
  | none, none => asks ++ [newAsk asks proposal]
  | _, _ => asks

namespace AskLedger

def empty : AskLedger :=
  { asks := []
    pending := [] }

variable (ledger : AskLedger)

/--
A proposal up to its insert.  It holds the policy row of its context, so no
other proposal of the context is under way.
-/
def propose (candidate : LedgerCandidate) (reads : LedgerReads) (decisionId : Nat)
    (waveAnchor : Option OffsetDateTime) : AskLedger :=
  let checked := executorChecked reads candidate
  if ledger.pending.any fun other =>
      other.candidate.context = checked.context then
    ledger
  else
    match statusToInsert (askTables ledger.asks) reads checked with
    | none => ledger
    | some status =>
      { ledger with
        pending :=
          ledger.pending ++
            [{ candidate := checked
               reads := reads
               status := status
               decisionId := decisionId
               approvalExpiresAt := waveAnchor.getD (reads.now + approvalWindow) }] }

/-- A proposal under way inserts its action and commits. -/
def insert
    (place : Nat) : AskLedger :=
  match ledger.pending[place]? with
  | none => ledger
  | some proposal =>
    { asks := insertAsk ledger.asks proposal
      pending := ledger.pending.eraseIdx place }

def sweep
    (reads : SweepReads) : AskLedger :=
  match sweepLapsedApprovalAsks reads ledger.asks with
  | none => ledger
  | some asks => { ledger with asks := asks }

/-- The action with the id is answered, claimed or finished. -/
def answer (id : Nat)
    (given : Answer) : AskLedger :=
  let chosen :=
    ledger.asks.filter fun ask =>
      ask.row.id = id && !ask.row.status.isFinished
  match writeAsks given.toRowWrite chosen ledger.asks with
  | none => ledger
  | some asks => { ledger with asks := asks }

end AskLedger

inductive AskEvent where
  | propose
      (candidate : LedgerCandidate)
      (reads : LedgerReads)
      (decisionId : Nat)
      (waveAnchor : Option OffsetDateTime)
  | insert (place : Nat)
  /-- A proposal under way rolls back. -/
  | abandon (place : Nat)
  | sweep (reads : SweepReads)
  | answer
      (id : Nat)
      (given : Answer)

def AskLedger.apply (ledger : AskLedger) : AskEvent → AskLedger
  | .propose candidate reads decisionId waveAnchor =>
    ledger.propose candidate reads decisionId waveAnchor
  | .insert place => ledger.insert place
  | .abandon place => { ledger with pending := ledger.pending.eraseIdx place }
  | .sweep reads => ledger.sweep reads
  | .answer id given => ledger.answer id given

def askMachine : Machine.Transducer AskLedger AskEvent Unit where
  step ledger event := (ledger.apply event, ())

def asksAfter (run : List AskEvent) : AskLedger := askMachine.final .empty run

/-! ## One transaction, where nothing comes between -/

section Transaction

variable {tables after : DecisionTables} {ledger : AskLedger} {reads : LedgerReads}
  {candidate : LedgerCandidate} {outcome : DecisionActionOutcome} (proposal : PendingAsk)

/-- The actions a transaction leaves, by the status it inserts with. -/
theorem actions_persistChecked
    (persisted : persistChecked tables reads candidate = .ok (after, outcome)) :
    (statusToInsert tables reads candidate = none ∧
        after.actions = tables.actions) ∨
      ∃ status decided decisionId decisionCreated,
        statusToInsert tables reads candidate = some status ∧
          decided.actions = tables.actions ∧
          after = (insertAction decided reads candidate decisionId decisionCreated status).1 := by
  unfold persistChecked at persisted
  unfold statusToInsert
  split at persisted
  · cases persisted
  · rename_i full
    cases persisted
    rw [full]
    exact Or.inl ⟨rfl, rfl⟩
  · rename_i roomy
    rw [roomy]
    dsimp only at persisted ⊢
    split at persisted
    · cases persisted
    · rename_i decision _
      split at persisted
      · rename_i silent
        cases persisted
        rw [silent, ite_self]
        exact Or.inl ⟨rfl, rfl⟩
      · rename_i status inserts
        split at persisted
        · rename_i answered
          cases persisted
          rw [if_pos answered]
          exact Or.inl ⟨rfl, rfl⟩
        · rename_i unanswered
          rw [if_neg unanswered]
          injection persisted with stored
          refine Or.inr ⟨status, _, decision.id, _, inserts, ?_, (congrArg Prod.fst stored).symm⟩
          rfl

theorem map_row_insertAsk {asks : List Ask} (rows : tables.actions = asks.map Ask.row)
    (decisionCreated : Bool) :
    (insertAsk asks proposal).map Ask.row =
      (insertAction tables proposal.reads proposal.candidate
        proposal.decisionId decisionCreated proposal.status).1.actions := by
  obtain ⟨decisions, actions⟩ := tables
  subst rows
  have key :
      sameKeyAction ⟨decisions, asks.map Ask.row⟩ proposal.candidate =
        sameKeyAction (askTables asks) proposal.candidate := rfl
  have subject :
      inFlightAction ⟨decisions, asks.map Ask.row⟩ proposal.candidate =
        inFlightAction (askTables asks) proposal.candidate := rfl
  unfold insertAsk insertAction
  rw [key, subject]
  cases sameKeyAction (askTables asks) proposal.candidate with
  | some existing => rfl
  | none =>
    cases inFlightAction (askTables asks) proposal.candidate with
    | some existing => rfl
    | none => exact List.map_append

theorem insert_append :
    (AskLedger.mk ledger.asks (ledger.pending ++ [proposal])).insert ledger.pending.length =
      { ledger with asks := insertAsk ledger.asks proposal } := by
  unfold AskLedger.insert
  simp [List.eraseIdx_append_of_length_le]

/--
A proposal whose insert follows at once does to the actions what the whole
transaction does.
-/
theorem insert_propose (rows : tables.actions = ledger.asks.map Ask.row)
    (unlocked :
      ∀ other ∈ ledger.pending, other.candidate.context ≠ (executorChecked reads candidate).context)
    (persisted : persistDecisionAndAction tables reads candidate = .ok (after, outcome))
    (waveAnchor : Option OffsetDateTime) :
    ∃ decisionId,
      ((ledger.propose candidate reads decisionId waveAnchor).insert
          ledger.pending.length).asks.map Ask.row = after.actions := by
  obtain ⟨decisions, actions⟩ := tables
  subst rows
  have free :
      (ledger.pending.any fun other =>
        other.candidate.context = (executorChecked reads candidate).context) =
        false := by
    simpa using unlocked
  have status :
      statusToInsert ⟨decisions, ledger.asks.map Ask.row⟩ reads (executorChecked reads candidate) =
        statusToInsert (askTables ledger.asks) reads (executorChecked reads candidate) := rfl
  unfold AskLedger.propose
  dsimp only
  simp only [free, Bool.false_eq_true, if_false]
  rcases actions_persistChecked persisted with
    ⟨silent, same⟩ | ⟨inserted, decided, decisionId, created, inserts, same, isAfter⟩
  · refine ⟨0, ?_⟩
    rw [status] at silent
    rw [silent, same]
    simp [AskLedger.insert]
  · refine ⟨decisionId, ?_⟩
    rw [status] at inserts
    rw [inserts]
    dsimp only
    rw [insert_append, isAfter]
    exact map_row_insertAsk _ same created

end Transaction

/-- Nothing is under way once the one proposal that was has inserted. -/
theorem pending_insert_propose {ledger : AskLedger} (settled : ledger.pending = [])
    (candidate : LedgerCandidate) (reads : LedgerReads) (decisionId : Nat)
    (waveAnchor : Option OffsetDateTime) :
    ((ledger.propose candidate reads decisionId waveAnchor).insert 0).pending = [] := by
  obtain ⟨asks, pending⟩ := ledger
  cases settled
  unfold AskLedger.propose
  dsimp only
  rw [List.any_nil, if_neg Bool.false_ne_true]
  cases statusToInsert (askTables asks) reads (executorChecked reads candidate) <;> rfl

/--
The two models of the action table agree: whatever transactions run one after
the other, the actions they leave are those of a run in which proposals insert
on their own.
-/
theorem transactions_are_runs (transactions : List (LedgerCandidate × LedgerReads)) :
    ∃ run,
      (asksAfter run).pending = [] ∧
        (asksAfter run).asks.map Ask.row =
          (ledgerAfter (transactions.map fun proposed =>
            .propose proposed.1 proposed.2)).actions := by
  induction transactions using List.reverseRecOn with
  | nil => exact ⟨[], rfl, rfl⟩
  | append_singleton earlier proposed inductionHypothesis =>
    obtain ⟨run, settled, rows⟩ := inductionHypothesis
    obtain ⟨candidate, reads⟩ := proposed
    rw [List.map_append, List.map_singleton, ledgerAfter, List.foldl_append, ← ledgerAfter,
      List.foldl_cons, List.foldl_nil, DecisionTables.apply]
    split
    · rename_i after outcome persisted
      obtain ⟨decisionId, inserted⟩ := insert_propose rows.symm
          (by rw [settled]; exact fun _ => nofun) persisted none
      rw [settled, List.length_nil] at inserted
      refine ⟨run ++ [.propose candidate reads decisionId none, .insert 0], ?_, ?_⟩
      · rw [asksAfter, Machine.Transducer.final_append _ fun _ => rfl, ← asksAfter]
        exact pending_insert_propose settled candidate reads decisionId none
      · rw [asksAfter, Machine.Transducer.final_append _ fun _ => rfl, ← asksAfter]
        exact inserted
    · exact ⟨run, settled, rows⟩

end CrowdRelay
