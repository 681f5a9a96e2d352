import CrowdRelay.ExecutionReports
import CrowdRelay.Machine

namespace CrowdRelay

/-!
# Observations in any order

Whatever arrives, and however often, an observation only adds stored reports,
writes at most one status, and writes none over a terminal or confirmed one.
The evidence behind a success therefore never weakens, and the run rules of
`Machine` carry all three facts through every sequence of observations.
-/

namespace LedgeredAction

/-- The success stands: nothing external to confirm, or confirmed already. -/
structure Confirmed (action : LedgeredAction) : Prop where
  succeeded : action.state = some .succeeded
  backed :
    action.requiresExecutor = false ∨
      ∃ report ∈ action.reports, action.confirmedBy report = true

/-- The action is in a state with no way out. -/
def Terminal (action : LedgeredAction) : Prop :=
  ∃ current, action.state = some current ∧ current.isTerminal = true

/-- The same action with at least the same reports. -/
structure Extends (before after : LedgeredAction) : Prop where
  actionId : after.actionId = before.actionId
  actionKind : after.actionKind = before.actionKind
  payload : after.payload = before.payload
  reports : before.reports ⊆ after.reports

theorem Extends.refl (action : LedgeredAction) : action.Extends action :=
  ⟨rfl, rfl, rfl, List.Subset.refl _⟩

theorem Extends.backed {before after : LedgeredAction} (grows : before.Extends after)
    (backed :
      before.requiresExecutor = false ∨
        ∃ report ∈ before.reports, before.confirmedBy report = true) :
    after.requiresExecutor = false ∨ ∃ report ∈ after.reports, after.confirmedBy report = true := by
  rcases backed with isLocal | ⟨report, member, confirms⟩
  · left
    simpa only [requiresExecutor, grows.payload] using isLocal
  · right
    refine ⟨report, grows.reports member, ?_⟩
    simpa only [confirmedBy, grows.actionId, grows.actionKind] using confirms

end LedgeredAction

/-- What one observation may do to an action. -/
structure ObservedSafely
    (before : LedgeredAction)
    (after : LedgeredAction × LedgerEntry) : Prop where
  grows : before.Extends after.1
  current : after.2.current = before.state
  written : after.1.state = after.2.applied.or before.state
  legal :
    ∀ target,
      after.2.applied = some target →
      ∃ current,
        before.state = some current ∧ AppliesLegally current target
  terminalKept : before.Terminal → after.2.applied = none
  confirmedKept : before.Confirmed → after.2.applied = none

section Steps

variable {action : LedgeredAction} {stored : LedgeredAction}

theorem unchanged_safely (grows : action.Extends stored) (sameState : stored.state = action.state) :
    ObservedSafely action (unchanged stored) where
  grows := grows
  current := sameState
  written := sameState
  legal := by
    intro target impossible
    cases impossible
  terminalKept := fun _ => rfl
  confirmedKept := fun _ => rfl

/--
Writing what the resolver decided is safe as long as a confirmed success is
put to the resolver as one.
-/
theorem applyResolution_safely (grows : action.Extends stored)
    (sameState : stored.state = action.state) (evidence : ResolutionEvidence)
    {successEvidence : SuccessEvidence}
    (strength : action.Confirmed → successEvidence = .providerConfirmed) :
    ObservedSafely action (applyResolution stored evidence successEvidence) := by
  unfold applyResolution
  cases current : stored.state with
  | none => exact unchanged_safely grows sameState
  | some state =>
    dsimp only
    cases decided : legalTransition state (resolveObservation evidence) successEvidence with
    | noChange => exact unchanged_safely grows sameState
    | conflict => exact unchanged_safely grows sameState
    | apply target =>
      have before : action.state = some state := by
        rw [← sameState, current]
      refine ⟨⟨grows.1, grows.2, grows.3, grows.4⟩, ?_, ?_, ?_, ?_, ?_⟩
      · exact before.symm
      · rfl
      · intro written sameTarget
        cases sameTarget
        exact ⟨state, before, legalTransition_appliesLegally decided⟩
      · rintro ⟨terminal, isState, noExit⟩
        rw [before] at isState
        cases isState
        exact absurd decided (legalTransition_of_terminal noExit _ _ _)
      · intro confirmed
        have succeeded := confirmed.succeeded
        rw [before] at succeeded
        cases succeeded
        rw [strength confirmed] at decided
        exact absurd decided (legalTransition_of_confirmed _ _)

theorem successEvidenceFor_none
    (backed :
      action.requiresExecutor = false ∨
        ∃ report ∈ action.reports, action.confirmedBy report = true) :
    action.successEvidenceFor none = .providerConfirmed := by
  unfold LedgeredAction.successEvidenceFor
  rcases backed with isLocal | ⟨report, member, confirms⟩
  · rw [if_pos isLocal]
  · have found :
        (action.reports.any fun stored =>
          action.confirmedBy stored && none ≠ some stored.receiptKey) = true :=
      List.any_eq_true.mpr ⟨report, member, by simp [confirms]⟩
    simp only [found, if_true, ite_self]

/--
A report filed under a new key leaves out nothing that backed the success
before it was stored.
-/
theorem successEvidenceFor_new_receipt (grows : action.Extends stored)
    {receiptKey : String} (fresh : action.hasReceipt receiptKey = false)
    (backed :
      action.requiresExecutor = false ∨
        ∃ report ∈ action.reports, action.confirmedBy report = true) :
    stored.successEvidenceFor (some receiptKey) = .providerConfirmed := by
  unfold LedgeredAction.successEvidenceFor
  rcases backed with isLocal | ⟨report, member, confirms⟩
  · have stillLocal : stored.requiresExecutor = false := by
      simpa only [LedgeredAction.requiresExecutor, grows.payload] using isLocal
    rw [if_pos stillLocal]
  · have otherKey : report.receiptKey ≠ receiptKey := by
      intro same
      have present : action.hasReceipt receiptKey = true :=
        List.any_eq_true.mpr ⟨report, member, by simp [same]⟩
      rw [fresh] at present
      cases present
    have stillConfirms : stored.confirmedBy report = true := by
      simpa only [LedgeredAction.confirmedBy, grows.actionId, grows.actionKind] using confirms
    have found :
        (stored.reports.any fun candidate =>
          stored.confirmedBy candidate && some receiptKey ≠ some candidate.receiptKey) = true :=
      List.any_eq_true.mpr
        ⟨report, grows.reports member, by
          simp [stillConfirms, Ne.symm otherKey]⟩
    simp only [found, if_true, ite_self]

theorem recordExecutionReport_safely (action : LedgeredAction) (command : RecordExecutionReport) :
    ObservedSafely action (recordExecutionReport action command) := by
  unfold recordExecutionReport
  split
  · exact unchanged_safely (.refl action) rfl
  · split
    · rename_i insertable
      have fresh : action.hasReceipt command.receiptKey = false := by
        simpa using (Bool.and_eq_true_iff.mp insertable).2
      have grows :
          action.Extends
            { action with
              reports := storedReport action command :: action.reports
              claims := settleClaim action command } :=
        ⟨rfl, rfl, rfl, List.subset_cons_self _ _⟩
      have strength :=
        fun confirmed : action.Confirmed =>
          successEvidenceFor_new_receipt grows fresh confirmed.backed
      dsimp only
      split
      · exact applyResolution_safely grows rfl _ strength
      · exact applyResolution_safely grows rfl _ strength
      · exact unchanged_safely grows rfl
      · exact unchanged_safely grows rfl
    · exact unchanged_safely (.refl action) rfl

theorem resolveAction_safely (isUnknown : action.state = some .unknown) (succeeded : Bool) :
    ObservedSafely action (resolveAction action succeeded) where
  grows := by
    refine ⟨rfl, rfl, rfl, ?_⟩
    unfold resolveAction
    dsimp only
    split
    · exact List.subset_cons_self _ _
    · exact List.Subset.refl _
  current := rfl
  written := rfl
  legal := by
    intro target written
    refine ⟨.unknown, isUnknown, ?_⟩
    cases written
    cases succeeded
    · exact .inl rfl
    · exact .inl rfl
  terminalKept := by
    rintro ⟨terminal, isState, noExit⟩
    rw [isUnknown] at isState
    cases isState
    cases noExit
  confirmedKept := by
    intro confirmed
    have succeeded := confirmed.succeeded
    rw [isUnknown] at succeeded
    cases succeeded

theorem reconcile_safely (action : LedgeredAction) (evidence : ResolutionEvidence) :
    ObservedSafely action (reconcile action evidence) := by
  unfold reconcile
  split
  · rename_i isUnknown
    split
    · exact resolveAction_safely isUnknown true
    · exact resolveAction_safely isUnknown false
    · exact unchanged_safely (.refl action) rfl
  · exact unchanged_safely (.refl action) rfl

theorem hasTerminalReport_of_confirmedBy {report : ExecutionReport}
    (member : report ∈ action.reports) (confirms : action.confirmedBy report = true) :
    action.hasTerminalReport = true := by
  simp only [LedgeredAction.confirmedBy, Bool.and_eq_true, decide_eq_true_eq] at confirms
  obtain ⟨⟨⟨sameAction, isSuccess⟩, -⟩, -⟩ := confirms
  exact List.any_eq_true.mpr
      ⟨report, member, by
        simp [sameAction, isSuccess, ExecutorReportStatus.isTerminal]⟩

theorem requiresExecutor_of_owesTerminalReceipt (owes : owesTerminalReceipt action = true) :
    action.requiresExecutor = true := by
  unfold owesTerminalReceipt at owes
  unfold LedgeredAction.requiresExecutor
  cases payload : action.payload with
  | none => rfl
  | some known =>
    rw [payload] at owes
    exact (Bool.and_eq_true_iff.mp owes).1

theorem detectReceiptGap_safely (action : LedgeredAction) :
    ObservedSafely action (detectReceiptGap action) := by
  unfold detectReceiptGap
  split
  · rename_i gap
    simp only [Bool.and_eq_true, decide_eq_true_eq, Bool.not_eq_true'] at gap
    obtain ⟨succeeded, ⟨⟨-, noReport⟩, -⟩, owes⟩ := gap
    refine ⟨⟨rfl, rfl, rfl, List.Subset.refl _⟩, rfl, rfl, ?_, ?_, ?_⟩
    · intro target written
      cases written
      exact ⟨.succeeded, succeeded, .inl rfl⟩
    · rintro ⟨terminal, isState, noExit⟩
      rw [succeeded] at isState
      cases isState
      cases noExit
    · intro confirmed
      exfalso
      rcases confirmed.backed with isLocal | ⟨report, member, confirms⟩
      · rw [requiresExecutor_of_owesTerminalReceipt owes] at isLocal
        cases isLocal
      · rw [hasTerminalReport_of_confirmedBy member confirms] at noReport
        cases noReport
  · exact unchanged_safely (.refl action) rfl

theorem observeAction_safely (action : LedgeredAction) (observation : ActionObservation) :
    ObservedSafely action (observeAction action observation) := by
  cases observation with
  | report command => exact recordExecutionReport_safely action command
  | reconciliation evidence => exact reconcile_safely action evidence
  | receiptGap => exact detectReceiptGap_safely action
  | fact evidence =>
    exact applyResolution_safely (.refl action) rfl evidence
        fun confirmed => successEvidenceFor_none confirmed.backed

end Steps

section Runs

variable (action : LedgeredAction) (observation : ActionObservation)

/-- An action that is observed again and again. -/
def observing :
    Machine.Transducer LedgeredAction ActionObservation LedgerEntry where
  step := observeAction

theorem observing_keeps_confirmed (confirmed : action.Confirmed) :
    (observing.step action observation).1.Confirmed := by
  have safely := observeAction_safely action observation
  have written := safely.written
  rw [safely.confirmedKept confirmed, Option.none_or] at written
  exact ⟨written.trans confirmed.succeeded, safely.grows.backed confirmed.backed⟩

theorem observing_keeps_terminal {terminal : ActionState}
    (noExit : terminal.isTerminal = true) (action : LedgeredAction)
    (observation : ActionObservation) (settled : action.state = some terminal) :
    (observing.step action observation).1.state = some terminal := by
  have safely := observeAction_safely action observation
  have written := safely.written
  rw [safely.terminalKept ⟨terminal, settled, noExit⟩, Option.none_or] at written
  exact written.trans settled

/--
An entry writes nothing, or a status the transition rules allow from the
status it was decided from, or the success that status already was.
-/
def LedgerEntry.Legal (entry : LedgerEntry) : Prop :=
  ∀ target,
    entry.applied = some target →
    ∃ current, entry.current = some current ∧ AppliesLegally current target

theorem observing_reports_legally : (observing.step action observation).2.Legal := by
  have safely := observeAction_safely action observation
  intro target written
  obtain ⟨current, isState, legal⟩ := safely.legal target written
  exact ⟨current, safely.current.trans isState, legal⟩

/--
For every action and every sequence of observations: a confirmed success stays
one, a terminal status never changes, and every status that is written is a
legal one.
-/
theorem observations_order_safe
    (action : LedgeredAction)
    (observations : List ActionObservation) :
    (action.Confirmed →
      (observing.final action observations).Confirmed) ∧
    (∀ terminal,
      terminal.isTerminal = true →
      action.state = some terminal →
      (observing.final action observations).state = some terminal) ∧
    (∀ entry ∈ observing.log action observations, entry.Legal) := by
  refine ⟨?_, ?_, ?_⟩
  · intro confirmed
    exact observing.final_invariant observing_keeps_confirmed
        confirmed observations
  · intro terminal noExit settled
    exact observing.final_invariant (observing_keeps_terminal noExit)
        settled observations
  · have reported :
        ∀ state observation, True → (observing.step state observation).2.Legal := by
      intro state observation _
      exact observing_reports_legally state observation
    exact observing.forall_mem_log (fun _ _ _ => trivial) reported
        trivial observations

/-- A booking letter handed to its executor, which has not reported yet. -/
def dispatchedOutreach : LedgeredAction where
  actionId := 11
  printedId := "00000000-0000-0000-0000-00000000000b"
  actionKind := "booking.outreach.request"
  payload := some .requestBookingOutreach
  state := some .succeeded
  emitted := true
  reports := []
  claims := fun _ => none

/-- The executor's first word: the provider took the letter. -/
def outreachDelivered : RecordExecutionReport where
  receiptKey := "receipt-1"
  executorId := "mailer"
  status := .succeeded
  claimToken := none
  providerReference := some "message-1"
  metadata := .object []

/--
The first success report writes the success a dispatched action already has,
which is no transition the rules list.
-/
theorem dispatchedOutreach_confirmed_in_place :
    (observing.log dispatchedOutreach [.report outreachDelivered]).map
        LedgerEntry.applied = [some .succeeded] ∧
      dispatchedOutreach.state = some .succeeded ∧
      ActionState.canTransitionTo .succeeded .succeeded = false := by
  decide

end Runs

end CrowdRelay
