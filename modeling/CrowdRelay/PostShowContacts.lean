import Mathlib.Algebra.Order.Ring.Int
import CrowdRelay.LadderRungs

namespace CrowdRelay

open MachineInt Ranged ShowGrowthLever

/-!
# The contacts after a show

The ladder orders the decisions about the levers after a show, and a decision
may carry a time of its own at which it reaches people.  A run evaluates the
show again and again after its start and marks what it requests.
-/

/-- What does not change about a show while it is followed up. -/
structure ShowNight where
  startsAt : OffsetDateTime
  morningAfterSendAt : Option OffsetDateTime
  deriving Repr, DecidableEq

/-- One evaluation: when, and what the facts about the show were. -/
structure ShowPoll where
  facts : ShowGrowthSnapshot
  now : OffsetDateTime
  deriving Repr, DecidableEq

/-- A lever that was requested, and when it is to reach people. -/
structure ShowContact where
  lever : ShowGrowthLever
  decidedAt : OffsetDateTime
  sendAt : Option OffsetDateTime
  deriving Repr, DecidableEq

/-- The time of delivery: that of the decision, unless it carries another. -/
def ShowContact.deliveredAt (contact : ShowContact) : OffsetDateTime :=
  contact.sendAt.getD contact.decidedAt

/-- What is marked, what was requested in the run, and the time so far. -/
structure ShowFollowUp where
  history : ShowGrowthHistory
  contacts : List ShowContact
  clock : OffsetDateTime
  deriving Repr, DecidableEq

section Runs

variable (night : ShowNight) (policy : ShowGrowthPolicy) (followUp : ShowFollowUp) (poll : ShowPoll)

/-- The show as an evaluation finds it. -/
def snapshotAt : ShowGrowthSnapshot :=
  { poll.facts with
    startsAt := night.startsAt
    morningAfterSendAt := night.morningAfterSendAt
    history := followUp.history }

/-- One evaluation, with the lever it requests marked in the history. -/
def followShow :
    Machine.Transducer ShowFollowUp ShowPoll ShowGrowthDecision where
  step := fun followUp poll =>
    let decision := evaluateShowGrowth (snapshotAt night followUp poll) policy poll.now
    match decision with
    | .request lever _ sendAt =>
      ({ history := followUp.history.markRequested lever
         contacts := followUp.contacts ++ [⟨lever, poll.now, sendAt⟩]
         clock := poll.now }, decision)
    | .hold _ => ({ followUp with clock := poll.now }, decision)

/-- The show as it starts, with whatever was requested before. -/
def ShowNight.begin (history : ShowGrowthHistory) : ShowFollowUp where
  history := history
  contacts := []
  clock := night.startsAt

/-- The lever that is due at an evaluation after the show. -/
def dueContact : Option ShowGrowthLever :=
  if ladderOpen (snapshotAt night followUp poll) policy poll.now then
    postShow.find? (isDue (snapshotAt night followUp poll) policy poll.now)
  else
    none

def followAskAt : OffsetDateTime :=
  night.startsAt + policy.postShowFollowAskHours.val * nanosPerHour

/-- How long a lever stays open after the show. -/
def windowHours : ShowGrowthLever → Int
  | .postShowRecap => policy.postShowRecapHours.val
  | .postShowMerchFollowUp => policy.postShowMerchHours.val
  | _ => policy.postShowFollowAskHours.val

/-- The time a decision about a lever carries. -/
def contactSendAt : ShowGrowthLever → Option OffsetDateTime
  | .postShowRecap => night.morningAfterSendAt
  | .postShowFollowAsk => some (followAskAt night policy)
  | _ => none

end Runs

/-- Of any two contacts the one whose lever comes first arrives no later. -/
def ContactsInOrder (contacts : List ShowContact) : Prop :=
  ∀ first ∈ contacts, ∀ second ∈ contacts,
    first.lever.rung < second.lever.rung →
    first.deliveredAt ≤ second.deliveredAt

/--
What keeps the contacts in order at one evaluation: a recap that is due
arrives before a merch follow-up already sent, a merch follow-up that is due
waits for the morning of the recap, and the morning is no later than the ask.
-/
structure KeepsContactOrder
    (night : ShowNight)
    (policy : ShowGrowthPolicy)
    (followUp : ShowFollowUp)
    (poll : ShowPoll) : Prop where
  recapFirst :
    dueContact night policy followUp poll = some .postShowRecap →
    ∀ contact ∈ followUp.contacts,
      contact.lever = .postShowMerchFollowUp →
      night.morningAfterSendAt.getD poll.now ≤ contact.decidedAt
  merchLater :
    dueContact night policy followUp poll = some .postShowMerchFollowUp →
    (∃ contact ∈ followUp.contacts, contact.lever = .postShowRecap) →
    ∀ morning ∈ night.morningAfterSendAt, morning ≤ poll.now
  askLast :
    (dueContact night policy followUp poll = some .postShowRecap ∧
        ∃ contact ∈ followUp.contacts, contact.lever = .postShowFollowAsk) ∨
      (dueContact night policy followUp poll = some .postShowFollowAsk ∧
        ∃ contact ∈ followUp.contacts, contact.lever = .postShowRecap) →
    ∀ morning ∈ night.morningAfterSendAt,
      morning ≤ followAskAt night policy

variable {night : ShowNight} {policy : ShowGrowthPolicy} {followUp : ShowFollowUp} {poll : ShowPoll}

section Steps

variable {lever : ShowGrowthLever} {contact : ShowContact} {clock : OffsetDateTime}

theorem mem_postShow_of_due (due : dueContact night policy followUp poll = some lever) :
    lever ∈ postShow ∧
      ladderOpen (snapshotAt night followUp poll) policy poll.now = true ∧
        isDue (snapshotAt night followUp poll) policy poll.now lever = true := by
  unfold dueContact at due
  split at due
  · rename_i isOpen
    exact ⟨List.mem_of_find?_eq_some due, isOpen, List.find?_some due⟩
  · cases due

section

variable (after : night.startsAt ≤ poll.now)
include after

theorem ladder_after : ladder (snapshotAt night followUp poll) poll.now = postShow :=
  if_pos (sub_nonpos.mpr after)

theorem evaluateShowGrowth_of_due (due : dueContact night policy followUp poll = some lever) :
    evaluateShowGrowth (snapshotAt night followUp poll) policy poll.now =
      .request lever lever.baseConfidence (contactSendAt night policy lever) := by
  obtain ⟨isPostShow, isOpen, -⟩ := mem_postShow_of_due due
  have found :
      postShow.find? (isDue (snapshotAt night followUp poll) policy poll.now) = some lever := by
    rw [dueContact, if_pos isOpen] at due
    exact due
  have unheld : heldEdge (snapshotAt night followUp poll) lever = false := by
    simp only [postShow, List.mem_cons, List.not_mem_nil, or_false] at isPostShow
    rcases isPostShow with rfl | rfl | rfl <;> rfl
  have sameSendAt :
      sendAtFor (snapshotAt night followUp poll) policy lever =
        contactSendAt night policy lever := by
    cases lever <;> rfl
  rw [evaluateShowGrowth_of_open isOpen, ladder_after after, found, decisionFor, unheld, sameSendAt]
  rfl

theorem evaluateShowGrowth_of_notDue (notDue : dueContact night policy followUp poll = none) :
    ∃ reason,
      evaluateShowGrowth (snapshotAt night followUp poll) policy poll.now = .hold reason := by
  unfold dueContact at notDue
  split at notDue
  · rename_i isOpen
    refine ⟨.notDue, ?_⟩
    rw [evaluateShowGrowth_of_open isOpen, ladder_after after, notDue]
    rfl
  · rename_i isClosed
    rw [Bool.not_eq_true] at isClosed
    obtain ⟨reason, held, -⟩ := evaluateShowGrowth_of_closed isClosed
    exact ⟨reason, held⟩

theorem step_of_due (due : dueContact night policy followUp poll = some lever) :
    ((followShow night policy).step followUp poll).1 =
      { history := followUp.history.markRequested lever
        contacts := followUp.contacts ++ [⟨lever, poll.now, contactSendAt night policy lever⟩]
        clock := poll.now } := by
  simp only [followShow, evaluateShowGrowth_of_due after due]

theorem step_of_notDue (notDue : dueContact night policy followUp poll = none) :
    ((followShow night policy).step followUp poll).1 = { followUp with clock := poll.now } := by
  obtain ⟨reason, held⟩ := evaluateShowGrowth_of_notDue after notDue
  simp only [followShow, held]

end

theorem postShowHours_of_valid (valid : validShowGrowthPolicy policy = true) :
    policy.postShowRecapHours.val ≤ policy.postShowMerchHours.val ∧
      policy.postShowMerchHours.val ≤ policy.postShowFollowAskHours.val := by
  simp only [validShowGrowthPolicy, Bool.and_eq_true, decide_eq_true_eq,
    ge_iff_le, and_assoc, le_iff_val] at valid
  obtain ⟨-, -, -, -, -, -, -, -, -, -, -, -, recapFirst, merchFirst, -⟩ := valid
  exact ⟨recapFirst, merchFirst⟩

theorem window_of_due (due : dueContact night policy followUp poll = some lever) :
    poll.now ≤ night.startsAt + windowHours policy lever * nanosPerHour ∧
      policy.postShowRecapHours.val ≤ policy.postShowMerchHours.val ∧
        policy.postShowMerchHours.val ≤ policy.postShowFollowAskHours.val := by
  obtain ⟨isPostShow, isOpen, gate⟩ := mem_postShow_of_due due
  refine ⟨?_, ?_⟩
  · simp only [isDue, Bool.and_eq_true] at gate
    have holds := gate.1
    simp only [postShow, List.mem_cons, List.not_mem_nil, or_false] at isPostShow
    rcases isPostShow with rfl | rfl | rfl <;>
      · simp only [gateHolds, Bool.and_eq_true, decide_eq_true_eq] at holds
        exact sub_le_iff_le_add'.mp holds.1.1
  · simp only [ladderOpen, Bool.and_eq_true] at isOpen
    exact postShowHours_of_valid isOpen.1.1.1

/-- A contact of the run, as the evaluation that requested it left it. -/
structure ContactKept
    (night : ShowNight)
    (policy : ShowGrowthPolicy)
    (clock : OffsetDateTime)
    (contact : ShowContact) : Prop where
  isPostShow : contact.lever ∈ postShow
  carries : contact.sendAt = contactSendAt night policy contact.lever
  isPast : contact.decidedAt ≤ clock
  inWindow :
    contact.decidedAt ≤
      night.startsAt + windowHours policy contact.lever * nanosPerHour
  ordered :
    policy.postShowRecapHours.val ≤ policy.postShowMerchHours.val ∧
      policy.postShowMerchHours.val ≤ policy.postShowFollowAskHours.val

/-- The show has started, and its contacts are those of the evaluations. -/
structure FollowedUp
    (night : ShowNight)
    (policy : ShowGrowthPolicy)
    (followUp : ShowFollowUp) : Prop where
  started : night.startsAt ≤ followUp.clock
  kept :
    ∀ contact ∈ followUp.contacts,
      ContactKept night policy followUp.clock contact

theorem ContactKept.later {clock later : OffsetDateTime}
    (kept : ContactKept night policy clock contact) (passes : clock ≤ later) :
    ContactKept night policy later contact :=
  { kept with isPast := le_trans kept.isPast passes }

theorem contactKept_of_due (due : dueContact night policy followUp poll = some lever) :
    ContactKept night policy poll.now ⟨lever, poll.now, contactSendAt night policy lever⟩ where
  isPostShow := (mem_postShow_of_due due).1
  carries := rfl
  isPast := le_refl _
  inWindow := (window_of_due due).1
  ordered := (window_of_due due).2

theorem followedUp_step (followUp : ShowFollowUp) (poll : ShowPoll)
    (passes : followUp.clock ≤ poll.now) (followed : FollowedUp night policy followUp) :
    FollowedUp night policy ((followShow night policy).step followUp poll).1 := by
  have after := le_trans followed.started passes
  cases due : dueContact night policy followUp poll with
  | none =>
    rw [step_of_notDue after due]
    exact ⟨after, fun contact isContact =>
      (followed.kept contact isContact).later passes⟩
  | some lever =>
    rw [step_of_due after due]
    refine ⟨after, fun contact isContact => ?_⟩
    rcases List.mem_append.mp isContact with isOld | isNew
    · exact (followed.kept contact isOld).later passes
    · rw [List.mem_singleton.mp isNew]
      exact contactKept_of_due due

theorem ContactKept.deliveredAt_eq (kept : ContactKept night policy clock contact) :
    contact.deliveredAt = (contactSendAt night policy contact.lever).getD contact.decidedAt := by
  rw [ShowContact.deliveredAt, kept.carries]

theorem ContactKept.decidedAt_le (kept : ContactKept night policy clock contact) :
    contact.decidedAt ≤ followAskAt night policy := by
  have hours : windowHours policy contact.lever ≤ policy.postShowFollowAskHours.val := by
    obtain ⟨recapFirst, merchFirst⟩ := kept.ordered
    unfold windowHours
    split
    · exact le_trans recapFirst merchFirst
    · exact merchFirst
    · exact le_refl _
  refine le_trans kept.inWindow ?_
  exact add_le_add_right (mul_le_mul_of_nonneg_right hours (by decide)) night.startsAt

end Steps

section Order

variable {carried : Option OffsetDateTime} {decided latest : OffsetDateTime}

/-- A contact arrives before or after another as its lever comes. -/
structure InOrderWith (added contact : ShowContact) : Prop where
  before :
    contact.lever.rung < added.lever.rung →
    contact.deliveredAt ≤ added.deliveredAt
  after :
    added.lever.rung < contact.lever.rung →
    added.deliveredAt ≤ contact.deliveredAt

theorem contactsInOrder_append_singleton {contacts : List ShowContact} {added : ShowContact} :
    ContactsInOrder (contacts ++ [added]) ↔
      ContactsInOrder contacts ∧ ∀ contact ∈ contacts, InOrderWith added contact := by
  constructor
  · intro ordered
    refine ⟨fun first isFirst second isSecond => ?_, fun contact isContact => ?_⟩
    · exact ordered first (List.mem_append_left _ isFirst) second
        (List.mem_append_left _ isSecond)
    · have isThere := List.mem_append_left [added] isContact
      have isAdded : added ∈ contacts ++ [added] := by simp
      exact ⟨ordered contact isThere added isAdded, ordered added isAdded contact isThere⟩
  · rintro ⟨ordered, withAdded⟩ first isFirst second isSecond sooner
    rcases List.mem_append.mp isFirst with firstOld | firstNew <;>
      rcases List.mem_append.mp isSecond with secondOld | secondNew
    · exact ordered first firstOld second secondOld sooner
    · obtain rfl := List.mem_singleton.mp secondNew
      exact (withAdded first firstOld).before sooner
    · obtain rfl := List.mem_singleton.mp firstNew
      exact (withAdded second secondOld).after sooner
    · rw [List.mem_singleton.mp firstNew, List.mem_singleton.mp secondNew]
        at sooner
      exact absurd sooner (lt_irrefl _)

theorem getD_le (inTime : ∀ time ∈ carried, time ≤ latest) (otherwise : decided ≤ latest) :
    carried.getD decided ≤ latest := by
  cases carried with
  | none => exact otherwise
  | some time => exact inTime time rfl

theorem le_of_getD_le (inTime : carried.getD decided ≤ latest) :
    ∀ time ∈ carried, time ≤ latest := by
  rintro time isCarried
  rw [Option.mem_def.mp isCarried, Option.getD_some] at inTime
  exact inTime

theorem ContactKept.lever_cases {clock : OffsetDateTime} {contact : ShowContact}
    (kept : ContactKept night policy clock contact) :
    (contact.lever = .postShowRecap ∧
        contact.deliveredAt = night.morningAfterSendAt.getD contact.decidedAt) ∨
      (contact.lever = .postShowMerchFollowUp ∧ contact.deliveredAt = contact.decidedAt) ∨
      (contact.lever = .postShowFollowAsk ∧ contact.deliveredAt = followAskAt night policy) := by
  have arrives := kept.deliveredAt_eq
  have isPostShow := kept.isPostShow
  simp only [postShow, List.mem_cons, List.not_mem_nil, or_false] at isPostShow
  rcases isPostShow with isRecap | isMerch | isAsk
  · rw [isRecap] at arrives
    exact Or.inl ⟨isRecap, arrives⟩
  · rw [isMerch] at arrives
    exact Or.inr (Or.inl ⟨isMerch, arrives⟩)
  · rw [isAsk] at arrives
    exact Or.inr (Or.inr ⟨isAsk, arrives⟩)

theorem recap_lt_merch : rung .postShowRecap < rung .postShowMerchFollowUp := by
  decide

theorem merch_lt_ask : rung .postShowMerchFollowUp < rung .postShowFollowAsk := by
  decide

theorem recap_lt_ask : rung .postShowRecap < rung .postShowFollowAsk :=
  lt_trans recap_lt_merch merch_lt_ask

/-- A recap is in order with the merch follow-up and the ask before it. -/
theorem inOrder_recap_iff (followed : FollowedUp night policy followUp)
    (due : dueContact night policy followUp poll = some .postShowRecap) :
    (∀ contact ∈ followUp.contacts,
        InOrderWith ⟨.postShowRecap, poll.now, night.morningAfterSendAt⟩ contact) ↔
      KeepsContactOrder night policy followUp poll := by
  have decided := (contactKept_of_due due).decidedAt_le
  constructor
  · intro inOrder
    refine
      { recapFirst := fun _ contact isContact isMerch => ?_
        merchLater := fun otherwise => by rw [due] at otherwise; cases otherwise
        askLast := ?_ }
    · obtain ⟨isRecap, -⟩ | ⟨-, arrives⟩ | ⟨isAsk, -⟩ :=
        (followed.kept contact isContact).lever_cases
      · rw [isMerch] at isRecap
        cases isRecap
      · rw [← arrives]
        exact (inOrder contact isContact).after (by rw [isMerch]; exact recap_lt_merch)
      · rw [isMerch] at isAsk
        cases isAsk
    · rintro (⟨-, contact, isContact, isAsk⟩ | ⟨otherwise, -⟩)
      · have arrives := (followed.kept contact isContact).deliveredAt_eq
        rw [isAsk] at arrives
        have notLater := (inOrder contact isContact).after (by rw [isAsk]; exact recap_lt_ask)
        rw [arrives] at notLater
        exact le_of_getD_le notLater
      · rw [due] at otherwise
        cases otherwise
  · intro keeps contact isContact
    obtain ⟨isRecap, -⟩ | ⟨isMerch, arrives⟩ | ⟨isAsk, arrives⟩ :=
      (followed.kept contact isContact).lever_cases
    · refine ⟨fun sooner => ?_, fun later => ?_⟩
      · rw [isRecap] at sooner
        exact absurd sooner (lt_irrefl _)
      · rw [isRecap] at later
        exact absurd later (lt_irrefl _)
    · refine ⟨fun sooner => ?_, fun _ => ?_⟩
      · rw [isMerch] at sooner
        exact absurd sooner (lt_asymm recap_lt_merch)
      · rw [arrives]
        exact keeps.recapFirst due contact isContact isMerch
    · refine ⟨fun sooner => ?_, fun _ => ?_⟩
      · rw [isAsk] at sooner
        exact absurd sooner (lt_asymm recap_lt_ask)
      · rw [arrives]
        exact getD_le (keeps.askLast (Or.inl ⟨due, contact, isContact, isAsk⟩)) decided

theorem inOrder_merch_iff (passes : followUp.clock ≤ poll.now)
    (followed : FollowedUp night policy followUp)
    (due : dueContact night policy followUp poll = some .postShowMerchFollowUp) :
    (∀ contact ∈ followUp.contacts, InOrderWith ⟨.postShowMerchFollowUp, poll.now, none⟩ contact) ↔
      KeepsContactOrder night policy followUp poll := by
  have decided := (contactKept_of_due due).decidedAt_le
  constructor
  · intro inOrder
    refine
      { recapFirst := fun otherwise => by rw [due] at otherwise; cases otherwise
        merchLater := ?_
        askLast := ?_ }
    · rintro - ⟨contact, isContact, isRecap⟩
      have arrives := (followed.kept contact isContact).deliveredAt_eq
      rw [isRecap] at arrives
      have notLater := (inOrder contact isContact).before (by rw [isRecap]; exact recap_lt_merch)
      rw [arrives] at notLater
      exact le_of_getD_le notLater
    · rintro (⟨otherwise, -⟩ | ⟨otherwise, -⟩)
      · rw [due] at otherwise
        cases otherwise
      · rw [due] at otherwise
        cases otherwise
  · intro keeps contact isContact
    have kept := followed.kept contact isContact
    obtain ⟨isRecap, arrives⟩ | ⟨isMerch, -⟩ | ⟨isAsk, arrives⟩ := kept.lever_cases
    · refine ⟨fun _ => ?_, fun later => ?_⟩
      · rw [arrives]
        exact getD_le (keeps.merchLater due ⟨contact, isContact, isRecap⟩)
          (le_trans kept.isPast passes)
      · rw [isRecap] at later
        exact absurd later (lt_asymm recap_lt_merch)
    · refine ⟨fun sooner => ?_, fun later => ?_⟩
      · rw [isMerch] at sooner
        exact absurd sooner (lt_irrefl _)
      · rw [isMerch] at later
        exact absurd later (lt_irrefl _)
    · refine ⟨fun sooner => ?_, fun _ => ?_⟩
      · rw [isAsk] at sooner
        exact absurd sooner (lt_asymm merch_lt_ask)
      · rw [arrives]
        exact decided

theorem inOrder_ask_iff (followed : FollowedUp night policy followUp)
    (due : dueContact night policy followUp poll = some .postShowFollowAsk) :
    (∀ contact ∈ followUp.contacts, InOrderWith
          ⟨.postShowFollowAsk, poll.now, some (followAskAt night policy)⟩
          contact) ↔
      KeepsContactOrder night policy followUp poll := by
  constructor
  · intro inOrder
    refine
      { recapFirst := fun otherwise => by rw [due] at otherwise; cases otherwise
        merchLater := fun otherwise => by rw [due] at otherwise; cases otherwise
        askLast := ?_ }
    rintro (⟨otherwise, -⟩ | ⟨-, contact, isContact, isRecap⟩)
    · rw [due] at otherwise
      cases otherwise
    · have arrives := (followed.kept contact isContact).deliveredAt_eq
      rw [isRecap] at arrives
      have notLater := (inOrder contact isContact).before (by rw [isRecap]; exact recap_lt_ask)
      rw [arrives] at notLater
      exact le_of_getD_le notLater
  · intro keeps contact isContact
    have kept := followed.kept contact isContact
    obtain ⟨isRecap, arrives⟩ | ⟨isMerch, arrives⟩ | ⟨isAsk, -⟩ := kept.lever_cases
    · refine ⟨fun _ => ?_, fun later => ?_⟩
      · rw [arrives]
        exact getD_le (keeps.askLast (Or.inr ⟨due, contact, isContact, isRecap⟩)) kept.decidedAt_le
      · rw [isRecap] at later
        exact absurd later (lt_asymm recap_lt_ask)
    · refine ⟨fun _ => ?_, fun later => ?_⟩
      · rw [arrives]
        exact kept.decidedAt_le
      · rw [isMerch] at later
        exact absurd later (lt_asymm merch_lt_ask)
    · refine ⟨fun sooner => ?_, fun later => ?_⟩
      · rw [isAsk] at sooner
        exact absurd sooner (lt_irrefl _)
      · rw [isAsk] at later
        exact absurd later (lt_irrefl _)

theorem contactsInOrder_step_iff (followUp : ShowFollowUp) (poll : ShowPoll)
    (passes : followUp.clock ≤ poll.now) (followed : FollowedUp night policy followUp) :
    ContactsInOrder ((followShow night policy).step followUp poll).1.contacts ↔
      ContactsInOrder followUp.contacts ∧ KeepsContactOrder night policy followUp poll := by
  have after := le_trans followed.started passes
  cases due : dueContact night policy followUp poll with
  | none =>
    rw [step_of_notDue after due]
    refine (and_iff_left ?_).symm
    constructor <;> simp [due]
  | some lever =>
    rw [step_of_due after due]
    dsimp only
    rw [contactsInOrder_append_singleton]
    refine and_congr_right fun _ => ?_
    have isPostShow := (mem_postShow_of_due due).1
    simp only [postShow, List.mem_cons, List.not_mem_nil, or_false] at isPostShow
    rcases isPostShow with rfl | rfl | rfl
    · exact inOrder_recap_iff followed due
    · exact inOrder_merch_iff passes followed due
    · exact inOrder_ask_iff followed due

end Order

theorem step_clock (followUp : ShowFollowUp) (poll : ShowPoll) :
    ((followShow night policy).step followUp poll).1.clock = poll.now := by
  simp only [followShow]
  split <;> rfl

theorem clock_le_of_visits {followUp : ShowFollowUp} {polls : List ShowPoll}
    (timely : (followUp.clock :: polls.map ShowPoll.now).Pairwise (· ≤ ·)) :
    ∀ visit ∈ (followShow night policy).visits followUp polls, visit.1.clock ≤ visit.2.now := by
  induction polls generalizing followUp with
  | nil =>
    intro visit visited
    cases visited
  | cons poll later inductionHypothesis =>
    rw [List.map_cons] at timely
    obtain ⟨isFirst, laterTimely⟩ := List.pairwise_cons.mp timely
    rw [Machine.Transducer.visits_cons _ (fun _ => rfl)]
    intro visit visited
    rcases List.mem_cons.mp visited with rfl | inLater
    · exact isFirst poll.now List.mem_cons_self
    · refine inductionHypothesis ?_ visit inLater
      rwa [step_clock]

/--
In a run of evaluations after the show, at times that do not decrease, the
contacts arrive in the order of their levers exactly where every evaluation
keeps that order.
-/
theorem contactsInOrder_iff
    (history : ShowGrowthHistory)
    {polls : List ShowPoll}
    (timely : (night.startsAt :: polls.map ShowPoll.now).Pairwise (· ≤ ·)) :
    ContactsInOrder
        ((followShow night policy).final (night.begin history)
          polls).contacts ↔
      ∀ visit ∈ (followShow night policy).visits (night.begin history) polls,
        KeepsContactOrder night policy visit.1 visit.2 := by
  have begins : FollowedUp night policy (night.begin history) :=
    ⟨le_refl _, fun contact absent => absurd absent List.not_mem_nil⟩
  have unordered : ContactsInOrder (night.begin history).contacts :=
    fun first absent => absurd absent List.not_mem_nil
  have run := @Machine.Transducer.final_iff_of_visits _ _ _ (followShow night policy)
      (FollowedUp night policy)
      (fun followUp => ContactsInOrder followUp.contacts)
      (fun followUp poll => followUp.clock ≤ poll.now)
      (KeepsContactOrder night policy) (fun _ => rfl) followedUp_step
      contactsInOrder_step_iff _ begins polls
      (@clock_le_of_visits night policy (night.begin history) polls timely)
  exact run.trans (and_iff_right unordered)

instance (contacts : List ShowContact) : Decidable (ContactsInOrder contacts) :=
  inferInstanceAs (Decidable (∀ first ∈ contacts, ∀ second ∈ contacts, _))

/-- A show with forty people in the room, and nothing sold. -/
def fullRoom : ShowGrowthSnapshot where
  eventId := 1
  published := true
  communicationEnabled := true
  startsAt := 0
  capacity := 0
  paidTickets := 0
  paidBuyers := 0
  paidTicketsLast7d := 0
  interestedFans := 0
  citySignalFans := 0
  qualifiedReferrersInCity := 0
  beaconPartners := 0
  humanBookingTargets30d := 0
  attendees := 40
  morningAfterSendAt := none
  unreciprocatedCrossbillEdge := false
  ladderApproved := false
  history := ShowGrowthHistory.empty

/-- The show is evaluated one hour and two hours after its start. -/
def twoPolls : List ShowPoll := [⟨fullRoom, nanosPerHour⟩, ⟨fullRoom, 2 * nanosPerHour⟩]

theorem contactsInOrder_twoPolls :
    ContactsInOrder
        ((followShow ⟨0, none⟩ ShowGrowthPolicy.default).final
          (ShowNight.begin ⟨0, none⟩ .empty) twoPolls).contacts ↔
      ∀ visit ∈
          (followShow ⟨0, none⟩ ShowGrowthPolicy.default).visits
            (ShowNight.begin ⟨0, none⟩ .empty) twoPolls,
        KeepsContactOrder ⟨0, none⟩ ShowGrowthPolicy.default visit.1
          visit.2 :=
  contactsInOrder_iff .empty (by decide)

/-- The merch follow-up goes at once, the recap the next morning. -/
theorem merch_before_recap :
    (((followShow ⟨0, some (14 * nanosPerHour)⟩
          ShowGrowthPolicy.default).final
        (ShowNight.begin ⟨0, some (14 * nanosPerHour)⟩ .empty)
        twoPolls).contacts =
      [⟨.postShowRecap, nanosPerHour, some (14 * nanosPerHour)⟩,
        ⟨.postShowMerchFollowUp, 2 * nanosPerHour, none⟩]) ∧
      ¬ ContactsInOrder
        ((followShow ⟨0, some (14 * nanosPerHour)⟩
            ShowGrowthPolicy.default).final
          (ShowNight.begin ⟨0, some (14 * nanosPerHour)⟩ .empty)
          twoPolls).contacts := by
  constructor <;> decide +kernel

end CrowdRelay
