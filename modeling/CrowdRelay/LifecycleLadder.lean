import Mathlib.Data.Set.Insert
import CrowdRelay.FanLifecycle

namespace CrowdRelay

open MachineInt

/-!
# The lifecycle ladder

The evaluation climbs one fixed ladder and stops at the first step that is
due, whatever has become of that step before: a step that was answered goes on
standing in front of those behind it.
-/

inductive LifecycleStep where
  | referralCode
  | message (template : LifecycleTemplate)
  deriving Repr, DecidableEq

def milestoneSteps : List LifecycleStep :=
  [ .message .firstTicketThankYou,
    .message .returningFanThankYou,
    .message .referralThankYou ]

def approachSteps : List LifecycleStep :=
  [ .message .showRecall,
    .message .welcome,
    .message .signalInstallAsk,
    .message .referralInvite,
    .message .synesthesiaFollowUp,
    .message .dormantReactivation ]

/-- The steps in the order in which the evaluation tries them. -/
def lifecycleLadder : List LifecycleStep := .referralCode :: (milestoneSteps ++ approachSteps)

namespace FanLifecycleSnapshot

/-- The fan may be written to at all. -/
def contactable (snapshot : FanLifecycleSnapshot)
    (now : OffsetDateTime) : Bool :=
  !snapshot.isInvalid now && snapshot.active && snapshot.marketingConsent

end FanLifecycleSnapshot

variable (snapshot : FanLifecycleSnapshot) (policy : FanLifecyclePolicy) (now : OffsetDateTime)

/-- A message's own condition: its milestone fresh, or its window open. -/
def LifecycleTemplate.isOpen : LifecycleTemplate → Bool
  | .firstTicketThankYou => snapshot.firstTicketReached policy now
  | .returningFanThankYou => snapshot.returningFanReached policy now
  | .referralThankYou => snapshot.referralReached policy now
  | .showRecall => snapshot.showRecallOpen policy now
  | .welcome => snapshot.welcomeOpen policy now
  | .signalInstallAsk => snapshot.signalInstallAskOpen policy now
  | .referralInvite => snapshot.referralInviteOpen policy now
  | .synesthesiaFollowUp => snapshot.synesthesiaFollowUpOpen policy now
  | .dormantReactivation => snapshot.isDormant policy now

/-- The milestones are the messages that pass the cooldown. -/
def LifecycleTemplate.isMilestone : LifecycleTemplate → Bool
  | .firstTicketThankYou | .returningFanThankYou | .referralThankYou => true
  | _ => false

def LifecycleStep.due : LifecycleStep → Bool
  | .referralCode => snapshot.contactable now && !snapshot.hasReferralCode
  | .message template =>
    snapshot.contactable now &&
      (if template.isMilestone then
        policy.milestoneRecentHours ≠ 0
      else
        !snapshot.cooldownActive policy now) &&
      template.isOpen snapshot policy now

def FanLifecycleDecision.step? : FanLifecycleDecision → Option LifecycleStep
  | .hold _ => none
  | .issueReferralCode _ => some .referralCode
  | .requestMessage template _ => some (.message template)

def LifecycleStep.actionKey? : LifecycleStep → Option String
  | .referralCode => some (referralCodeActionKey snapshot.fanId)
  | .message template =>
    (LifecycleEpisode.forMessage snapshot template).map fun episode =>
      lifecycleActionKey snapshot.fanId template episode

section Ladder

variable {snapshot : FanLifecycleSnapshot} {policy : FanLifecyclePolicy} {now : OffsetDateTime}

theorem due_of_not_contactable (unreachable : snapshot.contactable now = false)
    (step : LifecycleStep) :
    step.due snapshot policy now = false := by
  cases step with
  | referralCode => rw [LifecycleStep.due, unreachable, Bool.false_and]
  | message template =>
    rw [LifecycleStep.due, unreachable, Bool.false_and, Bool.false_and]

theorem find?_milestoneSteps (contact : snapshot.contactable now = true) :
    milestoneSteps.find? (LifecycleStep.due snapshot policy now) =
      (milestoneDue snapshot policy now).map .message := by
  unfold milestoneSteps milestoneDue
  by_cases never : policy.milestoneRecentHours = 0
  · simp [LifecycleStep.due, LifecycleTemplate.isMilestone, never]
  · simp only [List.find?_cons, List.find?_nil, LifecycleStep.due, contact,
      LifecycleTemplate.isMilestone, LifecycleTemplate.isOpen, never,
      ne_eq, not_false_eq_true, decide_true, if_true, if_false,
      Bool.true_and]
    cases snapshot.firstTicketReached policy now <;>
      cases snapshot.returningFanReached policy now <;>
      cases snapshot.referralReached policy now <;> rfl

/-- What the evaluation does behind the milestones. -/
def evaluateApproach (snapshot : FanLifecycleSnapshot) (policy : FanLifecyclePolicy)
    (now : OffsetDateTime) : Option LifecycleTemplate :=
  if snapshot.cooldownActive policy now then
    none
  else if snapshot.showRecallOpen policy now then
    some .showRecall
  else if snapshot.welcomeOpen policy now then
    some .welcome
  else if snapshot.signalInstallAskOpen policy now then
    some .signalInstallAsk
  else if snapshot.referralInviteOpen policy now then
    some .referralInvite
  else if snapshot.synesthesiaFollowUpOpen policy now then
    some .synesthesiaFollowUp
  else if snapshot.isDormant policy now then
    some .dormantReactivation
  else
    none

theorem find?_approachSteps (contact : snapshot.contactable now = true) :
    approachSteps.find? (LifecycleStep.due snapshot policy now) =
      (evaluateApproach snapshot policy now).map .message := by
  unfold approachSteps evaluateApproach
  simp only [List.find?_cons, List.find?_nil, LifecycleStep.due, contact,
    LifecycleTemplate.isMilestone, LifecycleTemplate.isOpen,
    Bool.false_eq_true, if_false, Bool.true_and]
  cases snapshot.cooldownActive policy now with
  | true => rfl
  | false =>
    cases snapshot.showRecallOpen policy now with
    | true => rfl
    | false =>
      cases snapshot.welcomeOpen policy now with
      | true => rfl
      | false =>
        cases snapshot.signalInstallAskOpen policy now with
        | true => rfl
        | false =>
          cases snapshot.referralInviteOpen policy now <;>
            cases snapshot.synesthesiaFollowUpOpen policy now <;>
            cases snapshot.isDormant policy now <;> rfl

/-- A fan with a code hears the milestone, or else the approach. -/
theorem evaluateFanLifecycle_of_contactable (contact : snapshot.contactable now = true)
    (hasCode : snapshot.hasReferralCode = true) :
    (evaluateFanLifecycle snapshot policy now).step? =
      ((milestoneDue snapshot policy now).map .message).or
        ((evaluateApproach snapshot policy now).map .message) := by
  simp only [FanLifecycleSnapshot.contactable, Bool.and_eq_true, Bool.not_eq_true'] at contact
  obtain ⟨⟨valid, active⟩, consented⟩ := contact
  unfold evaluateFanLifecycle evaluateApproach
  rw [valid, active, consented, hasCode]
  cases milestoneDue snapshot policy now with
  | some template => rfl
  | none =>
    simp only [Bool.false_eq_true, Bool.not_true, if_false, Option.map_none, Option.none_or]
    split
    · rfl
    · split
      · rfl
      · split
        · rfl
        · split
          · rfl
          · split
            · rfl
            · split
              · rfl
              · split
                · rfl
                · split <;> rfl

theorem evaluateFanLifecycle_step? :
    (evaluateFanLifecycle snapshot policy now).step? =
      lifecycleLadder.find? (LifecycleStep.due snapshot policy now) := by
  cases contact : snapshot.contactable now with
  | false =>
    have nothing : lifecycleLadder.find? (LifecycleStep.due snapshot policy now) = none := by
      rw [List.find?_eq_none]
      intro step _
      rw [due_of_not_contactable contact]
      exact Bool.false_ne_true
    rw [nothing]
    unfold evaluateFanLifecycle
    unfold FanLifecycleSnapshot.contactable at contact
    cases invalid : snapshot.isInvalid now
    · cases active : snapshot.active
      · rfl
      · cases consent : snapshot.marketingConsent
        · rfl
        · rw [invalid, active, consent] at contact
          cases contact
    · rfl
  | true =>
    cases code : snapshot.hasReferralCode with
    | true =>
      rw [evaluateFanLifecycle_of_contactable contact code,
        lifecycleLadder, List.find?_cons, LifecycleStep.due, contact,
        code, ← find?_milestoneSteps contact,
        ← find?_approachSteps contact, ← List.find?_append]
      rfl
    | false =>
      have first : LifecycleStep.due snapshot policy now .referralCode = true := by
        rw [LifecycleStep.due, contact, code]
        rfl
      rw [lifecycleLadder, List.find?_cons_of_pos first]
      simp only [FanLifecycleSnapshot.contactable, Bool.and_eq_true, Bool.not_eq_true'] at contact
      obtain ⟨⟨valid, active⟩, consented⟩ := contact
      unfold evaluateFanLifecycle
      rw [valid, active, consented, code]
      rfl

/-- A message that is due has the moment its episode begins with. -/
theorem actionKey?_isSome_of_due {step : LifecycleStep}
    (due : step.due snapshot policy now = true) :
    (step.actionKey? snapshot).isSome := by
  cases step with
  | referralCode => rfl
  | message template =>
    simp only [LifecycleStep.due, Bool.and_eq_true] at due
    obtain ⟨_, isOpen⟩ := due
    rw [LifecycleStep.actionKey?, Option.isSome_map]
    cases template with
    | referralThankYou =>
      simp only [LifecycleTemplate.isOpen, FanLifecycleSnapshot.referralReached, Bool.and_eq_true,
        Option.any_eq_true] at isOpen
      obtain ⟨_, moment, isMoment, _⟩ := isOpen
      rw [LifecycleEpisode.forMessage, isMoment]
      rfl
    | synesthesiaFollowUp =>
      simp only [LifecycleTemplate.isOpen, FanLifecycleSnapshot.synesthesiaFollowUpOpen,
        Bool.and_eq_true, Option.any_eq_true] at isOpen
      obtain ⟨_, moment, isMoment, _⟩ := isOpen
      rw [LifecycleEpisode.forMessage, isMoment]
      rfl
    | showRecall =>
      simp only [LifecycleTemplate.isOpen, FanLifecycleSnapshot.showRecallOpen, Option.any_eq_true]
        at isOpen
      obtain ⟨checkin, isCheckin, _⟩ := isOpen
      rw [LifecycleEpisode.forMessage, isCheckin]
      rfl
    | _ => rfl

theorem lifecycleCandidate_key {owner : AutopilotPolicy}
    (isLifecycle : owner.config = .fanLifecycle policy) :
    (lifecycleCandidate snapshot owner now).map LifecycleCandidate.actionIdempotencyKey =
      (lifecycleLadder.find? (LifecycleStep.due snapshot policy now)).bind
        (LifecycleStep.actionKey? snapshot) := by
  rw [← evaluateFanLifecycle_step?]
  unfold lifecycleCandidate
  rw [isLifecycle]
  dsimp only
  cases decision : evaluateFanLifecycle snapshot policy now with
  | hold reason => rfl
  | issueReferralCode confidence => rfl
  | requestMessage template confidence =>
    simp only [FanLifecycleDecision.step?, Option.bind_some,
      LifecycleStep.actionKey?, Option.map_map]
    rfl

end Ladder

/-! ## Answered steps -/

theorem templateKey_injective : Function.Injective LifecycleTemplate.templateKey := by
  intro first second same
  cases first <;> cases second <;> first | rfl | exact absurd same (by decide)

theorem takeWhile_templateKey (template : LifecycleTemplate) (rest : List Char) :
    (template.templateKey.toList ++ ':' :: rest).takeWhile (fun letter => letter ≠ ':') =
      template.templateKey.toList := by
  rw [List.takeWhile_append_of_pos]
  · simp
  · rw [← List.all_eq_true]
    cases template <;> decide +kernel

theorem lifecycleActionKey_eq (fanId : Uuid) (template : LifecycleTemplate)
    (episode : LifecycleEpisode) :
    lifecycleActionKey fanId template episode = "action:lifecycle-episode:" ++
        (uuidText fanId ++ (":" ++ (template.templateKey ++ (":" ++ episode.key)))) := by
  unfold lifecycleActionKey
  rw [String.append_assoc, String.append_assoc, String.append_assoc, String.append_assoc]

theorem template_eq_of_actionKey_eq {fanId : Uuid} {first second : LifecycleTemplate}
    {episode other : LifecycleEpisode}
    (same : lifecycleActionKey fanId first episode = lifecycleActionKey fanId second other) :
    first = second := by
  rw [lifecycleActionKey_eq, lifecycleActionKey_eq,
    String.append_right_inj, String.append_right_inj,
    String.append_right_inj] at same
  have letters :
      first.templateKey.toList ++ ':' :: episode.key.toList =
        second.templateKey.toList ++ ':' :: other.key.toList := by
    have sameList := congrArg String.toList same
    simpa using sameList
  have names := congrArg (List.takeWhile fun letter => letter ≠ ':') letters
  rw [takeWhile_templateKey, takeWhile_templateKey] at names
  exact templateKey_injective (String.toList_inj.mp names)

section Answered

variable (snapshot : FanLifecycleSnapshot) (owner : AutopilotPolicy)
  (now : OffsetDateTime) (answered : Set String)

/-- The step was not asked before under its stable key. -/
def Unanswered (step : LifecycleStep) : Prop :=
  ∃ key, step.actionKey? snapshot = some key ∧ key ∉ answered

/-- While an unanswered message is due, the candidate is unanswered too. -/
def NeverStarves : Prop :=
  ∀ policy,
    owner.config = .fanLifecycle policy →
    (∃ template,
      LifecycleStep.due snapshot policy now (.message template) = true ∧
        Unanswered snapshot answered (.message template)) →
    ∃ candidate,
      lifecycleCandidate snapshot owner now = some candidate ∧
        candidate.actionIdempotencyKey ∉ answered

/--
Either every message that is due was answered, or the first step of the ladder
that is due was not: no answered step stands in front.
-/
def FirstDueUnanswered : Prop :=
  ∀ policy,
    owner.config = .fanLifecycle policy →
    (∀ template,
      LifecycleStep.due snapshot policy now (.message template) = true →
      ¬ Unanswered snapshot answered (.message template)) ∨
      ∃ earlier step later,
        lifecycleLadder = earlier ++ step :: later ∧
          (∀ skipped ∈ earlier, LifecycleStep.due snapshot policy now skipped = false) ∧
          LifecycleStep.due snapshot policy now step = true ∧
          Unanswered snapshot answered step

end Answered

/-- An answered moment starves the others only from in front of them. -/
theorem neverStarves_iff
    (snapshot : FanLifecycleSnapshot)
    (owner : AutopilotPolicy)
    (now : OffsetDateTime)
    (answered : Set String) :
    NeverStarves snapshot owner now answered ↔ FirstDueUnanswered snapshot owner now answered := by
  constructor
  · intro serves policy isLifecycle
    by_cases waiting :
        ∃ template,
          LifecycleStep.due snapshot policy now (.message template) = true ∧
            Unanswered snapshot answered (.message template)
    · right
      obtain ⟨candidate, isCandidate, fresh⟩ := serves policy isLifecycle waiting
      have keyed := @lifecycleCandidate_key snapshot policy now owner isLifecycle
      rw [isCandidate, Option.map_some, eq_comm, Option.bind_eq_some_iff] at keyed
      obtain ⟨step, found, isKey⟩ := keyed
      obtain ⟨due, earlier, later, isLadder, skipped⟩ := List.find?_eq_some_iff_append.mp found
      refine ⟨earlier, step, later, isLadder, fun other isEarlier => ?_, due,
          candidate.actionIdempotencyKey, isKey, fresh⟩
      exact (Bool.not_eq_true' _).mp (skipped other isEarlier)
    · left
      intro template due unanswered
      exact waiting ⟨template, due, unanswered⟩
  · intro inFront policy isLifecycle waiting
    obtain ⟨template, due, unanswered⟩ := waiting
    rcases inFront policy isLifecycle with
      allAnswered | ⟨earlier, step, later, isLadder, skipped, isDue, fresh⟩
    · exact absurd unanswered (allAnswered template due)
    · have found : lifecycleLadder.find? (LifecycleStep.due snapshot policy now) = some step := by
        refine List.find?_eq_some_iff_append.mpr
            ⟨isDue, earlier, later, isLadder, fun other isEarlier => ?_⟩
        rw [skipped other isEarlier]
        rfl
      obtain ⟨key, isKey, isFresh⟩ := fresh
      have keyed := @lifecycleCandidate_key snapshot policy now owner isLifecycle
      rw [found, Option.bind_some, isKey, Option.map_eq_some_iff] at keyed
      obtain ⟨candidate, isCandidate, sameKey⟩ := keyed
      rw [← sameKey] at isFresh
      exact ⟨candidate, isCandidate, isFresh⟩

/-- A fan of a hundred days ago who was never written to. -/
def quietFan : FanLifecycleSnapshot :=
  { fanId := 9
    active := true
    marketingConsent := true
    createdAt := 0
    synesthesiaCompletedAt := none
    lastMarketingTouchAt := none
    hasPaidTicket := false
    lastPaidTicketAt := none
    paidTicketCount := 0
    qualifiedReferrals := 0
    lastQualifiedReferralAt := none
    hasReferralCode := true
    referralAskReadyAt := none
    hasSignalInstall := false
    lastEventInterestAt := none
    recentCheckin := none }

def lifecycleOwner : AutopilotPolicy :=
  { context := .fanLifecycle
    enabled := true
    autonomyLevel := .boundedAuto
    minimumConfidence := 7000
    maxActions24h := 40
    config := .fanLifecycle .default
    version := 1 }

/-- A declined welcome stands in front of the reactivation for ever. -/
theorem declinedWelcome_starves :
    ¬ NeverStarves quietFan lifecycleOwner (durationDays 100)
        {lifecycleActionKey 9 .welcome .once} := by
  intro serves
  have dormantDue :
      LifecycleStep.due quietFan .default (durationDays 100)
          (.message .dormantReactivation) =
        true := by
    decide +kernel
  have unanswered :
      Unanswered quietFan {lifecycleActionKey 9 .welcome .once}
        (.message .dormantReactivation) := by
    refine ⟨_, rfl, fun isAnswered => ?_⟩
    have same := template_eq_of_actionKey_eq (Set.mem_singleton_iff.mp isAnswered)
    cases same
  obtain ⟨candidate, isCandidate, fresh⟩ :=
    serves .default rfl ⟨.dormantReactivation, dormantDue, unanswered⟩
  have welcomeFirst :
      lifecycleLadder.find?
          (LifecycleStep.due quietFan .default (durationDays 100)) =
        some (.message .welcome) := by
    decide +kernel
  have keyed :
      (lifecycleCandidate quietFan lifecycleOwner (durationDays 100)).map
          LifecycleCandidate.actionIdempotencyKey =
        some (lifecycleActionKey 9 .welcome .once) := by
    rw [@lifecycleCandidate_key quietFan .default _ lifecycleOwner rfl, welcomeFirst]
    rfl
  rw [isCandidate] at keyed
  exact fresh (Option.some.inj keyed)

/--
An evaluation drafts exactly when a step of the ladder is due, and what it drafts
stands under the key of the first such step.
-/
theorem lifecycle_drafts_first_due (snapshot : FanLifecycleSnapshot) (policy : FanLifecyclePolicy)
    (owner : AutopilotPolicy) (now : OffsetDateTime)
    (isLifecycle : owner.config = .fanLifecycle policy) :
    ((lifecycleCandidate snapshot owner now).isSome ↔
      ∃ step ∈ lifecycleLadder, LifecycleStep.due snapshot policy now step = true) ∧
    ∀ candidate ∈ lifecycleCandidate snapshot owner now,
      ∃ earlier step later,
        lifecycleLadder = earlier ++ step :: later ∧
          (∀ skipped ∈ earlier, LifecycleStep.due snapshot policy now skipped = false) ∧
          LifecycleStep.due snapshot policy now step = true ∧
          step.actionKey? snapshot = some candidate.actionIdempotencyKey := by
  have keyed := @lifecycleCandidate_key snapshot policy now owner isLifecycle
  have first :
      ∀ candidate ∈ lifecycleCandidate snapshot owner now,
        ∃ step,
          lifecycleLadder.find? (LifecycleStep.due snapshot policy now) = some step ∧
            step.actionKey? snapshot = some candidate.actionIdempotencyKey := by
    intro candidate isCandidate
    rw [isCandidate, Option.map_some, eq_comm, Option.bind_eq_some_iff] at keyed
    exact keyed
  refine ⟨⟨fun drafted => ?_, fun someDue => ?_⟩, fun candidate isCandidate => ?_⟩
  · obtain ⟨candidate, isCandidate⟩ := Option.isSome_iff_exists.mp drafted
    obtain ⟨step, found, -⟩ := first candidate isCandidate
    exact ⟨step, List.mem_of_find?_eq_some found, List.find?_some found⟩
  · obtain ⟨step, found⟩ := Option.isSome_iff_exists.mp (List.find?_isSome.mpr someDue)
    obtain ⟨key, isKey⟩ :=
      Option.isSome_iff_exists.mp (actionKey?_isSome_of_due (List.find?_some found))
    rw [found, Option.bind_some, isKey, Option.map_eq_some_iff] at keyed
    obtain ⟨candidate, isCandidate, -⟩ := keyed
    rw [isCandidate]
    rfl
  · obtain ⟨step, found, isKey⟩ := first candidate isCandidate
    obtain ⟨due, earlier, later, isLadder, skipped⟩ := List.find?_eq_some_iff_append.mp found
    exact ⟨earlier, step, later, isLadder,
      fun other isEarlier => (Bool.not_eq_true' _).mp (skipped other isEarlier), due, isKey⟩

/-- The fan who was never written to is welcomed. -/
theorem quietFan_drafts_first_due :
    (lifecycleCandidate quietFan lifecycleOwner (durationDays 100)).isSome := by
  have welcomeDue : LifecycleStep.due quietFan .default (durationDays 100) (.message .welcome) =
      true := by
    decide +kernel
  exact (lifecycle_drafts_first_due quietFan .default lifecycleOwner (durationDays 100) rfl).1.mpr
    ⟨.message .welcome, by decide, welcomeDue⟩

end CrowdRelay
