import CrowdRelay.Persist
import Mathlib.Tactic.Tauto

namespace CrowdRelay

open MachineInt

/-!
# The autonomy funnel over a whole cycle

Each clamp only lowers a disposition, and each budget is charged exactly where
the clamp that guards it let the candidate through.  One step therefore never
takes more off a room than it spends, and the run rules of `Machine` carry
that to a whole cycle of candidates and repository answers.
-/

section Clamps

variable (limits : CycleLimits) (candidate : DecisionCandidate)

@[simp] theorem recordedCandidate_disposition :
    (recordedCandidate limits candidate).disposition = finalDisposition limits candidate :=
  rfl

@[simp] theorem recordedCandidate_actionClass :
    (recordedCandidate limits candidate).actionClass =
      candidate.actionClass :=
  rfl

@[simp] theorem recordedCandidate_subject :
    (recordedCandidate limits candidate).subject = candidate.subject :=
  rfl

@[simp] theorem recordedCandidate_outwardContact :
    (recordedCandidate limits candidate).outwardContact =
      candidate.outwardContact :=
  rfl

theorem reach_envelopeDisposition_le :
    reach (envelopeDisposition limits candidate) ≤ reach (ceilingDisposition limits candidate) := by
  unfold envelopeDisposition
  split
  · exact le_refl _
  · split
    · exact reach_clampDisposition_le _ _
    · exact reach_clampDisposition_le _ _

theorem reach_finalDisposition_le_envelope :
    reach (finalDisposition limits candidate) ≤ reach (envelopeDisposition limits candidate) := by
  unfold finalDisposition
  split
  · exact reach_clampDisposition_le _ _
  · exact le_refl _

theorem reach_finalDisposition_le_ceiling :
    reach (finalDisposition limits candidate) ≤ reach (ceilingDisposition limits candidate) :=
  (reach_finalDisposition_le_envelope limits candidate).trans
    (reach_envelopeDisposition_le limits candidate)

theorem finalDisposition_of_deny (denied : candidate.disposition = .deny) :
    finalDisposition limits candidate = .deny := by
  apply reach_injective
  have lowered := reach_finalDisposition_le_ceiling limits candidate
  have ceilingDenied : ceilingDisposition limits candidate = .deny := by
    simp [ceilingDisposition, denied]
  rw [ceilingDenied] at lowered
  exact Nat.le_zero.mp lowered

variable {limits candidate}

theorem envelopeVerdict_of_autoExecute
    (executes : finalDisposition limits candidate = .autoExecute) :
    checkEnvelope candidate.actionClass limits.envelope
      (subjectUsage limits candidate) = .allow := by
  have envelopeReach := reach_finalDisposition_le_envelope limits candidate
  rw [executes] at envelopeReach
  have notDenied : ceilingDisposition limits candidate ≠ .deny := by
    intro denied
    have ceilingReach := reach_finalDisposition_le_ceiling limits candidate
    rw [executes, denied] at ceilingReach
    exact absurd ceilingReach (by decide)
  cases verdict :
      checkEnvelope candidate.actionClass limits.envelope (subjectUsage limits candidate) with
  | allow => rfl
  | hold block =>
    have held : envelopeVerdict limits candidate = .hold block := by
      simp [envelopeVerdict, notDenied, verdict]
    have lowered : reach (envelopeDisposition limits candidate) ≤ 3 := by
      simp only [envelopeDisposition, held]
      split
      · exact reach_clampDisposition_le_ceiling _ _
      · exact (reach_clampDisposition_le_ceiling _ _).trans (by decide)
    exact absurd (envelopeReach.trans lowered) (by decide)

theorem mayAsk_of_requireApproval (asks : finalDisposition limits candidate = .requireApproval) :
    limits.usage.approvalRequests7d < limits.envelope.weeklyApprovalRequests := by
  rw [← checkAttention_mayAsk_iff]
  unfold finalDisposition at asks
  split at asks
  · have lowered := reach_clampDisposition_le_ceiling
        (envelopeDisposition limits candidate) .recommend
    rw [asks] at lowered
    exact absurd lowered (by decide)
  · rename_i notWithheld
    simpa [askWithheld, asks] using notWithheld

end Clamps

namespace CycleLimits

/-- What is left of a class's weekly budget. -/
def weeklyRoom (limits : CycleLimits) (actionClass : ActionClass) : Nat :=
  match limits.envelope.weeklyBudget actionClass with
  | some budget => Ranged.room budget (limits.usage.spent actionClass)
  | none => 0

/-- What is left of the daily third-party budget. -/
def dailyRoom (limits : CycleLimits) : Nat :=
  Ranged.room
    limits.envelope.dailyThirdPartyTouches
    (limits.usage.spentToday .thirdParty)

/-- What is left of the attention budget. -/
def approvalRoom (limits : CycleLimits) : Nat :=
  Ranged.room
    limits.envelope.weeklyApprovalRequests
    limits.usage.approvalRequests7d

/-- A person can be reached once in a cycle, and not again. -/
def contactRoom (limits : CycleLimits) (contact : Uuid) : Nat :=
  if contact ∈ limits.touchedThisCycle then 0 else 1

/-- What a cycle reads of its limits and never writes. -/
structure SameConfiguration (start limits : CycleLimits) : Prop where
  ceilings : limits.ceilings = start.ceilings
  envelope : limits.envelope = start.envelope
  touchAges : limits.touchAges = start.touchAges

end CycleLimits

section Spending

variable (limits : CycleLimits) (recorded : DecisionCandidate)

@[simp] theorem spendTouch_envelope (actionClass : ActionClass) :
    (limits.spendTouch actionClass).envelope = limits.envelope := by
  cases actionClass <;> rfl

@[simp] theorem spendTouch_ceilings (actionClass : ActionClass) :
    (limits.spendTouch actionClass).ceilings = limits.ceilings := by
  cases actionClass <;> rfl

@[simp] theorem spendTouch_touchAges (actionClass : ActionClass) :
    (limits.spendTouch actionClass).touchAges = limits.touchAges := by
  cases actionClass <;> rfl

@[simp] theorem spendTouch_touchedThisCycle (actionClass : ActionClass) :
    (limits.spendTouch actionClass).touchedThisCycle =
      limits.touchedThisCycle := by
  cases actionClass <;> rfl

@[simp] theorem spendTouch_approvalRequests (actionClass : ActionClass) :
    (limits.spendTouch actionClass).usage.approvalRequests7d =
      limits.usage.approvalRequests7d := by
  cases actionClass <;> rfl

theorem spendTouch_spent (spending queried : ActionClass) :
    (limits.spendTouch spending).usage.spent queried =
      if spending = queried ∧ queried.isOutward = true then
        (limits.usage.spent queried).saturatingAdd 1
      else
        limits.usage.spent queried := by
  cases spending <;> cases queried <;> rfl

theorem spendTouch_spentToday (spending : ActionClass) :
    (limits.spendTouch spending).usage.spentToday .thirdParty =
      if spending = .thirdParty then
        (limits.usage.spentToday .thirdParty).saturatingAdd 1
      else
        limits.usage.spentToday .thirdParty := by
  cases spending <;> rfl

@[simp] theorem spendCreated_envelope :
    (spendCreated limits recorded).envelope = limits.envelope := by
  unfold spendCreated
  split <;> split <;> simp

@[simp] theorem spendCreated_ceilings :
    (spendCreated limits recorded).ceilings = limits.ceilings := by
  unfold spendCreated
  split <;> split <;> simp

@[simp] theorem spendCreated_touchAges :
    (spendCreated limits recorded).touchAges = limits.touchAges := by
  unfold spendCreated
  split <;> split <;> simp

theorem spendCreated_touchedThisCycle :
    (spendCreated limits recorded).touchedThisCycle =
      if recorded.outwardContact then
        insert recorded.subject.uuid limits.touchedThisCycle
      else
        limits.touchedThisCycle := by
  unfold spendCreated
  split <;> split <;> simp_all

theorem spendCreated_spent (queried : ActionClass) :
    (spendCreated limits recorded).usage.spent queried =
      if recorded.actionClass = queried ∧ queried.isOutward = true then
        (limits.usage.spent queried).saturatingAdd 1
      else
        limits.usage.spent queried := by
  rw [← spendTouch_spent]
  unfold spendCreated
  split <;> split <;>
    cases queried <;> cases recorded.actionClass <;> rfl

theorem spendCreated_spentToday :
    (spendCreated limits recorded).usage.spentToday .thirdParty =
      if recorded.actionClass = .thirdParty then
        (limits.usage.spentToday .thirdParty).saturatingAdd 1
      else
        limits.usage.spentToday .thirdParty := by
  rw [← spendTouch_spentToday]
  unfold spendCreated
  split <;> split <;> cases recorded.actionClass <;> rfl

theorem spendCreated_approvalRequests :
    (spendCreated limits recorded).usage.approvalRequests7d =
      if recorded.disposition = .requireApproval then
        limits.usage.approvalRequests7d.saturatingAdd 1
      else
        limits.usage.approvalRequests7d := by
  unfold spendCreated
  split <;> split <;> simp_all

theorem subjectUsage_spent (candidate : DecisionCandidate) (actionClass : ActionClass) :
    (subjectUsage limits candidate).spent actionClass = limits.usage.spent actionClass := by
  cases actionClass <;> rfl

theorem weeklyRoom_spendCreated_le (actionClass : ActionClass) :
    (spendCreated limits recorded).weeklyRoom actionClass ≤ limits.weeklyRoom actionClass := by
  simp only [CycleLimits.weeklyRoom, spendCreated_envelope]
  rw [spendCreated_spent]
  cases limits.envelope.weeklyBudget actionClass with
  | none => exact le_refl _
  | some budget =>
    dsimp only
    split
    · exact Ranged.room_increment_le _ _
    · exact le_refl _

theorem weeklyRoom_spendCreated (outward : recorded.actionClass.isOutward = true)
    (below :
      ∀ budget,
        limits.envelope.weeklyBudget recorded.actionClass = some budget →
        limits.usage.spent recorded.actionClass < budget) :
    1 + (spendCreated limits recorded).weeklyRoom recorded.actionClass ≤
      limits.weeklyRoom recorded.actionClass := by
  obtain ⟨budget, walled⟩ :
      ∃ budget, limits.envelope.weeklyBudget recorded.actionClass = some budget := by
    revert outward
    cases recorded.actionClass <;>
      simp [GrowthEnvelope.weeklyBudget, ActionClass.isOutward]
  simp only [CycleLimits.weeklyRoom, spendCreated_envelope, walled]
  rw [spendCreated_spent, if_pos ⟨rfl, outward⟩]
  exact Ranged.succ_room_increment (below budget walled)

theorem dailyRoom_spendCreated_le :
    (spendCreated limits recorded).dailyRoom ≤ limits.dailyRoom := by
  simp only [CycleLimits.dailyRoom, spendCreated_envelope]
  rw [spendCreated_spentToday]
  split
  · exact Ranged.room_increment_le _ _
  · exact le_refl _

theorem dailyRoom_spendCreated (thirdParty : recorded.actionClass = .thirdParty)
    (below : limits.usage.spentToday .thirdParty < limits.envelope.dailyThirdPartyTouches) :
    1 + (spendCreated limits recorded).dailyRoom ≤ limits.dailyRoom := by
  simp only [CycleLimits.dailyRoom, spendCreated_envelope]
  rw [spendCreated_spentToday, if_pos thirdParty]
  exact Ranged.succ_room_increment below

theorem approvalRoom_spendCreated_le :
    (spendCreated limits recorded).approvalRoom ≤
      limits.approvalRoom := by
  simp only [CycleLimits.approvalRoom, spendCreated_envelope]
  rw [spendCreated_approvalRequests]
  split
  · exact Ranged.room_increment_le _ _
  · exact le_refl _

theorem approvalRoom_spendCreated (asks : recorded.disposition = .requireApproval)
    (below : limits.usage.approvalRequests7d < limits.envelope.weeklyApprovalRequests) :
    1 + (spendCreated limits recorded).approvalRoom ≤ limits.approvalRoom := by
  simp only [CycleLimits.approvalRoom, spendCreated_envelope]
  rw [spendCreated_approvalRequests, if_pos asks]
  exact Ranged.succ_room_increment below

theorem contactRoom_spendCreated_le (contact : Uuid) :
    (spendCreated limits recorded).contactRoom contact ≤ limits.contactRoom contact := by
  simp only [CycleLimits.contactRoom]
  rw [spendCreated_touchedThisCycle]
  by_cases touched : contact ∈ limits.touchedThisCycle
  · have stillTouched :
        contact ∈
          if recorded.outwardContact then
            insert recorded.subject.uuid limits.touchedThisCycle
          else
            limits.touchedThisCycle := by
      split
      · exact Finset.mem_insert_of_mem touched
      · exact touched
    rw [if_pos stillTouched, if_pos touched]
  · rw [if_neg touched]
    split
    · split
      · exact Nat.zero_le 1
      · exact le_refl 1
    · exact le_refl 1

theorem contactRoom_spendCreated (contacts : recorded.outwardContact = true)
    (untouched : recorded.subject.uuid ∉ limits.touchedThisCycle) :
    1 + (spendCreated limits recorded).contactRoom recorded.subject.uuid ≤
      limits.contactRoom recorded.subject.uuid := by
  simp only [CycleLimits.contactRoom]
  rw [spendCreated_touchedThisCycle, if_pos contacts,
    if_pos (Finset.mem_insert_self _ _), if_neg untouched]

end Spending

section Entries

variable {entry : PersistEntry}

namespace PersistEntry

/-- The repository created an action for the candidate. -/
def created (entry : PersistEntry) : Bool :=
  match entry.answer with
  | .ok persisted => persisted.actionCreated
  | .error _ => false

/-- An action was created that runs without anybody being asked. -/
def autoExecuted (entry : PersistEntry) : Bool :=
  entry.created && entry.recorded.disposition = .autoExecute

/-- An action was created that waits for somebody's approval. -/
def asked (entry : PersistEntry) : Bool :=
  entry.created && entry.recorded.disposition = .requireApproval

/-- An action of one class was created that runs without anybody being asked. -/
def executedOf (actionClass : ActionClass) (entry : PersistEntry) : Bool :=
  entry.autoExecuted && entry.recorded.actionClass = actionClass

/-- The person behind this uuid was written to without anybody being asked. -/
def autoContacted (contact : Uuid) (entry : PersistEntry) : Bool :=
  entry.autoExecuted && (entry.recorded.outwardContact && entry.recorded.subject.uuid = contact)

/-- The recorded disposition is at most the proposed one and the ceiling. -/
structure Lowered (limits : CycleLimits) (entry : PersistEntry) : Prop where
  belowCandidate :
    reach entry.recorded.disposition ≤ reach entry.candidate.disposition
  belowCeiling :
    reach entry.recorded.disposition ≤
      reach (limits.ceilingFor entry.candidate.actionClass).allowed
  deniedStays :
    entry.candidate.disposition = .deny →
      entry.recorded.disposition = .deny

end PersistEntry

structure CycleWithinLimits
    (limits : CycleLimits)
    (candidates : List DecisionCandidate)
    (entries : List PersistEntry) : Prop where
  inOrder : entries.map PersistEntry.candidate <+: candidates
  lowered : ∀ entry ∈ entries, entry.Lowered limits
  week :
    ∀ actionClass : ActionClass,
      actionClass.isOutward = true →
      entries.countP (PersistEntry.executedOf actionClass) ≤
        limits.weeklyRoom actionClass
  day :
    entries.countP (PersistEntry.executedOf .thirdParty) ≤
      limits.dailyRoom
  asks : entries.countP PersistEntry.asked ≤ limits.approvalRoom
  contactedOnce :
    0 < limits.envelope.subjectCooldownHours →
      ∀ contact,
        entries.countP (PersistEntry.autoContacted contact) ≤ 1
  rested :
    ∀ contact hours,
      limits.touchAges contact = some hours →
      hours < limits.envelope.subjectCooldownHours →
      ∀ entry ∈ entries, ¬ entry.autoContacted contact = true

theorem executedOf_iff {actionClass : ActionClass} :
    entry.executedOf actionClass = true ↔
      entry.autoExecuted = true ∧
      entry.recorded.actionClass = actionClass := by
  simp [PersistEntry.executedOf]

theorem autoContacted_iff {contact : Uuid} :
    entry.autoContacted contact = true ↔
      entry.autoExecuted = true ∧
      entry.recorded.outwardContact = true ∧
      entry.recorded.subject.uuid = contact := by
  simp [PersistEntry.autoContacted]

variable (state : CycleState) (proposed : DecisionCandidate × RepositoryAnswer)

@[simp] theorem cycle_step_candidate : (cycle.step state proposed).2.candidate = proposed.1 := by
  rcases proposed with ⟨candidate, answer⟩
  cases answer <;> rfl

@[simp] theorem cycle_step_recorded :
    (cycle.step state proposed).2.recorded = recordedCandidate state.limits proposed.1 := by
  rcases proposed with ⟨candidate, answer⟩
  cases answer <;> rfl

theorem cycle_step_limits :
    (cycle.step state proposed).1.limits =
      if (cycle.step state proposed).2.created then
        spendCreated state.limits (recordedCandidate state.limits proposed.1)
      else
        state.limits := by
  rcases proposed with ⟨candidate, answer⟩
  cases answer <;> rfl

theorem cycle_step_sameConfiguration {start : CycleLimits}
    (same : start.SameConfiguration state.limits) :
    start.SameConfiguration (cycle.step state proposed).1.limits := by
  rw [cycle_step_limits]
  split
  · exact ⟨by rw [spendCreated_ceilings, same.ceilings],
        by rw [spendCreated_envelope, same.envelope],
        by rw [spendCreated_touchAges, same.touchAges]⟩
  · exact same

end Entries

section Charging

variable {state : CycleState} {proposed : DecisionCandidate × RepositoryAnswer}

theorem allowed_of_autoExecuted (executed : (cycle.step state proposed).2.autoExecuted = true) :
    (cycle.step state proposed).2.created = true ∧
      checkEnvelope proposed.1.actionClass state.limits.envelope
        (subjectUsage state.limits proposed.1) = .allow := by
  simp only [PersistEntry.autoExecuted, Bool.and_eq_true, decide_eq_true_eq, cycle_step_recorded,
    recordedCandidate_disposition] at executed
  exact ⟨executed.1, envelopeVerdict_of_autoExecute executed.2⟩

/--
A counted step takes its place off a room, and no step makes room: the shape
every budget of the cycle has.
-/
theorem cycle_room_charged (room : CycleLimits → Nat) {counted : PersistEntry → Bool}
    (shrinks : ∀ limits recorded, room (spendCreated limits recorded) ≤ room limits)
    (charges :
      counted (cycle.step state proposed).2 = true →
      (cycle.step state proposed).2.created = true ∧
        1 + room (spendCreated state.limits (recordedCandidate state.limits proposed.1)) ≤
          room state.limits) :
    (if counted (cycle.step state proposed).2 then 1 else 0) +
        room (cycle.step state proposed).1.limits ≤
      room state.limits := by
  rw [cycle_step_limits]
  by_cases isCounted : counted (cycle.step state proposed).2 = true
  · obtain ⟨created, charged⟩ := charges isCounted
    rw [if_pos isCounted, if_pos created]
    exact charged
  · rw [if_neg isCounted, Nat.zero_add]
    split
    · exact shrinks _ _
    · exact le_refl _

end Charging

section Charges

variable (state : CycleState) (proposed : DecisionCandidate × RepositoryAnswer)

theorem weeklyRoom_charged {actionClass : ActionClass} (outward : actionClass.isOutward = true) :
    (if (cycle.step state proposed).2.executedOf actionClass then 1 else 0) +
        (cycle.step state proposed).1.limits.weeklyRoom actionClass ≤
      state.limits.weeklyRoom actionClass := by
  refine cycle_room_charged (fun limits => limits.weeklyRoom actionClass)
      (fun limits recorded =>
        weeklyRoom_spendCreated_le limits recorded actionClass) ?_
  intro executed
  obtain ⟨ran, sameClass⟩ := executedOf_iff.mp executed
  obtain ⟨created, allowed⟩ := allowed_of_autoExecuted ran
  rw [cycle_step_recorded, recordedCandidate_actionClass] at sameClass
  subst sameClass
  obtain ⟨-, -, belowWeek, -, -⟩ := (checkEnvelope_eq_allow_iff outward).mp allowed
  refine ⟨created, weeklyRoom_spendCreated _ _ outward ?_⟩
  intro budget walled
  rw [← subjectUsage_spent state.limits proposed.1]
  exact belowWeek budget walled

theorem dailyRoom_charged :
    (if (cycle.step state proposed).2.executedOf .thirdParty
      then 1 else 0) + (cycle.step state proposed).1.limits.dailyRoom ≤
      state.limits.dailyRoom := by
  refine cycle_room_charged CycleLimits.dailyRoom dailyRoom_spendCreated_le ?_
  intro executed
  obtain ⟨ran, thirdParty⟩ := executedOf_iff.mp executed
  obtain ⟨created, allowed⟩ := allowed_of_autoExecuted ran
  rw [cycle_step_recorded, recordedCandidate_actionClass] at thirdParty
  rw [thirdParty] at allowed
  obtain ⟨-, -, -, belowDay, -⟩ := (checkEnvelope_eq_allow_iff rfl).mp allowed
  exact ⟨created, dailyRoom_spendCreated _ _ thirdParty (belowDay _ rfl)⟩

theorem approvalRoom_charged :
    (if (cycle.step state proposed).2.asked then 1 else 0) +
        (cycle.step state proposed).1.limits.approvalRoom ≤
      state.limits.approvalRoom := by
  refine cycle_room_charged CycleLimits.approvalRoom approvalRoom_spendCreated_le ?_
  intro asked
  simp only [PersistEntry.asked, Bool.and_eq_true, decide_eq_true_eq, cycle_step_recorded] at asked
  obtain ⟨created, asks⟩ := asked
  exact ⟨created, approvalRoom_spendCreated _ _ asks (mayAsk_of_requireApproval asks)⟩

/--
Whoever is written to was neither reached in this cycle nor touched too
recently, as long as there is a cooldown at all.
-/
theorem touched_of_autoContacted {contact : Uuid}
    (contacted : (cycle.step state proposed).2.autoContacted contact = true) :
    ∀ hours,
      (if contact ∈ state.limits.touchedThisCycle then
        some 0
      else
        state.limits.touchAges contact) = some hours →
      state.limits.envelope.subjectCooldownHours ≤ hours := by
  obtain ⟨ran, contacts, isContact⟩ := autoContacted_iff.mp contacted
  rw [cycle_step_recorded, recordedCandidate_outwardContact] at contacts
  rw [cycle_step_recorded, recordedCandidate_subject] at isContact
  obtain ⟨-, allowed⟩ := allowed_of_autoExecuted ran
  have outward : proposed.1.actionClass.isOutward = true := (Bool.and_eq_true_iff.mp contacts).1
  obtain ⟨-, -, -, -, rested⟩ := (checkEnvelope_eq_allow_iff outward).mp allowed
  intro hours touched
  apply rested
  simp only [subjectUsage, contacts, if_true, CycleLimits.hoursSinceSubjectTouched, isContact]
  exact touched

theorem contactRoom_charged (contact : Uuid)
    (cooldown : 0 < state.limits.envelope.subjectCooldownHours) :
    (if (cycle.step state proposed).2.autoContacted contact
      then 1 else 0) + (cycle.step state proposed).1.limits.contactRoom contact ≤
      state.limits.contactRoom contact := by
  refine cycle_room_charged (fun limits => limits.contactRoom contact)
      (fun limits recorded =>
        contactRoom_spendCreated_le limits recorded contact) ?_
  intro contacted
  have rested := touched_of_autoContacted state proposed contacted
  obtain ⟨ran, contacts, isContact⟩ := autoContacted_iff.mp contacted
  rw [cycle_step_recorded] at contacts isContact
  obtain ⟨created, -⟩ := allowed_of_autoExecuted ran
  have untouched : contact ∉ state.limits.touchedThisCycle := by
    intro touched
    exact absurd (rested 0 (if_pos touched)) (not_le_of_gt cooldown)
  subst isContact
  exact ⟨created, contactRoom_spendCreated _ _ contacts untouched⟩

end Charges

section Runs

variable {start : CycleLimits}

theorem cycle_preserves_configuration :
    ∀ state proposed,
      start.SameConfiguration state.limits →
      start.SameConfiguration (cycle.step state proposed).1.limits :=
  fun state proposed same =>
    cycle_step_sameConfiguration state proposed same

theorem ceilingFor_of_sameConfiguration {limits : CycleLimits}
    (same : start.SameConfiguration limits) (actionClass : ActionClass) :
    limits.ceilingFor actionClass = start.ceilingFor actionClass := by
  simp only [CycleLimits.ceilingFor, same.ceilings]

theorem cycle_step_lowered (state : CycleState) (proposed : DecisionCandidate × RepositoryAnswer)
    (same : start.SameConfiguration state.limits) :
    (cycle.step state proposed).2.Lowered start := by
  have lowered := reach_finalDisposition_le_ceiling state.limits proposed.1
  refine ⟨?_, ?_, ?_⟩
  · rw [cycle_step_recorded, cycle_step_candidate]
    exact lowered.trans (reach_clampDisposition_le _ _)
  · rw [cycle_step_recorded, cycle_step_candidate,
      ← ceilingFor_of_sameConfiguration same]
    exact lowered.trans (reach_clampDisposition_le_ceiling _ _)
  · rw [cycle_step_recorded, cycle_step_candidate]
    exact finalDisposition_of_deny state.limits proposed.1

theorem cycle_step_not_autoContacted {contact : Uuid} {hours : U32}
    (touched : start.touchAges contact = some hours)
    (cooling : hours < start.envelope.subjectCooldownHours) (state : CycleState)
    (proposed : DecisionCandidate × RepositoryAnswer)
    (same : start.SameConfiguration state.limits) :
    ¬ (cycle.step state proposed).2.autoContacted contact = true := by
  intro contacted
  have rested := touched_of_autoContacted state proposed contacted
  rw [same.envelope, same.touchAges, touched] at rested
  by_cases reached : contact ∈ state.limits.touchedThisCycle
  · have cooldownElapsed := rested 0 (if_pos reached)
    have positive := lt_of_lt_of_le cooling cooldownElapsed
    have nonnegative := hours.lower
    rw [Ranged.lt_iff_val] at positive
    exact absurd nonnegative (not_le_of_gt positive)
  · exact absurd (rested hours (if_neg reached)) (not_le_of_gt cooling)

/--
Over every cycle, whatever the repository answers: dispositions are only ever
lowered, executed actions stay inside the weekly and daily walls, asks inside
the attention budget, and under a positive cooldown nobody is written to twice
or before their cooldown has elapsed.
-/
theorem cycle_within_limits
    (limits : CycleLimits)
    (report : AutopilotCycleReport)
    (steps : List (DecisionCandidate × RepositoryAnswer)) :
    CycleWithinLimits limits (steps.map Prod.fst)
      (cycle.log ⟨limits, report⟩ steps) where
  inOrder :=
    cycle.map_log_prefix PersistEntry.candidate Prod.fst
      cycle_step_candidate _ _
  lowered :=
    cycle.forall_mem_log cycle_preserves_configuration
      cycle_step_lowered
      ⟨rfl, rfl, rfl⟩ steps
  week := by
    intro actionClass outward
    exact cycle.countP_log_le_room
        (fun state => state.limits.weeklyRoom actionClass) _
        cycle_preserves_configuration
        (fun state proposed _ =>
          weeklyRoom_charged state proposed outward)
        ⟨rfl, rfl, rfl⟩ steps
  day :=
    cycle.countP_log_le_room
      (fun state => state.limits.dailyRoom) _
      cycle_preserves_configuration
      (fun state proposed _ => dailyRoom_charged state proposed)
      ⟨rfl, rfl, rfl⟩ steps
  asks :=
    cycle.countP_log_le_room
      (fun state => state.limits.approvalRoom) _
      cycle_preserves_configuration
      (fun state proposed _ => approvalRoom_charged state proposed)
      ⟨rfl, rfl, rfl⟩ steps
  contactedOnce := by
    intro cooldown contact
    refine (cycle.countP_log_le_room
        (fun state => state.limits.contactRoom contact) _
        cycle_preserves_configuration
        (fun state proposed same =>
          contactRoom_charged state proposed contact
            (same.envelope ▸ cooldown))
        ⟨rfl, rfl, rfl⟩ steps).trans ?_
    simp only [CycleLimits.contactRoom]
    split
    · exact Nat.zero_le 1
    · exact le_refl 1
  rested := by
    intro contact hours touched cooling
    exact cycle.forall_mem_log cycle_preserves_configuration
        (fun state proposed same =>
          cycle_step_not_autoContacted touched cooling
            state proposed same)
        ⟨rfl, rfl, rfl⟩ steps

end Runs

/-- A running workspace whose operator switched the subject cooldown off. -/
def uncooledLimits : CycleLimits where
  ceilings := []
  envelope :=
    { GrowthEnvelope.default with
      agentEnabled := true
      dryRun := false
      subjectCooldownHours := 0 }
  usage := ⟨0, 0, 0, none, 0⟩
  touchAges := fun _ => none
  touchedThisCycle := ∅

def fanMessage (key : String) : DecisionCandidate where
  context := .fanLifecycle
  subject := .fan 7
  disposition := .autoExecute
  policySnapshot := .object []
  action := .requestFanLifecycleMessage "welcome"
  decisionKey := key
  actionIdempotencyKey := key

/-- The repository created the decision and the action. -/
def freshlyCreated : RepositoryAnswer := .ok ⟨true, true, false, some 1⟩

/-- Without a cooldown two messages reach the same fan in one cycle. -/
theorem uncooled_fan_contacted_twice :
    ¬ (cycle.log ⟨uncooledLimits, .empty⟩
        [(fanMessage "first", freshlyCreated),
          (fanMessage "second", freshlyCreated)]).countP
          (PersistEntry.autoContacted 7) ≤ 1 := by
  decide

end CrowdRelay
