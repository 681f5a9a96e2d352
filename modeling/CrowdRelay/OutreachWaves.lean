import Mathlib.Algebra.Order.Group.Int
import Mathlib.Algebra.Ring.Int.Defs
import Mathlib.Algebra.BigOperators.Group.List.Basic
import Mathlib.Data.List.Dedup
import CrowdRelay.FreeReach

namespace CrowdRelay

open MachineInt Ranged

/-!
# Opening waves against one budget

Every anchor that deserves a wave and has none gets one, and each is sized
against the same figure: what was left of the week when the loop began.
-/

structure OutreachWaveAnchor where
  anchor : WaveAnchor
  anchorAt : OffsetDateTime
  targetKind : OutreachTargetKind
  active : Bool
  hoursUntil : I64
  eligibleTargets : U32
  deriving Repr, DecidableEq

structure OutreachWaveStart where
  anchor : WaveAnchor
  anchorAt : OffsetDateTime
  targetKind : OutreachTargetKind
  capacity : U16
  deriving Repr, DecidableEq

abbrev WaveKey := WaveAnchor × OutreachTargetKind

def OutreachWaveAnchor.key (anchor : OutreachWaveAnchor) : WaveKey :=
  (anchor.anchor, anchor.targetKind)

def OutreachWaveStart.key (start : OutreachWaveStart) : WaveKey := (start.anchor, start.targetKind)

/-- The capacities the table of waves takes. -/
def capacityAllowed (capacity : U16) : Bool := decide (1 ≤ capacity.val ∧ capacity.val ≤ 200)

/--
Inserts a wave unless its anchor has one, and says whether it did.  `none` is
a capacity that the table refuses.
-/
def openOutreachWave (table : List WaveKey)
    (start : OutreachWaveStart) : Option (List WaveKey × Bool) :=
  if !capacityAllowed start.capacity then
    none
  else if start.key ∈ table then
    some (table, false)
  else
    some (table ++ [start.key], true)

/-- A threads wave is worth opening for one person. -/
def openPolicy (anchor : OutreachWaveAnchor)
    (wavePolicy : FreeReachPolicy) : FreeReachPolicy :=
  if anchor.anchor.isThreads then { wavePolicy with minPitchesPerWave := 1 } else wavePolicy

def worthOpening (wavePolicy : FreeReachPolicy) (remaining : U32)
    (anchor : OutreachWaveAnchor) : Bool :=
  waveIsWorthOpening anchor.active anchor.hoursUntil anchor.eligibleTargets
    remaining (openPolicy anchor wavePolicy)

/-- The size of a wave around the anchor. -/
def capacityOf (wavePolicy : FreeReachPolicy) (remaining : U32) (now : OffsetDateTime)
    (anchor : OutreachWaveAnchor) : U16 :=
  waveCapacity
    { anchor := anchor.anchor
      targetKind := anchor.targetKind
      state := .drafting
      openedAt := now
      anchorAt := anchor.anchorAt
      pitches := 0
      eligibleTargets := anchor.eligibleTargets
      thirdPartyBudgetRemaining := remaining
      anchorActive := anchor.active }
    wavePolicy

def openAnchors (wavePolicy : FreeReachPolicy) (remaining : U32) (now : OffsetDateTime)
    (table : List WaveKey) :
    List OutreachWaveAnchor → List OutreachWaveStart
  | [] => []
  | anchor :: later =>
    let capacity := capacityOf wavePolicy remaining now anchor
    if !worthOpening wavePolicy remaining anchor || capacity = 0 then
      openAnchors wavePolicy remaining now table later
    else
      let start : OutreachWaveStart :=
        { anchor := anchor.anchor
          anchorAt := anchor.anchorAt
          targetKind := anchor.targetKind
          capacity := capacity }
      match openOutreachWave table start with
      | none => []
      | some (opened, true) =>
        start :: openAnchors wavePolicy remaining now opened later
      | some (kept, false) => openAnchors wavePolicy remaining now kept later

variable (envelope : GrowthEnvelope) (usage : EnvelopeUsage)
  (deliverability : DeliverabilitySnapshot)

/-- What is left of the week's third-party budget. -/
def remainingTouches
    (now : OffsetDateTime) : U32 :=
  let ceiling :=
    min (rampedCeiling deliverability DeliverabilityPolicy.default now)
      envelope.weeklyThirdPartyTouches
  ceiling.saturatingSub usage.thirdPartyTouches7d

def openOutreachWaves (wavePolicy : FreeReachPolicy) (table : List WaveKey)
    (anchors : List OutreachWaveAnchor)
    (now : OffsetDateTime) : List OutreachWaveStart :=
  openAnchors wavePolicy (remainingTouches envelope usage deliverability now) now table anchors

/-- How many pitches an operator approves who approves every wave. -/
def totalCapacity (starts : List OutreachWaveStart) : Int :=
  (starts.map fun start => start.capacity.val).sum

/-- The anchors that deserve a wave and have none. -/
def deservingKeys (wavePolicy : FreeReachPolicy) (remaining : U32) (table : List WaveKey)
    (anchors : List OutreachWaveAnchor) : List WaveKey :=
  (((anchors.filter (worthOpening wavePolicy remaining)).map
      OutreachWaveAnchor.key).filter fun key => key ∉ table).dedup

variable {wavePolicy : FreeReachPolicy} {remaining : U32}

section Opening

variable {now : OffsetDateTime}

theorem capacityOf_val (anchor : OutreachWaveAnchor) :
    (capacityOf wavePolicy remaining now anchor).val =
      min wavePolicy.maxPitchesPerWave.val remaining.val :=
  waveCapacity_val

theorem capacity_of_mem_openAnchors {table : List WaveKey}
    {anchors : List OutreachWaveAnchor} {start : OutreachWaveStart}
    (opened : start ∈ openAnchors wavePolicy remaining now table anchors) :
    start.capacity.val = min wavePolicy.maxPitchesPerWave.val remaining.val := by
  induction anchors generalizing table with
  | nil => cases opened
  | cons anchor later inductionHypothesis =>
    simp only [openAnchors] at opened
    split at opened
    · exact inductionHypothesis opened
    · split at opened
      · cases opened
      · rcases List.mem_cons.mp opened with isFirst | inLater
        · rw [isFirst]
          exact capacityOf_val anchor
        · exact inductionHypothesis inLater
      · exact inductionHypothesis opened

/-- The table refuses every wave of the cycle, or none of them. -/
def SizeAllowed (wavePolicy : FreeReachPolicy) (remaining : U32) : Prop :=
  1 ≤ min wavePolicy.maxPitchesPerWave.val remaining.val ∧
    min wavePolicy.maxPitchesPerWave.val remaining.val ≤ 200

instance : Decidable (SizeAllowed wavePolicy remaining) := inferInstanceAs (Decidable (_ ∧ _))

theorem openAnchors_of_not_allowed (refused : ¬ SizeAllowed wavePolicy remaining)
    (table : List WaveKey) (anchors : List OutreachWaveAnchor) :
    openAnchors wavePolicy remaining now table anchors = [] := by
  induction anchors generalizing table with
  | nil => rfl
  | cons anchor later inductionHypothesis =>
    have size : (capacityOf wavePolicy remaining now anchor).val =
        min wavePolicy.maxPitchesPerWave.val remaining.val :=
      capacityOf_val anchor
    simp only [openAnchors]
    split
    · exact inductionHypothesis table
    · have notAllowed :
          capacityAllowed (capacityOf wavePolicy remaining now anchor) = false := by
        rw [capacityAllowed, size]
        exact decide_eq_false refused
      simp [openOutreachWave, notAllowed]

/-- One step of the loop, when the table takes waves of this size. -/
theorem openAnchors_cons (allowed : SizeAllowed wavePolicy remaining)
    (table : List WaveKey) (anchor : OutreachWaveAnchor) (later : List OutreachWaveAnchor) :
    openAnchors wavePolicy remaining now table (anchor :: later) =
      if worthOpening wavePolicy remaining anchor ∧ anchor.key ∉ table then
        { anchor := anchor.anchor
          anchorAt := anchor.anchorAt
          targetKind := anchor.targetKind
          capacity := capacityOf wavePolicy remaining now anchor } ::
            openAnchors wavePolicy remaining now (table ++ [anchor.key]) later
      else
        openAnchors wavePolicy remaining now table later := by
  have size : (capacityOf wavePolicy remaining now anchor).val =
      min wavePolicy.maxPitchesPerWave.val remaining.val :=
    capacityOf_val anchor
  have isAllowed : capacityAllowed (capacityOf wavePolicy remaining now anchor) = true := by
    rw [capacityAllowed, size]
    exact decide_eq_true allowed
  have notEmpty : capacityOf wavePolicy remaining now anchor ≠ 0 := by
    intro empty
    have one := allowed.1
    rw [← size, empty] at one
    exact absurd one (by decide)
  simp only [openAnchors, openOutreachWave, isAllowed, notEmpty,
    Bool.not_true, Bool.false_eq_true, if_false, decide_false, Bool.or_false, Bool.not_eq_true']
  cases worth : worthOpening wavePolicy remaining anchor with
  | false => simp
  | true =>
    by_cases present : anchor.key ∈ table
    · have present' : (anchor.anchor, anchor.targetKind) ∈ table := present
      simp [present, OutreachWaveStart.key, present']
    · have absent' : (anchor.anchor, anchor.targetKind) ∉ table := present
      simp [OutreachWaveStart.key, absent', OutreachWaveAnchor.key]

theorem mem_deservingKeys {table : List WaveKey} {anchors : List OutreachWaveAnchor}
    {key : WaveKey} :
    key ∈ deservingKeys wavePolicy remaining table anchors ↔
      (∃ anchor ∈ anchors, worthOpening wavePolicy remaining anchor = true ∧ anchor.key = key) ∧
        key ∉ table := by
  simp only [deservingKeys, List.mem_dedup, List.mem_filter, List.mem_map,
    decide_eq_true_eq, and_assoc]

/-- A wave is opened once for every anchor that deserves one and has none. -/
theorem openAnchors_keys (allowed : SizeAllowed wavePolicy remaining)
    (table : List WaveKey) (anchors : List OutreachWaveAnchor) :
    ((openAnchors wavePolicy remaining now table anchors).map OutreachWaveStart.key).Nodup ∧
      ∀ key,
        key ∈ (openAnchors wavePolicy remaining now table anchors).map OutreachWaveStart.key ↔
          key ∈ deservingKeys wavePolicy remaining table anchors := by
  induction anchors generalizing table with
  | nil => exact ⟨List.nodup_nil, fun key => by simp [openAnchors, deservingKeys]⟩
  | cons anchor later inductionHypothesis =>
    rw [openAnchors_cons allowed]
    split
    · rename_i opens
      obtain ⟨distinct, members⟩ := inductionHypothesis (table ++ [anchor.key])
      have isKey :
          OutreachWaveStart.key
              { anchor := anchor.anchor
                anchorAt := anchor.anchorAt
                targetKind := anchor.targetKind
                capacity := capacityOf wavePolicy remaining now anchor } =
            anchor.key :=
        rfl
      rw [List.map_cons, isKey]
      refine ⟨List.nodup_cons.mpr ⟨?_, distinct⟩, ?_⟩
      · rw [members, mem_deservingKeys]
        rintro ⟨_, absent⟩
        exact absent (List.mem_append_right _ List.mem_cons_self)
      · intro key
        rw [List.mem_cons, members, mem_deservingKeys, mem_deservingKeys]
        constructor
        · rintro (isFirst | ⟨⟨other, member, worth, isOther⟩, absent⟩)
          · rw [isFirst]
            exact ⟨⟨anchor, List.mem_cons_self, opens.1, rfl⟩, opens.2⟩
          · exact ⟨⟨other, List.mem_cons_of_mem _ member, worth, isOther⟩,
              fun present => absent (List.mem_append_left _ present)⟩
        · rintro ⟨⟨other, member, worth, isOther⟩, absent⟩
          by_cases isFirst : key = anchor.key
          · exact Or.inl isFirst
          · rcases List.mem_cons.mp member with same | inLater
            · exact absurd (by rw [← isOther, same]) isFirst
            · refine Or.inr ⟨⟨other, inLater, worth, isOther⟩, ?_⟩
              intro present
              rcases List.mem_append.mp present with inTable | isNew
              · exact absent inTable
              · exact isFirst (List.mem_singleton.mp isNew)
    · rename_i closed
      obtain ⟨distinct, members⟩ := inductionHypothesis table
      refine ⟨distinct, fun key => ?_⟩
      rw [members, mem_deservingKeys, mem_deservingKeys]
      constructor
      · rintro ⟨⟨other, member, worth, isOther⟩, absent⟩
        exact ⟨⟨other, List.mem_cons_of_mem _ member, worth, isOther⟩, absent⟩
      · rintro ⟨⟨other, member, worth, isOther⟩, absent⟩
        rcases List.mem_cons.mp member with same | inLater
        · rw [same] at worth isOther
          rw [← isOther] at absent
          exact absurd ⟨worth, absent⟩ closed
        · exact ⟨⟨other, inLater, worth, isOther⟩, absent⟩

theorem length_openAnchors (allowed : SizeAllowed wavePolicy remaining)
    (table : List WaveKey) (anchors : List OutreachWaveAnchor) :
    (openAnchors wavePolicy remaining now table anchors).length =
      (deservingKeys wavePolicy remaining table anchors).length := by
  obtain ⟨distinct, members⟩ := @openAnchors_keys _ _ now allowed table anchors
  have sameKeys :
      ((openAnchors wavePolicy remaining now table anchors).map
        OutreachWaveStart.key).Perm (deservingKeys wavePolicy remaining table anchors) :=
    (List.perm_ext_iff_of_nodup distinct (List.nodup_dedup _)).mpr members
  rw [← sameKeys.length_eq, List.length_map]

theorem totalCapacity_openAnchors (table : List WaveKey) (anchors : List OutreachWaveAnchor) :
    totalCapacity (openAnchors wavePolicy remaining now table anchors) =
      (openAnchors wavePolicy remaining now table anchors).length *
        min wavePolicy.maxPitchesPerWave.val remaining.val := by
  have sameSize :
      ∀ capacity ∈
        (openAnchors wavePolicy remaining now table anchors).map (fun start => start.capacity.val),
        capacity = min wavePolicy.maxPitchesPerWave.val remaining.val := by
    intro capacity member
    obtain ⟨start, opened, isCapacity⟩ := List.mem_map.mp member
    rw [← isCapacity]
    exact capacity_of_mem_openAnchors opened
  rw [totalCapacity, List.eq_replicate_of_mem sameSize, List.sum_replicate_int, List.length_map]

/--
A cycle keeps within the budget when the table refuses its waves, when at most
one anchor deserves one, or when the budget has room for as many full waves.
-/
def KeepsBudget (wavePolicy : FreeReachPolicy) (remaining : U32) (table : List WaveKey)
    (anchors : List OutreachWaveAnchor) : Prop :=
  ¬ SizeAllowed wavePolicy remaining ∨
    (deservingKeys wavePolicy remaining table anchors).length ≤ 1 ∨
    (deservingKeys wavePolicy remaining table anchors).length *
        wavePolicy.maxPitchesPerWave.val ≤
      remaining.val

theorem mul_min_le_iff {count : Nat} {ceiling budget : Int} (positive : 1 ≤ min ceiling budget) :
    (count : Int) * min ceiling budget ≤ budget ↔ count ≤ 1 ∨ (count : Int) * ceiling ≤ budget := by
  obtain ⟨ceilingPositive, budgetPositive⟩ := le_min_iff.mp positive
  rcases le_total ceiling budget with fits | narrow
  · rw [min_eq_left fits]
    constructor
    · exact Or.inr
    · rintro (atMostOne | within)
      · have few : (count : Int) ≤ 1 := by exact_mod_cast atMostOne
        calc (count : Int) * ceiling
            ≤ 1 * ceiling := Int.mul_le_mul_of_nonneg_right few (by omega)
          _ ≤ budget := by omega
      · exact within
  · rw [min_eq_right narrow]
    constructor
    · intro within
      left
      by_contra several
      have two : (2 : Int) ≤ count := by omega
      have doubled : 2 * budget ≤ count * budget := Int.mul_le_mul_of_nonneg_right two (by omega)
      omega
    · rintro (atMostOne | within)
      · have few : (count : Int) ≤ 1 := by exact_mod_cast atMostOne
        calc (count : Int) * budget
            ≤ 1 * budget := Int.mul_le_mul_of_nonneg_right few (by omega)
          _ = budget := one_mul budget
      · calc (count : Int) * budget
            ≤ count * ceiling := Int.mul_le_mul_of_nonneg_left narrow (Int.natCast_nonneg count)
          _ ≤ budget := within

end Opening

section Envelope

variable (envelope : GrowthEnvelope) (usage : EnvelopeUsage)
  (deliverability : DeliverabilitySnapshot) (wavePolicy : FreeReachPolicy)
  (table : List WaveKey) (anchors : List OutreachWaveAnchor) (now : OffsetDateTime)

/--
The waves of a cycle fit into what is left of the week exactly when the cycle
keeps the budget.
-/
theorem totalCapacity_openOutreachWaves_le_iff :
    totalCapacity
          (openOutreachWaves envelope usage deliverability wavePolicy table
            anchors now) ≤
        (remainingTouches envelope usage deliverability now).val ↔
      KeepsBudget wavePolicy
        (remainingTouches envelope usage deliverability now) table
        anchors := by
  unfold openOutreachWaves KeepsBudget
  generalize remainingTouches envelope usage deliverability now = remaining
  by_cases allowed : SizeAllowed wavePolicy remaining
  · rw [totalCapacity_openAnchors, length_openAnchors allowed,
      mul_min_le_iff allowed.1]
    simp only [allowed, not_true_eq_false, false_or]
  · rw [openAnchors_of_not_allowed allowed]
    simp only [allowed, not_false_eq_true, true_or, iff_true]
    exact remaining.lower

end Envelope

/-- A release to pitch to one kind of target, four weeks out. -/
def releaseAnchor (targetKind : OutreachTargetKind) : OutreachWaveAnchor where
  anchor := .release 1
  anchorAt := 2419200000000000
  targetKind := targetKind
  active := true
  hoursUntil := 672
  eligibleTargets := 40

/-- A workspace that has earned ten touches a week. -/
def earnedDeliverability : DeliverabilitySnapshot where
  sent30d := 10
  bounces30d := 0
  complaints30d := 0
  firstSentAt := some (-3024000000000000)
  weeklyThirdPartyCeiling := 10

def unspentUsage : EnvelopeUsage where
  ownedAudienceTouches7d := 0
  thirdPartyTouches7d := 0
  thirdPartyTouches24h := 0
  hoursSinceSubjectTouched := none
  approvalRequests7d := 0

/-- Two kinds of target are two waves of ten on a budget of ten. -/
theorem totalCapacity_of_two_kinds :
    ¬ ∀ (envelope : GrowthEnvelope) (usage : EnvelopeUsage)
        (deliverability : DeliverabilitySnapshot)
        (wavePolicy : FreeReachPolicy) (table : List WaveKey)
        (anchors : List OutreachWaveAnchor) (now : OffsetDateTime),
      totalCapacity
          (openOutreachWaves envelope usage deliverability wavePolicy table
            anchors now) ≤
        (remainingTouches envelope usage deliverability now).val := by
  intro within
  have claimed := within GrowthEnvelope.default unspentUsage earnedDeliverability
      FreeReachPolicy.default []
      [releaseAnchor .press, releaseAnchor .radio] 0
  revert claimed
  decide +kernel

/-!
## Whether an opened wave reaches a human

A wave is opened with a capacity that is frozen, and settled weeks later
against that capacity.  The smallest wave worth opening around a thread is one
of a single pitch; what is settled is held to the minimum of the policy.
-/

/-- The fewest pitches a wave around the anchor is opened for. -/
def minimumOpened (wavePolicy : FreeReachPolicy)
    (anchor : WaveAnchor) : U16 :=
  if anchor.isThreads then 1 else wavePolicy.minPitchesPerWave

/-- A wave being drafted, as a later cycle loads it with its frozen capacity. -/
def OutreachWaveStart.loaded (start : OutreachWaveStart) (openedAt : OffsetDateTime) (pitches : U16)
    (eligibleTargets : U32) : WaveSnapshot where
  anchor := start.anchor
  targetKind := start.targetKind
  state := .drafting
  openedAt := openedAt
  anchorAt := start.anchorAt
  pitches := pitches
  eligibleTargets := eligibleTargets
  thirdPartyBudgetRemaining := (tryFrom start.capacity.val).getD 0
  anchorActive := true

variable (snapshot : WaveSnapshot) (policy : FreeReachPolicy)

/-- The end of the time a wave is drafted in. -/
def windowCloses : OffsetDateTime :=
  snapshot.openedAt + policy.draftingHours.val * 3600 * 1000000000

def windowClosed
    (now : OffsetDateTime) : Prop :=
  (windowCloses snapshot policy).unixTimestamp ≤ now.unixTimestamp

instance
    (snapshot : WaveSnapshot)
    (policy : FreeReachPolicy)
    (now : OffsetDateTime) :
    Decidable (windowClosed snapshot policy now) :=
  inferInstanceAs (Decidable (_ ≤ _))

/-- The wave never expires as too small, and is sealed once it is due. -/
structure ReachesHuman
    (start : OutreachWaveStart)
    (snapshot : WaveSnapshot)
    (policy : FreeReachPolicy)
    (now : OffsetDateTime) : Prop where
  worthReading :
    evaluateWave snapshot policy now ≠ .expire .tooFewPitches
  sealedWhenDue :
    snapshot.pitches = start.capacity ∨ windowClosed snapshot policy now →
    evaluateWave snapshot policy now = .seal

section Settlement

variable {now openedAt : OffsetDateTime} {start : OutreachWaveStart}

theorem val_loadedCapacity (capacity : U16) :
    ((tryFrom capacity.val : Option U32).getD 0).val = capacity.val := by
  have bounds := And.intro capacity.lower capacity.upper
  cases fits : (tryFrom capacity.val : Option U32) with
  | none =>
    have converted := (@tryFrom_isSome_iff 0 4294967295 capacity.val).mpr (by omega)
    rw [fits] at converted
    cases converted
  | some loaded => exact tryFrom_eq_some_iff.mp fits

theorem waveCapacity_loaded
    (sized : start.capacity.val = min wavePolicy.maxPitchesPerWave.val remaining.val)
    (pitches : U16) (eligibleTargets : U32) :
    waveCapacity (start.loaded openedAt pitches eligibleTargets) wavePolicy = start.capacity := by
  rw [eq_iff_val, waveCapacity_val]
  dsimp only [OutreachWaveStart.loaded]
  rw [val_loadedCapacity, sized]
  omega

theorem evaluateWave_drafting {snapshot : WaveSnapshot}
    (drafting : snapshot.state = .drafting) (active : snapshot.anchorActive = true)
    (beforeAnchor : now.unixTimestamp < snapshot.anchorAt.unixTimestamp) :
    evaluateWave snapshot wavePolicy now =
      if waveCapacity snapshot wavePolicy ≤ snapshot.pitches ∨
          windowClosed snapshot wavePolicy now then
        if wavePolicy.minPitchesPerWave ≤ snapshot.pitches then .seal else .expire .tooFewPitches
      else if snapshot.eligibleTargets = 0 then
        .hold .noEligibleTargets
      else
        .addPitch := by
  have notSettled : snapshot.state.settled = false := by
    rw [drafting]
    rfl
  have notSealed : ¬ snapshot.state = .sealed := by
    rw [drafting]
    exact WaveState.noConfusion
  simp only [evaluateWave, notSettled, active, not_le.mpr beforeAnchor,
    notSealed, Bool.not_true, Bool.false_eq_true, if_false]
  by_cases full : waveCapacity snapshot wavePolicy ≤ snapshot.pitches
  · simp only [full, if_true, true_or]
  · simp only [full, if_false, false_or]
    rfl

/-- A drafted wave reaches a human unless it is due with too few pitches. -/
theorem reachesHuman_iff {pitches : U16} {eligibleTargets : U32}
    (sized : start.capacity.val = min wavePolicy.maxPitchesPerWave.val remaining.val)
    (beforeAnchor : now.unixTimestamp < start.anchorAt.unixTimestamp)
    (within : pitches ≤ start.capacity) :
    ReachesHuman start (start.loaded openedAt pitches eligibleTargets) wavePolicy now ↔
      wavePolicy.minPitchesPerWave ≤ pitches ∨
        pitches < start.capacity ∧
          ¬ windowClosed (start.loaded openedAt pitches eligibleTargets) wavePolicy now := by
  have evaluated :
      evaluateWave (start.loaded openedAt pitches eligibleTargets) wavePolicy now =
        if start.capacity ≤ pitches ∨
            windowClosed (start.loaded openedAt pitches eligibleTargets) wavePolicy now then
          if wavePolicy.minPitchesPerWave ≤ pitches then .seal else .expire .tooFewPitches
        else if eligibleTargets = 0 then
          .hold .noEligibleTargets
        else
          .addPitch := by
    rw [evaluateWave_drafting rfl rfl beforeAnchor, waveCapacity_loaded sized]
    rfl
  have dueIff : pitches = start.capacity ↔ start.capacity ≤ pitches :=
    ⟨fun full => le_of_eq full.symm, fun full => le_antisymm within full⟩
  by_cases due :
      start.capacity ≤ pitches ∨
        windowClosed (start.loaded openedAt pitches eligibleTargets) wavePolicy now
  · have isDue : ¬ (pitches < start.capacity ∧
        ¬ windowClosed (start.loaded openedAt pitches eligibleTargets) wavePolicy now) := by
      rintro ⟨room, isOpen⟩
      exact due.elim (not_le.mpr room) isOpen
    rw [if_pos due] at evaluated
    by_cases enough : wavePolicy.minPitchesPerWave ≤ pitches
    · rw [if_pos enough] at evaluated
      exact iff_of_true
        { worthReading := by rw [evaluated]; exact WaveDecision.noConfusion
          sealedWhenDue := fun _ => evaluated }
        (Or.inl enough)
    · rw [if_neg enough] at evaluated
      exact iff_of_false (fun reaches => reaches.worthReading evaluated)
        (by simp only [enough, isDue, or_self, not_false_eq_true])
  · have notDue := not_or.mp due
    rw [if_neg due] at evaluated
    refine iff_of_true
      { worthReading := ?_
        sealedWhenDue := ?_ }
      (Or.inr ⟨not_le.mp notDue.1, notDue.2⟩)
    · rw [evaluated]
      split <;> simp
    · rintro (full | closed)
      · exact absurd (dueIff.mp full) notDue.1
      · exact absurd closed notDue.2

/--
An opened wave that holds as many pitches as it was opened for reaches a human,
exactly unless it is a threads wave that is due below the minimum of the policy.
-/
theorem openedWave_reachesHuman_iff
    {envelope : GrowthEnvelope}
    {usage : EnvelopeUsage}
    {deliverability : DeliverabilitySnapshot}
    {table : List WaveKey}
    {anchors : List OutreachWaveAnchor}
    {start : OutreachWaveStart}
    {pitches : U16}
    {eligibleTargets : U32}
    (opened :
      start ∈
        openOutreachWaves envelope usage deliverability wavePolicy table
          anchors openedAt)
    (beforeAnchor : now.unixTimestamp < start.anchorAt.unixTimestamp)
    (enough : minimumOpened wavePolicy start.anchor ≤ pitches)
    (within : pitches ≤ start.capacity) :
    ReachesHuman start (start.loaded openedAt pitches eligibleTargets)
        wavePolicy now ↔
      start.anchor.isThreads = false ∨
        wavePolicy.minPitchesPerWave ≤ pitches ∨
          pitches < start.capacity ∧
            ¬ windowClosed (start.loaded openedAt pitches eligibleTargets)
              wavePolicy now := by
  rw [reachesHuman_iff (capacity_of_mem_openAnchors opened) beforeAnchor within]
  refine ⟨Or.inr, ?_⟩
  rintro (ordinary | reaches)
  · -- Any other wave was opened under the minimum it is settled under.
    rw [minimumOpened, ordinary, if_neg Bool.false_ne_true] at enough
    exact Or.inl enough
  · exact reaches

end Settlement

/-- A wave around a release, with three pitches after an hour. -/
theorem openedWave_reachesHuman_release :
    ReachesHuman ⟨.release 1, 2419200000000000, .press, 10⟩
        (OutreachWaveStart.loaded ⟨.release 1, 2419200000000000, .press, 10⟩ 0
          3 40)
        FreeReachPolicy.default 3600000000000 ↔
      (WaveAnchor.release 1).isThreads = false ∨
        FreeReachPolicy.default.minPitchesPerWave ≤ 3 ∨
          (3 : U16) < 10 ∧
            ¬ windowClosed
              (OutreachWaveStart.loaded
                ⟨.release 1, 2419200000000000, .press, 10⟩ 0 3 40)
              FreeReachPolicy.default 3600000000000 :=
  @openedWave_reachesHuman_iff FreeReachPolicy.default 3600000000000 0
    GrowthEnvelope.default unspentUsage earnedDeliverability []
    [releaseAnchor .press] ⟨.release 1, 2419200000000000, .press, 10⟩ 3 40
    (by decide +kernel) (by decide +kernel) (by decide +kernel)
    (by decide +kernel)

/-- One thread to follow up, four weeks before its season ends. -/
def threadsAnchor : OutreachWaveAnchor where
  anchor := .threads 1
  anchorAt := 2419200000000000
  targetKind := .press
  active := true
  hoursUntil := 672
  eligibleTargets := 1

/-- A wave opened for one thread expires as too small a week later. -/
theorem threadsWave_expires :
    OutreachWaveStart.mk (.threads 1) 2419200000000000 .press 10 ∈
        openOutreachWaves GrowthEnvelope.default unspentUsage
          earnedDeliverability FreeReachPolicy.default [] [threadsAnchor] 0 ∧
      minimumOpened FreeReachPolicy.default (.threads 1) = 1 ∧
      ¬ ReachesHuman ⟨.threads 1, 2419200000000000, .press, 10⟩
        (OutreachWaveStart.loaded ⟨.threads 1, 2419200000000000, .press, 10⟩ 0
          1 0)
        FreeReachPolicy.default (604800 * 1000000000) := by
  refine ⟨by decide +kernel, rfl, fun reaches => ?_⟩
  exact reaches.worthReading (by decide +kernel)

end CrowdRelay
