import CrowdRelay.FanLifecycle
import CrowdRelay.Negotiation

namespace CrowdRelay

open MachineInt

/-!
# Whether to apply for a live opportunity

A festival, a showcase or a support slot is scored out of a hundred and held,
prepared for a person, or submitted without one.  What is asked of the score
climbs with the shows the year already holds, and a landmark show is never
dropped for a full year.
-/

/-- How far the trip goes. -/
inductive LiveTravelBand where
  | poland
  | eastGermany
  | czechiaSlovakia
  | farShot
  deriving Repr, DecidableEq

/-- The whole snapshot: what the terms read of the show, and what only the
application reads. -/
structure LiveOpportunityFacts extends LiveOpportunitySnapshot where
  active : Bool
  verifiedDestination : Bool
  autoSubmissionCapable : Bool
  fitBasisPoints : U16
  reputationBasisPoints : U16
  evidenceConfidence : Confidence
  deadline : Option OffsetDateTime
  travelBand : Option LiveTravelBand
  farShotMinimumScoreBasisPoints : U16
  preferWeekendOneShots : Bool
  alreadyApplied : Bool

/-- The whole policy, likewise. -/
structure LiveOpportunityRules extends LiveOpportunityPolicy where
  minimumScore : U16
  minimumAutoScore : U16
  maxAutoApplicationFeeMinor : I64
  maxAutoNegativeMarginMinor : I64
  scarcityStep : U16

def LiveOpportunityRules.default : LiveOpportunityRules where
  toLiveOpportunityPolicy := .default
  minimumScore := 65
  minimumAutoScore := 70
  maxAutoApplicationFeeMinor := 0
  maxAutoNegativeMarginMinor := 0
  scarcityStep := 2

inductive LiveOpportunityDecision where
  | hold
  | prepareForApproval (score : U16) (confidence : Confidence)
  | submitAutomatically (score : U16) (confidence : Confidence)
  | escalateLandmark (score : U16) (confidence : Confidence)
  deriving DecidableEq

/-- Where the shows of the year stand against the target and the stretch. -/
inductive AnnualBudget where
  | pastStretch
  | belowEffectiveMinimum
  | clears
  deriving Repr, DecidableEq

/-- What the show leaves, of whatever origin its cost is. -/
def netMarginMinor (snapshot : LiveOpportunitySnapshot) : I64 :=
  (snapshot.expectedFeeMinor.saturatingSub
    snapshot.estimatedCostMinor).saturatingSub
    snapshot.applicationFeeMinor

/-- An uncosted trip scores nothing. -/
def economicsScore (snapshot : LiveOpportunitySnapshot) : Int :=
  if snapshot.costedFromLogistics = false then
    0
  else if 100000 ≤ (netMarginMinor snapshot).val then
    15
  else if 0 ≤ (netMarginMinor snapshot).val then
    12
  else if -30000 ≤ (netMarginMinor snapshot).val then
    6
  else
    0

def liveOpportunityScore (facts : LiveOpportunityFacts) : U16 :=
  Ranged.saturate
    (min
      (facts.fitBasisPoints.val * 30 / 10000
        + facts.strategicValueBasisPoints.val * 25 / 10000
        + facts.reputationBasisPoints.val * 15 / 10000
        + facts.evidenceConfidence.val * 15 / 10000
        + economicsScore facts.toLiveOpportunitySnapshot)
      100)

def validPolicy (rules : LiveOpportunityRules) : Bool :=
  decide (rules.minimumScore ≤ rules.minimumAutoScore)
    && decide (rules.minimumAutoScore.val ≤ 100)
    && decide (0 ≤ rules.maxAutoApplicationFeeMinor.val)
    && decide (0 ≤ rules.maxAutoNegativeMarginMinor.val)
    && decide (rules.notableThresholdBasisPoints ≤ rules.landmarkThresholdBasisPoints)
    && decide (rules.landmarkThresholdBasisPoints.val ≤ 10000)
    && decide (0 ≤ rules.maxStrategicNegativeMarginMinor.val)
    && decide (0 ≤ rules.minimumMarginMinor.val)
    && decide (1 ≤ rules.maxCounterRounds.val)

/-- What a full year asks of the score, past the target. -/
def effectiveMinimum (facts : LiveOpportunityFacts)
    (rules : LiveOpportunityRules) : U16 :=
  let slotsPast := (filledShows facts.toLiveOpportunitySnapshot).saturatingSub facts.annualTarget
  let ramp := rules.scarcityStep.saturatingMul slotsPast
  let stretchBar := min (facts.stretchMinimumScoreBasisPoints.quotient 100) 100
  min
    (min (rules.minimumScore.saturatingAdd ramp) 100)
    (max stretchBar rules.minimumScore)

def annualBudgetVerdict (facts : LiveOpportunityFacts) (rules : LiveOpportunityRules)
    (tier : StrategicTier)
    (score : U16) : AnnualBudget :=
  if facts.annualTarget = 0 ∨ facts.annualStretch < facts.annualTarget then
    .belowEffectiveMinimum
  else if facts.annualStretch ≤
      filledShows facts.toLiveOpportunitySnapshot then
    .pastStretch
  else if tier = .landmark then
    .clears
  else if filledShows facts.toLiveOpportunitySnapshot ≤
      facts.annualTarget then
    .clears
  else if score < effectiveMinimum facts rules then
    .belowEffectiveMinimum
  else
    .clears

/-- From Friday to Sunday; day 0 of the epoch is a Thursday. -/
def OffsetDateTime.isWeekend (time : OffsetDateTime) : Bool :=
  decide (4 ≤ (time.unixTimestamp / 86400 + 3) % 7)

def scheduleAllowsAutoSubmit (facts : LiveOpportunityFacts)
    (score : U16) : Bool :=
  match facts.eventStartsAt with
  | none => false
  | some startsAt =>
    !facts.preferWeekendOneShots
      || (startsAt.isWeekend
        || decide (facts.stretchMinimumScoreBasisPoints ≤ score.saturatingMul 100))

/-- The loss a show may run and still be submitted: the landmark tier has a
bound of its own. -/
def marginFloor (rules : LiveOpportunityRules)
    (tier : StrategicTier) : Int :=
  if tier = .landmark then
    -rules.maxStrategicNegativeMarginMinor.val
  else
    -rules.maxAutoNegativeMarginMinor.val

def mayAutoSubmit (facts : LiveOpportunityFacts) (rules : LiveOpportunityRules)
    (tier : StrategicTier)
    (score : U16) : Bool :=
  decide (rules.minimumAutoScore ≤ score)
    && scheduleAllowsAutoSubmit facts score
    && facts.autoSubmissionCapable
    && facts.costedFromLogistics
    && decide (facts.applicationFeeMinor ≤ rules.maxAutoApplicationFeeMinor)
    && decide (marginFloor rules tier ≤ (netMarginMinor facts.toLiveOpportunitySnapshot).val)
    && !facts.requiresContract
    && !facts.exclusive

/-- Nothing is decided under a bad policy, or about a show that is over, out of
reach or wrongly priced. -/
def outOfQuestion (facts : LiveOpportunityFacts) (rules : LiveOpportunityRules)
    (now : OffsetDateTime) : Bool :=
  !validPolicy rules
    || !facts.active
    || !facts.verifiedDestination
    || facts.alreadyApplied
    || decide (facts.expectedFeeMinor.val < 0)
    || decide (facts.estimatedCostMinor.val < 0)
    || decide (facts.applicationFeeMinor.val < 0)
    || facts.deadline.any fun deadline => decide (deadline ≤ now)

def farShotHolds (facts : LiveOpportunityFacts) (score : U16) : Bool :=
  decide (facts.travelBand = some .farShot)
    && decide (score.saturatingMul 100 < facts.farShotMinimumScoreBasisPoints)

/-- How sure the agent is, by how far the score is above the minimum. -/
def scoreConfidence (rules : LiveOpportunityRules)
    (score : U16) : Confidence :=
  Ranged.saturate
    (min
      (7500
        + min
            ((score.saturatingSub rules.minimumScore).saturatingMul 100).val
            2500)
      10000)

def evaluateLiveOpportunity (facts : LiveOpportunityFacts) (rules : LiveOpportunityRules)
    (now : OffsetDateTime) : LiveOpportunityDecision :=
  if outOfQuestion facts rules now then
    .hold
  else
    let score := liveOpportunityScore facts
    let tier :=
      StrategicTier.fromBasisPoints facts.strategicValueBasisPoints rules.toLiveOpportunityPolicy
    let confidence := scoreConfidence rules score
    match annualBudgetVerdict facts rules tier score with
    | .pastStretch =>
      if tier = .landmark then .escalateLandmark score confidence else .hold
    | .belowEffectiveMinimum => .hold
    | .clears =>
      if score < rules.minimumScore then
        .hold
      else if farShotHolds facts score then
        .hold
      else if mayAutoSubmit facts rules tier score then
        .submitAutomatically score confidence
      else
        .prepareForApproval score confidence

/-!
## Better shows
-/

/-- The second show differs from the first for the better only. -/
structure NoWorse (first second : LiveOpportunityFacts) : Prop where
  fit : first.fitBasisPoints ≤ second.fitBasisPoints
  reputation : first.reputationBasisPoints ≤ second.reputationBasisPoints
  strategic :
    first.strategicValueBasisPoints ≤ second.strategicValueBasisPoints
  confidence : first.evidenceConfidence ≤ second.evidenceConfidence
  fee : first.expectedFeeMinor ≤ second.expectedFeeMinor
  cost : second.estimatedCostMinor ≤ first.estimatedCostMinor
  otherwiseSame :
    { first with
      fitBasisPoints := second.fitBasisPoints
      reputationBasisPoints := second.reputationBasisPoints
      strategicValueBasisPoints := second.strategicValueBasisPoints
      evidenceConfidence := second.evidenceConfidence
      expectedFeeMinor := second.expectedFeeMinor
      estimatedCostMinor := second.estimatedCostMinor } = second

/-- The second decision is no worse than the first, on the scale from holding
over preparing to submitting.  An escalation is only not to be dropped. -/
def LiveOpportunityDecision.AtMost :
    LiveOpportunityDecision → LiveOpportunityDecision → Prop
  | .hold, _ => True
  | .prepareForApproval _ _, .prepareForApproval _ _ => True
  | .prepareForApproval _ _, .submitAutomatically _ _ => True
  | .prepareForApproval _ _, _ => False
  | .submitAutomatically _ _, .submitAutomatically _ _ => True
  | .submitAutomatically _ _, _ => False
  | .escalateLandmark _ _, .hold => False
  | .escalateLandmark _ _, _ => True

/-- The tier of a show under the rules. -/
def tierOf (facts : LiveOpportunityFacts)
    (rules : LiveOpportunityRules) : StrategicTier :=
  StrategicTier.fromBasisPoints facts.strategicValueBasisPoints rules.toLiveOpportunityPolicy

section Better

variable {first second : LiveOpportunityFacts} {rules : LiveOpportunityRules} {now : OffsetDateTime}

theorem fromBasisPoints_eq_landmark_iff (value : U16) (policy : LiveOpportunityPolicy) :
    StrategicTier.fromBasisPoints value policy = .landmark ↔
      policy.landmarkThresholdBasisPoints ≤ value := by
  unfold StrategicTier.fromBasisPoints
  split_ifs with landmark notable
  · exact iff_of_true rfl landmark
  · exact iff_of_false nofun landmark
  · exact iff_of_false nofun landmark

theorem NoWorse.landmark (better : NoWorse first second)
    (landmark : tierOf first rules = .landmark) :
    tierOf second rules = .landmark := by
  rw [tierOf, fromBasisPoints_eq_landmark_iff] at landmark ⊢
  exact landmark.trans better.strategic

theorem NoWorse.margin (better : NoWorse first second) :
    (netMarginMinor first.toLiveOpportunitySnapshot).val ≤
      (netMarginMinor second.toLiveOpportunitySnapshot).val := by
  have fee := Ranged.le_iff_val.mp better.fee
  have cost := Ranged.le_iff_val.mp better.cost
  have application : second.applicationFeeMinor = first.applicationFeeMinor :=
    congrArg (·.applicationFeeMinor) better.otherwiseSame.symm
  simp only [netMarginMinor, Ranged.val_saturatingSub, application]
  omega

theorem NoWorse.economics (better : NoWorse first second) :
    economicsScore first.toLiveOpportunitySnapshot ≤
      economicsScore second.toLiveOpportunitySnapshot := by
  have margin := better.margin
  have costed : second.costedFromLogistics = first.costedFromLogistics :=
    congrArg (·.costedFromLogistics) better.otherwiseSame.symm
  unfold economicsScore
  rw [costed]
  split_ifs <;> omega

theorem NoWorse.score (better : NoWorse first second) :
    liveOpportunityScore first ≤ liveOpportunityScore second := by
  have fit := Ranged.le_iff_val.mp better.fit
  have reputation := Ranged.le_iff_val.mp better.reputation
  have strategic := Ranged.le_iff_val.mp better.strategic
  have confidence := Ranged.le_iff_val.mp better.confidence
  have economics := better.economics
  rw [Ranged.le_iff_val]
  simp only [liveOpportunityScore, Ranged.val_saturate]
  omega

theorem NoWorse.inQuestion (better : NoWorse first second)
    (priced : 0 ≤ second.estimatedCostMinor.val)
    (inQuestion : outOfQuestion first rules now = false) :
    outOfQuestion second rules now = false := by
  have fee := Ranged.le_iff_val.mp better.fee
  have same := better.otherwiseSame
  have active : second.active = first.active := congrArg (·.active) same.symm
  have verified : second.verifiedDestination = first.verifiedDestination :=
    congrArg (·.verifiedDestination) same.symm
  have applied : second.alreadyApplied = first.alreadyApplied :=
    congrArg (·.alreadyApplied) same.symm
  have application : second.applicationFeeMinor = first.applicationFeeMinor :=
    congrArg (·.applicationFeeMinor) same.symm
  have deadline : second.deadline = first.deadline := congrArg (·.deadline) same.symm
  simp only [outOfQuestion, Bool.or_eq_false_iff, decide_eq_false_iff_not, not_lt] at inQuestion ⊢
  rw [active, verified, applied, application, deadline]
  obtain ⟨⟨⟨⟨before, paid⟩, -⟩, charged⟩, open_⟩ := inQuestion
  exact ⟨⟨⟨⟨before, paid.trans fee⟩, priced⟩, charged⟩, open_⟩

theorem saturatingMul_le {low high : U16} (ordered : low ≤ high) (factor : U16) :
    low.saturatingMul factor ≤ high.saturatingMul factor := by
  have product := Int.mul_le_mul_of_nonneg_right (Ranged.le_iff_val.mp ordered) factor.lower
  rw [Ranged.le_iff_val, Ranged.saturatingMul, Ranged.saturatingMul,
    Ranged.val_saturate, Ranged.val_saturate]
  omega

section

variable (better : NoWorse first second)
include better

theorem NoWorse.sameYear (rules : LiveOpportunityRules) :
    second.annualTarget = first.annualTarget ∧
      second.annualStretch = first.annualStretch ∧
      filledShows second.toLiveOpportunitySnapshot = filledShows first.toLiveOpportunitySnapshot ∧
      effectiveMinimum second rules = effectiveMinimum first rules := by
  rw [← better.otherwiseSame]
  exact ⟨rfl, rfl, rfl, rfl⟩

theorem NoWorse.pastStretch {tier tier' : StrategicTier} {score score' : U16}
    (past : annualBudgetVerdict first rules tier score = .pastStretch) :
    annualBudgetVerdict second rules tier' score' = .pastStretch := by
  obtain ⟨target, stretch, filled, -⟩ := better.sameYear rules
  unfold annualBudgetVerdict at past ⊢
  rw [target, stretch, filled]
  split_ifs at past with unset full
  rw [if_neg unset, if_pos full]

theorem NoWorse.annualClears
    (clears :
      annualBudgetVerdict first rules (tierOf first rules) (liveOpportunityScore first) = .clears) :
    annualBudgetVerdict second rules (tierOf second rules)
        (liveOpportunityScore second) = .clears := by
  obtain ⟨target, stretch, filled, minimum⟩ := better.sameYear rules
  unfold annualBudgetVerdict at clears ⊢
  rw [target, stretch, filled, minimum]
  by_cases unset : first.annualTarget = 0 ∨ first.annualStretch < first.annualTarget
  · rw [if_pos unset] at clears
    cases clears
  · rw [if_neg unset] at clears ⊢
    by_cases full : first.annualStretch ≤ filledShows first.toLiveOpportunitySnapshot
    · rw [if_pos full] at clears
      cases clears
    · rw [if_neg full] at clears ⊢
      by_cases landmark : tierOf second rules = .landmark
      · exact if_pos landmark
      · have notLandmark : ¬ tierOf first rules = .landmark :=
          fun was => landmark (better.landmark was)
        rw [if_neg notLandmark] at clears
        rw [if_neg landmark]
        by_cases room : filledShows first.toLiveOpportunitySnapshot ≤ first.annualTarget
        · exact if_pos room
        · rw [if_neg room] at clears ⊢
          by_cases below : liveOpportunityScore first < effectiveMinimum first rules
          · rw [if_pos below] at clears
            cases clears
          · have reaches := (not_lt.mp below).trans better.score
            exact if_neg (not_lt.mpr reaches)

theorem NoWorse.farShot (goes : farShotHolds first (liveOpportunityScore first) = false) :
    farShotHolds second (liveOpportunityScore second) = false := by
  have band : second.travelBand = first.travelBand :=
    congrArg (·.travelBand) better.otherwiseSame.symm
  have asked : second.farShotMinimumScoreBasisPoints = first.farShotMinimumScoreBasisPoints :=
    congrArg (·.farShotMinimumScoreBasisPoints) better.otherwiseSame.symm
  have scaled := saturatingMul_le better.score 100
  simp only [farShotHolds, Bool.and_eq_false_imp, decide_eq_true_eq,
    decide_eq_false_iff_not, not_lt] at goes ⊢
  rw [band, asked]
  exact fun far => (goes far).trans scaled

theorem NoWorse.schedule
    (allows : scheduleAllowsAutoSubmit first (liveOpportunityScore first) = true) :
    scheduleAllowsAutoSubmit second (liveOpportunityScore second) = true := by
  have starts : second.eventStartsAt = first.eventStartsAt :=
    congrArg (·.eventStartsAt) better.otherwiseSame.symm
  have prefers : second.preferWeekendOneShots = first.preferWeekendOneShots :=
    congrArg (·.preferWeekendOneShots) better.otherwiseSame.symm
  have stretch : second.stretchMinimumScoreBasisPoints = first.stretchMinimumScoreBasisPoints :=
    congrArg (·.stretchMinimumScoreBasisPoints) better.otherwiseSame.symm
  have scaled := saturatingMul_le better.score 100
  unfold scheduleAllowsAutoSubmit at allows ⊢
  rw [starts, prefers, stretch]
  cases isStart : first.eventStartsAt with
  | none =>
    rw [isStart] at allows
    cases allows
  | some startsAt =>
    simp only [isStart, Bool.or_eq_true, decide_eq_true_eq] at allows ⊢
    rcases allows with anyDay | weekend | worth
    · exact .inl anyDay
    · exact .inr (.inl weekend)
    · exact .inr (.inr (worth.trans scaled))

end

/-- Where the second show becomes a landmark, it clears the landmark floor. -/
def FloorKept (rules : LiveOpportunityRules)
    (first second : LiveOpportunityFacts) : Prop :=
  tierOf first rules ≠ .landmark → tierOf second rules = .landmark →
    rules.maxAutoNegativeMarginMinor ≤
        rules.maxStrategicNegativeMarginMinor ∨
      -rules.maxStrategicNegativeMarginMinor.val ≤
        (netMarginMinor second.toLiveOpportunitySnapshot).val

theorem NoWorse.floor (better : NoWorse first second) (kept : FloorKept rules first second)
    (clears :
      marginFloor rules (tierOf first rules) ≤
        (netMarginMinor first.toLiveOpportunitySnapshot).val) :
    marginFloor rules (tierOf second rules) ≤
      (netMarginMinor second.toLiveOpportunitySnapshot).val := by
  have margin := better.margin
  unfold marginFloor at clears ⊢
  by_cases was : tierOf first rules = .landmark
  · rw [if_pos was] at clears
    rw [if_pos (better.landmark was)]
    exact clears.trans margin
  · rw [if_neg was] at clears
    by_cases becomes : tierOf second rules = .landmark
    · rw [if_pos becomes]
      rcases kept was becomes with looser | clearsLandmark
      · have bound := Ranged.le_iff_val.mp looser
        omega
      · exact clearsLandmark
    · rw [if_neg becomes]
      exact clears.trans margin

theorem NoWorse.autoSubmit (better : NoWorse first second) (kept : FloorKept rules first second)
    (may : mayAutoSubmit first rules (tierOf first rules) (liveOpportunityScore first) = true) :
    mayAutoSubmit second rules (tierOf second rules) (liveOpportunityScore second) = true := by
  have same := better.otherwiseSame
  have capable : second.autoSubmissionCapable = first.autoSubmissionCapable :=
    congrArg (·.autoSubmissionCapable) same.symm
  have costed : second.costedFromLogistics = first.costedFromLogistics :=
    congrArg (·.costedFromLogistics) same.symm
  have application : second.applicationFeeMinor = first.applicationFeeMinor :=
    congrArg (·.applicationFeeMinor) same.symm
  have contract : second.requiresContract = first.requiresContract :=
    congrArg (·.requiresContract) same.symm
  have exclusive : second.exclusive = first.exclusive := congrArg (·.exclusive) same.symm
  simp only [mayAutoSubmit, Bool.and_eq_true, decide_eq_true_eq] at may ⊢
  rw [capable, costed, application, contract, exclusive]
  obtain ⟨⟨⟨⟨⟨⟨⟨reaches, schedule⟩, able⟩, known⟩, cheap⟩, floor⟩, free⟩, open_⟩ := may
  exact ⟨⟨⟨⟨⟨⟨⟨reaches.trans better.score, better.schedule schedule⟩, able⟩,
      known⟩, cheap⟩, better.floor kept floor⟩, free⟩, open_⟩

end Better

/-- A better show is decided no worse, unless its cost is below zero, or it
becomes a landmark and runs a loss that only other shows may run. -/
theorem better_shows_decided_no_worse
    (rules : LiveOpportunityRules)
    (first second : LiveOpportunityFacts)
    (now : OffsetDateTime)
    (better : NoWorse first second)
    (priced : 0 ≤ second.estimatedCostMinor.val)
    (kept : FloorKept rules first second) :
    (evaluateLiveOpportunity first rules now).AtMost
      (evaluateLiveOpportunity second rules now) := by
  cases question : outOfQuestion first rules now with
  | true =>
    have held : evaluateLiveOpportunity first rules now = .hold := if_pos question
    rw [held]
    trivial
  | false =>
    have secondQuestion := better.inQuestion priced question
    unfold evaluateLiveOpportunity
    rw [question, secondQuestion]
    simp only [Bool.false_eq_true, if_false]
    rw [← tierOf, ← tierOf]
    cases year :
        annualBudgetVerdict first rules (tierOf first rules)
          (liveOpportunityScore first) with
    | pastStretch =>
      simp only [better.pastStretch year]
      by_cases landmark : tierOf first rules = .landmark
      · rw [if_pos landmark, if_pos (better.landmark landmark)]
        trivial
      · rw [if_neg landmark]
        trivial
    | belowEffectiveMinimum =>
      trivial
    | clears =>
      simp only [better.annualClears year]
      by_cases below : liveOpportunityScore first < rules.minimumScore
      · rw [if_pos below]
        trivial
      · have reaches := (not_lt.mp below).trans better.score
        rw [if_neg below, if_neg (not_lt.mpr reaches)]
        cases far : farShotHolds first (liveOpportunityScore first) with
        | true =>
          trivial
        | false =>
          rw [better.farShot far]
          simp only [Bool.false_eq_true, if_false]
          cases may :
              mayAutoSubmit first rules (tierOf first rules)
                (liveOpportunityScore first) with
          | true =>
            rw [better.autoSubmit kept may]
            trivial
          | false =>
            simp only [Bool.false_eq_true, if_false]
            split_ifs <;> trivial

/-- A support slot far from prestige, worth playing at a small loss. -/
def supportSlot : LiveOpportunityFacts where
  expectedFeeMinor := 80000
  estimatedCostMinor := 100000
  applicationFeeMinor := 0
  requiresContract := false
  exclusive := false
  eventStartsAt := some 9000000000
  costedFromLogistics := true
  committedShowsYear := 0
  pipelineShowsYear := 0
  annualTarget := 15
  annualStretch := 20
  stretchMinimumScoreBasisPoints := 9000
  strategicValueBasisPoints := 8000
  active := true
  verifiedDestination := true
  autoSubmissionCapable := true
  fitBasisPoints := 10000
  reputationBasisPoints := 10000
  evidenceConfidence := 10000
  deadline := none
  travelBand := none
  farShotMinimumScoreBasisPoints := 9000
  preferWeekendOneShots := false
  alreadyApplied := false

def lossAllowed : LiveOpportunityRules :=
  { LiveOpportunityRules.default with maxAutoNegativeMarginMinor := 30000 }

theorem cheaper_support_slot_decided_no_worse :
    (evaluateLiveOpportunity supportSlot lossAllowed 0).AtMost
      (evaluateLiveOpportunity
        { supportSlot with estimatedCostMinor := 90000 } lossAllowed 0) :=
  better_shows_decided_no_worse lossAllowed supportSlot
    { supportSlot with estimatedCostMinor := 90000 } 0
    ⟨le_rfl, le_rfl, le_rfl, le_rfl, le_rfl, by decide, rfl⟩
    (by decide)
    (fun notLandmark becomes => absurd becomes notLandmark)

def landmarkSlot : LiveOpportunityFacts := { supportSlot with strategicValueBasisPoints := 9000 }

def subsidisedSlot : LiveOpportunityFacts :=
  { supportSlot with estimatedCostMinor := Ranged.saturate (-1) }

/-- Confirmed as a landmark, the slot is no longer submitted; of a cost below
zero, it is not even prepared. -/
theorem better_support_slots_decided_worse :
    validPolicy lossAllowed = true ∧
      (NoWorse supportSlot landmarkSlot ∧
        ¬ (evaluateLiveOpportunity supportSlot lossAllowed 0).AtMost
            (evaluateLiveOpportunity landmarkSlot lossAllowed 0)) ∧
      NoWorse supportSlot subsidisedSlot ∧
        ¬ (evaluateLiveOpportunity supportSlot lossAllowed 0).AtMost
            (evaluateLiveOpportunity subsidisedSlot lossAllowed 0) := by
  have submitted :
      evaluateLiveOpportunity supportSlot lossAllowed 0 = .submitAutomatically 86 9600 := by
    decide
  have prepared :
      evaluateLiveOpportunity landmarkSlot lossAllowed 0 = .prepareForApproval 88 9800 := by
    decide
  have held : evaluateLiveOpportunity subsidisedSlot lossAllowed 0 = .hold := by
    decide
  rw [submitted, prepared, held]
  refine ⟨by decide, ⟨?_, id⟩, ?_, id⟩
  · exact ⟨le_rfl, le_rfl, by decide, le_rfl, le_rfl, le_rfl, rfl⟩
  · exact ⟨le_rfl, le_rfl, le_rfl, le_rfl, le_rfl, by decide, rfl⟩

end CrowdRelay
