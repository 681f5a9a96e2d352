import CrowdRelay.LiveOpportunity

namespace CrowdRelay

open MachineInt

/-!
# Talking terms

The ladder a negotiation is conducted against, the refusals that hold whatever
the fee, and the next move on the terms on the table.
-/

/-- Where a negotiation has got to. -/
inductive TermsState where
  | proposed
  | countered
  | accepted
  | declined
  | expired
  deriving Repr, DecidableEq

/-- True once the negotiation is over. -/
def TermsState.settled : TermsState → Bool
  | .accepted | .declined | .expired => true
  | .proposed | .countered => false

/-- Which input produced the walk-away floor. -/
inductive FloorBasis where
  | cost
  | market
  | counterpartyHistory
  deriving Repr, DecidableEq

/-- The three numbers a negotiation is conducted against, and their basis. -/
structure TermsLadder where
  walkAwayMinor : I64
  targetMinor : I64
  openingAskMinor : I64
  floorBasis : FloorBasis
  deriving Repr, DecidableEq

/-- Why the agent will not accept, whatever the fee says. -/
inductive TermsRefusal where
  | belowFloor
  | requiresContract
  | exclusive
  | dateNotFree
  | pastAnnualStretch
  | stretchScoreTooLow
  | costInsufficient
  deriving Repr, DecidableEq

/-- One negotiation as the database holds it. -/
structure TermsSnapshot where
  state : TermsState
  offeredFeeMinor : I64
  ladder : TermsLadder
  counteredFeeMinor : Option I64
  counterRounds : U8
  respondsBy : OffsetDateTime

/-- What the agent wants to do about the terms on the table. -/
inductive TermsDecision where
  | counter (askMinor : I64) (round : U8)
  | accept (feeMinor : I64)
  | decline (reason : TermsRefusal)
  | expire
  | hold
  deriving Repr, DecidableEq

/-- Raise a fee by basis points; what leaves the range is the largest fee. -/
def uplift (value : I64) (basisPoints : U16) : I64 :=
  (Ranged.tryFrom
    ((value.val * (10000 + basisPoints.val)).tdiv 10000)).getD
    9223372036854775807

variable (snapshot : LiveOpportunitySnapshot) (policy : LiveOpportunityPolicy)

/-- The loss the operator tolerates, which only a landmark show may run. -/
def lossTolerance : I64 :=
  if StrategicTier.fromBasisPoints
      snapshot.strategicValueBasisPoints policy = .landmark then
    policy.maxStrategicNegativeMarginMinor
  else
    0

def termsLadder (costMinor priorFeeMinor : I64)
    (marketFloorMinor : Option I64) : TermsLadder :=
  let costFloor :=
    max
      (((costMinor.saturatingAdd policy.minimumMarginMinor).saturatingAdd
        snapshot.applicationFeeMinor).saturatingSub
        (lossTolerance snapshot policy))
      0
  let walkAwayMinor := max (max costFloor priorFeeMinor) (marketFloorMinor.getD 0)
  let targetMinor := uplift walkAwayMinor policy.targetUpliftBasisPoints
  { walkAwayMinor := walkAwayMinor
    targetMinor := targetMinor
    openingAskMinor := uplift targetMinor policy.openingAskUpliftBasisPoints
    floorBasis :=
      if marketFloorMinor.any fun floor => walkAwayMinor ≤ floor then
        .market
      else if 0 < priorFeeMinor ∧ walkAwayMinor ≤ priorFeeMinor then
        .counterpartyHistory
      else
        .cost }

/-- The shows this year already holds or is about to. -/
def filledShows (snapshot : LiveOpportunitySnapshot) : U16 :=
  snapshot.committedShowsYear.saturatingAdd snapshot.pipelineShowsYear

def freeDate
    (now : OffsetDateTime) : Bool :=
  snapshot.eventStartsAt.any fun startsAt =>
    now.unixTimestamp < startsAt.unixTimestamp

/-- The refusals that hold at every autonomy level. -/
def termsRefusal (score : U16)
    (now : OffsetDateTime) : Option TermsRefusal :=
  if snapshot.requiresContract then
    some .requiresContract
  else if snapshot.exclusive then
    some .exclusive
  else if freeDate snapshot now = false then
    some .dateNotFree
  else if snapshot.costedFromLogistics = false then
    some .costInsufficient
  else if snapshot.annualStretch ≤ filledShows snapshot then
    some .pastAnnualStretch
  else if snapshot.annualTarget ≤ filledShows snapshot ∧
      score.val * 100 < snapshot.stretchMinimumScoreBasisPoints.val then
    some .stretchScoreTooLow
  else
    none

/-- What the show leaves on the fee the opportunity expects. -/
def netMargin (snapshot : LiveOpportunitySnapshot) : Option I64 :=
  if snapshot.costedFromLogistics = false then
    none
  else
    some
      ((snapshot.expectedFeeMinor.saturatingSub
        snapshot.estimatedCostMinor).saturatingSub
        snapshot.applicationFeeMinor)

def clearsNow (snapshot : LiveOpportunitySnapshot) : Bool :=
  (netMargin snapshot).any fun margin => 0 ≤ margin

def remainingRounds
    (round : U8) : U8 :=
  (policy.maxCounterRounds.saturatingSub round).saturatingAdd 1

variable (terms : TermsSnapshot)

/--
What to ask for on this round: the opening ask first, and then the last ask
less a share of its distance from the target.
-/
def counterAsk (round : U8)
    (policy : LiveOpportunityPolicy) : I64 :=
  match terms.counteredFeeMinor with
  | none => terms.ladder.openingAskMinor
  | some previous =>
    let gap := max (previous.saturatingSub terms.ladder.targetMinor) 0
    let concession :=
      gap.truncatedQuotient (Ranged.saturate (max (remainingRounds policy round) 1).val)
    max (previous.saturatingSub concession) terms.ladder.targetMinor

/-- Decides the next move on one negotiation.  The order is the rule. -/
def evaluateTerms (snapshot : LiveOpportunitySnapshot) (policy : LiveOpportunityPolicy)
    (score : U16)
    (now : OffsetDateTime) : TermsDecision :=
  if terms.state.settled then
    .hold
  else if terms.respondsBy.unixTimestamp ≤ now.unixTimestamp then
    .expire
  else
    match termsRefusal snapshot score now with
    | some reason => .decline reason
    | none =>
      if terms.state = .countered then
        .hold
      else if terms.ladder.targetMinor ≤ terms.offeredFeeMinor ∧
          clearsNow snapshot then
        .accept terms.offeredFeeMinor
      else if terms.offeredFeeMinor < terms.ladder.walkAwayMinor ∧
          policy.maxCounterRounds ≤ terms.counterRounds then
        .decline .belowFloor
      else if policy.maxCounterRounds ≤ terms.counterRounds then
        if clearsNow snapshot then .accept terms.offeredFeeMinor else .decline .belowFloor
      else
        .counter
          (counterAsk terms (terms.counterRounds.saturatingAdd 1) policy)
          (terms.counterRounds.saturatingAdd 1)

section Ladder

theorem le_uplift {value : I64} (nonnegative : 0 ≤ value.val) (basisPoints : U16) :
    value ≤ uplift value basisPoints := by
  have lower := basisPoints.lower
  have upper := value.upper
  have product : value.val * 10000 ≤ value.val * (10000 + basisPoints.val) :=
    Int.mul_le_mul_of_nonneg_left (by omega) nonnegative
  have productLower : 0 ≤ value.val * (10000 + basisPoints.val) :=
    Int.mul_nonneg nonnegative (by omega)
  have quotient : value.val ≤ (value.val * (10000 + basisPoints.val)).tdiv 10000 := by
    rw [Int.tdiv_eq_ediv_of_nonneg productLower]
    omega
  rw [Ranged.le_iff_val]
  unfold uplift Ranged.tryFrom
  split
  · exact quotient
  · exact upper

variable (snapshot : LiveOpportunitySnapshot) (policy : LiveOpportunityPolicy)
  (costMinor priorFeeMinor : I64) (marketFloorMinor : Option I64)

theorem termsLadder_walkAway_nonnegative :
    0 ≤
      (termsLadder snapshot policy costMinor priorFeeMinor marketFloorMinor).walkAwayMinor.val := by
  have zero : (0 : I64).val = 0 := rfl
  simp only [termsLadder, Ranged.val_max, zero]
  exact le_max_of_le_left (le_max_of_le_left (le_max_right _ _))

def TermsLadder.Ordered (ladder : TermsLadder) : Prop :=
  ladder.walkAwayMinor ≤ ladder.targetMinor ∧ ladder.targetMinor ≤ ladder.openingAskMinor

theorem termsLadder_ordered :
    (termsLadder snapshot policy costMinor priorFeeMinor marketFloorMinor).Ordered := by
  have nonnegative := termsLadder_walkAway_nonnegative snapshot policy
      costMinor priorFeeMinor marketFloorMinor
  have target := le_uplift nonnegative policy.targetUpliftBasisPoints
  have targetNonnegative := nonnegative.trans (Ranged.le_iff_val.mp target)
  exact ⟨target, le_uplift targetNonnegative policy.openingAskUpliftBasisPoints⟩

end Ladder

end CrowdRelay
