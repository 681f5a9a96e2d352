import Mathlib.Algebra.Order.Ring.Rat
import Mathlib.Data.List.Sort
import Mathlib.Data.Finset.Insert
import CrowdRelay.ActionPayload
import CrowdRelay.GreedySelection

namespace CrowdRelay

open MachineInt GreedySelection

/-!
# The portfolio optimizer

All candidates of a cycle go into one pool, and the optimizer fills the
dispatch slots from it one at a time, each time with the candidate that adds
most to what is already selected.  Amounts are exact rationals.
-/

/-- How the expected fans of a candidate were estimated. -/
inductive EstimationRegime where
  | y30Direct
  | y14Bridged
  | outcomeModel
  deriving Repr, DecidableEq

/-- Why a candidate is dispatched. -/
inductive DecisionMode where
  | exploit
  | learn
  | explore
  | doNothing
  deriving Repr, DecidableEq

/-- What a candidate is worth before the portfolio has its say. -/
structure DecisionValue where
  expectedIncrementalY30 : ℚ
  uncertainty : ℚ
  estimationRegime : EstimationRegime
  sampleSize : U32
  bridgeIsReliable : Bool
  resourceCostUnits : ℚ
  pragmaticValue : ℚ
  riskPenalty : Option ℚ
  opportunityCost : ℚ
  economicValueFans : Option ℚ
  harmFans : Option ℚ
  uncertaintyPenalty : Option ℚ
  decisionMode : DecisionMode
  deriving DecidableEq

/-- The sum of the components, an absent one counting nothing. -/
def DecisionValue.total (value : DecisionValue) : ℚ :=
  value.pragmaticValue
    + value.riskPenalty.getD 0
    + value.opportunityCost
    + value.economicValueFans.getD 0
    + value.harmFans.getD 0
    + value.uncertaintyPenalty.getD 0

inductive OpportunityAction where
  | scan
  | post
  | pitch
  | invite
  | analyze
  deriving Repr, DecidableEq

def OpportunityAction.asStr : OpportunityAction → String
  | .scan => "scan"
  | .post => "post"
  | .pitch => "pitch"
  | .invite => "invite"
  | .analyze => "analyze"

/-- The identity of an opportunity, stable across cycles. -/
structure OpportunityId where
  templateId : String
  target : String
  action : OpportunityAction
  contextHash : String
  deriving Repr, DecidableEq

/-- The printed identity, which is the key rejections and records go by. -/
def OpportunityId.key (opportunity : OpportunityId) : String :=
  opportunity.templateId ++ ":" ++ opportunity.target ++ ":"
    ++ opportunity.action.asStr ++ ":" ++ opportunity.contextHash

structure PortfolioCandidate where
  opportunityId : OpportunityId
  act : Uuid
  audienceKey : String
  isExperimental : Bool
  decisionValue : DecisionValue
  deriving DecidableEq

namespace PortfolioCandidate

abbrev key (candidate : PortfolioCandidate) : String := candidate.opportunityId.key

abbrev total (candidate : PortfolioCandidate) : ℚ := candidate.decisionValue.total

abbrev units (candidate : PortfolioCandidate) : ℚ := candidate.decisionValue.resourceCostUnits

def bridgePenalty (candidate : PortfolioCandidate) : ℚ :=
  if candidate.decisionValue.bridgeIsReliable = false ∧
      candidate.decisionValue.estimationRegime = .y14Bridged then
    4 / 5
  else
    1

def dispatchMode (candidate : PortfolioCandidate) : DecisionMode :=
  if candidate.decisionValue.sampleSize < 10 ∧
      0 < candidate.decisionValue.uncertainty then
    .learn
  else if max |candidate.decisionValue.expectedIncrementalY30| 1 <
      candidate.decisionValue.uncertainty then
    .explore
  else
    .exploit

/-- A candidate as it leaves the pool for the portfolio. -/
def dispatched (candidate : PortfolioCandidate) : PortfolioCandidate :=
  { candidate with
    decisionValue := { candidate.decisionValue with decisionMode := candidate.dispatchMode } }

end PortfolioCandidate

structure PortfolioConfig where
  maxDispatches : U32
  costBudget : ℚ
  audienceOverlapPenalty : ℚ
  fatigueDecay : ℚ
  minMarginalValue : ℚ
  experimentalDispatchBudget : U32
  minDispatches : U32
  fairnessDecay : ℚ

def PortfolioConfig.default : PortfolioConfig where
  maxDispatches := 5
  costBudget := 0
  audienceOverlapPenalty := 3 / 10
  fatigueDecay := 9 / 10
  minMarginalValue := 1 / 10
  experimentalDispatchBudget := 0
  minDispatches := 1
  fairnessDecay := 1

/-- The portfolio state and configuration that fix one candidate's
adjustments. -/
structure AdjustmentInputs where
  audienceCount : Nat
  overlapPenalty : ℚ
  fatigueDecay : ℚ
  bridgeFactor : ℚ
  actDispatches : U32
  fairnessDecay : ℚ

/-- What the portfolio takes off a candidate's own value, factor by factor. -/
structure MarginalAdjustments where
  intrinsicY30 : ℚ
  overlapAdjustment : ℚ
  fatigueAdjustment : ℚ
  bridgeAdjustment : ℚ
  fairnessAdjustment : ℚ
  marginalY30 : ℚ
  audienceCount : Nat
  overlapPenalty : ℚ
  fatigueDecay : ℚ
  bridgeFactor : ℚ
  actDispatches : U32
  fairnessDecay : ℚ

/-- A power whose exponent is held to the largest 32-bit signed value. -/
def powi (base : ℚ) (exponent : Nat) : ℚ := base ^ min exponent 2147483647

/-- The factors in their fixed order, each with what it cost. -/
def MarginalAdjustments.apply (intrinsicY30 : ℚ)
    (inputs : AdjustmentInputs) : MarginalAdjustments :=
  let overlap := max (1 - inputs.overlapPenalty * inputs.audienceCount) 0
  let fatigue := powi inputs.fatigueDecay inputs.audienceCount
  let fairness := powi inputs.fairnessDecay inputs.actDispatches.val.toNat
  let afterOverlap := intrinsicY30 * overlap
  let afterFatigue := afterOverlap * fatigue
  let afterBridge := afterFatigue * inputs.bridgeFactor
  let afterFairness := afterBridge * fairness
  { intrinsicY30 := intrinsicY30
    overlapAdjustment := afterOverlap - intrinsicY30
    fatigueAdjustment := afterFatigue - afterOverlap
    bridgeAdjustment := afterBridge - afterFatigue
    fairnessAdjustment := afterFairness - afterBridge
    marginalY30 := afterFairness
    audienceCount := inputs.audienceCount
    overlapPenalty := inputs.overlapPenalty
    fatigueDecay := inputs.fatigueDecay
    bridgeFactor := inputs.bridgeFactor
    actDispatches := inputs.actDispatches
    fairnessDecay := inputs.fairnessDecay }

inductive RejectionReason where
  | negativeMarginalValue
  | belowThreshold
  | maxDispatchesReached
  | budgetExhausted
  | superseded
  deriving Repr, DecidableEq

structure PortfolioRejection where
  opportunityKey : String
  reason : RejectionReason
  intrinsicY30 : ℚ
  deriving DecidableEq

def PortfolioCandidate.rejection (reason : RejectionReason)
    (candidate : PortfolioCandidate) : PortfolioRejection where
  opportunityKey := candidate.key
  reason := reason
  intrinsicY30 := candidate.total

structure PortfolioSelection where
  selected : List PortfolioCandidate
  rejected : List PortfolioRejection
  totalExpectedFans : ℚ
  doNothing : Bool
  waitReason : Option String
  marginalAdjustments : String → Option MarginalAdjustments

def PortfolioSelection.default : PortfolioSelection where
  selected := []
  rejected := []
  totalExpectedFans := 0
  doNothing := false
  waitReason := none
  marginalAdjustments := fun _ => none

structure PortfolioOptimizer where
  config : PortfolioConfig
  actHistory : Uuid → Option U32
  provenOnlyBeyond : Option U32
  provenAudiences : Finset String

/-- The variables of the selection loop.  The counts are of selected
candidates, of which there are never more than a 32-bit number of slots. -/
structure SelectionRound where
  audienceCounts : String → Nat
  actCounts : Uuid → Nat
  selected : List PortfolioCandidate
  rejected : List PortfolioRejection
  marginalAdjustments : String → Option MarginalAdjustments
  remaining : List PortfolioCandidate
  totalCost : ℚ
  totalExpectedFans : ℚ
  experimentalSlotsUsed : Nat

/-- How a round ends: with a candidate, or with the rest of the pool rejected
for one reason. -/
inductive RoundVerdict where
  | take (index : Nat) (adjustments : MarginalAdjustments)
  | stop (reason : RejectionReason)

namespace SelectionRound

/-- Reject what is left, and leave nothing. -/
def rejectRemaining (round : SelectionRound)
    (reason : RejectionReason) : SelectionRound :=
  { round with
    rejected := round.rejected ++ round.remaining.map (PortfolioCandidate.rejection reason)
    remaining := [] }

end SelectionRound

namespace PortfolioOptimizer

/-- Every slot there is, the sum being taken in 32 bits. -/
def totalSlotLimit (optimizer : PortfolioOptimizer) : U32 :=
  Ranged.wrap (optimizer.config.maxDispatches.val + optimizer.config.experimentalDispatchBudget.val)

variable (optimizer : PortfolioOptimizer) (selectedCount : Nat)

/-- Past the base, only experiments and proven audiences take a slot. -/
def provenOnlySkips
    (candidate : PortfolioCandidate) : Bool :=
  !candidate.isExperimental &&
    match optimizer.provenOnlyBeyond with
    | some base =>
      decide (base.val ≤ selectedCount) &&
        decide (candidate.audienceKey ∉ optimizer.provenAudiences)
    | none => false

variable (round : SelectionRound)

/-- Whether the scan of a round passes over a candidate. -/
def skips
    (candidate : PortfolioCandidate) : Bool :=
  decide (0 < optimizer.config.costBudget ∧
      optimizer.config.costBudget < round.totalCost + candidate.units)
    || (decide (optimizer.config.maxDispatches.val ≤ round.selected.length)
      && (!candidate.isExperimental
        || decide (optimizer.config.experimentalDispatchBudget.val ≤ round.experimentalSlotsUsed)))
    || optimizer.provenOnlySkips round.selected.length candidate

/-- The candidate's value as the portfolio stands. -/
def adjustments (audienceCount actCount : Nat)
    (candidate : PortfolioCandidate) : MarginalAdjustments :=
  MarginalAdjustments.apply candidate.total
    { audienceCount := audienceCount
      overlapPenalty := optimizer.config.audienceOverlapPenalty
      fatigueDecay := optimizer.config.fatigueDecay
      bridgeFactor := candidate.bridgePenalty
      actDispatches :=
        ((optimizer.actHistory candidate.act).getD 0).saturatingAdd (Ranged.wrap actCount)
      fairnessDecay := optimizer.config.fairnessDecay }

/-- The adjustments of a candidate the scan does not pass over. -/
def scored
    (candidate : PortfolioCandidate) : Option MarginalAdjustments :=
  if optimizer.skips round candidate then
    none
  else
    some (optimizer.adjustments
      (round.audienceCounts candidate.audienceKey)
      (round.actCounts candidate.act)
      candidate)

/-- The scan of one round. -/
def bestRemaining : Option (Nat × MarginalAdjustments) :=
  firstBest (optimizer.scored round) MarginalAdjustments.marginalY30
    round.remaining 0 none

/-- Whether a marginal value is worth a slot. -/
def worthTaking
    (marginal : ℚ) : Bool :=
  decide (optimizer.config.minMarginalValue ≤ marginal)
    || (decide (Ranged.wrap selectedCount < optimizer.config.minDispatches)
      && decide (0 < marginal))

/-- What one round comes to. -/
def verdict : RoundVerdict :=
  match optimizer.bestRemaining round with
  | none => .stop .budgetExhausted
  | some (index, best) =>
    if optimizer.worthTaking round.selected.length best.marginalY30 then
      .take index best
    else if best.marginalY30 < 0 then
      .stop .negativeMarginalValue
    else
      .stop .belowThreshold

/-- Move one candidate from the pool to the portfolio. -/
def accept (index : Nat) (best : MarginalAdjustments)
    (candidate : PortfolioCandidate) : SelectionRound :=
  { round with
    remaining := swapRemove round.remaining index
    experimentalSlotsUsed :=
      if candidate.isExperimental ∧
          optimizer.config.maxDispatches.val ≤ round.selected.length then
        round.experimentalSlotsUsed + 1
      else
        round.experimentalSlotsUsed
    totalCost := round.totalCost + candidate.units
    audienceCounts :=
      Function.update round.audienceCounts candidate.audienceKey
        (round.audienceCounts candidate.audienceKey + 1)
    actCounts := Function.update round.actCounts candidate.act (round.actCounts candidate.act + 1)
    totalExpectedFans := round.totalExpectedFans + best.marginalY30
    marginalAdjustments := Function.update round.marginalAdjustments candidate.key (some best)
    selected := round.selected ++ [candidate.dispatched] }

/-- The rounds, until the slots or the pool run out or a round stops.  Each
round shrinks the pool, so the fuel of its length is enough. -/
def rounds (optimizer : PortfolioOptimizer) :
    Nat → SelectionRound → SelectionRound
  | 0, round => round
  | fuel + 1, round =>
    if round.selected.length < optimizer.totalSlotLimit.val ∧
        round.remaining ≠ [] then
      match optimizer.verdict round with
      | .stop reason => round.rejectRemaining reason
      | .take index best =>
        match round.remaining[index]? with
        | some candidate =>
          rounds optimizer fuel (optimizer.accept round index best candidate)
        | none => round
    else
      round

/-- The pool in descending order of intrinsic value; the sort is stable. -/
def ranked (candidates : List PortfolioCandidate) : List PortfolioCandidate :=
  candidates.insertionSort fun one other => other.total ≤ one.total

def firstRound (candidates : List PortfolioCandidate) : SelectionRound where
  audienceCounts := fun _ => 0
  actCounts := fun _ => 0
  selected := []
  rejected := []
  marginalAdjustments := fun _ => none
  remaining := ranked candidates
  totalCost := 0
  totalExpectedFans := 0
  experimentalSlotsUsed := 0

variable (candidates : List PortfolioCandidate)

/-- The loop's last round, what it left in the pool rejected for want of
slots. -/
def lastRound : SelectionRound :=
  (optimizer.rounds candidates.length (firstRound candidates)).rejectRemaining .maxDispatchesReached

def select : PortfolioSelection :=
  if candidates.isEmpty then
    { PortfolioSelection.default with doNothing := true }
  else
    let round := optimizer.lastRound candidates
    { selected := round.selected
      rejected := round.rejected
      totalExpectedFans := round.totalExpectedFans
      doNothing := round.selected.isEmpty
      waitReason := none
      marginalAdjustments := round.marginalAdjustments }

end PortfolioOptimizer

end CrowdRelay
