import CrowdRelay.MachineInt

namespace CrowdRelay

open MachineInt

/-!
# Live opportunities

What the negotiation reads of a show and of the operator's policy for it.
-/

/-- A point in time, in nanoseconds since the epoch. -/
abbrev OffsetDateTime := Int

/-- Whole seconds since the epoch. -/
def OffsetDateTime.unixTimestamp (time : OffsetDateTime) : Int := time / 1000000000

theorem lt_of_unixTimestamp_lt {earlier later : OffsetDateTime}
    (ordered : earlier.unixTimestamp < later.unixTimestamp) :
    earlier < later := by
  refine lt_of_not_ge fun notBefore => ?_
  have rounded : later.unixTimestamp ≤ earlier.unixTimestamp :=
    Int.ediv_le_ediv (by decide) notBefore
  exact absurd ordered (not_lt_of_ge rounded)

/-- The show as the agent sees it when it looks at the terms. -/
structure LiveOpportunitySnapshot where
  expectedFeeMinor : I64
  estimatedCostMinor : I64
  applicationFeeMinor : I64
  requiresContract : Bool
  exclusive : Bool
  eventStartsAt : Option OffsetDateTime
  costedFromLogistics : Bool
  committedShowsYear : U16
  pipelineShowsYear : U16
  annualTarget : U16
  annualStretch : U16
  stretchMinimumScoreBasisPoints : U16
  strategicValueBasisPoints : U16

structure LiveOpportunityPolicy where
  landmarkThresholdBasisPoints : U16
  notableThresholdBasisPoints : U16
  maxStrategicNegativeMarginMinor : I64
  minimumMarginMinor : I64
  targetUpliftBasisPoints : U16
  openingAskUpliftBasisPoints : U16
  maxCounterRounds : U8

def LiveOpportunityPolicy.default : LiveOpportunityPolicy where
  landmarkThresholdBasisPoints := 8500
  notableThresholdBasisPoints := 6000
  maxStrategicNegativeMarginMinor := 0
  minimumMarginMinor := 0
  targetUpliftBasisPoints := 2500
  openingAskUpliftBasisPoints := 2000
  maxCounterRounds := 2

inductive StrategicTier where
  | standard
  | notable
  | landmark
  deriving Repr, DecidableEq

def StrategicTier.fromBasisPoints (value : U16)
    (policy : LiveOpportunityPolicy) : StrategicTier :=
  if policy.landmarkThresholdBasisPoints ≤ value then
    .landmark
  else if policy.notableThresholdBasisPoints ≤ value then
    .notable
  else
    .standard

end CrowdRelay
