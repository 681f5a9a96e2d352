import Mathlib.Algebra.Field.Rat
import CrowdRelay.EvidenceLearning
import CrowdRelay.PrecisionWeighted

namespace CrowdRelay

open MachineInt PrecisionWeighted

/-!
# What the dispatches teach about the strategies

The strategy posterior keeps a belief for every strategy in every state of
growth and distance to the next event.  A replay reads what is new since its
own cursor, and learns from a dispatch the fourteen-day reading, or the
three-day one while there is no other.
-/

inductive GrowthStrategy where
  | aggressiveDiscovery
  | eventDriven
  | contentFirst
  | signalConversion
  deriving Repr, DecidableEq

namespace GrowthStrategy

def asStr : GrowthStrategy → String
  | aggressiveDiscovery => "aggressive_discovery"
  | eventDriven => "event_driven"
  | contentFirst => "content_first"
  | signalConversion => "signal_conversion"

def templatePriority : GrowthStrategy → List String
  | aggressiveDiscovery =>
    ["reddit-scanner", "telegram-scanner", "metal-archives-scanner",
      "bandcamp-scanner", "community-engager", "growth-strategist",
      "social-post", "telegram-poster", "signal-inviter", "press-pitch"]
  | eventDriven =>
    ["press-pitch", "social-post", "telegram-poster", "signal-inviter",
      "community-engager", "reddit-scanner", "telegram-scanner",
      "metal-archives-scanner", "bandcamp-scanner", "growth-strategist"]
  | contentFirst =>
    ["social-post", "telegram-poster", "community-engager",
      "growth-strategist", "reddit-scanner", "telegram-scanner",
      "metal-archives-scanner", "bandcamp-scanner", "signal-inviter",
      "press-pitch"]
  | signalConversion =>
    ["signal-inviter", "social-post", "telegram-poster",
      "growth-strategist", "community-engager", "reddit-scanner",
      "telegram-scanner", "metal-archives-scanner", "bandcamp-scanner",
      "press-pitch"]

/-- The better of two ranks; an unranked template is better for nobody. -/
def outranks : Option Nat → Option Nat → Bool
  | none, _ => false
  | some _, none => true
  | some rank, some bestRank => decide (rank < bestRank)

/-- The strategy that ranks the template first. -/
def inferFromTemplate (templateId : String) : GrowthStrategy :=
  ([aggressiveDiscovery, eventDriven, contentFirst, signalConversion].foldl
    (fun best strategy =>
      let rank := strategy.templatePriority.idxOf? templateId
      if outranks rank best.2 then (strategy, rank) else best)
    (contentFirst, none)).1

end GrowthStrategy

/-- The key of a belief. -/
structure StrategyCell where
  strategy : String
  growthTrend : String
  eventProximity : String
  deriving Repr, DecidableEq

abbrev NormalPosterior := Estimate ℚ

/-- The skeptical prior of every cell. -/
def strategyPrior : NormalPosterior where
  mean := 0
  variance := 4
  count := 0

def updateSigned (posterior : NormalPosterior)
    (observation : Observation ℚ) : NormalPosterior :=
  if observation.variance ≤ 0 then posterior else posterior.observe observation

/-- The beliefs that have been formed. -/
abbrev StateConditionedStrategyPosterior := StrategyCell → Option NormalPosterior

namespace StateConditionedStrategyPosterior

variable (posterior : StateConditionedStrategyPosterior)

def empty : StateConditionedStrategyPosterior := fun _ => none

def update (cell : StrategyCell)
    (observation : Observation ℚ) : StateConditionedStrategyPosterior :=
  fun other =>
    if other = cell then
      some (updateSigned ((posterior cell).getD strategyPrior) observation)
    else
      posterior other

/-- Mean and variance of a cell; the prior's where nothing was learned. -/
def predict (cell : StrategyCell) : ℚ × ℚ :=
  match posterior cell with
  | some belief => (belief.mean, belief.variance)
  | none => (0, 4)

/-- How many observations a cell has. -/
def confidence (cell : StrategyCell) : Nat :=
  match posterior cell with
  | some belief => belief.count
  | none => 0

end StateConditionedStrategyPosterior

def eventProximity : Option U32 → String
  | some days =>
    if days.val ≤ 7 then
      "close"
    else if days.val ≤ 30 then
      "near"
    else
      "far"
  | none => "far"

namespace GrowthEvidence

variable (ev : GrowthEvidence)

/-- The cell that a dispatch is recorded under. -/
def strategyCell : StrategyCell where
  strategy :=
    ev.strategy.getD
      (GrowthStrategy.inferFromTemplate (extractTemplateFromOpportunity ev.opportunityId)).asStr
  growthTrend := ev.context.fanGrowthTrend.asStr
  eventProximity := CrowdRelay.eventProximity ev.context.daysToEvent

/-- The stamp of the reading that a learner would use. -/
def learningHorizon : Option OffsetDateTime :=
  if ev.observedIncrementalFans.isSome then ev.replayed14dAt else ev.replayed3dAt

variable (checkpoint : Option OffsetDateTime)

/-- What the row contributes to a learner at the checkpoint. -/
def strategyObservation : Option (ℚ × ℚ) :=
  ev.incrementalFansForLearning.bind fun learned =>
    if horizonIsNew checkpoint ev.learningHorizon ev.resolvedAt then some learned else none

def observationTime : Option OffsetDateTime := ev.learningHorizon.or ev.resolvedAt

/-- The observation of a row, with its noise, and the cell it is of. -/
def strategyUpdate : Option (StrategyCell × Observation ℚ) :=
  if ev.outcomeBasis.teachesPerAction then
    (ev.strategyObservation checkpoint).map fun learned =>
      (ev.strategyCell,
        { value := learned.1
          variance :=
            2 * max |learned.1| 1 * learned.2 * ev.effectiveEvidenceQuality.varianceMultiplier })
  else
    none

/-- The rows of a delta that a strategy replay accepts. -/
def acceptedAt (checkpoint : Option OffsetDateTime) : Bool :=
  ev.outcomeBasis.teachesPerAction && ev.observationTime.isSome &&
    (ev.strategyObservation checkpoint).isSome

end GrowthEvidence

def applyEvidenceToStrategyPosterior (posterior : StateConditionedStrategyPosterior)
    (evidence : List GrowthEvidence) (checkpoint : Option OffsetDateTime) :
    StateConditionedStrategyPosterior :=
  evidence.foldl
    (fun posterior ev =>
      match ev.strategyUpdate checkpoint with
      | some (cell, observation) => posterior.update cell observation
      | none => posterior)
    posterior

/-- The saved posterior, and the cursor saved with it. -/
structure StrategyCheckpoint where
  posterior : StateConditionedStrategyPosterior
  cursor : Option OffsetDateTime

variable (rows : List EvidenceRow) (cursor : Option OffsetDateTime)

/-- The rows that a replay at the cursor reads. -/
def rowsSince : List EvidenceRow := rows.filter fun row => row.readAfter cursor

/-- The rows among them that it learns from. -/
def acceptedSince : List EvidenceRow :=
  (rowsSince rows cursor).filter fun row => row.acceptedAt cursor

/-- How far a replay at the cursor has read when it is done. -/
def learnedThrough : OffsetDateTime :=
  ((readCursor (rowsSince rows cursor)).toList ++ cursor.toList).max?.getD 0

/-- A delta replay: nothing is saved where nothing was read. -/
def refreshDelta
    (saved : StrategyCheckpoint) : StrategyCheckpoint :=
  let accepted := acceptedSince rows saved.cursor
  let through := learnedThrough rows saved.cursor
  if accepted.isEmpty && decide (through ≤ saved.cursor.getD 0) then
    saved
  else
    { posterior :=
        applyEvidenceToStrategyPosterior saved.posterior
          (accepted.map EvidenceRow.toGrowthEvidence) saved.cursor
      cursor := some through }

def replayFromScratch : StateConditionedStrategyPosterior :=
  applyEvidenceToStrategyPosterior .empty
    ((acceptedSince rows none).map EvidenceRow.toGrowthEvidence) none

/-- What a dispatch is measured by, and the stamp that it is through. -/
inductive Reading where
  | threeDay (fans : ℚ)
  | fourteenDay (fans : ℚ)
  | thirtyDay (fans : ℚ)
  | resolution

namespace EvidenceRow

variable (row : EvidenceRow)

/-- A reading under its stamp, and one more partial resolution. -/
def acquireAt (column : HorizonColumn)
    (now : OffsetDateTime) : EvidenceRow :=
  { row.setStamp column now with
    partialResolutionCount := row.partialResolutionCount + 1 }

/-- Every reading is acquired once. -/
def acquire (reading : Reading)
    (now : OffsetDateTime) : EvidenceRow :=
  match reading with
  | .threeDay fans =>
    if row.replayed3dAt.isSome then
      row
    else
      { row.acquireAt .replayed3dAt now with
        observedIncrementalFans3d := some fans }
  | .fourteenDay fans =>
    if row.replayed14dAt.isSome then
      row
    else
      { row.acquireAt .replayed14dAt now with
        observedIncrementalFans := some fans }
  | .thirtyDay fans =>
    if row.replayed30dAt.isSome then
      row
    else
      { row.acquireAt .replayed30dAt now with
        durableFans30d := some fans }
  | .resolution =>
    if row.resolvedAt.isSome then row else { row with resolvedAt := some now }

/-- A dispatch of which nothing has been measured. -/
structure Unmeasured (row : EvidenceRow) : Prop where
  threeDay : row.observedIncrementalFans3d = none
  fourteenDay : row.observedIncrementalFans = none
  unstamped : row.stamps = []

end EvidenceRow

/-- The dispatches of a workspace before the first measurement. -/
structure Dispatches where
  rows : List EvidenceRow
  unmeasured : ∀ row ∈ rows, row.Unmeasured

/-- The evidence, the learner, and the rows as the last replay saw them. -/
structure StrategyState where
  rows : List EvidenceRow
  saved : StrategyCheckpoint
  clock : OffsetDateTime
  seen : List EvidenceRow

inductive StrategyAct where
  | acquire
      (row : Nat)
      (reading : Reading)
  | replay

/-- No two events happen at one time. -/
structure StrategyEvent where
  elapsed : Nat
  act : StrategyAct

def Dispatches.unlearned (dispatches : Dispatches)
    (clock : OffsetDateTime) : StrategyState where
  rows := dispatches.rows
  saved :=
    { posterior := .empty
      cursor := none }
  clock := clock
  seen := dispatches.rows

def strategyStep (state : StrategyState)
    (event : StrategyEvent) : StrategyState :=
  let now : OffsetDateTime := state.clock + (event.elapsed + 1)
  match event.act with
  | .acquire index reading =>
    { state with
      rows := state.rows.modify index fun row => row.acquire reading now
      clock := now }
  | .replay =>
    { rows := state.rows
      saved := refreshDelta state.rows state.saved
      clock := now
      seen := state.rows }

def strategyLearner :
    Machine.Transducer StrategyState StrategyEvent Unit where
  step state event := (strategyStep state event, ())

end CrowdRelay
