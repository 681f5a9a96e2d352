import CrowdRelay.GroupedRanking
import CrowdRelay.GrowthEvidence

namespace CrowdRelay

open Grouping StableRanking GroupedRanking

/-!
# Fan-growth attribution

What was measured is added up over all evidence and, in one map each, by
template, by strategy and by evidence quality; the entries are then ranked.
Nothing is lost on the way as long as the counters of 32 bits hold.  The
rankings by template and by strategy put nothing behind the fans they compare,
so groups that tie are listed in the order their map gives them up.
-/

def EvidenceQuality.rank : EvidenceQuality → Nat
  | randomizedHoldout => 6
  | matchedQuasiExperiment => 5
  | deterministicAttribution => 4
  | modeledAttribution => 3
  | prePost => 2
  | observational => 1

instance : Inhabited EvidenceQuality := ⟨.observational⟩

theorem EvidenceQuality.rank_injective : Function.Injective EvidenceQuality.rank := by
  intro one other same
  cases one <;> cases other <;> first | rfl | cases same

def CreativeFamily.asStr : CreativeFamily → String
  | story => "story"
  | riff => "riff"
  | technical => "technical"
  | identity => "identity"
  | event => "event"

@[ext] structure TemplateAttribution where
  templateId : String
  observedFans : ℚ
  incrementalFans : ℚ
  durableFans : ℚ
  observations : UInt32
  meanObservedFans : ℚ
  meanIncrementalFans : ℚ
  /-- Strongest evidence quality achieved. -/
  bestQuality : EvidenceQuality
  deriving DecidableEq

instance : Inhabited TemplateAttribution :=
  ⟨{ templateId := ""
     observedFans := 0
     incrementalFans := 0
     durableFans := 0
     observations := 0
     meanObservedFans := 0
     meanIncrementalFans := 0
     bestQuality := default }⟩

@[ext] structure StrategyAttribution where
  strategy : String
  observedFans : ℚ
  incrementalFans : ℚ
  observations : UInt32
  meanIncrementalFans : ℚ
  deriving DecidableEq

instance : Inhabited StrategyAttribution :=
  ⟨{ strategy := ""
     observedFans := 0
     incrementalFans := 0
     observations := 0
     meanIncrementalFans := 0 }⟩

@[ext] structure QualityAttribution where
  quality : EvidenceQuality
  incrementalFans : ℚ
  observations : UInt32
  deriving DecidableEq

instance : Inhabited QualityAttribution :=
  ⟨{ quality := default, incrementalFans := 0, observations := 0 }⟩

@[ext] structure FanGrowthAttribution where
  totalObservedFans : ℚ
  totalIncrementalFans : ℚ
  totalDurableFans : ℚ
  resolvedObservations : UInt32
  partialObservations : UInt32
  byTemplate : List TemplateAttribution
  byStrategy : List StrategyAttribution
  byQuality : List QualityAttribution
  deriving DecidableEq

namespace GrowthEvidence

def hasOutcome (ev : GrowthEvidence) : Bool :=
  ev.observedFans.isSome || ev.observedIncrementalFans.isSome || ev.y30Outcome.isSome

/-- The creative family stands for the template, then the subreddit type. -/
def templateId (ev : GrowthEvidence) : String :=
  let templateKey := ev.context.subredditType.getD "unknown"
  (ev.creativeFamily.map CreativeFamily.asStr).getD templateKey

def strategyKey (ev : GrowthEvidence) : String := ev.strategy.getD "unknown"

end GrowthEvidence

def addReading (total : ℚ) : Option ℚ → ℚ
  | some reading => total + reading
  | none => total

variable (entry : TemplateAttribution)

def TemplateAttribution.add
    (ev : GrowthEvidence) : TemplateAttribution :=
  { entry with
    templateId := ev.templateId
    observedFans := addReading entry.observedFans ev.observedFans
    incrementalFans := addReading entry.incrementalFans ev.observedIncrementalFans
    durableFans := addReading entry.durableFans ev.y30Outcome
    observations := entry.observations + 1
    bestQuality :=
      if entry.bestQuality.rank < ev.evidenceQuality.rank then
        ev.evidenceQuality
      else
        entry.bestQuality }

def StrategyAttribution.add (entry : StrategyAttribution)
    (ev : GrowthEvidence) : StrategyAttribution :=
  { entry with
    strategy := ev.strategyKey
    observedFans := addReading entry.observedFans ev.observedFans
    incrementalFans := addReading entry.incrementalFans ev.observedIncrementalFans
    observations := entry.observations + 1 }

/-- A row in the entry of its evidence quality. -/
def QualityAttribution.add (entry : QualityAttribution)
    (ev : GrowthEvidence) : QualityAttribution :=
  { quality := ev.evidenceQuality
    incrementalFans := addReading entry.incrementalFans ev.observedIncrementalFans
    observations := entry.observations + 1 }

def TemplateAttribution.withMeans : TemplateAttribution :=
  if 0 < entry.observations then
    { entry with
      meanObservedFans := entry.observedFans / entry.observations.toNat
      meanIncrementalFans := entry.incrementalFans / entry.observations.toNat }
  else
    entry

def StrategyAttribution.withMeans
    (entry : StrategyAttribution) : StrategyAttribution :=
  if 0 < entry.observations then
    { entry with
      meanIncrementalFans := entry.incrementalFans / entry.observations.toNat }
  else
    entry

/-! The means are written beside what was added up. -/

namespace TemplateAttribution

@[simp] theorem templateId_withMeans (entry : TemplateAttribution) :
    entry.withMeans.templateId = entry.templateId := by
  unfold withMeans
  split <;> rfl

@[simp] theorem observedFans_withMeans (entry : TemplateAttribution) :
    entry.withMeans.observedFans = entry.observedFans := by
  unfold withMeans
  split <;> rfl

@[simp] theorem incrementalFans_withMeans (entry : TemplateAttribution) :
    entry.withMeans.incrementalFans = entry.incrementalFans := by
  unfold withMeans
  split <;> rfl

@[simp] theorem durableFans_withMeans (entry : TemplateAttribution) :
    entry.withMeans.durableFans = entry.durableFans := by
  unfold withMeans
  split <;> rfl

@[simp] theorem observations_withMeans (entry : TemplateAttribution) :
    entry.withMeans.observations = entry.observations := by
  unfold withMeans
  split <;> rfl

end TemplateAttribution

namespace StrategyAttribution

@[simp] theorem strategy_withMeans (entry : StrategyAttribution) :
    entry.withMeans.strategy = entry.strategy := by
  unfold withMeans
  split <;> rfl

@[simp] theorem observedFans_withMeans (entry : StrategyAttribution) :
    entry.withMeans.observedFans = entry.observedFans := by
  unfold withMeans
  split <;> rfl

@[simp] theorem incrementalFans_withMeans (entry : StrategyAttribution) :
    entry.withMeans.incrementalFans = entry.incrementalFans := by
  unfold withMeans
  split <;> rfl

@[simp] theorem observations_withMeans (entry : StrategyAttribution) :
    entry.withMeans.observations = entry.observations := by
  unfold withMeans
  split <;> rfl

end StrategyAttribution

/-- What the loop over the evidence carries. -/
structure AttributionTally where
  byTemplate : AList fun _ : String => TemplateAttribution
  byStrategy : AList fun _ : String => StrategyAttribution
  byQuality : AList fun _ : EvidenceQuality => QualityAttribution
  totalObserved : ℚ
  totalIncremental : ℚ
  totalDurable : ℚ
  resolvedCount : UInt32
  partialCount : UInt32

namespace AttributionTally

def start : AttributionTally where
  byTemplate := ∅
  byStrategy := ∅
  byQuality := ∅
  totalObserved := 0
  totalIncremental := 0
  totalDurable := 0
  resolvedCount := 0
  partialCount := 0

/-- One turn of the loop. -/
def attributeRow (tally : AttributionTally)
    (ev : GrowthEvidence) : AttributionTally :=
  -- a workspace-window row would add the same arrivals once per dispatch
  if !ev.outcomeBasis.teachesPerAction then
    tally
  else if !ev.hasOutcome then
    tally
  else
    { byTemplate :=
        record GrowthEvidence.templateId TemplateAttribution.add tally.byTemplate ev
      byStrategy := record GrowthEvidence.strategyKey StrategyAttribution.add tally.byStrategy ev
      byQuality := record GrowthEvidence.evidenceQuality QualityAttribution.add tally.byQuality ev
      totalObserved := addReading tally.totalObserved ev.observedFans
      totalIncremental := addReading tally.totalIncremental ev.observedIncrementalFans
      totalDurable := addReading tally.totalDurable ev.y30Outcome
      resolvedCount :=
        if ev.resolvedAt.isSome then tally.resolvedCount + 1 else tally.resolvedCount
      partialCount :=
        if ev.resolvedAt.isSome then
          tally.partialCount
        else if 0 < ev.partialResolutionCount then
          tally.partialCount + 1
        else
          tally.partialCount }

end AttributionTally

structure MapOrders where
  template : IterationOrder TemplateAttribution
  strategy : IterationOrder StrategyAttribution
  quality : IterationOrder QualityAttribution

def attributeFanGrowth (orders : MapOrders)
    (evidence : List GrowthEvidence) : FanGrowthAttribution :=
  let tally := evidence.foldl AttributionTally.attributeRow AttributionTally.start
  let byTemplate := orders.template.walk (values tally.byTemplate)
  let byStrategy := orders.strategy.walk (values tally.byStrategy)
  let byQuality := orders.quality.walk (values tally.byQuality)
  { totalObservedFans := tally.totalObserved
    totalIncrementalFans := tally.totalIncremental
    totalDurableFans := tally.totalDurable
    resolvedObservations := tally.resolvedCount
    partialObservations := tally.partialCount
    byTemplate :=
      descending TemplateAttribution.incrementalFans (byTemplate.map TemplateAttribution.withMeans)
    byStrategy :=
      descending StrategyAttribution.incrementalFans (byStrategy.map StrategyAttribution.withMeans)
    byQuality := descending (fun entry => entry.quality.rank) byQuality }

end CrowdRelay
