import CrowdRelay.Attribution

namespace CrowdRelay

open Grouping StableRanking GroupedRanking

/-!
# What attribution conserves, and when it forgets the order

The loop reads the measured rows only.  Every breakdown therefore adds up to
the totals, and its counters to the number of measured rows while they do not
wrap.  The attribution is a function of the rows alone, free of their order
and of the orders of the maps, exactly when no two templates and no two
strategies were measured at the same incremental fans.
-/

/-- The rows that teach per action and carry an outcome. -/
def measured (evidence : List GrowthEvidence) : List GrowthEvidence :=
  evidence.filter fun ev =>
    ev.outcomeBasis.teachesPerAction && ev.hasOutcome

theorem addReading_eq (total : ℚ) (reading : Option ℚ) :
    addReading total reading = total + reading.getD 0 := by
  cases reading with
  | none => exact (add_zero total).symm
  | some reading => rfl

section Loop

variable {Part : Type} {part : AttributionTally → Part} {step : Part → GrowthEvidence → Part}

/-- A part of the tally that every measured row changes by a step. -/
def StepsBy (part : AttributionTally → Part)
    (step : Part → GrowthEvidence → Part) : Prop :=
  ∀ tally ev,
    ev.outcomeBasis.teachesPerAction = true →
    ev.hasOutcome = true → part (tally.attributeRow ev) = step (part tally) ev

theorem part_foldl_attributeRow (steps : StepsBy part step)
    (evidence : List GrowthEvidence) (tally : AttributionTally) :
    part (evidence.foldl AttributionTally.attributeRow tally) =
      (measured evidence).foldl step (part tally) := by
  induction evidence generalizing tally with
  | nil => rfl
  | cons ev rest inductionHypothesis =>
    rw [List.foldl_cons, inductionHypothesis]
    unfold measured
    by_cases teaches : ev.outcomeBasis.teachesPerAction = true
    · by_cases outcome : ev.hasOutcome = true
      · rw [List.filter_cons_of_pos (by simp [teaches, outcome]),
          List.foldl_cons, steps tally ev teaches outcome]
      · rw [List.filter_cons_of_neg (by simp [outcome])]
        simp [AttributionTally.attributeRow, outcome]
    · rw [List.filter_cons_of_neg (by simp [teaches])]
      simp [AttributionTally.attributeRow, teaches]

end Loop

theorem byTemplate_steps :
    StepsBy AttributionTally.byTemplate
      (record GrowthEvidence.templateId TemplateAttribution.add) := by
  intro tally ev teaches outcome
  simp [AttributionTally.attributeRow, teaches, outcome]

theorem byStrategy_steps :
    StepsBy AttributionTally.byStrategy
      (record GrowthEvidence.strategyKey StrategyAttribution.add) := by
  intro tally ev teaches outcome
  simp [AttributionTally.attributeRow, teaches, outcome]

theorem byQuality_steps :
    StepsBy AttributionTally.byQuality
      (record GrowthEvidence.evidenceQuality QualityAttribution.add) := by
  intro tally ev teaches outcome
  simp [AttributionTally.attributeRow, teaches, outcome]

theorem totalObserved_steps :
    StepsBy AttributionTally.totalObserved fun total ev =>
      addReading total ev.observedFans := by
  intro tally ev teaches outcome
  simp [AttributionTally.attributeRow, teaches, outcome]

theorem totalIncremental_steps :
    StepsBy AttributionTally.totalIncremental fun total ev =>
      addReading total ev.observedIncrementalFans := by
  intro tally ev teaches outcome
  simp [AttributionTally.attributeRow, teaches, outcome]

theorem totalDurable_steps :
    StepsBy AttributionTally.totalDurable fun total ev =>
      addReading total ev.y30Outcome := by
  intro tally ev teaches outcome
  simp [AttributionTally.attributeRow, teaches, outcome]

theorem resolvedCount_steps :
    StepsBy AttributionTally.resolvedCount fun count ev =>
      if ev.resolvedAt.isSome then count + 1 else count := by
  intro tally ev teaches outcome
  simp [AttributionTally.attributeRow, teaches, outcome]

theorem partialCount_steps :
    StepsBy AttributionTally.partialCount fun count ev =>
      if ev.isPartial then count + 1 else count := by
  intro tally ev teaches outcome
  cases resolved : ev.resolvedAt <;>
    simp [AttributionTally.attributeRow, GrowthEvidence.isPartial, teaches, outcome, resolved]

section Breakdowns

variable (orders : MapOrders) (evidence : List GrowthEvidence)

theorem byTemplate_eq :
    (attributeFanGrowth orders evidence).byTemplate =
      breakdown GrowthEvidence.templateId TemplateAttribution.add
        TemplateAttribution.withMeans TemplateAttribution.incrementalFans
        orders.template (measured evidence) := by
  have loop := part_foldl_attributeRow byTemplate_steps evidence AttributionTally.start
  unfold attributeFanGrowth breakdown group
  simp only [loop]
  rfl

theorem byStrategy_eq :
    (attributeFanGrowth orders evidence).byStrategy =
      breakdown GrowthEvidence.strategyKey StrategyAttribution.add
        StrategyAttribution.withMeans StrategyAttribution.incrementalFans
        orders.strategy (measured evidence) := by
  have loop := part_foldl_attributeRow byStrategy_steps evidence AttributionTally.start
  unfold attributeFanGrowth breakdown group
  simp only [loop]
  rfl

theorem byQuality_eq :
    (attributeFanGrowth orders evidence).byQuality =
      breakdown GrowthEvidence.evidenceQuality QualityAttribution.add id
        (fun entry => entry.quality.rank) orders.quality
        (measured evidence) := by
  have loop := part_foldl_attributeRow byQuality_steps evidence AttributionTally.start
  unfold attributeFanGrowth breakdown group
  simp only [loop, List.map_id]
  rfl

theorem total_foldl_attributeRow {total : AttributionTally → ℚ}
    {reading : GrowthEvidence → Option ℚ}
    (steps : StepsBy total fun sum ev => addReading sum (reading ev))
    (empty : total AttributionTally.start = 0) (evidence : List GrowthEvidence) :
    total (evidence.foldl AttributionTally.attributeRow .start) =
      ((measured evidence).map fun ev => (reading ev).getD 0).sum := by
  have adds (sum : ℚ) (ev : GrowthEvidence) :
      id (addReading sum (reading ev)) = id sum + (reading ev).getD 0 :=
    addReading_eq sum (reading ev)
  have loop := part_foldl_attributeRow steps evidence AttributionTally.start
  have summed := read_foldl_add adds (measured evidence) 0
  rw [loop, empty]
  exact summed.trans (zero_add _)

theorem totalObservedFans_eq :
    (attributeFanGrowth orders evidence).totalObservedFans =
      ((measured evidence).map fun ev => ev.observedFans.getD 0).sum :=
  total_foldl_attributeRow totalObserved_steps rfl evidence

theorem totalIncrementalFans_eq :
    (attributeFanGrowth orders evidence).totalIncrementalFans =
      ((measured evidence).map fun ev =>
        ev.observedIncrementalFans.getD 0).sum :=
  total_foldl_attributeRow totalIncremental_steps rfl evidence

theorem totalDurableFans_eq :
    (attributeFanGrowth orders evidence).totalDurableFans =
      ((measured evidence).map fun ev => ev.y30Outcome.getD 0).sum :=
  total_foldl_attributeRow totalDurable_steps rfl evidence

end Breakdowns

/-- The breakdowns add up to what was measured. -/
structure Conserves
    (evidence : List GrowthEvidence)
    (result : FanGrowthAttribution) : Prop where
  incrementalByTemplate :
    (result.byTemplate.map TemplateAttribution.incrementalFans).sum =
      result.totalIncrementalFans
  incrementalByStrategy :
    (result.byStrategy.map StrategyAttribution.incrementalFans).sum =
      result.totalIncrementalFans
  incrementalByQuality :
    (result.byQuality.map QualityAttribution.incrementalFans).sum =
      result.totalIncrementalFans
  observedByTemplate :
    (result.byTemplate.map TemplateAttribution.observedFans).sum =
      result.totalObservedFans
  observedByStrategy :
    (result.byStrategy.map StrategyAttribution.observedFans).sum =
      result.totalObservedFans
  durableByTemplate :
    (result.byTemplate.map TemplateAttribution.durableFans).sum =
      result.totalDurableFans
  observationsByTemplate :
    (result.byTemplate.map fun entry => entry.observations.toNat).sum =
      (measured evidence).length
  observationsByStrategy :
    (result.byStrategy.map fun entry => entry.observations.toNat).sum =
      (measured evidence).length
  observationsByQuality :
    (result.byQuality.map fun entry => entry.observations.toNat).sum =
      (measured evidence).length

/-- No group has more measured rows than its counter can count. -/
structure CountersSuffice (evidence : List GrowthEvidence) : Prop where
  template : CountersHold GrowthEvidence.templateId (measured evidence)
  strategy : CountersHold GrowthEvidence.strategyKey (measured evidence)
  quality : CountersHold GrowthEvidence.evidenceQuality (measured evidence)

section Conservation

variable (orders : MapOrders) (evidence : List GrowthEvidence)

theorem observationsByTemplate_iff :
    ((attributeFanGrowth orders evidence).byTemplate.map fun entry =>
          entry.observations.toNat).sum = (measured evidence).length ↔
      CountersHold GrowthEvidence.templateId (measured evidence) := by
  rw [byTemplate_eq]
  exact sum_counts_eq_iff TemplateAttribution.observations_withMeans rfl
    (fun _ _ => rfl) orders.template (measured evidence)

theorem observationsByStrategy_iff :
    ((attributeFanGrowth orders evidence).byStrategy.map fun entry =>
          entry.observations.toNat).sum = (measured evidence).length ↔
      CountersHold GrowthEvidence.strategyKey (measured evidence) := by
  rw [byStrategy_eq]
  exact sum_counts_eq_iff StrategyAttribution.observations_withMeans rfl
    (fun _ _ => rfl) orders.strategy (measured evidence)

theorem observationsByQuality_iff :
    ((attributeFanGrowth orders evidence).byQuality.map fun entry =>
          entry.observations.toNat).sum = (measured evidence).length ↔
      CountersHold GrowthEvidence.evidenceQuality (measured evidence) := by
  have kept (entry : QualityAttribution) : (id entry).observations = entry.observations := rfl
  rw [byQuality_eq]
  exact sum_counts_eq_iff kept rfl (fun _ _ => rfl) orders.quality (measured evidence)

/-- Fans are always conserved, observations while no counter wraps. -/
theorem conserves_iff :
    Conserves evidence (attributeFanGrowth orders evidence) ↔ CountersSuffice evidence := by
  constructor
  · intro conserved
    exact
      { template :=
          (observationsByTemplate_iff orders evidence).mp conserved.observationsByTemplate
        strategy := (observationsByStrategy_iff orders evidence).mp conserved.observationsByStrategy
        quality := (observationsByQuality_iff orders evidence).mp conserved.observationsByQuality }
  · intro counted
    constructor
    case incrementalByTemplate =>
      rw [byTemplate_eq, totalIncrementalFans_eq]
      exact sum_breakdown TemplateAttribution.incrementalFans_withMeans rfl
        (fun _ _ => addReading_eq _ _) orders.template _
    case incrementalByStrategy =>
      rw [byStrategy_eq, totalIncrementalFans_eq]
      exact sum_breakdown StrategyAttribution.incrementalFans_withMeans rfl
        (fun _ _ => addReading_eq _ _) orders.strategy _
    case incrementalByQuality =>
      rw [byQuality_eq, totalIncrementalFans_eq]
      exact sum_breakdown (fun _ => rfl) rfl (fun _ _ => addReading_eq _ _) orders.quality _
    case observedByTemplate =>
      rw [byTemplate_eq, totalObservedFans_eq]
      exact sum_breakdown TemplateAttribution.observedFans_withMeans rfl
        (fun _ _ => addReading_eq _ _) orders.template _
    case observedByStrategy =>
      rw [byStrategy_eq, totalObservedFans_eq]
      exact sum_breakdown StrategyAttribution.observedFans_withMeans rfl
        (fun _ _ => addReading_eq _ _) orders.strategy _
    case durableByTemplate =>
      rw [byTemplate_eq, totalDurableFans_eq]
      exact sum_breakdown TemplateAttribution.durableFans_withMeans rfl
        (fun _ _ => addReading_eq _ _) orders.template _
    case observationsByTemplate =>
      exact (observationsByTemplate_iff orders evidence).mpr counted.template
    case observationsByStrategy =>
      exact (observationsByStrategy_iff orders evidence).mpr counted.strategy
    case observationsByQuality =>
      exact (observationsByQuality_iff orders evidence).mpr counted.quality

end Conservation

/-! ## The order of the rows -/

section Commuting

variable (one other : GrowthEvidence)

theorem addReading_right_comm (total : ℚ) (one other : Option ℚ) :
    addReading (addReading total one) other = addReading (addReading total other) one := by
  simp only [addReading_eq]
  exact add_right_comm total _ _

theorem strongest_right_comm (best one other : EvidenceQuality) :
    (let first := if best.rank < one.rank then one else best
      if first.rank < other.rank then other else first) =
      (let first := if best.rank < other.rank then other else best
        if first.rank < one.rank then one else first) := by
  apply EvidenceQuality.rank_injective
  simp only [apply_ite EvidenceQuality.rank]
  split_ifs <;> omega

theorem TemplateAttribution.add_commutes
    (sameTemplate : one.templateId = other.templateId) (entry : TemplateAttribution) :
    (entry.add one).add other = (entry.add other).add one := by
  apply TemplateAttribution.ext
  case templateId => exact sameTemplate.symm
  case observedFans => exact addReading_right_comm _ _ _
  case incrementalFans => exact addReading_right_comm _ _ _
  case durableFans => exact addReading_right_comm _ _ _
  case bestQuality => exact strongest_right_comm _ _ _
  all_goals rfl

theorem StrategyAttribution.add_commutes
    (sameStrategy : one.strategyKey = other.strategyKey) (entry : StrategyAttribution) :
    (entry.add one).add other = (entry.add other).add one := by
  apply StrategyAttribution.ext
  case strategy => exact sameStrategy.symm
  case observedFans => exact addReading_right_comm _ _ _
  case incrementalFans => exact addReading_right_comm _ _ _
  all_goals rfl

theorem QualityAttribution.add_commutes (sameQuality : one.evidenceQuality = other.evidenceQuality)
    (entry : QualityAttribution) :
    (entry.add one).add other = (entry.add other).add one := by
  apply QualityAttribution.ext
  case quality => exact sameQuality.symm
  case incrementalFans => exact addReading_right_comm _ _ _
  case observations => rfl

end Commuting

section Rearranged

variable {evidence others : List GrowthEvidence}

theorem measured_perm (same : evidence.Perm others) : (measured evidence).Perm (measured others) :=
  same.filter _

theorem part_foldl_perm {Part : Type} {part : AttributionTally → Part}
    {step : Part → GrowthEvidence → Part} (steps : StepsBy part step)
    (commutes : ∀ state one other, step (step state one) other = step (step state other) one)
    (same : evidence.Perm others) :
    part (evidence.foldl AttributionTally.attributeRow .start) =
      part (others.foldl AttributionTally.attributeRow .start) := by
  rw [part_foldl_attributeRow steps, part_foldl_attributeRow steps]
  refine (measured_perm same).foldl_eq' ?_ _
  intro one _ other _ state
  exact commutes state one other

theorem total_foldl_perm {total : AttributionTally → ℚ} {reading : GrowthEvidence → Option ℚ}
    (steps : StepsBy total fun sum ev => addReading sum (reading ev))
    (same : evidence.Perm others) :
    total (evidence.foldl AttributionTally.attributeRow .start) =
      total (others.foldl AttributionTally.attributeRow .start) :=
  part_foldl_perm steps (fun _ _ _ => addReading_right_comm _ _ _) same

theorem counter_foldl_perm {counter : AttributionTally → UInt32} {counted : GrowthEvidence → Bool}
    (steps : StepsBy counter fun count ev =>
      if counted ev then count + 1 else count)
    (same : evidence.Perm others) :
    counter (evidence.foldl AttributionTally.attributeRow .start) =
      counter (others.foldl AttributionTally.attributeRow .start) := by
  refine part_foldl_perm steps ?_ same
  intro count one other
  by_cases first : counted one <;> by_cases second : counted other <;>
    simp [first, second]

end Rearranged

/-! ## Ties -/

variable (key : GrowthEvidence → String) (evidence : List GrowthEvidence)

/-- The incremental fans that were measured of a group. -/
def incrementalOf
    (name : String) : ℚ :=
  (((measured evidence).filter fun ev => decide (key ev = name)).map fun ev =>
    ev.observedIncrementalFans.getD 0).sum

/-- No two groups were measured at the same incremental fans. -/
def GroupsApart : Prop :=
  ∀ one ∈ measured evidence, ∀ other ∈ measured evidence,
    incrementalOf key evidence (key one) =
        incrementalOf key evidence (key other) →
      key one = key other

structure TieFree (evidence : List GrowthEvidence) : Prop where
  templates : GroupsApart GrowthEvidence.templateId evidence
  strategies : GroupsApart GrowthEvidence.strategyKey evidence

section Ties

variable (evidence : List GrowthEvidence)

theorem keysUntied_template_iff :
    KeysUntied GrowthEvidence.templateId TemplateAttribution.add
        TemplateAttribution.withMeans TemplateAttribution.incrementalFans
        (measured evidence) ↔
      GroupsApart GrowthEvidence.templateId evidence := by
  have measuredOf (name : String) :
      (share GrowthEvidence.templateId TemplateAttribution.add
          (measured evidence) name).withMeans.incrementalFans =
        incrementalOf GrowthEvidence.templateId evidence name :=
    (TemplateAttribution.incrementalFans_withMeans _).trans
      (read_share rfl (fun _ _ => addReading_eq _ _) _ name)
  simp only [KeysUntied, GroupsApart, measuredOf]

theorem keysUntied_strategy_iff :
    KeysUntied GrowthEvidence.strategyKey StrategyAttribution.add
        StrategyAttribution.withMeans StrategyAttribution.incrementalFans
        (measured evidence) ↔
      GroupsApart GrowthEvidence.strategyKey evidence := by
  have measuredOf (name : String) :
      (share GrowthEvidence.strategyKey StrategyAttribution.add
          (measured evidence) name).withMeans.incrementalFans =
        incrementalOf GrowthEvidence.strategyKey evidence name :=
    (StrategyAttribution.incrementalFans_withMeans _).trans
      (read_share rfl (fun _ _ => addReading_eq _ _) _ name)
  simp only [KeysUntied, GroupsApart, measuredOf]

theorem keysUntied_quality :
    KeysUntied GrowthEvidence.evidenceQuality QualityAttribution.add id
      (fun entry => entry.quality.rank) (measured evidence) := by
  intro one oneIn other otherIn tied
  have named (entry : QualityAttribution) (ev : GrowthEvidence) :
      (id (entry.add ev)).quality = ev.evidenceQuality :=
    rfl
  have same := EvidenceQuality.rank_injective tied
  rw [name_finish_share named oneIn, name_finish_share named otherIn] at same
  exact same

end Ties

/-! ## When the attribution forgets the order -/

/-- The same attribution for every order of the rows and of the maps. -/
def ForgetsOrder (evidence : List GrowthEvidence) : Prop :=
  ∀ others, evidence.Perm others → ∀ first second,
    attributeFanGrowth first evidence = attributeFanGrowth second others

section Forgetting

variable {evidence : List GrowthEvidence}

theorem forgetsOrder_of_tieFree (apart : TieFree evidence) : ForgetsOrder evidence := by
  intro others same first second
  apply FanGrowthAttribution.ext
  case totalObservedFans => exact total_foldl_perm totalObserved_steps same
  case totalIncrementalFans => exact total_foldl_perm totalIncremental_steps same
  case totalDurableFans => exact total_foldl_perm totalDurable_steps same
  case resolvedObservations => exact counter_foldl_perm resolvedCount_steps same
  case partialObservations => exact counter_foldl_perm partialCount_steps same
  case byTemplate =>
    rw [byTemplate_eq, byTemplate_eq]
    exact breakdown_eq_of_perm ((keysUntied_template_iff evidence).mpr apart.templates)
      TemplateAttribution.add_commutes (measured_perm same) _ _
  case byStrategy =>
    rw [byStrategy_eq, byStrategy_eq]
    exact breakdown_eq_of_perm ((keysUntied_strategy_iff evidence).mpr apart.strategies)
      StrategyAttribution.add_commutes (measured_perm same) _ _
  case byQuality =>
    rw [byQuality_eq, byQuality_eq]
    exact breakdown_eq_of_perm (keysUntied_quality evidence)
      QualityAttribution.add_commutes (measured_perm same) _ _

theorem tieFree_of_forgetsOrder (forgets : ForgetsOrder evidence) :
    TieFree evidence where
  templates := by
    have named (entry : TemplateAttribution) (ev : GrowthEvidence) :
        (entry.add ev).withMeans.templateId = ev.templateId :=
      TemplateAttribution.templateId_withMeans _
    refine (keysUntied_template_iff evidence).mp (keysUntied_of_eq named ?_)
    intro first second
    have same := congrArg FanGrowthAttribution.byTemplate
        (forgets evidence (List.Perm.refl evidence)
          ⟨first, default, default⟩ ⟨second, default, default⟩)
    rwa [byTemplate_eq, byTemplate_eq] at same
  strategies := by
    have named (entry : StrategyAttribution) (ev : GrowthEvidence) :
        (entry.add ev).withMeans.strategy = ev.strategyKey :=
      StrategyAttribution.strategy_withMeans _
    refine (keysUntied_strategy_iff evidence).mp (keysUntied_of_eq named ?_)
    intro first second
    have same := congrArg FanGrowthAttribution.byStrategy
        (forgets evidence (List.Perm.refl evidence)
          ⟨default, first, default⟩ ⟨default, second, default⟩)
    rwa [byStrategy_eq, byStrategy_eq] at same

end Forgetting

/--
Whatever the order of the rows and of the maps, one attribution that adds up
to what was measured: exactly when no counter wraps and no two templates and
no two strategies tie.
-/
theorem conservesAndForgets_iff (evidence : List GrowthEvidence) :
    (∀ orders, Conserves evidence (attributeFanGrowth orders evidence)) ∧
        ForgetsOrder evidence ↔
      CountersSuffice evidence ∧ TieFree evidence := by
  constructor
  · rintro ⟨conserves, forgets⟩
    have orders : MapOrders := ⟨default, default, default⟩
    exact ⟨(conserves_iff orders evidence).mp (conserves orders), tieFree_of_forgetsOrder forgets⟩
  · rintro ⟨counted, apart⟩
    exact ⟨fun orders => (conserves_iff orders evidence).mpr counted, forgetsOrder_of_tieFree apart⟩

/-- A measured row of a community, ten observed fans of which five are new. -/
def communityRow (subredditType : String) : GrowthEvidence where
  opportunityId := none
  actionId := none
  timestamp := 0
  targetKey := none
  creativeFamily := none
  treatment := .treatment
  executionStatus := none
  observedFans := some 10
  observedIncrementalFans := some 5
  observedIncrementalFans3d := none
  durableFans30d := none
  predictedFans := 0
  predictedSignalInstalls := 0
  decisionPosterior := none
  context :=
    { daysToEvent := none
      fanGrowthTrend := .steady
      subredditType := some subredditType
      postFormat := none
      timeOfDayBps := 0
      communityNoveltyBps := 0
      avgCommunityEngagementBps := 0 }
  strategy := none
  evidenceQuality := .observational
  experimentAssignmentId := none
  experimentUuid := none
  finalContamination := none
  resolvedAt := some 0
  partialResolutionCount := 0
  replayed3dAt := none
  replayed14dAt := none
  replayed30dAt := none
  observedMetrics := []
  outcomeBasis := .attributed

/-- A map that gives up its entries the other way around. -/
def reversedOrders : MapOrders where
  template := ⟨List.reverse, List.reverse_perm⟩
  strategy := default
  quality := default

/-- Two communities of five new fans each have no order of their own. -/
theorem tiedTemplates_followMap :
    ¬ ∀ evidence : List GrowthEvidence,
      (∀ orders, Conserves evidence (attributeFanGrowth orders evidence)) ∧
        ForgetsOrder evidence := by
  intro settled
  have forgets := (settled [communityRow "metal", communityRow "guitar"]).2
  have same := forgets _ (List.Perm.refl _) ⟨default, default, default⟩ reversedOrders
  have different :
      (attributeFanGrowth ⟨default, default, default⟩
          [communityRow "metal", communityRow "guitar"]).byTemplate.map
          TemplateAttribution.templateId ≠
        (attributeFanGrowth reversedOrders
          [communityRow "metal", communityRow "guitar"]).byTemplate.map
          TemplateAttribution.templateId := by
    decide +kernel
  rw [same] at different
  exact different rfl

end CrowdRelay
