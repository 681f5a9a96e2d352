import Mathlib.Algebra.BigOperators.Group.List.Basic
import Mathlib.Algebra.Field.Rat
import CrowdRelay.EvidenceReplay

namespace CrowdRelay

/-!
# The contrast, however the control arm is split

A control row is learned from where it is in the batch, and contrasts wherever
it is.  A row in both slices is one row: its assignment tells it.  What treated
rows teach therefore depends on the control rows alone, not on where they are.
-/

/-- Where a control row is handed in. -/
inductive Place where
  | batch
  | contrast
  | both
  deriving Repr, DecidableEq

/-- A batch and a contrast slice of the same rows. -/
structure Placed
    (place : GrowthEvidence → Place)
    (treated controls evidence extraContrast : List GrowthEvidence) :
    Prop where
  treatedRows :
    evidence.filter (·.treatment.isTreatment) = treated
  learned :
    (evidence.filter (!·.treatment.isTreatment)).Perm
      (controls.filter (place · ≠ .contrast))
  contrasted : extraContrast.Perm (controls.filter (place · ≠ .batch))

/-- Control rows, each with an assignment of its own. -/
structure DistinctControls (controls : List GrowthEvidence) : Prop where
  control : ∀ ev ∈ controls, ev.treatment.isTreatment = false
  assigned : ∀ ev ∈ controls, ev.experimentAssignmentId.isSome = true
  distinct : (controls.map GrowthEvidence.experimentAssignmentId).Nodup

/-- No treated row goes by the assignment of a control row. -/
def AssignedApart (treated controls : List GrowthEvidence) : Prop :=
  ∀ ev ∈ treated, ∀ control ∈ controls, ev.experimentAssignmentId ≠ control.experimentAssignmentId

theorem average_perm {first second : List ℚ} (permuted : first.Perm second) :
    average first = average second := by
  unfold average
  rw [permuted.length_eq, permuted.sum_eq]

theorem controlArm_eq_filter (evidence : List GrowthEvidence) (experiment : Uuid) :
    controlArm evidence experiment = (evidence.filter (!·.treatment.isTreatment)).filter fun ev =>
        ev.outcomeBasis.teachesPerAction && ev.experimentUuid == some experiment := by
  rw [List.filter_filter]
  refine List.filter_congr ?_
  intro ev _
  cases ev.treatment.isTreatment <;> simp

theorem controlArmMeans_congr {first second : List GrowthEvidence}
    (permuted :
      (first.filter (!·.treatment.isTreatment)).Perm (second.filter (!·.treatment.isTreatment))) :
    controlArmMeans first = controlArmMeans second := by
  funext experiment
  have arms : (controlArm first experiment).Perm (controlArm second experiment) := by
    rw [controlArm_eq_filter, controlArm_eq_filter]
    exact permuted.filter _
  simp only [controlArmMeans, average_perm (arms.filterMap _)]

section Split

variable {place : GrowthEvidence → Place}
  {treated controls evidence extraContrast : List GrowthEvidence}

theorem DistinctControls.eq_of_assignment (distinct : DistinctControls controls)
    {first second : GrowthEvidence} (firstMember : first ∈ controls)
    (secondMember : second ∈ controls)
    (same : first.experimentAssignmentId = second.experimentAssignmentId) :
    first = second :=
  List.inj_on_of_nodup_map distinct.distinct firstMember secondMember same

section

variable (placed : Placed place treated controls evidence extraContrast)
include placed

theorem Placed.seenIn_iff (distinct : DistinctControls controls)
    (apart : AssignedApart treated controls) {control : GrowthEvidence}
    (member : control ∈ controls) :
    seenIn evidence control = true ↔ place control ≠ .contrast := by
  have seen :
      seenIn evidence control = true ↔
        ∃ ev ∈ evidence, ev.experimentAssignmentId = control.experimentAssignmentId := by
    rw [seenIn, if_pos (distinct.assigned control member), List.any_eq_true]
    simp only [beq_iff_eq]
  rw [seen]
  constructor
  · rintro ⟨ev, inEvidence, same⟩
    cases isTreated : ev.treatment.isTreatment with
    | true =>
      have inTreated : ev ∈ treated := by
        rw [← placed.treatedRows]
        exact List.mem_filter.mpr ⟨inEvidence, isTreated⟩
      exact absurd same (apart ev inTreated control member)
    | false =>
      have inBatch := placed.learned.mem_iff.mp
          (List.mem_filter.mpr ⟨inEvidence, by simp [isTreated]⟩)
      obtain ⟨inControls, isPlaced⟩ := List.mem_filter.mp inBatch
      rw [distinct.eq_of_assignment inControls member same] at isPlaced
      exact of_decide_eq_true isPlaced
  · intro isPlaced
    have inBatch := placed.learned.mem_iff.mpr
        (List.mem_filter.mpr ⟨member, decide_eq_true isPlaced⟩)
    exact ⟨control, (List.mem_filter.mp inBatch).1, rfl⟩

theorem Placed.unseen_perm (distinct : DistinctControls controls)
    (apart : AssignedApart treated controls) :
    (extraContrast.filter fun extra => !seenIn evidence extra).Perm
      (controls.filter (place · = .contrast)) := by
  refine (placed.contrasted.filter _).trans ?_
  rw [List.filter_filter]
  refine List.Perm.of_eq (List.filter_congr ?_)
  intro control member
  have seen : seenIn evidence control = decide (place control ≠ .contrast) := by
    rw [Bool.eq_iff_iff, decide_eq_true_iff]
    exact placed.seenIn_iff distinct apart member
  rw [seen]
  cases place control <;> rfl

theorem Placed.controls_perm (distinct : DistinctControls controls)
    (apart : AssignedApart treated controls) :
    ((evidence ++ extraContrast.filter fun extra =>
              !seenIn evidence extra).filter
          (!·.treatment.isTreatment)).Perm
      (controls.filter (!·.treatment.isTreatment)) := by
  have all :
      ∀ rows : List GrowthEvidence, rows ⊆ controls →
        rows.filter (!·.treatment.isTreatment) = rows := by
    intro rows inControls
    refine List.filter_eq_self.mpr ?_
    intro ev member
    rw [distinct.control ev (inControls member)]
    rfl
  rw [List.filter_append, all controls (List.Subset.refl _)]
  have unseen := (placed.unseen_perm distinct apart).filter (!·.treatment.isTreatment)
  rw [all _ (List.filter_subset_self controls)] at unseen
  have both := List.filter_append_perm (place · ≠ .contrast) controls
  refine (placed.learned.append unseen).trans ?_
  simpa using both

theorem Placed.contrastMeans_eq (distinct : DistinctControls controls)
    (apart : AssignedApart treated controls) :
    contrastMeans evidence extraContrast = controlArmMeans controls :=
  controlArmMeans_congr (placed.controls_perm distinct apart)

end

end Split

/-! ## What a row teaches against its control arm -/

variable (controls : List GrowthEvidence) (horizon : GrowthEvidence → Option ℚ)
  (ev : GrowthEvidence)

def controlOutcomes : List ℚ :=
  match ev.experimentUuid with
  | some experiment =>
    (controls.filter fun control =>
        control.outcomeBasis.teachesPerAction &&
          control.experimentUuid == some experiment).filterMap
      horizon
  | none => []

/-- Their mean; nothing is taken off where there is no outcome. -/
def controlMean : ℚ :=
  (controlOutcomes controls horizon ev).sum / (controlOutcomes controls horizon ev).length

theorem average_getD (outcomes : List ℚ) :
    (average outcomes).getD 0 = outcomes.sum / outcomes.length := by
  unfold average
  cases outcomes with
  | nil => simp
  | cons first rest => simp

namespace ModelUpdate

/-- Whether an update is one of an effect, which has been contrasted. -/
def isContrasted : ModelUpdate → Bool
  | metric .. => false
  | outcomeModel .. => false
  | _ => true

/-- An update with the row's outcome less what it is measured against. -/
def ContrastedWith (y14Contrast y30Contrast : ℚ)
    (ev : GrowthEvidence) : ModelUpdate → Prop
  | treatmentEffect _ _ _ effect | familyEffect _ _ _ _ effect =>
    ∃ outcome, ev.observedIncrementalFans = some outcome ∧ effect.tau = outcome - y14Contrast
  | treatmentEffectY30 _ _ _ effect =>
    ∃ outcome, ev.y30Outcome = some outcome ∧ effect.tau = outcome - y30Contrast
  | bridge y14 y30 =>
    ∃ outcomeY14 outcomeY30,
      ev.observedIncrementalFans = some outcomeY14 ∧
        ev.y30Outcome = some outcomeY30 ∧
        y14 = outcomeY14 - y14Contrast ∧ y30 = outcomeY30 - y30Contrast
  | _ => True

end ModelUpdate

variable {checkpoint : Option OffsetDateTime}

section Teaching

variable {ev : GrowthEvidence} {means : Uuid → ControlMean}
  {controls : List GrowthEvidence} {update : ModelUpdate}

theorem contrastOf_controlArmMeans (distinct : DistinctControls controls) (ev : GrowthEvidence) :
    (contrastOf ev (controlArmMeans controls) ControlMean.y14).getD 0 =
        controlMean controls GrowthEvidence.observedIncrementalFans ev ∧
      (contrastOf ev (controlArmMeans controls) ControlMean.y30).getD 0 =
        controlMean controls GrowthEvidence.y30Outcome ev := by
  have all : controls.filter (!·.treatment.isTreatment) = controls := by
    refine List.filter_eq_self.mpr ?_
    intro control member
    rw [distinct.control control member]
    rfl
  unfold contrastOf controlMean controlOutcomes
  cases ev.experimentUuid with
  | none => simp
  | some experiment =>
    have arm := controlArm_eq_filter controls experiment
    rw [all] at arm
    simp only [Option.bind_some, controlArmMeans, average_getD, arm, and_self]

def uncontrastedUpdates (checkpoint : Option OffsetDateTime)
    (ev : GrowthEvidence) : List ModelUpdate :=
  metricUpdates checkpoint ev ++
    if ev.outcomeBasis.teachesPerAction then outcomeUpdates checkpoint ev else []

def contrastedUpdates (checkpoint : Option OffsetDateTime) (ev : GrowthEvidence)
    (means : Uuid → ControlMean) : List ModelUpdate :=
  if ev.outcomeBasis.teachesPerAction && ev.treatment.isTreatment then
    y14Updates checkpoint ev means ++ y30Updates checkpoint ev means ++
      bridgeUpdates checkpoint ev means
  else
    []

theorem replayRow_eq :
    replayRow checkpoint ev means =
      uncontrastedUpdates checkpoint ev ++ contrastedUpdates checkpoint ev means := by
  unfold replayRow uncontrastedUpdates contrastedUpdates
  cases teaches : ev.outcomeBasis.teachesPerAction <;>
    cases treated : ev.treatment.isTreatment <;>
      simp [CausalEstimand.includesInTreatmentEffect]

theorem isContrasted_of_metric (member : update ∈ metricUpdates checkpoint ev) :
    update.isContrasted = false := by
  unfold metricUpdates at member
  split at member
  · obtain ⟨entry, _, taught⟩ := List.mem_filterMap.mp member
    dsimp only at taught
    split at taught
    · cases taught
    · obtain rfl := Option.some.inj taught
      rfl
  · exact absurd member List.not_mem_nil

theorem isContrasted_of_outcome (member : update ∈ outcomeUpdates checkpoint ev) :
    update.isContrasted = false := by
  unfold outcomeUpdates at member
  dsimp only at member
  split at member
  · cases observed : ev.observedFans with
    | none =>
      rw [observed] at member
      exact absurd member List.not_mem_nil
    | some rawFans =>
      rw [observed] at member
      rw [List.mem_singleton.mp member]
      rfl
  · exact absurd member List.not_mem_nil

theorem isContrasted_of_uncontrasted (member : update ∈ uncontrastedUpdates checkpoint ev) :
    update.isContrasted = false := by
  rcases List.mem_append.mp member with ofMetrics | ofOutcome
  · exact isContrasted_of_metric ofMetrics
  · split at ofOutcome
    · exact isContrasted_of_outcome ofOutcome
    · exact absurd ofOutcome List.not_mem_nil

/-- An update of an effect, of the row's outcome less its contrast. -/
structure IsContrast
    (ev : GrowthEvidence)
    (means : Uuid → ControlMean)
    (update : ModelUpdate) : Prop where
  isContrasted : update.isContrasted = true
  contrasted :
    update.ContrastedWith
      ((contrastOf ev means ControlMean.y14).getD 0)
      ((contrastOf ev means ControlMean.y30).getD 0) ev

theorem isContrast_of_y14 (member : update ∈ y14Updates checkpoint ev means) :
    IsContrast ev means update := by
  unfold y14Updates at member
  dsimp only at member
  split at member
  · cases observed : ev.observedIncrementalFans with
    | none =>
      rw [observed] at member
      exact absurd member List.not_mem_nil
    | some outcome =>
      rw [observed] at member
      rcases List.mem_append.mp member with effects | calibrated
      · rcases List.mem_append.mp effects with ofTemplate | ofFamily
        · rw [List.mem_singleton.mp ofTemplate]
          exact ⟨rfl, outcome, observed, rfl⟩
        · cases family : ev.creativeFamily with
          | none =>
            rw [family] at ofFamily
            exact absurd ofFamily List.not_mem_nil
          | some own =>
            rw [family] at ofFamily
            rw [List.mem_singleton.mp ofFamily]
            exact ⟨rfl, outcome, observed, rfl⟩
      · rw [List.mem_singleton.mp calibrated]
        exact ⟨rfl, trivial⟩
  · exact absurd member List.not_mem_nil

theorem isContrast_of_y30 (member : update ∈ y30Updates checkpoint ev means) :
    IsContrast ev means update := by
  unfold y30Updates at member
  dsimp only at member
  split at member
  · cases observed : ev.y30Outcome with
    | none =>
      rw [observed] at member
      exact absurd member List.not_mem_nil
    | some outcome =>
      rw [observed] at member
      rcases List.mem_append.mp member with effects | interval
      · rcases List.mem_cons.mp effects with rfl | calibrated
        · exact ⟨rfl, outcome, observed, rfl⟩
        · rw [List.mem_singleton.mp calibrated]
          exact ⟨rfl, trivial⟩
      · cases decided : ev.decisionPosterior with
        | none =>
          rw [decided] at interval
          exact absurd interval List.not_mem_nil
        | some posterior =>
          rw [decided] at interval
          rw [List.mem_singleton.mp interval]
          exact ⟨rfl, trivial⟩
  · exact absurd member List.not_mem_nil

theorem isContrast_of_bridge (member : update ∈ bridgeUpdates checkpoint ev means) :
    IsContrast ev means update := by
  unfold bridgeUpdates at member
  dsimp only at member
  split at member
  · cases observedY14 : ev.observedIncrementalFans with
    | none =>
      rw [observedY14] at member
      exact absurd member List.not_mem_nil
    | some y14 =>
      cases observedY30 : ev.y30Outcome with
      | none =>
        rw [observedY14, observedY30] at member
        exact absurd member List.not_mem_nil
      | some y30 =>
        rw [observedY14, observedY30] at member
        dsimp only at member
        split at member
        · rw [List.mem_singleton.mp member]
          exact ⟨rfl, y14, y30, observedY14, observedY30, rfl, rfl⟩
        · exact absurd member List.not_mem_nil
  · exact absurd member List.not_mem_nil

theorem isContrast_of_contrasted (member : update ∈ contrastedUpdates checkpoint ev means) :
    IsContrast ev means update := by
  unfold contrastedUpdates at member
  split at member
  · rcases List.mem_append.mp member with ofHorizons | ofBridge
    · rcases List.mem_append.mp ofHorizons with ofY14 | ofY30
      · exact isContrast_of_y14 ofY14
      · exact isContrast_of_y30 ofY30
    · exact isContrast_of_bridge ofBridge
  · exact absurd member List.not_mem_nil

/-- Without the effects, a row teaches the same whatever it is contrasted
with. -/
theorem filter_replayRow :
    (replayRow checkpoint ev means).filter (!·.isContrasted) =
      uncontrastedUpdates checkpoint ev := by
  have kept :
      (uncontrastedUpdates checkpoint ev).filter (!·.isContrasted) =
        uncontrastedUpdates checkpoint ev := by
    refine List.filter_eq_self.mpr ?_
    intro update member
    rw [isContrasted_of_uncontrasted member]
    rfl
  have dropped : (contrastedUpdates checkpoint ev means).filter (!·.isContrasted) = [] := by
    refine List.filter_eq_nil_iff.mpr ?_
    intro update member
    rw [(isContrast_of_contrasted member).isContrasted]
    decide
  rw [replayRow_eq, List.filter_append, kept, dropped, List.append_nil]

end Teaching

/-! ## Two runs over the same rows -/

def RowReplay.uncontrasted
    (replayed : RowReplay) : GrowthEvidence × List ModelUpdate :=
  (replayed.row, replayed.updates.filter (!·.isContrasted))

/-- What the treated rows of a run taught. -/
def treatedReplays (replays : List RowReplay) : List RowReplay :=
  replays.filter (·.row.treatment.isTreatment)

structure ContrastsControls
    (checkpoint : Option OffsetDateTime)
    (treated controls evidence extraContrast : List GrowthEvidence) :
    Prop where
  effects :
    treatedReplays
        (applyEvidenceToModelWithContrast evidence extraContrast
          checkpoint) =
      treated.map fun ev =>
        ⟨ev, replayRow checkpoint ev (controlArmMeans controls)⟩
  contrasted :
    ∀ replayed ∈
        applyEvidenceToModelWithContrast evidence extraContrast checkpoint,
      ∀ update ∈ replayed.updates,
        update.ContrastedWith
          (controlMean controls GrowthEvidence.observedIncrementalFans
            replayed.row)
          (controlMean controls GrowthEvidence.y30Outcome replayed.row)
          replayed.row
  controlsTeachNoEffect :
    ∀ replayed ∈
        applyEvidenceToModelWithContrast evidence extraContrast checkpoint,
      replayed.row.treatment.isTreatment = false →
        ∀ update ∈ replayed.updates, update.isContrasted = false
  rows :
    (applyEvidenceToModelWithContrast evidence extraContrast
        checkpoint).map RowReplay.row =
      evidence
  learned :
    (applyEvidenceToModelWithContrast evidence extraContrast
        checkpoint).map RowReplay.uncontrasted =
      (applyEvidenceToModelWithContrast evidence []
        checkpoint).map RowReplay.uncontrasted

section Runs

variable {place otherPlace : GrowthEvidence → Place} {treated controls : List GrowthEvidence}
  {evidence extraContrast otherEvidence otherContrast : List GrowthEvidence}

theorem mem_replays {replayed : RowReplay}
    (member : replayed ∈ applyEvidenceToModelWithContrast evidence extraContrast checkpoint) :
    replayed.row ∈ evidence ∧
      replayed.updates =
        replayRow checkpoint replayed.row (contrastMeans evidence extraContrast) := by
  obtain ⟨ev, inEvidence, rfl⟩ := List.mem_map.mp member
  exact ⟨inEvidence, rfl⟩

theorem treatedReplays_apply (checkpoint : Option OffsetDateTime)
    (evidence extraContrast : List GrowthEvidence) :
    treatedReplays (applyEvidenceToModelWithContrast evidence extraContrast checkpoint) =
      (evidence.filter (·.treatment.isTreatment)).map fun ev =>
        ⟨ev, replayRow checkpoint ev (contrastMeans evidence extraContrast)⟩ := by
  unfold treatedReplays applyEvidenceToModelWithContrast
  rw [List.filter_map]
  rfl

theorem uncontrasted_apply (checkpoint : Option OffsetDateTime)
    (evidence extraContrast : List GrowthEvidence) :
    (applyEvidenceToModelWithContrast evidence extraContrast
        checkpoint).map RowReplay.uncontrasted =
      evidence.map fun ev => (ev, uncontrastedUpdates checkpoint ev) := by
  unfold applyEvidenceToModelWithContrast
  rw [List.map_map]
  refine List.map_congr_left ?_
  intro ev _
  exact congrArg (Prod.mk ev) filter_replayRow

theorem Placed.contrastsControls (placed : Placed place treated controls evidence extraContrast)
    (distinct : DistinctControls controls) (apart : AssignedApart treated controls) :
    ContrastsControls checkpoint treated controls evidence extraContrast where
  effects := by
    rw [treatedReplays_apply, placed.treatedRows, placed.contrastMeans_eq distinct apart]
  contrasted := by
    intro replayed member update ofRow
    obtain ⟨_, isReplay⟩ := mem_replays member
    rw [isReplay, placed.contrastMeans_eq distinct apart, replayRow_eq] at ofRow
    rcases List.mem_append.mp ofRow with uncontrasted | contrasted
    · have none := isContrasted_of_uncontrasted uncontrasted
      cases update with
      | metric => trivial
      | outcomeModel => trivial
      | treatmentEffect => cases none
      | familyEffect => cases none
      | treatmentEffectY30 => cases none
      | calibration => cases none
      | y30Interval => cases none
      | bridge => cases none
    · have contrast := (isContrast_of_contrasted contrasted).contrasted
      obtain ⟨y14, y30⟩ := contrastOf_controlArmMeans distinct replayed.row
      rwa [y14, y30] at contrast
  controlsTeachNoEffect := by
    intro replayed member isControl update ofRow
    obtain ⟨_, isReplay⟩ := mem_replays member
    rw [isReplay, replayRow_eq] at ofRow
    rcases List.mem_append.mp ofRow with uncontrasted | contrasted
    · exact isContrasted_of_uncontrasted uncontrasted
    · rw [contrastedUpdates, isControl, Bool.and_false, if_neg (by decide)]
        at contrasted
      exact absurd contrasted List.not_mem_nil
  rows := by
    rw [applyEvidenceToModelWithContrast, List.map_map]
    exact List.map_id _
  learned := by
    rw [uncontrasted_apply, uncontrasted_apply]

/--
Two runs over the same rows teach the same effects, each the row's outcome less
the mean of its own control arm, however the control rows are split; and what
is not an effect is learned of the batch alone.
-/
theorem sameEffects_of_placed
    (distinct : DistinctControls controls)
    (apart : AssignedApart treated controls)
    (placed : Placed place treated controls evidence extraContrast)
    (otherPlaced :
      Placed otherPlace treated controls otherEvidence otherContrast) :
    treatedReplays
        (applyEvidenceToModelWithContrast evidence extraContrast
          checkpoint) =
        treatedReplays
          (applyEvidenceToModelWithContrast otherEvidence otherContrast
            checkpoint) ∧
      ContrastsControls checkpoint treated controls evidence
        extraContrast := by
  have contrasts := @Placed.contrastsControls checkpoint _ _ _ _ _ placed distinct apart
  have otherContrasts := @Placed.contrastsControls checkpoint _ _ _ _ _ otherPlaced distinct apart
  exact ⟨contrasts.effects.trans otherContrasts.effects.symm, contrasts⟩

end Runs

/-! ## One treated row and one control row -/

def experimentRow (arm : TreatmentAssignment) (assignment : String)
    (fans : ℚ) : GrowthEvidence where
  opportunityId := some "community-engager:target:post:ctx"
  actionId := none
  timestamp := 0
  targetKey := none
  creativeFamily := none
  treatment := arm
  executionStatus := none
  observedFans := some fans
  observedIncrementalFans := some fans
  observedIncrementalFans3d := none
  durableFans30d := some (2 * fans)
  predictedFans := 2
  predictedSignalInstalls := 0
  decisionPosterior := none
  context :=
    { daysToEvent := none
      fanGrowthTrend := .steady
      subredditType := none
      postFormat := none
      timeOfDayBps := 0
      communityNoveltyBps := 0
      avgCommunityEngagementBps := 0 }
  strategy := none
  evidenceQuality := .randomizedHoldout
  experimentAssignmentId := some assignment
  experimentUuid := some 3
  finalContamination := some 0
  resolvedAt := some 0
  partialResolutionCount := 0
  replayed3dAt := none
  replayed14dAt := none
  replayed30dAt := none
  observedMetrics := []
  outcomeBasis := .attributed

/-- A control row that comes with the batch, or in the contrast slice. -/
theorem earlierControl_sameEffects :
    treatedReplays
        (applyEvidenceToModelWithContrast
          [experimentRow .control "assignment-control" 1,
            experimentRow .treatment "assignment-treated" 4]
          [] none) =
        treatedReplays
          (applyEvidenceToModelWithContrast
            [experimentRow .treatment "assignment-treated" 4]
            [experimentRow .control "assignment-control" 1] none) ∧
      ContrastsControls none
        [experimentRow .treatment "assignment-treated" 4]
        [experimentRow .control "assignment-control" 1]
        [experimentRow .control "assignment-control" 1,
          experimentRow .treatment "assignment-treated" 4]
        [] :=
  @sameEffects_of_placed none (fun _ => .batch) (fun _ => .contrast)
    [experimentRow .treatment "assignment-treated" 4]
    [experimentRow .control "assignment-control" 1] _ _ _ _
    { control := by decide
      assigned := by decide
      distinct := by decide }
    (by
      intro ev inTreated control inControls
      rw [List.mem_singleton.mp inTreated, List.mem_singleton.mp inControls]
      decide)
    { treatedRows := rfl
      learned := .refl _
      contrasted := .refl _ }
    { treatedRows := rfl
      learned := .refl _
      contrasted := .refl _ }

/-- A treated row that goes by the assignment of a control row hides it. -/
theorem sharedAssignment_losesContrast :
    ¬ ∀ (checkpoint : Option OffsetDateTime)
        (place otherPlace : GrowthEvidence → Place)
        (treated controls evidence extraContrast otherEvidence
          otherContrast : List GrowthEvidence),
        DistinctControls controls →
          Placed place treated controls evidence extraContrast →
            Placed otherPlace treated controls otherEvidence
                otherContrast →
              treatedReplays
                  (applyEvidenceToModelWithContrast evidence extraContrast
                    checkpoint) =
                treatedReplays
                  (applyEvidenceToModelWithContrast otherEvidence
                    otherContrast checkpoint) := by
  intro same
  have effects := same none (fun _ => .batch) (fun _ => .contrast)
      [experimentRow .treatment "assignment" 4]
      [experimentRow .control "assignment" 1]
      [experimentRow .control "assignment" 1, experimentRow .treatment "assignment" 4]
      []
      [experimentRow .treatment "assignment" 4]
      [experimentRow .control "assignment" 1]
      { control := by decide
        assigned := by decide
        distinct := by decide }
      { treatedRows := rfl
        learned := .refl _
        contrasted := .refl _ }
      { treatedRows := rfl
        learned := .refl _
        contrasted := .refl _ }
  exact absurd effects (by decide +kernel)

end CrowdRelay
