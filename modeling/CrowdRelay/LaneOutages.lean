import CrowdRelay.ContentSupply

namespace CrowdRelay

open MachineInt Ranged

/-!
# Lanes that are down, and their probes

The streak of a lane's failures makes an outage.  The loader holds a lane that
is down for every source but one, which finds out whether the lane is back.
-/

structure ArtifactOutcome where
  artifact : String
  status : String
  errorKind : Option String
  finishedAt : OffsetDateTime
  deriving Repr, DecidableEq

structure LaneStreak where
  artifact : String
  count : U32
  lastFailedAt : OffsetDateTime
  deriving Repr, DecidableEq

def parseArtifact : String → Option ContentArtifactKind
  | "signal_push" => some .signalPush
  | "newsletter_block" => some .newsletterBlock
  | "social_feed" => some .socialFeed
  | "social_story" => some .socialStory
  | "live_listing" => some .liveListing
  | "press_hook" => some .pressHook
  | "post_show_recap" => some .postShowRecap
  | _ => none

def raiseStreak (outcome : ArtifactOutcome) :
    List LaneStreak → List LaneStreak
  | [] => [⟨outcome.artifact, 1, outcome.finishedAt⟩]
  | streak :: rest =>
    if streak.artifact = outcome.artifact then
      { streak with count := wrap (streak.count.val + 1) } :: rest
    else
      streak :: raiseStreak outcome rest

/-- The streaks found so far, and the artifacts whose streak has ended. -/
structure StreakScan where
  streaks : List LaneStreak
  closed : List String
  deriving Repr, DecidableEq

def StreakScan.read (scan : StreakScan)
    (outcome : ArtifactOutcome) : StreakScan :=
  if scan.closed.contains outcome.artifact then
    scan
  else if outcome.status = "failed" && outcome.errorKind.any isLaneFailure then
    { scan with streaks := raiseStreak outcome scan.streaks }
  else
    { scan with closed := scan.closed ++ [outcome.artifact] }

/-- The streak rule over terminal outcomes, newest first. -/
def laneOutagesFrom
    (outcomes : List ArtifactOutcome) : List ArtifactLaneOutage :=
  let scan := outcomes.foldl StreakScan.read ⟨[], []⟩
  (scan.streaks.filter fun streak =>
    laneOutageThreshold ≤ streak.count).filterMap fun streak =>
      (parseArtifact streak.artifact).map fun artifact =>
        ⟨artifact, streak.count, streak.lastFailedAt⟩

variable (snapshot : ContentSupplySnapshot) (artifact : ContentArtifactKind)

/-- The test of the election: not done, not in flight, nothing given up. -/
def ContentSupplySnapshot.couldRequest : Bool :=
  !snapshot.completedArtifacts.contains artifact &&
    !snapshot.inFlightArtifacts.contains artifact &&
    snapshot.failedArtifacts.all fun failed =>
      failed.artifact ≠ artifact || failed.failures < maxArtifactAttempts

def ContentSupplySnapshot.pushOutage
    (outage : ArtifactLaneOutage) : ContentSupplySnapshot :=
  { snapshot with laneOutages := snapshot.laneOutages ++ [outage] }

/-- Hold one lane for every source, save the first that could probe it. -/
def holdLane (outage : ArtifactLaneOutage) :
    Bool → List ContentSupplySnapshot → List ContentSupplySnapshot
  | _, [] => []
  | probeOpen, snapshot :: rest =>
    if probeOpen && snapshot.couldRequest outage.artifact then
      snapshot :: holdLane outage false rest
    else
      snapshot.pushOutage outage :: holdLane outage probeOpen rest

def holdDownLanes (snapshots : List ContentSupplySnapshot) (outages : List ArtifactLaneOutage)
    (now : OffsetDateTime) : List ContentSupplySnapshot :=
  outages.foldl
    (fun held outage => holdLane outage (outage.nextProbeAt ≤ now) held)
    snapshots

/-- The sources for which no outage holds the artifact. -/
def leftOpen
    (snapshots : List ContentSupplySnapshot) : List ContentSupplySnapshot :=
  snapshots.filter fun snapshot => snapshot.laneOpen artifact

/--
One real request finds a lane that is down: one source at most is left open,
none before the probe is due, and from then on one that asks, if any would.
-/
structure LaneFoundAgain
    (policy : ContentSupplyPolicy)
    (snapshots held : List ContentSupplySnapshot)
    (now : OffsetDateTime)
    (outage : ArtifactLaneOutage) : Prop where
  oneProbe : (leftOpen outage.artifact held).length ≤ 1
  heldUntilDue :
    now < outage.nextProbeAt → leftOpen outage.artifact held = []
  probeAsks :
    outage.nextProbeAt ≤ now →
    (∃ snapshot ∈ snapshots,
      snapshot.wouldRequest policy now outage.artifact = true) →
    ∃ probe ∈ leftOpen outage.artifact held,
      probe.wouldRequest policy now outage.artifact = true

/--
The first source that passes the test of the election would ask for the
artifact, and no earlier outage holds it.
-/
def ProbeElected (policy : ContentSupplyPolicy) (snapshots : List ContentSupplySnapshot)
    (now : OffsetDateTime)
    (artifact : ContentArtifactKind) : Prop :=
  ∃ before elected after,
    snapshots = before ++ elected :: after ∧
      (∀ earlier ∈ before, earlier.couldRequest artifact = false) ∧
      elected.couldRequest artifact = true ∧
      elected.laneOpen artifact = true ∧
      elected.wouldRequest policy now artifact = true

theorem parseArtifact_injective {first second : String} {artifact : ContentArtifactKind}
    (firstParses : parseArtifact first = some artifact)
    (secondParses : parseArtifact second = some artifact) :
    first = second := by
  unfold parseArtifact at firstParses secondParses
  split at firstParses <;> cases firstParses <;>
    split at secondParses <;> first | rfl | cases secondParses

theorem map_artifact_raiseStreak (outcome : ArtifactOutcome) (streaks : List LaneStreak) :
    (raiseStreak outcome streaks).map LaneStreak.artifact =
      if outcome.artifact ∈ streaks.map LaneStreak.artifact then
        streaks.map LaneStreak.artifact
      else
        streaks.map LaneStreak.artifact ++ [outcome.artifact] := by
  induction streaks with
  | nil => rfl
  | cons streak rest inductionHypothesis =>
    by_cases sameArtifact : streak.artifact = outcome.artifact
    · simp [raiseStreak, sameArtifact]
    · have otherArtifact : outcome.artifact ≠ streak.artifact := Ne.symm sameArtifact
      simp only [raiseStreak, if_neg sameArtifact, List.map_cons,
        inductionHypothesis, List.mem_cons, otherArtifact, false_or]
      split <;> rfl

theorem nodup_streaks_read {scan : StreakScan}
    (distinct : (scan.streaks.map LaneStreak.artifact).Nodup) (outcome : ArtifactOutcome) :
    ((scan.read outcome).streaks.map LaneStreak.artifact).Nodup := by
  unfold StreakScan.read
  split
  · exact distinct
  · split
    · rw [map_artifact_raiseStreak]
      split
      · exact distinct
      · rename_i isNew
        exact List.nodup_append.mpr
          ⟨distinct, List.nodup_singleton _, by
            rintro streak isOld _ isLast rfl
            exact isNew (List.mem_singleton.mp isLast ▸ isOld)⟩
    · exact distinct

/-- The loader reads at most one outage for each artifact. -/
theorem nodup_laneOutagesFrom (outcomes : List ArtifactOutcome) :
    ((laneOutagesFrom outcomes).map ArtifactLaneOutage.artifact).Nodup := by
  have scanned : ∀ (outcomes : List ArtifactOutcome) (scan : StreakScan),
      (scan.streaks.map LaneStreak.artifact).Nodup →
      ((outcomes.foldl StreakScan.read scan).streaks.map LaneStreak.artifact).Nodup := by
    intro outcomes
    induction outcomes with
    | nil => exact fun _ distinct => distinct
    | cons outcome rest inductionHypothesis =>
      intro scan distinct
      exact inductionHypothesis _ (nodup_streaks_read distinct outcome)
  have distinct := scanned outcomes ⟨[], []⟩ List.nodup_nil
  have parsed : ∀ streaks : List LaneStreak,
      (streaks.filterMap fun streak =>
          (parseArtifact streak.artifact).map fun artifact =>
            ArtifactLaneOutage.mk artifact streak.count
              streak.lastFailedAt).map ArtifactLaneOutage.artifact =
        (streaks.map LaneStreak.artifact).filterMap parseArtifact := by
    intro streaks
    rw [List.map_filterMap, List.filterMap_map]
    congr 1
    funext streak
    cases parsedName : parseArtifact streak.artifact <;>
      simp [parsedName]
  unfold laneOutagesFrom
  dsimp only
  rw [parsed]
  refine List.Nodup.filterMap ?_ ?_
  · intro first second artifact firstParses secondParses
    exact parseArtifact_injective firstParses secondParses
  · exact distinct.sublist (List.filter_sublist.map _)

variable {snapshots : List ContentSupplySnapshot} {policy : ContentSupplyPolicy}
  {now : OffsetDateTime} {outage : ArtifactLaneOutage} {outages : List ArtifactLaneOutage}

section Election

variable {artifact : ContentArtifactKind}

/-- The source without the outages that hold it. -/
def ContentSupplySnapshot.facts
    (snapshot : ContentSupplySnapshot) : ContentSupplySnapshot :=
  { snapshot with laneOutages := [] }

/-- What the probe of one lane depends on. -/
def ContentSupplySnapshot.view (artifact : ContentArtifactKind)
    (snapshot : ContentSupplySnapshot) : ContentSupplySnapshot × Bool :=
  (snapshot.facts, snapshot.laneOpen artifact)

@[simp] theorem couldRequest_facts (snapshot : ContentSupplySnapshot) :
    snapshot.facts.couldRequest artifact = snapshot.couldRequest artifact :=
  rfl

@[simp] theorem wouldRequest_facts (snapshot : ContentSupplySnapshot) :
    snapshot.facts.wouldRequest policy now artifact = snapshot.wouldRequest policy now artifact :=
  rfl

@[simp] theorem facts_pushOutage (snapshot : ContentSupplySnapshot) :
    (snapshot.pushOutage outage).facts = snapshot.facts :=
  rfl

theorem laneOpen_pushOutage (snapshot : ContentSupplySnapshot) :
    (snapshot.pushOutage outage).laneOpen artifact =
      (snapshot.laneOpen artifact && !decide (outage.artifact = artifact)) := by
  simp [ContentSupplySnapshot.laneOpen, ContentSupplySnapshot.pushOutage]

theorem map_view_holdLane (otherLane : outage.artifact ≠ artifact) (probeOpen : Bool)
    (snapshots : List ContentSupplySnapshot) :
    (holdLane outage probeOpen snapshots).map (ContentSupplySnapshot.view artifact) =
      snapshots.map (ContentSupplySnapshot.view artifact) := by
  induction snapshots generalizing probeOpen with
  | nil => rfl
  | cons snapshot rest inductionHypothesis =>
    unfold holdLane
    split
    · simp [inductionHypothesis]
    · simp [inductionHypothesis, ContentSupplySnapshot.view, laneOpen_pushOutage, otherLane]

theorem leftOpen_holdLane (probeOpen : Bool) (snapshots : List ContentSupplySnapshot) :
    leftOpen outage.artifact (holdLane outage probeOpen snapshots) =
      if probeOpen then
        leftOpen outage.artifact
          (snapshots.find? fun snapshot =>
            snapshot.couldRequest outage.artifact).toList
      else
        [] := by
  induction snapshots generalizing probeOpen with
  | nil => cases probeOpen <;> rfl
  | cons snapshot rest inductionHypothesis =>
    unfold holdLane
    cases probeOpen with
    | false =>
      have restHeld := inductionHypothesis false
      simp only [leftOpen, Bool.false_eq_true, ↓reduceIte] at restHeld
      simp [leftOpen, laneOpen_pushOutage, restHeld]
    | true =>
      cases passes : snapshot.couldRequest outage.artifact with
      | true =>
        have restHeld := inductionHypothesis false
        simp only [leftOpen, Bool.false_eq_true, ↓reduceIte] at restHeld
        simp [leftOpen, passes, List.filter_cons, restHeld]
      | false =>
        have restHeld := inductionHypothesis true
        simp only [leftOpen, ↓reduceIte] at restHeld
        simp [leftOpen, passes, laneOpen_pushOutage, restHeld]

theorem map_view_holdDownLanes (otherLanes : ∀ outage ∈ outages, outage.artifact ≠ artifact)
    (snapshots : List ContentSupplySnapshot) :
    (holdDownLanes snapshots outages now).map (ContentSupplySnapshot.view artifact) =
      snapshots.map (ContentSupplySnapshot.view artifact) := by
  induction outages generalizing snapshots with
  | nil => rfl
  | cons outage rest inductionHypothesis =>
    have restOther : ∀ other ∈ rest, other.artifact ≠ artifact :=
      fun other inRest => otherLanes other (List.mem_cons_of_mem _ inRest)
    calc
      _ = (holdLane outage (outage.nextProbeAt ≤ now) snapshots).map
            (ContentSupplySnapshot.view artifact) :=
          inductionHypothesis restOther _
      _ = _ := map_view_holdLane (otherLanes outage List.mem_cons_self) _ _

theorem map_facts_leftOpen (snapshots : List ContentSupplySnapshot) :
    (leftOpen artifact snapshots).map ContentSupplySnapshot.facts =
      ((snapshots.map (ContentSupplySnapshot.view artifact)).filter Prod.snd).map Prod.fst := by
  simp [leftOpen, List.filter_map, Function.comp_def, ContentSupplySnapshot.view]

theorem map_view_elected (snapshots : List ContentSupplySnapshot) :
    (snapshots.find? fun snapshot =>
        snapshot.couldRequest artifact).toList.map
        (ContentSupplySnapshot.view artifact) =
      ((snapshots.map (ContentSupplySnapshot.view artifact)).find?
        fun view => view.1.couldRequest artifact).toList := by
  rw [List.find?_map, Option.toList_map]
  rfl

/--
Over all lanes the artifact is left open on the source its own election names,
once the probe is due, and nowhere else.
-/
theorem leftOpen_holdDownLanes (distinct : (outages.map ArtifactLaneOutage.artifact).Nodup)
    (isDown : outage ∈ outages) (now : OffsetDateTime) (snapshots : List ContentSupplySnapshot) :
    (leftOpen outage.artifact (holdDownLanes snapshots outages now)).map
        ContentSupplySnapshot.facts =
      if outage.nextProbeAt ≤ now then
        (leftOpen outage.artifact
          (snapshots.find? fun snapshot =>
            snapshot.couldRequest outage.artifact).toList).map
          ContentSupplySnapshot.facts
      else
        [] := by
  obtain ⟨before, after, rfl⟩ := List.append_of_mem isDown
  rw [List.map_append, List.map_cons, List.nodup_append] at distinct
  obtain ⟨-, distinctAfter, disjoint⟩ := distinct
  have beforeOther : ∀ other ∈ before, other.artifact ≠ outage.artifact := by
    intro other isBefore
    exact disjoint _ (List.mem_map_of_mem isBefore) _ List.mem_cons_self
  have afterOther : ∀ other ∈ after, other.artifact ≠ outage.artifact := by
    intro other isAfter same
    exact (List.nodup_cons.mp distinctAfter).1 (List.mem_map.mpr ⟨other, isAfter, same⟩)
  have unfolded : holdDownLanes snapshots (before ++ outage :: after) now = holdDownLanes
        (holdLane outage (outage.nextProbeAt ≤ now)
          (holdDownLanes snapshots before now)) after now := by
    simp [holdDownLanes]
  rw [unfolded, map_facts_leftOpen, map_view_holdDownLanes afterOther,
    ← map_facts_leftOpen, leftOpen_holdLane]
  by_cases isDue : outage.nextProbeAt ≤ now
  · rw [if_pos (decide_eq_true isDue), if_pos isDue, map_facts_leftOpen,
      map_facts_leftOpen, map_view_elected, map_view_elected,
      map_view_holdDownLanes beforeOther]
  · rw [if_neg (by simpa using isDue), if_neg isDue, List.map_nil]

end Election

theorem probeElected_iff :
    ProbeElected policy snapshots now outage.artifact ↔
      ∃ probe ∈ leftOpen outage.artifact
          (snapshots.find? fun snapshot =>
            snapshot.couldRequest outage.artifact).toList,
        probe.wouldRequest policy now outage.artifact = true := by
  constructor
  · rintro ⟨before, elected, after, rfl, skipped, passes, isOpen, eligible⟩
    have named : (before ++ elected :: after).find?
        (fun snapshot => snapshot.couldRequest outage.artifact) = some elected :=
      List.find?_eq_some_iff_append.mpr
        ⟨passes, before, after, rfl, fun earlier isEarlier => by
          rw [skipped earlier isEarlier]; rfl⟩
    exact ⟨elected, by simp [named, leftOpen, isOpen], eligible⟩
  · rintro ⟨probe, isLeft, eligible⟩
    obtain ⟨isNamed, isOpen⟩ := List.mem_filter.mp isLeft
    have named := Option.mem_toList.mp isNamed
    obtain ⟨passes, before, after, shape, skipped⟩ := List.find?_eq_some_iff_append.mp named
    refine ⟨before, probe, after, shape, ?_, passes, isOpen, eligible⟩
    intro earlier isEarlier
    simpa using skipped earlier isEarlier

theorem exists_probe_iff (distinct : (outages.map ArtifactLaneOutage.artifact).Nodup)
    (isDown : outage ∈ outages) (isDue : outage.nextProbeAt ≤ now) :
    (∃ probe ∈ leftOpen outage.artifact (holdDownLanes snapshots outages now),
      probe.wouldRequest policy now outage.artifact = true) ↔
      ProbeElected policy snapshots now outage.artifact := by
  have sameFacts := leftOpen_holdDownLanes distinct isDown now snapshots
  rw [if_pos isDue] at sameFacts
  have asksAmong : ∀ sources : List ContentSupplySnapshot,
      (∃ probe ∈ sources, probe.wouldRequest policy now outage.artifact = true) ↔
      ∃ probe ∈ sources.map ContentSupplySnapshot.facts,
        probe.wouldRequest policy now outage.artifact = true := by
    intro sources
    simp
  rw [probeElected_iff, asksAmong, sameFacts, ← asksAmong]

/--
After the loader has held the lanes that are down, each is found again by one
real request exactly when each election, once due and once some source would
ask, names a source that would ask.
-/
theorem lanesFoundAgain_iff
    (distinct : (outages.map ArtifactLaneOutage.artifact).Nodup) :
    (∀ outage ∈ outages,
      LaneFoundAgain policy snapshots
        (holdDownLanes snapshots outages now) now outage) ↔
      ∀ outage ∈ outages,
        outage.nextProbeAt ≤ now →
        (∃ snapshot ∈ snapshots, snapshot.wouldRequest policy now outage.artifact = true) →
        ProbeElected policy snapshots now outage.artifact := by
  constructor
  · intro found outage isDown isDue someAsks
    exact (exists_probe_iff distinct isDown isDue).mp
      ((found outage isDown).probeAsks isDue someAsks)
  · intro elected outage isDown
    have sameFacts := leftOpen_holdDownLanes distinct isDown now snapshots
    refine ⟨?_, ?_, ?_⟩
    · have sameLength := congrArg List.length sameFacts
      rw [List.length_map] at sameLength
      rw [sameLength]
      split
      · rw [List.length_map]
        exact le_trans (List.length_filter_le _ _) Option.length_toList_le
      · exact Nat.zero_le _
    · intro notDue
      rw [if_neg (not_le_of_gt notDue)] at sameFacts
      exact List.map_eq_nil_iff.mp sameFacts
    · intro isDue someAsks
      exact (exists_probe_iff distinct isDown isDue).mpr
        (elected outage isDown isDue someAsks)

theorem LaneFoundAgain.evaluator_asks {held : List ContentSupplySnapshot}
    (found : LaneFoundAgain policy snapshots held now outage) (isDue : outage.nextProbeAt ≤ now)
    (someAsks : ∃ snapshot ∈ snapshots, snapshot.wouldRequest policy now outage.artifact = true) :
    ∃ probe ∈ leftOpen outage.artifact held,
      ∃ before requested after attempt,
        requiredArtifacts probe.sourceKind = before ++ requested :: after ∧
          outage.artifact ∉ before ∧
          evaluateContentSupply probe policy now = .request requested attempt 9500 := by
  obtain ⟨probe, isLeft, eligible⟩ := found.probeAsks isDue someAsks
  exact ⟨probe, isLeft, asks_of_wouldRequest eligible (List.mem_filter.mp isLeft).2⟩

/-- A source of its kind with nothing done, nothing failed and no switch. -/
def freshSource (kind : ContentSourceKind) : ContentSupplySnapshot where
  sourceId := 1
  sourceKind := kind
  sourceVersion := 1
  promotionExcludedPlatforms := []
  sourceKey := ""
  title := ""
  sourceUrl := none
  sourceBody := none
  siteOrigin := none
  occurredAt := 0
  expiresAt := 30 * nanosPerDay
  communicationEnabled := none
  pressEnabled := none
  releaseTier := none
  completedArtifacts := []
  inFlightArtifacts := []
  failedArtifacts := []
  laneOutages := []
  socialPost := none
  dropSurgeFailures := []
  surgeRequestedAt := none

def pressHookFailures : List ArtifactOutcome :=
  List.replicate 4 ⟨"press_hook", "failed", some "artifact_surface_unavailable", 0⟩

def twoHoursOn : OffsetDateTime := 2 * nanosPerHour

/-- A release alone is elected and asks. -/
theorem loneRelease_probes :
    LaneFoundAgain .default [freshSource .release]
      (holdDownLanes [freshSource .release]
        (laneOutagesFrom pressHookFailures) twoHoursOn) twoHoursOn
      ⟨.pressHook, 4, 0⟩ := by
  have read : laneOutagesFrom pressHookFailures = [⟨.pressHook, 4, 0⟩] := by
    decide
  refine (lanesFoundAgain_iff (nodup_laneOutagesFrom _)).mpr ?_ _
    (by rw [read]; exact List.mem_singleton_self _)
  intro outage isDown isDue someAsks
  rw [read, List.mem_singleton] at isDown
  subst isDown
  exact ⟨[], freshSource .release, [], by decide⟩

/--
A story listed before the release passes the election and owes no press hook:
the release that would ask stays held.
-/
theorem storyElected_asksNothing :
    ¬ LaneFoundAgain .default [freshSource .story, freshSource .release]
        (holdDownLanes [freshSource .story, freshSource .release]
          (laneOutagesFrom pressHookFailures) twoHoursOn) twoHoursOn
        ⟨.pressHook, 4, 0⟩ := by
  intro found
  obtain ⟨probe, isLeft, eligible⟩ := found.probeAsks (by decide)
      ⟨freshSource .release, by decide, by decide⟩
  have onlyStory : leftOpen .pressHook
      (holdDownLanes [freshSource .story, freshSource .release]
        (laneOutagesFrom pressHookFailures) twoHoursOn) =
        [freshSource .story] := by
    decide
  rw [onlyStory, List.mem_singleton] at isLeft
  subst isLeft
  exact absurd eligible (by decide)

end CrowdRelay
