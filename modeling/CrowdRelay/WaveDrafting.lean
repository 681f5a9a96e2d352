import Mathlib.Data.List.Forall2
import CrowdRelay.Outreach
import CrowdRelay.Persist

namespace CrowdRelay

open MachineInt Ranged

/-!
# Drafting pitches into waves

The outreach arm offers every snapshot to the first open wave that takes it,
and counts the place before there is a pitch.  The counts decide afterwards
which waves are sealed.
-/

structure OutreachWave where
  waveId : Uuid
  snapshot : WaveSnapshot
  deriving Repr, DecidableEq

structure LoadedWaves where
  waves : List OutreachWave
  distinct : (waves.map OutreachWave.waveId).Nodup

/-- One snapshot, with what the repository will say to its pitch. -/
structure DraftTurn where
  snapshot : OutreachSnapshot
  answer : RepositoryAnswer

/-- The place a snapshot took, the pitch it came to, and the answer. -/
structure DraftEntry where
  waveId : Option Uuid
  pitch : Option OutreachPitch
  answer : RepositoryAnswer

namespace DraftEntry

/-- An action was created for the pitch, and carries its wave. -/
def created (entry : DraftEntry) : Bool :=
  match entry.pitch, entry.answer with
  | some _, .ok persisted => persisted.actionCreated
  | _, _ => false

/-- An answer that is no conflict ends the loop. -/
def aborts (entry : DraftEntry) : Bool :=
  match entry.pitch, entry.answer with
  | some _, .error failure => !failure.isConflict
  | _, _ => false

end DraftEntry

section Drafting

variable (policy : AutopilotPolicy) (config : Option OutreachPolicy) (now : OffsetDateTime)

def wavePolicyOf : FreeReachPolicy :=
  match config with
  | some outreach => outreach.waves
  | none => .default

/-- A wave takes pitches of its own kind and lane while it has room. -/
def takesPitch (snapshot : OutreachSnapshot)
    (wave : OutreachWave) : Bool :=
  wave.snapshot.targetKind = snapshot.targetKind &&
    wave.snapshot.anchor.isThreads = snapshot.threadFollowup &&
    wave.snapshot.state = .drafting &&
    evaluateWave wave.snapshot (wavePolicyOf config) now = .addPitch

def OutreachWave.counted (wave : OutreachWave) : OutreachWave :=
  { wave with
    snapshot :=
      { wave.snapshot with
        pitches := wave.snapshot.pitches.saturatingAdd 1 } }

/-- The first wave that takes the snapshot, counted up, and its id. -/
def takePlace (snapshot : OutreachSnapshot) :
    List OutreachWave → List OutreachWave × Option Uuid
  | [] => ([], none)
  | wave :: rest =>
    if takesPitch config now snapshot wave then
      (wave.counted :: rest, some wave.waveId)
    else
      let later := takePlace snapshot rest
      (wave :: later.1, later.2)

/-- The loop over the snapshots of a cycle. -/
def drafting :
    Machine.Transducer (List OutreachWave) DraftTurn DraftEntry where
  step waves turn :=
    let placed := takePlace config now turn.snapshot waves
    (placed.1,
      { waveId := placed.2
        -- What may go out in a wave only waits for one with room.
        pitch :=
          if turn.snapshot.waveOnly && placed.2.isNone then
            none
          else
            outreachCandidate turn.snapshot policy config placed.2 now
        answer := turn.answer })
  halts := DraftEntry.aborts

/-- An action comes of the snapshot, should a wave take it. -/
def DraftTurn.becomesAction (turn : DraftTurn) : Bool :=
  (outreachCandidate turn.snapshot policy config none now).isSome &&
    match turn.answer with
    | .ok persisted => persisted.actionCreated
    | .error _ => false

end Drafting

inductive OutreachWaveTransition where
  | seal
  | expire (reason : WaveExpiry)
  deriving Repr, DecidableEq

def waveTransition (wavePolicy : FreeReachPolicy) (now : OffsetDateTime)
    (wave : OutreachWave) : Option OutreachWaveTransition :=
  match evaluateWave wave.snapshot wavePolicy now with
  | .seal => some .seal
  | .expire reason => some (.expire reason)
  | .addPitch | .hold _ => none

/-- The transitions the counted waves are put through. -/
def settleOutreachWaves (waves : List OutreachWave) (wavePolicy : FreeReachPolicy)
    (now : OffsetDateTime) : List (Uuid × OutreachWaveTransition) :=
  waves.filterMap fun wave =>
    (waveTransition wavePolicy now wave).map fun transition =>
      (wave.waveId, transition)

/-- How many actions of a wave the loop created. -/
def createdIn (entries : List DraftEntry)
    (waveId : Uuid) : Nat :=
  entries.countP fun entry => entry.waveId = some waveId && entry.created

/-- How many places of a wave the loop gave away. -/
def placedIn (entries : List DraftEntry)
    (waveId : Uuid) : Nat :=
  entries.countP fun entry => entry.waveId = some waveId

/-- What a wave counts, it holds. -/
structure WavesReal
    (loaded drafted : List OutreachWave)
    (entries : List DraftEntry)
    (wavePolicy : FreeReachPolicy)
    (now : OffsetDateTime) : Prop where
  counted :
    ∀ before ∈ loaded,
      ∀ after ∈ drafted,
        after.waveId = before.waveId →
        after.snapshot.pitches.val =
          before.snapshot.pitches.val + createdIn entries before.waveId
  sealed :
    ∀ before ∈ loaded,
      (before.waveId, OutreachWaveTransition.seal) ∈
        settleOutreachWaves drafted wavePolicy now →
      wavePolicy.minPitchesPerWave.val ≤
        before.snapshot.pitches.val + createdIn entries before.waveId
  within :
    ∀ before ∈ loaded,
      before.snapshot.pitches.val + createdIn entries before.waveId ≤
        max before.snapshot.pitches.val
          (waveCapacity before.snapshot wavePolicy).val

/-! ## What a wave has grown by -/

/-- A wave after the loop has counted some of its places. -/
structure Grown
    (wavePolicy : FreeReachPolicy)
    (places : Uuid → Nat)
    (before after : OutreachWave) : Prop where
  same : after.waveId = before.waveId
  budget :
    after.snapshot.thirdPartyBudgetRemaining =
      before.snapshot.thirdPartyBudgetRemaining
  pitches :
    after.snapshot.pitches.val =
      before.snapshot.pitches.val + places before.waveId
  within :
    after.snapshot.pitches.val ≤
      max before.snapshot.pitches.val
        (waveCapacity before.snapshot wavePolicy).val

section Growth

variable {config : Option OutreachPolicy} {now : OffsetDateTime}
  {snapshot : OutreachSnapshot} {places : Uuid → Nat} {wavePolicy : FreeReachPolicy}
  {before after : OutreachWave} {others : Uuid → Nat}

theorem Grown.of_eq (grown : Grown wavePolicy places before after)
    (equal : others before.waveId = places before.waveId) :
    Grown wavePolicy others before after where
  same := grown.same
  budget := grown.budget
  pitches := by
    rw [equal]
    exact grown.pitches
  within := grown.within

/-- A wave that takes a pitch has room for the place it counts. -/
theorem Grown.counted (grown : Grown (wavePolicyOf config) places before after)
    (takes : takesPitch config now snapshot after = true)
    (equal : others before.waveId = places before.waveId + 1) :
    Grown (wavePolicyOf config) others before after.counted := by
  have adds : evaluateWave after.snapshot (wavePolicyOf config) now = .addPitch :=
    of_decide_eq_true (Bool.and_eq_true_iff.mp takes).2
  have room := Ranged.lt_iff_val.mp (pitches_lt_of_addPitch adds)
  have capacity :
      waveCapacity after.snapshot (wavePolicyOf config) =
        waveCapacity before.snapshot (wavePolicyOf config) := by
    unfold waveCapacity
    rw [grown.budget]
  have widest := (waveCapacity after.snapshot (wavePolicyOf config)).upper
  have lower := after.snapshot.pitches.lower
  have one : (1 : U16).val = 1 := rfl
  have added : (after.snapshot.pitches.saturatingAdd 1).val = after.snapshot.pitches.val + 1 := by
    unfold saturatingAdd
    rw [val_saturate, one]
    omega
  refine
    { same := grown.same
      budget := grown.budget
      pitches := ?_
      within := ?_ }
  · show (after.snapshot.pitches.saturatingAdd 1).val = _
    rw [added, grown.pitches, equal, Int.natCast_succ, Int.add_assoc]
  · show (after.snapshot.pitches.saturatingAdd 1).val ≤ _
    rw [added, ← capacity]
    exact (Int.add_one_le_of_lt room).trans (le_max_right _ _)

theorem takePlace_mem {waves : List OutreachWave} {waveId : Uuid}
    (placed : (takePlace config now snapshot waves).2 = some waveId) :
    waveId ∈ waves.map OutreachWave.waveId := by
  induction waves with
  | nil => cases placed
  | cons wave rest inductionHypothesis =>
    unfold takePlace at placed
    split at placed
    · cases placed
      exact List.mem_cons_self
    · exact List.mem_cons_of_mem _ (inductionHypothesis placed)

theorem map_waveId_of_grown {loaded waves : List OutreachWave}
    (grown : List.Forall₂ (Grown wavePolicy places) loaded waves) :
    waves.map OutreachWave.waveId = loaded.map OutreachWave.waveId := by
  induction grown with
  | nil => rfl
  | cons first _ inductionHypothesis =>
    rw [List.map_cons, List.map_cons, first.same, inductionHypothesis]

/-- One snapshot counts one place of one wave, or none. -/
theorem grown_takePlace {loaded waves : List OutreachWave}
    (grown : List.Forall₂ (Grown (wavePolicyOf config) places) loaded waves)
    (distinct : (loaded.map OutreachWave.waveId).Nodup) :
    List.Forall₂
      (Grown (wavePolicyOf config) fun waveId =>
        places waveId +
          if (takePlace config now snapshot waves).2 = some waveId then 1 else 0)
      loaded (takePlace config now snapshot waves).1 := by
  induction grown with
  | nil => exact List.Forall₂.nil
  | @cons before after loadedRest wavesRest first rest inductionHypothesis =>
    rw [List.map_cons, List.nodup_cons] at distinct
    obtain ⟨fresh, restDistinct⟩ := distinct
    unfold takePlace
    by_cases takes : takesPitch config now snapshot after = true
    · rw [if_pos takes]
      refine List.Forall₂.cons (first.counted takes ?_) ?_
      · dsimp only
        rw [first.same, if_pos rfl]
      · -- The other waves have other ids, and count nothing.
        have others : ∀ other ∈ loadedRest, after.waveId ≠ other.waveId := by
          intro other member same
          rw [first.same] at same
          exact fresh (same ▸ List.mem_map_of_mem member)
        refine (List.forall₂_iff_get.mpr ?_)
        obtain ⟨length, each⟩ := List.forall₂_iff_get.mp rest
        refine ⟨length, fun index isLoaded isWave => ?_⟩
        refine (each index isLoaded isWave).of_eq ?_
        dsimp only
        rw [if_neg, Nat.add_zero]
        intro same
        exact others _ (List.get_mem _ _) (Option.some.inj same)
    · rw [if_neg takes]
      refine List.Forall₂.cons (first.of_eq ?_) (inductionHypothesis restDistinct)
      dsimp only
      rw [if_neg, Nat.add_zero]
      intro placed
      have member := takePlace_mem placed
      rw [map_waveId_of_grown rest] at member
      exact fresh member

end Growth

section Loop

variable {policy : AutopilotPolicy} {config : Option OutreachPolicy} {now : OffsetDateTime}

theorem placedIn_append_singleton (entries : List DraftEntry) (entry : DraftEntry) (waveId : Uuid) :
    placedIn (entries ++ [entry]) waveId =
      placedIn entries waveId + if entry.waveId = some waveId then 1 else 0 := by
  unfold placedIn
  rw [List.countP_append, List.countP_singleton]
  simp

/-- After the loop every wave has grown by the places it gave away. -/
theorem grown_drafting (loaded : LoadedWaves) (turns : List DraftTurn) :
    List.Forall₂
        (Grown (wavePolicyOf config)
          (placedIn ((drafting policy config now).log loaded.waves turns)))
        loaded.waves
        ((drafting policy config now).final loaded.waves turns) ∧
      ∀ entry ∈ (drafting policy config now).log loaded.waves turns,
        ∀ waveId,
          entry.waveId = some waveId →
          waveId ∈ loaded.waves.map OutreachWave.waveId := by
  have run := @Machine.Transducer.log_invariant _ _ _ (drafting policy config now)
      (fun entries waves =>
        List.Forall₂ (Grown (wavePolicyOf config) (placedIn entries)) loaded.waves waves ∧
          ∀ entry ∈ entries,
            ∀ waveId,
              entry.waveId = some waveId →
              waveId ∈ loaded.waves.map OutreachWave.waveId)
  refine run ?_ [] ⟨?_, fun _ absent => absurd absent List.not_mem_nil⟩ turns
  · rintro entries waves turn ⟨grown, known⟩
    constructor
    · have stepped := @grown_takePlace config now turn.snapshot _ _ _ grown loaded.distinct
      have same :
          placedIn (entries ++ [((drafting policy config now).step waves turn).2]) =
            fun waveId =>
              placedIn entries waveId +
                if (takePlace config now turn.snapshot waves).2 = some waveId then
                  1
                else
                  0 := by
        funext waveId
        exact placedIn_append_singleton _ _ _
      rw [same]
      exact stepped
    · intro entry member waveId placed
      rcases List.mem_append.mp member with isOld | isNew
      · exact known entry isOld waveId placed
      · rw [List.mem_singleton.mp isNew] at placed
        rw [← map_waveId_of_grown grown]
        exact takePlace_mem placed
  · refine List.forall₂_same.mpr fun wave _ => ?_
    exact
      { same := rfl
        budget := rfl
        pitches := (Int.add_zero _).symm
        within := le_max_left _ _ }

end Loop

theorem createdIn_le_placedIn (entries : List DraftEntry) (waveId : Uuid) :
    createdIn entries waveId ≤ placedIn entries waveId := by
  refine List.countP_mono_left fun entry _ created => ?_
  exact (Bool.and_eq_true_iff.mp created).1

variable {entries : List DraftEntry}

/-- Where as many are created as took places, every place is filled. -/
theorem created_of_createdIn_eq {waveId : Uuid}
    (equal : createdIn entries waveId = placedIn entries waveId) :
    ∀ entry ∈ entries, entry.waveId = some waveId → entry.created = true := by
  induction entries with
  | nil =>
    intro entry absent
    cases absent
  | cons first rest inductionHypothesis =>
    have restLess := createdIn_le_placedIn rest waveId
    unfold createdIn placedIn at equal restLess inductionHypothesis
    rw [List.countP_cons, List.countP_cons] at equal
    intro entry member placed
    rcases List.mem_cons.mp member with rfl | inRest
    · by_contra missing
      rw [Bool.not_eq_true] at missing
      simp only [placed, missing, decide_true, Bool.and_false,
        Bool.false_eq_true, if_false, if_true] at equal
      omega
    · refine inductionHypothesis ?_ entry inRest placed
      by_cases isFirst : first.waveId = some waveId
      · cases isCreated : first.created <;>
          simp only [isFirst, isCreated, decide_true, Bool.and_true,
            Bool.and_false, Bool.false_eq_true, if_false,
            if_true] at equal
        · omega
        · omega
      · simp only [isFirst, decide_false, Bool.false_and,
          Bool.false_eq_true, if_false] at equal
        omega

theorem createdIn_eq_placedIn (waveId : Uuid)
    (filled : ∀ entry ∈ entries, entry.waveId = some waveId → entry.created = true) :
    createdIn entries waveId = placedIn entries waveId := by
  refine List.countP_congr fun entry member => ?_
  rw [Bool.and_eq_true, decide_eq_true_eq]
  exact and_iff_left_of_imp (filled entry member)

variable {wavePolicy : FreeReachPolicy}

theorem exists_of_sealed {waves : List OutreachWave} {now : OffsetDateTime} {waveId : Uuid}
    (isSealed : (waveId, OutreachWaveTransition.seal) ∈ settleOutreachWaves waves wavePolicy now) :
    ∃ wave ∈ waves, wave.waveId = waveId ∧ evaluateWave wave.snapshot wavePolicy now = .seal := by
  obtain ⟨wave, isWave, settles⟩ := List.mem_filterMap.mp isSealed
  obtain ⟨transition, moves, equal⟩ := Option.map_eq_some_iff.mp settles
  cases equal
  refine ⟨wave, isWave, rfl, ?_⟩
  unfold waveTransition at moves
  split at moves
  · assumption
  · cases moves
  · cases moves
  · cases moves

section Turns

variable {policy : AutopilotPolicy} {config : Option OutreachPolicy} {now : OffsetDateTime}

theorem takePlace_isSome_iff (snapshot : OutreachSnapshot) (waves : List OutreachWave) :
    (takePlace config now snapshot waves).2.isSome = true ↔
      ∃ wave ∈ waves, takesPitch config now snapshot wave = true := by
  induction waves with
  | nil => exact ⟨nofun, fun ⟨_, absent, _⟩ => absurd absent List.not_mem_nil⟩
  | cons wave rest inductionHypothesis =>
    unfold takePlace
    by_cases takes : takesPitch config now snapshot wave = true
    · rw [if_pos takes]
      exact ⟨fun _ => ⟨wave, List.mem_cons_self, takes⟩, fun _ => rfl⟩
    · rw [if_neg takes]
      refine inductionHypothesis.trans ⟨?_, ?_⟩
      · rintro ⟨taker, inRest, takesIt⟩
        exact ⟨taker, List.mem_cons_of_mem _ inRest, takesIt⟩
      · rintro ⟨taker, member, takesIt⟩
        rcases List.mem_cons.mp member with rfl | inRest
        · exact absurd takesIt takes
        · exact ⟨taker, inRest, takesIt⟩

theorem outreachCandidate_isSome (snapshot : OutreachSnapshot) (waveId : Option Uuid) :
    (outreachCandidate snapshot policy config waveId now).isSome =
      (outreachCandidate snapshot policy config none now).isSome := by
  unfold outreachCandidate
  cases config with
  | none => rfl
  | some domainPolicy =>
    dsimp only
    split
    · rfl
    · rw [Option.isSome_map, Option.isSome_map]

theorem created_step {waves : List OutreachWave} {turn : DraftTurn}
    (placed : ((drafting policy config now).step waves turn).2.waveId.isSome = true) :
    ((drafting policy config now).step waves turn).2.created =
      turn.becomesAction policy config now := by
  have unheld : (takePlace config now turn.snapshot waves).2.isNone = false := by
    rw [← Option.not_isSome, Bool.not_eq_false']
    exact placed
  have same := @outreachCandidate_isSome policy config now turn.snapshot
      (takePlace config now turn.snapshot waves).2
  unfold DraftTurn.becomesAction
  rw [← same]
  unfold DraftEntry.created
  dsimp only [drafting]
  rw [unheld, Bool.and_false, if_neg Bool.false_ne_true]
  cases outreachCandidate turn.snapshot policy config
      (takePlace config now turn.snapshot waves).2 now with
  | none => rfl
  | some pitch =>
    cases turn.answer with
    | ok persisted => rfl
    | error failure => rfl

end Turns

section Claims

variable (policy : AutopilotPolicy) (config : Option OutreachPolicy)
  (now : OffsetDateTime) (loaded : LoadedWaves) (turns : List DraftTurn)

def LoopCompletes : Prop :=
  ∀ entry ∈ (drafting policy config now).log loaded.waves turns, entry.aborts = false

/-- After the loop, what a wave counts it holds. -/
def PitchesReal : Prop :=
  LoopCompletes policy config now loaded turns →
  WavesReal loaded.waves
    ((drafting policy config now).final loaded.waves turns)
    ((drafting policy config now).log loaded.waves turns)
    (wavePolicyOf config) now

/-- Only what becomes an action finds a wave that takes it. -/
def PlacesFilled : Prop :=
  LoopCompletes policy config now loaded turns →
  ∀ visit ∈ (drafting policy config now).visits loaded.waves turns,
    (∃ wave ∈ visit.1, takesPitch config now visit.2.snapshot wave = true) →
    visit.2.becomesAction policy config now = true

end Claims

variable {places : Uuid → Nat} {loaded drafted : List OutreachWave}

theorem exists_grown (grown : List.Forall₂ (Grown wavePolicy places) loaded drafted)
    {before : OutreachWave} (isLoaded : before ∈ loaded) :
    ∃ after ∈ drafted, Grown wavePolicy places before after := by
  induction grown with
  | nil => cases isLoaded
  | @cons first later loadedRest draftedRest firstGrown _
      inductionHypothesis =>
      rcases List.mem_cons.mp isLoaded with rfl | inRest
      · exact ⟨later, List.mem_cons_self, firstGrown⟩
      · obtain ⟨after, isAfter, afterGrown⟩ := inductionHypothesis inRest
        exact ⟨after, List.mem_cons_of_mem _ isAfter, afterGrown⟩

theorem grown_of_same (grown : List.Forall₂ (Grown wavePolicy places) loaded drafted)
    (distinct : (loaded.map OutreachWave.waveId).Nodup) {before after : OutreachWave}
    (isLoaded : before ∈ loaded) (isDrafted : after ∈ drafted)
    (same : after.waveId = before.waveId) :
    Grown wavePolicy places before after := by
  obtain ⟨partner, isPartner, partnerGrown⟩ := exists_grown grown isLoaded
  have draftedDistinct : (drafted.map OutreachWave.waveId).Nodup := by
    rw [map_waveId_of_grown grown]
    exact distinct
  have samePartner : after = partner := List.inj_on_of_nodup_map draftedDistinct isDrafted isPartner
      (same.trans partnerGrown.same.symm)
  rw [samePartner]
  exact partnerGrown

/-- The waves are real exactly where they take only what becomes an action. -/
theorem pitchesReal_iff
    (policy : AutopilotPolicy)
    (config : Option OutreachPolicy)
    (now : OffsetDateTime)
    (loaded : LoadedWaves)
    (turns : List DraftTurn) :
    PitchesReal policy config now loaded turns ↔ PlacesFilled policy config now loaded turns := by
  obtain ⟨grown, known⟩ := @grown_drafting policy config now loaded turns
  constructor
  · intro real completes visit visited takes
    have takesPlace :
        ((drafting policy config now).step visit.1
          visit.2).2.waveId.isSome = true :=
      (takePlace_isSome_iff _ _).mpr takes
    have member :
        ((drafting policy config now).step visit.1 visit.2).2 ∈
          (drafting policy config now).log loaded.waves turns := by
      rw [Machine.Transducer.log_eq_map_visits]
      exact List.mem_map_of_mem visited
    obtain ⟨waveId, placed⟩ := Option.isSome_iff_exists.mp takesPlace
    obtain ⟨before, isLoaded, rfl⟩ := List.mem_map.mp (known _ member waveId placed)
    obtain ⟨after, isAfter, afterGrown⟩ := exists_grown grown isLoaded
    have counted := (real completes).counted before isLoaded after isAfter afterGrown.same
    rw [afterGrown.pitches] at counted
    have equal := Int.natCast_inj.mp (Int.add_left_cancel counted)
    rw [← created_step takesPlace]
    exact created_of_createdIn_eq equal.symm _ member placed
  · intro filled completes
    have equal :
        ∀ waveId,
          createdIn ((drafting policy config now).log loaded.waves turns)
              waveId =
            placedIn ((drafting policy config now).log loaded.waves turns)
              waveId := by
      intro waveId
      refine createdIn_eq_placedIn waveId fun entry member placed => ?_
      rw [Machine.Transducer.log_eq_map_visits] at member
      obtain ⟨visit, visited, rfl⟩ := List.mem_map.mp member
      have takesPlace := Option.isSome_of_eq_some placed
      rw [created_step takesPlace]
      exact filled completes visit visited
          ((takePlace_isSome_iff _ _).mp takesPlace)
    refine
      { counted := ?_
        sealed := ?_
        within := ?_ }
    · intro before isLoaded after isAfter same
      have afterGrown := grown_of_same grown loaded.distinct isLoaded isAfter same
      rw [equal, afterGrown.pitches]
    · intro before isLoaded isSealed
      obtain ⟨after, isAfter, same, seals⟩ := exists_of_sealed isSealed
      have afterGrown := grown_of_same grown loaded.distinct isLoaded isAfter same
      rw [equal, ← afterGrown.pitches]
      exact Ranged.le_iff_val.mp (minPitches_le_of_seal seals)
    · intro before isLoaded
      obtain ⟨after, _, afterGrown⟩ := exists_grown grown isLoaded
      rw [equal, ← afterGrown.pitches]
      exact afterGrown.within

/-- A wave with room for three, and nothing in it yet. -/
def emptyWave : OutreachWave where
  waveId := 1
  snapshot :=
    { anchor := .release 2
      targetKind := .playlist
      state := .drafting
      openedAt := 0
      anchorAt := 90 * 86400 * 1000000000
      pitches := 0
      eligibleTargets := 40
      thirdPartyBudgetRemaining := 3
      anchorActive := true }

/-- A relationship whose pitch is already on its way. -/
def inFlightTurn (opportunityId : Uuid) : DraftTurn where
  snapshot :=
    { opportunityId := opportunityId
      targetId := 4
      targetKind := .playlist
      targetVersion := 1
      active := true
      verified := true
      acceptsOutreach := true
      relevanceBasisPoints := 9000
      evidenceConfidence := 9000
      observedAt := 0
      expiresAt := 90 * 86400 * 1000000000
      lastOutreachAt := none
      targetLastOutreachAt := none
      followupCount := 0
      lifetimeOutbound := 0
      targetEverReplied := false
      lastReply := .none
      lastDeclinedAt := none
      inFlight := true
      hasRecentResearch := true
      waveOnly := false
      threadFollowup := false }
  answer :=
    .ok
      { decisionCreated := false
        actionCreated := false
        quotaThrottled := false
        actionId := none }

/-- Three held snapshots fill the wave, and it is sealed on nothing. -/
theorem heldSnapshots_sealed :
    ¬ PitchesReal outreachAutopilot (some .default) 3600000000000
        ⟨[emptyWave], List.nodup_singleton _⟩
        [inFlightTurn 5, inFlightTurn 6, inFlightTurn 7] := by
  intro real
  have counted :=
    (real (by unfold LoopCompletes; decide +kernel)).sealed emptyWave List.mem_cons_self
      (by decide +kernel)
  exact absurd counted (by decide +kernel)

end CrowdRelay
