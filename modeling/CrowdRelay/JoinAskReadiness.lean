import CrowdRelay.JoinAsk
import Mathlib.Data.Set.Finite.Lattice
import Mathlib.Tactic.NormNum

namespace CrowdRelay

open MachineInt Ranged

/-!
# What is missing and what is decided

The readiness report and the weekly decision walk the same gates in two
functions.  A gate that holds a platform at some instant is in the report, and
with nothing in the report no gate but the cadence ever holds one.
-/

/-- A blocker stands in the way of a platform, alone or with all others. -/
def JoinAskBlocker.Names (blocker : JoinAskBlocker) (platform : Text)
    (hold : JoinAskHold) : Prop :=
  blocker.hold = hold ∧ (blocker.platform = none ∨ blocker.platform = some platform)

/-- A platform is asked, or waits for no more than its cadence. -/
def JoinAskPlan.Answers (plan : JoinAskPlan) (platform : Text) : Prop :=
  ((∃ ask ∈ plan.asks, ask.platform = platform) ∨
      ∃ hold, (platform, hold) ∈ plan.held) ∧
    ∀ hold, (platform, hold) ∈ plan.held → hold.needsAPerson = false

variable {snapshot : JoinAskSnapshot} {platform : Text} {now : OffsetDateTime}

section Gates

variable {hold : JoinAskHold}

theorem mem_readiness_of_platform {blocker : JoinAskBlocker}
    (configured : platform ∈ snapshot.platforms)
    (blocks : blocker ∈ platformBlockers snapshot platform) :
    blocker ∈ joinAskReadiness snapshot :=
  List.mem_append_right _ (List.mem_flatMap.mpr ⟨platform, configured, blocks⟩)

theorem named_of_hold (configured : platform ∈ snapshot.platforms)
    (held : joinAskHold snapshot now platform = some hold) (waits : hold.needsAPerson = true) :
    ∃ blocker ∈ joinAskReadiness snapshot, blocker.Names platform hold := by
  rw [joinAskHold] at held
  split_ifs at held with noWords executes connected _ photoless noSite
  all_goals cases held
  · refine ⟨⟨none, .noVariants⟩, ?_, rfl, Or.inl rfl⟩
    simp [joinAskReadiness, noWords]
  · refine ⟨⟨some platform, .noExecutor⟩, ?_, rfl, Or.inr rfl⟩
    apply mem_readiness_of_platform configured
    rw [platformBlockers, if_pos executes]
    exact List.mem_singleton_self _
  · refine ⟨⟨some platform, .notConnected⟩, ?_, rfl, Or.inr rfl⟩
    apply mem_readiness_of_platform configured
    rw [platformBlockers, if_neg executes, if_pos connected]
    exact List.mem_cons_self
  · cases waits
  · refine ⟨⟨some platform, .noInstagramPhoto⟩, ?_, rfl, Or.inr rfl⟩
    apply mem_readiness_of_platform configured
    rw [platformBlockers, if_neg executes, if_pos photoless]
    exact List.mem_append_right _ (List.mem_singleton_self _)
  · refine ⟨⟨none, .noSiteUrl⟩, ?_, rfl, Or.inl rfl⟩
    simp [joinAskReadiness, noSite]

theorem needsAPerson_eq_false_iff : hold.needsAPerson = false ↔ hold = .onCadence := by
  cases hold <;> decide

theorem onCadence_of_ready (ready : joinAskReadiness snapshot = [])
    (configured : platform ∈ snapshot.platforms)
    (held : joinAskHold snapshot now platform = some hold) :
    hold.needsAPerson = false := by
  apply Bool.eq_false_of_not_eq_true
  intro waits
  obtain ⟨blocker, reported, _⟩ := named_of_hold configured held waits
  rw [ready] at reported
  cases reported

theorem exists_pastCadence (snapshot : JoinAskSnapshot) :
    ∃ now, ∀ platform, joinAskHold snapshot now platform ≠ some .onCadence := by
  obtain ⟨latest, isLatest⟩ := (snapshot.posts.map JoinAskPostRow.createdAt).finite_toSet.bddAbove
  refine ⟨latest + snapshot.cadenceDays.val * nanosPerDay, ?_⟩
  intro platform held
  rw [joinAskHold, add_sub_cancel_right] at held
  split_ifs at held with _ _ _ live <;> cases held
  obtain ⟨post, isPost, isLive⟩ := List.any_eq_true.mp live
  have created : latest < post.createdAt := of_decide_eq_true (Bool.and_eq_true_iff.mp isLive).2
  have older : post.createdAt ≤ latest := isLatest (List.mem_map_of_mem isPost)
  exact absurd created (not_lt.mpr older)

theorem nothing_missing_of_unheld (unheld : joinAskHold snapshot now platform = none) :
    snapshot.variants ≠ [] ∧ snapshot.memberSiteBaseUrl ≠ none ∧
      platformBlockers snapshot platform = [] := by
  rw [joinAskHold] at unheld
  split_ifs at unheld with noWords executes connected _ photoless noSite
  refine ⟨noWords, noSite, ?_⟩
  rw [platformBlockers, if_neg executes, if_neg connected, if_neg photoless, List.append_nil]

theorem ready_of_unheld (configured : snapshot.platforms ≠ [])
    (unheld : ∀ platform ∈ snapshot.platforms, joinAskHold snapshot now platform = none) :
    joinAskReadiness snapshot = [] := by
  obtain ⟨platform, isPlatform⟩ := List.exists_mem_of_ne_nil _ configured
  obtain ⟨words, site, _⟩ := nothing_missing_of_unheld (unheld platform isPlatform)
  rw [joinAskReadiness, if_neg words, if_neg site, List.nil_append, List.nil_append]
  apply List.flatMap_eq_nil_iff.mpr
  intro other isOther
  exact (nothing_missing_of_unheld (unheld other isOther)).2.2

end Gates

section Agreement

variable {Number : Type} [Field Number] [LinearOrder Number] {curves : BanditCurves Number}

theorem answers_iff (configured : platform ∈ snapshot.platforms) :
    (evaluateJoinAsk curves snapshot now).Answers platform ↔
      ∀ hold, joinAskHold snapshot now platform = some hold → hold.needsAPerson = false := by
  constructor
  · intro answered hold held
    exact answered.2 hold (mem_held_iff.mpr ⟨configured, held⟩)
  · intro onlyCadence
    refine ⟨?_, fun hold held => onlyCadence hold (mem_held_iff.mp held).2⟩
    cases outcome : joinAskHold snapshot now platform with
    | some hold => exact Or.inr ⟨hold, mem_held_iff.mpr ⟨configured, outcome⟩⟩
    | none =>
      obtain ⟨base, site⟩ := memberSite_of_unheld outcome
      left
      refine ⟨platformAsk curves snapshot now base platform, ?_, rfl⟩
      exact (mem_asks_iff _).mpr ⟨platform, configured, outcome, base, site, rfl⟩

theorem ready_iff_answers (configured : snapshot.platforms ≠ []) :
    joinAskReadiness snapshot = [] ↔
      ∀ now, ∀ platform ∈ snapshot.platforms,
        (evaluateJoinAsk curves snapshot now).Answers platform := by
  constructor
  · intro ready now platform isPlatform
    apply (answers_iff isPlatform).mpr
    intro hold held
    exact onCadence_of_ready ready isPlatform held
  · intro answered
    obtain ⟨later, pastCadence⟩ := exists_pastCadence snapshot
    apply ready_of_unheld configured
    intro platform isPlatform
    cases outcome : joinAskHold snapshot later platform with
    | none => rfl
    | some hold =>
      have cadence := (answers_iff isPlatform).mp (answered later platform isPlatform) hold outcome
      rw [needsAPerson_eq_false_iff] at cadence
      exact absurd (cadence ▸ outcome) (pastCadence platform)

/-- The report and the decision agree on what is missing. -/
theorem readiness_agrees
    (curves : BanditCurves Number)
    (snapshot : JoinAskSnapshot)
    (configured : snapshot.platforms ≠ []) :
    (joinAskReadiness snapshot = [] ↔
        ∀ now, ∀ platform ∈ snapshot.platforms,
          (evaluateJoinAsk curves snapshot now).Answers platform) ∧
      ∀ now platform hold,
        (platform, hold) ∈ (evaluateJoinAsk curves snapshot now).held →
          hold.needsAPerson = true →
            ∃ blocker ∈ joinAskReadiness snapshot, blocker.Names platform hold := by
  refine ⟨ready_iff_answers configured, ?_⟩
  intro now platform hold held waits
  obtain ⟨isPlatform, gate⟩ := mem_held_iff.mp held
  exact named_of_hold isPlatform gate waits

/-- A tenant with a fresh post on Instagram and no picture for the next. -/
def withoutPicture : JoinAskSnapshot where
  captureContext := none
  variants := ["join us".toList]
  cadenceDays := 7
  platforms := ["facebook".toList, instagram]
  memberSiteBaseUrl := some "https://band.example".toList
  connectedPlatforms := ["facebook".toList, instagram]
  posts :=
    [{ captureContext := none
       platform := instagram
       status := "posted".toList
       createdAt := 100 * nanosPerDay
       text := "join us".toList
       postedAt := some (100 * nanosPerDay)
       fans7d := none }]
  instagramPhotoCount := 0
  imageUrl := none

theorem readiness_agrees_withoutPicture :
    (evaluateJoinAsk (⟨id, id⟩ : BanditCurves ℚ) withoutPicture
          (101 * nanosPerDay)).held =
        [(instagram, .onCadence)] ∧
      ¬ ∀ now, ∀ platform ∈ withoutPicture.platforms,
        (evaluateJoinAsk (⟨id, id⟩ : BanditCurves ℚ) withoutPicture
          now).Answers platform := by
  have configured : withoutPicture.platforms ≠ [] := by decide
  refine ⟨by decide +kernel, ?_⟩
  rw [← (readiness_agrees _ withoutPicture configured).1]
  decide +kernel

end Agreement

end CrowdRelay
