import Mathlib.Data.List.Lex
import Mathlib.Order.OrderDual
import CrowdRelay.BookingWindow
import CrowdRelay.ContentSupply
import CrowdRelay.OrderedMaps
import CrowdRelay.StableRanking

namespace CrowdRelay

open MachineInt OrderedMaps StableRanking

/-!
# The release calendar of a roster

Two acts of one roster that release in the same week compete for the same press
and the same fans.  For every such week the calendar proposes a move: which
release yields the week, and why.
-/

/-- How many weeks ahead the calendar reads. -/
def lookaheadWeeks : Nat := 12

structure RosterRelease where
  workspaceId : Uuid
  actName : String
  releaseId : Uuid
  title : String
  releaseAt : OffsetDateTime
  tier : ReleaseTier
  assetsReady : Bool
  deriving Repr, DecidableEq

/-- A proposed move, the releases of the week in the order of their standing. -/
structure ReleaseCollision where
  weekStart : Date
  releases : List RosterRelease
  staysWorkspaceId : Uuid
  staysAct : String
  movesWorkspaceId : Uuid
  movesAct : String
  reason : String
  sharedFans : Option U32
  deriving Repr, DecidableEq

structure RosterReleaseCalendar where
  organizationId : Uuid
  generatedAt : OffsetDateTime
  lookaheadWeeks : Nat
  releases : List RosterRelease
  collisions : List ReleaseCollision
  deriving Repr, DecidableEq

/-- How many active fans two workspaces share, the smaller id first. -/
abbrev SharedByPair := Uuid × Uuid → Option U32

namespace RosterReleaseCalendar

/-- The Monday of the week of an instant; the epoch was a Thursday. -/
def weekStart (atTime : OffsetDateTime) : Date := dateOf atTime - (dateOf atTime + 3) % 7

/-- How committed a release is; higher keeps the week. -/
abbrev ReleaseStanding := Nat ×ₗ Bool ×ₗ OffsetDateTimeᵒᵈ ×ₗ List Char ×ₗ Nat

def tierRank : ReleaseTier → Nat
  | .single => 2
  | .track => 1
  | .filler => 0

def standingKey (release : RosterRelease) : ReleaseStanding :=
  toLex
    (tierRank release.tier,
      toLex
        (release.assetsReady,
          toLex
            (OrderDual.toDual release.releaseAt,
              toLex (release.actName.toList, release.workspaceId.toNat))))

/-- The releases by descending standing. -/
def ranked (releases : List RosterRelease) : List RosterRelease := descending standingKey releases

def tierName : ReleaseTier → String
  | .single => "a Single"
  | .track => "a Track"
  | .filler => "a Filler"

/-- The rule that decides between the release that stays and the mover. -/
def movingRule (anchor mover : RosterRelease) : String :=
  if anchor.tier ≠ mover.tier then
    tierName mover.tier ++ " moves before " ++ tierName anchor.tier ++
      " — the bigger moment keeps the week"
  else if anchor.assetsReady ≠ mover.assetsReady then
    "the release whose assets are still incomplete moves — it can slip for less"
  else
    "the later-announced release moves — the earlier one claimed the week"

def overlapNote : Option U32 → String
  | none => ""
  | some shared =>
    if shared.val = 0 then
      "; the two audiences share nobody measurable — this is a press clash only"
    else
      "; the two acts share " ++ toString shared.val ++
        " active fans — the clash costs fans, not only press"

variable (week : Date)

/-- The proposal that one release of a week yields it to another. -/
def proposal (anchor mover : RosterRelease) (rest : List RosterRelease)
    (sharedFans : Option U32) : ReleaseCollision where
  weekStart := week
  releases := anchor :: mover :: rest
  staysWorkspaceId := anchor.workspaceId
  staysAct := anchor.actName
  movesWorkspaceId := mover.workspaceId
  movesAct := mover.actName
  reason :=
    mover.title ++ " releases the same week as " ++ anchor.title ++ ". " ++
      movingRule anchor mover ++ overlapNote sharedFans ++
      ". Move it a week later."
  sharedFans := sharedFans

/-- The first of the ranking keeps the week, the second is asked to move. -/
def proposeMove (releases : List RosterRelease)
    (sharedFans : Option U32) : Option ReleaseCollision :=
  match ranked releases with
  | anchor :: mover :: rest => some (proposal week anchor mover rest sharedFans)
  | _ => none

variable (sharedByPair : SharedByPair)

/-- The fans two acts share; a pair without a count shares nobody. -/
def sharedFansOf
    (first second : RosterRelease) : Option U32 :=
  let pair :=
    if first.workspaceId < second.workspaceId then
      (first.workspaceId, second.workspaceId)
    else
      (second.workspaceId, first.workspaceId)
  (sharedByPair pair).or (some 0)

def weekCollision (week : Date)
    (weekReleases : List RosterRelease) : Option ReleaseCollision :=
  match ranked weekReleases with
  | first :: second :: rest =>
    proposeMove week (first :: second :: rest) (sharedFansOf sharedByPair first second)
  | _ => none

def compose (organizationId : Uuid) (generatedAt : OffsetDateTime) (releases : List RosterRelease)
    (sharedByPair : SharedByPair) : RosterReleaseCalendar where
  organizationId := organizationId
  generatedAt := generatedAt
  lookaheadWeeks := CrowdRelay.lookaheadWeeks
  releases := releases
  collisions :=
    (OrderedMap.grouped (fun release => weekStart release.releaseAt)
        releases).entries.filterMap
      fun entry => weekCollision sharedByPair entry.1 entry.2

end RosterReleaseCalendar

open RosterReleaseCalendar

/-!
## Who is asked to move

The release that is asked to move is the second of the ranking of its week.  It
is the weakest of the week only where nothing ranks below it, and it is the same
for every order of the releases only where equal standings are equal releases.
-/

namespace ReleaseCollision

def anchor (collision : ReleaseCollision) : Option RosterRelease := collision.releases[0]?

def mover (collision : ReleaseCollision) : Option RosterRelease := collision.releases[1]?

/-- What a collision names: its week, who stays, who moves, and why. -/
def named (collision : ReleaseCollision) :
    Date × Option RosterRelease × Option RosterRelease × String :=
  (collision.weekStart, collision.anchor, collision.mover, collision.reason)

end ReleaseCollision

def inWeek (week : Date) (releases : List RosterRelease) : List RosterRelease :=
  releases.filter fun release => weekStart release.releaseAt = week

structure WeakestMoves
    (organizationId : Uuid)
    (generatedAt : OffsetDateTime)
    (sharedByPair : SharedByPair)
    (releases : List RosterRelease) : Prop where
  anyOrder :
    ∀ others, releases.Perm others →
      (compose organizationId generatedAt others sharedByPair).collisions.map
          ReleaseCollision.named =
        (compose organizationId generatedAt releases
            sharedByPair).collisions.map
          ReleaseCollision.named
  weakest :
    ∀ collision ∈
      (compose organizationId generatedAt releases sharedByPair).collisions,
      ∀ mover ∈ collision.mover, ∀ release ∈ releases,
        weekStart release.releaseAt = collision.weekStart →
        standingKey mover ≤ standingKey release

/-- A release that stands above another one of its week. -/
def Outranks (releases : List RosterRelease) (release : RosterRelease) : Bool :=
  releases.any fun other => standingKey other < standingKey release

/-- At most one release stands above others, and equals are the same. -/
structure SettledWeek (releases : List RosterRelease) : Prop where
  oneOutranks : releases.countP (Outranks releases) ≤ 1
  untied : Untied standingKey releases

section Weeks

variable {organizationId : Uuid} {generatedAt : OffsetDateTime}
  {sharedByPair : SharedByPair} {releases others : List RosterRelease} {week : Date}
  {anchor mover : RosterRelease} {rest : List RosterRelease}

theorem weekCollision_of_ranked (isRanked : ranked releases = anchor :: mover :: rest) :
    weekCollision sharedByPair week releases =
      some (proposal week anchor mover rest (sharedFansOf sharedByPair anchor mover)) := by
  have again : ranked (anchor :: mover :: rest) = anchor :: mover :: rest := by
    rw [← isRanked]
    exact descending_descending releases
  rw [weekCollision, isRanked]
  dsimp only
  rw [proposeMove, again]

theorem weekCollision_eq_some_iff {collision : ReleaseCollision} :
    weekCollision sharedByPair week releases = some collision ↔
      ∃ anchor mover rest,
        ranked releases = anchor :: mover :: rest ∧
          collision = proposal week anchor mover rest (sharedFansOf sharedByPair anchor mover) := by
  constructor
  · intro proposed
    match isRanked : ranked releases with
    | [] =>
      rw [weekCollision, isRanked] at proposed
      cases proposed
    | [_] =>
      rw [weekCollision, isRanked] at proposed
      cases proposed
    | anchor :: mover :: rest =>
      rw [weekCollision_of_ranked isRanked] at proposed
      exact ⟨anchor, mover, rest, rfl, (Option.some.inj proposed).symm⟩
  · rintro ⟨anchor, mover, rest, isRanked, rfl⟩
    exact weekCollision_of_ranked isRanked

def calendarWeeks (releases : List RosterRelease) : List Date :=
  (OrderedMap.grouped (fun release => weekStart release.releaseAt) releases).keys

theorem calendarWeeks_perm (same : releases.Perm others) :
    calendarWeeks releases = calendarWeeks others := by
  refine OrderedMap.keys_eq fun week => ?_
  have filtered := same.filter fun release : RosterRelease =>
      decide (weekStart release.releaseAt = week)
  rw [OrderedMap.get?_grouped, OrderedMap.get?_grouped]
  by_cases nothing : releases.filter (fun release => weekStart release.releaseAt = week) = []
  · have stillNothing : others.filter (fun release => weekStart release.releaseAt = week) = [] :=
      (nothing ▸ filtered).nil_eq.symm
    rw [if_pos nothing, if_pos stillNothing]
  · have stillSome :
        others.filter (fun release => weekStart release.releaseAt = week) ≠
          [] := fun none => nothing (none ▸ filtered).eq_nil
    rw [if_neg nothing, if_neg stillSome]
    rfl

theorem collisions_eq :
    (compose organizationId generatedAt releases sharedByPair).collisions =
      (calendarWeeks releases).filterMap fun week =>
        weekCollision sharedByPair week (inWeek week releases) := by
  rw [compose]
  dsimp only
  rw [OrderedMap.filterMap_entries]
  refine List.filterMap_congr fun week _ => ?_
  rw [OrderedMap.get?_grouped]
  split
  · rename_i nothing
    rw [inWeek, nothing]
    rfl
  · rfl

theorem mem_collisions_iff {collision : ReleaseCollision} :
    collision ∈ (compose organizationId generatedAt releases sharedByPair).collisions ↔
      weekCollision sharedByPair collision.weekStart (inWeek collision.weekStart releases) =
        some collision := by
  rw [collisions_eq, List.mem_filterMap]
  constructor
  · rintro ⟨week, _, proposed⟩
    obtain ⟨anchor, mover, rest, isRanked, rfl⟩ := weekCollision_eq_some_iff.mp proposed
    exact proposed
  · intro proposed
    refine ⟨collision.weekStart, ?_, proposed⟩
    rw [calendarWeeks, OrderedMap.mem_keys_iff, OrderedMap.get?_grouped]
    split
    · rename_i nothing
      rw [inWeek, nothing] at proposed
      cases proposed
    · rfl

theorem mem_inWeek {release : RosterRelease} :
    release ∈ inWeek week releases ↔ release ∈ releases ∧ weekStart release.releaseAt = week := by
  rw [inWeek, List.mem_filter, decide_eq_true_iff]

section Ranked

variable (isRanked : ranked releases = anchor :: mover :: rest)

include isRanked

theorem mem_of_ranked {release : RosterRelease} :
    release ∈ releases ↔ release ∈ anchor :: mover :: rest := by
  rw [← isRanked]
  exact (descending_perm standingKey releases).mem_iff.symm

theorem ranked_pairwise :
    (anchor :: mover :: rest).Pairwise fun one other =>
      standingKey other ≤ standingKey one := by
  rw [← isRanked]
  exact descending_pairwise standingKey releases

theorem mover_le_anchor : standingKey mover ≤ standingKey anchor :=
  List.rel_of_pairwise_cons (ranked_pairwise isRanked) List.mem_cons_self

theorem eq_anchor_of_mover_lt {release : RosterRelease} (isRelease : release ∈ releases)
    (above : standingKey mover < standingKey release) :
    release = anchor := by
  rcases List.mem_cons.mp ((mem_of_ranked isRanked).mp isRelease) with
    isAnchor | isLater
  · exact isAnchor
  · have ordered := (List.pairwise_cons.mp (ranked_pairwise isRanked)).2
    rcases List.mem_cons.mp isLater with isMover | isRest
    · exact absurd above (isMover ▸ lt_irrefl _)
    · exact absurd above
        (not_lt.mpr (List.rel_of_pairwise_cons ordered isRest))

theorem countP_outranks :
    releases.countP (Outranks releases) = (anchor :: mover :: rest).countP (Outranks releases) := by
  rw [← isRanked]
  exact ((descending_perm standingKey releases).countP_eq _).symm

/-- One release at most stands above others exactly if the mover is weakest. -/
theorem oneOutranks_iff :
    releases.countP (Outranks releases) ≤ 1 ↔
      ∀ release ∈ releases, standingKey mover ≤ standingKey release := by
  constructor
  · intro atMostOne release isRelease
    by_contra notLeast
    have below := not_le.mp notLeast
    have moverOutranks : Outranks releases mover = true :=
      List.any_eq_true.mpr ⟨release, isRelease, decide_eq_true below⟩
    have anchorOutranks : Outranks releases anchor = true := List.any_eq_true.mpr
        ⟨release, isRelease, decide_eq_true (below.trans_le (mover_le_anchor isRanked))⟩
    rw [countP_outranks isRanked, List.countP_cons_of_pos anchorOutranks,
      List.countP_cons_of_pos moverOutranks] at atMostOne
    omega
  · intro least
    have noOther : ∀ release ∈ mover :: rest, ¬ Outranks releases release = true := by
      intro release isLater outranks
      obtain ⟨other, isOther, below⟩ := List.any_eq_true.mp outranks
      have ordered := ranked_pairwise isRanked
      have atMost : standingKey release ≤ standingKey mover := by
        rcases List.mem_cons.mp isLater with isMover | isRest
        · exact isMover ▸ le_rfl
        · exact List.rel_of_pairwise_cons (List.pairwise_cons.mp ordered).2
            isRest
      exact absurd ((of_decide_eq_true below).trans_le atMost) (not_lt.mpr (least other isOther))
    have none : (mover :: rest).countP (Outranks releases) = 0 := List.countP_eq_zero.mpr noOther
    rw [countP_outranks isRanked, List.countP_cons, none]
    split <;> omega

end Ranked

theorem eq_of_first {release : RosterRelease}
    (isRanked : ranked (release :: others) = anchor :: mover :: rest)
    (isMover : standingKey mover = standingKey release) :
    release = if standingKey anchor = standingKey release then anchor else mover := by
  have same := @filter_descending RosterRelease ReleaseStanding _ standingKey
      (release :: others) (standingKey release)
  have front :
      (release :: others).filter (fun item => standingKey item = standingKey release) = release ::
          others.filter fun item =>
            standingKey item = standingKey release :=
    List.filter_cons_of_pos (decide_eq_true rfl)
  rw [← ranked, isRanked, front] at same
  by_cases anchorToo : standingKey anchor = standingKey release
  · rw [List.filter_cons_of_pos (by simpa using anchorToo)] at same
    rw [if_pos anchorToo]
    exact (List.cons.inj same).1.symm
  · rw [List.filter_cons_of_neg (by simpa using anchorToo),
      List.filter_cons_of_pos (by simpa using isMover)] at same
    rw [if_neg anchorToo]
    exact (List.cons.inj same).1.symm

section Law

variable (law : WeakestMoves organizationId generatedAt sharedByPair releases)
  (isRanked : ranked (inWeek week releases) = anchor :: mover :: rest)

include law isRanked

theorem WeakestMoves.mover_le :
    ∀ release ∈ inWeek week releases, standingKey mover ≤ standingKey release := by
  intro release isRelease
  obtain ⟨listed, sameWeek⟩ := mem_inWeek.mp isRelease
  have isCollision :
      proposal week anchor mover rest (sharedFansOf sharedByPair anchor mover) ∈
        (compose organizationId generatedAt releases sharedByPair).collisions :=
    mem_collisions_iff.mpr (weekCollision_of_ranked isRanked)
  exact law.weakest _ isCollision mover rfl release listed sameWeek

/-- Brought to the front, a release of the weakest standing is named. -/
theorem WeakestMoves.eq_of_least {release : RosterRelease}
    (isRelease : release ∈ inWeek week releases)
    (isMover : standingKey mover = standingKey release) :
    release = if standingKey anchor = standingKey release then anchor else mover := by
  obtain ⟨listed, sameWeek⟩ := mem_inWeek.mp isRelease
  have brought : releases.Perm (release :: releases.erase release) := List.perm_cons_erase listed
  have frontWeek :
      inWeek week (release :: releases.erase release) =
        release :: inWeek week (releases.erase release) :=
    List.filter_cons_of_pos (by simpa using sameWeek)
  have named :
      (proposal week anchor mover rest (sharedFansOf sharedByPair anchor mover)).named ∈
        (compose organizationId generatedAt (release :: releases.erase release)
            sharedByPair).collisions.map
          ReleaseCollision.named := by
    rw [law.anyOrder _ brought]
    exact List.mem_map_of_mem (mem_collisions_iff.mpr (weekCollision_of_ranked isRanked))
  obtain ⟨collision, isCollision, sameNamed⟩ := List.mem_map.mp named
  have sameStart : collision.weekStart = week := congrArg Prod.fst sameNamed
  have sameAnchor : collision.anchor = some anchor := congrArg (fun parts => parts.2.1) sameNamed
  have sameMover : collision.mover = some mover := congrArg (fun parts => parts.2.2.1) sameNamed
  rw [mem_collisions_iff, sameStart, frontWeek] at isCollision
  obtain ⟨newAnchor, newMover, newRest, frontRanked, rfl⟩ :=
    weekCollision_eq_some_iff.mp isCollision
  cases sameAnchor
  cases sameMover
  exact eq_of_first frontRanked isMover

theorem WeakestMoves.settled : SettledWeek (inWeek week releases) := by
  have least := law.mover_le isRanked
  refine ⟨(oneOutranks_iff isRanked).mpr least, ?_⟩
  intro one isOne other isOther same
  rcases (least one isOne).eq_or_lt with isLeast | above
  · rw [law.eq_of_least isRanked isOne isLeast,
      law.eq_of_least isRanked isOther (isLeast.trans same), same]
  · rw [eq_anchor_of_mover_lt isRanked isOne above,
      eq_anchor_of_mover_lt isRanked isOther (same ▸ above)]

end Law

theorem settledWeek_of_length_le_one (short : releases.length ≤ 1) : SettledWeek releases := by
  refine ⟨List.countP_le_length.trans short, ?_⟩
  intro one isOne other isOther _
  match releases, short with
  | [], _ => cases isOne
  | [_], _ => rw [List.mem_singleton.mp isOne, List.mem_singleton.mp isOther]

theorem collisions_eq_of_settled (settled : ∀ week, SettledWeek (inWeek week releases))
    (same : releases.Perm others) :
    (compose organizationId generatedAt others sharedByPair).collisions =
      (compose organizationId generatedAt releases sharedByPair).collisions := by
  rw [collisions_eq, collisions_eq, calendarWeeks_perm same]
  refine List.filterMap_congr fun week _ => ?_
  have sameRanked : ranked (inWeek week releases) = ranked (inWeek week others) :=
    descending_eq_of_perm (settled week).untied (same.filter _)
  rw [weekCollision, weekCollision, sameRanked]

/--
The weakest release moves in any order exactly where in every week at most one
release stands above others and releases of equal standing are the same.
-/
theorem weakestMoves_iff
    (organizationId : Uuid)
    (generatedAt : OffsetDateTime)
    (sharedByPair : SharedByPair)
    (releases : List RosterRelease) :
    WeakestMoves organizationId generatedAt sharedByPair releases ↔
      ∀ week, SettledWeek (inWeek week releases) := by
  constructor
  · intro law week
    match isRanked : ranked (inWeek week releases) with
    | [] | [_] =>
      refine settledWeek_of_length_le_one ?_
      rw [← (descending_perm standingKey _).length_eq, ← ranked, isRanked]
      simp
    | anchor :: mover :: rest =>
      exact law.settled isRanked
  · intro settled
    refine ⟨?_, ?_⟩
    · intro others same
      rw [collisions_eq_of_settled settled same]
    · intro collision isCollision mover isMover release listed sameWeek
      obtain ⟨anchor, second, rest, isRanked, isProposal⟩ :=
        weekCollision_eq_some_iff.mp (mem_collisions_iff.mp isCollision)
      have isSecond : second = mover := by
        rw [isProposal] at isMover
        exact Option.some.inj isMover
      exact isSecond ▸
        (oneOutranks_iff isRanked).mp (settled collision.weekStart).oneOutranks
          release (mem_inWeek.mpr ⟨listed, sameWeek⟩)

end Weeks

/-- A single, a track and a filler of one week. -/
def threeInOneWeek : List RosterRelease :=
  [ReleaseTier.single, .track, .filler].map fun tier =>
    { workspaceId := 1
      actName := "act"
      releaseId := 1
      title := tierName tier
      releaseAt := 0
      tier := tier
      assetsReady := true }

/-- The track is asked to move, though the filler is left in its place. -/
theorem track_movesBeforeFiller :
    ((compose 1 0 threeInOneWeek fun _ => none).collisions.map fun collision =>
        collision.releases.map RosterRelease.tier) =
      [[.single, .track, .filler]] ∧
      ((compose 1 0 threeInOneWeek fun _ => none).collisions.map fun collision =>
        collision.mover.map RosterRelease.tier) =
      [some .track] ∧
      ¬ WeakestMoves 1 0 (fun _ => none) threeInOneWeek := by
  refine ⟨by decide +kernel, by decide +kernel, ?_⟩
  intro law
  have weakest := law.weakest
  exact absurd weakest (by decide +kernel)

end CrowdRelay
