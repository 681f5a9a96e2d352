import Mathlib.Algebra.Order.Field.Basic
import Mathlib.Data.Rat.Cast.Order
import CrowdRelay.Fallible
import CrowdRelay.RankedPrefix
import CrowdRelay.WeightedDraw

namespace CrowdRelay

open MachineInt Fallible RankedPrefix

/-!
# Who wins a weighted draw

The winners of a draw that completes are the first candidates of the ranking
who do not hold the prize yet.  More referrals or check-ins give a candidate
more entries, hence a smaller score, hence no later place.
-/

theorem orArithmetic_eq_ok_iff {α : Type} {checked : Option α} {value : α} :
    orArithmetic checked = .ok value ↔ checked = some value := by
  cases checked with
  | none => simp [orArithmetic]
  | some found => simp [orArithmetic]

theorem orArithmetic_tryFrom_iff {lo hi value : Int} {converted : Ranged lo hi} :
    orArithmetic (Ranged.tryFrom value) = .ok converted ↔ converted.val = value :=
  orArithmetic_eq_ok_iff.trans Ranged.tryFrom_eq_some_iff

variable {draw : DrawRow}

def DrawRow.entries (draw : DrawRow) (referrals checkins : Int) : Int :=
  let bonus := draw.maxEntries.val - draw.baseEntries.val
  let forReferrals := min (referrals * draw.entriesPerReferral.val) bonus
  let forCheckins := min (checkins * draw.entriesPerCheckin.val) (bonus - forReferrals)
  draw.baseEntries.val + forReferrals + forCheckins

def DrawRow.referralEntries (draw : DrawRow) (referrals : Int) : Int :=
  min (referrals * draw.entriesPerReferral.val) (draw.maxEntries.val - draw.baseEntries.val)

def DrawRow.checkinEntries (draw : DrawRow)
    (referrals checkins : Int) : Int :=
  min (checkins * draw.entriesPerCheckin.val)
    (draw.maxEntries.val - draw.baseEntries.val - draw.referralEntries referrals)

theorem entries_mono (referralsCount : 0 ≤ draw.entriesPerReferral.val)
    (checkinsCount : 0 ≤ draw.entriesPerCheckin.val)
    {referrals moreReferrals checkins moreCheckins : Int}
    (referralsGrow : referrals ≤ moreReferrals) (checkinsGrow : checkins ≤ moreCheckins) :
    draw.entries referrals checkins ≤ draw.entries moreReferrals moreCheckins := by
  have byReferrals := Int.mul_le_mul_of_nonneg_right referralsGrow referralsCount
  have byCheckins := Int.mul_le_mul_of_nonneg_right checkinsGrow checkinsCount
  simp only [DrawRow.entries]
  omega

def CandidateRow.Fits (draw : DrawRow) (candidate : CandidateRow) : Prop :=
  candidate.qualifiedReferrals.val ≤ 2147483647 ∧
    candidate.qualifiedReferrals.val * draw.entriesPerReferral.val ≤ 2147483647 ∧
    candidate.concertCheckins.val ≤ 2147483647 ∧
    candidate.concertCheckins.val * draw.entriesPerCheckin.val ≤ 2147483647

variable {tickets : Tickets} {seed : Seed}

section Candidates

variable {candidate : CandidateRow} {ranked : RankedCandidate}

theorem weightedScore_eq_ok_iff {fanId : Uuid} {entryCount : I32} {score : ℚ} :
    weightedScore tickets seed fanId entryCount = .ok score ↔
      0 < entryCount.val ∧ score = (tickets seed fanId).val / (entryCount.val : ℚ) := by
  have zero : (0 : I32).val = 0 := rfl
  unfold weightedScore
  split
  case isTrue nonpositive =>
    rw [Ranged.le_iff_val, zero] at nonpositive
    constructor
    · intro impossible
      cases impossible
    · rintro ⟨positive, _⟩
      omega
  case isFalse positive =>
    rw [Ranged.le_iff_val, zero] at positive
    rw [Except.ok.injEq]
    constructor
    · intro same
      exact ⟨by omega, same.symm⟩
    · rintro ⟨_, same⟩
      exact same.symm

/-- What a ranked candidate says about the row it was computed from. -/
structure RankedFrom
    (tickets : Tickets)
    (draw : DrawRow)
    (seed : Seed)
    (candidate : CandidateRow)
    (ranked : RankedCandidate) : Prop where
  fanId : ranked.fanId = candidate.fanId
  entryCount :
    ranked.entryCount.val =
      draw.entries candidate.qualifiedReferrals.val
        candidate.concertCheckins.val
  positive : 0 < ranked.entryCount.val
  score :
    ranked.selectionScore =
      (tickets seed candidate.fanId).val / (ranked.entryCount.val : ℚ)
  fits : candidate.Fits draw

/-- What a ranked candidate was computed from, with the entries that check-ins
were left. -/
theorem computed_of_rankCandidate
    (computed : rankCandidate tickets draw seed candidate = .ok ranked) :
    RankedFrom tickets draw seed candidate ranked ∧
      ranked.checkinEntries.val = draw.checkinEntries candidate.qualifiedReferrals.val
          candidate.concertCheckins.val := by
  unfold rankCandidate at computed
  obtain ⟨referrals, referralsDone, computed⟩ := bind_eq_ok_iff.mp computed
  obtain ⟨bonus, bonusDone, computed⟩ := bind_eq_ok_iff.mp computed
  obtain ⟨earned, earnedDone, computed⟩ := bind_eq_ok_iff.mp computed
  obtain ⟨checkins, checkinsDone, computed⟩ := bind_eq_ok_iff.mp computed
  obtain ⟨remaining, remainingDone, computed⟩ := bind_eq_ok_iff.mp computed
  obtain ⟨visited, visitedDone, computed⟩ := bind_eq_ok_iff.mp computed
  obtain ⟨entries, entriesDone, computed⟩ := bind_eq_ok_iff.mp computed
  obtain ⟨score, scoreDone, computed⟩ := bind_eq_ok_iff.mp computed
  cases computed
  have referralsVal := orArithmetic_tryFrom_iff.mp referralsDone
  have bonusVal := orArithmetic_tryFrom_iff.mp bonusDone
  have earnedVal := orArithmetic_tryFrom_iff.mp earnedDone
  have checkinsVal := orArithmetic_tryFrom_iff.mp checkinsDone
  have remainingVal := orArithmetic_tryFrom_iff.mp remainingDone
  have visitedVal := orArithmetic_tryFrom_iff.mp visitedDone
  obtain ⟨based, basedDone, entriesFound⟩ :=
    Option.bind_eq_some_iff.mp (orArithmetic_eq_ok_iff.mp entriesDone)
  have basedVal := Ranged.tryFrom_eq_some_iff.mp basedDone
  have entriesVal := Ranged.tryFrom_eq_some_iff.mp entriesFound
  obtain ⟨positive, scoreVal⟩ := weightedScore_eq_ok_iff.mp scoreDone
  rw [Ranged.val_min] at remainingVal basedVal entriesVal
  refine ⟨⟨rfl, ?_, positive, scoreVal, ?_⟩, ?_⟩
  · show entries.val = _
    simp only [DrawRow.entries]
    rw [entriesVal, basedVal, remainingVal, visitedVal, checkinsVal,
      earnedVal, bonusVal, referralsVal]
  · have referralsFit := referrals.upper
    have earnedFit := earned.upper
    have checkinsFit := checkins.upper
    have visitedFit := visited.upper
    rw [earnedVal, referralsVal] at earnedFit
    rw [visitedVal, checkinsVal] at visitedFit
    exact ⟨by omega, earnedFit, by omega, visitedFit⟩
  · show (min visited remaining).val = _
    rw [Ranged.val_min, remainingVal, visitedVal, checkinsVal, earnedVal, bonusVal, referralsVal]
    rfl

theorem rankedFrom_of_rankCandidate
    (computed : rankCandidate tickets draw seed candidate = .ok ranked) :
    RankedFrom tickets draw seed candidate ranked :=
  (computed_of_rankCandidate computed).1

theorem exists_converted (value : Int) (lower : -2147483648 ≤ value) (upper : value ≤ 2147483647) :
    ∃ converted : I32,
      orArithmetic (Ranged.tryFrom value) = .ok converted ∧ converted.val = value :=
  ⟨⟨value, lower, upper⟩, orArithmetic_tryFrom_iff.mpr rfl, rfl⟩

/-- What `countsAreSound` checks of the entries, in the integers. -/
structure SoundEntries (draw : DrawRow) : Prop where
  winners : 0 < draw.winnerCount.val
  base : 0 < draw.baseEntries.val
  perReferral : 0 ≤ draw.entriesPerReferral.val
  perCheckin : 0 ≤ draw.entriesPerCheckin.val
  capped : draw.baseEntries.val ≤ draw.maxEntries.val

theorem soundEntries_of_validated (accepted : validateDraw draw = .ok ()) : SoundEntries draw := by
  have zero : (0 : I32).val = 0 := rfl
  have sound : draw.countsAreSound = true := by
    by_contra unsound
    rw [Bool.not_eq_true] at unsound
    simp [validateDraw, unsound] at accepted
  simp only [DrawRow.countsAreSound, Bool.and_eq_true, decide_eq_true_eq,
    Ranged.lt_iff_val, Ranged.le_iff_val, zero] at sound
  obtain ⟨⟨⟨⟨⟨⟨winners, base⟩, perReferral⟩, perCheckin⟩, capped⟩, _⟩, _⟩ := sound
  exact ⟨winners, base, perReferral, perCheckin, capped⟩

theorem exists_rankCandidate (sound : SoundEntries draw)
    (counted : 0 ≤ candidate.qualifiedReferrals.val ∧ 0 ≤ candidate.concertCheckins.val)
    (fits : candidate.Fits draw) :
    ∃ ranked, rankCandidate tickets draw seed candidate = .ok ranked := by
  obtain ⟨referralsFit, earnedFit, checkinsFit, visitedFit⟩ := fits
  obtain ⟨_, base, perReferral, perCheckin, capped⟩ := sound
  have maxUpper := draw.maxEntries.upper
  have earnedNonnegative := Int.mul_nonneg counted.1 perReferral
  have visitedNonnegative := Int.mul_nonneg counted.2 perCheckin
  obtain ⟨referrals, referralsDone, referralsVal⟩ :=
    exists_converted candidate.qualifiedReferrals.val (by omega) (by omega)
  obtain ⟨bonus, bonusDone, bonusVal⟩ :=
    exists_converted (draw.maxEntries.val - draw.baseEntries.val) (by omega) (by omega)
  obtain ⟨earned, earnedDone, earnedVal⟩ :=
    exists_converted (referrals.val * draw.entriesPerReferral.val)
      (by rw [referralsVal]; omega) (by rw [referralsVal]; omega)
  obtain ⟨checkins, checkinsDone, checkinsVal⟩ :=
    exists_converted candidate.concertCheckins.val (by omega) (by omega)
  rw [referralsVal] at earnedVal
  obtain ⟨remaining, remainingDone, remainingVal⟩ :=
    exists_converted (bonus.val - (min earned bonus).val)
      (by rw [Ranged.val_min]; omega) (by rw [Ranged.val_min]; omega)
  obtain ⟨visited, visitedDone, visitedVal⟩ :=
    exists_converted (checkins.val * draw.entriesPerCheckin.val)
      (by rw [checkinsVal]; omega) (by rw [checkinsVal]; omega)
  rw [checkinsVal] at visitedVal
  obtain ⟨based, basedDone, basedVal⟩ :=
    exists_converted (draw.baseEntries.val + (min earned bonus).val)
      (by rw [Ranged.val_min]; omega) (by rw [Ranged.val_min]; omega)
  rw [Ranged.val_min] at remainingVal basedVal
  obtain ⟨entries, entriesDone, entriesVal⟩ :=
    exists_converted (based.val + (min visited remaining).val)
      (by rw [Ranged.val_min]; omega) (by rw [Ranged.val_min]; omega)
  rw [Ranged.val_min] at entriesVal
  have entriesFound :
      orArithmetic
          ((draw.baseEntries.checkedAdd (min earned bonus)).bind
            fun value => value.checkedAdd (min visited remaining)) =
        .ok entries := by
    rw [orArithmetic_eq_ok_iff]
    exact Option.bind_eq_some_iff.mpr
      ⟨based, orArithmetic_eq_ok_iff.mp basedDone, orArithmetic_eq_ok_iff.mp entriesDone⟩
  have scored :
      weightedScore tickets seed candidate.fanId entries =
        .ok ((tickets seed candidate.fanId).val / (entries.val : ℚ)) :=
    weightedScore_eq_ok_iff.mpr ⟨by omega, rfl⟩
  refine ⟨_, bind_eq_ok_iff.mpr ⟨referrals, referralsDone,
    bind_eq_ok_iff.mpr ⟨bonus, bonusDone,
      bind_eq_ok_iff.mpr ⟨earned, earnedDone,
        bind_eq_ok_iff.mpr ⟨checkins, checkinsDone,
          bind_eq_ok_iff.mpr ⟨remaining, remainingDone,
            bind_eq_ok_iff.mpr ⟨visited, visitedDone,
              bind_eq_ok_iff.mpr ⟨entries, entriesFound, bind_eq_ok_iff.mpr ⟨_, scored, rfl⟩⟩⟩⟩⟩⟩⟩⟩⟩

end Candidates

variable {candidates : List RankedCandidate}

/-- What candidates are ranked by: the score, then the fan id. -/
def raceKey (candidate : RankedCandidate) : ℚ ×ₗ ℕ :=
  toLex (candidate.selectionScore, candidate.fanId.toNat)

theorem isLE_compareCandidates_iff {left right : RankedCandidate} :
    (compareCandidates left right).isLE = true ↔ raceKey left ≤ raceKey right := by
  unfold compareCandidates raceKey
  rw [Ordering.isLE_then_iff_or, compare_lt_iff_lt, compare_eq_iff_eq,
    isLE_compare_uuid_iff, Prod.Lex.toLex_le_toLex]

theorem raceKey_nodup (distinct : (candidates.map RankedCandidate.fanId).Nodup) :
    (candidates.map raceKey).Nodup := by
  rw [List.Nodup, List.pairwise_map] at distinct ⊢
  refine distinct.imp ?_
  intro left right different same
  have sameFan := (Prod.ext_iff.mp (toLex.injective same)).2
  exact different (BitVec.eq_of_toNat_eq sameFan)

theorem sortCandidates_perm (candidates : List RankedCandidate) :
    (sortCandidates candidates).Perm candidates :=
  List.perm_insertionSort _ candidates

theorem sortCandidates_ranked (distinct : (candidates.map RankedCandidate.fanId).Nodup) :
    Ranked raceKey (sortCandidates candidates) := by
  have byKey (left right : RankedCandidate) :
      (compareCandidates left right).isLE = true ↔ raceKey left ≤ raceKey right :=
    isLE_compareCandidates_iff
  exact ranked_insertionSort byKey (raceKey_nodup distinct)

theorem sortCandidates_eq_of_perm {candidates others : List RankedCandidate}
    (same : candidates.Perm others) (distinct : (candidates.map RankedCandidate.fanId).Nodup) :
    sortCandidates candidates = sortCandidates others := by
  have otherDistinct := (same.map RankedCandidate.fanId).nodup_iff.mp distinct
  have rearranged := (sortCandidates_perm candidates).trans
      (same.trans (sortCandidates_perm others).symm)
  exact Ranked.eq_of_perm rearranged (sortCandidates_ranked distinct)
    (sortCandidates_ranked otherDistinct)

section Issuing

variable {Row : Type} [rowEq : DecidableEq Row]
  {prepared : Uuid → Except DrawWorkerError Unit} {rowOf : Uuid → Row} {target : Nat}

/-- The candidates whose row is not in the table yet. -/
def unheld (rowOf : Uuid → Row) (table : List Row)
    (candidates : List RankedCandidate) : List RankedCandidate :=
  candidates.filter fun candidate => decide (rowOf candidate.fanId ∉ table)

/-- The ranks that follow the first `given` ones. -/
def ranksAfter (given count : Nat) : List Int := (List.range' (given + 1) count).map Int.ofNat

theorem ranksAfter_succ (given count : Nat) :
    ranksAfter given (count + 1) = ((given : Int) + 1) :: ranksAfter (given + 1) count := by
  simp [ranksAfter, List.range'_succ]

/-- How the state after the loop follows from the state before it. -/
structure Awarded
    (before : IssueState Row)
    (won : List RankedCandidate)
    (after : IssueState Row) : Prop where
  selected : after.selected = before.selected + won.length
  fans :
    after.winners.map DrawWinner.fanId =
      before.winners.map DrawWinner.fanId ++
        won.map RankedCandidate.fanId
  ranks :
    after.winners.map (fun winner => winner.winnerRank.val) =
      before.winners.map (fun winner => winner.winnerRank.val) ++
        ranksAfter before.selected won.length

omit rowEq in
theorem Awarded.nothing (state : IssueState Row) : Awarded state [] state :=
  ⟨rfl, by simp, by simp [ranksAfter]⟩

omit rowEq in
theorem Awarded.next {before middle after : IssueState Row} {first : RankedCandidate}
    {won : List RankedCandidate} (one : Awarded before [first] middle)
    (rest : Awarded middle won after) :
    Awarded before (first :: won) after := by
  obtain ⟨oneSelected, oneFans, oneRanks⟩ := one
  obtain ⟨restSelected, restFans, restRanks⟩ := rest
  refine ⟨?_, ?_, ?_⟩
  · simp only [List.length_cons, List.length_nil] at oneSelected ⊢
    omega
  · rw [restFans, oneFans]
    simp
  · simp only [List.length_cons, List.length_nil, Nat.zero_add]
      at oneSelected oneRanks
    rw [restRanks, oneRanks, oneSelected, List.length_cons, ranksAfter_succ, ranksAfter_succ]
    simp [ranksAfter]

theorem issueStep_cases {state next : IssueState Row} {candidate : RankedCandidate}
    (offered : issueStep prepared rowOf state candidate = .ok next) :
    (rowOf candidate.fanId ∈ state.table ∧ next = state) ∨
      (rowOf candidate.fanId ∉ state.table ∧
        next.table = rowOf candidate.fanId :: state.table ∧
        Awarded state [candidate] next) := by
  unfold issueStep at offered
  obtain ⟨_, _, offered⟩ := bind_eq_ok_iff.mp offered
  by_cases held : rowOf candidate.fanId ∈ state.table
  · left
    simp only [insertOnConflictDoNothing, if_pos held] at offered
    cases offered
    exact ⟨held, rfl⟩
  · right
    simp only [insertOnConflictDoNothing, if_neg held] at offered
    obtain ⟨rank, rankDone, offered⟩ := bind_eq_ok_iff.mp offered
    cases offered
    have rankVal := orArithmetic_tryFrom_iff.mp rankDone
    refine ⟨held, rfl, rfl, by simp, ?_⟩
    simp [rankVal, ranksAfter]

/-- The prizes go to the first candidates who do not hold one. -/
theorem issueWinners_awards (injective : Function.Injective rowOf)
    (distinct : (candidates.map RankedCandidate.fanId).Nodup) {state final : IssueState Row}
    (issued : issueWinners prepared rowOf target candidates state = .ok final) :
    Awarded state ((unheld rowOf state.table candidates).take (target - state.selected))
      final := by
  induction candidates generalizing state with
  | nil =>
    rw [← Except.ok.inj issued]
    simpa [unheld] using Awarded.nothing state
  | cons candidate rest inductionHypothesis =>
    obtain ⟨notLater, restDistinct⟩ := List.nodup_cons.mp distinct
    unfold issueWinners at issued
    split at issued
    case isTrue enough =>
      rw [← Except.ok.inj issued, Nat.sub_eq_zero_of_le enough, List.take_zero]
      exact Awarded.nothing state
    case isFalse wanted =>
      obtain ⟨next, offered, later⟩ := bind_eq_ok_iff.mp issued
      have laterAwards := inductionHypothesis restDistinct later
      rcases issueStep_cases offered with ⟨held, same⟩ | ⟨free, tableGrows, awarded⟩
      · have passedOver :
            unheld rowOf state.table (candidate :: rest) = unheld rowOf state.table rest := by
          simp [unheld, held]
        rw [same] at laterAwards
        rw [passedOver]
        exact laterAwards
      · have first :
            unheld rowOf state.table (candidate :: rest) =
              candidate :: unheld rowOf state.table rest := by
          simp [unheld, free]
        -- the new row is nobody else's
        have restUnheld : unheld rowOf next.table rest = unheld rowOf state.table rest := by
          refine List.filter_congr ?_
          intro other member
          have apart : rowOf other.fanId ≠ rowOf candidate.fanId := by
            intro sameRow
            exact notLater (List.mem_map.mpr ⟨other, member, injective sameRow⟩)
          simp [tableGrows, apart]
        have oneLess : target - state.selected = (target - next.selected) + 1 := by
          have counted := awarded.selected
          simp only [List.length_cons, List.length_nil] at counted
          omega
        rw [first, oneLess, List.take_succ_cons]
        rw [restUnheld] at laterAwards
        exact awarded.next laterAwards

/-- Below a target of the width of the ranks the loop runs through. -/
theorem exists_issueWinners (targetFits : target ≤ 2147483647)
    (ready : ∀ candidate ∈ candidates, prepared candidate.fanId = .ok ()) (state : IssueState Row) :
    ∃ final, issueWinners prepared rowOf target candidates state = .ok final := by
  induction candidates generalizing state with
  | nil => exact ⟨state, rfl⟩
  | cons candidate rest inductionHypothesis =>
    unfold issueWinners
    split
    case isTrue => exact ⟨state, rfl⟩
    case isFalse wanted =>
      have offered : ∃ next, issueStep prepared rowOf state candidate = .ok next := by
        obtain ⟨rank, rankDone, _⟩ := exists_converted ((state.selected + 1 : Nat) : Int)
            (by omega) (by omega)
        have isReady := ready candidate (List.mem_cons_self ..)
        by_cases held : rowOf candidate.fanId ∈ state.table
        · exact ⟨state, bind_eq_ok_iff.mpr ⟨(), isReady, by
            simp [insertOnConflictDoNothing, held]⟩⟩
        · refine ⟨⟨rowOf candidate.fanId :: state.table,
            state.selected + 1,
            state.winners ++ [⟨candidate.fanId, rank⟩]⟩, ?_⟩
          refine bind_eq_ok_iff.mpr ⟨(), isReady, ?_⟩
          simp only [insertOnConflictDoNothing, if_neg held]
          exact bind_eq_ok_iff.mpr ⟨rank, rankDone, rfl⟩
      obtain ⟨next, offeredNext⟩ := offered
      obtain ⟨final, later⟩ := inductionHypothesis
          (fun other member =>
            ready other (List.mem_cons_of_mem _ member)) next
      exact ⟨final, bind_eq_ok_iff.mpr ⟨next, offeredNext, later⟩⟩

end Issuing

variable {clock : Clock} {ledger : DrawLedger}

section Prizes

/-- How many prizes a draw issues at most. -/
def DrawRow.target (draw : DrawRow) (ledger : DrawLedger) : Nat :=
  if draw.prizeKind = "admission_pass" then
    match draw.eventId, draw.admissionPoolId with
    | some eventId, some poolId =>
      ((ledger.activePool poolId eventId).map draw.admissionTarget).getD 0
    | _, _ => 0
  else
    draw.winnerCount.val.toNat

/-- A fan who holds the prize already, whose insert is a conflict. -/
def DrawRow.alreadyHolds (draw : DrawRow) (ledger : DrawLedger)
    (fanId : Uuid) : Bool :=
  if draw.prizeKind = "admission_pass" then
    draw.admissionPoolId.any fun poolId =>
      decide (AdmissionPass.mk poolId fanId ∈ ledger.admissionPasses)
  else
    draw.rewardRuleId.any fun ruleId =>
      decide (draw.grantOf ruleId fanId ∈ ledger.rewardGrants)

/-- The passes given out or reserved from a pool. -/
def AdmissionPool.committed (pool : AdmissionPool) : Int :=
  pool.issuedCount.val + pool.reservedCount.val

/-- A pool after a draw is the pool before it with passes counted in, and
within its capacity if it was before. -/
def PoolKept (before after : AdmissionPool) : Prop :=
  after.capacity = before.capacity ∧
    (before.committed ≤ before.capacity.val → after.committed ≤ after.capacity.val)

theorem PoolKept.refl (pool : AdmissionPool) : PoolKept pool pool := ⟨rfl, id⟩

/-- The candidates who win, in the order of the ranking. -/
def winningCandidates (draw : DrawRow) (ledger : DrawLedger)
    (candidates : List RankedCandidate) : List RankedCandidate :=
  (candidates.filter fun candidate =>
    !draw.alreadyHolds ledger candidate.fanId).take (draw.target ledger)

structure PrizesIssued
    (draw : DrawRow)
    (ledger : DrawLedger)
    (candidates : List RankedCandidate)
    (issued : IssuedPrizes) : Prop where
  selected :
    issued.selected = (winningCandidates draw ledger candidates).length
  fans :
    issued.winners.map DrawWinner.fanId =
      (winningCandidates draw ledger candidates).map RankedCandidate.fanId
  ranks :
    issued.winners.map (fun winner => winner.winnerRank.val) =
      ranksAfter 0 issued.selected
  pools :
    ∀ poolId after, issued.ledger.admissionPools poolId = some after →
      ∃ before, ledger.admissionPools poolId = some before ∧
        PoolKept before after

variable {issued : IssuedPrizes} {pool : AdmissionPool} {selected : Nat}

theorem poolKept_of_counted {issuedCount : I32} (within : selected ≤ draw.admissionTarget pool)
    (counted : issuedCount.val = pool.issuedCount.val + selected) :
    PoolKept pool { pool with issuedCount := issuedCount } := by
  refine ⟨rfl, fun committed => ?_⟩
  have zero : (0 : I32).val = 0 := rfl
  have reservedLower := pool.reservedCount.lower
  unfold DrawRow.admissionTarget AdmissionPool.available at within
  rw [Ranged.val_max, Ranged.val_min, Ranged.val_saturatingSub,
    Ranged.val_saturatingSub, zero] at within
  simp only [AdmissionPool.committed] at committed ⊢
  omega

theorem activePool_eq_some {poolId eventId : Uuid}
    (active : ledger.activePool poolId eventId = some pool) :
    ledger.admissionPools poolId = some pool := by
  unfold DrawLedger.activePool at active
  exact (Option.filter_eq_some_iff.mp active).1

theorem admissionPools_countIssued {poolId : Uuid}
    (present : ledger.admissionPools poolId = some pool)
    (within : selected ≤ draw.admissionTarget pool) {counted : DrawLedger}
    (done : countIssued ledger poolId pool selected = .ok counted) (otherId : Uuid)
    (after : AdmissionPool) (found : counted.admissionPools otherId = some after) :
    ∃ before, ledger.admissionPools otherId = some before ∧ PoolKept before after := by
  unfold countIssued at done
  obtain ⟨passes, passesDone, done⟩ := bind_eq_ok_iff.mp done
  have passesVal := orArithmetic_tryFrom_iff.mp passesDone
  split at done
  case h_1 => cases done
  case h_2 issuedCount summed =>
    have countedVal := Ranged.tryFrom_eq_some_iff.mp summed
    cases done
    by_cases isPool : otherId = poolId
    · subst isPool
      simp only [Function.update_self, Option.some.injEq] at found
      rw [← found]
      exact ⟨pool, present, poolKept_of_counted within (by rw [countedVal, passesVal])⟩
    · simp only [Function.update_of_ne isPool] at found
      exact ⟨after, found, PoolKept.refl after⟩

theorem admissionTarget_le (pool : AdmissionPool) :
    draw.admissionTarget pool ≤ draw.winnerCount.val.toNat := by
  have zero : (0 : I32).val = 0 := rfl
  unfold DrawRow.admissionTarget
  rw [Ranged.val_max, Ranged.val_min, zero]
  omega

theorem issueAdmissionWinners_issues (isAdmission : draw.prizeKind = "admission_pass")
    (distinct : (candidates.map RankedCandidate.fanId).Nodup)
    (done : issueAdmissionWinners clock draw candidates ledger = .ok issued) :
    PrizesIssued draw ledger candidates issued := by
  unfold issueAdmissionWinners at done
  split at done
  case h_2 => cases done
  case h_1 eventId poolId event poolNamed =>
    split at done
    case h_1 => cases done
    case h_2 pool active =>
      obtain ⟨final, issuing, done⟩ := bind_eq_ok_iff.mp done
      obtain ⟨counted, counting, done⟩ := bind_eq_ok_iff.mp done
      cases done
      have injective : Function.Injective (AdmissionPass.mk poolId) := by
        intro one other same
        cases same
        rfl
      have awarded := issueWinners_awards injective distinct issuing
      have target : draw.target ledger = draw.admissionTarget pool := by
        simp [DrawRow.target, isAdmission, event, poolNamed, active]
      have winning :
          (unheld (AdmissionPass.mk poolId) ledger.admissionPasses
              candidates).take (draw.admissionTarget pool - 0) =
            winningCandidates draw ledger candidates := by
        unfold winningCandidates unheld
        rw [target, Nat.sub_zero]
        congr 1
        refine List.filter_congr ?_
        intro candidate _
        simp [DrawRow.alreadyHolds, isAdmission, poolNamed]
      obtain ⟨selected, fans, ranks⟩ := awarded
      simp only at selected fans ranks
      rw [winning] at selected fans ranks
      refine ⟨by simpa using selected, by simpa using fans, ?_, ?_⟩
      · simpa [selected] using ranks
      · have within : final.selected ≤ draw.admissionTarget pool := by
          rw [selected, ← target]
          simp [winningCandidates]
        intro otherId after found
        exact admissionPools_countIssued (activePool_eq_some active) within
          counting otherId after found

theorem admissionPools_reconcile {reconciled : DrawLedger}
    (done : reconcilePhysicalInventoryReservation draw selected ledger = .ok reconciled) :
    reconciled.admissionPools = ledger.admissionPools := by
  unfold reconcilePhysicalInventoryReservation at done
  obtain ⟨_, _, done⟩ := bind_eq_ok_iff.mp done
  split at done
  case h_1 =>
    cases done
    rfl
  case h_2 =>
    obtain ⟨_, _, done⟩ := bind_eq_ok_iff.mp done
    split at done <;> cases done <;> rfl

theorem issuePhysicalWinners_issues (isPhysical : draw.prizeKind = "physical_item")
    (distinct : (candidates.map RankedCandidate.fanId).Nodup)
    (done : issuePhysicalWinners draw candidates ledger = .ok issued) :
    PrizesIssued draw ledger candidates issued := by
  have notAdmission : draw.prizeKind ≠ "admission_pass" := by
    rw [isPhysical]
    decide
  unfold issuePhysicalWinners at done
  split at done
  case h_1 => cases done
  case h_2 ruleId ruleNamed =>
    split at done
    case h_1 => cases done
    case h_2 rule _ =>
      split at done
      case isTrue => cases done
      case isFalse =>
        obtain ⟨final, issuing, done⟩ := bind_eq_ok_iff.mp done
        obtain ⟨reconciled, reconciling, done⟩ := bind_eq_ok_iff.mp done
        cases done
        have injective : Function.Injective (draw.grantOf ruleId) := by
          intro one other same
          exact congrArg RewardGrant.fanId same
        have awarded := issueWinners_awards injective distinct issuing
        have winning :
            (unheld (draw.grantOf ruleId) ledger.rewardGrants
                candidates).take (draw.winnerCount.val.toNat - 0) =
              winningCandidates draw ledger candidates := by
          unfold winningCandidates unheld DrawRow.target
          rw [if_neg notAdmission, Nat.sub_zero]
          congr 1
          refine List.filter_congr ?_
          intro candidate _
          simp [DrawRow.alreadyHolds, notAdmission, ruleNamed]
        obtain ⟨selected, fans, ranks⟩ := awarded
        simp only at selected fans ranks
        rw [winning] at selected fans ranks
        refine ⟨by simpa using selected, by simpa using fans, ?_, ?_⟩
        · simpa [selected] using ranks
        · intro poolId after found
          simp only [admissionPools_reconcile reconciling] at found
          exact ⟨after, found, PoolKept.refl after⟩

theorem issuePrizes_issues (distinct : (candidates.map RankedCandidate.fanId).Nodup)
    (done : issuePrizes clock draw candidates ledger = .ok issued) :
    PrizesIssued draw ledger candidates issued := by
  unfold issuePrizes at done
  split at done
  case isTrue isAdmission =>
    exact issueAdmissionWinners_issues isAdmission distinct done
  case isFalse =>
    split at done
    case isTrue isPhysical =>
      exact issuePhysicalWinners_issues isPhysical distinct done
    case isFalse => cases done

end Prizes

section Snapshot

variable {index : Nat} {winners : List DrawWinner}

theorem ranksAreConsecutive_of_ranks
    (ranks : winners.map (fun winner => winner.winnerRank.val) = ranksAfter index winners.length) :
    ranksAreConsecutive index winners = true := by
  induction winners generalizing index with
  | nil => rfl
  | cons winner rest inductionHypothesis =>
    rw [List.map_cons, List.length_cons, ranksAfter_succ] at ranks
    obtain ⟨first, later⟩ := List.cons.inj ranks
    simp [ranksAreConsecutive, first, inductionHypothesis later]

theorem ranks_increase
    (ranks : winners.map (fun winner => winner.winnerRank.val) = ranksAfter index winners.length) :
    winners.Pairwise fun left right =>
      left.winnerRank ≤ right.winnerRank := by
  have increasing : (ranksAfter index winners.length).Pairwise (· < ·) := by
    unfold ranksAfter
    rw [List.pairwise_map]
    refine (List.pairwise_lt_range' ..).imp ?_
    intro left right less
    exact Int.ofNat_lt.mpr less
  rw [← ranks, List.pairwise_map] at increasing
  exact increasing.imp fun less => Ranged.le_iff_val.mpr (le_of_lt less)

theorem winnerSnapshotIsSound_of_ranks
    (ranks : winners.map (fun winner => winner.winnerRank.val) = ranksAfter 0 winners.length)
    {expected : I32}
    (counted : expected.val = winners.length) :
    winnerSnapshotIsSound winners expected = true := by
  unfold winnerSnapshotIsSound
  rw [(ranks_increase ranks).insertionSort_eq, ranksAreConsecutive_of_ranks ranks]
  simp [counted]

end Snapshot

section Runs

variable {candidates : List CandidateRow} {others : List CandidateRow} {run : DrawRun}

def raceOrder (tickets : Tickets) (draw : DrawRow) (seed : Seed)
    (candidates : List CandidateRow) : List RankedCandidate :=
  sortCandidates (results (rankCandidate tickets draw seed) candidates)

theorem mem_raceOrder {ranked : RankedCandidate}
    (member : ranked ∈ raceOrder tickets draw seed candidates) :
    ∃ candidate ∈ candidates, RankedFrom tickets draw seed candidate ranked := by
  have unsorted := (sortCandidates_perm _).mem_iff.mp member
  obtain ⟨candidate, isCandidate, computed⟩ := mem_results_iff.mp unsorted
  exact ⟨candidate, isCandidate, rankedFrom_of_rankCandidate computed⟩

theorem fans_results_sublist :
    ((results (rankCandidate tickets draw seed) candidates).map RankedCandidate.fanId).Sublist
      (candidates.map CandidateRow.fanId) := by
  induction candidates with
  | nil => exact List.Sublist.refl _
  | cons candidate rest inductionHypothesis =>
    cases computed : rankCandidate tickets draw seed candidate with
    | error failure =>
      have skipped :
          results (rankCandidate tickets draw seed) (candidate :: rest) =
            results (rankCandidate tickets draw seed) rest := by
        simp [results, computed, Except.toOption]
      rw [skipped]
      exact inductionHypothesis.cons _
    | ok ranked =>
      rw [results_cons_ok computed, List.map_cons, List.map_cons,
        (rankedFrom_of_rankCandidate computed).fanId]
      exact inductionHypothesis.cons_cons _

theorem fans_results
    (allRanked :
      ∀ candidate ∈ candidates, ∃ ranked, rankCandidate tickets draw seed candidate = .ok ranked) :
    (results (rankCandidate tickets draw seed) candidates).map RankedCandidate.fanId =
      candidates.map CandidateRow.fanId := by
  induction candidates with
  | nil => rfl
  | cons candidate rest inductionHypothesis =>
    obtain ⟨ranked, computed⟩ := allRanked candidate (List.mem_cons_self ..)
    rw [results_cons_ok computed, List.map_cons, List.map_cons,
      (rankedFrom_of_rankCandidate computed).fanId,
      inductionHypothesis fun other member =>
        allRanked other (List.mem_cons_of_mem _ member)]

section

variable (distinct : (candidates.map CandidateRow.fanId).Nodup)
include distinct

theorem results_distinct :
    ((results (rankCandidate tickets draw seed) candidates).map RankedCandidate.fanId).Nodup :=
  distinct.sublist fans_results_sublist

theorem raceOrder_ranked : Ranked raceKey (raceOrder tickets draw seed candidates) :=
  sortCandidates_ranked (results_distinct distinct)

theorem raceOrder_distinct :
    ((raceOrder tickets draw seed candidates).map RankedCandidate.fanId).Nodup :=
  ((sortCandidates_perm _).map RankedCandidate.fanId).nodup_iff.mpr (results_distinct distinct)

end

theorem raceOrder_eq_of_perm (same : candidates.Perm others)
    (distinct : (candidates.map CandidateRow.fanId).Nodup) :
    raceOrder tickets draw seed candidates = raceOrder tickets draw seed others :=
  sortCandidates_eq_of_perm (results_perm _ same) (results_distinct distinct)

structure Completed
    (tickets : Tickets)
    (clock : Clock)
    (draw : DrawRow)
    (seed : Seed)
    (candidates : List CandidateRow)
    (ledger : DrawLedger)
    (run : DrawRun) : Prop where
  allRanked :
    ∀ candidate ∈ candidates, ∃ ranked,
      rankCandidate tickets draw seed candidate = .ok ranked
  issued :
    ∃ issued,
      issuePrizes clock draw (raceOrder tickets draw seed candidates)
          ledger = .ok issued ∧
        run.ledger = issued.ledger ∧ run.winners = issued.winners

theorem completed_of_executeDraw
    (done : executeDraw tickets clock draw seed candidates ledger = .ok run) :
    Completed tickets clock draw seed candidates ledger run := by
  unfold executeDraw at done
  obtain ⟨_, _, done⟩ := bind_eq_ok_iff.mp done
  obtain ⟨ranked, rankedDone, done⟩ := bind_eq_ok_iff.mp done
  obtain ⟨_, _, done⟩ := bind_eq_ok_iff.mp done
  obtain ⟨issued, issuedDone, done⟩ := bind_eq_ok_iff.mp done
  obtain ⟨_, _, done⟩ := bind_eq_ok_iff.mp done
  obtain ⟨_, _, done⟩ := bind_eq_ok_iff.mp done
  obtain ⟨allRanked, same⟩ := mapM_eq_ok_iff.mp rankedDone
  rw [same] at issuedDone
  split at done
  case isTrue => cases done
  case isFalse =>
    cases done
    exact ⟨allRanked, issued, issuedDone, rfl, rfl⟩

theorem executeDraw_of_perm (same : candidates.Perm others)
    (distinct : (candidates.map CandidateRow.fanId).Nodup)
    (done : executeDraw tickets clock draw seed candidates ledger = .ok run) :
    executeDraw tickets clock draw seed others ledger = .ok run := by
  unfold executeDraw at done ⊢
  obtain ⟨accepted, acceptedDone, done⟩ := bind_eq_ok_iff.mp done
  obtain ⟨ranked, rankedDone, done⟩ := bind_eq_ok_iff.mp done
  obtain ⟨allRanked, isResults⟩ := mapM_eq_ok_iff.mp rankedDone
  have othersDone :
      rankCandidates tickets draw seed others =
        .ok (results (rankCandidate tickets draw seed) others) :=
    mapM_eq_ok_iff.mpr ⟨fun candidate member => allRanked candidate (same.mem_iff.mpr member), rfl⟩
  have sameRanking :
      sortCandidates ranked =
        sortCandidates (results (rankCandidate tickets draw seed) others) := by
    rw [isResults]
    exact raceOrder_eq_of_perm same distinct
  refine bind_eq_ok_iff.mpr ⟨accepted, acceptedDone, bind_eq_ok_iff.mpr ⟨_, othersDone, ?_⟩⟩
  rw [← sameRanking]
  exact done

end Runs

end CrowdRelay
