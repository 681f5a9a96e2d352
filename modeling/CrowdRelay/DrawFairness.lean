import CrowdRelay.DrawOutcome

namespace CrowdRelay

open MachineInt Fallible RankedPrefix

/-!
# Weighted draws are fair

A draw completes exactly when the counts of every candidate fit the columns
they are computed in.  When it does, its winners follow from the race alone,
and having done more never costs a candidate the prize; when it does not,
nobody wins.
-/

variable {tickets : Tickets} {clock : Clock} {draw : DrawRow} {seed : Seed}
  {candidates : List CandidateRow} {ledger : DrawLedger}

section Completion

variable {ranked : List RankedCandidate} {pool : AdmissionPool} {selected : Nat}

/-- Everything a run needs besides the entries of its candidates. -/
structure DrawIsReady
    (clock : Clock)
    (draw : DrawRow)
    (candidates : List CandidateRow)
    (ledger : DrawLedger) : Prop where
  counted :
    ∀ candidate ∈ candidates,
      0 ≤ candidate.qualifiedReferrals.val ∧
        0 ≤ candidate.concertCheckins.val
  fewEnough : candidates.length ≤ 2147483647
  pool :
    ∀ eventId poolId, draw.eventId = some eventId →
      draw.admissionPoolId = some poolId →
        ∃ pool, ledger.activePool poolId eventId = some pool ∧
          0 ≤ pool.reservedCount.val
  claims :
    draw.prizeKind = "admission_pass" →
      ∀ candidate ∈ candidates,
        claimExpiresAt clock draw candidate.fanId = .ok ()
  rule :
    ∀ ruleId, draw.rewardRuleId = some ruleId →
      (ledger.physicalRules ruleId).isSome
  stock :
    ∀ allocation, ledger.inventoryAllocations draw.id = some allocation →
      0 ≤ allocation.unitsPerWinner.val ∧
        draw.winnerCount.val * allocation.unitsPerWinner.val ≤ 2147483647

theorem exists_totalEntries
    (positive : ∀ candidate ∈ ranked, 0 < candidate.entryCount.val) (total : I64)
    (totalNonnegative : 0 ≤ total.val)
    (room : total.val + ranked.length * 2147483647 ≤ 9223372036854775807) :
    ∃ sum,
      ranked.foldlM
          (fun total candidate =>
            orArithmetic (Ranged.tryFrom (total.val + candidate.entryCount.val)))
          total = .ok (sum : I64) := by
  induction ranked generalizing total with
  | nil => exact ⟨total, rfl⟩
  | cons candidate rest inductionHypothesis =>
    have upper := candidate.entryCount.upper
    have here := positive candidate (List.mem_cons_self ..)
    rw [List.length_cons] at room
    push_cast at room
    let next : I64 := ⟨total.val + candidate.entryCount.val, by omega, by omega⟩
    have counted :
        orArithmetic (Ranged.tryFrom (total.val + candidate.entryCount.val)) = .ok next :=
      orArithmetic_tryFrom_iff.mpr rfl
    obtain ⟨sum, later⟩ := inductionHypothesis
        (fun other member =>
          positive other (List.mem_cons_of_mem _ member))
        next (by simp only [next]; omega)
        (by simp only [next]; omega)
    exact ⟨sum, bind_eq_ok_iff.mpr ⟨next, counted, later⟩⟩

theorem prizeIsNamed_of_validated (accepted : validateDraw draw = .ok ()) :
    draw.prizeIsNamed = true := by
  by_contra unnamed
  rw [Bool.not_eq_true] at unnamed
  simp [validateDraw, unnamed] at accepted

theorem exists_countIssued {poolId : Uuid} (reserved : 0 ≤ pool.reservedCount.val)
    (within : selected ≤ draw.admissionTarget pool) :
    ∃ counted, countIssued ledger poolId pool selected = .ok counted := by
  have zero : (0 : I32).val = 0 := rfl
  have issuedLower := pool.issuedCount.lower
  have issuedUpper := pool.issuedCount.upper
  have winnersUpper := draw.winnerCount.upper
  have capacityUpper := pool.capacity.upper
  have ceiling := within.trans (admissionTarget_le pool)
  unfold DrawRow.admissionTarget AdmissionPool.available at within
  rw [Ranged.val_max, Ranged.val_min, Ranged.val_saturatingSub,
    Ranged.val_saturatingSub, zero] at within
  obtain ⟨passes, passesDone, passesVal⟩ := exists_converted (selected : Int) (by omega) (by omega)
  obtain ⟨issuedCount, _, issuedVal⟩ := exists_converted (pool.issuedCount.val + passes.val)
      (by omega) (by omega)
  have summed : pool.issuedCount.checkedAdd passes = some issuedCount :=
    Ranged.tryFrom_eq_some_iff.mpr issuedVal
  unfold countIssued
  refine exists_bind_eq_ok passesDone ?_
  rw [summed]
  exact ⟨_, rfl⟩

theorem exists_issueAdmissionWinners (distinct : (ranked.map RankedCandidate.fanId).Nodup)
    {eventId poolId : Uuid} (event : draw.eventId = some eventId)
    (poolNamed : draw.admissionPoolId = some poolId)
    (active : ledger.activePool poolId eventId = some pool) (reserved : 0 ≤ pool.reservedCount.val)
    (claims : ∀ candidate ∈ ranked, claimExpiresAt clock draw candidate.fanId = .ok ()) :
    ∃ issued, issueAdmissionWinners clock draw ranked ledger = .ok issued := by
  have winnersUpper := draw.winnerCount.upper
  have ceiling : draw.admissionTarget pool ≤ draw.winnerCount.val.toNat := admissionTarget_le pool
  have injective : Function.Injective (AdmissionPass.mk poolId) := by
    intro one other same
    cases same
    rfl
  obtain ⟨final, issuing⟩ := exists_issueWinners
      (show draw.admissionTarget pool ≤ 2147483647 by omega) claims
      (IssueState.mk ledger.admissionPasses 0 [])
  have awarded := issueWinners_awards injective distinct issuing
  have within : final.selected ≤ draw.admissionTarget pool := by
    have selected := awarded.selected
    simp only [List.length_take] at selected
    omega
  unfold issueAdmissionWinners
  simp only [event, poolNamed, active]
  refine exists_bind_eq_ok issuing ?_
  obtain ⟨counted, counting⟩ := exists_countIssued reserved within
  refine exists_bind_eq_ok counting ?_
  exact ⟨_, rfl⟩

theorem exists_reconcile (winners : selected ≤ draw.winnerCount.val.toNat)
    (stock :
      ∀ allocation, ledger.inventoryAllocations draw.id = some allocation →
        0 ≤ allocation.unitsPerWinner.val ∧
          draw.winnerCount.val * allocation.unitsPerWinner.val ≤ 2147483647) :
    ∃ reconciled, reconcilePhysicalInventoryReservation draw selected ledger = .ok reconciled := by
  have winnersUpper := draw.winnerCount.upper
  obtain ⟨items, itemsDone, itemsVal⟩ := exists_converted (selected : Int) (by omega) (by omega)
  unfold reconcilePhysicalInventoryReservation
  refine exists_bind_eq_ok itemsDone ?_
  split
  case h_1 => exact ⟨_, rfl⟩
  case h_2 allocation isAllocation =>
    obtain ⟨units, fits⟩ := stock allocation isAllocation
    have needed :
        items.val * allocation.unitsPerWinner.val ≤
          max draw.winnerCount.val 0 * allocation.unitsPerWinner.val :=
      Int.mul_le_mul_of_nonneg_right (by omega) units
    have neededNonnegative : 0 ≤ items.val * allocation.unitsPerWinner.val :=
      Int.mul_nonneg (by omega) units
    have bounded : max draw.winnerCount.val 0 * allocation.unitsPerWinner.val ≤ 2147483647 := by
      rcases le_total draw.winnerCount.val 0 with none | some
      · rw [max_eq_right none]
        omega
      · rw [max_eq_left some]
        exact fits
    obtain ⟨required, requiredDone, _⟩ :=
      exists_converted (items.val * allocation.unitsPerWinner.val) (by omega) (by omega)
    refine exists_bind_eq_ok requiredDone ?_
    split <;> exact ⟨_, rfl⟩

theorem exists_issuePhysicalWinners (distinct : (ranked.map RankedCandidate.fanId).Nodup)
    (winners : 0 < draw.winnerCount.val) {ruleId : Uuid}
    (ruleNamed : draw.rewardRuleId = some ruleId) {rule : PhysicalRule}
    (active : ledger.physicalRules ruleId = some rule)
    (stock :
      ∀ allocation, ledger.inventoryAllocations draw.id = some allocation →
        0 ≤ allocation.unitsPerWinner.val ∧
          draw.winnerCount.val * allocation.unitsPerWinner.val ≤ 2147483647) :
    ∃ issued, issuePhysicalWinners draw ranked ledger = .ok issued := by
  have winnersUpper := draw.winnerCount.upper
  have zero : (0 : I32).val = 0 := rfl
  have injective : Function.Injective (draw.grantOf ruleId) := by
    intro one other same
    exact congrArg RewardGrant.fanId same
  have issuingRuns :
      ∃ final,
        issueWinners (fun _ => .ok ()) (draw.grantOf ruleId) draw.winnerCount.val.toNat ranked
            ⟨ledger.rewardGrants, 0, []⟩ = .ok final :=
    exists_issueWinners (by omega) (fun _ _ => rfl) _
  obtain ⟨final, issuing⟩ := issuingRuns
  have awarded := issueWinners_awards injective distinct issuing
  have within : final.selected ≤ draw.winnerCount.val.toNat := by
    have selected := awarded.selected
    simp only [List.length_take] at selected
    omega
  have notNegative : ¬ draw.winnerCount < 0 := by
    rw [Ranged.lt_iff_val, zero]
    omega
  unfold issuePhysicalWinners
  simp only [ruleNamed, active, if_neg notNegative]
  refine exists_bind_eq_ok issuing ?_
  have reconcilingRuns :
      ∃ reconciled,
        reconcilePhysicalInventoryReservation draw final.selected
            { ledger with rewardGrants := final.table } = .ok reconciled :=
    exists_reconcile within stock
  obtain ⟨reconciled, reconciling⟩ := reconcilingRuns
  refine exists_bind_eq_ok reconciling ?_
  exact ⟨_, rfl⟩

theorem exists_issuePrizes (accepted : validateDraw draw = .ok ())
    (ready : DrawIsReady clock draw candidates ledger)
    (distinct : (ranked.map RankedCandidate.fanId).Nodup)
    (fromCandidates : ∀ candidate ∈ ranked, ∃ row ∈ candidates, candidate.fanId = row.fanId) :
    ∃ issued, issuePrizes clock draw ranked ledger = .ok issued := by
  have named := prizeIsNamed_of_validated accepted
  have sound := soundEntries_of_validated accepted
  unfold DrawRow.prizeIsNamed at named
  unfold issuePrizes
  split at named
  case isTrue isAdmission =>
    simp only [Bool.and_eq_true, Option.isSome_iff_exists] at named
    obtain ⟨⟨⟨eventId, event⟩, poolId, poolNamed⟩, _⟩ := named
    obtain ⟨pool, active, reserved⟩ := ready.pool eventId poolId event poolNamed
    rw [if_pos isAdmission]
    refine exists_issueAdmissionWinners distinct event poolNamed active reserved ?_
    intro candidate member
    obtain ⟨row, isRow, sameFan⟩ := fromCandidates candidate member
    rw [sameFan]
    exact ready.claims isAdmission row isRow
  case isFalse notAdmission =>
    split at named
    case isTrue isPhysical =>
      simp only [Bool.and_eq_true, Option.isSome_iff_exists] at named
      obtain ⟨_, ruleId, ruleNamed⟩ := named
      obtain ⟨rule, active⟩ := Option.isSome_iff_exists.mp (ready.rule ruleId ruleNamed)
      rw [if_neg notAdmission, if_pos isPhysical]
      exact exists_issuePhysicalWinners distinct sound.winners ruleNamed active ready.stock
    case isFalse => cases named

theorem target_le : draw.target ledger ≤ draw.winnerCount.val.toNat := by
  unfold DrawRow.target
  split
  case isFalse => exact le_refl _
  case isTrue =>
    split
    case h_2 => exact Nat.zero_le _
    case h_1 eventId poolId _ _ =>
      cases ledger.activePool poolId eventId with
      | none => exact Nat.zero_le _
      | some pool => exact admissionTarget_le pool

theorem length_winningCandidates_le (ranked : List RankedCandidate) :
    (winningCandidates draw ledger ranked).length ≤ draw.target ledger := by
  unfold winningCandidates
  rw [List.length_take]
  exact Nat.min_le_left _ _

theorem length_raceOrder
    (allRanked :
      ∀ candidate ∈ candidates, ∃ ranked, rankCandidate tickets draw seed candidate = .ok ranked) :
    (raceOrder tickets draw seed candidates).length = candidates.length := by
  have fans := congrArg List.length (fans_results allRanked)
  rw [List.length_map, List.length_map] at fans
  rw [← fans]
  exact (sortCandidates_perm _).length_eq

/-- A draw all of whose candidates are ranked completes. -/
theorem exists_run_of_allRanked (accepted : validateDraw draw = .ok ())
    (distinct : (candidates.map CandidateRow.fanId).Nodup)
    (ready : DrawIsReady clock draw candidates ledger)
    (allRanked :
      ∀ candidate ∈ candidates, ∃ ranked, rankCandidate tickets draw seed candidate = .ok ranked) :
    ∃ run, executeDraw tickets clock draw seed candidates ledger = .ok run := by
  have rankedDone :
      rankCandidates tickets draw seed candidates =
        .ok (results (rankCandidate tickets draw seed) candidates) :=
    mapM_eq_ok_iff.mpr ⟨allRanked, rfl⟩
  have sameLength := length_raceOrder allRanked
  have fewEnough := ready.fewEnough
  have zero : (0 : I64).val = 0 := rfl
  have positive :
      ∀ candidate ∈ raceOrder tickets draw seed candidates, 0 < candidate.entryCount.val := by
    intro candidate member
    obtain ⟨_, _, rankedFrom⟩ := mem_raceOrder member
    exact rankedFrom.positive
  have fromRows :
      ∀ candidate ∈ raceOrder tickets draw seed candidates,
        ∃ row ∈ candidates, candidate.fanId = row.fanId := by
    intro candidate member
    obtain ⟨row, isRow, rankedFrom⟩ := mem_raceOrder member
    exact ⟨row, isRow, rankedFrom.fanId⟩
  obtain ⟨total, totalDone⟩ := exists_totalEntries positive 0 (le_refl _)
      (by rw [zero, sameLength]; omega)
  obtain ⟨issued, issuedDone⟩ :=
    exists_issuePrizes accepted ready (raceOrder_distinct distinct) fromRows
  have prizes := issuePrizes_issues (raceOrder_distinct distinct) issuedDone
  have winnersLength : issued.winners.length = issued.selected := by
    have fans := congrArg List.length prizes.fans
    rw [List.length_map, List.length_map] at fans
    rw [fans, prizes.selected]
  have atMostTarget : issued.selected ≤ draw.winnerCount.val.toNat := by
    rw [prizes.selected]
    exact (length_winningCandidates_le _).trans target_le
  have winnersUpper := draw.winnerCount.upper
  obtain ⟨eligible, eligibleDone, _⟩ := exists_converted
      ((raceOrder tickets draw seed candidates).length : Int)
      (by omega) (by rw [sameLength]; omega)
  obtain ⟨selected, selectedDone, selectedVal⟩ :=
    exists_converted (issued.selected : Int) (by omega) (by omega)
  have snapshot : winnerSnapshotIsSound issued.winners selected = true := by
    refine winnerSnapshotIsSound_of_ranks ?_ ?_
    · rw [prizes.ranks, winnersLength]
    · rw [selectedVal, winnersLength]
  unfold executeDraw
  refine exists_bind_eq_ok accepted ?_
  refine exists_bind_eq_ok rankedDone ?_
  refine exists_bind_eq_ok totalDone ?_
  refine exists_bind_eq_ok issuedDone ?_
  refine exists_bind_eq_ok eligibleDone ?_
  refine exists_bind_eq_ok selectedDone ?_
  rw [snapshot, Bool.not_true, Bool.and_false, if_neg Bool.false_ne_true]
  exact ⟨_, rfl⟩

/-- A draw with nothing else in its way completes exactly when the counts of
every candidate fit. -/
theorem executeDraw_completes_iff (accepted : validateDraw draw = .ok ())
    (distinct : (candidates.map CandidateRow.fanId).Nodup)
    (ready : DrawIsReady clock draw candidates ledger) :
    (∃ run, executeDraw tickets clock draw seed candidates ledger = .ok run) ↔
      ∀ candidate ∈ candidates, candidate.Fits draw := by
  constructor
  · rintro ⟨run, done⟩ candidate member
    obtain ⟨ranked, computed⟩ := (completed_of_executeDraw done).allRanked candidate member
    exact (rankedFrom_of_rankCandidate computed).fits
  · intro allFit
    apply exists_run_of_allRanked accepted distinct ready
    intro candidate member
    exact exists_rankCandidate (soundEntries_of_validated accepted)
      (ready.counted candidate member) (allFit candidate member)

end Completion

section Fairness

variable {candidate raised : CandidateRow} {before after : List CandidateRow}

theorem processOne_of_ok {run : DrawRun}
    (done : executeDraw tickets clock draw seed candidates ledger = .ok run) :
    processOne tickets clock draw seed candidates ledger = ⟨run.ledger, run.winners, none⟩ := by
  unfold processOne
  rw [done]

theorem processOne_failure_eq_none_iff :
    (processOne tickets clock draw seed candidates ledger).failure = none ↔
      ∃ run, executeDraw tickets clock draw seed candidates ledger = .ok run := by
  unfold processOne
  cases executeDraw tickets clock draw seed candidates ledger with
  | error failure => simp
  | ok run => simp

theorem processOne_of_failure
    (failed : (processOne tickets clock draw seed candidates ledger).failure ≠ none) :
    (processOne tickets clock draw seed candidates ledger).winners = [] ∧
      (processOne tickets clock draw seed candidates ledger).ledger = ledger := by
  rw [Ne, processOne_failure_eq_none_iff] at failed
  unfold processOne
  cases done : executeDraw tickets clock draw seed candidates ledger with
  | error failure => exact ⟨rfl, rfl⟩
  | ok run => exact (failed ⟨run, done⟩).elim

theorem processOne_issues (distinct : (candidates.map CandidateRow.fanId).Nodup)
    (completed : (processOne tickets clock draw seed candidates ledger).failure = none) :
    ∃ issued,
      PrizesIssued draw ledger (raceOrder tickets draw seed candidates) issued ∧
        (processOne tickets clock draw seed candidates ledger).ledger = issued.ledger ∧
        (processOne tickets clock draw seed candidates ledger).winners = issued.winners := by
  obtain ⟨run, done⟩ := processOne_failure_eq_none_iff.mp completed
  obtain ⟨_, issued, issuing, sameLedger, sameWinners⟩ := completed_of_executeDraw done
  refine ⟨issued, issuePrizes_issues (raceOrder_distinct distinct) issuing, ?_, ?_⟩
  · rw [processOne_of_ok done, sameLedger]
  · rw [processOne_of_ok done, sameWinners]

/-- The fans who win a draw, best rank first. -/
def winnersOf (processed : ProcessedDraw) : List Uuid := processed.winners.map DrawWinner.fanId

theorem winnersOf_processOne (distinct : (candidates.map CandidateRow.fanId).Nodup)
    (completed : (processOne tickets clock draw seed candidates ledger).failure = none) :
    winnersOf (processOne tickets clock draw seed candidates ledger) =
      (winningCandidates draw ledger (raceOrder tickets draw seed candidates)).map
          RankedCandidate.fanId := by
  obtain ⟨issued, prizes, _, sameWinners⟩ := processOne_issues distinct completed
  rw [winnersOf, sameWinners, prizes.fans]

/-- More entries never make a score larger. -/
theorem raceKey_le_of_raised (sound : SoundEntries draw) (sameFan : raised.fanId = candidate.fanId)
    (referrals : candidate.qualifiedReferrals.val ≤ raised.qualifiedReferrals.val)
    (checkins : candidate.concertCheckins.val ≤ raised.concertCheckins.val)
    {ranked raisedRanked : RankedCandidate}
    (rankedFrom : RankedFrom tickets draw seed candidate ranked)
    (raisedFrom : RankedFrom tickets draw seed raised raisedRanked) :
    raceKey raisedRanked ≤ raceKey ranked := by
  have moreEntries : ranked.entryCount.val ≤ raisedRanked.entryCount.val := by
    rw [rankedFrom.entryCount, raisedFrom.entryCount]
    exact entries_mono sound.perReferral sound.perCheckin referrals checkins
  have positive : (0 : ℚ) < (ranked.entryCount.val : ℚ) := by
    exact_mod_cast rankedFrom.positive
  have castLe : (ranked.entryCount.val : ℚ) ≤ (raisedRanked.entryCount.val : ℚ) := by
    exact_mod_cast moreEntries
  have ticketNonnegative : 0 ≤ (tickets seed candidate.fanId).val :=
    le_of_lt (tickets seed candidate.fanId).property
  have smaller : raisedRanked.selectionScore ≤ ranked.selectionScore := by
    rw [rankedFrom.score, raisedFrom.score, sameFan]
    exact div_le_div_of_nonneg_left ticketNonnegative positive castLe
  have sameId : raisedRanked.fanId = ranked.fanId := by
    rw [rankedFrom.fanId, raisedFrom.fanId, sameFan]
  unfold raceKey
  rw [Prod.Lex.toLex_le_toLex, sameId]
  rcases lt_or_eq_of_le smaller with less | equal
  · exact Or.inl less
  · exact Or.inr ⟨equal, le_refl _⟩

/-- The ranking of the fans who do not hold the prize, taken apart at one of
them. -/
theorem free_raceOrder_perm {candidate : CandidateRow} {ranked : RankedCandidate}
    (computed : rankCandidate tickets draw seed candidate = .ok ranked)
    {free : RankedCandidate → Bool} (isFree : free ranked = true) :
    ((raceOrder tickets draw seed (before ++ candidate :: after)).filter free).Perm
      ((results (rankCandidate tickets draw seed) before).filter free ++
        ranked :: (results (rankCandidate tickets draw seed) after).filter free) := by
  refine ((sortCandidates_perm _).filter free).trans ?_
  rw [results_append, results_cons_ok computed, List.filter_append, List.filter_cons_of_pos isFree]

/-- A winner with higher counts still wins, all else equal. -/
theorem wins_of_raised (accepted : validateDraw draw = .ok ())
    (distinct : ((before ++ candidate :: after).map CandidateRow.fanId).Nodup)
    (sameFan : raised.fanId = candidate.fanId)
    (referrals : candidate.qualifiedReferrals.val ≤ raised.qualifiedReferrals.val)
    (checkins : candidate.concertCheckins.val ≤ raised.concertCheckins.val)
    (completed :
      (processOne tickets clock draw seed (before ++ candidate :: after) ledger).failure = none)
    (raisedCompleted :
      (processOne tickets clock draw seed (before ++ raised :: after) ledger).failure = none)
    (wins :
      candidate.fanId ∈
        winnersOf (processOne tickets clock draw seed (before ++ candidate :: after) ledger)) :
    candidate.fanId ∈
      winnersOf (processOne tickets clock draw seed (before ++ raised :: after) ledger) := by
  have raisedDistinct : ((before ++ raised :: after).map CandidateRow.fanId).Nodup := by
    simpa [sameFan] using distinct
  obtain ⟨run, done⟩ := processOne_failure_eq_none_iff.mp completed
  obtain ⟨raisedRun, raisedDone⟩ := processOne_failure_eq_none_iff.mp raisedCompleted
  obtain ⟨ranked, computed⟩ := (completed_of_executeDraw done).allRanked candidate (by simp)
  obtain ⟨raisedRanked, raisedComputed⟩ :=
    (completed_of_executeDraw raisedDone).allRanked raised (by simp)
  have rankedFrom := rankedFrom_of_rankCandidate computed
  have raisedFrom := rankedFrom_of_rankCandidate raisedComputed
  have earlier : raceKey raisedRanked ≤ raceKey ranked :=
    raceKey_le_of_raised (soundEntries_of_validated accepted) sameFan
      referrals checkins rankedFrom raisedFrom
  have sameId : raisedRanked.fanId = ranked.fanId := by
    rw [rankedFrom.fanId, raisedFrom.fanId, sameFan]
  rw [winnersOf_processOne distinct completed] at wins
  rw [winnersOf_processOne raisedDistinct raisedCompleted]
  obtain ⟨winner, isWinner, winnerFan⟩ := List.mem_map.mp wins
  have inRanking : ranked ∈ raceOrder tickets draw seed (before ++ candidate :: after) :=
    (sortCandidates_perm _).mem_iff.mpr (mem_results_iff.mpr ⟨candidate, by simp, computed⟩)
  have isRanked : winner = ranked := by
    have winnerInRanking := List.mem_of_mem_filter (List.mem_of_mem_take isWinner)
    exact List.inj_on_of_nodup_map (raceOrder_distinct distinct)
      winnerInRanking inRanking (winnerFan.trans rankedFrom.fanId.symm)
  rw [isRanked] at isWinner
  have isFree : (!draw.alreadyHolds ledger ranked.fanId) = true :=
    (List.mem_filter.mp (List.mem_of_mem_take isWinner)).2
  have raisedFree : (!draw.alreadyHolds ledger raisedRanked.fanId) = true := by
    rw [sameId]
    exact isFree
  have keepsPlace :
      raisedRanked ∈
        winningCandidates draw ledger (raceOrder tickets draw seed (before ++ raised :: after)) :=
    mem_take_of_earlier earlier ((raceOrder_ranked distinct).sublist List.filter_sublist)
      (free_raceOrder_perm computed isFree)
      ((raceOrder_ranked raisedDistinct).sublist List.filter_sublist)
      (free_raceOrder_perm raisedComputed raisedFree)
      isWinner
  refine List.mem_map.mpr ⟨raisedRanked, keepsPlace, ?_⟩
  rw [raisedFrom.fanId, sameFan]

structure FairDraw
    (tickets : Tickets)
    (clock : Clock)
    (draw : DrawRow)
    (seed : Seed)
    (candidates : List CandidateRow)
    (ledger : DrawLedger) : Prop where
  /-- nothing but counts too large for their columns stops a ready draw -/
  completes_iff :
    DrawIsReady clock draw candidates ledger →
      ((processOne tickets clock draw seed candidates ledger).failure =
          none ↔
        ∀ candidate ∈ candidates, candidate.Fits draw)
  rolledBack :
    (processOne tickets clock draw seed candidates ledger).failure ≠ none →
      (processOne tickets clock draw seed candidates ledger).winners = [] ∧
        (processOne tickets clock draw seed candidates ledger).ledger =
          ledger
  /-- the race is over all candidates, ... -/
  raceFans :
    (processOne tickets clock draw seed candidates ledger).failure = none →
      ((raceOrder tickets draw seed candidates).map
          RankedCandidate.fanId).Perm
        (candidates.map CandidateRow.fanId)
  /-- ... each with the score of their entries, ... -/
  raceScores :
    ∀ ranked ∈ raceOrder tickets draw seed candidates,
      ∃ candidate ∈ candidates,
        RankedFrom tickets draw seed candidate ranked
  /-- ... in the order of the score, then of the fan id -/
  raceSorted :
    (raceOrder tickets draw seed candidates).Pairwise fun left right =>
      left.selectionScore < right.selectionScore ∨
        left.selectionScore = right.selectionScore ∧
          left.fanId.toNat < right.fanId.toNat
  winners :
    (processOne tickets clock draw seed candidates ledger).failure = none →
      winnersOf (processOne tickets clock draw seed candidates ledger) =
        (((raceOrder tickets draw seed candidates).filter fun ranked =>
          !draw.alreadyHolds ledger ranked.fanId).take
            (draw.target ledger)).map RankedCandidate.fanId
  ranks :
    (processOne tickets clock draw seed candidates ledger).winners.map
        (fun winner => winner.winnerRank.val) =
      (List.range' 1
        (winnersOf (processOne tickets clock draw seed candidates
          ledger)).length).map Int.ofNat
  orderFree :
    ∀ others, candidates.Perm others →
      (processOne tickets clock draw seed candidates ledger).failure =
          none →
        processOne tickets clock draw seed others ledger =
          processOne tickets clock draw seed candidates ledger
  noFanTwice :
    (winnersOf
      (processOne tickets clock draw seed candidates ledger)).Nodup
  poolsKept :
    ∀ poolId after,
      (processOne tickets clock draw seed candidates
          ledger).ledger.admissionPools poolId = some after →
        ∃ before, ledger.admissionPools poolId = some before ∧
          after.capacity = before.capacity ∧
          (before.issuedCount.val + before.reservedCount.val ≤
              before.capacity.val →
            after.issuedCount.val + after.reservedCount.val ≤
              after.capacity.val)
  raisedStillWins :
    ∀ before candidate after raised,
      candidates = before ++ candidate :: after →
      raised.fanId = candidate.fanId →
      candidate.qualifiedReferrals.val ≤ raised.qualifiedReferrals.val →
      candidate.concertCheckins.val ≤ raised.concertCheckins.val →
      (processOne tickets clock draw seed (before ++ raised :: after)
          ledger).failure = none →
      candidate.fanId ∈
          winnersOf
            (processOne tickets clock draw seed candidates ledger) →
        candidate.fanId ∈
          winnersOf
            (processOne tickets clock draw seed (before ++ raised :: after)
              ledger)

end Fairness

def albumDraw : DrawRow where
  id := 10
  prizeKind := "physical_item"
  eligibilityKind := "all_active"
  eligibilityRef := none
  eventId := none
  admissionPoolId := none
  rewardRuleId := some 12
  winnerCount := 1
  baseEntries := 1
  entriesPerReferral := 100000
  entriesPerCheckin := 1
  maxEntries := 1000
  claimExpiresHours := 168

def albumLedger : DrawLedger where
  admissionPools := fun _ => none
  admissionPasses := []
  physicalRules := fun _ => some ⟨"Global album", "ALBUM", 365⟩
  rewardGrants := []
  inventoryAllocations := fun _ => none
  reservationItems := []
  releasedReservations := []
  drawProofsEnabled := true

def evenTickets : Tickets := fun _ _ => ⟨1, by decide +kernel⟩

def plainSeed : Seed := Vector.replicate 32 17

end CrowdRelay
