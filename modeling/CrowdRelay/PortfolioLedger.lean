import Mathlib.Tactic.Linarith
import CrowdRelay.GreedyPicks
import CrowdRelay.PortfolioOrder

namespace CrowdRelay

open MachineInt GreedySelection

/-!
# The portfolio's ledger

A selection records beside each selected candidate what the portfolio took off
its value, under the key of its opportunity.  The record can be replayed from
the order of the selection alone, as long as no key is written twice.
-/

def PortfolioSelection.entryMarginal (selection : PortfolioSelection)
    (candidate : PortfolioCandidate) : ℚ :=
  ((selection.marginalAdjustments candidate.key).map MarginalAdjustments.marginalY30).getD 0

namespace PortfolioOptimizer

variable (optimizer : PortfolioOptimizer)

/-- How often the act of a candidate was dispatched before the selection. -/
def actPast
    (candidate : PortfolioCandidate) : U32 :=
  (optimizer.actHistory candidate.act).getD 0

/-- Every selected candidate has an entry of its own, which counts the ones
selected before it, and the entries add up to the expected fans. -/
structure LedgerReplays
    (optimizer : PortfolioOptimizer)
    (selection : PortfolioSelection) : Prop where
  ownEntries : (selection.selected.map PortfolioCandidate.key).Nodup
  replayed :
    ∀ (index : Nat) (candidate : PortfolioCandidate),
      selection.selected[index]? = some candidate →
      ∃ entry,
        selection.marginalAdjustments candidate.key = some entry ∧
        entry.audienceCount =
          (selection.selected.take index).countP
            (fun other => other.audienceKey = candidate.audienceKey) ∧
        entry.actDispatches.val =
          (optimizer.actPast candidate).val
            + (selection.selected.take index).countP
                (fun other => other.act = candidate.act)
  summed :
    selection.totalExpectedFans =
      (selection.selected.map selection.entryMarginal).sum

/-- A candidate whose key is not written yet, and whose act is counted in 32
bits. -/
structure Recordable
    (optimizer : PortfolioOptimizer)
    (picked : List PortfolioCandidate)
    (candidate : PortfolioCandidate) : Prop where
  unwritten : ∀ other ∈ picked, other.key ≠ candidate.key
  counted :
    (optimizer.actPast candidate).val
        + picked.countP (fun other => other.act = candidate.act) ≤
      4294967295

/-- Every round that takes a candidate takes a recordable one. -/
def RecordsApart
    (candidates : List PortfolioCandidate) : Prop :=
  ∀ picked round index best candidate,
    Relation.ReflTransGen optimizer.Advances (firstPosition candidates) ⟨picked, round⟩ →
    (round.selected.length : Int) < optimizer.totalSlotLimit.val →
    optimizer.verdict round = .take index best →
    round.remaining[index]? = some candidate →
    optimizer.Recordable picked candidate

section Replay

variable {optimizer : PortfolioOptimizer} {candidates picked : List PortfolioCandidate}
  {round : SelectionRound} {candidate : PortfolioCandidate} {position : LoopPosition}

/-- The entry of a pick, unless a later pick wrote under its key. -/
def LastEntries (optimizer : PortfolioOptimizer) (picked : List PortfolioCandidate)
    (round : SelectionRound) : Prop :=
  ∀ (earlier : List PortfolioCandidate) (candidate : PortfolioCandidate)
    (later : List PortfolioCandidate),
    picked = earlier ++ candidate :: later →
    (∀ other ∈ later, other.key ≠ candidate.key) →
    round.marginalAdjustments candidate.key = some (optimizer.adjustmentsBeside earlier candidate)

/-- What the loop has written down of the picks. -/
structure Books
    (optimizer : PortfolioOptimizer)
    (picked : List PortfolioCandidate)
    (round : SelectionRound) : Prop where
  entries : optimizer.LastEntries picked round
  summed :
    round.totalExpectedFans =
      ((replay optimizer.adjustmentsBeside 0 picked).map
        MarginalAdjustments.marginalY30).sum
  greedy : GreedyPicks optimizer.rules picked round.remaining

theorem firstRound_books (optimizer : PortfolioOptimizer) (candidates : List PortfolioCandidate) :
    optimizer.Books [] (firstRound candidates) where
  entries earlier candidate later shape := by
    simp at shape
  summed := rfl
  greedy := greedyPicks_nil _ _

theorem Books.entry_at (books : optimizer.Books picked round)
    (distinct : (picked.map PortfolioCandidate.key).Nodup) {index : Nat}
    (isAt : picked[index]? = some candidate) :
    round.marginalAdjustments candidate.key =
      some (optimizer.adjustmentsBeside (picked.take index) candidate) := by
  have shape := split_of_getElem? isAt
  refine books.entries _ _ _ shape ?_
  intro other isLater same
  rw [shape, List.map_append, List.map_cons] at distinct
  have apartLater := (List.nodup_cons.mp (List.nodup_append.mp distinct).2.1).1
  exact apartLater (same ▸ List.mem_map_of_mem isLater)

/-- A round writes the entry of the candidate it takes. -/
theorem Books.advance (books : optimizer.Books picked round)
    (tracks : optimizer.Tracks candidates picked round) {next : LoopPosition}
    (advances : optimizer.Advances ⟨picked, round⟩ next) :
    optimizer.Books next.picked next.round := by
  cases advances with
  | @take _ _ index best candidate slotLeft decided isPlace =>
    obtain ⟨found, worth⟩ := verdict_take decided
    obtain ⟨⟨same, samePlace, isEligible, isBest⟩, isPeak⟩ :=
      tracks.bestRemaining_some slotLeft found
    rw [isPlace] at samePlace
    cases samePlace
    rw [tracks.length_selected, isBest] at worth
    refine ⟨?_, ?_, ?_⟩
    · intro earlier pick later shape kept
      rcases split_of_concat shape with
        ⟨rfl, rfl, rfl⟩ | ⟨between, rfl, samePicked⟩
      · rw [← isBest]
        exact Function.update_self _ _ _
      · have apart : candidate.key ≠ pick.key := kept candidate (by simp)
        have written := books.entries earlier pick between samePicked
            fun other isBetween =>
              kept other (List.mem_append_left _ isBetween)
        rw [← written]
        exact Function.update_of_ne apart.symm _ _
    · simp only [accept]
      rw [books.summed, replay_concat, List.map_append, List.sum_append,
        List.map_singleton, List.sum_singleton, add_zero, isBest]
    · refine books.greedy.concat (perm_cons_swapRemove isPlace) isEligible
          worth ?_
      intro other isMember otherEligible
      have atMost := isPeak other isMember otherEligible
      rw [isBest] at atMost
      exact atMost

theorem books_of_run
    (run : Relation.ReflTransGen optimizer.Advances (firstPosition candidates) position) :
    optimizer.Books position.picked position.round := by
  induction run with
  | refl => exact firstRound_books optimizer candidates
  | tail earlier advances books =>
    exact books.advance (tracks_of_run earlier) advances

theorem picked_prefix {before after : LoopPosition}
    (run : Relation.ReflTransGen optimizer.Advances before after) :
    before.picked <+: after.picked := by
  induction run with
  | refl => exact List.prefix_rfl
  | tail _ advances earlier =>
    cases advances with
    | take slotLeft decided isPlace => exact earlier.trans (List.prefix_append _ _)

/-- Picks that were all recordable share no key and count in 32 bits. -/
theorem RecordsApart.of_run (apart : optimizer.RecordsApart candidates)
    (run : Relation.ReflTransGen optimizer.Advances (firstPosition candidates) position) :
    (position.picked.map PortfolioCandidate.key).Nodup ∧
      ∀ earlier candidate later,
        position.picked = earlier ++ candidate :: later →
        optimizer.Recordable earlier candidate := by
  induction run with
  | refl =>
    refine ⟨List.nodup_nil, fun earlier candidate later shape => ?_⟩
    simp [firstPosition] at shape
  | tail earlier advances inductionHypothesis =>
    cases advances with
    | @take picked round index best candidate slotLeft decided isPlace =>
      have recordable := apart picked round index best candidate earlier slotLeft decided isPlace
      obtain ⟨distinct, recorded⟩ := inductionHypothesis
      constructor
      · rw [List.map_append, List.map_singleton, List.nodup_append]
        refine ⟨distinct, List.nodup_singleton _, ?_⟩
        rintro key isOld _ isNew rfl
        obtain ⟨other, isPicked, isKey⟩ := List.mem_map.mp isOld
        exact recordable.unwritten other isPicked (isKey.trans (List.mem_singleton.mp isNew))
      · intro before pick later shape
        rcases split_of_concat shape with
          ⟨rfl, rfl, rfl⟩ | ⟨between, rfl, samePicked⟩
        · exact recordable
        · exact recorded before pick between samePicked

end Replay

section Reading

variable {optimizer : PortfolioOptimizer} {candidates picked : List PortfolioCandidate}
  {candidate : PortfolioCandidate}

theorem adjustmentsBeside_dispatched (optimizer : PortfolioOptimizer)
    (picked : List PortfolioCandidate) (candidate : PortfolioCandidate) :
    optimizer.adjustmentsBeside (picked.map PortfolioCandidate.dispatched : List PortfolioCandidate)
        candidate.dispatched =
      optimizer.adjustmentsBeside picked candidate := by
  unfold adjustmentsBeside
  rw [Multiset.coe_countP, Multiset.coe_countP, Multiset.coe_countP,
    Multiset.coe_countP, List.countP_map, List.countP_map]
  rfl

theorem countP_dispatched (picked : List PortfolioCandidate) (audience : String) :
    (picked.map PortfolioCandidate.dispatched).countP (fun other => other.audienceKey = audience) =
      picked.countP (fun other => other.audienceKey = audience) := by
  rw [List.countP_map]
  rfl

theorem countP_act_dispatched (picked : List PortfolioCandidate) (act : Uuid) :
    (picked.map PortfolioCandidate.dispatched).countP (fun other => other.act = act) =
      picked.countP (fun other => other.act = act) := by
  rw [List.countP_map]
  rfl

theorem audienceCount_beside :
    (optimizer.adjustmentsBeside picked candidate).audienceCount =
      picked.countP (fun other => other.audienceKey = candidate.audienceKey) := by
  unfold adjustmentsBeside
  rw [Multiset.coe_countP]
  rfl

theorem actDispatches_beside (short : (picked.length : Int) ≤ 4294967295) :
    (optimizer.adjustmentsBeside picked candidate).actDispatches.val = min 4294967295
        ((optimizer.actPast candidate).val
          + picked.countP (fun other => other.act = candidate.act)) := by
  have fewer : picked.countP (fun other => other.act = candidate.act) ≤ picked.length :=
    List.countP_le_length
  have lower := (optimizer.actPast candidate).lower
  unfold adjustmentsBeside
  rw [Multiset.coe_countP, Multiset.coe_countP]
  simp only [adjustments, MarginalAdjustments.apply, Ranged.val_saturatingAdd]
  rw [Ranged.val_wrap_of_fits (by omega) (by omega)]
  rw [actPast] at lower ⊢
  exact max_eq_right (by omega)

theorem Placed.length_le_u32 (placed : optimizer.Placed picked) :
    (picked.length : Int) ≤ 4294967295 :=
  placed.length_le.trans optimizer.totalSlotLimit.upper

end Reading

/-- The ledger replays exactly when every round takes a candidate whose key is
not written yet and whose act is counted in 32 bits.  Acts pooled from several
workspaces may share keys, and then the later entry takes the earlier one's
place. -/
theorem ledger_replays_iff
    (optimizer : PortfolioOptimizer)
    (candidates : List PortfolioCandidate) :
    optimizer.LedgerReplays (optimizer.select candidates) ↔ optimizer.RecordsApart candidates := by
  constructor
  · intro replays picked round index best candidate run slotLeft decided
      isPlace
    have advances :
        optimizer.Advances ⟨picked, round⟩
          ⟨picked ++ [candidate], optimizer.accept round index best candidate⟩ :=
      .take slotLeft decided isPlace
    obtain ⟨last, reason, later, outcome⟩ := exists_outcome (run.tail advances)
    obtain ⟨rest, shape⟩ := picked_prefix later
    have distinct := replays.ownEntries
    rw [outcome.selected, List.map_map, ← shape] at distinct
    change
      ((picked ++ [candidate] ++ rest).map PortfolioCandidate.key).Nodup
        at distinct
    have isAt :
        (optimizer.select candidates).selected[picked.length]? = some candidate.dispatched := by
      rw [outcome.selected, ← shape, List.getElem?_map]
      simp
    obtain ⟨entry, -, -, counted⟩ := replays.replayed _ _ isAt
    have before :
        (optimizer.select candidates).selected.take picked.length =
          picked.map PortfolioCandidate.dispatched := by
      rw [outcome.selected, ← shape, ← List.map_take, List.append_assoc, List.take_left]
    rw [before] at counted
    constructor
    · intro other isPicked same
      rw [List.map_append, List.map_append, List.nodup_append] at distinct
      have earlier := (List.nodup_append.mp distinct.1).2.2
      exact earlier _ (List.mem_map_of_mem isPicked) _
        (List.mem_singleton_self _) same
    · have upper := entry.actDispatches.upper
      rw [counted] at upper
      rw [← countP_act_dispatched]
      exact upper
  · intro apart
    obtain ⟨last, reason, run, -, isLast, outcome⟩ := optimizer.exists_ending candidates
    have books := books_of_run run
    obtain ⟨distinct, recorded⟩ := apart.of_run run
    have ledger :
        (optimizer.select candidates).marginalAdjustments = last.round.marginalAdjustments := by
      rw [select_eq_lastRound, isLast]
      rfl
    have entryAt :
        ∀ (index : Nat) (candidate : PortfolioCandidate),
          last.picked[index]? = some candidate →
          (optimizer.select candidates).marginalAdjustments candidate.key =
              some (optimizer.adjustmentsBeside
                (last.picked.take index) candidate) ∧
            optimizer.Recordable (last.picked.take index) candidate := by
      intro index candidate isAt
      rw [ledger]
      exact ⟨books.entry_at distinct isAt, recorded _ _ _ (split_of_getElem? isAt)⟩
    refine ⟨?_, ?_, ?_⟩
    · rw [outcome.selected, List.map_map]
      exact distinct
    · intro index candidate isAt
      rw [outcome.selected, List.getElem?_map, Option.map_eq_some_iff] at isAt
      obtain ⟨original, isOriginal, rfl⟩ := isAt
      obtain ⟨entry, recordable⟩ := entryAt index original isOriginal
      refine ⟨_, entry, ?_, ?_⟩
      · rw [outcome.selected, ← List.map_take, countP_dispatched]
        exact audienceCount_beside
      · have short := outcome.tracks.placed.length_le_u32
        have shorter : ((last.picked.take index).length : Int) ≤ 4294967295 := by
          rw [List.length_take]
          omega
        rw [outcome.selected, ← List.map_take, countP_act_dispatched, actDispatches_beside shorter]
        exact min_eq_right recordable.counted
    · rw [outcome.expectedFans, books.summed, outcome.selected]
      congr 1
      refine List.ext_getElem? fun index => ?_
      rw [List.getElem?_map, List.getElem?_map, List.getElem?_map, getElem?_replay]
      cases isAt : last.picked[index]? with
      | none =>
        rfl
      | some candidate =>
        have entry := (entryAt index candidate isAt).1
        simp only [Option.map_some, PortfolioSelection.entryMarginal, add_zero]
        change _ = some (Option.getD (Option.map _
          ((optimizer.select candidates).marginalAdjustments
            candidate.key)) 0)
        rw [entry]
        rfl

/-- The default optimizer of a workspace. -/
def openSlots : PortfolioOptimizer where
  config := PortfolioConfig.default
  actHistory := fun _ => none
  provenOnlyBeyond := none
  provenAudiences := ∅

/-- Two acts pitch the same post, and the entry of the first is gone. -/
theorem shared_post_overwrites_entry :
    ¬ openSlots.LedgerReplays
        (openSlots.select
          [communityPost "black" 5,
            { communityPost "black" 4 with act := 2 }]) := by
  intro replays
  have first :
      (openSlots.select
          [communityPost "black" 5,
            { communityPost "black" 4 with act := 2 }]).selected[0]? =
        some (communityPost "black" 5).dispatched := by
    decide +kernel
  have lastWritten :
      ((openSlots.select
          [communityPost "black" 5,
            { communityPost "black" 4 with act := 2 }]).marginalAdjustments
              (communityPost "black" 5).key).map
        MarginalAdjustments.audienceCount = some 1 := by
    decide +kernel
  obtain ⟨entry, isEntry, counted, -⟩ := replays.replayed 0 _ first
  change _ = (0 : Nat) at counted
  rw [show (communityPost "black" 5).dispatched.key =
    (communityPost "black" 5).key from rfl] at isEntry
  rw [isEntry, Option.map_some, counted] at lastWritten
  cases lastWritten

end PortfolioOptimizer

end CrowdRelay
