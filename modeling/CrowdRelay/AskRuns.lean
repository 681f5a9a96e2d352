import Mathlib.Data.List.Count
import Mathlib.Tactic.IntervalCases
import CrowdRelay.LapsedSweep

namespace CrowdRelay

open KeyedTable

/-!
# How often an unanswered ask comes back

The sweep frees the key of a lapsed ask, and the next proposal counts the asks
that lapsed under the key before it adds one.  Over any run in which no sweep
slips in between the last count and its insert, the count is the number of
asks of the key that lapsed, and stays within its bound.
-/

/-! ## Keys -/

/-- What the sweep puts between a key and the id of the dead row. -/
def lapseMark : List Char := [':', 'l', 'a', 'p', 's', 'e', 'd', ':']

theorem toList_lapseMark : ":lapsed:".toList = lapseMark := by
  decide

def BaseKey (key : String) : Prop := ¬ lapseMark <:+: key.toList

instance (key : String) : Decidable (BaseKey key) :=
  inferInstanceAs (Decidable (¬ lapseMark <:+: key.toList))

theorem of_lapseMark_prefix_append {rest tail : List Char}
    (overlaps : lapseMark <+: rest ++ (lapseMark ++ tail)) :
    rest = [] ∨ rest = ":lapsed".toList ∨ lapseMark <+: rest := by
  rcases Nat.le_total lapseMark.length rest.length with long | short
  · right
    right
    exact List.prefix_of_prefix_length_le overlaps (List.prefix_append _ _) long
  · have isPart : rest <+: lapseMark :=
      List.prefix_of_prefix_length_le (List.prefix_append _ _) overlaps short
    rw [List.prefix_iff_eq_take] at isPart
    generalize rest.length = size at isPart short
    subst isPart
    change size ≤ 8 at short
    interval_cases size <;> simp [lapseMark] at overlaps ⊢

theorem of_append_lapseMark_prefix {rest digits : List Char}
    (numeric : ∀ digit ∈ digits, digit.isDigit = true)
    (overlaps : rest ++ lapseMark <+: lapseMark ++ digits) :
    rest = [] ∨ lapseMark <+: rest := by
  have starts : rest <+: lapseMark ++ digits := (List.prefix_append _ _).trans overlaps
  rcases Nat.le_total lapseMark.length rest.length with long | short
  · right
    exact List.prefix_of_prefix_length_le (List.prefix_append _ _) starts long
  · have isPart : rest <+: lapseMark :=
      List.prefix_of_prefix_length_le starts (List.prefix_append _ _) short
    rw [List.prefix_iff_eq_take] at isPart
    generalize rest.length = size at isPart short
    subst isPart
    change size ≤ 8 at short
    interval_cases size <;> simp [lapseMark] at overlaps ⊢
    -- Without its last colon the mark would go on with a digit.
    have letter := numeric 'l' (overlaps.mem (by simp))
    cases letter

variable {key other : String}

/--
A key that starts like the lapsed keys of `key` was made from it, or from the
one key that ends as the mark begins.
-/
theorem eq_or_eq_of_starts {id : Nat} (base : BaseKey key) (otherBase : BaseKey other)
    (starts : (key ++ ":lapsed:").toList <+: (other ++ ":lapsed:" ++ toString id).toList) :
    other = key ∨ other = key ++ ":lapsed" := by
  have numeric : ∀ digit ∈ (toString id).toList, digit.isDigit = true := by
    intro digit isDigit
    rw [Nat.toString_eq_repr, Nat.toList_repr] at isDigit
    exact Nat.isDigit_of_mem_toDigits (by decide) (by decide) isDigit
  simp only [String.toList_append, toList_lapseMark, List.append_assoc] at starts
  rcases List.prefix_or_prefix_of_prefix ((List.prefix_append _ _).trans starts)
        (List.prefix_append other.toList _) with
    ⟨rest, isOther⟩ | ⟨rest, isKey⟩
  · rw [← isOther, List.append_assoc, List.prefix_append_right_inj] at starts
    rcases of_lapseMark_prefix_append starts with rfl | rfl | marked
    · left
      rw [← String.toList_inj, ← isOther, List.append_nil]
    · right
      rw [← String.toList_inj, ← isOther, String.toList_append]
    · refine absurd ?_ otherBase
      rw [← isOther]
      exact marked.isInfix.trans (List.suffix_append _ _).isInfix
  · rw [← isKey, List.append_assoc, List.prefix_append_right_inj] at starts
    rcases of_append_lapseMark_prefix numeric starts with rfl | marked
    · left
      rw [← String.toList_inj, ← isKey, List.append_nil]
    · refine absurd ?_ base
      rw [← isKey]
      exact marked.isInfix.trans (List.suffix_append _ _).isInfix

theorem ne_of_lapsed {id : Nat} (base : BaseKey key)
    (isLapsed : key = other ++ ":lapsed:" ++ toString id) :
    False := by
  refine base ?_
  rw [isLapsed, String.toList_append, String.toList_append, toList_lapseMark]
  exact ((List.suffix_append other.toList lapseMark).isInfix).trans (List.prefix_append _ _).isInfix

/-! ## Counting the asks of a key -/

def lapsedUnder (key : String)
    (asks : List Ask) : Nat :=
  asks.countP fun ask => ask.proposedUnder = key && ask.isLapsed

/-- Those, and the asks that may still lapse. -/
def unansweredUnder (key : String)
    (asks : List Ask) : Nat :=
  asks.countP fun ask =>
    ask.proposedUnder = key && (ask.isLapsed || ask.isAwaiting)

def holdersOf (key : String)
    (asks : List Ask) : Nat :=
  asks.countP fun ask => ask.row.idempotencyKey = key

/-- What the rows say as long as no ask lapsed under the overlapping key. -/
structure AsksKept
    (key : String)
    (asks : List Ask) : Prop where
  unique : KeyedTable.Unique (fun ask => ask.row.idempotencyKey) asks
  base : ∀ ask ∈ asks, BaseKey ask.proposedUnder
  waiting :
    ∀ ask ∈ asks,
      ask.isAwaiting = true → ask.row.idempotencyKey = ask.proposedUnder
  dead :
    ∀ ask ∈ asks,
      ask.isLapsed = true →
      ask.row.status.isFinished = true ∧
        ask.row.idempotencyKey =
          ask.proposedUnder ++ ":lapsed:" ++ toString ask.row.id ∧
        ask.proposedUnder ≠ key ++ ":lapsed"
  bounded : unansweredUnder key asks ≤ maxApprovalAsks

variable {key : String} {asks after : List Ask}

theorem holdersOf_le_one (unique : KeyedTable.Unique (fun ask => ask.row.idempotencyKey) asks) :
    holdersOf key asks ≤ 1 := by
  have once := List.nodup_iff_count_le_one.mp unique key
  rw [List.count, List.countP_map] at once
  calc
    holdersOf key asks = asks.countP
          ((fun held => held == key) ∘ fun ask => ask.row.idempotencyKey) :=
        List.countP_congr fun ask _ => by simp
    _ ≤ 1 := once

theorem unansweredUnder_le
    (waiting :
      ∀ ask ∈ asks,
        ask.isAwaiting = true →
        ask.row.idempotencyKey = ask.proposedUnder) :
    unansweredUnder key asks ≤ lapsedUnder key asks + holdersOf key asks := by
  unfold unansweredUnder
  rw [List.countP_eq_countP_filter_add _ _ Ask.isLapsed, List.countP_filter, List.countP_filter]
  refine Nat.add_le_add ?_ ?_
  · refine List.countP_mono_left fun ask _ counted => ?_
    simp only [Bool.and_eq_true, decide_eq_true_eq] at counted ⊢
    exact ⟨counted.1.1, counted.2⟩
  · refine List.countP_mono_left fun ask isAsk counted => ?_
    simp only [Bool.and_eq_true, Bool.or_eq_true, Bool.not_eq_true', decide_eq_true_eq] at counted ⊢
    obtain ⟨⟨under, lapsed | awaits⟩, alive⟩ := counted
    · rw [lapsed] at alive
      cases alive
    · exact (waiting ask isAsk awaits).trans under

theorem AsksKept.lapsedAsks_eq (kept : AsksKept key asks) (base : BaseKey key)
    {candidate : LedgerCandidate} (under : candidate.actionIdempotencyKey = key) :
    lapsedAsks (askTables asks) candidate = lapsedUnder key asks := by
  unfold lapsedAsks askTables
  rw [List.countP_map]
  refine List.countP_congr fun ask isAsk => ?_
  simp only [Function.comp_apply, Bool.and_eq_true, Bool.or_eq_true,
    decide_eq_true_eq, List.isPrefixOf_iff_prefix, under]
  constructor
  · rintro ⟨expired, held⟩
    have isLapsed : ask.isLapsed = true := decide_eq_true expired
    obtain ⟨_, isKey, apart⟩ := kept.dead ask isAsk isLapsed
    refine ⟨?_, isLapsed⟩
    rw [isKey] at held
    rcases held with same | starts
    · exact (ne_of_lapsed base same.symm).elim
    · exact (eq_or_eq_of_starts base (kept.base ask isAsk) starts).resolve_right
          apart
  · rintro ⟨rfl, isLapsed⟩
    refine ⟨of_decide_eq_true isLapsed, Or.inr ?_⟩
    rw [(kept.dead ask isAsk isLapsed).2.1, @String.toList_append (_ ++ _) (toString ask.row.id)]
    exact List.prefix_append _ _

/-! ## Writing rows -/

variable {ask : Ask}

section Writes

variable {asks after chosen : List Ask} {write : RowWrite} {place : Nat}

theorem isFinished_of_isAwaiting (awaits : ask.isAwaiting = true) :
    ask.row.status.isFinished = false := by
  have status : ask.row.status = .awaitingApproval := of_decide_eq_true awaits
  rw [status]
  rfl

theorem of_writeAsks (written : writeAsks write chosen asks = some after) :
    after = asks.map (writtenAsk write chosen) ∧
      KeyedTable.Unique (fun ask => ask.row.idempotencyKey) after := by
  unfold writeAsks at written
  dsimp only at written
  split at written
  · rename_i unique
    cases written
    exact ⟨rfl, unique⟩
  · cases written

theorem proposedUnder_writtenAsk :
    (writtenAsk write chosen ask).proposedUnder = ask.proposedUnder := by
  unfold writtenAsk
  split <;> rfl

theorem unanswered_of_writtenAsk (settles : write.status ≠ .awaitingApproval)
    (lapsing :
      write.lastErrorKind = some "approval_expired" →
      ask ∈ chosen →
      ask.isAwaiting = true)
    (unanswered :
      (writtenAsk write chosen ask).isLapsed = true ∨
        (writtenAsk write chosen ask).isAwaiting = true) :
    ask.isLapsed = true ∨ ask.isAwaiting = true := by
  unfold writtenAsk at unanswered
  split at unanswered
  · rename_i isChosen
    rcases unanswered with lapsed | awaits
    · exact Or.inr (lapsing (of_decide_eq_true lapsed) isChosen)
    · exact absurd (of_decide_eq_true awaits) settles
  · exact unanswered

theorem unansweredUnder_writeAsks (settles : write.status ≠ .awaitingApproval)
    (lapsing :
      write.lastErrorKind = some "approval_expired" →
      ∀ ask ∈ chosen, ask.isAwaiting = true)
    (written : writeAsks write chosen asks = some after) :
    unansweredUnder key after ≤ unansweredUnder key asks := by
  obtain ⟨rfl, _⟩ := of_writeAsks written
  unfold unansweredUnder
  rw [List.countP_map]
  refine List.countP_mono_left fun ask _ counted => ?_
  simp only [Function.comp_apply, Bool.and_eq_true, Bool.or_eq_true,
    proposedUnder_writtenAsk] at counted ⊢
  exact ⟨counted.1, unanswered_of_writtenAsk settles
        (fun lapses isChosen => lapsing lapses ask isChosen) counted.2⟩

theorem lapsedUnder_writeAsks (kept : AsksKept key asks)
    (unfinished : ∀ ask ∈ chosen, ask.row.status.isFinished = false)
    (others :
      write.lastErrorKind = some "approval_expired" →
      ∀ ask ∈ chosen, ask.proposedUnder ≠ key)
    (written : writeAsks write chosen asks = some after) :
    lapsedUnder key after = lapsedUnder key asks := by
  obtain ⟨rfl, _⟩ := of_writeAsks written
  unfold lapsedUnder
  rw [List.countP_map]
  refine List.countP_congr fun ask isAsk => ?_
  simp only [Function.comp_apply, Bool.and_eq_true, decide_eq_true_eq, proposedUnder_writtenAsk]
  refine and_congr_right fun under => ?_
  unfold writtenAsk
  split
  · rename_i isChosen
    constructor
    · intro lapsed
      exact absurd under (others (of_decide_eq_true lapsed) ask isChosen)
    · intro lapsed
      have finished := (kept.dead ask isAsk lapsed).1
      rw [unfinished ask isChosen] at finished
      cases finished
  · exact Iff.rfl

theorem AsksKept.written (kept : AsksKept key asks) (settles : write.status ≠ .awaitingApproval)
    (lapsing :
      write.lastErrorKind = some "approval_expired" →
      write = .approvalExpired ∧
        ∀ ask ∈ chosen, ask.isAwaiting = true ∧ ask.proposedUnder ≠ key ++ ":lapsed")
    (written : writeAsks write chosen asks = some after) :
    AsksKept key after := by
  have fewer : unansweredUnder key after ≤ unansweredUnder key asks :=
    unansweredUnder_writeAsks settles
      (fun lapses ask isChosen => ((lapsing lapses).2 ask isChosen).1) written
  obtain ⟨rfl, unique⟩ := of_writeAsks written
  refine
    { unique := unique
      base := ?_
      waiting := ?_
      dead := ?_
      bounded := fewer.trans kept.bounded }
  all_goals
    intro next isNext
    obtain ⟨ask, isAsk, rfl⟩ := List.mem_map.mp isNext
    rw [proposedUnder_writtenAsk]
  · exact kept.base ask isAsk
  · intro awaits
    unfold writtenAsk at awaits ⊢
    split at awaits
    · exact absurd (of_decide_eq_true awaits) settles
    · rename_i unchosen
      rw [if_neg unchosen]
      exact kept.waiting ask isAsk awaits
  · intro lapsed
    unfold writtenAsk at lapsed ⊢
    split at lapsed
    · rename_i isChosen
      obtain ⟨rfl, ours⟩ := lapsing (of_decide_eq_true lapsed)
      obtain ⟨awaits, apart⟩ := ours ask isChosen
      have isKey := kept.waiting ask isAsk awaits
      rw [if_pos isChosen]
      refine ⟨rfl, ?_, apart⟩
      rw [← isKey]
      rfl
    · rename_i unchosen
      rw [if_neg unchosen]
      exact kept.dead ask isAsk lapsed

theorem AsksKept.settled (kept : AsksKept key asks) (settles : write.status ≠ .awaitingApproval)
    (answered : write.lastErrorKind ≠ some "approval_expired")
    (unfinished : ∀ ask ∈ chosen, ask.row.status.isFinished = false)
    (written : writeAsks write chosen asks = some after) :
    AsksKept key after ∧ lapsedUnder key after = lapsedUnder key asks :=
  ⟨kept.written settles (fun lapses => absurd lapses answered) written,
    lapsedUnder_writeAsks kept unfinished (fun lapses => absurd lapses answered) written⟩

theorem getElem?_writeAsks (settles : write.status ≠ .awaitingApproval)
    (written : writeAsks write chosen asks = some after) (isAt : asks[place]? = some ask)
    (answered : ask.isAwaiting = false) :
    ∃ later, after[place]? = some later ∧ later.isAwaiting = false := by
  obtain ⟨rfl, _⟩ := of_writeAsks written
  refine ⟨writtenAsk write chosen ask, ?_, ?_⟩
  · rw [List.getElem?_map, isAt]
    rfl
  · unfold writtenAsk
    split
    · exact decide_eq_false settles
    · exact answered

theorem getElem?_writeAsks_of_awaiting (awaiting : ∀ ask ∈ chosen, ask.isAwaiting = true)
    (written : writeAsks write chosen asks = some after) (isAt : asks[place]? = some ask)
    (answered : ask.isAwaiting = false) :
    after[place]? = some ask := by
  obtain ⟨rfl, _⟩ := of_writeAsks written
  have unchosen : ask ∉ chosen := by
    intro isChosen
    rw [awaiting ask isChosen] at answered
    cases answered
  rw [List.getElem?_map, isAt, Option.map_some, writtenAsk, if_neg unchosen]

end Writes

/-! ## A sweep -/

section Sweep

variable {reads : SweepReads}

theorem isAwaiting_of_mem_sweepBatch {order : Ask → Ask → Bool} {dies : Ask → Bool}
    (isTaken : ask ∈ sweepBatch reads asks order dies) :
    ask.isAwaiting = true := by
  have ofSorted :
      ask ∈
        (asks.filter fun ask =>
            ask.isAwaiting && !reads.locked.contains ask.row.id &&
              dies ask).insertionSort (fun one other => order one other) →
      ask.isAwaiting = true := by
    intro isSorted
    have isCandidate := (List.perm_insertionSort _ _).mem_iff.mp isSorted
    have passes := (List.mem_filter.mp isCandidate).2
    rw [Bool.and_eq_true, Bool.and_eq_true] at passes
    exact passes.1.1
  unfold sweepBatch at isTaken
  dsimp only at isTaken
  split at isTaken
  · exact ofSorted (List.mem_of_mem_take isTaken)
  · exact ofSorted isTaken

theorem isAwaiting_of_mem_mismatchedAsks (isTaken : ask ∈ mismatchedAsks reads asks) :
    ask.isAwaiting = true :=
  isAwaiting_of_mem_sweepBatch (List.mem_filter.mp isTaken).1

theorem of_sweepLapsedApprovalAsks (swept : sweepLapsedApprovalAsks reads asks = some after) :
    ∃ expired founded live,
      writeAsks .approvalExpired (lapsingAsks reads asks) asks = some expired ∧
        writeAsks .insufficientEvidence (unfoundedAsks reads expired) expired = some founded ∧
        writeAsks .opportunityRetired (retiredAsks reads founded) founded = some live ∧
        writeAsks .communityLanguageMismatch (mismatchedAsks reads live) live = some after := by
  simp only [sweepLapsedApprovalAsks, Option.bind_eq_bind, Option.bind_eq_some_iff] at swept
  obtain ⟨expired, first, founded, second, live, third, fourth⟩ := swept
  exact ⟨expired, founded, live, first, second, third, fourth⟩

theorem AsksKept.swept (kept : AsksKept key asks)
    (apart : ∀ ask ∈ lapsingAsks reads asks, ask.proposedUnder ≠ key ++ ":lapsed")
    (swept : sweepLapsedApprovalAsks reads asks = some after) :
    AsksKept key after ∧
      lapsedUnder key after ≤ unansweredUnder key asks ∧
      ((∀ ask ∈ lapsingAsks reads asks, ask.proposedUnder ≠ key) →
        lapsedUnder key after = lapsedUnder key asks) := by
  obtain ⟨expired, founded, live, first, second, third, fourth⟩ := of_sweepLapsedApprovalAsks swept
  have awaiting : ∀ ask ∈ lapsingAsks reads asks, ask.isAwaiting = true :=
    fun ask isTaken => isAwaiting_of_mem_sweepBatch isTaken
  have keptExpired : AsksKept key expired := kept.written (by decide)
      (fun _ => ⟨rfl, fun ask isTaken =>
        ⟨awaiting ask isTaken, apart ask isTaken⟩⟩) first
  have lapsedExpired : lapsedUnder key expired ≤ unansweredUnder key asks := by
    calc
      lapsedUnder key expired ≤ unansweredUnder key expired :=
          List.countP_mono_left fun ask _ counted => by
            simp only [Bool.and_eq_true, Bool.or_eq_true] at counted ⊢
            exact ⟨counted.1, Or.inl counted.2⟩
      _ ≤ unansweredUnder key asks :=
          unansweredUnder_writeAsks (by decide) (fun _ => awaiting) first
  obtain ⟨keptFounded, sameFounded⟩ := keptExpired.settled (by decide) (by decide)
      (fun ask isTaken =>
        isFinished_of_isAwaiting (isAwaiting_of_mem_sweepBatch isTaken))
      second
  obtain ⟨keptLive, sameLive⟩ := keptFounded.settled (by decide) (by decide)
      (fun ask isTaken =>
        isFinished_of_isAwaiting (isAwaiting_of_mem_sweepBatch isTaken))
      third
  obtain ⟨keptAfter, sameAfter⟩ := keptLive.settled (by decide) (by decide)
      (fun ask isTaken =>
        isFinished_of_isAwaiting (isAwaiting_of_mem_mismatchedAsks isTaken))
      fourth
  have same : lapsedUnder key after = lapsedUnder key expired :=
    sameAfter.trans (sameLive.trans sameFounded)
  refine ⟨keptAfter, same.trans_le lapsedExpired, fun others => ?_⟩
  rw [same]
  exact lapsedUnder_writeAsks kept
      (fun ask isTaken => isFinished_of_isAwaiting (awaiting ask isTaken))
      (fun _ => others) first

theorem getElem?_sweep {ledger : AskLedger} {place : Nat}
    (isAt : ledger.asks[place]? = some ask) (answered : ask.isAwaiting = false) :
    (ledger.sweep reads).asks[place]? = some ask := by
  unfold AskLedger.sweep
  split
  · exact isAt
  · rename_i swept
    obtain ⟨expired, founded, live, first, second, third, fourth⟩ :=
      of_sweepLapsedApprovalAsks swept
    have expiredAt := getElem?_writeAsks_of_awaiting
        (fun _ isTaken => isAwaiting_of_mem_sweepBatch isTaken) first isAt
        answered
    have foundedAt := getElem?_writeAsks_of_awaiting
        (fun _ isTaken => isAwaiting_of_mem_sweepBatch isTaken) second
        expiredAt answered
    have liveAt := getElem?_writeAsks_of_awaiting
        (fun _ isTaken => isAwaiting_of_mem_sweepBatch isTaken) third
        foundedAt answered
    exact getElem?_writeAsks_of_awaiting
        (fun _ isTaken => isAwaiting_of_mem_mismatchedAsks isTaken) fourth
        liveAt answered

end Sweep

/-! ## A proposal -/

section Proposals

variable {asks : List Ask} {proposal : PendingAsk}

theorem lapsedAsks_lt_of_awaiting {tables : DecisionTables} {reads : LedgerReads}
    {candidate : LedgerCandidate}
    (inserts : statusToInsert tables reads candidate = some .awaitingApproval) :
    lapsedAsks tables candidate < maxApprovalAsks := by
  have status : newActionStatus tables reads candidate = some .awaitingApproval := by
    unfold statusToInsert at inserts
    split at inserts
    · split at inserts
      · cases inserts
      · exact inserts
    · cases inserts
  have asked := requireApproval_of_awaiting status
  unfold newActionStatus at status
  split at status
  · cases status
  · rename_i unexhausted
    simp only [asked] at status
    split at status
    · cases status
    · rename_i unreleased
      rw [Bool.or_eq_true, not_or] at unreleased
      unfold reRaiseExhausted at unexhausted
      simpa [asked, unreleased.1, unreleased.2] using unexhausted

theorem insertAsk_cases (asks : List Ask) (proposal : PendingAsk) :
    insertAsk asks proposal = asks ∨
      insertAsk asks proposal = asks ++ [newAsk asks proposal] ∧
        ∀ ask ∈ asks, ask.row.idempotencyKey ≠ proposal.candidate.actionIdempotencyKey := by
  unfold insertAsk
  split
  · rename_i free _
    refine Or.inr ⟨rfl, fun ask isAsk => ?_⟩
    have other := List.find?_eq_none.mp free ask.row (List.mem_map_of_mem isAsk)
    simpa using other
  · exact Or.inl rfl

theorem isLapsed_newAsk : (newAsk asks proposal).isLapsed = false := rfl

theorem lapsedUnder_insertAsk :
    lapsedUnder key (insertAsk asks proposal) = lapsedUnder key asks := by
  rcases insertAsk_cases asks proposal with same | ⟨added, _⟩
  · rw [same]
  · rw [added, lapsedUnder, List.countP_append, List.countP_singleton,
      isLapsed_newAsk, Bool.and_false, if_neg Bool.false_ne_true]
    rfl

theorem unansweredUnder_append_newAsk (kept : AsksKept key asks)
    (room :
      proposal.candidate.actionIdempotencyKey = key →
      proposal.status = .awaitingApproval →
      lapsedUnder key asks < maxApprovalAsks)
    (free : ∀ ask ∈ asks, ask.row.idempotencyKey ≠ proposal.candidate.actionIdempotencyKey) :
    unansweredUnder key (asks ++ [newAsk asks proposal]) ≤ maxApprovalAsks := by
  rw [unansweredUnder, List.countP_append, List.countP_singleton]
  split
  · rename_i counted
    rw [isLapsed_newAsk, Bool.false_or, Bool.and_eq_true] at counted
    obtain ⟨isUnder, isAsk⟩ := counted
    have under : proposal.candidate.actionIdempotencyKey = key := of_decide_eq_true isUnder
    have awaits : proposal.status = .awaitingApproval := of_decide_eq_true isAsk
    have unheld : holdersOf key asks = 0 := by
      refine List.countP_eq_zero.mpr fun ask isOld held => ?_
      exact free ask isOld ((of_decide_eq_true held).trans under.symm)
    have lapsed : unansweredUnder key asks ≤ lapsedUnder key asks := by
      have split := @unansweredUnder_le key asks kept.waiting
      rwa [unheld] at split
    exact lt_of_le_of_lt lapsed (room under awaits)
  · exact kept.bounded

theorem AsksKept.inserted (kept : AsksKept key asks)
    (base : BaseKey proposal.candidate.actionIdempotencyKey)
    (room :
      proposal.candidate.actionIdempotencyKey = key →
      proposal.status = .awaitingApproval →
      lapsedUnder key asks < maxApprovalAsks) :
    AsksKept key (insertAsk asks proposal) := by
  rcases insertAsk_cases asks proposal with same | ⟨added, free⟩
  · rw [same]
    exact kept
  · rw [added]
    refine
      { unique := kept.unique.append_singleton free
        base := ?_
        waiting := ?_
        dead := ?_
        bounded := unansweredUnder_append_newAsk kept room free }
    all_goals
      intro ask isAsk
      rcases List.mem_append.mp isAsk with isOld | isNew
    · exact kept.base ask isOld
    · rw [List.mem_singleton.mp isNew]
      exact base
    · exact kept.waiting ask isOld
    · rw [List.mem_singleton.mp isNew]
      intro _
      rfl
    · exact kept.dead ask isOld
    · rw [List.mem_singleton.mp isNew, isLapsed_newAsk]
      intro absent
      cases absent

end Proposals

/-! ## Runs -/

def PendingAsk.AsksUnder (key : String)
    (proposal : PendingAsk) : Prop :=
  proposal.candidate.actionIdempotencyKey = key ∧ proposal.status = .awaitingApproval

/--
A sweep that leaves the count of a proposal under way as good as it was: it
does not lapse the last ask of the key meanwhile, and lapses no ask whose key
would be taken for one of the key's.
-/
structure SweepSpares
    (key : String)
    (reads : SweepReads)
    (ledger : AskLedger) : Prop where
  lastAsk :
    (∃ proposal ∈ ledger.pending, proposal.AsksUnder key) →
    (∃ ask ∈ lapsingAsks reads ledger.asks, ask.proposedUnder = key) →
    lapsedUnder key ledger.asks + 1 < maxApprovalAsks
  overlap :
    ∀ ask ∈ lapsingAsks reads ledger.asks,
      ask.proposedUnder ≠ key ++ ":lapsed"

def AskEvent.ProposesBaseKey : AskEvent → Prop
  | .propose candidate _ _ _ => BaseKey candidate.actionIdempotencyKey
  | _ => True

instance (event : AskEvent) : Decidable event.ProposesBaseKey :=
  match event with
  | .propose candidate _ _ _ =>
    inferInstanceAs (Decidable (BaseKey candidate.actionIdempotencyKey))
  | .insert _ | .abandon _ | .sweep _ | .answer _ _ => .isTrue trivial

/-- What the ledger promises of a key. -/
structure AsksBounded
    (key : String)
    (ledger : AskLedger) : Prop where
  single : holdersOf key ledger.asks ≤ 1
  bounded : lapsedUnder key ledger.asks ≤ maxApprovalAsks
  /-- The count of a proposal is of asks of its own key. -/
  ownLapses :
    ∀ candidate,
      candidate.actionIdempotencyKey = key →
      lapsedAsks (askTables ledger.asks) candidate =
        lapsedUnder key ledger.asks
  /-- A sweep neither revives nor re-keys what was answered. -/
  spared :
    ∀ (reads : SweepReads) (place : Nat) (ask : Ask),
      ledger.asks[place]? = some ask →
      ask.isAwaiting = false →
      (ledger.sweep reads).asks[place]? = some ask

structure LedgerKept
    (key : String)
    (ledger : AskLedger) : Prop where
  asks : AsksKept key ledger.asks
  base :
    ∀ proposal ∈ ledger.pending,
      BaseKey proposal.candidate.actionIdempotencyKey
  room :
    ∀ proposal ∈ ledger.pending,
      proposal.AsksUnder key →
      lapsedUnder key ledger.asks < maxApprovalAsks

section Steps

variable {ledger : AskLedger}

theorem ledgerKept_empty (key : String) : LedgerKept key .empty :=
  { asks :=
      { unique := List.nodup_nil
        base := by simp [AskLedger.empty]
        waiting := by simp [AskLedger.empty]
        dead := by simp [AskLedger.empty]
        bounded := Nat.zero_le _ }
    base := by simp [AskLedger.empty]
    room := by simp [AskLedger.empty] }

theorem actionIdempotencyKey_executorChecked (reads : LedgerReads) (candidate : LedgerCandidate) :
    (executorChecked reads candidate).actionIdempotencyKey =
      candidate.actionIdempotencyKey := by
  unfold executorChecked
  split <;> rfl

section

variable (kept : LedgerKept key ledger)
include kept

theorem LedgerKept.propose (keyBase : BaseKey key) {candidate : LedgerCandidate}
    (base : BaseKey candidate.actionIdempotencyKey) (reads : LedgerReads)
    (decisionId : Nat) (waveAnchor : Option OffsetDateTime) :
    LedgerKept key (ledger.propose candidate reads decisionId waveAnchor) := by
  unfold AskLedger.propose
  dsimp only
  split
  · exact kept
  · split
    · exact kept
    · rename_i status inserts
      refine { asks := kept.asks, base := ?_, room := ?_ }
      all_goals
        intro proposal isPending
        rcases List.mem_append.mp isPending with isOld | isNew
      · exact kept.base proposal isOld
      · rw [List.mem_singleton.mp isNew]
        dsimp only
        rw [actionIdempotencyKey_executorChecked]
        exact base
      · exact kept.room proposal isOld
      · rw [List.mem_singleton.mp isNew]
        rintro ⟨under, rfl⟩
        have counted := lapsedAsks_lt_of_awaiting inserts
        rwa [kept.asks.lapsedAsks_eq keyBase under] at counted

theorem LedgerKept.insert (place : Nat) : LedgerKept key (ledger.insert place) := by
  unfold AskLedger.insert
  split
  · exact kept
  · rename_i proposal isAt
    have isPending : proposal ∈ ledger.pending := List.mem_of_getElem? isAt
    refine
      { asks :=
          kept.asks.inserted (kept.base proposal isPending)
            fun under awaits => kept.room proposal isPending ⟨under, awaits⟩
        base := fun other isLeft =>
          kept.base other (List.mem_of_mem_eraseIdx isLeft)
        room := fun other isLeft asks => ?_ }
    dsimp only
    rw [lapsedUnder_insertAsk]
    exact kept.room other (List.mem_of_mem_eraseIdx isLeft) asks

theorem LedgerKept.sweep {reads : SweepReads} (spares : SweepSpares key reads ledger) :
    LedgerKept key (ledger.sweep reads) := by
  unfold AskLedger.sweep
  split
  · exact kept
  · rename_i after swept
    obtain ⟨keptAfter, atMost, same⟩ := kept.asks.swept spares.overlap swept
    refine { asks := keptAfter, base := kept.base, room := ?_ }
    intro proposal isPending asks
    by_cases ours : ∃ ask ∈ lapsingAsks reads ledger.asks, ask.proposedUnder = key
    · -- One ask holds the key, so at most one lapses.
      have left := spares.lastAsk ⟨proposal, isPending, asks⟩ ours
      have split := @unansweredUnder_le key ledger.asks kept.asks.waiting
      have single := @holdersOf_le_one key ledger.asks kept.asks.unique
      dsimp only
      omega
    · have others :
          ∀ ask ∈ lapsingAsks reads ledger.asks, ask.proposedUnder ≠ key :=
        fun ask isTaken under => ours ⟨ask, isTaken, under⟩
      dsimp only
      rw [same others]
      exact kept.room proposal isPending asks

theorem LedgerKept.answer (id : Nat) (given : Answer) :
    LedgerKept key (ledger.answer id given) := by
  unfold AskLedger.answer
  dsimp only
  split
  · exact kept
  · rename_i after written
    have unfinished :
        ∀ ask ∈ ledger.asks.filter fun ask =>
            ask.row.id = id && !ask.row.status.isFinished,
          ask.row.status.isFinished = false := by
      intro ask isChosen
      have passes := (List.mem_filter.mp isChosen).2
      rw [Bool.and_eq_true, Bool.not_eq_true'] at passes
      exact passes.2
    obtain ⟨keptAfter, same⟩ := kept.asks.settled given.settles given.answered unfinished written
    refine { asks := keptAfter, base := kept.base, room := ?_ }
    dsimp only
    rw [same]
    exact kept.room

theorem LedgerKept.bounded (base : BaseKey key) : AsksBounded key ledger :=
  { single := holdersOf_le_one kept.asks.unique
    bounded := by
      refine le_trans (List.countP_mono_left fun ask _ counted => ?_) kept.asks.bounded
      simp only [Bool.and_eq_true, Bool.or_eq_true] at counted ⊢
      exact ⟨counted.1, Or.inl counted.2⟩
    ownLapses := fun _ under => kept.asks.lapsedAsks_eq base under
    spared := fun _ _ _ isAt answered => getElem?_sweep isAt answered }

end

/-- What is no ask any more never asks again. -/
theorem getElem?_apply (event : AskEvent) {place : Nat} {ask : Ask}
    (isAt : ledger.asks[place]? = some ask) (answered : ask.isAwaiting = false) :
    ∃ later, (ledger.apply event).asks[place]? = some later ∧ later.isAwaiting = false := by
  cases event with
  | propose candidate reads decisionId waveAnchor =>
    refine ⟨ask, ?_, answered⟩
    unfold AskLedger.apply AskLedger.propose
    dsimp only
    split
    · exact isAt
    · split <;> exact isAt
  | insert place =>
    refine ⟨ask, ?_, answered⟩
    unfold AskLedger.apply AskLedger.insert
    dsimp only
    split
    · exact isAt
    · rename_i proposal _
      rcases insertAsk_cases ledger.asks proposal with same | ⟨added, _⟩
      · rw [same]
        exact isAt
      · obtain ⟨inBounds, _⟩ := List.getElem?_eq_some_iff.mp isAt
        rw [added, List.getElem?_append_left inBounds]
        exact isAt
  | abandon place => exact ⟨ask, isAt, answered⟩
  | sweep reads => exact ⟨ask, getElem?_sweep isAt answered, answered⟩
  | answer id given =>
    unfold AskLedger.apply AskLedger.answer
    dsimp only
    split
    · exact ⟨ask, isAt, answered⟩
    · rename_i written
      exact getElem?_writeAsks given.settles written isAt answered

end Steps

theorem neverHalts_askMachine (output : Unit) : askMachine.halts output = false := rfl

/-- What the proposals and the sweeps of a run have to meet. -/
def AskAllowed (key : String) (_past : List AskEvent)
    (ledger : AskLedger) : AskEvent → Prop
  | .propose candidate _ _ _ => BaseKey candidate.actionIdempotencyKey
  | .sweep reads => SweepSpares key reads ledger
  | _ => True

theorem ledgerKept_asksAfter {key : String} (base : BaseKey key) {run : List AskEvent}
    (everyStep : askMachine.EveryStep (AskAllowed key) .empty run) :
    LedgerKept key (asksAfter run) := by
  refine askMachine.final_history_of_everyStep
      (fun _ ledger => LedgerKept key ledger) neverHalts_askMachine ?_
      (ledgerKept_empty key) everyStep
  intro past ledger event allowed kept
  cases event with
  | propose candidate reads decisionId waveAnchor =>
    exact kept.propose base allowed reads decisionId waveAnchor
  | insert place => exact kept.insert place
  | abandon place =>
    exact
      { asks := kept.asks
        base := fun other isLeft =>
          kept.base other (List.mem_of_mem_eraseIdx isLeft)
        room := fun other isLeft =>
          kept.room other (List.mem_of_mem_eraseIdx isLeft) }
  | sweep reads => exact kept.sweep allowed
  | answer id given => exact kept.answer id given

/--
Where every sweep of a run spares the count of a proposal under way, an ask
comes back a bounded number of times: the key has one holder, at most
`maxApprovalAsks` of its asks lapse, other keys use up none of them, and what
was answered is never an ask again.
-/
theorem unansweredAsks_bounded
    (key : String)
    (run : List AskEvent)
    (base : BaseKey key)
    (bases : ∀ event ∈ run, event.ProposesBaseKey)
    (spares :
      ∀ before reads later,
        run = before ++ .sweep reads :: later →
        SweepSpares key reads (asksAfter before)) :
    ∀ before later,
      run = before ++ later →
      AsksBounded key (asksAfter before) ∧
        ∀ (place : Nat) (ask : Ask),
          (asksAfter before).asks[place]? = some ask →
          ask.isAwaiting = false →
          ∃ kept, (asksAfter run).asks[place]? = some kept ∧ kept.isAwaiting = false := by
  have everyStep : askMachine.EveryStep (AskAllowed key) .empty run := by
    intro before event later split
    cases event with
    | propose candidate reads decisionId waveAnchor =>
      refine bases (.propose candidate reads decisionId waveAnchor) ?_
      rw [split]
      exact List.mem_append_right _ List.mem_cons_self
    | insert place => trivial
    | abandon place => trivial
    | sweep reads => exact spares before reads later split
    | answer id given => trivial
  intro before later split
  refine ⟨(ledgerKept_asksAfter base (everyStep.of_append split)).bounded base, ?_⟩
  intro place ask isAt answered
  have rest : asksAfter run = askMachine.final (asksAfter before) later := by
    rw [split]
    exact askMachine.final_append neverHalts_askMachine _ before later
  rw [rest]
  have settled := askMachine.final_invariant
      (fun ledger event
          (isOver :
            ∃ kept, ledger.asks[place]? = some kept ∧ kept.isAwaiting = false) =>
        isOver.elim fun kept held => getElem?_apply event held.1 held.2)
      ⟨ask, isAt, answered⟩ later
  exact settled

/-! ## A count and a sweep in between -/

/-- A beacon letter that waits for a person. -/
def letterToApprove : LedgerCandidate := { beaconLetter with disposition := .requireApproval }

def proposeLetter : AskEvent := .propose letterToApprove (beaconReads ["beacon.outreach"]) 0 none

def sweepAll : SweepReads :=
  { now := approvalWindow
    limit := none
    locked := []
    unfounded := []
    retired := []
    mismatched := [] }

def askedOnce : List AskEvent := [proposeLetter, .insert 0, .sweep sweepAll]

/-- The third ask lapses between the fourth one's count and its insert. -/
def askedOnceMore : List AskEvent :=
  [proposeLetter, .insert 0, .sweep sweepAll,
    proposeLetter, .insert 0, .sweep sweepAll,
    proposeLetter, .insert 0,
    proposeLetter, .sweep sweepAll, .insert 0,
    .sweep sweepAll]

example :
    let asked := askedOnce ++ askedOnce ++ askedOnce ++ [proposeLetter]
    lapsedUnder "action:beacon:7" (asksAfter asked).asks = 3 ∧
      (asksAfter asked).pending.length = 0 := by
  decide +kernel

theorem askedOnce_spares (before later : List AskEvent) (reads : SweepReads)
    (split : askedOnce = before ++ .sweep reads :: later) :
    SweepSpares "action:beacon:7" reads (asksAfter before) := by
  unfold askedOnce proposeLetter at split
  rcases before with _ | ⟨first, _ | ⟨second, _ | ⟨third, rest⟩⟩⟩
  · cases split
  · cases split
  · cases split
    exact
      { lastAsk := by
          rintro ⟨proposal, isPending, _⟩
          cases isPending
        overlap := by decide +kernel }
  · cases rest <;> cases split

theorem askedOnce_bounded :
    BaseKey "action:beacon:7" ∧
      ∀ before later,
        askedOnce = before ++ later →
        AsksBounded "action:beacon:7" (asksAfter before) ∧
          ∀ (place : Nat) (ask : Ask),
            (asksAfter before).asks[place]? = some ask →
            ask.isAwaiting = false →
            ∃ kept, (asksAfter askedOnce).asks[place]? = some kept ∧ kept.isAwaiting = false := by
  refine ⟨by decide +kernel, ?_⟩
  exact unansweredAsks_bounded "action:beacon:7" askedOnce (by decide +kernel)
      (by decide +kernel)
      (fun before reads later split =>
        askedOnce_spares before later reads split)

theorem askedOnceMore_lapsesFourTimes :
    ¬ ∀ key run,
        BaseKey key →
        (∀ event ∈ run, AskEvent.ProposesBaseKey event) →
        AsksBounded key (asksAfter run) := by
  intro promised
  have bounded := (promised "action:beacon:7" askedOnceMore (by decide +kernel)
      (by decide +kernel)).bounded
  exact absurd bounded (by decide +kernel)

end CrowdRelay
