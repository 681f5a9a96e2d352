import CrowdRelay.Machine
import CrowdRelay.Negotiation

namespace CrowdRelay

open MachineInt

/-!
# A whole negotiation

The promoter offers, offers again or withdraws; the agent looks at the terms
with whatever the show costs at that moment, and what it decides is carried
out when it is approved.  The ladder is written when the negotiation opens and
never again.
-/

inductive NegotiationEvent where
  | offer (feeMinor : I64) (respondsBy : OffsetDateTime)
  | withdraw
  | review
      (snapshot : LiveOpportunitySnapshot)
      (score : U16)
      (now : OffsetDateTime)
      (approved : Bool)

def NegotiationEvent.isOffer : NegotiationEvent → Bool
  | .offer .. => true
  | _ => false

/-- What was decided, from which state, and whether it was carried out. -/
structure NegotiationEntry where
  state : TermsState
  decision : Option TermsDecision
  carriedOut : Bool
  deriving Repr, DecidableEq

/-- The ask that went out to the promoter, if one did. -/
def NegotiationEntry.issuedAsk (entry : NegotiationEntry) : Option I64 :=
  match entry.decision with
  | some (.counter askMinor _) => if entry.carriedOut then some askMinor else none
  | _ => none

def issuedAsks (entries : List NegotiationEntry) : List I64 :=
  entries.filterMap NegotiationEntry.issuedAsk

/-- The terms as the first offer writes them. -/
def openTerms (ladder : TermsLadder) (feeMinor : I64)
    (respondsBy : OffsetDateTime) : TermsSnapshot where
  state := .proposed
  offeredFeeMinor := feeMinor
  ladder := ladder
  counteredFeeMinor := none
  counterRounds := 0
  respondsBy := respondsBy

variable (terms : TermsSnapshot)

/--
A later offer moves an unsettled negotiation back to proposed.  It leaves the
ladder, the last ask and the round count alone.
-/
def recordTeamOpportunityTerms (feeMinor : I64)
    (respondsBy : OffsetDateTime) : TermsSnapshot :=
  if feeMinor < 0 ∨ terms.state.settled then
    terms
  else
    { terms with
      state := .proposed
      offeredFeeMinor := feeMinor
      respondsBy := respondsBy }

/-- A withdrawal settles whatever was live. -/
def withdrawTerms (terms : TermsSnapshot) : TermsSnapshot :=
  if terms.state.settled then terms else { terms with state := .declined }

/-- A decision is executed on unsettled terms inside the promoter's window. -/
def executable (terms : TermsSnapshot) (now : OffsetDateTime) : Bool :=
  terms.state.settled = false && now < terms.respondsBy

/--
Write what was decided.  A decline and an expiry settle the row at once; an
ask and an acceptance wait for approval, and an acceptance is held against the
floor once more.
-/
def advanceTerms (decision : TermsDecision) (now : OffsetDateTime)
    (approved : Bool) : TermsSnapshot × Bool :=
  match decision with
  | .hold => (terms, false)
  | .expire => ({ terms with state := .expired }, true)
  | .decline _ => ({ terms with state := .declined }, true)
  | .counter askMinor _ =>
    if approved && executable terms now then
      ({ terms with
          state := .countered
          counteredFeeMinor := some askMinor
          counterRounds := terms.counterRounds.saturatingAdd 1 },
        true)
    else
      (terms, false)
  | .accept feeMinor =>
    if approved && (executable terms now &&
        terms.ladder.walkAwayMinor ≤ feeMinor) then
      ({ terms with state := .accepted }, true)
    else
      (terms, false)

def negotiating (policy : LiveOpportunityPolicy) :
    Machine.Transducer TermsSnapshot NegotiationEvent NegotiationEntry where
  step terms event :=
    match event with
    | .offer feeMinor respondsBy =>
      (recordTeamOpportunityTerms terms feeMinor respondsBy, ⟨terms.state, none, false⟩)
    | .withdraw => (withdrawTerms terms, ⟨terms.state, none, false⟩)
    | .review snapshot score now approved =>
      let decision := evaluateTerms terms snapshot policy score now
      let advanced := advanceTerms terms decision now approved
      (advanced.1, ⟨terms.state, some decision, advanced.2⟩)

section Decisions

variable {terms : TermsSnapshot} {snapshot : LiveOpportunitySnapshot}
  {policy : LiveOpportunityPolicy} {score : U16} {now : OffsetDateTime}

theorem evaluateTerms_of_settled (settled : terms.state.settled = true) :
    evaluateTerms terms snapshot policy score now = .hold := by
  rw [evaluateTerms, if_pos settled]

/-- What the agent may decide while it waits for the promoter. -/
def TermsDecision.Waits (decision : TermsDecision) : Prop :=
  decision = .hold ∨ decision = .expire ∨ ∃ reason, decision = .decline reason

theorem evaluateTerms_of_countered (countered : terms.state = .countered) :
    (evaluateTerms terms snapshot policy score now).Waits := by
  unfold evaluateTerms
  split
  · exact .inl rfl
  · split
    · exact .inr (.inl rfl)
    · split
      · exact .inr (.inr ⟨_, rfl⟩)
      · exact .inl rfl

theorem evaluateTerms_counter {askMinor : I64} {round : U8}
    (counters : evaluateTerms terms snapshot policy score now = .counter askMinor round) :
    terms.counterRounds < policy.maxCounterRounds ∧
      askMinor = counterAsk terms (terms.counterRounds.saturatingAdd 1) policy := by
  unfold evaluateTerms at counters
  split at counters
  · cases counters
  · split at counters
    · cases counters
    · split at counters
      · cases counters
      · split at counters
        · cases counters
        · split at counters
          · cases counters
          · split at counters
            · cases counters
            · split at counters
              · split at counters <;> cases counters
              · rename_i roundsLeft
                cases counters
                exact ⟨not_le.mp roundsLeft, rfl⟩

theorem counterAsk_of_previous {previous : I64} (asked : terms.counteredFeeMinor = some previous)
    (aboveTarget : terms.ladder.targetMinor ≤ previous) (round : U8)
    (policy : LiveOpportunityPolicy) :
    terms.ladder.targetMinor ≤ counterAsk terms round policy ∧
      counterAsk terms round policy ≤ previous := by
  unfold counterAsk
  rw [asked]
  refine ⟨le_max_right _ _, max_le ?_ aboveTarget⟩
  apply Ranged.saturatingSub_le
  have zero : (0 : I64).val = 0 := rfl
  have gapNonnegative :
      0 ≤ (max (previous.saturatingSub terms.ladder.targetMinor) (0 : I64)).val := by
    rw [Ranged.val_max, zero]
    exact le_max_right _ _
  have divisorNonnegative :
      0 ≤ (Ranged.saturate (max (remainingRounds policy round) (1 : U8)).val : I64).val := by
    have lower := (max (remainingRounds policy round) (1 : U8)).lower
    rw [Ranged.val_saturate]
    omega
  have quotient := Int.tdiv_nonneg gapNonnegative divisorNonnegative
  unfold Ranged.truncatedQuotient
  rw [Ranged.val_saturate]
  omega

end Decisions

section History

variable {after : TermsSnapshot}

/--
What the asks issued so far say about the terms on the table: the ladder is
the one the negotiation opened with, every ask stands between the target and
the opening ask, each is at most the one before, and none went out beyond the
round limit.
-/
structure Negotiated
    (policy : LiveOpportunityPolicy)
    (ladder : TermsLadder)
    (asks : List I64)
    (terms : TermsSnapshot) : Prop where
  frozen : terms.ladder = ladder
  counted : terms.counterRounds.val = asks.length
  bounded : asks.length ≤ policy.maxCounterRounds.val
  unasked : terms.counteredFeeMinor = none → asks = []
  lastAsk :
    ∀ previous,
      terms.counteredFeeMinor = some previous →
      ladder.targetMinor ≤ previous ∧
        previous ≤ ladder.openingAskMinor ∧
        ∀ ask ∈ asks, previous ≤ ask
  within :
    ∀ ask ∈ asks,
      ladder.targetMinor ≤ ask ∧ ask ≤ ladder.openingAskMinor
  descending : asks.Pairwise fun earlier later => later ≤ earlier

variable {policy : LiveOpportunityPolicy} {ladder : TermsLadder} {asks : List I64}
  {terms : TermsSnapshot}

theorem negotiated_openTerms (feeMinor : I64) (respondsBy : OffsetDateTime) :
    Negotiated policy ladder [] (openTerms ladder feeMinor respondsBy) where
  frozen := rfl
  counted := rfl
  bounded := policy.maxCounterRounds.lower
  unasked := fun _ => rfl
  lastAsk := by
    intro previous asked
    cases asked
  within := by
    intro ask member
    cases member
  descending := List.Pairwise.nil

section

variable (negotiated : Negotiated policy ladder asks terms)
include negotiated

theorem Negotiated.of_same_asks (sameLadder : after.ladder = terms.ladder)
    (sameAsk : after.counteredFeeMinor = terms.counteredFeeMinor)
    (sameRounds : after.counterRounds = terms.counterRounds) :
    Negotiated policy ladder asks after where
  frozen := sameLadder.trans negotiated.frozen
  counted := by
    rw [sameRounds]
    exact negotiated.counted
  bounded := negotiated.bounded
  unasked := by
    rw [sameAsk]
    exact negotiated.unasked
  lastAsk := by
    rw [sameAsk]
    exact negotiated.lastAsk
  within := negotiated.within
  descending := negotiated.descending

theorem Negotiated.inState (state : TermsState) :
    Negotiated policy ladder asks { terms with state := state } :=
  negotiated.of_same_asks rfl rfl rfl

theorem Negotiated.nextAsk (ordered : ladder.Ordered) (round : U8) :
    ladder.targetMinor ≤ counterAsk terms round policy ∧
      counterAsk terms round policy ≤ ladder.openingAskMinor ∧
      ∀ ask ∈ asks, counterAsk terms round policy ≤ ask := by
  cases asked : terms.counteredFeeMinor with
  | none =>
    have opening : counterAsk terms round policy = ladder.openingAskMinor := by
      unfold counterAsk
      rw [asked, negotiated.frozen]
    rw [opening, negotiated.unasked asked]
    refine ⟨ordered.2, le_refl _, ?_⟩
    intro ask member
    cases member
  | some previous =>
    obtain ⟨aboveTarget, belowOpening, lowest⟩ := negotiated.lastAsk previous asked
    have conceded := counterAsk_of_previous asked (negotiated.frozen ▸ aboveTarget) round policy
    rw [negotiated.frozen] at conceded
    refine ⟨conceded.1, conceded.2.trans belowOpening, ?_⟩
    intro ask member
    exact conceded.2.trans (lowest ask member)

/-- Sending the next ask keeps the history in order. -/
theorem Negotiated.counter (ordered : ladder.Ordered)
    (roundsLeft : terms.counterRounds < policy.maxCounterRounds) (round : U8)
    (sameLadder : after.ladder = terms.ladder)
    (newAsk : after.counteredFeeMinor = some (counterAsk terms round policy))
    (newRounds : after.counterRounds = terms.counterRounds.saturatingAdd 1) :
    Negotiated policy ladder (asks ++ [counterAsk terms round policy]) after := by
  obtain ⟨aboveTarget, belowOpening, lowest⟩ := negotiated.nextAsk ordered round
  have counted := negotiated.counted
  have below := Ranged.lt_iff_val.mp roundsLeft
  have upper := policy.maxCounterRounds.upper
  have one : (1 : U8).val = 1 := rfl
  refine ⟨sameLadder.trans negotiated.frozen, ?_, ?_, ?_, ?_, ?_, ?_⟩
  · rw [newRounds, Ranged.val_saturatingAdd, one, List.length_append,
      List.length_singleton]
    push_cast
    omega
  · rw [List.length_append, List.length_singleton]
    push_cast
    omega
  · intro unasked
    rw [newAsk] at unasked
    cases unasked
  · intro previous asked
    rw [newAsk] at asked
    cases asked
    refine ⟨aboveTarget, belowOpening, ?_⟩
    intro ask member
    rcases List.mem_append.mp member with earlier | isLast
    · exact lowest ask earlier
    · rw [List.mem_singleton.mp isLast]
  · intro ask member
    rcases List.mem_append.mp member with earlier | isLast
    · exact negotiated.within ask earlier
    · rw [List.mem_singleton.mp isLast]
      exact ⟨aboveTarget, belowOpening⟩
  · rw [List.pairwise_append]
    refine ⟨negotiated.descending, List.pairwise_singleton _ _, ?_⟩
    intro earlier member later isLast
    rw [List.mem_singleton.mp isLast]
    exact lowest earlier member

end

end History

section Steps

variable {policy : LiveOpportunityPolicy} {ladder : TermsLadder} {asks : List I64}
  {terms : TermsSnapshot}

section

variable (negotiated : Negotiated policy ladder asks terms)
include negotiated

theorem negotiated_recordTeamOpportunityTerms (feeMinor : I64) (respondsBy : OffsetDateTime) :
    Negotiated policy ladder asks (recordTeamOpportunityTerms terms feeMinor respondsBy) := by
  unfold recordTeamOpportunityTerms
  split
  · exact negotiated
  · exact negotiated.of_same_asks rfl rfl rfl

theorem negotiated_withdrawTerms : Negotiated policy ladder asks (withdrawTerms terms) := by
  unfold withdrawTerms
  split
  · exact negotiated
  · exact negotiated.inState .declined

/-- What a review writes keeps the history in order, ask or no ask. -/
theorem negotiated_review (ordered : ladder.Ordered) (snapshot : LiveOpportunitySnapshot)
    (score : U16) (now : OffsetDateTime) (approved : Bool) :
    let decision := evaluateTerms terms snapshot policy score now
    let advanced := advanceTerms terms decision now approved
    Negotiated policy ladder
      (asks ++ (NegotiationEntry.issuedAsk ⟨terms.state, some decision, advanced.2⟩).toList)
      advanced.1 := by
  intro decision advanced
  cases decided : decision with
  | hold =>
    simpa [advanced, decided, advanceTerms, NegotiationEntry.issuedAsk] using negotiated
  | expire =>
    simpa [advanced, decided, advanceTerms,
      NegotiationEntry.issuedAsk] using negotiated.inState .expired
  | decline reason =>
    simpa [advanced, decided, advanceTerms,
      NegotiationEntry.issuedAsk] using negotiated.inState .declined
  | accept feeMinor =>
    simp only [advanced, decided, advanceTerms]
    split
    · simpa [NegotiationEntry.issuedAsk] using
        negotiated.inState .accepted
    · simpa [NegotiationEntry.issuedAsk] using negotiated
  | counter askMinor round =>
    obtain ⟨roundsLeft, isCounterAsk⟩ := evaluateTerms_counter decided
    simp only [advanced, decided, advanceTerms]
    split
    · rw [isCounterAsk]
      exact negotiated.counter ordered roundsLeft _ rfl rfl rfl
    · simpa [NegotiationEntry.issuedAsk] using negotiated

end

theorem issuedAsks_concat (entries : List NegotiationEntry) (entry : NegotiationEntry) :
    issuedAsks (entries ++ [entry]) = issuedAsks entries ++ entry.issuedAsk.toList := by
  unfold issuedAsks
  rw [List.filterMap_append]
  cases issued : entry.issuedAsk <;> simp [issued]

section

variable (ordered : ladder.Ordered)
include ordered

theorem negotiated_step (negotiated : Negotiated policy ladder asks terms)
    (event : NegotiationEvent) :
    Negotiated policy ladder (asks ++ ((negotiating policy).step terms event).2.issuedAsk.toList)
      ((negotiating policy).step terms event).1 := by
  cases event with
  | offer feeMinor respondsBy =>
    simpa [negotiating, NegotiationEntry.issuedAsk] using
      negotiated_recordTeamOpportunityTerms negotiated feeMinor respondsBy
  | withdraw =>
    simpa [negotiating, NegotiationEntry.issuedAsk] using negotiated_withdrawTerms negotiated
  | review snapshot score now approved =>
    exact negotiated_review negotiated ordered snapshot score now approved

theorem negotiating_keeps_history (entries : List NegotiationEntry)
    (terms : TermsSnapshot) (event : NegotiationEvent)
    (negotiated : Negotiated policy ladder (issuedAsks entries) terms) :
    Negotiated policy ladder (issuedAsks (entries ++ [((negotiating policy).step terms event).2]))
      ((negotiating policy).step terms event).1 := by
  rw [issuedAsks_concat]
  exact negotiated_step ordered negotiated event

theorem negotiated_final (feeMinor : I64) (respondsBy : OffsetDateTime)
    (events : List NegotiationEvent) :
    Negotiated policy ladder
      (issuedAsks ((negotiating policy).log (openTerms ladder feeMinor respondsBy) events))
      ((negotiating policy).final (openTerms ladder feeMinor respondsBy) events) := by
  have kept := (negotiating policy).log_invariant
      (fun entries terms =>
        Negotiated policy ladder (issuedAsks entries) terms)
      (negotiating_keeps_history ordered)
      [] (negotiated_openTerms feeMinor respondsBy) events
  simpa using kept

theorem drafted_within_ladder (negotiated : Negotiated policy ladder asks terms)
    (event : NegotiationEvent) {askMinor : I64} {round : U8}
    (drafted :
      ((negotiating policy).step terms event).2.decision = some (.counter askMinor round)) :
    ladder.targetMinor ≤ askMinor ∧ askMinor ≤ ladder.openingAskMinor := by
  cases event with
  | offer feeMinor respondsBy => cases drafted
  | withdraw => cases drafted
  | review snapshot score now approved =>
    obtain ⟨-, isCounterAsk⟩ := evaluateTerms_counter (Option.some.inj drafted)
    obtain ⟨aboveTarget, belowOpening, -⟩ := negotiated.nextAsk ordered
        (terms.counterRounds.saturatingAdd 1)
    rw [isCounterAsk]
    exact ⟨aboveTarget, belowOpening⟩

end

end Steps

section Settled

variable {policy : LiveOpportunityPolicy} {terms : TermsSnapshot}

theorem negotiating_of_settled (settled : terms.state.settled = true) (event : NegotiationEvent) :
    ((negotiating policy).step terms event).1 = terms ∧
      ∀ decision,
        ((negotiating policy).step terms event).2.decision = some decision →
        decision = .hold := by
  cases event with
  | offer feeMinor respondsBy =>
    refine ⟨?_, ?_⟩
    · simp [negotiating, recordTeamOpportunityTerms, settled]
    · intro decision decided
      cases decided
  | withdraw =>
    refine ⟨?_, ?_⟩
    · simp [negotiating, withdrawTerms, settled]
    · intro decision decided
      cases decided
  | review snapshot score now approved =>
    simp only [negotiating, evaluateTerms_of_settled settled, advanceTerms]
    refine ⟨trivial, ?_⟩
    intro decision decided
    exact (Option.some.inj decided).symm

theorem settled_run_holds (settled : terms.state.settled = true) (events : List NegotiationEvent) :
    ∀ entry ∈ (negotiating policy).log terms events,
      ∀ decision, entry.decision = some decision → decision = .hold := by
  have preserved :
      ∀ (current : TermsSnapshot) event,
        current.state.settled = true →
        ((negotiating policy).step current event).1.state.settled = true := by
    intro current event still
    rw [(negotiating_of_settled still event).1]
    exact still
  have shown :
      ∀ (current : TermsSnapshot) event,
        current.state.settled = true →
        ∀ decision,
          ((negotiating policy).step current event).2.decision = some decision →
          decision = .hold := by
    intro current event still
    exact (negotiating_of_settled still event).2
  exact (negotiating policy).forall_mem_log preserved shown settled events

/-- Either the promoter has not answered yet, or it is over. -/
def TermsSnapshot.Waiting (terms : TermsSnapshot) : Prop :=
  terms.state = .countered ∨ terms.state.settled = true

theorem waiting_of_waits (waiting : terms.Waiting) {decision : TermsDecision}
    (waits : decision.Waits) (now : OffsetDateTime) (approved : Bool) :
    (advanceTerms terms decision now approved).1.Waiting := by
  rcases waits with isHold | isExpire | ⟨reason, isDecline⟩
  · subst isHold
    exact waiting
  · subst isExpire
    exact .inr rfl
  · subst isDecline
    exact .inr rfl

/-- Until the promoter offers again, the agent only waits. -/
theorem negotiating_while_waiting (waiting : terms.Waiting) {event : NegotiationEvent}
    (noOffer : event.isOffer = false) :
    ((negotiating policy).step terms event).1.Waiting ∧
      ∀ decision,
        ((negotiating policy).step terms event).2.decision = some decision →
        decision.Waits := by
  cases event with
  | offer feeMinor respondsBy => cases noOffer
  | withdraw =>
    refine ⟨?_, ?_⟩
    · simp only [negotiating, withdrawTerms]
      split
      · exact waiting
      · exact .inr rfl
    · intro decision decided
      cases decided
  | review snapshot score now approved =>
    have waits : (evaluateTerms terms snapshot policy score now).Waits := by
      rcases waiting with countered | settled
      · exact evaluateTerms_of_countered countered
      · rw [evaluateTerms_of_settled settled]
        exact .inl rfl
    refine ⟨waiting_of_waits waiting waits now approved, ?_⟩
    intro decision decided
    rw [← Option.some.inj decided]
    exact waits

theorem countered_run_waits (countered : terms.state = .countered) {events : List NegotiationEvent}
    (noOffers : ∀ event ∈ events, event.isOffer = false) :
    ∀ entry ∈ (negotiating policy).log terms events,
      ∀ decision, entry.decision = some decision → decision.Waits := by
  have preserved :
      ∀ (current : TermsSnapshot) (event : NegotiationEvent),
        event.isOffer = false →
        current.Waiting →
        ((negotiating policy).step current event).1.Waiting := by
    intro current event noOffer waiting
    exact (negotiating_while_waiting waiting noOffer).1
  have shown :
      ∀ (current : TermsSnapshot) (event : NegotiationEvent),
        event.isOffer = false →
        current.Waiting →
        ∀ decision,
          ((negotiating policy).step current event).2.decision = some decision →
          decision.Waits := by
    intro current event noOffer waiting
    exact (negotiating_while_waiting waiting noOffer).2
  exact (negotiating policy).forall_mem_log_of_permitted preserved shown (.inl countered) noOffers

end Settled

/-- What holds of every run of one negotiation. -/
structure BoundedNegotiation
    (policy : LiveOpportunityPolicy)
    (ladder : TermsLadder)
    (entries : List NegotiationEntry)
    (terms : TermsSnapshot) : Prop where
  ordered : ladder.Ordered
  frozen : terms.ladder = ladder
  drafted :
    ∀ entry ∈ entries,
      ∀ askMinor round,
        entry.decision = some (.counter askMinor round) →
        ladder.targetMinor ≤ askMinor ∧
          askMinor ≤ ladder.openingAskMinor
  issued :
    ∀ ask ∈ issuedAsks entries,
      ladder.targetMinor ≤ ask ∧ ask ≤ ladder.openingAskMinor
  descending :
    (issuedAsks entries).Pairwise fun earlier later => later ≤ earlier
  rounds :
    ((issuedAsks entries).length : Int) ≤ policy.maxCounterRounds.val
  settledHolds :
    terms.state.settled = true →
      ∀ later,
        ∀ entry ∈ (negotiating policy).log terms later,
          ∀ decision, entry.decision = some decision → decision = .hold
  counteredWaits :
    terms.state = .countered →
      ∀ later,
        (∀ event ∈ later, event.isOffer = false) →
        ∀ entry ∈ (negotiating policy).log terms later,
          ∀ decision, entry.decision = some decision → decision.Waits

/--
For every ladder the terms open with and every sequence of offers, withdrawals
and reviews, whatever the show costs at each review, the run stays inside the
ladder, asks ever less, and stops asking at the round limit, once settled, and
while the promoter owes an answer.
-/
theorem negotiation_run_bounded
    (snapshot : LiveOpportunitySnapshot)
    (policy : LiveOpportunityPolicy)
    (costMinor priorFeeMinor : I64)
    (marketFloorMinor : Option I64)
    (feeMinor : I64)
    (respondsBy : OffsetDateTime)
    (events : List NegotiationEvent) :
    let ladder := termsLadder snapshot policy costMinor priorFeeMinor
        marketFloorMinor
    let opened := openTerms ladder feeMinor respondsBy
    BoundedNegotiation policy ladder
      ((negotiating policy).log opened events)
      ((negotiating policy).final opened events) := by
  intro ladder opened
  have ordered : ladder.Ordered := termsLadder_ordered snapshot policy costMinor priorFeeMinor
      marketFloorMinor
  have history :
      Negotiated policy ladder
        (issuedAsks ((negotiating policy).log opened events))
        ((negotiating policy).final opened events) :=
    negotiated_final ordered feeMinor respondsBy events
  refine
    { ordered := ordered
      frozen := history.frozen
      drafted := ?_
      issued := history.within
      descending := history.descending
      rounds := history.bounded
      settledHolds := settled_run_holds
      counteredWaits := fun countered later noOffers =>
        countered_run_waits countered noOffers }
  have preserved :
      ∀ terms event,
        (∃ asks, Negotiated policy ladder asks terms) →
        ∃ asks,
          Negotiated policy ladder asks
            ((negotiating policy).step terms event).1 := by
    rintro terms event ⟨asks, negotiated⟩
    exact ⟨_, negotiated_step ordered negotiated event⟩
  have shown :
      ∀ terms event,
        (∃ asks, Negotiated policy ladder asks terms) →
        ∀ askMinor round,
          ((negotiating policy).step terms event).2.decision = some (.counter askMinor round) →
          ladder.targetMinor ≤ askMinor ∧ askMinor ≤ ladder.openingAskMinor := by
    rintro terms event ⟨asks, negotiated⟩ askMinor round isDrafted
    exact drafted_within_ladder ordered negotiated event isDrafted
  exact (negotiating policy).forall_mem_log preserved shown
      ⟨[], negotiated_openTerms feeMinor respondsBy⟩ events

end CrowdRelay
