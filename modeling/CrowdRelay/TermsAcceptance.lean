import CrowdRelay.Negotiation

namespace CrowdRelay

open MachineInt

/-!
# What an acceptance commits to

An acceptance carries the fee on the table, but the margin it is checked
against is the one of the fee the opportunity was expected to pay.  The two
agree only when somebody keeps them in step, so an acceptance is safe exactly
where the offered fee happens to cover the show as well.
-/

/-- The guards on the way to an acceptance, read off the inputs. -/
structure ReachesAcceptance
    (terms : TermsSnapshot)
    (snapshot : LiveOpportunitySnapshot)
    (policy : LiveOpportunityPolicy)
    (score : U16)
    (now : OffsetDateTime) : Prop where
  proposed : terms.state = .proposed
  inWindow : now.unixTimestamp < terms.respondsBy.unixTimestamp
  unrefused : termsRefusal snapshot score now = none
  expectedClears : clearsNow snapshot = true
  enough :
    terms.ladder.targetMinor ≤ terms.offeredFeeMinor ∨
      (terms.ladder.walkAwayMinor ≤ terms.offeredFeeMinor ∧
        policy.maxCounterRounds ≤ terms.counterRounds)

/-- An acceptance nobody loses by, on a show nothing else speaks against. -/
structure SafeAcceptance
    (terms : TermsSnapshot)
    (snapshot : LiveOpportunitySnapshot)
    (now : OffsetDateTime)
    (feeMinor : I64) : Prop where
  aboveFloor : terms.ladder.walkAwayMinor ≤ feeMinor
  noLoss :
    0 ≤ feeMinor.val - snapshot.estimatedCostMinor.val -
      snapshot.applicationFeeMinor.val
  dateAhead :
    ∃ startsAt, snapshot.eventStartsAt = some startsAt ∧ now < startsAt
  costed : snapshot.costedFromLogistics = true
  noContract : snapshot.requiresContract = false
  notExclusive : snapshot.exclusive = false

/-- The offered fee itself stands above the floor and pays for the show. -/
structure OfferCovers
    (terms : TermsSnapshot)
    (snapshot : LiveOpportunitySnapshot) : Prop where
  aboveFloor : terms.ladder.walkAwayMinor ≤ terms.offeredFeeMinor
  coversCosts :
    snapshot.estimatedCostMinor.val + snapshot.applicationFeeMinor.val ≤
      terms.offeredFeeMinor.val

section Acceptance

variable {terms : TermsSnapshot} {snapshot : LiveOpportunitySnapshot}
  {policy : LiveOpportunityPolicy} {score : U16} {now : OffsetDateTime}

theorem dateAhead_of_freeDate (isFree : freeDate snapshot now = true) :
    ∃ startsAt, snapshot.eventStartsAt = some startsAt ∧ now < startsAt := by
  unfold freeDate at isFree
  cases dated : snapshot.eventStartsAt with
  | none =>
    rw [dated] at isFree
    cases isFree
  | some startsAt =>
    rw [dated] at isFree
    exact ⟨startsAt, rfl, lt_of_unixTimestamp_lt (of_decide_eq_true isFree)⟩

theorem termsRefusal_eq_none (unrefused : termsRefusal snapshot score now = none) :
    (∃ startsAt, snapshot.eventStartsAt = some startsAt ∧ now < startsAt) ∧
      snapshot.costedFromLogistics = true ∧
      snapshot.requiresContract = false ∧
      snapshot.exclusive = false := by
  unfold termsRefusal at unrefused
  split at unrefused
  · cases unrefused
  · rename_i noContract
    split at unrefused
    · cases unrefused
    · rename_i notExclusive
      split at unrefused
      · cases unrefused
      · rename_i hasDate
        split at unrefused
        · cases unrefused
        · rename_i isCosted
          refine ⟨?_, ?_, ?_, ?_⟩
          · exact dateAhead_of_freeDate (by simpa using hasDate)
          · simpa using isCosted
          · simpa using noContract
          · simpa using notExclusive

/-- An acceptance takes the fee on the table, past exactly these guards. -/
theorem evaluateTerms_accept_iff {feeMinor : I64} :
    evaluateTerms terms snapshot policy score now = .accept feeMinor ↔
      feeMinor = terms.offeredFeeMinor ∧ ReachesAcceptance terms snapshot policy score now := by
  constructor
  · intro accepts
    unfold evaluateTerms at accepts
    split at accepts
    · cases accepts
    · rename_i unsettled
      split at accepts
      · cases accepts
      · rename_i windowOpen
        split at accepts
        · cases accepts
        · rename_i unrefused
          split at accepts
          · cases accepts
          · rename_i notCountered
            have proposed : terms.state = .proposed := by
              cases current : terms.state <;>
                simp_all [TermsState.settled]
            split at accepts
            · rename_i clearing
              cases accepts
              exact ⟨rfl, proposed, not_le.mp windowOpen, unrefused, clearing.2, .inl clearing.1⟩
            · split at accepts
              · cases accepts
              · rename_i aboveOrRoundsLeft
                split at accepts
                · rename_i outOfRounds
                  split at accepts
                  · rename_i clears
                    cases accepts
                    have aboveFloor : terms.ladder.walkAwayMinor ≤ terms.offeredFeeMinor :=
                      not_lt.mp fun below =>
                        aboveOrRoundsLeft ⟨below, outOfRounds⟩
                    exact ⟨rfl, proposed, not_le.mp windowOpen, unrefused,
                        clears, .inr ⟨aboveFloor, outOfRounds⟩⟩
                  · cases accepts
                · cases accepts
  · rintro ⟨sameFee, reaches⟩
    subst sameFee
    have unsettled : ¬ terms.state.settled = true := by
      simp [reaches.proposed, TermsState.settled]
    have notCountered : ¬ terms.state = .countered := by
      simp [reaches.proposed]
    unfold evaluateTerms
    rw [if_neg unsettled, if_neg (not_le.mpr reaches.inWindow), reaches.unrefused]
    dsimp only
    rw [if_neg notCountered]
    split
    · rfl
    · rename_i notTarget
      have floorAndRounds := reaches.enough.resolve_left fun onTarget =>
          notTarget ⟨onTarget, reaches.expectedClears⟩
      have notBelow :
          ¬ (terms.offeredFeeMinor < terms.ladder.walkAwayMinor ∧
            policy.maxCounterRounds ≤ terms.counterRounds) :=
        fun below => absurd below.1 (not_lt.mpr floorAndRounds.1)
      rw [if_neg notBelow, if_pos floorAndRounds.2, if_pos reaches.expectedClears]

/--
Whatever is accepted is safe to accept exactly when, wherever an acceptance is
reached, the offered fee itself covers the floor and the show.
-/
theorem acceptance_safe_iff
    (terms : TermsSnapshot)
    (snapshot : LiveOpportunitySnapshot)
    (policy : LiveOpportunityPolicy)
    (score : U16)
    (now : OffsetDateTime) :
    (∀ feeMinor,
      evaluateTerms terms snapshot policy score now = .accept feeMinor →
      SafeAcceptance terms snapshot now feeMinor) ↔
    (ReachesAcceptance terms snapshot policy score now →
      OfferCovers terms snapshot) := by
  constructor
  · intro allSafe reaches
    have safe := allSafe terms.offeredFeeMinor
        (evaluateTerms_accept_iff.mpr ⟨rfl, reaches⟩)
    have noLoss := safe.noLoss
    exact ⟨safe.aboveFloor, by omega⟩
  · intro covers feeMinor accepts
    obtain ⟨sameFee, reaches⟩ := evaluateTerms_accept_iff.mp accepts
    subst sameFee
    have covered := covers reaches
    have coversCosts := covered.coversCosts
    obtain ⟨dateAhead, costed, noContract, notExclusive⟩ := termsRefusal_eq_none reaches.unrefused
    exact
      { aboveFloor := covered.aboveFloor
        noLoss := by omega
        dateAhead := dateAhead
        costed := costed
        noContract := noContract
        notExclusive := notExclusive }

def clubNight (costMinor : I64) : LiveOpportunitySnapshot where
  expectedFeeMinor := 1000
  estimatedCostMinor := costMinor
  applicationFeeMinor := 0
  requiresContract := false
  exclusive := false
  eventStartsAt := some 2000000000000000000
  costedFromLogistics := true
  committedShowsYear := 0
  pipelineShowsYear := 0
  annualTarget := 10
  annualStretch := 12
  stretchMinimumScoreBasisPoints := 0
  strategicValueBasisPoints := 0

/-- An offer on the target of the ladder built when the trip cost 100. -/
def clubNightOffer : TermsSnapshot where
  state := .proposed
  offeredFeeMinor := 125
  ladder := termsLadder (clubNight 100) .default 100 0 none
  counteredFeeMinor := none
  counterRounds := 0
  respondsBy := 1900000000000000000

/--
By the time of the decision the trip costs 500.  The offer of 125 is accepted,
because the expected fee of 1000 would still clear.
-/
theorem clubNightOffer_accepted_at_a_loss :
    evaluateTerms clubNightOffer (clubNight 500) .default 80
        1800000000000000000 = .accept 125 ∧
      ¬ (0 ≤ (125 : I64).val -
        (clubNight 500).estimatedCostMinor.val -
        (clubNight 500).applicationFeeMinor.val) := by
  decide

end Acceptance

end CrowdRelay
