import CrowdRelay.NegotiationRuns

namespace CrowdRelay

open MachineInt

/-!
# What a counter-offer asks for

A counter-offer asks for a rung of the ladder, which was frozen when the
negotiation opened.  An offer above that rung is not accepted when the show no
longer clears its cost, and then the rung is asked for all the same.
-/

/-- A counter is due, unless the offer is taken: the promoter has spoken last
and in time, nothing speaks against the show, and a round is left. -/
structure CounterDue
    (terms : TermsSnapshot)
    (snapshot : LiveOpportunitySnapshot)
    (policy : LiveOpportunityPolicy)
    (score : U16)
    (now : OffsetDateTime) : Prop where
  proposed : terms.state = .proposed
  inTime : now.unixTimestamp < terms.respondsBy.unixTimestamp
  unrefused : termsRefusal snapshot score now = none
  roundLeft : terms.counterRounds < policy.maxCounterRounds

/-- The offer is at most the opening ask before any counter, and at most the
target or the last ask less its share of the way down after one. -/
def OfferBelowRung (terms : TermsSnapshot)
    (policy : LiveOpportunityPolicy) : Prop :=
  match terms.counteredFeeMinor with
  | none => terms.offeredFeeMinor ≤ terms.ladder.openingAskMinor
  | some previous =>
    terms.offeredFeeMinor ≤ terms.ladder.targetMinor ∨
      terms.offeredFeeMinor.val ≤
        previous.val
          - min 9223372036854775807
              (previous.val - terms.ladder.targetMinor.val)
            / (policy.maxCounterRounds.val - terms.counterRounds.val)

/-- The ask in its range is the last one less its share of the way to the
target, where that is above the target. -/
theorem le_conceded_iff {offer previous target count : Int} (some_round : 1 ≤ count)
    (targetLower : -9223372036854775808 ≤ target) (previousLower : -9223372036854775808 ≤ previous)
    (previousUpper : previous ≤ 9223372036854775807) :
    offer ≤ max
          (max (-9223372036854775808)
            (min 9223372036854775807
              (previous - max (-9223372036854775808)
                    (min 9223372036854775807
                      ((max
                        (max (-9223372036854775808) (min 9223372036854775807 (previous - target)))
                        0).tdiv count)))))
          target ↔
      offer ≤ target ∨ offer ≤ previous - min 9223372036854775807 (previous - target) / count := by
  rcases le_or_gt target previous with above | below
  · have gap :
        max (max (-9223372036854775808) (min 9223372036854775807 (previous - target))) 0 =
          min 9223372036854775807 (previous - target) := by
      omega
    have nonnegative : 0 ≤ min 9223372036854775807 (previous - target) := by
      omega
    have share := Int.ediv_nonneg nonnegative (by omega : 0 ≤ count)
    have shareLe := Int.ediv_le_self count nonnegative
    rw [gap, Int.tdiv_eq_ediv_of_nonneg nonnegative]
    omega
  · have gap :
        max (max (-9223372036854775808) (min 9223372036854775807 (previous - target))) 0 = 0 := by
      omega
    have distance : min 9223372036854775807 (previous - target) = previous - target := by
      omega
    have share : previous - target ≤ (previous - target) / count := by
      refine (Int.le_ediv_iff_mul_le (by omega)).mpr ?_
      have scaled := Int.mul_le_mul_of_nonpos_left (by omega : previous - target ≤ 0) some_round
      rw [Int.mul_one] at scaled
      exact scaled
    rw [gap, Int.zero_tdiv, distance]
    omega

section Counters

variable {terms : TermsSnapshot} {snapshot : LiveOpportunitySnapshot}
  {policy : LiveOpportunityPolicy} {score : U16} {now : OffsetDateTime}

theorem evaluateTerms_of_due (due : CounterDue terms snapshot policy score now) :
    evaluateTerms terms snapshot policy score now =
      if terms.ladder.targetMinor ≤ terms.offeredFeeMinor ∧
          clearsNow snapshot then
        .accept terms.offeredFeeMinor
      else
        .counter (counterAsk terms (terms.counterRounds.saturatingAdd 1) policy)
          (terms.counterRounds.saturatingAdd 1) := by
  have roundLeft := not_le.mpr due.roundLeft
  have unsettled : ¬ terms.state.settled = true := by
    rw [due.proposed]
    exact Bool.false_ne_true
  have unasked : ¬ terms.state = .countered := by
    rw [due.proposed]
    exact nofun
  simp only [evaluateTerms, if_neg unsettled, if_neg (not_le.mpr due.inTime),
    due.unrefused, if_neg unasked, roundLeft, and_false, if_false]

theorem counterDue_of_counter {askMinor : I64} {round : U8}
    (counters : evaluateTerms terms snapshot policy score now = .counter askMinor round) :
    CounterDue terms snapshot policy score now := by
  have roundLeft := (evaluateTerms_counter counters).1
  unfold evaluateTerms at counters
  split at counters
  · cases counters
  · rename_i unsettled
    split at counters
    · cases counters
    · rename_i inTime
      split at counters
      · cases counters
      · rename_i unrefused
        split at counters
        · cases counters
        · rename_i unasked
          refine ⟨?_, not_le.mp inTime, unrefused, roundLeft⟩
          cases isState : terms.state with
          | proposed => rfl
          | countered => exact absurd isState unasked
          | accepted | declined | expired =>
            rw [isState] at unsettled
            exact absurd rfl unsettled

theorem remainingRounds_of_left (roundLeft : terms.counterRounds < policy.maxCounterRounds) :
    (max (remainingRounds policy (terms.counterRounds.saturatingAdd 1)) 1).val =
      policy.maxCounterRounds.val - terms.counterRounds.val := by
  have fewer := Ranged.lt_iff_val.mp roundLeft
  have lower := terms.counterRounds.lower
  have upper := policy.maxCounterRounds.upper
  have one : (1 : U8).val = 1 := rfl
  simp only [remainingRounds, Ranged.val_max, Ranged.val_saturatingAdd,
    Ranged.val_saturatingSub, one]
  omega

theorem target_le_counterAsk (ordered : terms.ladder.Ordered) (round : U8)
    (policy : LiveOpportunityPolicy) :
    terms.ladder.targetMinor ≤ counterAsk terms round policy := by
  unfold counterAsk
  cases terms.counteredFeeMinor with
  | none => exact ordered.2
  | some previous => exact le_max_right _ _

theorem offer_le_counterAsk_iff (roundLeft : terms.counterRounds < policy.maxCounterRounds) :
    terms.offeredFeeMinor ≤ counterAsk terms (terms.counterRounds.saturatingAdd 1) policy ↔
      OfferBelowRung terms policy := by
  have remaining := remainingRounds_of_left roundLeft
  have fewer := Ranged.lt_iff_val.mp roundLeft
  have roundsLower := terms.counterRounds.lower
  have roundsUpper := policy.maxCounterRounds.upper
  unfold OfferBelowRung counterAsk
  cases terms.counteredFeeMinor with
  | none => exact Iff.rfl
  | some previous =>
    have zero : (0 : I64).val = 0 := rfl
    have offerLower := terms.offeredFeeMinor.lower
    have targetLower := terms.ladder.targetMinor.lower
    have targetUpper := terms.ladder.targetMinor.upper
    have previousLower := previous.lower
    have previousUpper := previous.upper
    simp only [Ranged.le_iff_val, Ranged.val_max,
      Ranged.val_saturatingSub, Ranged.truncatedQuotient,
      Ranged.val_saturate, zero, remaining]
    have isCount :
        max (-9223372036854775808)
            (min 9223372036854775807 (policy.maxCounterRounds.val - terms.counterRounds.val)) =
          policy.maxCounterRounds.val - terms.counterRounds.val := by
      omega
    rw [isCount]
    exact le_conceded_iff (by omega) targetLower previousLower previousUpper

end Counters

/-- A counter never asks for less than is on the table, exactly when the show
clears its cost or the offer is below the next rung wherever a counter is
due. -/
theorem counter_asks_no_less_iff
    (terms : TermsSnapshot)
    (snapshot : LiveOpportunitySnapshot)
    (policy : LiveOpportunityPolicy)
    (score : U16)
    (now : OffsetDateTime)
    (ordered : terms.ladder.Ordered) :
    (∀ askMinor round,
      evaluateTerms terms snapshot policy score now =
          .counter askMinor round →
        terms.offeredFeeMinor ≤ askMinor) ↔
      (CounterDue terms snapshot policy score now →
        clearsNow snapshot = true ∨ OfferBelowRung terms policy) := by
  constructor
  · intro asksNoLess due
    by_cases clears : clearsNow snapshot = true
    · exact .inl clears
    · have counters := evaluateTerms_of_due due
      rw [if_neg fun both => clears both.2] at counters
      exact .inr
        ((offer_le_counterAsk_iff due.roundLeft).mp
          (asksNoLess _ _ counters))
  · intro below askMinor round counters
    have due := counterDue_of_counter counters
    obtain ⟨roundLeft, isAsk⟩ := evaluateTerms_counter counters
    rw [isAsk]
    rcases below due with clears | belowRung
    · have notTaken : ¬ terms.ladder.targetMinor ≤ terms.offeredFeeMinor := by
        intro reaches
        rw [evaluateTerms_of_due due, if_pos ⟨reaches, clears⟩] at counters
        cases counters
      exact (not_le.mp notTaken).le.trans
        (target_le_counterAsk ordered _ policy)
    · exact (offer_le_counterAsk_iff roundLeft).mpr belowRung

/-- An offer of twelve for a show that costs twenty by now. -/
def outgrownTerms : TermsSnapshot where
  state := .proposed
  offeredFeeMinor := 1200
  ladder :=
    { walkAwayMinor := 800
      targetMinor := 900
      openingAskMinor := 1000
      floorBasis := .cost }
  counteredFeeMinor := none
  counterRounds := 0
  respondsBy := 2000000000

def outgrownShow : LiveOpportunitySnapshot where
  expectedFeeMinor := 1200
  estimatedCostMinor := 2000
  applicationFeeMinor := 0
  requiresContract := false
  exclusive := false
  eventStartsAt := some 9000000000
  costedFromLogistics := true
  committedShowsYear := 0
  pipelineShowsYear := 0
  annualTarget := 16
  annualStretch := 30
  stretchMinimumScoreBasisPoints := 9000
  strategicValueBasisPoints := 0

theorem outgrown_counter_asks_no_less_iff :
    (∀ askMinor round,
      evaluateTerms outgrownTerms outgrownShow .default 80 0 =
          .counter askMinor round →
        outgrownTerms.offeredFeeMinor ≤ askMinor) ↔
      (CounterDue outgrownTerms outgrownShow .default 80 0 →
        clearsNow outgrownShow = true ∨ OfferBelowRung outgrownTerms .default) :=
  counter_asks_no_less_iff outgrownTerms outgrownShow .default 80 0
    (by unfold TermsLadder.Ordered; decide)

/-- The promoter offers 1200 and is asked for 1000. -/
theorem outgrown_counter_asks_less :
    ¬ ∀ askMinor round,
      evaluateTerms outgrownTerms outgrownShow .default 80 0 =
          .counter askMinor round →
        outgrownTerms.offeredFeeMinor ≤ askMinor := by
  intro asksNoLess
  have counters : evaluateTerms outgrownTerms outgrownShow .default 80 0 = .counter 1000 1 := by
    decide
  exact absurd (asksNoLess 1000 1 counters) (by decide)

end CrowdRelay
