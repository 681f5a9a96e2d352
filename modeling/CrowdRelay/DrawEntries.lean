import CrowdRelay.DrawFairness

namespace CrowdRelay

open MachineInt Fallible

/-!
# The entries of a draw

The entries of a candidate are what their counts earn, up to the cap, and
referrals use up the cap before check-ins do.  The products behind them are
computed before the cap is applied, so a draw is ranked exactly if every
product fits its column, and fails as a whole otherwise.
-/

structure CandidateRow.Counted (candidate : CandidateRow) : Prop where
  referrals : 0 ≤ candidate.qualifiedReferrals.val
  referralsFit : candidate.qualifiedReferrals.val ≤ 2147483647
  checkins : 0 ≤ candidate.concertCheckins.val
  checkinsFit : candidate.concertCheckins.val ≤ 2147483647

/-- What the counts of a candidate earn, before the cap. -/
structure CandidateRow.ProductsFit
    (draw : DrawRow)
    (candidate : CandidateRow) :
    Prop where
  referrals :
    candidate.qualifiedReferrals.val * draw.entriesPerReferral.val ≤
      2147483647
  checkins :
    candidate.concertCheckins.val * draw.entriesPerCheckin.val ≤ 2147483647

/-- The entries are everything that was earned up to the cap, and check-ins
get what referrals leave of it. -/
structure FillsEntries
    (draw : DrawRow)
    (candidate : CandidateRow)
    (ranked : RankedCandidate) :
    Prop where
  fanId : ranked.fanId = candidate.fanId
  entryCount :
    ranked.entryCount.val =
      min draw.maxEntries.val
        (draw.baseEntries.val +
          draw.entriesPerReferral.val * candidate.qualifiedReferrals.val +
          draw.entriesPerCheckin.val * candidate.concertCheckins.val)
  referralsFirst :
    ranked.entryCount.val - ranked.checkinEntries.val =
      min draw.maxEntries.val
        (draw.baseEntries.val +
          draw.entriesPerReferral.val * candidate.qualifiedReferrals.val)

/-- A draw with these candidates is ranked, and everybody's entries are filled
up to the cap. -/
def SaturatesEntries (tickets : Tickets) (draw : DrawRow) (seed : Seed)
    (candidates : List CandidateRow) : Prop :=
  ∃ ranked,
    rankCandidates tickets draw seed candidates = .ok ranked ∧
      List.Forall₂ (FillsEntries draw) candidates ranked

section Filling

variable {tickets : Tickets} {draw : DrawRow} {seed : Seed} {candidate : CandidateRow}
  {ranked : RankedCandidate}

/-- A candidate whose counts are counted is ranked exactly if their products
fit. -/
theorem exists_rankCandidate_iff (sound : SoundEntries draw) (counted : candidate.Counted) :
    (∃ ranked, rankCandidate tickets draw seed candidate = .ok ranked) ↔
      candidate.ProductsFit draw := by
  constructor
  · rintro ⟨ranked, computed⟩
    obtain ⟨_, referrals, _, checkins⟩ := (rankedFrom_of_rankCandidate computed).fits
    exact ⟨referrals, checkins⟩
  · intro fit
    exact exists_rankCandidate sound ⟨counted.referrals, counted.checkins⟩
      ⟨counted.referralsFit, fit.referrals, counted.checkinsFit, fit.checkins⟩

theorem fillsEntries_of_rankCandidate (sound : SoundEntries draw) (counted : candidate.Counted)
    (computed : rankCandidate tickets draw seed candidate = .ok ranked) :
    FillsEntries draw candidate ranked := by
  obtain ⟨rankedFrom, checkins⟩ := computed_of_rankCandidate computed
  have entries := rankedFrom.entryCount
  have capped := sound.capped
  have earned := Int.mul_nonneg sound.perReferral counted.referrals
  have visited := Int.mul_nonneg sound.perCheckin counted.checkins
  simp only [DrawRow.entries, DrawRow.checkinEntries, DrawRow.referralEntries] at entries checkins
  rw [Int.mul_comm candidate.qualifiedReferrals.val,
    Int.mul_comm candidate.concertCheckins.val] at entries checkins
  refine ⟨rankedFrom.fanId, ?_, ?_⟩
  · omega
  · omega

end Filling

/-- A fan with one referral, and one with five check-ins. -/
def plainFans : List CandidateRow := [⟨13, 1, 0⟩, ⟨14, 0, 5⟩]

/-- The same fans when the first has thirty thousand referrals. -/
def busyFans : List CandidateRow := [⟨13, 30000, 0⟩, ⟨14, 0, 5⟩]

end CrowdRelay
