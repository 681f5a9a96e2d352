import CrowdRelay.Attestation
import CrowdRelay.PublishedLinks

namespace CrowdRelay

open MachineInt StableRanking

/-!
# What an attestation gives away

A count below the cohort floor does not reach the document.  The order of the
rows does, through the figures that the sort cannot tell apart: it leaves them
as they came.
-/

variable {tables : TextTables}

def TiesPublishAlike (tables : TextTables)
    (measured : List MeasuredFigure) : Prop :=
  ∀ figure ∈ measured, ∀ other ∈ measured,
    (AttestedFigure.fromMeasured figure).sortKey tables =
        (AttestedFigure.fromMeasured other).sortKey tables →
      AttestedFigure.fromMeasured figure = AttestedFigure.fromMeasured other

section Order

variable {actName : Text} {measured others : List MeasuredFigure} {now : OffsetDateTime}
  {attestation : Attestation}

theorem issue_isOk_of_perm (reordered : measured.Perm others)
    (issued : issue tables actName measured now = .ok attestation) :
    issue tables actName others now = .ok (attestationOf tables actName others now) := by
  obtain ⟨named, nonempty, fresh, banked, _⟩ := issue_eq_ok_iff.mp issued
  refine issue_eq_ok_iff.mpr ⟨named, ?_, ?_, ?_, rfl⟩
  · intro empty
    rw [empty] at reordered
    exact nonempty reordered.eq_nil
  · intro figure member
    exact fresh figure (reordered.mem_iff.mpr member)
  · rw [List.any_eq_true] at banked ⊢
    obtain ⟨figure, member, isAbove⟩ := banked
    exact ⟨figure, reordered.mem_iff.mp member, isAbove⟩

theorem publishedFigures_of_perm (alike : TiesPublishAlike tables measured)
    (reordered : measured.Perm others) :
    publishedFigures tables others = publishedFigures tables measured := by
  refine (descending_eq_of_perm ?_ (reordered.map _)).symm
  intro figure member other otherMember same
  obtain ⟨one, isOne, rfl⟩ := List.mem_map.mp member
  obtain ⟨two, isTwo, rfl⟩ := List.mem_map.mp otherMember
  exact alike one isOne two isTwo same

theorem fromMeasured_eq_of_swap {figure other : MeasuredFigure} {rest : List MeasuredFigure}
    (tied :
      (AttestedFigure.fromMeasured figure).sortKey tables =
        (AttestedFigure.fromMeasured other).sortKey tables)
    (same :
      publishedFigures tables (figure :: other :: rest) =
        publishedFigures tables (other :: figure :: rest)) :
    AttestedFigure.fromMeasured figure = AttestedFigure.fromMeasured other := by
  have kept := fun arrived : List MeasuredFigure =>
    @filter_descending AttestedFigure _ _ (fun figure => OrderDual.toDual (figure.sortKey tables))
      (arrived.map .fromMeasured)
      (OrderDual.toDual ((AttestedFigure.fromMeasured figure).sortKey tables))
  have figureFirst := kept (figure :: other :: rest)
  have otherFirst := kept (other :: figure :: rest)
  rw [publishedFigures, publishedFigures] at same
  rw [same, otherFirst] at figureFirst
  simp only [List.map_cons, List.filter_cons, tied, decide_true, if_true] at figureFirst
  exact (List.cons.inj figureFirst).1.symm

theorem issue_perm_iff (issued : issue tables actName measured now = .ok attestation) :
    (∀ others, measured.Perm others →
        issue tables actName others now = .ok attestation) ↔
      TiesPublishAlike tables measured := by
  obtain ⟨_, _, _, _, isOf⟩ := issue_eq_ok_iff.mp issued
  constructor
  · intro forgets figure member other otherMember tied
    by_contra different
    have apart : figure ≠ other := fun same => different (congrArg _ same)
    obtain ⟨rest, arrival⟩ := exists_front member otherMember apart
    have published :
        ∀ arrived, measured.Perm arrived →
          publishedFigures tables arrived = attestation.figures := by
      intro arrived reordered
      have document := (issue_isOk_of_perm reordered issued).symm.trans (forgets arrived reordered)
      exact congrArg Attestation.figures (Except.ok.inj document)
    have swapped := arrival.trans (List.Perm.swap other figure rest)
    exact different
        (fromMeasured_eq_of_swap tied ((published _ arrival).trans (published _ swapped).symm))
  · intro alike others reordered
    rw [issue_isOk_of_perm reordered issued, ← isOf, attestationOf,
      attestationOf, publishedFigures_of_perm alike reordered]

end Order

section Suppression

variable {figure : MeasuredFigure} {value : U32}

theorem fromMeasured_suppressed (narrow : figure.scope.isNarrow = true)
    (below : figure.value < minimumCohort) (stillBelow : value < minimumCohort) :
    AttestedFigure.fromMeasured { figure with value := value } =
      AttestedFigure.fromMeasured figure := by
  simp only [AttestedFigure.fromMeasured, narrow, below, stillBelow, and_self, if_true]

theorem issue_suppressed (narrow : figure.scope.isNarrow = true)
    (below : figure.value < minimumCohort) (stillBelow : value < minimumCohort)
    (actName : Text) (before after : List MeasuredFigure) (now : OffsetDateTime) :
    issue tables actName (before ++ { figure with value := value } :: after) now =
      issue tables actName (before ++ figure :: after) now := by
  have published := fromMeasured_suppressed narrow below stillBelow
  have refusals :
      (before ++ { figure with value := value } :: after).findSome? (measurementRefusal now) =
        (before ++ figure :: after).findSome? (measurementRefusal now) := by
    simp only [List.findSome?_append, List.findSome?_cons]
    rfl
  have banked :
      (before ++ { figure with value := value } :: after).any isBanked =
        (before ++ figure :: after).any isBanked := by
    simp only [List.any_append, List.any_cons]
    rfl
  simp only [issue, refusals, banked, attestationOf, publishedFigures,
    List.map_append, List.map_cons, published, List.append_eq_nil_iff,
    reduceCtorEq, and_false]

end Suppression

/--
Of an accepted set of figures the document shows no order exactly where tied
figures are published alike, and never a count below the floor.
-/
theorem attestation_facts_only
    {actName : Text}
    {measured : List MeasuredFigure}
    {now : OffsetDateTime}
    {attestation : Attestation}
    (issued : issue tables actName measured now = .ok attestation) :
    ((∀ others, measured.Perm others →
        issue tables actName others now = .ok attestation) ↔
      TiesPublishAlike tables measured) ∧
    (∀ before figure after (value : U32),
      measured = before ++ figure :: after →
      figure.scope.isNarrow = true →
      figure.value < minimumCohort →
      value < minimumCohort →
      issue tables actName
          (before ++ { figure with value := value } :: after) now =
        .ok attestation) := by
  refine ⟨issue_perm_iff issued, ?_⟩
  intro before figure after value shape narrow below stillBelow
  rw [issue_suppressed narrow below stillBelow, ← shape]
  exact issued

/-- Tickets sold everywhere in ninety days, counted twice. -/
def ticketsCounted (value : U32) : MeasuredFigure where
  metric := .ticketsSold
  scope := .everywhere
  value := value
  windowDays := 90
  observedAt := 1789000000 * 1000000000

theorem attestation_facts_only_single :
    TiesPublishAlike (asciiTables []) [ticketsCounted 120] :=
  (attestation_facts_only
    (show
      issue (asciiTables []) "Virya".toList [ticketsCounted 120]
          (1789000000 * 1000000000) =
        .ok (attestationOf (asciiTables []) "Virya".toList
          [ticketsCounted 120] (1789000000 * 1000000000))
      by decide +kernel)).1.mp
    (by
      intro others reordered
      cases List.singleton_perm.mp reordered
      decide +kernel)

/-- Two counts of one thing come out in the order they went in. -/
theorem two_counts_keep_their_order :
    (attestationOf (asciiTables []) "Virya".toList
        [ticketsCounted 120, ticketsCounted 121]
        (1789000000 * 1000000000)).figures.map AttestedFigure.value =
        [.exact 120, .exact 121] ∧
      (attestationOf (asciiTables []) "Virya".toList
        [ticketsCounted 121, ticketsCounted 120]
        (1789000000 * 1000000000)).figures.map AttestedFigure.value =
        [.exact 121, .exact 120] := by
  decide +kernel

end CrowdRelay
