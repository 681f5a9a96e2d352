import CrowdRelay.Challenge
import CrowdRelay.NormalScore
import CrowdRelay.StrategyLearning

namespace CrowdRelay

open MachineInt Ranged NormalScore PrecisionWeighted

/-!
# Overriding the incumbent strategy

The strategies are read in order, and one that was observed often enough takes
the place of the best so far where it is probably better by a fan.  It is asked
to be no less observed than the best so far as well.
-/

/-- What the strategies are chosen by, of all that is known of a tenant. -/
structure WorldModel where
  fanGrowthTrend : GrowthTrend
  daysToNextEvent : Option U32
  deriving DecidableEq

inductive EventProximity where
  | none
  | far
  | near
  | close
  deriving Repr, DecidableEq

def EventProximity.fromDays : Option Int → EventProximity
  | .none => none
  | some days =>
    if days ≤ 7 then
      close
    else if days ≤ 30 then
      near
    else
      far

structure StrategyStanding where
  strategy : GrowthStrategy
  mean : ℚ
  var : ℚ
  confidence : Nat
  deriving DecidableEq

/-- The least pooled deviation that is divided by. -/
def f64Epsilon : ℚ := 1 / 4503599627370496

namespace StrategyStanding

/-- How far one strategy is ahead of another beyond one fan. -/
def lead (challenger best : StrategyStanding) : Score where
  distance := challenger.mean - best.mean - 1
  square := max (challenger.var + best.var) (f64Epsilon * f64Epsilon)

/-- Whether a challenger takes the place of the best so far. -/
def overtakes (likely : Score → Bool)
    (challenger best : StrategyStanding) : Bool :=
  if challenger.confidence < 5 ∨ challenger.confidence < best.confidence then
    false
  else
    likely (challenger.lead best)

end StrategyStanding

namespace GrowthStrategy

def all : List GrowthStrategy := [aggressiveDiscovery, eventDriven, contentFirst, signalConversion]

def trendKey : GrowthTrend → String
  | .stagnant => "stagnant"
  | .decelerating => "decelerating"
  | .steady => "steady"
  | .accelerating => "accelerating"

def proximityKey (world : WorldModel) : String :=
  match EventProximity.fromDays (world.daysToNextEvent.map Ranged.val) with
  | .none => "far"
  | .far => "far"
  | .near => "near"
  | .close => "close"

variable (world : WorldModel) (posterior : StateConditionedStrategyPosterior)

/-- How a strategy stands in the world's cell. -/
def standing (strategy : GrowthStrategy) : StrategyStanding :=
  let cell : StrategyCell :=
    { strategy := strategy.asStr
      growthTrend := trendKey world.fanGrowthTrend
      eventProximity := proximityKey world }
  { strategy := strategy
    mean := (posterior.predict cell).1
    var := (posterior.predict cell).2
    confidence := posterior.confidence cell }

variable (likely : Score → Bool)

/-- One turn of the loop over the strategies. -/
def consider (prior : GrowthStrategy) (best : StrategyStanding)
    (candidate : GrowthStrategy) : StrategyStanding :=
  if candidate = prior then
    best
  else
    Challenge.keep (StrategyStanding.overtakes likely) best (standing world posterior candidate)

/-- The strategy of a cycle; which leads are likely is a parameter. -/
def fromWorldModelWithPosterior
    (incumbent : GrowthStrategy) : GrowthStrategy :=
  (all.foldl (consider world posterior likely incumbent)
    (standing world posterior incumbent)).strategy

end GrowthStrategy

/-!
## The documented rule of the override

A challenger is to replace the incumbent where it clears two gates against it.
Being probably better by a fan carries over from one challenger to the next, so
whoever is chosen clears them; but challengers that were observed less often
than the incumbent are left out.
-/

/-! ## Leads -/

section Leads

variable {cdf : ℝ → ℝ}

/-- The probability with which a lead is taken for one. -/
noncomputable def likelyUnder (cdf : ℝ → ℝ) (score : Score) : Bool :=
  open Classical in decide (3 / 5 ≤ cdf score.value)

theorem likelyUnder_iff {score : Score} :
    likelyUnder cdf score = true ↔ 3 / 5 ≤ cdf score.value := by
  unfold likelyUnder
  exact decide_eq_true_iff

/-- One strategy is better than another by a fan, with enough probability. -/
def BeatsByOneFan (cdf : ℝ → ℝ)
    (challenger best : StrategyStanding) : Prop :=
  3 / 5 ≤
    cdf
      (((challenger.mean - best.mean - 1 : ℚ) : ℝ) /
        max (Real.sqrt ((challenger.var + best.var : ℚ) : ℝ)) f64Epsilon)

theorem likelyUnder_lead {challenger best : StrategyStanding} :
    likelyUnder cdf (challenger.lead best) = true ↔ BeatsByOneFan cdf challenger best := by
  rw [likelyUnder_iff, StrategyStanding.lead, Score.value_max _ _ (by decide +kernel)]
  rfl

theorem sqrt_add_le_sqrt_add_sqrt {third second first : ℝ} (thirdNonneg : 0 ≤ third)
    (secondNonneg : 0 ≤ second) (firstNonneg : 0 ≤ first) :
    Real.sqrt (third + first) ≤ Real.sqrt (third + second) + Real.sqrt (second + first) := by
  refine Real.sqrt_le_iff.mpr ⟨by positivity, ?_⟩
  have upper := Real.sq_sqrt (add_nonneg thirdNonneg secondNonneg)
  have lower := Real.sq_sqrt (add_nonneg secondNonneg firstNonneg)
  have product := mul_nonneg (Real.sqrt_nonneg (third + second)) (Real.sqrt_nonneg (second + first))
  rw [add_sq, upper, lower]
  linarith

theorem max_sqrt_le {third second first least : ℝ} (thirdNonneg : 0 ≤ third)
    (secondNonneg : 0 ≤ second) (firstNonneg : 0 ≤ first) (leastNonneg : 0 ≤ least) :
    max (Real.sqrt (third + first)) least ≤
      max (Real.sqrt (third + second)) least + max (Real.sqrt (second + first)) least := by
  refine max_le ?_ ?_
  · exact (sqrt_add_le_sqrt_add_sqrt thirdNonneg secondNonneg firstNonneg).trans
        (add_le_add (le_max_left _ _) (le_max_left _ _))
  · exact (le_max_right _ _).trans
        (le_add_of_nonneg_right (leastNonneg.trans (le_max_right _ _)))

theorem pos_of_likely {score : ℝ} (increasing : StrictMono cdf) (centred : cdf 0 < 3 / 5)
    (likely : 3 / 5 ≤ cdf score) :
    0 < score :=
  increasing.lt_iff_lt.mp (centred.trans_le likely)

/-- Two leads in a row, each of some number of deviations, are one lead of as
many. -/
theorem min_le_div_of_leads {laterLead earlierLead lead later earlier whole : ℝ}
    (laterPos : 0 < later) (earlierPos : 0 < earlier) (wholePos : 0 < whole)
    (nonneg : 0 ≤ min (laterLead / later) (earlierLead / earlier))
    (leads : laterLead + earlierLead ≤ lead) (deviations : whole ≤ later + earlier) :
    min (laterLead / later) (earlierLead / earlier) ≤ lead / whole := by
  have laterShare := (le_div_iff₀ laterPos).mp (min_le_left (laterLead / later)
      (earlierLead / earlier))
  have earlierShare := (le_div_iff₀ earlierPos).mp (min_le_right (laterLead / later)
      (earlierLead / earlier))
  refine (le_div_iff₀ wholePos).mpr ?_
  calc
    min (laterLead / later) (earlierLead / earlier) * whole ≤
        min (laterLead / later) (earlierLead / earlier) * (later + earlier) :=
      mul_le_mul_of_nonneg_left deviations nonneg
    _ = min (laterLead / later) (earlierLead / earlier) * later +
          min (laterLead / later) (earlierLead / earlier) * earlier :=
      mul_add _ _ _
    _ ≤ laterLead + earlierLead := add_le_add laterShare earlierShare
    _ ≤ lead := leads

theorem f64Epsilon_pos : (0 : ℝ) < f64Epsilon := Rat.cast_pos.mpr (by decide +kernel)

theorem BeatsByOneFan.trans {third second first : StrategyStanding}
    (increasing : StrictMono cdf) (centred : cdf 0 < 3 / 5) (thirdNonneg : 0 ≤ third.var)
    (secondNonneg : 0 ≤ second.var) (firstNonneg : 0 ≤ first.var)
    (later : BeatsByOneFan cdf third second) (earlier : BeatsByOneFan cdf second first) :
    BeatsByOneFan cdf third first := by
  have laterPos := pos_of_likely increasing centred later
  have earlierPos := pos_of_likely increasing centred earlier
  have deviations := max_sqrt_le (Rat.cast_nonneg.mpr thirdNonneg)
      (Rat.cast_nonneg.mpr secondNonneg) (Rat.cast_nonneg.mpr firstNonneg)
      f64Epsilon_pos.le
  have least := @min_le_div_of_leads _ _ ((third.mean - first.mean - 1 : ℚ) : ℝ) _ _
      (max (Real.sqrt ((third.var + first.var : ℚ) : ℝ)) f64Epsilon)
      (lt_max_of_lt_right f64Epsilon_pos) (lt_max_of_lt_right f64Epsilon_pos)
      (lt_max_of_lt_right f64Epsilon_pos) (lt_min laterPos earlierPos).le
      (by
        push_cast
        linarith)
      (by
        push_cast
        exact deviations)
  refine le_trans ?_ (increasing.monotone least)
  rcases min_choice
      (((third.mean - second.mean - 1 : ℚ) : ℝ) /
        max (Real.sqrt ((third.var + second.var : ℚ) : ℝ)) f64Epsilon)
      (((second.mean - first.mean - 1 : ℚ) : ℝ) /
        max (Real.sqrt ((second.var + first.var : ℚ) : ℝ)) f64Epsilon) with
    isLater | isEarlier
  · rw [isLater]
    exact later
  · rw [isEarlier]
    exact earlier

end Leads

/-! ## The gates, and who gets through them -/

namespace GrowthStrategy

section Rule

variable (cdf : ℝ → ℝ) (world : WorldModel)
  (posterior : StateConditionedStrategyPosterior) (incumbent : GrowthStrategy)

/-- The strategy that is chosen under a distribution. -/
noncomputable def chosen : GrowthStrategy :=
  fromWorldModelWithPosterior world posterior (likelyUnder cdf) incumbent

/-- Both gates against the incumbent. -/
structure ClearsGates (challenger : GrowthStrategy) : Prop where
  other : challenger ≠ incumbent
  observed : 5 ≤ (standing world posterior challenger).confidence
  better :
    BeatsByOneFan cdf (standing world posterior challenger)
      (standing world posterior incumbent)

/-- The incumbent is replaced exactly where somebody clears both gates, and
by somebody who does. -/
structure FollowsRule : Prop where
  overrides :
    chosen cdf world posterior incumbent ≠ incumbent ↔
      ∃ challenger, ClearsGates cdf world posterior incumbent challenger
  clears :
    chosen cdf world posterior incumbent ≠ incumbent →
      ClearsGates cdf world posterior incumbent
        (chosen cdf world posterior incumbent)

/-- The strategies that are asked to replace the incumbent. -/
def challengers : List StrategyStanding :=
  (all.filter (· ≠ incumbent)).map (standing world posterior)

variable {cdf world posterior incumbent}

theorem mem_all (strategy : GrowthStrategy) : strategy ∈ all := by
  cases strategy <;> decide

theorem mem_challengers {contender : StrategyStanding} :
    contender ∈ challengers world posterior incumbent ↔
      ∃ strategy, strategy ≠ incumbent ∧ standing world posterior strategy = contender := by
  simp [challengers, mem_all]

theorem foldl_consider (likely : Score → Bool) (candidates : List GrowthStrategy)
    (best : StrategyStanding) :
    candidates.foldl (consider world posterior likely incumbent) best =
      Challenge.champion (StrategyStanding.overtakes likely) best
        ((candidates.filter (· ≠ incumbent)).map (standing world posterior)) := by
  induction candidates generalizing best with
  | nil => rfl
  | cons candidate rest inductionHypothesis =>
    rw [List.foldl_cons, inductionHypothesis, consider]
    by_cases isIncumbent : candidate = incumbent
    · simp [isIncumbent]
    · simp [isIncumbent, Challenge.champion]

theorem chosen_eq_champion :
    chosen cdf world posterior incumbent =
      (Challenge.champion (StrategyStanding.overtakes (likelyUnder cdf))
        (standing world posterior incumbent)
        (challengers world posterior incumbent)).strategy :=
  congrArg StrategyStanding.strategy (foldl_consider _ _ _)

theorem overtakes_iff {challenger best : StrategyStanding} :
    challenger.overtakes (likelyUnder cdf) best = true ↔
      5 ≤ challenger.confidence ∧ best.confidence ≤ challenger.confidence ∧
        BeatsByOneFan cdf challenger best := by
  unfold StrategyStanding.overtakes
  split
  · rename_i refused
    refine iff_of_false (by decide) ?_
    rintro ⟨enough, noLess, _⟩
    rcases refused with tooFew | fewer
    · exact absurd enough tooFew.not_ge
    · exact absurd noLess fewer.not_ge
  · rename_i admitted
    rw [not_or, not_lt, not_lt] at admitted
    rw [likelyUnder_lead]
    exact ⟨fun beats => ⟨admitted.1, admitted.2, beats⟩, fun all => all.2.2⟩

/-- The incumbent is replaced where somebody clears both gates who was
observed no less often. -/
theorem chosen_ne_iff :
    chosen cdf world posterior incumbent ≠ incumbent ↔
      ∃ challenger, ClearsGates cdf world posterior incumbent challenger ∧
        (standing world posterior incumbent).confidence ≤
          (standing world posterior challenger).confidence := by
  rw [chosen_eq_champion]
  constructor
  · intro replaced
    by_contra nobody
    refine replaced ?_
    rw [Challenge.champion_eq_first]
    · rfl
    · intro contender member
      obtain ⟨challenger, isOther, rfl⟩ := mem_challengers.mp member
      rw [Bool.eq_false_iff, Ne, overtakes_iff]
      rintro ⟨enough, noLess, beats⟩
      exact nobody ⟨challenger, ⟨isOther, enough, beats⟩, noLess⟩
  · rintro ⟨challenger, gates, noLess⟩
    have replaced := Challenge.champion_mem
        ⟨standing world posterior challenger, mem_challengers.mpr ⟨challenger, gates.other, rfl⟩,
          (@overtakes_iff cdf _ _).mpr ⟨gates.observed, noLess, gates.better⟩⟩
    obtain ⟨chosen, isOther, isChosen⟩ := mem_challengers.mp replaced
    rw [← isChosen]
    exact isOther

/-- Beliefs that are of some variance, as those are that evidence leaves. -/
def Spread (posterior : StateConditionedStrategyPosterior) : Prop :=
  ∀ cell belief, posterior cell = some belief → 0 ≤ belief.variance

theorem Spread.var_nonneg (spread : Spread posterior) (strategy : GrowthStrategy) :
    0 ≤ (standing world posterior strategy).var := by
  unfold standing StateConditionedStrategyPosterior.predict
  dsimp only
  split
  · rename_i belief isBelief
    exact spread _ belief isBelief
  · exact four_pos.le

theorem Spread.empty : Spread .empty := by
  intro cell belief isBelief
  cases isBelief

theorem Spread.update (spread : Spread posterior) (cell : StrategyCell)
    (observation : Observation ℚ) :
    Spread (posterior.update cell observation) := by
  intro other belief isBelief
  unfold StateConditionedStrategyPosterior.update at isBelief
  split at isBelief
  · obtain rfl := Option.some.inj isBelief
    have before : 0 ≤ ((posterior cell).getD strategyPrior).variance := by
      cases known : posterior cell with
      | none => exact four_pos.le
      | some own => exact spread cell own known
    unfold updateSigned
    split
    · exact before
    · rename_i noisy
      exact one_div_nonneg.mpr
          (add_nonneg (one_div_nonneg.mpr before) (one_div_nonneg.mpr (not_le.mp noisy).le))
  · exact spread other belief isBelief

theorem clearsGates_chosen (increasing : StrictMono cdf) (centred : cdf 0 < 3 / 5)
    (spread : Spread posterior) (replaced : chosen cdf world posterior incumbent ≠ incumbent) :
    ClearsGates cdf world posterior incumbent (chosen cdf world posterior incumbent) := by
  have better := @Challenge.champion_better _ (StrategyStanding.overtakes (likelyUnder cdf))
      (standing world posterior incumbent)
      (challengers world posterior incumbent)
      (fun contender => 0 ≤ contender.var)
      (fun challenger best =>
        5 ≤ challenger.confidence ∧ BeatsByOneFan cdf challenger best)
      (fun _ _ _ _ overtakes =>
        have admitted := overtakes_iff.mp overtakes
        ⟨admitted.1, admitted.2.2⟩)
      (fun _ _ _ thirdNonneg secondNonneg firstNonneg later earlier =>
        ⟨later.1, later.2.trans increasing centred thirdNonneg secondNonneg firstNonneg earlier.2⟩)
      (spread.var_nonneg incumbent)
      (fun contender member => by
        obtain ⟨strategy, _, rfl⟩ := mem_challengers.mp member
        exact spread.var_nonneg strategy)
  rw [chosen_eq_champion] at replaced ⊢
  rcases Challenge.champion_eq_or_mem with isKept | inChallengers
  · rw [isKept] at replaced
    exact absurd rfl replaced
  · obtain ⟨strategy, isOther, isChampion⟩ := mem_challengers.mp inChallengers
    rw [← isChampion] at better ⊢
    rcases better with isFirst | gates
    · exact absurd (congrArg StrategyStanding.strategy isFirst) isOther
    · exact ⟨isOther, gates.1, gates.2⟩

/--
The rule is followed exactly where nobody clears both gates, or somebody does
who was observed no less often than the incumbent.
-/
theorem followsRule_iff
    (increasing : StrictMono cdf)
    (centred : cdf 0 < 3 / 5)
    (spread : Spread posterior) :
    FollowsRule cdf world posterior incumbent ↔
      (∀ challenger,
          ¬ ClearsGates cdf world posterior incumbent challenger) ∨
        ∃ challenger, ClearsGates cdf world posterior incumbent challenger ∧
          (standing world posterior incumbent).confidence ≤
            (standing world posterior challenger).confidence := by
  constructor
  · intro follows
    by_cases somebody :
        ∃ challenger, ClearsGates cdf world posterior incumbent challenger
    · exact Or.inr (chosen_ne_iff.mp (follows.overrides.mpr somebody))
    · exact Or.inl (not_exists.mp somebody)
  · intro condition
    exact
      { overrides := by
          rw [chosen_ne_iff]
          rcases condition with nobody | observed
          · refine iff_of_false ?_ (not_exists.mpr nobody)
            rintro ⟨challenger, gates, _⟩
            exact nobody challenger gates
          · refine iff_of_true observed ?_
            obtain ⟨challenger, gates, _⟩ := observed
            exact ⟨challenger, gates⟩
        clears := clearsGates_chosen increasing centred spread }

end Rule

/-! ## An incumbent that was observed more often -/

def steadyWorld : WorldModel where
  fanGrowthTrend := .steady
  daysToNextEvent := none

def observeSteady (strategy : GrowthStrategy) (fans : ℚ) (times : Nat)
    (posterior : StateConditionedStrategyPosterior) :
    StateConditionedStrategyPosterior :=
  (List.replicate times (Observation.mk fans 4)).foldl
    (fun learned observation =>
      learned.update
        { strategy := strategy.asStr
          growthTrend := "steady"
          eventProximity := "far" }
        observation)
    posterior

theorem Spread.observeSteady {posterior : StateConditionedStrategyPosterior}
    (spread : Spread posterior) (strategy : GrowthStrategy) (fans : ℚ) (times : Nat) :
    Spread (observeSteady strategy fans times posterior) := by
  unfold GrowthStrategy.observeSteady
  induction List.replicate times (Observation.mk fans 4) generalizing posterior with
  | nil => exact spread
  | cons observation rest inductionHypothesis =>
    exact inductionHypothesis (spread.update _ observation)

/-- Discovery brought ten fans five times, and content none, as often as it
was tried. -/
def tenFansAgainst (times : Nat) : StateConditionedStrategyPosterior :=
  observeSteady aggressiveDiscovery 10 5 (observeSteady contentFirst 0 times .empty)

theorem threeFifths_le_value {score : Score} (positive : 0 < score.square)
    (far : signedSquare (3 / 5) * score.square ≤ signedSquare score.distance) :
    3 / 5 ≤ score.value := by
  have one : (Score.mk (3 / 5) 1).value = 3 / 5 := by
    unfold Score.value
    norm_num
  rw [← one, ← not_lt, Score.value_lt_iff positive one_pos, mul_one]
  exact not_lt.mpr far

theorem discovery_clearsGates :
    ClearsGates id steadyWorld (tenFansAgainst 10) contentFirst aggressiveDiscovery where
  other := by decide
  observed := by decide +kernel
  better := likelyUnder_lead.mp
      (likelyUnder_iff.mpr (threeFifths_le_value (by decide +kernel) (by decide +kernel)))

/-- Five observations are enough against an incumbent with five. -/
theorem equallyObserved_followsRule :
    FollowsRule id steadyWorld (tenFansAgainst 5) contentFirst ↔
      (∀ challenger,
          ¬ ClearsGates id steadyWorld (tenFansAgainst 5) contentFirst
              challenger) ∨
        ∃ challenger,
          ClearsGates id steadyWorld (tenFansAgainst 5) contentFirst
              challenger ∧
            (standing steadyWorld (tenFansAgainst 5)
                contentFirst).confidence ≤
              (standing steadyWorld (tenFansAgainst 5)
                challenger).confidence :=
  followsRule_iff strictMono_id (by norm_num)
    ((Spread.empty.observeSteady _ _ _).observeSteady _ _ _)

/-- Five observations are not enough against an incumbent with ten. -/
theorem oftenObserved_keepsIncumbent :
    ¬ ∀ (cdf : ℝ → ℝ) (world : WorldModel)
        (posterior : StateConditionedStrategyPosterior)
        (incumbent : GrowthStrategy),
        StrictMono cdf → cdf 0 < 3 / 5 → Spread posterior →
          FollowsRule cdf world posterior incumbent := by
  intro follows
  have rule := follows id steadyWorld (tenFansAgainst 10) contentFirst strictMono_id
      (by norm_num)
      ((Spread.empty.observeSteady _ _ _).observeSteady _ _ _)
  obtain ⟨challenger, gates, noLess⟩ := chosen_ne_iff.mp
      (rule.overrides.mpr ⟨aggressiveDiscovery, discovery_clearsGates⟩)
  cases challenger with
  | contentFirst => exact gates.other rfl
  | aggressiveDiscovery => exact absurd noLess (by decide +kernel)
  | eventDriven => exact absurd noLess (by decide +kernel)
  | signalConversion => exact absurd noLess (by decide +kernel)

end GrowthStrategy

end CrowdRelay
