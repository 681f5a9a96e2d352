import CrowdRelay.WideArithmetic

namespace CrowdRelay

open MachineInt Ranged WideArithmetic

/-!
# What a show costs to play

A trip is costed line by line from the distance, the band and its rates: the
road, the beds, the meals and what is paid whatever happens.  A question that
nobody has answered refuses the estimate instead of being answered with zero.
The amounts are worked out in 128 bits, and every line is cut down to 64.
-/

structure VehicleProfile where
  seats : U8
  cargoLitres : U32
  fuelCentilitresPer100km : U32
  deriving Repr, DecidableEq

def VehicleProfile.default : VehicleProfile where
  seats := 5
  cargoLitres := 900
  fuelCentilitresPer100km := 800

/-- The band and its rates, the same for every show. -/
structure TourEconomicsPolicy where
  transportMinorPer100kmRoundTrip : I64
  transportRateCoversVehicles : U8
  vehicle : VehicleProfile
  maxVehicles : U8
  crewSize : U8
  backlineLitres : U32
  fuelPriceMinorPerLitre : I64
  tollMinorPerKm : I64
  accommodationMinorPerRoomNight : I64
  crewPerRoom : U8
  perDiemMinorPerPersonDay : I64
  fixedOverheadMinor : I64
  overnightThresholdKm : U32
  minimumMarginMinor : I64
  deriving Repr, DecidableEq

namespace TourEconomicsPolicy

def default : TourEconomicsPolicy where
  transportMinorPer100kmRoundTrip := 0
  transportRateCoversVehicles := 1
  vehicle := VehicleProfile.default
  maxVehicles := 3
  crewSize := 5
  backlineLitres := 1200
  fuelPriceMinorPerLitre := 0
  tollMinorPerKm := 0
  accommodationMinorPerRoomNight := 0
  crewPerRoom := 2
  perDiemMinorPerPersonDay := 0
  fixedOverheadMinor := 0
  overnightThresholdKm := 350
  minimumMarginMinor := 0

/-- What is checked before a policy is stored; no road model is asked for. -/
def isValid (policy : TourEconomicsPolicy) : Bool :=
  1 ≤ policy.vehicle.seats &&
    1 ≤ policy.maxVehicles &&
    1 ≤ policy.transportRateCoversVehicles &&
    1 ≤ policy.crewPerRoom &&
    policy.crewSize ≤ 100 &&
    policy.overnightThresholdKm ≤ 20000 &&
    0 ≤ policy.transportMinorPer100kmRoundTrip &&
    0 ≤ policy.fuelPriceMinorPerLitre &&
    0 ≤ policy.tollMinorPerKm &&
    0 ≤ policy.accommodationMinorPerRoomNight &&
    0 ≤ policy.perDiemMinorPerPersonDay &&
    0 ≤ policy.fixedOverheadMinor &&
    0 ≤ policy.minimumMarginMinor

def flatRate (policy : TourEconomicsPolicy) : Bool := 0 < policy.transportMinorPer100kmRoundTrip

/-- The road can be costed from consumption and price. -/
def itemised (policy : TourEconomicsPolicy) : Bool :=
  0 < policy.vehicle.fuelCentilitresPer100km && 0 < policy.fuelPriceMinorPerLitre

end TourEconomicsPolicy

/-- What one offer involves. -/
structure ShowLogistics where
  distanceKm : Option U32
  nightsAway : Option U8
  offeredFeeMinor : I64
  applicationFeeMinor : I64
  deriving Repr, DecidableEq

inductive MissingInput where
  | distance
  | transportRate
  | vehicleCapacity
  | crewSize
  | accommodationRate
  deriving Repr, DecidableEq

inductive TransportBasis where
  | flatRate
  | fuelAndTolls
  deriving Repr, DecidableEq

/-- Every line of what the trip costs, and what is left of the fee. -/
structure ShowCost where
  transportBasis : TransportBasis
  transportMinor : I64
  vehicles : U8
  roundTripKm : U32
  nightsAway : U8
  rooms : U8
  fuelMinor : I64
  tollsMinor : I64
  accommodationMinor : I64
  perDiemMinor : I64
  overheadMinor : I64
  totalCostMinor : I64
  netMarginMinor : I64
  walkAwayFeeMinor : I64
  deriving Repr, DecidableEq

inductive CostEvidence where
  | complete (cost : ShowCost)
  | insufficient (missing : MissingInput)
  deriving Repr, DecidableEq

def CostEvidence.clearsFloor : CostEvidence → Bool
  | .complete cost => 0 ≤ cost.netMarginMinor
  | .insufficient _ => false

def asU32 (value : U8) : U32 where
  val := value.val
  lower := value.lower
  upper := value.upper.trans (by decide)

/-- Division rounding up, and zero where the divisor is. -/
def divCeilU32 (value divisor : U32) : U32 :=
  if divisor = 0 then 0 else saturate ((value.val + divisor.val - 1) / divisor.val)

abbrev i128Min : Int := -170141183460469231731687303715884105728
abbrev i128Max : Int := 170141183460469231731687303715884105727

instance i128Inhabited : Fact (i128Min ≤ i128Max) := ⟨by decide⟩

/-- An amount worked out in `i128` and narrowed once. -/
def money (product : Expression) : I64 := saturate (product.computed i128Min i128Max)

/-- The vehicles the crew and the gear need, at most as many as allowed. -/
def requiredVehicles (policy : TourEconomicsPolicy) : Option U8 :=
  if policy.crewSize = 0 then
    none
  else if policy.vehicle.seats = 0 ∨ policy.vehicle.cargoLitres = 0 then
    none
  else
    let forPeople := divCeilU32 (asU32 policy.crewSize) (asU32 policy.vehicle.seats)
    let forGear := divCeilU32 policy.backlineLitres policy.vehicle.cargoLitres
    let larger := if forGear < forPeople then forPeople else forGear
    let needed := if larger = 0 then 1 else larger
    let capped :=
      if asU32 policy.maxVehicles < needed then asU32 policy.maxVehicles else needed
    if capped = 0 then none else some (wrap capped.val)

section Lines

variable (policy : TourEconomicsPolicy) (roundTripKm : U32) (vehicles : U8)

/-- The stated rate, scaled up when more vehicles go than it covers. -/
def flatRateProduct : Expression :=
  let covers := max policy.transportRateCoversVehicles 1
  let scale := if covers < vehicles then vehicles else covers
  .div
    (.mul
      (.mul (.value roundTripKm.val) (.value policy.transportMinorPer100kmRoundTrip.val))
      (.value scale.val))
    (.mul (.value 100) (.value covers.val))

/-- Centilitres over all kilometres to litres, in one division. -/
def fuelProduct : Expression :=
  .div
    (.mul
      (.mul
        (.mul (.value roundTripKm.val) (.value policy.vehicle.fuelCentilitresPer100km.val))
        (.value policy.fuelPriceMinorPerLitre.val))
      (.value vehicles.val))
    (.value 10000)

def tollsProduct : Expression :=
  .mul
    (.mul (.value roundTripKm.val) (.value policy.tollMinorPerKm.val))
    (.value vehicles.val)

def fuelAndTollsSum (fuelMinor tollsMinor : I64) : Expression :=
  .add (.value fuelMinor.val) (.value tollsMinor.val)

def accommodationProduct (rooms nightsAway : U8) : Expression :=
  .mul
    (.mul (.value rooms.val) (.value nightsAway.val))
    (.value policy.accommodationMinorPerRoomNight.val)

/-- The nights and the day of the show itself. -/
def perDiemProduct (nightsAway : U8) : Expression :=
  .mul
    (.mul (.value policy.crewSize.val) (.add (.value nightsAway.val) (.value 1)))
    (.value policy.perDiemMinorPerPersonDay.val)

def totalCostSum
    (transportMinor accommodationMinor perDiemMinor : I64) : Expression :=
  .add
    (.add
      (.add (.value transportMinor.val) (.value accommodationMinor.val))
      (.value perDiemMinor.val))
    (.value policy.fixedOverheadMinor.val)

variable (logistics : ShowLogistics)

def netMarginSum (totalCostMinor : I64) : Expression :=
  .sub
    (.sub (.value logistics.offeredFeeMinor.val) (.value totalCostMinor.val))
    (.value logistics.applicationFeeMinor.val)

def walkAwaySum (totalCostMinor : I64) : Expression :=
  .add
    (.add (.value totalCostMinor.val) (.value policy.minimumMarginMinor.val))
    (.value logistics.applicationFeeMinor.val)

end Lines

structure RoadCost where
  transportBasis : TransportBasis
  transportMinor : I64
  fuelMinor : I64
  tollsMinor : I64
  deriving Repr, DecidableEq

def roadCost (policy : TourEconomicsPolicy) (roundTripKm : U32)
    (vehicles : U8) : RoadCost :=
  if policy.flatRate then
    { transportBasis := .flatRate
      transportMinor := money (flatRateProduct policy roundTripKm vehicles)
      fuelMinor := 0
      tollsMinor := 0 }
  else
    let fuelMinor := money (fuelProduct policy roundTripKm vehicles)
    let tollsMinor := money (tollsProduct policy roundTripKm vehicles)
    { transportBasis := .fuelAndTolls
      transportMinor := money (fuelAndTollsSum fuelMinor tollsMinor)
      fuelMinor := fuelMinor
      tollsMinor := tollsMinor }

variable (logistics : ShowLogistics)

/-- The nights somebody stated, or one from the threshold on. -/
def nightsAwayFor (policy : TourEconomicsPolicy)
    (distanceKm : U32) : U8 :=
  logistics.nightsAway.getD (if policy.overnightThresholdKm ≤ distanceKm then 1 else 0)

def roomsFor (policy : TourEconomicsPolicy) : U8 :=
  if policy.crewPerRoom = 0 then
    policy.crewSize
  else
    (tryFrom
      (divCeilU32 (asU32 policy.crewSize) (asU32 policy.crewPerRoom)).val).getD
      255

/-- The lines of a trip for which nothing is missing. -/
def itemisedCost (policy : TourEconomicsPolicy) (distanceKm : U32)
    (vehicles : U8) : ShowCost :=
  let roundTripKm := distanceKm.saturatingMul 2
  let road := roadCost policy roundTripKm vehicles
  let nightsAway := nightsAwayFor logistics policy distanceKm
  let rooms := roomsFor policy
  let accommodationMinor := money (accommodationProduct policy rooms nightsAway)
  let perDiemMinor := money (perDiemProduct policy nightsAway)
  let totalCostMinor :=
    money (totalCostSum policy road.transportMinor accommodationMinor perDiemMinor)
  { transportBasis := road.transportBasis
    transportMinor := road.transportMinor
    vehicles := vehicles
    roundTripKm := roundTripKm
    nightsAway := nightsAway
    rooms := rooms
    fuelMinor := road.fuelMinor
    tollsMinor := road.tollsMinor
    accommodationMinor := accommodationMinor
    perDiemMinor := perDiemMinor
    overheadMinor := policy.fixedOverheadMinor
    totalCostMinor := totalCostMinor
    netMarginMinor := money (netMarginSum logistics totalCostMinor)
    walkAwayFeeMinor := money (walkAwaySum policy logistics totalCostMinor) }

/-- Somebody has to sleep somewhere, and nobody has said what a bed costs. -/
def bedsUnpriced (policy : TourEconomicsPolicy)
    (distanceKm : U32) : Bool :=
  0 < nightsAwayFor logistics policy distanceKm && policy.accommodationMinorPerRoomNight ≤ 0

def estimateShowCost
    (policy : TourEconomicsPolicy) : CostEvidence :=
  match logistics.distanceKm with
  | none => .insufficient .distance
  | some distanceKm =>
    if policy.crewSize = 0 then
      .insufficient .crewSize
    else
      match requiredVehicles policy with
      | none => .insufficient .vehicleCapacity
      | some vehicles =>
        if !policy.flatRate && !policy.itemised then
          .insufficient .transportRate
        else if bedsUnpriced logistics policy distanceKm then
          .insufficient .accommodationRate
        else
          .complete (itemisedCost logistics policy distanceKm vehicles)

/-- Nothing is missing for a trip of this distance with these vehicles. -/
structure Costable
    (logistics : ShowLogistics)
    (policy : TourEconomicsPolicy)
    (distanceKm : U32)
    (vehicles : U8) : Prop where
  distanceKnown : logistics.distanceKm = some distanceKm
  vehiclesKnown : requiredVehicles policy = some vehicles
  roadPriced : policy.flatRate = true ∨ policy.itemised = true
  bedsPriced : bedsUnpriced logistics policy distanceKm = false

section Estimates

variable {logistics : ShowLogistics} {policy : TourEconomicsPolicy} {distanceKm : U32}
  {vehicles : U8} {cost : ShowCost}

theorem crewSize_ne_zero (known : requiredVehicles policy = some vehicles) :
    policy.crewSize ≠ 0 := by
  intro noCrew
  rw [requiredVehicles, if_pos noCrew] at known
  cases known

theorem estimateShowCost_eq_complete_iff :
    estimateShowCost logistics policy = .complete cost ↔
      ∃ distanceKm vehicles,
        Costable logistics policy distanceKm vehicles ∧
          cost = itemisedCost logistics policy distanceKm vehicles := by
  constructor
  · intro estimated
    unfold estimateShowCost at estimated
    split at estimated
    next => cases estimated
    next distanceKm distanceKnown =>
      split at estimated
      next => cases estimated
      next =>
        split at estimated
        next => cases estimated
        next vehicles vehiclesKnown =>
          split at estimated
          next => cases estimated
          next priced =>
            split at estimated
            next => cases estimated
            next bedsPriced =>
              refine ⟨distanceKm, vehicles, ⟨distanceKnown, vehiclesKnown, ?_, ?_⟩, ?_⟩
              · rw [Bool.and_eq_true, Bool.not_eq_true', Bool.not_eq_true',
                  not_and_or, Bool.not_eq_false, Bool.not_eq_false] at priced
                exact priced
              · exact eq_false_of_ne_true bedsPriced
              · exact (CostEvidence.complete.inj estimated).symm
  · rintro ⟨distanceKm, vehicles, costable, rfl⟩
    have crew := crewSize_ne_zero costable.vehiclesKnown
    have priced : (!policy.flatRate && !policy.itemised) = false := by
      rcases costable.roadPriced with stated | derived
      · rw [stated]
        rfl
      · rw [derived, Bool.not_true, Bool.and_false]
    simp only [estimateShowCost, costable.distanceKnown, if_neg crew,
      costable.vehiclesKnown, priced, costable.bedsPriced, Bool.false_eq_true,
      if_false]

theorem money_of_fits {product : Expression} (fits : product.Fits i128Min i128Max) :
    money product = saturate product.exact := by
  rw [money, Expression.computed_eq_exact fits]

theorem netMarginSum_fits (totalCostMinor : I64) :
    (netMarginSum logistics totalCostMinor).Fits i128Min i128Max := by
  have total := And.intro totalCostMinor.lower totalCostMinor.upper
  have offered := And.intro logistics.offeredFeeMinor.lower logistics.offeredFeeMinor.upper
  have application := And.intro logistics.applicationFeeMinor.lower
      logistics.applicationFeeMinor.upper
  simp only [netMarginSum, Expression.Fits, Expression.exact, i128Min, i128Max]
  omega

theorem walkAwaySum_fits (totalCostMinor : I64) :
    (walkAwaySum policy logistics totalCostMinor).Fits i128Min i128Max := by
  have total := And.intro totalCostMinor.lower totalCostMinor.upper
  have margin := And.intro policy.minimumMarginMinor.lower policy.minimumMarginMinor.upper
  have application := And.intro logistics.applicationFeeMinor.lower
      logistics.applicationFeeMinor.upper
  simp only [walkAwaySum, Expression.Fits, Expression.exact, i128Min, i128Max]
  omega

theorem netMarginMinor_eq :
    (itemisedCost logistics policy distanceKm vehicles).netMarginMinor = saturate
        (logistics.offeredFeeMinor.val
          - (itemisedCost logistics policy distanceKm vehicles).totalCostMinor.val
          - logistics.applicationFeeMinor.val) :=
  money_of_fits (netMarginSum_fits _)

/-- The walk-away fee covers the total, the minimum margin and the
application. -/
theorem walkAwayFeeMinor_eq :
    (itemisedCost logistics policy distanceKm vehicles).walkAwayFeeMinor = saturate
        ((itemisedCost logistics policy distanceKm vehicles).totalCostMinor.val
          + policy.minimumMarginMinor.val
          + logistics.applicationFeeMinor.val) :=
  money_of_fits (walkAwaySum_fits _)

/-- The floor is cleared when the fee covers the total and the application,
whatever the minimum margin is. -/
theorem clearsFloor_iff (complete : estimateShowCost logistics policy = .complete cost) :
    (estimateShowCost logistics policy).clearsFloor = true ↔
      cost.totalCostMinor.val + logistics.applicationFeeMinor.val ≤
        logistics.offeredFeeMinor.val := by
  obtain ⟨distanceKm, vehicles, -, isCost⟩ := estimateShowCost_eq_complete_iff.mp complete
  have margin := congrArg Ranged.val (@netMarginMinor_eq logistics policy distanceKm vehicles)
  rw [← isCost, val_saturate] at margin
  rw [complete, CostEvidence.clearsFloor, decide_eq_true_iff, le_iff_val, margin]
  have zero : (0 : I64).val = 0 := rfl
  rw [zero]
  omega

end Estimates

section Floor

variable {logistics : ShowLogistics} {policy : TourEconomicsPolicy} {cost : ShowCost}

/-- The floor test and the walk-away fee agree on an offer exactly when it
does not lie between covering the costs and clearing the minimum margin. -/
theorem floor_agrees_with_walkAway_iff
    (valid : policy.isValid = true)
    (complete : estimateShowCost logistics policy = .complete cost)
    (unsaturated :
      cost.walkAwayFeeMinor.val =
        cost.totalCostMinor.val + policy.minimumMarginMinor.val
          + logistics.applicationFeeMinor.val) :
    ((estimateShowCost logistics policy).clearsFloor = true ↔
        cost.walkAwayFeeMinor ≤ logistics.offeredFeeMinor) ↔
      (logistics.offeredFeeMinor.val <
          cost.totalCostMinor.val + logistics.applicationFeeMinor.val ∨
        cost.totalCostMinor.val + logistics.applicationFeeMinor.val
            + policy.minimumMarginMinor.val ≤
          logistics.offeredFeeMinor.val) := by
  have marginNonneg : 0 ≤ policy.minimumMarginMinor.val := by
    simp only [TourEconomicsPolicy.isValid, Bool.and_eq_true, decide_eq_true_eq] at valid
    exact valid.2
  rw [clearsFloor_iff complete, le_iff_val, unsaturated]
  omega

/-- Five people and a backline, with Polish road costs in grosze. -/
def touringBand : TourEconomicsPolicy where
  transportMinorPer100kmRoundTrip := 0
  transportRateCoversVehicles := 2
  vehicle := VehicleProfile.default
  maxVehicles := 3
  crewSize := 5
  backlineLitres := 1200
  fuelPriceMinorPerLitre := 650
  tollMinorPerKm := 12
  accommodationMinorPerRoomNight := 18000
  crewPerRoom := 2
  perDiemMinorPerPersonDay := 6000
  fixedOverheadMinor := 20000
  overnightThresholdKm := 350
  minimumMarginMinor := 50000

def fiveHundredKilometres (offeredFeeMinor : I64) : ShowLogistics where
  distanceKm := some 500
  nightsAway := none
  offeredFeeMinor := offeredFeeMinor
  applicationFeeMinor := 0

/-- The lines of that trip, for a fee. -/
def fiveHundredKilometreCost (netMarginMinor : I64) : ShowCost where
  transportBasis := .fuelAndTolls
  transportMinor := 128000
  vehicles := 2
  roundTripKm := 1000
  nightsAway := 1
  rooms := 3
  fuelMinor := 104000
  tollsMinor := 24000
  accommodationMinor := 54000
  perDiemMinor := 60000
  overheadMinor := 20000
  totalCostMinor := 262000
  netMarginMinor := netMarginMinor
  walkAwayFeeMinor := 312000

theorem good_offer_agrees_with_walkAway :
    ((estimateShowCost (fiveHundredKilometres 400000) touringBand).clearsFloor
          = true ↔
        (312000 : I64) ≤ 400000) ↔
      ((400000 : Int) < 262000 + 0 ∨ (262000 : Int) + 0 + 50000 ≤ 400000) :=
  @floor_agrees_with_walkAway_iff (fiveHundredKilometres 400000) touringBand
    (fiveHundredKilometreCost 138000) (by decide) (by decide) (by decide)

/-- An offer that leaves less than the minimum margin clears the floor. -/
theorem thin_offer_clears_floor_below_walkAway :
    ¬ ∀ (logistics : ShowLogistics)
        (policy : TourEconomicsPolicy)
        (cost : ShowCost),
      policy.isValid = true →
      estimateShowCost logistics policy = .complete cost →
      cost.walkAwayFeeMinor.val =
        cost.totalCostMinor.val + policy.minimumMarginMinor.val
          + logistics.applicationFeeMinor.val →
      ((estimateShowCost logistics policy).clearsFloor = true ↔
        cost.walkAwayFeeMinor ≤ logistics.offeredFeeMinor) := by
  intro agree
  have thin := agree (fiveHundredKilometres 270000) touringBand
    (fiveHundredKilometreCost 8000) (by decide) (by decide) (by decide)
  exact absurd (thin.mp (by decide)) (by decide)

end Floor

end CrowdRelay
