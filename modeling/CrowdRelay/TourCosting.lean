import Mathlib.Algebra.Order.Floor.Ring
import Mathlib.Data.Rat.Floor
import CrowdRelay.TourEconomics

namespace CrowdRelay

open MachineInt Ranged WideArithmetic Expression

/-!
# How exactly a trip is costed

The amounts of a costing are compared with the same amounts over the rational
numbers, rounded down once and cut down to 64 bits once.  Three factors of the
fuel fill 128 bits, and the vehicles are a fourth.  The margins are worked out
from a total that has been cut down already.
-/

section Workings

variable (logistics : ShowLogistics) (policy : TourEconomicsPolicy)

def roadWorkings (roundTripKm : U32) (vehicles : U8) : List Expression :=
  if policy.flatRate then
    [flatRateProduct policy roundTripKm vehicles]
  else
    [fuelProduct policy roundTripKm vehicles,
      tollsProduct policy roundTripKm vehicles,
      fuelAndTollsSum (money (fuelProduct policy roundTripKm vehicles))
        (money (tollsProduct policy roundTripKm vehicles))]

/-- What is worked out for the other lines, once the road is costed. -/
def lineWorkings (cost : ShowCost) : List Expression :=
  [accommodationProduct policy cost.rooms cost.nightsAway,
    perDiemProduct policy cost.nightsAway,
    totalCostSum policy cost.transportMinor cost.accommodationMinor cost.perDiemMinor,
    netMarginSum logistics cost.totalCostMinor,
    walkAwaySum policy logistics cost.totalCostMinor]

/-- Everything an estimate works out in 128 bits, up to where it refuses. -/
def workings : List Expression :=
  match logistics.distanceKm with
  | none => []
  | some distanceKm =>
    match requiredVehicles policy with
    | none => []
    | some vehicles =>
      if !policy.flatRate && !policy.itemised then
        []
      else
        roadWorkings policy (distanceKm.saturatingMul 2) vehicles ++
          if bedsUnpriced logistics policy distanceKm then
            []
          else
            lineWorkings logistics policy (itemisedCost logistics policy distanceKm vehicles)

end Workings

section Exact

variable (logistics : ShowLogistics) (policy : TourEconomicsPolicy) (distanceKm : U32)
  (vehicles : U8)

/-- The kilometres there and back, as the costing reports them. -/
def tripKm : ℚ := (distanceKm.saturatingMul 2).val

/-- Consumption over the trip at the price of a litre, for every vehicle. -/
def exactFuel : ℚ :=
  if policy.flatRate then
    0
  else
    tripKm distanceKm / 100
      * (policy.vehicle.fuelCentilitresPer100km.val / 100)
      * policy.fuelPriceMinorPerLitre.val * vehicles.val

def exactTolls : ℚ :=
  if policy.flatRate then 0 else tripKm distanceKm * policy.tollMinorPerKm.val * vehicles.val

/-- The stated rate over the trip, never below the vehicles it covers. -/
def exactTransport : ℚ :=
  if policy.flatRate then
    tripKm distanceKm / 100 * policy.transportMinorPer100kmRoundTrip.val
      * max 1 ((vehicles.val : ℚ) / policy.transportRateCoversVehicles.val)
  else
    exactFuel policy distanceKm vehicles + exactTolls policy distanceKm vehicles

/-- As many rooms as the crew fills, begun ones included. -/
def exactAccommodation : ℚ :=
  ⌈(policy.crewSize.val : ℚ) / policy.crewPerRoom.val⌉
    * (nightsAwayFor logistics policy distanceKm).val
    * policy.accommodationMinorPerRoomNight.val

def exactPerDiem : ℚ :=
  policy.crewSize.val
    * ((nightsAwayFor logistics policy distanceKm).val + 1)
    * policy.perDiemMinorPerPersonDay.val

def exactTotal : ℚ :=
  exactTransport policy distanceKm vehicles
    + exactAccommodation logistics policy distanceKm
    + exactPerDiem logistics policy distanceKm
    + policy.fixedOverheadMinor.val

/-- An exact amount rounded down, in the range of the amounts. -/
def minorUnits (amount : ℚ) : I64 := saturate ⌊amount⌋

structure CostedExactly (cost : ShowCost) : Prop where
  fuel : cost.fuelMinor = minorUnits (exactFuel policy distanceKm vehicles)
  tolls : cost.tollsMinor = minorUnits (exactTolls policy distanceKm vehicles)
  transport :
    cost.transportMinor =
      minorUnits (exactTransport policy distanceKm vehicles)
  accommodation :
    cost.accommodationMinor =
      minorUnits (exactAccommodation logistics policy distanceKm)
  perDiem :
    cost.perDiemMinor = minorUnits (exactPerDiem logistics policy distanceKm)
  overhead : cost.overheadMinor = policy.fixedOverheadMinor
  total :
    cost.totalCostMinor =
      minorUnits (exactTotal logistics policy distanceKm vehicles)
  netMargin :
    cost.netMarginMinor =
      saturate
        (logistics.offeredFeeMinor.val
          - ⌊exactTotal logistics policy distanceKm vehicles⌋
          - logistics.applicationFeeMinor.val)
  walkAway :
    cost.walkAwayFeeMinor =
      saturate
        (⌊exactTotal logistics policy distanceKm vehicles⌋
          + policy.minimumMarginMinor.val
          + logistics.applicationFeeMinor.val)

end Exact

/-- Nothing that is worked out leaves 128 bits, and a complete costing is
exact. -/
def CostingExact (logistics : ShowLogistics)
    (policy : TourEconomicsPolicy) : Prop :=
  (∀ product ∈ workings logistics policy, product.Fits i128Min i128Max) ∧
    ∀ distanceKm vehicles cost,
      logistics.distanceKm = some distanceKm →
      requiredVehicles policy = some vehicles →
      estimateShowCost logistics policy = .complete cost →
      CostedExactly logistics policy distanceKm vehicles cost

/-- The four factors of the fuel multiply to no more than 128 bits hold. -/
def FuelFits (policy : TourEconomicsPolicy) (roundTripKm : U32)
    (vehicles : U8) : Prop :=
  roundTripKm.val * policy.vehicle.fuelCentilitresPer100km.val
      * policy.fuelPriceMinorPerLitre.val * vehicles.val ≤ i128Max

instance decidableFuelFits
    (policy : TourEconomicsPolicy)
    (roundTripKm : U32)
    (vehicles : U8) :
    Decidable (FuelFits policy roundTripKm vehicles) :=
  inferInstanceAs (Decidable (_ ≤ _))

/-- The fuel of all the vehicles fits in 128 bits, and the total in 64, unless
what is worked out from the total is cut down all the same. -/
structure LossFree
    (logistics : ShowLogistics)
    (policy : TourEconomicsPolicy)
    (distanceKm : U32)
    (vehicles : U8) : Prop where
  fuelFits :
    policy.flatRate = false →
    FuelFits policy (distanceKm.saturatingMul 2) vehicles
  totalFits :
    Costable logistics policy distanceKm vehicles →
    ⌊exactTotal logistics policy distanceKm vehicles⌋ ≤ 9223372036854775807 ∨
      (0 ≤ policy.minimumMarginMinor.val + logistics.applicationFeeMinor.val ∧
        logistics.offeredFeeMinor < logistics.applicationFeeMinor)

/-- What a valid policy says about its numbers. -/
structure SoundRates (policy : TourEconomicsPolicy) : Prop where
  covers : 1 ≤ policy.transportRateCoversVehicles.val
  perRoom : 1 ≤ policy.crewPerRoom.val
  flat : 0 ≤ policy.transportMinorPer100kmRoundTrip.val
  price : 0 ≤ policy.fuelPriceMinorPerLitre.val
  toll : 0 ≤ policy.tollMinorPerKm.val
  room : 0 ≤ policy.accommodationMinorPerRoomNight.val
  meals : 0 ≤ policy.perDiemMinorPerPersonDay.val
  overhead : 0 ≤ policy.fixedOverheadMinor.val
  margin : 0 ≤ policy.minimumMarginMinor.val

theorem soundRates_of_isValid {policy : TourEconomicsPolicy} (valid : policy.isValid = true) :
    SoundRates policy := by
  simp only [TourEconomicsPolicy.isValid, Bool.and_eq_true, decide_eq_true_eq, le_iff_val] at valid
  obtain ⟨⟨⟨⟨⟨⟨⟨⟨⟨⟨⟨⟨-, -⟩, covers⟩, perRoom⟩, -⟩, -⟩, flat⟩, price⟩, toll⟩,
    room⟩, meals⟩, overhead⟩, margin⟩ := valid
  exact ⟨covers, perRoom, flat, price, toll, room, meals, overhead, margin⟩

section Widths

variable {logistics : ShowLogistics} {policy : TourEconomicsPolicy} {roundTripKm : U32}
  {vehicles : U8}

theorem i128Min_le_zero : i128Min ≤ 0 := by
  decide

theorem within_u8 (value : U8) : Within i128Min i128Max 255 (.value value.val) :=
  Within.value i128Min_le_zero value.lower value.upper (by decide)

theorem within_u32 (value : U32) : Within i128Min i128Max 4294967295 (.value value.val) :=
  Within.value i128Min_le_zero value.lower value.upper (by decide)

theorem within_i64 {value : I64} (nonneg : 0 ≤ value.val) :
    Within i128Min i128Max 9223372036854775807 (.value value.val) :=
  Within.value i128Min_le_zero nonneg value.upper (by decide)

theorem within_literal {number : Int} (nonneg : 0 ≤ number) (small : number ≤ 10000) :
    Within i128Min i128Max 10000 (.value number) :=
  Within.value i128Min_le_zero nonneg small (by decide)

theorem flatRateProduct_within (rates : SoundRates policy) :
    Within i128Min i128Max (4294967295 * 9223372036854775807 * 255)
      (flatRateProduct policy roundTripKm vehicles) :=
  Within.div i128Min_le_zero
    (Within.mul i128Min_le_zero
      (Within.mul i128Min_le_zero (within_u32 _) (within_i64 rates.flat) (by decide))
      (within_u8 _) (by decide))
    (Within.mul i128Min_le_zero (within_literal (by decide) (by decide)) (within_u8 _) (by decide))
    (by decide)

theorem fuelOfOne_within (rates : SoundRates policy) :
    Within i128Min i128Max (4294967295 * 4294967295 * 9223372036854775807)
      (.mul (.mul (.value roundTripKm.val) (.value policy.vehicle.fuelCentilitresPer100km.val))
        (.value policy.fuelPriceMinorPerLitre.val)) :=
  Within.mul i128Min_le_zero (Within.mul i128Min_le_zero (within_u32 _) (within_u32 _) (by decide))
    (within_i64 rates.price) (by decide)

theorem fuelProduct_fits_iff (rates : SoundRates policy) :
    (fuelProduct policy roundTripKm vehicles).Fits i128Min i128Max ↔
      FuelFits policy roundTripKm vehicles := by
  have ofOne := @fuelOfOne_within policy roundTripKm rates
  have ofAll :
      0 ≤ roundTripKm.val * policy.vehicle.fuelCentilitresPer100km.val
          * policy.fuelPriceMinorPerLitre.val * vehicles.val :=
    Int.mul_nonneg ofOne.nonneg vehicles.lower
  constructor
  · intro fits
    exact fits.1.2.2.2
  · intro room
    have product :
        Within i128Min i128Max i128Max
          (.mul
            (.mul
              (.mul (.value roundTripKm.val) (.value policy.vehicle.fuelCentilitresPer100km.val))
              (.value policy.fuelPriceMinorPerLitre.val))
            (.value vehicles.val)) :=
      ⟨⟨ofOne.fits, (within_u8 vehicles).fits, i128Min_le_zero.trans ofAll, room⟩, ofAll, room⟩
    exact (Within.div i128Min_le_zero product (within_literal (by decide) (by decide)) le_rfl).fits

theorem tollsProduct_within (rates : SoundRates policy) :
    Within i128Min i128Max (4294967295 * 9223372036854775807 * 255)
      (tollsProduct policy roundTripKm vehicles) :=
  Within.mul i128Min_le_zero
    (Within.mul i128Min_le_zero (within_u32 _) (within_i64 rates.toll) (by decide))
    (within_u8 _) (by decide)

theorem accommodationProduct_within (rates : SoundRates policy) (rooms nightsAway : U8) :
    Within i128Min i128Max (255 * 255 * 9223372036854775807)
      (accommodationProduct policy rooms nightsAway) :=
  Within.mul i128Min_le_zero (Within.mul i128Min_le_zero (within_u8 _) (within_u8 _) (by decide))
    (within_i64 rates.room) (by decide)

theorem perDiemProduct_within (rates : SoundRates policy) (nightsAway : U8) :
    Within i128Min i128Max (255 * (255 + 10000) * 9223372036854775807)
      (perDiemProduct policy nightsAway) :=
  Within.mul i128Min_le_zero
    (Within.mul i128Min_le_zero (within_u8 _)
      (Within.add i128Min_le_zero (within_u8 _)
        (within_literal (by decide) (by decide)) (by decide))
      (by decide))
    (within_i64 rates.meals) (by decide)

theorem fuelAndTollsSum_fits (fuelMinor tollsMinor : I64) :
    (fuelAndTollsSum fuelMinor tollsMinor).Fits i128Min i128Max := by
  have fuel := And.intro fuelMinor.lower fuelMinor.upper
  have tolls := And.intro tollsMinor.lower tollsMinor.upper
  simp only [fuelAndTollsSum, Fits, exact, i128Min, i128Max]
  omega

theorem totalCostSum_fits (transportMinor accommodationMinor perDiemMinor : I64) :
    (totalCostSum policy transportMinor accommodationMinor perDiemMinor).Fits i128Min i128Max := by
  have transport := And.intro transportMinor.lower transportMinor.upper
  have beds := And.intro accommodationMinor.lower accommodationMinor.upper
  have meals := And.intro perDiemMinor.lower perDiemMinor.upper
  have overhead := And.intro policy.fixedOverheadMinor.lower policy.fixedOverheadMinor.upper
  simp only [totalCostSum, Fits, exact, i128Min, i128Max]
  omega

/-- What is worked out for the road fits exactly when the fuel does, where
there is any to work out. -/
theorem roadWorkings_fit_iff (rates : SoundRates policy) :
    (∀ product ∈ roadWorkings policy roundTripKm vehicles, product.Fits i128Min i128Max) ↔
      (policy.flatRate = false → FuelFits policy roundTripKm vehicles) := by
  rw [← fuelProduct_fits_iff rates]
  unfold roadWorkings
  cases stated : policy.flatRate with
  | true => simp [(flatRateProduct_within rates).fits]
  | false => simp [(tollsProduct_within rates).fits, fuelAndTollsSum_fits]

theorem lineWorkings_fit (rates : SoundRates policy) (cost : ShowCost) :
    ∀ product ∈ lineWorkings logistics policy cost, product.Fits i128Min i128Max := by
  simp [lineWorkings, (accommodationProduct_within rates _ _).fits,
    (perDiemProduct_within rates _).fits, totalCostSum_fits,
    netMarginSum_fits, walkAwaySum_fits]

end Widths

section Amounts

variable {logistics : ShowLogistics} {policy : TourEconomicsPolicy} {distanceKm : U32}
  {vehicles : U8} {dividend divisor : Int}

theorem floor_quotient (dividendNonneg : 0 ≤ dividend) (divisorNonneg : 0 ≤ divisor) :
    ⌊(dividend : ℚ) / divisor⌋ = dividend.tdiv divisor := by
  rw [Int.floor_div_cast_of_nonneg divisorNonneg, Int.floor_intCast,
    Int.tdiv_eq_ediv_of_nonneg dividendNonneg]

/-- A division of whole numbers is rounded up by adding one less than the
divisor. -/
theorem ceil_quotient (positive : 0 < divisor) :
    ⌈(dividend : ℚ) / divisor⌉ = (dividend + divisor - 1) / divisor := by
  have divides := Int.mul_ediv_add_emod (dividend + divisor - 1) divisor
  have remainderNonneg := Int.emod_nonneg (dividend + divisor - 1) positive.ne'
  have remainderSmall := Int.emod_lt_of_pos (dividend + divisor - 1) positive
  have divisorPositive : (0 : ℚ) < divisor := by
    exact_mod_cast positive
  rw [Int.ceil_eq_iff, lt_div_iff₀ divisorPositive, div_le_iff₀ divisorPositive]
  constructor
  · have below : ((dividend + divisor - 1) / divisor - 1) * divisor < dividend := by
      rw [Int.sub_mul, Int.mul_comm]
      omega
    exact_mod_cast below
  · have above : dividend ≤ (dividend + divisor - 1) / divisor * divisor := by
      rw [Int.mul_comm]
      omega
    exact_mod_cast above

theorem floor_exactTransport_of_flat (rates : SoundRates policy) (stated : policy.flatRate = true) :
    ⌊exactTransport policy distanceKm vehicles⌋ =
      (flatRateProduct policy (distanceKm.saturatingMul 2) vehicles).exact := by
  have covers := rates.covers
  have coversKept : max policy.transportRateCoversVehicles 1 = policy.transportRateCoversVehicles :=
    max_eq_left covers
  have scaleKept :
      (if policy.transportRateCoversVehicles < vehicles then
          vehicles
        else
          policy.transportRateCoversVehicles).val =
        max policy.transportRateCoversVehicles.val vehicles.val := by
    rw [← val_max]
    split
    next more => rw [max_eq_right more.le]
    next less => rw [max_eq_left (not_lt.mp less)]
  have coversPositive : (0 : ℚ) < policy.transportRateCoversVehicles.val := by
    exact_mod_cast covers
  have amount :
      exactTransport policy distanceKm vehicles =
        (((distanceKm.saturatingMul 2).val * policy.transportMinorPer100kmRoundTrip.val
              * max policy.transportRateCoversVehicles.val vehicles.val
            : Int) : ℚ)
          / ((100 * policy.transportRateCoversVehicles.val : Int) : ℚ) := by
    rw [exactTransport, if_pos stated, tripKm,
      ← div_self coversPositive.ne', max_div_div_right coversPositive.le]
    push_cast
    field_simp
  rw [amount, floor_quotient]
  · simp only [flatRateProduct, exact, coversKept, scaleKept]
  · exact Int.mul_nonneg
      (Int.mul_nonneg (distanceKm.saturatingMul 2).lower rates.flat)
      (vehicles.lower.trans (le_max_right _ _))
  · omega

theorem floor_exactFuel_of_itemised (rates : SoundRates policy)
    (derived : policy.flatRate = false) :
    ⌊exactFuel policy distanceKm vehicles⌋ =
      (fuelProduct policy (distanceKm.saturatingMul 2) vehicles).exact := by
  have amount :
      exactFuel policy distanceKm vehicles =
        (((distanceKm.saturatingMul 2).val * policy.vehicle.fuelCentilitresPer100km.val
              * policy.fuelPriceMinorPerLitre.val * vehicles.val : Int) : ℚ)
          / ((10000 : Int) : ℚ) := by
    rw [exactFuel, derived, if_neg Bool.false_ne_true, tripKm]
    push_cast
    ring
  rw [amount, floor_quotient]
  · rfl
  · exact Int.mul_nonneg (fuelOfOne_within rates).nonneg vehicles.lower
  · decide

theorem exactTolls_of_itemised (derived : policy.flatRate = false) :
    exactTolls policy distanceKm vehicles =
      ((tollsProduct policy (distanceKm.saturatingMul 2) vehicles).exact : ℚ) := by
  rw [exactTolls, derived, if_neg Bool.false_ne_true, tripKm]
  simp only [tollsProduct, exact]
  push_cast
  rfl

/-- The rooms are as many as the crew fills, rounded up. -/
theorem val_roomsFor (rates : SoundRates policy) :
    (roomsFor policy).val = ⌈(policy.crewSize.val : ℚ) / policy.crewPerRoom.val⌉ := by
  have perRoom := rates.perRoom
  have crewLower := policy.crewSize.lower
  have crewUpper := policy.crewSize.upper
  have divided : policy.crewPerRoom ≠ 0 := by
    intro none
    rw [none] at perRoom
    exact absurd perRoom (by decide)
  have widened : asU32 policy.crewPerRoom ≠ 0 := by
    rw [Ne, eq_iff_val]
    exact fun none => divided (val_injective none)
  have nonneg : 0 ≤ (policy.crewSize.val + policy.crewPerRoom.val - 1) / policy.crewPerRoom.val :=
    Int.ediv_nonneg (by omega) (by omega)
  have small : (policy.crewSize.val + policy.crewPerRoom.val - 1) / policy.crewPerRoom.val ≤ 255 :=
    Int.ediv_le_of_le_mul (by omega) (by omega)
  have quotient :
      (divCeilU32 (asU32 policy.crewSize) (asU32 policy.crewPerRoom)).val =
        (policy.crewSize.val + policy.crewPerRoom.val - 1) / policy.crewPerRoom.val := by
    rw [divCeilU32, if_neg widened, val_saturate]
    simp only [asU32]
    omega
  rw [ceil_quotient (by omega), roomsFor, if_neg divided, quotient, tryFrom,
    dif_pos ⟨nonneg, small⟩]
  rfl

theorem exactAccommodation_eq (rates : SoundRates policy) :
    exactAccommodation logistics policy distanceKm =
      ((accommodationProduct policy (roomsFor policy)
        (nightsAwayFor logistics policy distanceKm)).exact : ℚ) := by
  rw [exactAccommodation, ← val_roomsFor rates]
  simp only [accommodationProduct, exact]
  push_cast
  rfl

theorem exactPerDiem_eq :
    exactPerDiem logistics policy distanceKm =
      ((perDiemProduct policy (nightsAwayFor logistics policy distanceKm)).exact : ℚ) := by
  simp only [exactPerDiem, perDiemProduct, exact]
  push_cast
  rfl

theorem floor_exactTotal (rates : SoundRates policy) :
    ⌊exactTotal logistics policy distanceKm vehicles⌋ = ⌊exactTransport policy distanceKm vehicles⌋
        + (accommodationProduct policy (roomsFor policy)
            (nightsAwayFor logistics policy distanceKm)).exact
        + (perDiemProduct policy (nightsAwayFor logistics policy distanceKm)).exact
        + policy.fixedOverheadMinor.val := by
  rw [exactTotal, exactAccommodation_eq rates, exactPerDiem_eq,
    Int.floor_add_intCast, Int.floor_add_intCast, Int.floor_add_intCast]

theorem floor_exactTransport_of_itemised (rates : SoundRates policy)
    (derived : policy.flatRate = false) :
    ⌊exactTransport policy distanceKm vehicles⌋ =
      (fuelProduct policy (distanceKm.saturatingMul 2) vehicles).exact
        + (tollsProduct policy (distanceKm.saturatingMul 2) vehicles).exact := by
  have split :
      exactTransport policy distanceKm vehicles =
        exactFuel policy distanceKm vehicles + exactTolls policy distanceKm vehicles := by
    rw [exactTransport, derived, if_neg Bool.false_ne_true]
  rw [split, exactTolls_of_itemised derived, Int.floor_add_intCast,
    floor_exactFuel_of_itemised rates derived]

theorem fuelProduct_nonneg (rates : SoundRates policy) :
    0 ≤ (fuelProduct policy (distanceKm.saturatingMul 2) vehicles).exact :=
  Int.tdiv_nonneg (Int.mul_nonneg (fuelOfOne_within rates).nonneg vehicles.lower) (by decide)

theorem floor_exactTransport_nonneg (rates : SoundRates policy) :
    0 ≤ ⌊exactTransport policy distanceKm vehicles⌋ := by
  cases stated : policy.flatRate with
  | true =>
    rw [floor_exactTransport_of_flat rates stated]
    exact (flatRateProduct_within rates).nonneg
  | false =>
    rw [floor_exactTransport_of_itemised rates stated]
    exact Int.add_nonneg (fuelProduct_nonneg rates) (tollsProduct_within rates).nonneg

end Amounts

section Clamps

variable {first second third fourth : Int}

/-- Cutting down the parts of a sum that is cut down itself changes nothing,
as long as none of them is negative. -/
theorem saturate_add_saturate (firstNonneg : 0 ≤ first) (secondNonneg : 0 ≤ second) :
    (saturate ((saturate first : I64).val + (saturate second : I64).val) : I64) =
      saturate (first + second) := by
  rw [eq_iff_val]
  simp only [val_saturate]
  omega

theorem saturate_total (firstNonneg : 0 ≤ first) (secondNonneg : 0 ≤ second)
    (thirdNonneg : 0 ≤ third) (fourthNonneg : 0 ≤ fourth) :
    (saturate
        ((saturate first : I64).val + (saturate second : I64).val
          + (saturate third : I64).val + fourth) : I64) =
      saturate (first + second + third + fourth) := by
  rw [eq_iff_val]
  simp only [val_saturate]
  omega

/-- The margins of a total that was cut down are those of the total itself
exactly when it fits, or when both are out of range all the same. -/
theorem margins_of_saturate_iff {total offered application margin : Int}
    (totalNonneg : 0 ≤ total) (offeredUpper : offered ≤ 9223372036854775807)
    (marginUpper : margin ≤ 9223372036854775807) (marginNonneg : 0 ≤ margin)
    (applicationLower : -9223372036854775808 ≤ application) :
    ((saturate (offered - (saturate total : I64).val - application) : I64) =
          saturate (offered - total - application) ∧
        (saturate ((saturate total : I64).val + margin + application) : I64) =
          saturate (total + margin + application)) ↔
      (total ≤ 9223372036854775807 ∨ (0 ≤ margin + application ∧ offered < application)) := by
  rw [eq_iff_val, eq_iff_val]
  simp only [val_saturate]
  omega

end Clamps

section Costings

variable {logistics : ShowLogistics} {policy : TourEconomicsPolicy} {distanceKm : U32}
  {vehicles : U8}

theorem roadCost_exact (rates : SoundRates policy)
    (fuelFits :
      policy.flatRate = false →
      FuelFits policy (distanceKm.saturatingMul 2) vehicles) :
    (roadCost policy (distanceKm.saturatingMul 2) vehicles).fuelMinor =
        minorUnits (exactFuel policy distanceKm vehicles) ∧
      (roadCost policy (distanceKm.saturatingMul 2) vehicles).tollsMinor =
        minorUnits (exactTolls policy distanceKm vehicles) ∧
      (roadCost policy (distanceKm.saturatingMul 2) vehicles).transportMinor =
        minorUnits (exactTransport policy distanceKm vehicles) := by
  unfold roadCost minorUnits
  cases stated : policy.flatRate with
  | true =>
    rw [if_pos rfl, floor_exactTransport_of_flat rates stated,
      money_of_fits (flatRateProduct_within rates).fits, exactFuel,
      exactTolls, if_pos stated, if_pos stated, Int.floor_zero]
    exact ⟨rfl, rfl, rfl⟩
  | false =>
    have fuel := money_of_fits ((fuelProduct_fits_iff rates).mpr (fuelFits stated))
    have tolls := money_of_fits (@tollsProduct_within policy
        (distanceKm.saturatingMul 2) vehicles rates).fits
    rw [if_neg Bool.false_ne_true, fuel, tolls, floor_exactFuel_of_itemised rates stated,
      exactTolls_of_itemised stated, Int.floor_intCast,
      floor_exactTransport_of_itemised rates stated,
      ← saturate_add_saturate (fuelProduct_nonneg rates) (tollsProduct_within rates).nonneg]
    exact ⟨rfl, rfl, money_of_fits (fuelAndTollsSum_fits _ _)⟩

theorem accommodationMinor_exact (rates : SoundRates policy) :
    (itemisedCost logistics policy distanceKm vehicles).accommodationMinor =
      minorUnits (exactAccommodation logistics policy distanceKm) := by
  rw [exactAccommodation_eq rates, minorUnits, Int.floor_intCast]
  exact money_of_fits (accommodationProduct_within rates _ _).fits

theorem perDiemMinor_exact (rates : SoundRates policy) :
    (itemisedCost logistics policy distanceKm vehicles).perDiemMinor =
      minorUnits (exactPerDiem logistics policy distanceKm) := by
  rw [exactPerDiem_eq, minorUnits, Int.floor_intCast]
  exact money_of_fits (perDiemProduct_within rates _).fits

theorem totalCostMinor_exact (rates : SoundRates policy)
    (road :
      (roadCost policy (distanceKm.saturatingMul 2) vehicles).transportMinor =
        minorUnits (exactTransport policy distanceKm vehicles)) :
    (itemisedCost logistics policy distanceKm vehicles).totalCostMinor =
      minorUnits (exactTotal logistics policy distanceKm vehicles) := by
  have total :
      (itemisedCost logistics policy distanceKm vehicles).totalCostMinor = saturate
          ((roadCost policy (distanceKm.saturatingMul 2) vehicles).transportMinor.val
            + (itemisedCost logistics policy distanceKm vehicles).accommodationMinor.val
            + (itemisedCost logistics policy distanceKm vehicles).perDiemMinor.val
            + policy.fixedOverheadMinor.val) :=
    money_of_fits (totalCostSum_fits _ _ _)
  rw [total, road, accommodationMinor_exact rates, perDiemMinor_exact rates,
    minorUnits, minorUnits, minorUnits, minorUnits, floor_exactTotal rates,
    exactAccommodation_eq rates, exactPerDiem_eq, Int.floor_intCast,
    Int.floor_intCast]
  exact saturate_total (floor_exactTransport_nonneg rates)
    (accommodationProduct_within rates _ _).nonneg
    (perDiemProduct_within rates _).nonneg rates.overhead

theorem floor_exactTotal_nonneg (rates : SoundRates policy) :
    0 ≤ ⌊exactTotal logistics policy distanceKm vehicles⌋ := by
  rw [floor_exactTotal rates]
  exact Int.add_nonneg
    (Int.add_nonneg
      (Int.add_nonneg (floor_exactTransport_nonneg rates)
        (accommodationProduct_within rates _ _).nonneg)
      (perDiemProduct_within rates _).nonneg)
    rates.overhead

/-- With an exact total, the margins are exact where it fits, or where they
are out of range all the same. -/
theorem margins_exact_iff (rates : SoundRates policy)
    (total :
      (itemisedCost logistics policy distanceKm vehicles).totalCostMinor =
        minorUnits (exactTotal logistics policy distanceKm vehicles)) :
    ((itemisedCost logistics policy distanceKm vehicles).netMarginMinor = saturate
            (logistics.offeredFeeMinor.val - ⌊exactTotal logistics policy distanceKm vehicles⌋
              - logistics.applicationFeeMinor.val) ∧
        (itemisedCost logistics policy distanceKm vehicles).walkAwayFeeMinor = saturate
            (⌊exactTotal logistics policy distanceKm vehicles⌋ + policy.minimumMarginMinor.val
              + logistics.applicationFeeMinor.val)) ↔
      (⌊exactTotal logistics policy distanceKm vehicles⌋ ≤ 9223372036854775807 ∨
        (0 ≤ policy.minimumMarginMinor.val + logistics.applicationFeeMinor.val ∧
          logistics.offeredFeeMinor < logistics.applicationFeeMinor)) := by
  rw [netMarginMinor_eq, walkAwayFeeMinor_eq, total, minorUnits]
  exact margins_of_saturate_iff (floor_exactTotal_nonneg rates)
    logistics.offeredFeeMinor.upper policy.minimumMarginMinor.upper
    rates.margin logistics.applicationFeeMinor.lower

theorem costedExactly_of_lossFree (rates : SoundRates policy)
    (costable : Costable logistics policy distanceKm vehicles)
    (lossFree : LossFree logistics policy distanceKm vehicles) :
    CostedExactly logistics policy distanceKm vehicles
      (itemisedCost logistics policy distanceKm vehicles) := by
  obtain ⟨fuel, tolls, transport⟩ := roadCost_exact rates lossFree.fuelFits
  have total := @totalCostMinor_exact logistics _ _ _ rates transport
  obtain ⟨netMargin, walkAway⟩ := (margins_exact_iff rates total).mpr (lossFree.totalFits costable)
  exact {
    fuel := fuel
    tolls := tolls
    transport := transport
    accommodation := accommodationMinor_exact rates
    perDiem := perDiemMinor_exact rates
    overhead := rfl
    total := total
    netMargin := netMargin
    walkAway := walkAway
  }

/-- Nothing that an estimate works out leaves 128 bits exactly when its fuel
does not. -/
theorem workings_fit_iff (rates : SoundRates policy)
    (distanceKnown : logistics.distanceKm = some distanceKm)
    (vehiclesKnown : requiredVehicles policy = some vehicles) :
    (∀ product ∈ workings logistics policy, product.Fits i128Min i128Max) ↔
      (policy.flatRate = false → FuelFits policy (distanceKm.saturatingMul 2) vehicles) := by
  unfold workings
  rw [distanceKnown, vehiclesKnown]
  by_cases unpriced : (!policy.flatRate && !policy.itemised) = true
  · have noFuel :
        policy.vehicle.fuelCentilitresPer100km.val = 0 ∨ policy.fuelPriceMinorPerLitre.val = 0 := by
      rw [Bool.and_eq_true, Bool.not_eq_true', Bool.not_eq_true',
        TourEconomicsPolicy.itemised, Bool.and_eq_false_iff,
        decide_eq_false_iff_not, decide_eq_false_iff_not, lt_iff_val,
        lt_iff_val] at unpriced
      have centilitres := policy.vehicle.fuelCentilitresPer100km.lower
      have price := rates.price
      have zeroU32 : (0 : U32).val = 0 := rfl
      have zeroI64 : (0 : I64).val = 0 := rfl
      omega
    have nothing : FuelFits policy (distanceKm.saturatingMul 2) vehicles := by
      rcases noFuel with none | none <;> simp [FuelFits, none]
    simp only [if_pos unpriced, List.not_mem_nil, false_implies, implies_true, nothing]
  · simp only [if_neg unpriced, List.forall_mem_append,
      roadWorkings_fit_iff rates]
    refine and_iff_left ?_
    split
    · exact fun _ nowhere => absurd nowhere List.not_mem_nil
    · exact lineWorkings_fit rates _

/-- A valid policy costs a trip exactly if and only if the fuel of all the
vehicles fits in 128 bits and the total in 64, or what is worked out from the
total is out of range all the same. -/
theorem costing_exact_iff (valid : policy.isValid = true) :
    CostingExact logistics policy ↔
      ∀ distanceKm vehicles,
        logistics.distanceKm = some distanceKm →
        requiredVehicles policy = some vehicles →
        LossFree logistics policy distanceKm vehicles := by
  have rates := soundRates_of_isValid valid
  constructor
  · rintro ⟨fits, exact⟩ distanceKm vehicles distanceKnown vehiclesKnown
    refine ⟨(workings_fit_iff rates distanceKnown vehiclesKnown).mp fits, ?_⟩
    intro costable
    have complete := estimateShowCost_eq_complete_iff.mpr
        ⟨distanceKm, vehicles, costable, rfl⟩
    have costed := exact _ _ _ distanceKnown vehiclesKnown complete
    exact (margins_exact_iff rates costed.total).mp
      ⟨costed.netMargin, costed.walkAway⟩
  · intro lossFree
    constructor
    · cases distanceKnown : logistics.distanceKm with
      | none =>
        simp [workings, distanceKnown]
      | some distanceKm =>
        cases vehiclesKnown : requiredVehicles policy with
        | none =>
          simp [workings, distanceKnown, vehiclesKnown]
        | some vehicles =>
          exact (workings_fit_iff rates distanceKnown vehiclesKnown).mpr
            (lossFree _ _ distanceKnown vehiclesKnown).fuelFits
    · intro distanceKm vehicles cost distanceKnown vehiclesKnown complete
      obtain ⟨costedKm, costedVehicles, costable, rfl⟩ :=
        estimateShowCost_eq_complete_iff.mp complete
      obtain rfl : distanceKm = costedKm :=
        Option.some.inj (distanceKnown.symm.trans costable.distanceKnown)
      obtain rfl : vehicles = costedVehicles :=
        Option.some.inj (vehiclesKnown.symm.trans costable.vehiclesKnown)
      exact costedExactly_of_lossFree rates costable
        (lossFree _ _ distanceKnown vehiclesKnown)

theorem five_hundred_kilometres_costed_exactly :
    CostingExact (fiveHundredKilometres 400000) touringBand := by
  refine (costing_exact_iff (by decide)).mpr ?_
  intro distanceKm vehicles distanceKnown vehiclesKnown
  obtain rfl : 500 = distanceKm := Option.some.inj distanceKnown
  obtain rfl : 2 = vehicles := Option.some.inj
      ((by decide : some 2 = requiredVehicles touringBand).trans vehiclesKnown)
  exact ⟨fun _ => by decide, fun _ => .inl (by decide +kernel)⟩

/-- Eighty people in sixteen cars, at half the dearest price there is. -/
def sixteenCars : TourEconomicsPolicy :=
  { touringBand with
    vehicle := ⟨5, 900, 2147483648⟩
    maxVehicles := 16
    crewSize := 80
    fuelPriceMinorPerLitre := 4611686018427387904 }

def farAway : ShowLogistics where
  distanceKm := some 1073741824
  nightsAway := none
  offeredFeeMinor := 0
  applicationFeeMinor := 0

/-- The fuel of a convoy that overflows 128 bits comes out free. -/
theorem sixteen_cars_fuelled_free :
    ¬ ∀ (logistics : ShowLogistics) (policy : TourEconomicsPolicy),
      policy.isValid = true → CostingExact logistics policy := by
  intro exact
  have costed := (exact farAway sixteenCars (by decide)).2 1073741824 16
      (itemisedCost farAway sixteenCars 1073741824 16) rfl (by decide)
      (by decide)
  have fuel := costed.fuel
  rw [minorUnits,
    floor_exactFuel_of_itemised (soundRates_of_isValid (by decide)) rfl] at fuel
  exact absurd fuel (by decide)

end Costings

end CrowdRelay
