import Mathlib.Data.Rat.Star
import Mathlib.Tactic.FieldSimp
import CrowdRelay.PrecisionMatrix

namespace CrowdRelay

open Matrix PrecisionMatrix

/-!
# The bridge from fourteen days to thirty

A regression of the durable fans on the fans of the first fourteen days says
how much of a fortnight's growth is still there a month later.  Each pair is
learned by inverting the covariance, adding the pair's information, and
inverting back.
-/

structure Y14Y30Bridge where
  mu : Fin 2 → ℚ
  sigma : Matrix (Fin 2) (Fin 2) ℚ
  n : Nat
  residualVariance : ℚ
  deriving DecidableEq

structure BridgePair where
  y14 : ℚ
  y30 : ℚ
  deriving DecidableEq

def minBridgeConfidence : Nat := 10

/-- Below this a determinant counts as that of a singular matrix. -/
def singularCutoff : ℚ := 1 / 1000000000000

/-- The least residual variance that is used. -/
def residualFloor : ℚ := 1 / 2

def det2 (m : Matrix (Fin 2) (Fin 2) ℚ) : ℚ := m 0 0 * m 1 1 - m 0 1 * m 1 0

/-- The inverse of a matrix whose determinant is not zero. -/
def inverse2 (m : Matrix (Fin 2) (Fin 2) ℚ) : Matrix (Fin 2) (Fin 2) ℚ :=
  !![m 1 1 / det2 m, -m 0 1 / det2 m; -m 1 0 / det2 m, m 0 0 / det2 m]

/-- The design vector of a fourteen-day outcome. -/
def bridgeDesign (y14 : ℚ) : Fin 2 → ℚ := ![1, y14]

namespace Y14Y30Bridge

/-- The durable fans are taken to be the fans of the fortnight. -/
def new : Y14Y30Bridge where
  mu := ![0, 1]
  sigma := !![4, 0; 0, 4]
  n := 0
  residualVariance := 4

section Predict

variable (bridge : Y14Y30Bridge)

/-- Mean and variance of the durable fans after a fourteen-day outcome. -/
def predict (y14 : ℚ) : ℚ × ℚ :=
  let x := bridgeDesign y14
  let mean := x 0 * bridge.mu 0 + x 1 * bridge.mu 1
  let var :=
    x 0 * x 0 * bridge.sigma 0 0 + 2 * x 0 * x 1 * bridge.sigma 0 1 +
      x 1 * x 1 * bridge.sigma 1 1 + bridge.residualVariance
  let confidenceFactor := min ((bridge.n : ℚ) / minBridgeConfidence) 1
  let inflation := 1 + (1 - confidenceFactor) * 2
  (mean, max (var * inflation) (1 / 100))

/-- The residual variance that the next pair is learned with. -/
def noise : ℚ := max bridge.residualVariance residualFloor

/-- Learns one pair, unless a determinant counts as zero. -/
def update (pair : BridgePair) : Y14Y30Bridge :=
  let x := bridgeDesign pair.y14
  let sigma2 := bridge.noise
  if |det2 bridge.sigma| < singularCutoff then
    bridge
  else
    let lambda := inverse2 bridge.sigma
    let h := Matrix.of fun i j => lambda i j + x i * x j / sigma2
    if |det2 h| < singularCutoff then
      bridge
    else
      let hInv := inverse2 h
      let g := ![x 0 * pair.y30 / sigma2, x 1 * pair.y30 / sigma2]
      let priorContrib :=
        ![lambda 0 0 * bridge.mu 0 + lambda 0 1 * bridge.mu 1,
          lambda 1 0 * bridge.mu 0 + lambda 1 1 * bridge.mu 1]
      let total := ![priorContrib 0 + g 0, priorContrib 1 + g 1]
      let mu := ![hInv 0 0 * total 0 + hInv 0 1 * total 1, hInv 1 0 * total 0 + hInv 1 1 * total 1]
      let predicted := x 0 * mu 0 + x 1 * mu 1
      let resid := pair.y30 - predicted
      let alpha := 1 / max ((bridge.n : ℚ) + 1) 1
      let residualVariance := (1 - alpha) * bridge.residualVariance + alpha * resid * resid
      { mu := mu
        sigma := hInv
        n := bridge.n + 1
        residualVariance := max residualVariance residualFloor }

/-- The number of pairs that were learned. -/
def confidence : Nat := bridge.n

def slope : ℚ := bridge.mu 1

def parameterVariance (y14 : ℚ) : ℚ := spread bridge.sigma (bridgeDesign y14)

end Predict

/-- The bridge after a sequence of pairs, from the prior. -/
def learnAll (pairs : List BridgePair) : Y14Y30Bridge := pairs.foldl update new

end Y14Y30Bridge

end CrowdRelay
