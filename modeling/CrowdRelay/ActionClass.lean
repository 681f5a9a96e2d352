import CrowdRelay.MachineInt

namespace CrowdRelay

/-!
# Action classes and the disposition ladder

What an action costs, how far the agent may go with it, and the one function
that lowers a disposition to a ceiling.
-/

/-- Maximum authority granted to a bounded context. -/
inductive AutonomyLevel where
  | observe
  | recommend
  | requireApproval
  | boundedAuto
  deriving Repr, DecidableEq

/-- Result of the shared authority gate. -/
inductive PolicyDisposition where
  | observeOnly
  | recommendOnly
  | requireApproval
  | autoExecute
  | deny
  deriving Repr, DecidableEq

/-- What an action costs and how far its effects reach. -/
inductive ActionClass where
  | firstPartyReversible
  | ownedAudience
  | thirdParty
  | paid
  deriving Repr, DecidableEq

namespace ActionClass

def asStr : ActionClass → String
  | .firstPartyReversible => "first_party_reversible"
  | .ownedAudience => "owned_audience"
  | .thirdParty => "third_party"
  | .paid => "paid"

/-- The fallback when a ceiling row is missing or unreadable. -/
def safestCeiling : ActionClass → AutonomyLevel
  | .firstPartyReversible => .boundedAuto
  | .ownedAudience => .boundedAuto
  | .thirdParty => .requireApproval
  | .paid => .requireApproval

/-- True when acting reaches someone outside the workspace. -/
def isOutward : ActionClass → Bool
  | .ownedAudience => true
  | .thirdParty => true
  | .firstPartyReversible => false
  | .paid => false

end ActionClass

/-- How far a disposition actually goes, for comparison only. -/
def reach : PolicyDisposition → Nat
  | .deny => 0
  | .observeOnly => 1
  | .recommendOnly => 2
  | .requireApproval => 3
  | .autoExecute => 4

/-- The disposition a ceiling allows at most. -/
def AutonomyLevel.allowed : AutonomyLevel → PolicyDisposition
  | .observe => .observeOnly
  | .recommend => .recommendOnly
  | .requireApproval => .requireApproval
  | .boundedAuto => .autoExecute

/-- Lowers a disposition so that it cannot exceed the class ceiling. -/
def clampDisposition (disposition : PolicyDisposition)
    (ceiling : AutonomyLevel) : PolicyDisposition :=
  match disposition with
  | .deny => .deny
  | current =>
    if reach current ≤ reach ceiling.allowed then current else ceiling.allowed

theorem reach_injective : Function.Injective reach := by
  intro first second same
  cases first <;> cases second <;> first | rfl | cases same

@[simp] theorem clampDisposition_deny (ceiling : AutonomyLevel) :
    clampDisposition .deny ceiling = .deny :=
  rfl

variable (disposition : PolicyDisposition) (ceiling : AutonomyLevel)

theorem reach_clampDisposition :
    reach (clampDisposition disposition ceiling) =
      min (reach disposition) (reach ceiling.allowed) := by
  cases disposition <;> cases ceiling <;> rfl

theorem reach_clampDisposition_le :
    reach (clampDisposition disposition ceiling) ≤ reach disposition := by
  rw [reach_clampDisposition]
  exact min_le_left _ _

theorem reach_clampDisposition_le_ceiling :
    reach (clampDisposition disposition ceiling) ≤ reach ceiling.allowed := by
  rw [reach_clampDisposition]
  exact min_le_right _ _

end CrowdRelay
