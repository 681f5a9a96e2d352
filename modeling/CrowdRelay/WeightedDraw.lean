import Mathlib.Algebra.Order.Ring.Rat
import Mathlib.Data.List.Sort
import Mathlib.Data.Prod.Lex
import CrowdRelay.ActionPayload

namespace CrowdRelay

open MachineInt

/-!
# Weighted reward draws

A due draw is run in one transaction: the candidates are given their entries,
ranked by an exponential race, and the prizes are issued down the ranking
until they are gone.  The ticket of a fan, minus the logarithm of the keyed
hash of the fan under the seed, is an arbitrary positive rational number.
-/

inductive DrawWorkerError where
  | invalidConfiguration
  | timedOut
  | database
  | invalidDraw
  | entropy
  | arithmetic
  deriving Repr, DecidableEq

structure DrawRow where
  id : Uuid
  prizeKind : String
  eligibilityKind : String
  eligibilityRef : Option String
  eventId : Option Uuid
  admissionPoolId : Option Uuid
  rewardRuleId : Option Uuid
  winnerCount : I32
  baseEntries : I32
  entriesPerReferral : I32
  entriesPerCheckin : I32
  maxEntries : I32
  claimExpiresHours : I32
  deriving Repr, DecidableEq

/-- A fan who may win, with the counts the entries are computed from. -/
structure CandidateRow where
  fanId : Uuid
  qualifiedReferrals : I64
  concertCheckins : I64
  deriving Repr, DecidableEq

structure RankedCandidate where
  fanId : Uuid
  qualifiedReferrals : I32
  concertCheckins : I32
  checkinEntries : I32
  entryCount : I32
  selectionScore : ℚ
  deriving DecidableEq

def DrawRow.countsAreSound (draw : DrawRow) : Bool :=
  0 < draw.winnerCount &&
    0 < draw.baseEntries &&
    0 ≤ draw.entriesPerReferral &&
    0 ≤ draw.entriesPerCheckin &&
    draw.baseEntries ≤ draw.maxEntries &&
    0 < draw.claimExpiresHours &&
    ["all_active", "event_interest", "synesthesia_completion"].contains draw.eligibilityKind

def DrawRow.prizeIsNamed (draw : DrawRow) : Bool :=
  if draw.prizeKind = "admission_pass" then
    draw.eventId.isSome && draw.admissionPoolId.isSome && draw.rewardRuleId.isNone
  else if draw.prizeKind = "physical_item" then
    draw.admissionPoolId.isNone && draw.rewardRuleId.isSome
  else
    false

def DrawRow.completionTermsHold (draw : DrawRow) : Bool :=
  !(draw.eligibilityRef.all (· = "")) &&
    draw.winnerCount = 5 &&
    draw.baseEntries = 1 &&
    draw.entriesPerReferral = 0 &&
    draw.entriesPerCheckin = 0 &&
    draw.maxEntries = 1

def validateDraw (draw : DrawRow) : Except DrawWorkerError Unit :=
  if !draw.countsAreSound then
    .error .invalidDraw
  else if !draw.prizeIsNamed then
    .error .invalidDraw
  else if draw.eligibilityKind = "event_interest" ∧ draw.eventId = none then
    .error .invalidDraw
  else if draw.eligibilityKind = "synesthesia_completion" ∧
      draw.completionTermsHold = false then
    .error .invalidDraw
  else
    .ok ()

abbrev Seed := Vector (BitVec 8) 32

/-- The ticket each fan draws under a seed. -/
abbrev Tickets := Seed → Uuid → { ticket : ℚ // 0 < ticket }

/-- The value of a checked operation, or the arithmetic error. -/
def orArithmetic {α : Type} : Option α → Except DrawWorkerError α
  | some value => .ok value
  | none => .error .arithmetic

section Ranking

variable (tickets : Tickets) (draw : DrawRow) (seed : Seed)

def weightedScore (fanId : Uuid)
    (entryCount : I32) : Except DrawWorkerError ℚ :=
  if entryCount ≤ 0 then
    .error .invalidDraw
  else
    .ok ((tickets seed fanId).val / (entryCount.val : ℚ))

/-- Entries for referrals come first, check-ins fill what the cap leaves. -/
def rankCandidate (candidate : CandidateRow) :
    Except DrawWorkerError RankedCandidate := do
  let qualifiedReferrals : I32 ← orArithmetic (Ranged.tryFrom candidate.qualifiedReferrals.val)
  let availableBonusEntries ← orArithmetic (draw.maxEntries.checkedSub draw.baseEntries)
  let earnedByReferrals ← orArithmetic (qualifiedReferrals.checkedMul draw.entriesPerReferral)
  let referralEntries := min earnedByReferrals availableBonusEntries
  let concertCheckins : I32 ← orArithmetic (Ranged.tryFrom candidate.concertCheckins.val)
  let remainingEntries ← orArithmetic (availableBonusEntries.checkedSub referralEntries)
  let earnedByCheckins ← orArithmetic (concertCheckins.checkedMul draw.entriesPerCheckin)
  let checkinEntries := min earnedByCheckins remainingEntries
  let entryCount ←
    orArithmetic ((draw.baseEntries.checkedAdd referralEntries).bind
      fun value => value.checkedAdd checkinEntries)
  let selectionScore ← weightedScore tickets seed candidate.fanId entryCount
  .ok {
    fanId := candidate.fanId
    qualifiedReferrals := qualifiedReferrals
    concertCheckins := concertCheckins
    checkinEntries := checkinEntries
    entryCount := entryCount
    selectionScore := selectionScore
  }

def rankCandidates (candidates : List CandidateRow) :
    Except DrawWorkerError (List RankedCandidate) :=
  candidates.mapM (rankCandidate tickets draw seed)

end Ranking

def compareCandidates (left right : RankedCandidate) : Ordering :=
  (compare left.selectionScore right.selectionScore).then (compare left.fanId right.fanId)

variable (candidates : List RankedCandidate)

/-- The ranking: the smallest score first, then the smallest fan id. -/
def sortCandidates : List RankedCandidate :=
  candidates.insertionSort fun left right =>
    (compareCandidates left right).isLE = true

def totalEntries : Except DrawWorkerError I64 :=
  candidates.foldlM
    (fun total candidate =>
      orArithmetic (Ranged.tryFrom (total.val + candidate.entryCount.val)))
    0

structure AdmissionPool where
  eventId : Uuid
  active : Bool
  capacity : I32
  issuedCount : I32
  reservedCount : I32
  deriving Repr, DecidableEq

/-- A pass that was not paid for, by its unique key. -/
structure AdmissionPass where
  admissionPoolId : Uuid
  fanId : Uuid
  deriving Repr, DecidableEq

structure PhysicalRule where
  itemName : String
  sku : String
  expiresDays : I32
  deriving Repr, DecidableEq

structure RewardGrant where
  rewardRuleId : Uuid
  fanId : Uuid
  qualificationKey : String
  deriving Repr, DecidableEq

structure InventoryAllocation where
  reservationId : Uuid
  variantId : Uuid
  unitsPerWinner : I32
  deriving Repr, DecidableEq

structure ReservationItem where
  reservationId : Uuid
  variantId : Uuid
  quantity : I32
  deriving Repr, DecidableEq

/-- The rows of one workspace that a draw reads and writes. -/
structure DrawLedger where
  admissionPools : Uuid → Option AdmissionPool
  admissionPasses : List AdmissionPass
  /-- the active rules of physical items, as the query finds them -/
  physicalRules : Uuid → Option PhysicalRule
  rewardGrants : List RewardGrant
  inventoryAllocations : Uuid → Option InventoryAllocation
  reservationItems : List ReservationItem
  releasedReservations : List Uuid
  drawProofsEnabled : Bool

structure DrawWinner where
  fanId : Uuid
  winnerRank : I32
  deriving Repr, DecidableEq

/-- Insert a row unless its key is taken. -/
def insertOnConflictDoNothing {Row : Type} [DecidableEq Row] (row : Row)
    (table : List Row) : Option (List Row) :=
  if row ∈ table then none else some (row :: table)

section Issuing

variable {Row : Type} [rowEq : DecidableEq Row]

/-- Where the loop over the ranking stands. -/
structure IssueState (Row : Type) where
  table : List Row
  selected : Nat
  winners : List DrawWinner

/-- Offer the prize to one candidate, which may have to be `prepared` first;
a taken key passes them over. -/
def issueStep (prepared : Uuid → Except DrawWorkerError Unit) (rowOf : Uuid → Row)
    (state : IssueState Row) (candidate : RankedCandidate) :
    Except DrawWorkerError (IssueState Row) := do
  prepared candidate.fanId
  match insertOnConflictDoNothing (rowOf candidate.fanId) state.table with
  | none => .ok state
  | some table =>
    let selected := state.selected + 1
    let winnerRank ← orArithmetic (Ranged.tryFrom (selected : Int))
    .ok {
      table := table
      selected := selected
      winners := state.winners ++ [⟨candidate.fanId, winnerRank⟩]
    }

def issueWinners (prepared : Uuid → Except DrawWorkerError Unit) (rowOf : Uuid → Row)
    (target : Nat) :
    List RankedCandidate →
    IssueState Row →
    Except DrawWorkerError (IssueState Row)
  | [], state => .ok state
  | candidate :: rest, state =>
    if target ≤ state.selected then
      .ok state
    else do
      let next ← issueStep prepared rowOf state candidate
      issueWinners prepared rowOf target rest next

end Issuing

/-- The ledger after the prizes were issued, with who won. -/
structure IssuedPrizes where
  ledger : DrawLedger
  selected : Nat
  winners : List DrawWinner

def AdmissionPool.available (pool : AdmissionPool) : I32 :=
  (pool.capacity.saturatingSub pool.issuedCount).saturatingSub pool.reservedCount

/-- How many passes a draw issues at most. -/
def DrawRow.admissionTarget (draw : DrawRow) (pool : AdmissionPool) : Nat :=
  (max (min draw.winnerCount pool.available) 0).val.toNat

variable (ledger : DrawLedger)

def DrawLedger.activePool
    (poolId eventId : Uuid) : Option AdmissionPool :=
  (ledger.admissionPools poolId).filter fun pool =>
    pool.eventId = eventId && pool.active

/-- Count the issued passes into the pool, within the width of the column. -/
def countIssued (poolId : Uuid) (pool : AdmissionPool)
    (selected : Nat) : Except DrawWorkerError DrawLedger := do
  let selectedPasses : I32 ← orArithmetic (Ranged.tryFrom (selected : Int))
  match pool.issuedCount.checkedAdd selectedPasses with
  | none => .error .database
  | some issuedCount =>
    .ok {
      ledger with
      admissionPools :=
        Function.update ledger.admissionPools poolId (some { pool with issuedCount := issuedCount })
    }

/-- The clock, in seconds, as it is read when the loop reaches a fan. -/
abbrev Clock := Uuid → Int

def lastCalendarSecond : Int := 253402300799

variable (clock : Clock) (draw : DrawRow)

/-- The time a pass has to be claimed by has to be on the calendar. -/
def claimExpiresAt
    (fanId : Uuid) : Except DrawWorkerError Unit :=
  if clock fanId + draw.claimExpiresHours.val * 3600 ≤ lastCalendarSecond then
    .ok ()
  else
    .error .arithmetic

def issueAdmissionWinners (candidates : List RankedCandidate)
    (ledger : DrawLedger) : Except DrawWorkerError IssuedPrizes :=
  match draw.eventId, draw.admissionPoolId with
  | some eventId, some poolId =>
    match ledger.activePool poolId eventId with
    | none => .error .invalidDraw
    | some pool => do
        let issued ←
          issueWinners (claimExpiresAt clock draw)
            (AdmissionPass.mk poolId) (draw.admissionTarget pool)
            candidates ⟨ledger.admissionPasses, 0, []⟩
        let counted ← countIssued ledger poolId pool issued.selected
        .ok {
          ledger := { counted with admissionPasses := issued.table }
          selected := issued.selected
          winners := issued.winners
        }
  | _, _ => .error .invalidDraw

/-- Cut the reserved stock of a draw down to what its winners need. -/
def reconcilePhysicalInventoryReservation (selected : Nat)
    (ledger : DrawLedger) : Except DrawWorkerError DrawLedger := do
  let selectedItems : I32 ← orArithmetic (Ranged.tryFrom (selected : Int))
  match ledger.inventoryAllocations draw.id with
  | none => .ok ledger
  | some allocation =>
    let required ← orArithmetic (selectedItems.checkedMul allocation.unitsPerWinner)
    let isAllocated (item : ReservationItem) : Bool :=
      item.reservationId = allocation.reservationId && item.variantId = allocation.variantId
    if required = 0 then
      .ok {
        ledger with
        reservationItems := ledger.reservationItems.filter (!isAllocated ·)
        releasedReservations := allocation.reservationId :: ledger.releasedReservations
      }
    else
      .ok {
        ledger with
        reservationItems :=
          ledger.reservationItems.map fun item =>
            if isAllocated item then { item with quantity := min item.quantity required } else item
      }

def DrawRow.qualificationKey (draw : DrawRow) : String := "weighted_draw:" ++ uuidText draw.id

def DrawRow.grantOf
    (ruleId fanId : Uuid) : RewardGrant where
  rewardRuleId := ruleId
  fanId := fanId
  qualificationKey := draw.qualificationKey

def issuePhysicalWinners (candidates : List RankedCandidate)
    (ledger : DrawLedger) : Except DrawWorkerError IssuedPrizes :=
  match draw.rewardRuleId with
  | none => .error .invalidDraw
  | some ruleId =>
    match ledger.physicalRules ruleId with
    | none => .error .invalidDraw
    | some _ =>
      if draw.winnerCount < 0 then
        .error .arithmetic
      else do
        let issued ←
          issueWinners (fun _ => .ok ()) (draw.grantOf ruleId)
            draw.winnerCount.val.toNat candidates
            ⟨ledger.rewardGrants, 0, []⟩
        let reconciled ←
          reconcilePhysicalInventoryReservation draw issued.selected
            { ledger with rewardGrants := issued.table }
        .ok {
          ledger := reconciled
          selected := issued.selected
          winners := issued.winners
        }

structure DrawSummary where
  eligibleCount : I32
  totalEntries : I64
  selectedWinners : I32
  deriving Repr, DecidableEq

/-- The ranks of the recorded winners are 1, 2, 3 and so on. -/
def ranksAreConsecutive : Nat → List DrawWinner → Bool
  | _, [] => true
  | index, winner :: rest =>
    winner.winnerRank.val = (index : Int) + 1 && ranksAreConsecutive (index + 1) rest

def winnerSnapshotIsSound (winners : List DrawWinner)
    (expectedCount : I32) : Bool :=
  (winners.length : Int) = expectedCount.val &&
    ranksAreConsecutive 0
      (winners.insertionSort fun left right =>
        left.winnerRank ≤ right.winnerRank)

structure DrawRun where
  ledger : DrawLedger
  winners : List DrawWinner
  summary : DrawSummary

section Execution

variable (tickets : Tickets) (clock : Clock) (draw : DrawRow) (seed : Seed)

def issuePrizes (candidates : List RankedCandidate)
    (ledger : DrawLedger) : Except DrawWorkerError IssuedPrizes :=
  if draw.prizeKind = "admission_pass" then
    issueAdmissionWinners clock draw candidates ledger
  else if draw.prizeKind = "physical_item" then
    issuePhysicalWinners draw candidates ledger
  else
    .error .invalidDraw

variable (rawCandidates : List CandidateRow)

def executeDraw
    (ledger : DrawLedger) : Except DrawWorkerError DrawRun := do
  validateDraw draw
  let ranked ← rankCandidates tickets draw seed rawCandidates
  let candidates := sortCandidates ranked
  let total ← totalEntries candidates
  let issued ← issuePrizes clock draw candidates ledger
  let eligibleCount ← orArithmetic (Ranged.tryFrom (candidates.length : Int))
  let selectedWinners ← orArithmetic (Ranged.tryFrom (issued.selected : Int))
  if ledger.drawProofsEnabled &&
      !winnerSnapshotIsSound issued.winners selectedWinners then
    .error .invalidDraw
  else
    .ok {
      ledger := issued.ledger
      winners := issued.winners
      summary := ⟨eligibleCount, total, selectedWinners⟩
    }

/-- What a tick leaves behind: a failed run is rolled back. -/
structure ProcessedDraw where
  ledger : DrawLedger
  winners : List DrawWinner
  failure : Option DrawWorkerError

def processOne
    (ledger : DrawLedger) : ProcessedDraw :=
  match executeDraw tickets clock draw seed rawCandidates ledger with
  | .ok run => ⟨run.ledger, run.winners, none⟩
  | .error failure => ⟨ledger, [], some failure⟩

end Execution

end CrowdRelay
