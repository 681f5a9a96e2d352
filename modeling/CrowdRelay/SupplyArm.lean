import CrowdRelay.SupplyCandidates

namespace CrowdRelay

/-!
# The content-supply arm

Every candidate passes the organic funnel, the routing of the cold start, the
delivery-lane gate and the pacing of the relay pushes, in that order, before
it is persisted.
-/

/-! ## The funnel -/

inductive OrganicFunnelDirective where
  | expandReach
  | repairConversion
  | repairConfirmation
  | activateFans
  | retainFans
  | multiplyReferrals
  deriving Repr, DecidableEq

namespace SupplyCandidate

variable (candidate : SupplyCandidate)

def fansOut : Bool :=
  candidate.decisionKind = .relayOwnedPost || candidate.decisionKind = .dropSurgeFanout

def contentSupplyNetNewReach : Bool :=
  candidate.fansOut &&
    match candidate.content with
    | .agentRun templateId =>
      templateId = "community-engager" || templateId = "community-repost"
    | .agentContent templateId _ => templateId = some "social-post"
    | .communityEngagement => true
    | .signalPush _ _ | .sourceCampaign | .contentArtifact _ => false

def contentSupplyOwnedFanDelivery : Bool :=
  candidate.fansOut &&
    match candidate.content with
    | .signalPush _ _ | .sourceCampaign => true
    | .agentContent templateId _ =>
      templateId = some "telegram-poster" || templateId = some "discord-poster"
    | .agentRun _ | .communityEngagement | .contentArtifact _ => false

variable (control : Option OrganicFunnelDirective)

def funnelAllowsContentSupply : Bool :=
  match control with
  | none => true
  | some .expandReach => !candidate.contentSupplyOwnedFanDelivery
  | some .repairConversion
  | some .repairConfirmation
  | some .multiplyReferrals =>
    !candidate.contentSupplyNetNewReach && !candidate.contentSupplyOwnedFanDelivery
  | some .activateFans
  | some .retainFans => !candidate.contentSupplyNetNewReach

def coldStartSocialPlatform : Option String :=
  match candidate.decisionKind, candidate.content with
  | .dropSurgeFanout, .agentContent (some templateId) platform =>
    if templateId = "social-post" then platform else none
  | _, _ => none

def coldStartSocialIsExecutable
    (executablePlatforms : List String) : Bool :=
  if control = some .expandReach then
    match candidate.coldStartSocialPlatform with
    | none => true
    | some platform =>
      executablePlatforms.any fun allowed =>
        allowed.toList.map Char.toLower = platform.toList.map Char.toLower
  else
    true

end SupplyCandidate

/-! ## The lane gate -/

inductive LaneScope where
  | community
  | owned
  deriving Repr, DecidableEq

structure DeliveryLaneKey where
  scope : LaneScope
  lane : String
  deriving Repr, DecidableEq

inductive LaneVerdict where
  | quiet
  | delivering
  | deliveringPartly
  | heldForPerson
  | rateLimited
  | failing
  | queued
  deriving Repr, DecidableEq

/-- How planning may use a lane's measured state. -/
inductive PlanningAvailability where
  | isOpen
  | probe
  | busy
  | blocked
  deriving Repr, DecidableEq

def LaneVerdict.planningAvailability : LaneVerdict → PlanningAvailability
  | .delivering => .isOpen
  | .quiet => .probe
  | .queued => .busy
  | .deliveringPartly | .heldForPerson | .rateLimited | .failing => .blocked

def deliveryLaneForCandidate (communities : List CommunityRelayTarget)
    (candidate : SupplyCandidate) : Option DeliveryLaneKey :=
  if candidate.fansOut then
    match candidate.subject with
    | .targetCommunity targetId =>
      (communities.find? fun target => target.targetId = targetId).map
        fun target => ⟨.community, target.platform⟩
    | _ =>
      match candidate.decisionKind, candidate.content with
      | .dropSurgeFanout, .agentContent _ platform =>
        platform.map fun platform =>
          ⟨.owned, if platform = "discord" then "discord_channel" else platform⟩
      | _, _ => none
  else
    none

structure DeliveryLaneGate where
  verdicts : DeliveryLaneKey → Option LaneVerdict
  probed : Finset DeliveryLaneKey

namespace DeliveryLaneGate

variable (gate : DeliveryLaneGate)

/-- A lane the ledger has no verdict for is quiet. -/
def availability
    (key : DeliveryLaneKey) : PlanningAvailability :=
  ((gate.verdicts key).getD .quiet).planningAvailability

/-- Whether the lane may take the candidate; a quiet lane is probed once. -/
def allowsCandidate (communities : List CommunityRelayTarget)
    (candidate : SupplyCandidate) : DeliveryLaneGate × Bool :=
  match deliveryLaneForCandidate communities candidate with
  | none => (gate, true)
  | some key =>
    match gate.availability key with
    | .isOpen => (gate, true)
    | .probe => ({ gate with probed := insert key gate.probed }, key ∉ gate.probed)
    | .busy | .blocked => (gate, false)

end DeliveryLaneGate

/-! ## The arm -/

/-- What came of persisting a candidate, the store having answered. -/
inductive PersistOutcome where
  | stored (outcome : DecisionActionOutcome)
  | conflict (reason : Option String)
  deriving Repr, DecidableEq

def PersistOutcome.answer : PersistOutcome → RepositoryAnswer
  | .stored outcome => .ok (persistenceOf outcome)
  | .conflict none => .error .conflict
  | .conflict (some reason) => .error (.conflictBecause reason)

/-- The store created an action, and did not find an earlier one. -/
def PersistOutcome.creates : PersistOutcome → Bool
  | .stored (.actionReady _ _ inserted) => inserted
  | .stored .throttled
  | .stored (.noAction _)
  | .stored .actionConflict
  | .conflict _ => false

/-- What the arm loads before it looks at a candidate. -/
structure SupplyReads where
  letters : LetterTables
  now : OffsetDateTime
  communities : List CommunityRelayTarget
  control : Option OrganicFunnelDirective
  executablePlatforms : List String

structure SupplyArm where
  cycle : CycleState
  laneGate : DeliveryLaneGate
  recentRelays : List RecentRelayPush

/-- How far a candidate came. -/
inductive SupplyVerdict where
  | heldByFunnel
  | heldByColdStart
  | heldByLane
  | heldByPacing
  | persisted (entry : PersistEntry)

structure SupplyEntry where
  candidate : SupplyCandidate
  verdict : SupplyVerdict

/-- An action was created for the candidate. -/
def SupplyEntry.created (entry : SupplyEntry) : Bool :=
  match entry.verdict with
  | .persisted persisted =>
    match persisted.answer with
    | .ok stored => stored.actionCreated
    | .error _ => false
  | _ => false

def SupplyCandidate.relayPush?
    (candidate : SupplyCandidate) : Option (String × String) :=
  match candidate.decisionKind, candidate.content with
  | .relayOwnedPost, .signalPush title body => some (title, body)
  | _, _ => none

structure SupplyEvent where
  candidate : SupplyCandidate
  outcome : PersistOutcome

section Step

variable (reads : SupplyReads)

def passesFunnel (candidate : SupplyCandidate) : Bool :=
  candidate.funnelAllowsContentSupply reads.control &&
    candidate.coldStartSocialIsExecutable reads.control reads.executablePlatforms

variable (candidate : SupplyCandidate)

/-- No push raised lately stands in the way of a relay push. -/
def pacingAllows
    (recent : List RecentRelayPush) : Bool :=
  match candidate.relayPush? with
  | none => true
  | some (title, body) =>
    relayPushVerdict reads.letters title body recent reads.now = .send

/-- A push that came of an action is remembered for the rest of the cycle. -/
def rememberRelay (actionId : Option Uuid)
    (recent : List RecentRelayPush) : List RecentRelayPush :=
  match actionId, candidate.relayPush? with
  | some _, some (title, body) => recent ++ [⟨reads.now, title, body⟩]
  | _, _ => recent

def PersistEntry.actionId? (entry : PersistEntry) : Option Uuid :=
  match entry.result with
  | .ok actionId => actionId
  | .error _ => none

variable (arm : SupplyArm) (event : SupplyEvent)

def persistStep : SupplyArm × SupplyEntry :=
  let persisted := persist arm.cycle event.candidate.toDecisionCandidate event.outcome.answer
  ({ arm with
      cycle := persisted.1
      recentRelays := rememberRelay reads event.candidate persisted.2.actionId? arm.recentRelays },
    ⟨event.candidate, .persisted persisted.2⟩)

/-- The lane gate, then the pacing. -/
def routeStep : SupplyArm × SupplyEntry :=
  let gated := arm.laneGate.allowsCandidate reads.communities event.candidate
  let arm := { arm with laneGate := gated.1 }
  if !gated.2 then
    (arm, ⟨event.candidate, .heldByLane⟩)
  else if !pacingAllows reads event.candidate arm.recentRelays then
    (arm, ⟨event.candidate, .heldByPacing⟩)
  else
    persistStep reads arm event

def supplyStep : SupplyArm × SupplyEntry :=
  if !event.candidate.funnelAllowsContentSupply reads.control then
    (arm, ⟨event.candidate, .heldByFunnel⟩)
  else if !event.candidate.coldStartSocialIsExecutable reads.control
      reads.executablePlatforms then
    (arm, ⟨event.candidate, .heldByColdStart⟩)
  else
    routeStep reads arm event

/-- The arm's way through its candidates, newest source first. -/
def supplyArm : Machine.Transducer SupplyArm SupplyEvent SupplyEntry where
  step := supplyStep reads

end Step

/-! ## What one candidate does -/

section Specs

variable {reads : SupplyReads} {arm : SupplyArm} {event : SupplyEvent}

@[simp] theorem created_persistStep :
    (persistStep reads arm event).2.created = event.outcome.creates := by
  unfold persistStep SupplyEntry.created
  cases event.outcome with
  | stored outcome => cases outcome <;> rfl
  | conflict reason => cases reason <;> rfl

theorem supplyStep_of_passes (passes : passesFunnel reads event.candidate = true) :
    supplyStep reads arm event = routeStep reads arm event := by
  simp only [passesFunnel, Bool.and_eq_true] at passes
  simp only [supplyStep, passes.1, passes.2, Bool.not_true, Bool.false_eq_true, ↓reduceIte]

theorem supplyStep_of_held (held : passesFunnel reads event.candidate = false) :
    (supplyStep reads arm event).1 = arm ∧
      (supplyStep reads arm event).2.created = false ∧
      (supplyStep reads arm event).2.verdict ≠ .heldByLane := by
  unfold supplyStep
  split
  · exact ⟨rfl, rfl, SupplyVerdict.noConfusion⟩
  · rename_i allowed
    split
    · exact ⟨rfl, rfl, SupplyVerdict.noConfusion⟩
    · rename_i executable
      simp only [Bool.not_eq_true', Bool.not_eq_false] at allowed executable
      simp [passesFunnel, allowed, executable] at held

@[simp] theorem candidate_supplyStep :
    (supplyStep reads arm event).2.candidate = event.candidate := by
  unfold supplyStep routeStep
  dsimp only
  split
  · rfl
  · split
    · rfl
    · split
      · rfl
      · split <;> rfl

theorem actionId?_isSome_of_creates (cycle : CycleState) (candidate : DecisionCandidate)
    {outcome : PersistOutcome} (creates : outcome.creates = true) :
    (persist cycle candidate outcome.answer).2.actionId?.isSome = true := by
  cases outcome with
  | stored outcome =>
    cases outcome with
    | actionReady decisionCreated actionId inserted => rfl
    | throttled => cases creates
    | noAction decisionCreated => cases creates
    | actionConflict => cases creates
  | conflict reason => cases creates

theorem relayPush?_eq_none_of_lane {communities : List CommunityRelayTarget}
    {candidate : SupplyCandidate} {key : DeliveryLaneKey}
    (inLane : deliveryLaneForCandidate communities candidate = some key) :
    candidate.relayPush? = none := by
  unfold SupplyCandidate.relayPush?
  split
  · rename_i title body isRelay isPush
    have addressed := (candidate.relayPush title body isPush isRelay).1
    unfold deliveryLaneForCandidate at inLane
    split at inLane
    · split at inLane
      · rename_i id isCommunity
        exact absurd isCommunity (addressed id)
      · split at inLane
        · rename_i isSurge _
          rw [isRelay] at isSurge
          cases isSurge
        · cases inLane
    · cases inLane
  · rfl

end Specs

end CrowdRelay
