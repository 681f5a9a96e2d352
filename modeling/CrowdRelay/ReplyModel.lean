import Mathlib.Algebra.Order.Ring.Rat
import CrowdRelay.LiveOpportunity
import CrowdRelay.StampOrder

namespace CrowdRelay

open Watermark

/-!
# The reply probability model

A hierarchical Beta-Bernoulli model of who answers, and what it is taught
with: one outcome for every outbound interaction, observed when the first
inbound one follows it or when thirty days have passed without any.
-/

structure BetaPosterior where
  alpha : ℚ
  beta : ℚ
  n : Nat
  deriving DecidableEq

namespace BetaPosterior

def fromMean (mean pseudoObservations : ℚ) : BetaPosterior :=
  let m := max (1 / 1000) (min mean (999 / 1000))
  let n := max pseudoObservations 1
  { alpha := m * n
    beta := (1 - m) * n
    n := 0 }

def update (posterior : BetaPosterior) (success : Bool) : BetaPosterior :=
  if success then
    { posterior with
      alpha := posterior.alpha + 1
      n := posterior.n + 1 }
  else
    { posterior with
      beta := posterior.beta + 1
      n := posterior.n + 1 }

end BetaPosterior

structure HierarchicalBetaPosterior where
  global : BetaPosterior
  byKind : String → Option BetaPosterior
  byTarget : String → Option BetaPosterior

namespace HierarchicalBetaPosterior

def updateEntry (entries : String → Option BetaPosterior) (key : String) (prior : BetaPosterior)
    (success : Bool) : String → Option BetaPosterior :=
  fun query =>
    if query = key then some (((entries key).getD prior).update success) else entries query

/-- Children start from their parent as it was before the observation. -/
def update (posterior : HierarchicalBetaPosterior) (kind targetKey : Option String)
    (success : Bool) : HierarchicalBetaPosterior :=
  let globalPrior := { posterior.global with n := 0 }
  let targetPrior :=
    match kind.bind posterior.byKind with
    | some known => { known with n := 0 }
    | none => globalPrior
  { global := posterior.global.update success
    byKind :=
      match kind with
      | some kind => updateEntry posterior.byKind kind globalPrior success
      | none => posterior.byKind
    byTarget :=
      match targetKey with
      | some target => updateEntry posterior.byTarget target targetPrior success
      | none => posterior.byTarget }

end HierarchicalBetaPosterior

structure ReplyOutcome where
  targetKind : String
  targetId : String
  observedPositive : Bool
  disposition : String
  deriving Repr, DecidableEq

structure ReplyProbabilityModel where
  posterior : HierarchicalBetaPosterior
  modelVersion : Nat
  featureVersion : Nat

namespace ReplyProbabilityModel

def new : ReplyProbabilityModel :=
  { posterior :=
      { global := .fromMean (1 / 10) 10
        byKind := fun _ => none
        byTarget := fun _ => none }
    modelVersion := 1
    featureVersion := 1 }

def named (key : String) : Option String := if key = "" then none else some key

def update (model : ReplyProbabilityModel)
    (outcome : ReplyOutcome) : ReplyProbabilityModel :=
  if outcome.targetKind = "" ∧ outcome.targetId = "" then
    model
  else
    { model with
      posterior :=
        model.posterior.update (named outcome.targetKind)
          (named outcome.targetId) outcome.observedPositive }

def updateAll (model : ReplyProbabilityModel)
    (outcomes : List ReplyOutcome) : ReplyProbabilityModel :=
  outcomes.foldl update model

end ReplyProbabilityModel

/-- `positive` teaches a yes, everything else a no. -/
def dispositionToLabel (disposition : String) : Bool := disposition = "positive"

inductive InteractionDirection where
  | outbound
  | inbound
  deriving Repr, DecidableEq

/-- The columns of a target that its interactions are joined with. -/
structure ReplyTarget where
  id : String
  targetKind : String
  deriving Repr, DecidableEq

structure OutreachInteraction where
  id : Nat
  target : ReplyTarget
  direction : InteractionDirection
  disposition : String
  occurredAt : OffsetDateTime
  deriving Repr, DecidableEq

/-- How long a pitch waits for its answer: thirty days. -/
def noReplyWindow : Int := 2592000000000000

/-- What one pitch has to teach, and when it became known. -/
structure ReplyLesson where
  pitch : Nat
  observedAt : OffsetDateTime
  replied : Bool
  outcome : ReplyOutcome
  deriving Repr, DecidableEq

variable (rows : List OutreachInteraction) (outbound : OutreachInteraction)

/-- The first inbound interaction of the target since the pitch. -/
def firstReply : Option OutreachInteraction :=
  (inStampOrder OutreachInteraction.occurredAt
    (rows.filter fun interaction =>
      interaction.target.id = outbound.target.id ∧
        interaction.direction = .inbound ∧
        outbound.occurredAt ≤ interaction.occurredAt)).head?

/-- The lesson of one pitch, whether its time has come or not. -/
def lessonOf : ReplyLesson :=
  let taught (disposition : String) : ReplyOutcome :=
    { targetKind := outbound.target.targetKind
      targetId := outbound.target.id
      observedPositive := dispositionToLabel disposition
      disposition := disposition }
  match firstReply rows outbound with
  | some reply =>
    { pitch := outbound.id
      observedAt := reply.occurredAt
      replied := true
      outcome := taught reply.disposition }
  | none =>
    { pitch := outbound.id
      observedAt := outbound.occurredAt + noReplyWindow
      replied := false
      outcome := taught "none" }

/-- The lessons of all pitches, in the order of the table. -/
def observedLessons (rows : List OutreachInteraction) : List ReplyLesson :=
  (rows.filter fun row => row.direction = .outbound).map (lessonOf rows)

/-- Only where a reply arrived, or thirty days have passed since the pitch. -/
def ReplyLesson.matured (lesson : ReplyLesson) (now : OffsetDateTime) : Bool :=
  lesson.replied || lesson.observedAt - noReplyWindow < now - noReplyWindow

variable (now : OffsetDateTime)

/-- What the loader reads: everything, or what is past the checkpoint. -/
def loadOutreachReplyOutcomes
    (since : Option OffsetDateTime) : List ReplyLesson :=
  inStampOrder ReplyLesson.observedAt
    ((observedLessons rows).filter fun lesson =>
      lesson.matured now ∧ ∀ stamp ∈ since, stamp < lesson.observedAt)

structure TaughtModel where
  model : ReplyProbabilityModel
  lessons : List ReplyLesson

namespace TaughtModel

def untaught : TaughtModel :=
  { model := .new
    lessons := [] }

def teach (taught : TaughtModel)
    (lessons : List ReplyLesson) : TaughtModel :=
  { model := taught.model.updateAll (lessons.map ReplyLesson.outcome)
    lessons := taught.lessons ++ lessons }

end TaughtModel

/-- The saved state of the module and when it was saved. -/
structure BrainState where
  state : TaughtModel
  updatedAt : OffsetDateTime

/-- The checkpoint with what was observed since, or all of history. -/
def loadReplyModel (checkpoint : Option BrainState) (rows : List OutreachInteraction)
    (now : OffsetDateTime) : TaughtModel :=
  match checkpoint with
  | some saved =>
    saved.state.teach (loadOutreachReplyOutcomes rows now (some saved.updatedAt))
  | none => TaughtModel.untaught.teach (loadOutreachReplyOutcomes rows now none)

def coldStart : TaughtModel := loadReplyModel none rows now

end CrowdRelay
