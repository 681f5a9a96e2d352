import CrowdRelay.AmbiguousDelivery
import CrowdRelay.AnsweredAsks
import CrowdRelay.AskRuns
import CrowdRelay.AttestationForgery
import CrowdRelay.AttestationOrder
import CrowdRelay.AttributionOrder
import CrowdRelay.BridgeHistory
import CrowdRelay.CalibrationWidth
import CrowdRelay.CampaignPooling
import CrowdRelay.ChangePoint
import CrowdRelay.CheckpointPlacement
import CrowdRelay.CircuitOrder
import CrowdRelay.ConfidenceMass
import CrowdRelay.ContextPosterior
import CrowdRelay.ContrastSplit
import CrowdRelay.CorridorClusters
import CrowdRelay.CorridorHeadliner
import CrowdRelay.CorridorLegs
import CrowdRelay.CounterOffers
import CrowdRelay.CreditCompetition
import CrowdRelay.DraftRevision
import CrowdRelay.DrawEntries
import CrowdRelay.DropLinksApart
import CrowdRelay.ExperimentArms
import CrowdRelay.ExperimentRuns
import CrowdRelay.ExperimentVerdicts
import CrowdRelay.FatigueOrder
import CrowdRelay.InboxReplies
import CrowdRelay.JoinAskChoice
import CrowdRelay.JoinAskReadiness
import CrowdRelay.LadderRuns
import CrowdRelay.LaneOutages
import CrowdRelay.LearningReplacement
import CrowdRelay.LifecycleLadder
import CrowdRelay.LinkGates
import CrowdRelay.LiveVerdict
import CrowdRelay.LockScreen
import CrowdRelay.MeaningfulEffect
import CrowdRelay.MerchPricing
import CrowdRelay.Metacognition
import CrowdRelay.NoiseDiscount
import CrowdRelay.OfferRoundTrip
import CrowdRelay.OutreachWaves
import CrowdRelay.PartialPooling
import CrowdRelay.Plays
import CrowdRelay.PortfolioWait
import CrowdRelay.PostShowContacts
import CrowdRelay.PostingWindow
import CrowdRelay.ReceiptRuns
import CrowdRelay.Rehearsal
import CrowdRelay.RelayRuns
import CrowdRelay.ReleaseDrift
import CrowdRelay.ReplyKeywords
import CrowdRelay.ReplyRuns
import CrowdRelay.RosterCalendar
import CrowdRelay.RosterReasons
import CrowdRelay.SendingRamp
import CrowdRelay.ShowSettlement
import CrowdRelay.Slugify
import CrowdRelay.SpendCap
import CrowdRelay.StrategyRule
import CrowdRelay.StrategyRuns
import CrowdRelay.TermsAcceptance
import CrowdRelay.TourCosting
import CrowdRelay.TransportLink
import CrowdRelay.WaveDrafting
