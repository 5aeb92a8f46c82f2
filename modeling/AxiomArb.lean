import AxiomArb.State.Restriction
import AxiomArb.State.FollowUp
import AxiomArb.AppLive.Startup
import AxiomArb.AppLive.Replay
import AxiomArb.AppLive.AtMostOnce
import AxiomArb.AppLive.Backlog
import AxiomArb.State.Versions
import AxiomArb.State.References
import AxiomArb.State.FullSet
import AxiomArb.State.Discovery
import AxiomArb.State.Reconciled
import AxiomArb.AppLive.Drain
import AxiomArb.AppLive.Coalescing
import AxiomArb.Execution.CtfTracking
import AxiomArb.AppLive.DurableRecords
import AxiomArb.AppLive.ReconcileFirst
import AxiomArb.Persistence.AdoptionHistory
import AxiomArb.AppLive.OperatorRevision
import AxiomArb.AppLive.StrategyMigration
import AxiomArb.AppLive.ConfigInStep
import AxiomArb.AppLive.TracedRevisions
import AxiomArb.AppLive.PendingRefs
import AxiomArb.AppLive.Resubmission
import AxiomArb.AppLive.CrashPoints
import AxiomArb.AppLive.PendingRestart
import AxiomArb.AppLive.SnapshotDispatch
import AxiomArb.Execution.CtfSettlement
import AxiomArb.Execution.Sink
import AxiomArb.AppLive.AcceptedRecords
import AxiomArb.Persistence.FamilyView
import AxiomArb.AppLive.KeptRecords
import AxiomArb.AppLive.EligibleFamilies
import AxiomArb.Execution.Signing
import AxiomArb.VenuePolymarket.SignedOrder
import AxiomArb.StrategyNegRisk.Exposure
import AxiomArb.AppLive.RevisionContent
import AxiomArb.AppLive.StartupTargets
import AxiomArb.AppLive.ResumeOwnLog
import AxiomArb.Execution.Attempts
import AxiomArb.Execution.Orders
import AxiomArb.Domain.ExposureTotals
import AxiomArb.Recovery.Coordinator
import AxiomArb.Recovery.Locks
import AxiomArb.StrategyFullset.Pricing
import AxiomArb.StrategyNegRisk.Partition
import AxiomArb.StrategyNegRisk.Validator
import AxiomArb.StrategyNegRisk.Intents
import AxiomArb.Risk.FullSet
import AxiomArb.Risk.ShadowSmoke
import AxiomArb.AppLive.BundleDigest
import AxiomArb.AppLive.RevisionAgreement
import AxiomArb.AppLive.AdoptionGate
import AxiomArb.AppLive.DiscoveryBatch
import AxiomArb.AppLive.DeadHeartbeat
import AxiomArb.VenuePolymarket.PendingAnchors
import AxiomArb.VenuePolymarket.RelayerVerdicts
import AxiomArb.VenuePolymarket.SnapshotIdentity
import AxiomArb.VenuePolymarket.MetadataCache
import AxiomArb.VenuePolymarket.WsMarket
import AxiomArb.VenuePolymarket.WsClient
import AxiomArb.AppLive.MigrationCollisions
import AxiomArb.AppLive.ActiveRevision
import AxiomArb.AppLive.StrategyPayload
import AxiomArb.AppLive.TargetsConfigFile
import AxiomArb.AppLive.SessionLookup
import AxiomArb.AppReplay.CurrentView
import AxiomArb.AppReplay.NegRiskSummary
import AxiomArb.AppLive.ProvenanceStatus
import AxiomArb.AppLive.VerifyEvidence
import AxiomArb.AppLive.VerifyVerdict
import AxiomArb.VenuePolymarket.OpenOrders
import AxiomArb.Library.Chunks
import AxiomArb.VenuePolymarket.Base64
import AxiomArb.AppLive.ShadowFamily
import AxiomArb.AppLive.Daemon
import AxiomArb.AppLive.Resting
import AxiomArb.AppLive.UpToDate
import AxiomArb.AppLive.DaemonFixpoint
import AxiomArb.VenuePolymarket.RelayerMetrics
import AxiomArb.Library.Unordered
import AxiomArb.State.AttentionOrder
import AxiomArb.Library.Transactions
import AxiomArb.Persistence.Catalogue
import AxiomArb.Persistence.CatalogueRows
import AxiomArb.Persistence.CatalogueRuns
import AxiomArb.Persistence.CandidateTables
import AxiomArb.Persistence.StoredOrders
import AxiomArb.Persistence.UpsertsInTurn
import AxiomArb.Library.Paging
import AxiomArb.Journal.Writer
import AxiomArb.AppReplay.Replay
import AxiomArb.AppReplay.ResumedReplays
import AxiomArb.AppLive.RunCommand
import AxiomArb.AppLive.OverlapGuard
import AxiomArb.AppLive.SmokeRollout
import AxiomArb.Library.Newest
import AxiomArb.AppLive.VerifyWindow
import AxiomArb.AppLive.VerifySelection
import AxiomArb.AppLive.VerifyCoverage
import AxiomArb.AppLive.VerifyLatest
import AxiomArb.AppReplay.CandidateSummary
