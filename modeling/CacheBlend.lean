import CacheBlend.WorkerHandoffs
import CacheBlend.LookupPlans
import CacheBlend.MatchResponses
import CacheBlend.EnginePreemption
import CacheBlend.ControlFlowHooks
import CacheBlend.HashPreimages
import CacheBlend.SidecarCapacity
import CacheBlend.IndexCoherence
import CacheBlend.SelectiveWrites
import CacheBlend.ExactScatters
import CacheBlend.WorkerClose
import CacheBlend.TransportOwnership
import CacheBlend.OrderIndependence
import CacheBlend.ExactMatches
import CacheBlend.ScatterTiling
import CacheBlend.SelectiveCoverage
import CacheBlend.ReachableTables
import CacheBlend.MetricReconciliation
import CacheBlend.SessionAgreement
import CacheBlend.TransportFailStop
import CacheBlend.BridgeOrder
import CacheBlend.MatchOptimality
import CacheBlend.Segmentation
import CacheBlend.SidecarCodec
import CacheBlend.SelectedRows
import CacheBlend.SweepRoundTrips
import CacheBlend.SelectiveRegistry
import CacheBlend.StagingOwnership
import CacheBlend.StoreReceipts
import CacheBlend.CompatibilityDigest
import CacheBlend.YarnKeys
import CacheBlend.LookupRuns
import CacheBlend.RowComplements
import CacheBlend.StatsConservation
import CacheBlend.BenchmarkMerging
import CacheBlend.EvidenceCodecs
import CacheBlend.ParserFaults
import CacheBlend.ProbabilityGate
import CacheBlend.AttentionAgreement
import CacheBlend.DocumentStores
import CacheBlend.ForwardContext
import CacheBlend.KeyRelocation
import CacheBlend.StoredDocuments
import CacheBlend.StoredPrompts
import CacheBlend.EvidencedTransfers
import CacheBlend.HonestTransfers
import CacheBlend.ProbedLoads
import CacheBlend.RuntimeResources
