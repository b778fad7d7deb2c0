import TrafficFabric.Accepted
import TrafficFabric.Derived
import TrafficFabric.DerivedAccounting
import TrafficFabric.ReservationDisposition
import TrafficFabric.Allocation
import TrafficFabric.Verifier
import TrafficFabric.VerifierSoundness
import TrafficFabric.VerifierPolicy
import TrafficFabric.FlowNetwork
import TrafficFabric.FlowLevels
import TrafficFabric.MaxFlow
import TrafficFabric.FlowDuality
import TrafficFabric.Problem
import TrafficFabric.BuiltProblem
import TrafficFabric.Certificate
import TrafficFabric.CertificateSoundness
import TrafficFabric.CertificateCut
import TrafficFabric.Placement
import TrafficFabric.Repair
import TrafficFabric.Scoring
import TrafficFabric.Solve
import TrafficFabric.Construction
import TrafficFabric.SolverOutcomes
import TrafficFabric.BuiltAllocation
import TrafficFabric.SolverSafety
import TrafficFabric.SolverVerdicts
import TrafficFabric.SolverVerified
import TrafficFabric.TightestCeiling
import TrafficFabric.AllocationBooks
import TrafficFabric.WorkConservation
import TrafficFabric.FloorReports
import TrafficFabric.Consolidation
import TrafficFabric.RepairMoves
import TrafficFabric.BackOff
import TrafficFabric.Classification
import TrafficFabric.Encoding
import TrafficFabric.Authority
import TrafficFabric.AuthorityContent
import TrafficFabric.AuthorityBinding
import TrafficFabric.Churn
import TrafficFabric.Plan
import TrafficFabric.Explain
import TrafficFabric.Lib.Decoding
import TrafficFabric.Reader
import TrafficFabric.PlanCodec
import TrafficFabric.PlanRoundTrip
import TrafficFabric.Record
import TrafficFabric.Repository
import TrafficFabric.RepositoryDisk
import TrafficFabric.RepositoryFrames
import TrafficFabric.RepositoryOpen
import TrafficFabric.RepositoryCrash
import TrafficFabric.RepositorySession
import TrafficFabric.Engine
import TrafficFabric.EngineLifecycle
import TrafficFabric.Lib.Runs
import TrafficFabric.PlanDecodes
import TrafficFabric.EngineEffects
import TrafficFabric.EngineSteps
import TrafficFabric.Durable
import TrafficFabric.EngineLog
import TrafficFabric.EnginePipeline
import TrafficFabric.CommitGate
import TrafficFabric.IncumbentProtection
import TrafficFabric.FailedAppends
import TrafficFabric.RecordDecodes
import TrafficFabric.RepositoryCalls
import TrafficFabric.RepositoryRuns
import TrafficFabric.RepositoryChain
import TrafficFabric.RepositoryReopens
import TrafficFabric.RepositoryRetries
import TrafficFabric.PlanChecks
import TrafficFabric.TextBounds
import TrafficFabric.PlanBounds
import TrafficFabric.FittingPlans
import TrafficFabric.ReadableRecords
import TrafficFabric.Framing
import TrafficFabric.StableReaders
import TrafficFabric.PlanContent
import TrafficFabric.Protocol
import TrafficFabric.ProtocolRoundTrip
import TrafficFabric.WireCodecs
import TrafficFabric.Lib.SortOrder
import TrafficFabric.Reordering
import TrafficFabric.ReorderedAuthority
import TrafficFabric.CanonicalForm
import TrafficFabric.ReaderImages
import TrafficFabric.SnapshotCodec
import TrafficFabric.SnapshotReads
import TrafficFabric.SnapshotStrict
import TrafficFabric.SnapshotImages
import TrafficFabric.SnapshotTransport
import TrafficFabric.PlanRequests
import TrafficFabric.KeepingUp
import TrafficFabric.Applicability
import TrafficFabric.Eligibility
import TrafficFabric.DomainDiversity
import TrafficFabric.PlanReferences
import TrafficFabric.Contradictions
import TrafficFabric.Explanations
import TrafficFabric.Truncation
import TrafficFabric.ChurnGates
import TrafficFabric.ScoreSums
import TrafficFabric.Omission
import TrafficFabric.TransportedScores
import TrafficFabric.PlainArithmetic
import TrafficFabric.IncumbentRange
import TrafficFabric.CheckedArithmetic
import TrafficFabric.Rational
import TrafficFabric.Crc32c
import TrafficFabric.Sha256Streaming
import TrafficFabric.FlowProgress
import TrafficFabric.MaximumFlow
import TrafficFabric.PlanImages
import TrafficFabric.PlanBytes
import TrafficFabric.CanonicalLaws
import TrafficFabric.DigestContents
import TrafficFabric.ConcurrentRegistrations
import TrafficFabric.FencedMutations
import TrafficFabric.OwnSnapshots
import TrafficFabric.Lib.Succession
import TrafficFabric.Lineage
import TrafficFabric.Recovery
import TrafficFabric.Restarts
import TrafficFabric.CommitCrash
import TrafficFabric.Lib.Json
import TrafficFabric.ExplanationJson
import TrafficFabric.OnDisk
import TrafficFabric.SenderChecks
import TrafficFabric.Lifetimes
import TrafficFabric.Settlements
import TrafficFabric.CommitAnswers
import TrafficFabric.CommitAgreement
