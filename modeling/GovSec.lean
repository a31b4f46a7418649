import GovSec.Lib.Text
import GovSec.Lib.Maps
import GovSec.Lib.Runs
import GovSec.Lib.Actions
import GovSec.Platform
import GovSec.Crypto
import GovSec.Signal
import GovSec.Validation
import GovSec.Json
import GovSec.Capability
import GovSec.CapabilityRuns
import GovSec.ActionEnvelope
import GovSec.ActionPolicy
import GovSec.SessionMemory
import GovSec.Arbiter
import GovSec.ArbiterOrder
import GovSec.Lib.Joins
import GovSec.ArbiterJoins
import GovSec.Lib.Threads
import GovSec.ArbiterRaces
import GovSec.ContextEnvelope
import GovSec.VerdictLedger
import GovSec.Sentinel
import GovSec.Corridor
import GovSec.OverWatch
import GovSec.Oim
import GovSec.Haap
import GovSec.Pipeline
import GovSec.Authorization
import GovSec.PipelineFrame
import GovSec.PipelineRuns
import GovSec.Provenance
import GovSec.Lib.Pairs
import GovSec.SessionView
import GovSec.PairedCalls
import GovSec.SessionFrame
import GovSec.InboundPaths
import GovSec.Lib.Isolation
import GovSec.SessionIsolation
import GovSec.Suspension
import GovSec.Refusals
import GovSec.ArbiterRuns
import GovSec.AuditLog
import GovSec.ChainRaces
import GovSec.SessionEndRaces
import GovSec.HaapRuns
import GovSec.HaapDecisions
import GovSec.ApprovalSteps
import GovSec.DefenceInDepth
import GovSec.OutboundStates
import GovSec.LockedSessions
import GovSec.MemoryFloor
import GovSec.MemoryLevels
import GovSec.Lib.Windows
import GovSec.RetainedTurns
import GovSec.StoredStates
import GovSec.SentinelCoverage
import GovSec.Encoding
import GovSec.Lib.Chain
import GovSec.Evidence
import GovSec.EvidenceRuns
import GovSec.EvidenceChain
import GovSec.EvidenceEpochs
import GovSec.GovernedPipeline
import GovSec.Lib.JsonText
import GovSec.Lib.JsonStrings
import GovSec.Lib.KeyedLists
import GovSec.CanonicalJson
import GovSec.EnvelopeBinding
import GovSec.JsonEquality
import GovSec.JsonDepth
import GovSec.VerdictJson
import GovSec.DecisionScope
import GovSec.CapabilitySignature
import GovSec.SessionAuthority
import GovSec.ForgottenSessions
import GovSec.Lib.JsonParse
import GovSec.Lib.Base64
import GovSec.Lib.Histories
import GovSec.MemoryDecay
import GovSec.ViolationClasses
import GovSec.CorridorMasking
import GovSec.SentinelEvasion
import GovSec.HaapAuthority
import GovSec.VerdictLookup
import GovSec.SerdeJson
import GovSec.ConstitutionSeal
import GovSec.ActorProfiles
import GovSec.Lib.LeastSquares
import GovSec.Trajectory
import GovSec.CapabilityExpiry
import GovSec.Lib.Streams
import GovSec.Lib.Utf8
import GovSec.ServerReader
import GovSec.ServerHeaders
import GovSec.Lib.Projections
import GovSec.GovMemHistory
import GovSec.GovMemIdentity
import GovSec.GovMemCompleteness
import GovSec.ServerHandlers
import GovSec.ServerAuthority
import GovSec.ServerOutbound
import GovSec.Lib.Fronts
import GovSec.ServerMessages
import GovSec.Lib.JsonSound
import GovSec.ServerReplies
import GovSec.ServerEndpoints
import GovSec.Lib.Blocks
import GovSec.EnvelopeSerde
import GovSec.CapabilityLives
import GovSec.ServerRouting
import GovSec.ServerCapabilities
import GovSec.ServerWire
import GovSec.ServerThreads
