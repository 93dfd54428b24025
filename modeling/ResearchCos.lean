import ResearchCos.Foundation.OrderedMap
import ResearchCos.Foundation.LabelledRun
import ResearchCos.Foundation.SequenceMatcher
import ResearchCos.Foundation.Permits
import ResearchCos.Text
import ResearchCos.Models
import ResearchCos.CitationVerify
import ResearchCos.CitationSoundness
import ResearchCos.Artifacts
import ResearchCos.CellGates
import ResearchCos.DecisionGates
import ResearchCos.DecisionMemo
import ResearchCos.Ranking
import ResearchCos.EmissionGates
import ResearchCos.WorkerProxy
import ResearchCos.ReferenceStore
import ResearchCos.GraphState
import ResearchCos.GraphNodes
import ResearchCos.Graph
import ResearchCos.StopGates
import ResearchCos.HumanPush
import ResearchCos.HardBounds
import ResearchCos.NodeFrames
import ResearchCos.ReferenceScan
import ResearchCos.Collecting
import ResearchCos.WorkerResults
import ResearchCos.ReferenceProvenance
import ResearchCos.TaskIds
import ResearchCos.ChallengeDialogue
import ResearchCos.ClarifyProgress
import ResearchCos.Bookkeeping
import ResearchCos.LoopTermination
import ResearchCos.RecursionLimit
import ResearchCos.CommandLine
import ResearchCos.SupplementNotices
import ResearchCos.SteerDelivery
import ResearchCos.EvidenceProducers
import ResearchCos.OwnSources
import ResearchCos.AsyncSessionPool
import ResearchCos.SessionInvariants
import ResearchCos.SessionBounds
import ResearchCos.SessionTurns
import ResearchCos.CostAccounting
import ResearchCos.SdkClient
import ResearchCos.NodeRecords
import ResearchCos.MemoDelivery
import ResearchCos.StopReasons
import ResearchCos.ReviewAnswers
import ResearchCos.ExpansionFlag
import ResearchCos.DebateRecord
import ResearchCos.MintedIds
import ResearchCos.Orchestrator
import ResearchCos.PlanApproval
import ResearchCos.Foundation.ExceptionFilter
import ResearchCos.AlbertContract
import ResearchCos.RealAlbert
import ResearchCos.Retrieval
import ResearchCos.FieldBounds
import ResearchCos.NodeBounds
import ResearchCos.RealBrains
import ResearchCos.UncheckedRatings
import ResearchCos.Foundation.Grouping
import ResearchCos.Triangulation
import ResearchCos.CellSynthesis
import ResearchCos.GateSignals
import ResearchCos.DocumentRounds
import ResearchCos.KeptQuotes
import ResearchCos.Foundation.StableSort
import ResearchCos.IssueSelection
import ResearchCos.ResearchedQueries
import ResearchCos.BundledBrains
import ResearchCos.SoftStopOverride
import ResearchCos.NodeUpdates
import ResearchCos.VerbatimQuotes
import ResearchCos.CriticRemarks
import ResearchCos.Foundation.FirstOccurrence
import ResearchCos.RankedSources
import ResearchCos.DuplicateSources
import ResearchCos.CitationRouting
import ResearchCos.DroppedFiles
import ResearchCos.ChallengeReference
import ResearchCos.ContractShape
import ResearchCos.Foundation.InterruptedWrites
import ResearchCos.SotBrief
import ResearchCos.BriefRevisions
import ResearchCos.BriefConflicts
import ResearchCos.BriefShelf
import ResearchCos.BriefCrashes
import ResearchCos.ReportedStops
import ResearchCos.SurveyFolders
import ResearchCos.SurveySections
import ResearchCos.Foundation.IntervalCover
import ResearchCos.Foundation.SeparatedWords
import ResearchCos.PageSpecs
import ResearchCos.Foundation.Growth
import ResearchCos.RunHistory
import ResearchCos.PassHistories
import ResearchCos.IssueEdits
import ResearchCos.StageCards
import ResearchCos.CritiqueCards
import ResearchCos.Foundation.BoundedGather
import ResearchCos.ResearchFanOut
import ResearchCos.Foundation.MarkedTexts
import ResearchCos.InternalResearch
import ResearchCos.InternalAccounts
import ResearchCos.IssueLifeCycle
import ResearchCos.Foundation.Buckets
import ResearchCos.ReadinessBoard
import ResearchCos.Foundation.Formats
import ResearchCos.RecordDocuments
import ResearchCos.SnapshotDocument
import ResearchCos.Foundation.Utf8
import ResearchCos.DebateWatch
import ResearchCos.StatusCards
import ResearchCos.BranchBudget
