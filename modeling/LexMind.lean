import LexMind.Artifacts.GraphRemoval
import LexMind.Artifacts.PipelineStage
import LexMind.Artifacts.VersionRecords
import LexMind.BusTransparency
import LexMind.Config.EnvironmentSelection
import LexMind.Config.OverrideAtomicity
import LexMind.Config.Precedence
import LexMind.Config.SecretScan
import LexMind.Core.CapabilityIndex
import LexMind.Documents.ReaderAgreement
import LexMind.Documents.VersionHistory
import LexMind.Domain.EntityIdentity
import LexMind.Domain.KnowledgeGraph
import LexMind.Domain.TagSetLaws
import LexMind.Domain.TimelineOrder
import LexMind.Domain.VersionAccessors
import LexMind.Domain.WorkspaceAggregate
import LexMind.Events.SubscriptionHistory
import LexMind.ImportQueue.Deduplication
import LexMind.ImportQueue.QueueDelivery
import LexMind.ImportQueue.RequestValues
import LexMind.Ingestion.ImportIntegrity
import LexMind.Ingestion.UnreadableFiles
import LexMind.Layout.RegionMerge
import LexMind.Metadata.Repositories
import LexMind.Metadata.Rollback
import LexMind.Ocr.ArtifactIntegration
import LexMind.Ocr.CacheService
import LexMind.Ocr.GenerateAtomicity
import LexMind.Ocr.LifecycleEvents
import LexMind.Ocr.Providers.ResultText
import LexMind.Pipeline.DependencyOrder
import LexMind.Pipeline.Discipline
import LexMind.Pipeline.JournalView
import LexMind.Pipeline.Resume
import LexMind.Pipeline.StageOrder
import LexMind.Plugins.PluginLifecycle
import LexMind.Scheduler.AtMostOnce
import LexMind.Scheduler.Cancellation
import LexMind.Scheduler.PipelineDispatcher
import LexMind.Scheduler.Retry
import LexMind.Storage.LogLevels
import LexMind.Storage.ObjectStore
import LexMind.Storage.RawText
import LexMind.Tasks.CancelDuringExecution
import LexMind.Tasks.TerminalRecord
import LexMind.Watcher.HandlerChoice
import LexMind.Watcher.ListingFailures
import LexMind.Watcher.PolledView
import LexMind.Watcher.WatchIndependence
import LexMind.Workers.HandlerContract
import LexMind.Workspace.CreationByName
import LexMind.Workspace.FailedOpen
import LexMind.Workspace.Lifecycle
