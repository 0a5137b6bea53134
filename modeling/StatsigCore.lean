import StatsigCore.Evaluation.ConfigMapping
import StatsigCore.Evaluation.Depth
import StatsigCore.Evaluation.Simulation
import StatsigCore.Evaluation.MappingSearch
import StatsigCore.Evaluation.Nesting
import StatsigCore.Evaluation.Unsupported
import StatsigCore.Evaluation.FilteredRules
import StatsigCore.Evaluation.ExperimentGroups
import StatsigCore.EventLogging.Retries
import StatsigCore.EventLogging.Capacity
import StatsigCore.EventLogging.FlushOrder
import StatsigCore.EventLogging.LockFailures
import StatsigCore.EventLogging.NonExposedChecks
import StatsigCore.EventLogging.ExposureDedupe
import StatsigCore.EventLogging.ReportedRules
import StatsigCore.PersistentStorage.LayerDelegates
import StatsigCore.SpecStore.UpdateRaces
import StatsigCore.IdLists.IdListSync
import StatsigCore.SpecsResponse.Rebuild
import StatsigCore.Evaluation.Agreement
import StatsigCore.ClientInit.EqualHashes
import StatsigCore.SdkEventEmitter.ListenerCount
import StatsigCore.SpecsAdapter.GrpcShutdown
import StatsigCore.SpecStore.DataStoreWrites
import StatsigCore.SpecsAdapter.StalledDeltas
import StatsigCore.ClientInit.ValueTable
import StatsigCore.ClientInit.Visits
import StatsigCore.ClientInit.ExposureReferences
import StatsigCore.ClientInit.HashedNames
import StatsigCore.ClientInit.BanditNames
import StatsigCore.EventLogging.UnitKeys
import StatsigCore.Library.Cursor
import StatsigCore.Library.BigEndian
import StatsigCore.UserPayload.DynamicValues
import StatsigCore.UserPayload.StatsigUserPayload
import StatsigCore.UserPayload.DecodeUserPayload
import StatsigCore.UserPayload.Format
import StatsigCore.UserPayload.RoundTrip
import StatsigCore.Comparisons.TargetValues
import StatsigCore.Library.LastWins
import StatsigCore.Comparisons.Timestamps
import StatsigCore.Comparisons.Operators
import StatsigCore.Comparisons.ArrayTargets
import StatsigCore.Comparisons.RoundTrip
import StatsigCore.Evaluation.LayerMerges
import StatsigCore.Evaluation.LayerExposures
import StatsigCore.Evaluation.Course
import StatsigCore.Evaluation.SamplingFlag
import StatsigCore.Evaluation.GroupAttribution
import StatsigCore.InternedValues.InternedStore
import StatsigCore.InternedValues.Sweeps
import StatsigCore.IdLists.Changesets
import StatsigCore.Library.Loop
import StatsigCore.SpecsResponse.EnvelopeLoop
import StatsigCore.Library.PaddedLex
import StatsigCore.Comparisons.Versions
import StatsigCore.Evaluation.CountryLookup
import StatsigCore.Library.FirstBest
import StatsigCore.Evaluation.CmabRanking
import StatsigCore.Library.LruCache
import StatsigCore.EventLogging.ExposureSampling
import StatsigCore.EventLogging.DedupeWindow
import StatsigCore.Library.ChainedTable
import StatsigCore.Hashing.MemoSha256
import StatsigCore.Library.Threads
import StatsigCore.Hashing.MemoRaces
import StatsigCore.Library.FirstFound
import StatsigCore.OverrideAdapter.LocalOverrideAdapter
import StatsigCore.OverrideAdapter.OverrideOrder
import StatsigCore.EventLogging.QueuedEvents
import StatsigCore.EventLogging.SecondaryAsPrimary
import StatsigCore.StatsigRuntime.SpawnedTasks
import StatsigCore.StatsigRuntime.ActiveTasks
import StatsigCore.InternedValues.EvaluatorValues
import StatsigCore.InternedValues.EvaluatorEntries
import StatsigCore.InternedValues.RegexPreload
import StatsigCore.Library.HashTable
import StatsigCore.InternedValues.InternedStrings
import StatsigCore.InternedValues.HashContract
import StatsigCore.Evaluation.Relevance
import StatsigCore.Evaluation.Rollout
import StatsigCore.EventLogging.EventJson
import StatsigCore.EventLogging.FlushInterval
import StatsigCore.EventLogging.LoggerTasks
import StatsigCore.EventLoggingAdapter.FileRuns
import StatsigCore.Evaluation.UserFields
import StatsigCore.EventLogging.SecExpoRefresh
import StatsigCore.Initialization.BackgroundTasks
import StatsigCore.Networking.NetworkClient
import StatsigCore.Observability.Diagnostics
import StatsigCore.Observability.SdkErrors
import StatsigCore.PersistentStorage.StickyRuns
import StatsigCore.SpecsAdapter.FallbackPace
import StatsigCore.UserAgent.TokenOrder
import StatsigCore.UserAgent.UaParser
import StatsigCore.SpecStore.DataStoreReaders
