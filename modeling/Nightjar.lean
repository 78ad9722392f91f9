import Nightjar.Lib.Strings
import Nightjar.Lib.Tables
import Nightjar.Lib.Counting
import Nightjar.Lib.KeyedStore
import Nightjar.Lib.OwnedKeys
import Nightjar.Lib.Runs
import Nightjar.Lib.Metering
import Nightjar.Lib.Cooldown
import Nightjar.Lib.Float64
import Nightjar.Lib.Json
import Nightjar.Lib.MergePatch
import Nightjar.Lib.SlidingWindow
import Nightjar.Lib.SortSlice
import Nightjar.Lib.Noninterference
import Nightjar.Lib.FirstSeen
import Nightjar.Lib.SeenRecurrence
import Nightjar.Lib.Interleave
import Nightjar.Lib.Channel
import Nightjar.Lib.Histories
import Nightjar.Lib.SharedIndex
import Nightjar.Lib.Follower
import Nightjar.Lib.WorkQueue
import Nightjar.Types
import Nightjar.Unstructured
import Nightjar.Util
import Nightjar.SelectorForm
import Nightjar.Indexer
import Nightjar.Adapters.Slot
import Nightjar.Adapters.Registry
import Nightjar.Adapters.GroupFallback
import Nightjar.Adapters.Registrations
import Nightjar.Adapters.NetworkPolicy
import Nightjar.Adapters.Cilium
import Nightjar.Adapters.ResourceQuota
import Nightjar.Adapters.QuotaSeverity
import Nightjar.Adapters.LimitRange
import Nightjar.Adapters.WebhookConfig
import Nightjar.Adapters.Gatekeeper
import Nightjar.Adapters.Kyverno
import Nightjar.Adapters.KyvernoSelectors
import Nightjar.Adapters.Generic
import Nightjar.Adapters.Builtin
import Nightjar.Adapters.Settings
import Nightjar.Discovery.Engine
import Nightjar.Discovery.Routing
import Nightjar.Discovery.Ingestion
import Nightjar.Discovery.Scope
import Nightjar.Discovery.Mirror
import Nightjar.Discovery.Lifecycle
import Nightjar.Discovery.Channels
import Nightjar.Discovery.Scans
import Nightjar.Discovery.Informers
import Nightjar.Discovery.Handlers
import Nightjar.Discovery.Profiles
import Nightjar.Discovery.NameHints
import Nightjar.Discovery.ProfileSettings
import Nightjar.Discovery.Sources
import Nightjar.Discovery.SyntheticUIDs
import Nightjar.Discovery.ClusterMirror
import Nightjar.Discovery.AnnotatedCRDs
import Nightjar.Discovery.ProfileController
import Nightjar.ServiceMap
import Nightjar.ServiceMap.Watches
import Nightjar.ServiceMap.ClusterIPs
import Nightjar.ServiceMap.EndpointIndex
import Nightjar.ServiceMap.Sessions
import Nightjar.Correlator
import Nightjar.Correlator.FlowDrops
import Nightjar.Correlator.FlowCorrelation
import Nightjar.Correlator.FlowKeys
import Nightjar.Correlator.Shutdown
import Nightjar.Hubble.ConnectionLoop
import Nightjar.Hubble.Labels
import Nightjar.Hubble.Converter
import Nightjar.Hubble.Client
import Nightjar.Correlator.FlowNotices
import Nightjar.Correlator.PolicyDrops
import Nightjar.Notifier.ReportReconciler
import Nightjar.Notifier.WorkloadAnnotator
import Nightjar.Notifier.Triggers
import Nightjar.Notifier.IndexLog
import Nightjar.Notifier.EventBudget
import Nightjar.Notifier.EventReplay
import Nightjar.Notifier.ReportRuns
import Nightjar.Notifier.ReportDebounce
import Nightjar.Notifier.AnnotatorWorkers
import Nightjar.Notifier.PatchSpacing
import Nightjar.Notifier.WorkloadCache
import Nightjar.Notifier.AnnotatorDrain
import Nightjar.Notifier.AnnotatorRuns
import Nightjar.Notifier.AnnotatorShutdown
import Nightjar.Notifier.Remediation
import Nightjar.Notifier.InspectCommands
import Nightjar.Notifier.Privacy
import Nightjar.Notifier.EventBuilder
import Nightjar.Notifier.Dispatcher
import Nightjar.Notifier.DispatcherRuns
import Nightjar.Notifier.DispatcherDedupe
import Nightjar.Notifier.ChangedConstraints
import Nightjar.Notifier.RateBound
import Nightjar.Notifier.ReportStatus
import Nightjar.Notifier.ReportContent
import Nightjar.Notifier.ReportStore
import Nightjar.Notifier.AnnotationPatch
import Nightjar.Notifier.AnnotationMerge
import Nightjar.Mcp.Handlers
import Nightjar.Notifier.ReportConvergence
import Nightjar.KindNames
import Nightjar.Mcp.DetailLevels
import Nightjar.Mcp.ListNamespaces
import Nightjar.Mcp.Resources
import Nightjar.Api.Capabilities
import Nightjar.Mcp.Sse
import Nightjar.Mcp.SseDelivery
import Nightjar.Notifier.QuotaMetrics
import Nightjar.Nightjarctl.Check
import Nightjar.Nightjarctl.Query
import Nightjar.Mcp.Check
import Nightjar.Nightjarctl.Explain
import Nightjar.Nightjarctl.Answers
import Nightjar.Nightjarctl.ClusterQuery
import Nightjar.Webhook.Admission
import Nightjar.Webhook.ClusterReviews
import Nightjar.Webhook.PolicyTargets
import Nightjar.Webhook.CertRotation
import Nightjar.Webhook.Certificates
import Nightjar.Webhook.BundleHealing
import Nightjar.Requirements.Evaluator
import Nightjar.Requirements.Isolation
import Nightjar.Requirements.Recurrence
import Nightjar.Mcp.MissingPrerequisites
import Nightjar.Requirements.Rules
import Nightjar.FeedbackLoop
import Nightjar.FeedbackPrivacy
