import PiSSM.Lib.TransitionSystem
import PiSSM.Lib.Traces
import PiSSM.Lib.Dict
import PiSSM.Lib.Grouping
import PiSSM.Lib.Chains
import PiSSM.Lib.Tiling
import PiSSM.Lib.RowMajor
import PiSSM.Lib.Recurrence
import PiSSM.Lib.Json
import PiSSM.Lib.JsonTokens
import PiSSM.Lib.JsonParser
import PiSSM.Lib.Utf8
import PiSSM.Lib.PyRepr
import PiSSM.Lib.Yaml
import PiSSM.Lib.Checks
import PiSSM.Exceptions
import PiSSM.Inference.Manifest
import PiSSM.Inference.ManifestData
import PiSSM.Inference.Shard
import PiSSM.Inference.Service
import PiSSM.Inference.RunShard
import PiSSM.Inference.Worker
import PiSSM.Inference.ShardTensors
import PiSSM.Inference.ShardParameters
import PiSSM.Inference.TensorUtils
import PiSSM.Orchestrator.NodeRegistry
import PiSSM.Orchestrator.NodeLiveness
import PiSSM.Orchestrator.HeartbeatRaces
import PiSSM.Orchestrator.Dispatch
import PiSSM.Orchestrator.PipelineOrder
import PiSSM.Orchestrator.ResultStore
import PiSSM.Orchestrator.ResultSlots
import PiSSM.Orchestrator.PipelineRunner
import PiSSM.Orchestrator.GenerationCalls
import PiSSM.Orchestrator.PipelineLoad
import PiSSM.Orchestrator.HttpApi
import PiSSM.Orchestrator.RequestMoves
import PiSSM.Orchestrator.RunnerCalls
import PiSSM.Orchestrator.Cluster
import PiSSM.Orchestrator.ModelSubmissions
import PiSSM.Orchestrator.InferenceLines
import PiSSM.Orchestrator.InferenceStream
import PiSSM.Orchestrator.InferenceHandlers
import PiSSM.Worker.Heartbeat
import PiSSM.Dashboard.Api
import PiSSM.Pipeline.ManifestErrors
import PiSSM.Pipeline.StartupManifests
import PiSSM.Pipeline.ShardReadyKeys
import PiSSM.Pipeline.TensorPlan
import PiSSM.Pipeline.PlannedShards
import PiSSM.Pipeline.WorkerLoads
import PiSSM.Pipeline.ShardChain
import PiSSM.Pipeline.CachedDecoding
import PiSSM.Pipeline.BufferedInference
import PiSSM.Pipeline.CacheAgreement
import PiSSM.Pipeline.StepFailures
import PiSSM.Pipeline.SerializedGeneration
import PiSSM.Pipeline.SingleUseSlots
import PiSSM.Pipeline.StreamFormat
import PiSSM.Pipeline.StreamBodies
import PiSSM.Pipeline.LoadBarrier
import PiSSM.Pipeline.ModelStates
import PiSSM.Pipeline.ClusterRuns
import PiSSM.Pipeline.LoadReports
import PiSSM.Pipeline.WorkerTables
import PiSSM.Pipeline.FailedLoads
import PiSSM.Pipeline.LiveLoads
import PiSSM.Pipeline.StuckLoads
import PiSSM.Pipeline.EndedWaits
import PiSSM.Pipeline.FinishedLoads
import PiSSM.Pipeline.ReadyModels
import PiSSM.Pipeline.ForwardingChains
import PiSSM.Pipeline.CacheOwnership
import PiSSM.Pipeline.WorkerAddresses
import PiSSM.Pipeline.WorkerUnloads
import PiSSM.Pipeline.RefusedLoads
import PiSSM.Pipeline.ReadySessions
import PiSSM.Pipeline.ShardWeights
import PiSSM.Pipeline.LoadedTensors
import PiSSM.Pipeline.DroppedLayers
import PiSSM.Pipeline.TensorTransport
import PiSSM.Pipeline.SlotLifetimes
import PiSSM.Pipeline.NodeCounts
import PiSSM.Lib.Utf8Segments
import PiSSM.Dashboard.Inference
import PiSSM.Dashboard.InferencePage
import PiSSM.Pipeline.StreamedText
import PiSSM.Pipeline.StreamErrors
import PiSSM.Orchestrator.PipelineCallbacks
import PiSSM.Pipeline.Acknowledgements
import PiSSM.Pipeline.ShardLoader
import PiSSM.Pipeline.DeployedGeneration
import PiSSM.Pipeline.FailureDetection
import PiSSM.Pipeline.WireGeneration
import PiSSM.Pipeline.SequentialRequests
import PiSSM.Pipeline.OneModelStore
import PiSSM.Pipeline.ResidentModels
import PiSSM.Pipeline.OneModelService
import PiSSM.Pipeline.ConcurrentGenerations
import PiSSM.Pipeline.StreamedJson
import PiSSM.Pipeline.ChatTranscript
import PiSSM.Pipeline.PageView
