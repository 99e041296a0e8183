import Workflows.DagGraph
import Workflows.DagRun
import Workflows.DagRunInvariant
import Workflows.DagRunSafety
import Workflows.DagRunProgress
import Workflows.VersionRegistry
import Workflows.VersionHistory
import Workflows.EngineService
import Workflows.EngineRuns
import Workflows.LoadBalancer
import Workflows.Dispatch
import Workflows.DispatchCounts
import Workflows.DagRunOutcome
import Workflows.Discovery
import Workflows.VersionLookup
import Workflows.ExecutionIds
import Workflows.SubWorkflows
import Workflows.Monitor
import Workflows.EngineWrapper
import Workflows.Shutdown
import Workflows.SpecValidator
import Workflows.SubWorkflowDispatch
import Workflows.DagBuild
import Workflows.SpecPipeline
import Workflows.SecretsCache
import Workflows.Config
import Workflows.KubernetesDiscovery
import Workflows.Triggers
import Workflows.Transport
import Workflows.EngineRuntime
