/-
**The commands of the program.**

The program runs as an agent on a node, as a filesystem job, or as the reconciler of discovery
objects; or it prints the definitions of its objects. Every command has options of its own, and two
options of all commands say how it writes its log. Of these, what stands after the command counts
before what stands in front of it.
-/

import NodeStorage.CommandLine.Options
import NodeStorage.Discovery.Agent
import NodeStorage.Discovery.Reconcile
import NodeStorage.Provisioning.Request
import NodeStorage.Text.Case

namespace NodeStorage.CommandLine

open Discovery Provisioning

/-- The name of the program. -/
def programName : String := "fusion-access-operator"

/-- The version of the program. -/
def programVersion : String := "0.2.0"

/-! ### Log level -/

/-- How serious a line of the log is, and from which on lines are written. -/
inductive LogLevel where
  | error | warn | info | debug | trace
  deriving DecidableEq, Repr

namespace LogLevel

/-- How much is written. -/
def rank : LogLevel → Nat
  | .error => 0
  | .warn => 1
  | .info => 2
  | .debug => 3
  | .trace => 4

/-- The name of a level. -/
def name : LogLevel → String
  | .error => "ERROR"
  | .warn => "WARN"
  | .info => "INFO"
  | .debug => "DEBUG"
  | .trace => "TRACE"

/-- The level that a text means; one without a meaning stands for information. -/
def ofText (text : String) : LogLevel :=
  match Text.lowercase text with
  | "trace" => .trace
  | "debug" => .debug
  | "warn" => .warn
  | "error" => .error
  | _ => .info

/-- Lines of a level are written. -/
def shows (limit level : LogLevel) : Bool :=
  level.rank ≤ limit.rank

end LogLevel

/-! ### Options -/

/-- The options of all commands. -/
def globalOptions : List OptionSpec :=
  [⟨"log-level", "LOG_LEVEL", .text, "Log level (trace, debug, info, warn, error)"⟩,
   ⟨"log-json", "LOG_JSON", .flag, "Output logs as JSON"⟩]

/-- The options of the agent. -/
def discoverOptions : List OptionSpec :=
  [⟨"node-name", "MY_NODE_NAME", .text, "Node the agent runs on"⟩,
   ⟨"namespace", "WATCH_NAMESPACE", .text, "Namespace of the discovery objects"⟩,
   ⟨"discovery-object-name", "DISCOVERY_OBJECT_NAME", .text,
     "Name of the parent LocalVolumeDiscovery"⟩,
   ⟨"discovery-object-uid", "DISCOVERY_OBJECT_UID", .text,
     "UID of the parent LocalVolumeDiscovery"⟩,
   ⟨"probe-interval-secs", "PROBE_INTERVAL_SECS", .number, "Seconds between periodic scans"⟩,
   ⟨"udev-event-period-secs", "UDEV_EVENT_PERIOD_SECS", .number,
     "Seconds over which udev events are coalesced"⟩,
   ⟨"metrics-addr", "METRICS_ADDR", .text, "Metrics server bind address"⟩]

/-- The options of filesystem jobs. -/
def jobOptions : List OptionSpec :=
  [⟨"operation", "OPERATION", .oneOf (Operation.all.map Operation.name), "Operation to run"⟩,
   ⟨"filesystem-name", "FILESYSTEM_NAME", .text, "Filesystem to create"⟩,
   ⟨"namespace", "NAMESPACE", .text, "Namespace of the Storage Scale resources"⟩,
   ⟨"job-name", "JOB_NAME", .text, "Job carrying the phase annotations"⟩,
   ⟨"new-luns-json", "NEW_LUNS_JSON", .text, "JSON array of LUNs that need a new LocalDisk"⟩,
   ⟨"reused-luns-json", "REUSED_LUNS_JSON", .text,
     "JSON array of LUNs that already have a LocalDisk"⟩,
   ⟨"fusion-namespace", "FUSION_NAMESPACE", .text, "Namespace of the job"⟩,
   ⟨"target-name", "TARGET_NAME", .text, "Filesystem to delete"⟩,
   ⟨"target-namespace", "TARGET_NAMESPACE", .text, "Namespace of the filesystem to clean up"⟩,
   ⟨"failed-job-name", "FAILED_JOB_NAME", .text, "Failed job to remove"⟩,
   ⟨"failed-job-namespace", "FAILED_JOB_NAMESPACE", .text, "Namespace of the failed job"⟩,
   ⟨"created-resources", "CREATED_RESOURCES", .text,
     "Checkpoint of the failed job, as written to its annotation"⟩]

/-- The options of the reconciler. -/
def reconcileOptions : List OptionSpec :=
  [⟨"namespace", "WATCH_NAMESPACE", .text, "Namespace of the LocalVolumeDiscovery objects"⟩,
   ⟨"daemonset", "DISCOVERY_DAEMONSET", .text, "DaemonSet running the discovery agent"⟩]

/-- The arguments of a job in the values of its options. -/
def jobArguments (values : Values) : JobArguments where
  operation := (values.lookup? "operation").bind Operation.ofName?
  filesystemName := values.lookup? "filesystem-name"
  namespaceName := values.lookup? "namespace"
  jobName := values.lookup? "job-name"
  newLuns := values.lookup? "new-luns-json"
  reusedLuns := values.lookup? "reused-luns-json"
  fusionNamespace := values.lookup? "fusion-namespace"
  targetName := values.lookup? "target-name"
  targetNamespace := values.lookup? "target-namespace"
  failedJobName := values.lookup? "failed-job-name"
  failedJobNamespace := values.lookup? "failed-job-namespace"
  createdResources := values.lookup? "created-resources"

/-- The arguments of a job that is started with the options of jobs alone. -/
def readJobArguments (environment : Environment) (words : List String) :
    Except UsageError JobArguments :=
  (readOptions jobOptions environment words).map jobArguments

/-! ### Commands -/

/-- What the agent is started with. -/
structure DiscoverArguments where
  settings : AgentSettings
  /-- The seconds over which news about devices is collected. -/
  eventPeriod : Nat
  metricsAddress : String
  deriving DecidableEq, Repr

/-- What the program is asked to do. -/
inductive Command where
  | discover (arguments : DiscoverArguments)
  | filesystemJob (arguments : JobArguments)
  | reconcileDiscovery (namespaceName : Option String) (daemonSet : String)
  | manifests
  deriving DecidableEq, Repr

/-- A number among the values of options. -/
def numberOf (values : Values) (name : String) (default : Nat) : Nat :=
  ((values.lookup? name).bind (Text.unsigned? Text.maxUnsigned)).getD default

/-- What the agent is started with, by the values of its options. -/
def discoverArguments (values : Values) : DiscoverArguments where
  settings :=
    { nodeName := (values.lookup? "node-name").getD ""
      namespaceName := (values.lookup? "namespace").getD ""
      parentName := (values.lookup? "discovery-object-name").getD AgentSettings.defaultParent
      parentUid := (values.lookup? "discovery-object-uid").getD ""
      interval := numberOf values "probe-interval-secs" 300 * 1000 }
  eventPeriod := numberOf values "udev-event-period-secs" 5
  metricsAddress := (values.lookup? "metrics-addr").getD "0.0.0.0:8080"

/-- A command that the program knows. -/
structure CommandSpec where
  name : String
  help : String
  options : List OptionSpec
  /-- The command that the values of its options make. -/
  build : Values → Command

/-- The commands. -/
def commandSpecs : List CommandSpec :=
  [⟨"discover", "Discover block devices on this node", discoverOptions, fun values =>
     .discover (discoverArguments values)⟩,
   ⟨"filesystem-job", "Run one filesystem provisioning operation", jobOptions, fun values =>
     .filesystemJob (jobArguments values)⟩,
   ⟨"reconcile-discovery", "Reconcile LocalVolumeDiscovery objects", reconcileOptions,
     fun values =>
       .reconcileDiscovery (values.lookup? "namespace")
         ((values.lookup? "daemonset").getD defaultDaemonSet)⟩,
   ⟨"crd", "Print the CRD manifests", [], fun _ => .manifests⟩]

/-- The command that explains the others. -/
def helpCommand : String := "help"

/-- The words in front of a command. -/
def topLevel : Level :=
  ⟨globalOptions, commandSpecs.map CommandSpec.name ++ [helpCommand], true⟩

/-- A command with the way in which it writes its log. -/
structure Invocation where
  logLevel : LogLevel
  logJson : Bool
  command : Command
  deriving DecidableEq, Repr

/-- What the command that explains the others comes to. -/
def explain (names : List String) : UsageError :=
  match names with
  | [] => .displayHelp
  | [name] => if topLevel.commands.contains name then .displayHelp else .invalidCommand
  | _ => .invalidCommand

/-- The value of an option of all commands. -/
def globalValue? (after before : Values) (name : String) : Option String :=
  (after.lookup? name).or (before.lookup? name)

/-- Reads a command line. -/
def readInvocation (environment : Environment) (words : List String) :
    Except UsageError Invocation := do
  let top ← readWords topLevel .start words
  match top.command with
  | none => do
    let _ ← top.reading.settle
    throw .missingCommand
  | some (name, rest) =>
    match commandSpecs.find? fun spec => spec.name == name with
    | none => throw (explain rest)
    | some spec => do
      let options := spec.options ++ globalOptions
      let result ← readWords ⟨options, [], false⟩ .start rest
      let given ← result.reading.settle
      let values ← fromEnvironment environment given.values options
      let before ← top.reading.settle
      let globals ← fromEnvironment environment before.values globalOptions
      let level := (globalValue? given.values globals "log-level").getD "info"
      let json := (globalValue? given.values globals "log-json").getD "false"
      pure ⟨LogLevel.ofText level, json == "true", spec.build values⟩

end NodeStorage.CommandLine
