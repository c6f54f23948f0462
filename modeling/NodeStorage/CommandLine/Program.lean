/-
**From the command line to the cluster.**

`start` goes as far as the program gets without a cluster. It reads the command line, checks what it
has been given, and ends with a report: the program is finished, with an exit code and what it
writes, or it has a task for which it needs the cluster.

A line of the log has a time, a level, the program and a message, or the same as a JSON object. A
program that fails writes its error once into the log and once, the way diagnostics show it, as an
error line.
-/

import NodeStorage.CommandLine.Command
import NodeStorage.Manifest.Definition
import NodeStorage.Udev.Watch

namespace NodeStorage.CommandLine

open Discovery Provisioning

/-! ### The log -/

/-- How and how much is written into the log. -/
structure LogStyle where
  limit : LogLevel
  asJson : Bool
  /-- The time of the lines. -/
  time : String

namespace LogStyle

/-- The part of the program that writes the log. -/
def target : String := "fusion_access_operator"

/-- A level in five places. -/
def paddedLevel (level : LogLevel) : String :=
  if level.name.length < 5 then " " ++ level.name else level.name

/-- A line of the log. -/
def line (style : LogStyle) (level : LogLevel) (message : String) : String :=
  if style.asJson then
    (Json.object
      [("timestamp", .string style.time), ("level", .string level.name),
       ("fields", .object [("message", .string message)]), ("target", .string target)]).toText
  else String.join [style.time, " ", paddedLevel level, " ", target, ": ", message]

/-- The lines that are written of some messages. -/
def lines (style : LogStyle) (level : LogLevel) (messages : List String) : List String :=
  if style.limit.shows level then messages.map (style.line level) else []

end LogStyle

/-! ### Errors as diagnostics show them -/

/-- An error by its name and its parts. -/
def diagnostic (error : Error) : String :=
  match error with
  | .resourceNotFound kind name | .resourceExists kind name =>
    withParts [("kind", kind), ("name", name)]
  | .deviceProbe device reason => withParts [("device", device), ("reason", reason)]
  | .provisioning operation reason => withParts [("operation", operation), ("reason", reason)]
  | .cluster cause => withText cause.message
  | .json cause => withText cause.message
  | .internal message | .configuration message | .deviceListing message | .udevMonitor message
  | .pattern message | .pullSecret message | .yaml message | .io message => withText message
where
  withText (message : String) : String :=
    String.join [error.name, "(", Text.quoted message, ")"]
  withParts (parts : List (String × String)) : String :=
    let fields := parts.map fun part => String.join [part.1, ": ", Text.quoted part.2]
    String.join [error.name, " \x7b ", ", ".intercalate fields, " \x7d"]

/-! ### Starting -/

/-- What is left to do with the cluster. -/
inductive Task where
  /-- Run the agent; news about devices is collected over so many seconds. -/
  | discover (settings : AgentSettings) (eventPeriod : Nat) (metricsAddress : String)
  | filesystemJob (request : JobRequest)
  | reconcile (namespaceName daemonSet : String)

/-- How far the program gets without a cluster. -/
inductive Report where
  /-- The program is finished. -/
  | finished (exitCode : Nat) (output errors : List String)
  /-- The program has written something and needs the cluster for the rest. -/
  | ready (output : List String) (task : Task)

/-- What a command comes to: a task for which the cluster is needed, and what to say about it. -/
def Command.prepare : Command → Outcome (Option (Task × List String))
  | .discover arguments => do
    let settings := arguments.settings
    settings.validate
    let said :=
      ["  Node: " ++ settings.nodeName, "  Namespace: " ++ settings.namespaceName,
       String.join ["  Probe interval: ", toString (settings.interval / 1000), "s"]]
    pure (some (.discover settings arguments.eventPeriod arguments.metricsAddress, said))
  | .filesystemJob arguments => do
    let request ← arguments.toRequest
    pure (some (.filesystemJob request, ["  Operation: " ++ request.operation.name]))
  | .reconcileDiscovery namespaceName daemonSet =>
    match namespaceName.filter fun name => !Text.isBlank name with
    | some name => pure (some (.reconcile name daemonSet, []))
    | none => .error (.configuration "WATCH_NAMESPACE is not set")
  | .manifests => pure none

/-- What the program says first. -/
def greeting : List String :=
  ["Starting Fusion Access Operator", "  Version: " ++ programVersion]

/-- How far an invocation gets at a time. -/
def Invocation.report (invocation : Invocation) (time : String) : Report :=
  let style : LogStyle := ⟨invocation.logLevel, invocation.logJson, time⟩
  let greeted := style.lines .info greeting
  match invocation.command.prepare with
  | .ok (some (task, said)) => .ready (greeted ++ style.lines .info said) task
  | .ok none => .finished 0 (greeted ++ Manifest.manifestLines) []
  | .error cause =>
    .finished 1 (greeted ++ style.lines .error ["Operation failed: " ++ cause.message])
      ["Error: " ++ diagnostic cause]

/-- The lines of help about options. -/
def optionLines (options : List OptionSpec) : List String :=
  options.map fun spec =>
    let value := if spec.kind = .flag then "" else " <VALUE>"
    String.join ["      --", spec.name, value, "  ", spec.help, " [env: ", spec.source, "]"]

/-- What is shown when help is asked for. -/
def helpLines : List String :=
  ["Device discovery and filesystem provisioning for Storage Scale", "",
   String.join ["Usage: ", programName, " [OPTIONS] <COMMAND>"], "", "Commands:"] ++
    commandSpecs.flatMap (fun spec =>
      String.join ["  ", spec.name, "  ", spec.help] :: optionLines spec.options) ++
    ["", "Options:"] ++ optionLines globalOptions ++
    ["  -h, --help  Print help", "  -V, --version  Print version"]

/-- How far the program gets with a command line at a time. -/
def start (environment : Environment) (words : List String) (time : String) : Report :=
  match readInvocation environment words with
  | .ok invocation => invocation.report time
  | .error .displayHelp => .finished 0 helpLines []
  | .error .displayVersion => .finished 0 [String.join [programName, " ", programVersion]] []
  | .error cause => .finished 2 [] [String.join ["error: ", cause.name]]

end NodeStorage.CommandLine
