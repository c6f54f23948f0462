/-
**The agent on a node.**

The agent looks for devices and keeps the node's result object up to date. It makes sure that the
object exists, scans once, and then waits for one of four things: the order to stop, the end of its
interval, a signal that devices have changed, and the closing of the channel of these signals. The
interval and a signal start a scan; after the channel has closed the agent goes on without it.

A scan lists the devices, looks at each, and writes the list if it is not the one that was written
last. Only a list that has been written counts as known, so a failed write is tried again at the
next scan. Whatever goes wrong is reported as an event.

The agent is a dialogue: `Call` is what it asks of the node, the cluster and the clock.
-/

import NodeStorage.Device.Classification
import NodeStorage.Dialogue
import NodeStorage.Discovery.Event
import NodeStorage.Discovery.Resource
import NodeStorage.Metrics.Gauge

namespace NodeStorage.Discovery

/-- What ends the agent's wait. -/
inductive Wake where
  | stop
  | interval
  | signal
  | closed
  deriving DecidableEq, Repr

/-- What the agent asks. -/
inductive Call where
  /-- The devices of the node. -/
  | listDevices
  /-- What the host says about devices. -/
  | examine
  | getResult (namespaceName name : String)
  | createResult (object : ResultObject)
  | updateResultStatus (object : ResultObject)
  | publish (event : DiskEvent)
  /-- The time. -/
  | clock
  /-- The next thing that happens within so many milliseconds; signals count if asked for. -/
  | wait (milliseconds : Nat) (withSignals : Bool)

/-- The answers to the agent's questions. -/
def Call.Answer : Call → Type
  | .listDevices => Outcome (List BlockDevice)
  | .examine => DeviceProbe
  | .getResult _ _ => Outcome (Option ResultObject)
  | .createResult _ => Outcome Unit
  | .updateResultStatus _ => Outcome Unit
  | .publish _ => Outcome Unit
  | .clock => Instant
  | .wait _ _ => Wake

/-- A program that asks the agent's questions. -/
abbrev AgentDialogue := Dialogue Call Call.Answer

namespace Ask

/-- The devices of the node, parents first. -/
def listDevices : AgentDialogue (Outcome (List BlockDevice)) :=
  .question Call.listDevices

/-- What the host says about devices. -/
def examine : AgentDialogue DeviceProbe :=
  .question Call.examine

/-- The result object of a name, if there is one. -/
def result (namespaceName name : String) : AgentDialogue (Outcome (Option ResultObject)) :=
  .question (Call.getResult namespaceName name)

/-- Creates a result object. -/
def createResult (object : ResultObject) : AgentDialogue (Outcome Unit) :=
  .question (Call.createResult object)

/-- Writes the status of a result object. -/
def updateResultStatus (object : ResultObject) : AgentDialogue (Outcome Unit) :=
  .question (Call.updateResultStatus object)

/-- Publishes an event. -/
def publish (event : DiskEvent) : AgentDialogue (Outcome Unit) :=
  .question (Call.publish event)

/-- The time. -/
def clock : AgentDialogue Instant :=
  .question Call.clock

/-- The next thing that happens. -/
def wait (milliseconds : Nat) (withSignals : Bool) : AgentDialogue Wake :=
  .question (Call.wait milliseconds withSignals)

end Ask

/-! ### The result object -/

namespace ResultIdentity

/-- Creates the result object unless it exists. -/
def ensure (identity : ResultIdentity) : AgentDialogue (Outcome Unit) := do
  match ← Ask.result identity.namespaceName identity.resultName with
  | .error cause => pure (.error cause)
  | .ok (some _) => pure (.ok ())
  | .ok none => Ask.createResult identity.newResult

/-- The error when the result object does not exist. -/
def missingResult (identity : ResultIdentity) : Error :=
  .resourceNotFound resultKind identity.resultName

/-- Replaces the list of devices in the result object. -/
def updateStatus (identity : ResultIdentity) (devices : List DiscoveredDevice) :
    AgentDialogue (Outcome Unit) := do
  match ← Ask.result identity.namespaceName identity.resultName with
  | .error cause => pure (.error cause)
  | .ok none => pure (.error identity.missingResult)
  | .ok (some object) =>
    let now ← Ask.clock
    let status : ResultStatus := ⟨devices, some (Instant.writeSeconds now)⟩
    Ask.updateResultStatus { object with status := some status }

end ResultIdentity

/-- Publishes an event if it is news; whether that worked does not matter. -/
def Reporter.report (reporter : Reporter) (event : DiskEvent) : AgentDialogue (Bool × Reporter) :=
  match reporter.consider event with
  | (none, after) => pure (false, after)
  | (some addressed, after) => do
    let _ ← Ask.publish addressed
    pure (true, after)

/-! ### Settings -/

/-- The settings of an agent. -/
structure AgentSettings where
  nodeName : String
  namespaceName : String
  parentName : String
  parentUid : String
  /-- The milliseconds between two scans. -/
  interval : Nat
  deriving DecidableEq, Repr

namespace AgentSettings

/-- The discovery object that agents report to, unless another is given. -/
def defaultParent : String := "auto-discover-devices"

/-- The milliseconds between two scans, unless others are given. -/
def defaultInterval : Nat := 300000

/-- Settings that nobody has made. -/
def standard : AgentSettings :=
  ⟨"", "", defaultParent, "", defaultInterval⟩

/-- The settings that must not be blank, by the variables that they come from. -/
def required (settings : AgentSettings) : List (String × String) :=
  [("MY_NODE_NAME", settings.nodeName), ("WATCH_NAMESPACE", settings.namespaceName),
   ("DISCOVERY_OBJECT_NAME", settings.parentName), ("DISCOVERY_OBJECT_UID", settings.parentUid)]

/-- Checks the settings. -/
def validate (settings : AgentSettings) : Outcome Unit :=
  match settings.required.find? fun entry => Text.isBlank entry.2 with
  | some (source, _) => .error (.configuration (source ++ " is not set"))
  | none =>
    if settings.interval = 0 then .error (.configuration "probe interval must be positive")
    else .ok ()

/-- The node and the object that its result belongs to. -/
def identity (settings : AgentSettings) : ResultIdentity :=
  ⟨settings.nodeName, settings.namespaceName, settings.parentName, settings.parentUid⟩

end AgentSettings

/-! ### Scanning -/

/-- What the agent is doing. -/
inductive AgentState where
  | idle | scanning | stopping
  deriving DecidableEq, Repr

/-- The name of what the agent is doing. -/
def AgentState.name : AgentState → String
  | .idle => "idle"
  | .scanning => "scanning"
  | .stopping => "shutting-down"

/-- An agent. -/
structure Agent where
  settings : AgentSettings
  reporter : Reporter
  gauge : Metrics.Gauge
  /-- The list that was written last, since the agent started. -/
  known : Option (List DiscoveredDevice)
  state : AgentState

namespace Agent

/-- An agent that has done nothing yet. -/
def new (settings : AgentSettings) (reporter : Reporter) (gauge : Metrics.Gauge) : Agent :=
  ⟨settings, reporter, gauge, none, .idle⟩

/-- The devices that were written last. -/
def devices (agent : Agent) : List DiscoveredDevice :=
  agent.known.getD []

/-- Reports that something went wrong. -/
def warn (agent : Agent) (reason : EventReason) (what : String) (cause : Error) :
    AgentDialogue Agent := do
  let message := String.join [what, ". Error: ", cause.message]
  let (_, reporter) ← agent.reporter.report (.warning reason message)
  pure { agent with reporter := reporter }

/-- Writes a list of devices that is not known yet. -/
def persist (agent : Agent) (found : List DiscoveredDevice) :
    AgentDialogue (Outcome Unit × Agent) := do
  match ← agent.settings.identity.updateStatus found with
  | .error cause =>
    let agent ← agent.warn .cannotUpdateResult
      "failed to update LocalVolumeDiscoveryResult status" cause
    pure (.error cause, agent)
  | .ok () =>
    let (_, reporter) ← agent.reporter.report (.success .updatedDeviceList
      "successfully updated discovered device details in the LocalVolumeDiscoveryResult resource")
    pure (.ok (), { agent with known := some found, reporter := reporter })

/-- Lists the devices and writes the list if it has changed. -/
def scan (agent : Agent) : AgentDialogue (Outcome Unit × Agent) := do
  match ← Ask.listDevices with
  | .error cause =>
    let agent ← agent.warn .cannotListDevices "failed to discover devices" cause
    pure (.error cause, agent)
  | .ok listed =>
    let probe ← Ask.examine
    let found := discover probe listed
    let agent := { agent with gauge := agent.gauge.set agent.settings.nodeName found.length }
    if agent.known = some found then pure (.ok (), agent) else agent.persist found

/-- One scan; the agent is idle again afterwards. -/
def discoverDevices (agent : Agent) : AgentDialogue (Outcome Unit × Agent) := do
  let (outcome, after) ← { agent with state := .scanning }.scan
  pure (outcome, { after with state := .idle })

/-! ### The loop -/

/-- Waits and scans until the order to stop, at most `rounds` times; `none` when it has not come by
then. A scan that fails does not end the loop. -/
def loop : (rounds : Nat) → (withSignals : Bool) → Agent →
    AgentDialogue (Option (Outcome Unit) × Agent)
  | 0, _, agent => pure (none, agent)
  | rounds + 1, withSignals, agent => do
    match ← Ask.wait agent.settings.interval withSignals with
    | .stop => pure (some (.ok ()), { agent with state := .stopping })
    | .closed => loop rounds false agent
    | .interval | .signal =>
      let (_, after) ← agent.discoverDevices
      loop rounds withSignals after

/-- Runs the agent for at most `rounds` rounds of its loop. Without a result object it does not
start. -/
def start (rounds : Nat) (agent : Agent) : AgentDialogue (Option (Outcome Unit) × Agent) := do
  match ← agent.settings.identity.ensure with
  | .error cause =>
    let agent ← agent.warn .cannotCreateResult "failed to start device discovery" cause
    pure (some (.error cause), agent)
  | .ok () =>
    let (_, after) ← agent.discoverDevices
    loop rounds true after

end Agent

end NodeStorage.Discovery
