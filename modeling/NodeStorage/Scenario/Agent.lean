/-
**Scenarios: agents.**

An agent is described by its settings, and its node by listings of devices, a probe, result
objects and a course of events. The record of an agent is the log of its world: the calls with
their answers, with or without times.
-/

import NodeStorage.InMemory.AgentWorld
import NodeStorage.Scenario.Device

namespace NodeStorage.Scenario

open Json Discovery InMemory

/-! ### Results -/

/-- Reads a node with the object that its result belongs to. -/
def readIdentity (document : Raw) : Reading ResultIdentity := do
  pure
    { nodeName := ← document.textAt "node"
      namespaceName := ← document.textAt "namespace"
      parentName := ← document.textAt "parent_name"
      parentUid := ← document.textAt "parent_uid" }

/-- Reads a node's result: a new one, perhaps under another name or none, with a status. -/
def readResult (document : Raw) : Reading ResultObject := do
  let fresh := (← readIdentity document).newResult
  let name ← document.changeAt "name" (Raw.optional Raw.text) fresh.metadata.name
  let status ← document.optionalAt "status" ResultStatus.read
  pure { fresh with metadata := { fresh.metadata with name := name }, status := status }

/-- The results in a store. -/
def storeJson (store : ResultStore) : Json :=
  listOf ResultObject.toJson store.toList

/-! ### Events -/

/-- Reads an event. -/
def readEvent (document : Raw) : Reading DiskEvent := do
  pure
    { reason := ← document.partAt "reason" (Raw.variant EventReason.variants)
      eventType := ← document.partAt "type" (Raw.variant EventType.variants)
      message := ← document.textAt "message"
      disk := ← document.textAt "disk" }

/-- The parts of an event. -/
def eventJson (event : DiskEvent) : Json :=
  .object
    [("reason", .string event.reason.name), ("type", .string event.eventType.name),
     ("message", .string event.message), ("disk", .string event.disk)]

/-! ### Agents and their nodes -/

/-- Reads the settings of an agent. -/
def readSettings (document : Raw) : Reading AgentSettings := do
  let standard := AgentSettings.standard
  pure
    { nodeName := ← document.valueAt "node" Raw.text standard.nodeName
      namespaceName := ← document.valueAt "namespace" Raw.text standard.namespaceName
      parentName := ← document.valueAt "parent_name" Raw.text standard.parentName
      parentUid := ← document.valueAt "parent_uid" Raw.text standard.parentUid
      interval := ← document.valueAt "probe_interval_ms" Raw.natural standard.interval }

/-- Reads an agent that has done nothing yet. -/
def readAgent (document : Raw) : Reading Agent := do
  let settings ← readSettings document
  pure (.new settings (.new (some settings.nodeName)) Metrics.discoveredDevices)

/-- Reads a listing of devices. -/
def readListing (document : Raw) : Reading Listing := do
  let devices ← match ← document.optionalAt "error" readError with
    | some cause => pure (.error cause)
    | none => readDevices document
  pure ⟨devices, ← document.optionalAt "delay_ms" Raw.natural⟩

/-- Reads something that happens on the node, and when. -/
def readNodeEvent (document : Raw) : Reading (Nat × NodeEvent) := do
  let time ← document.valueAt "at_ms" Raw.natural 0
  match ← document.textAt "do" with
  | "udev" => pure (time, .signal)
  | "close_udev" => pure (time, .closeSignals)
  | "fail" => pure (time, .fail (← document.valueAt "fail" readFailures []))
  | _ => pure (time, .stop)

/-- Reads changes to a world: other failures, and more listings. -/
def changeWorld (world : AgentWorld) (document : Raw) : Reading AgentWorld := do
  let failures ← document.valueAt "fail" readFailures world.failures
  let more ← document.listAt "listings" readListing
  pure { world with failures := failures, listings := world.listings ++ more }

/-- Reads a node for an agent. -/
def readWorld (clock : Clock) (document : Raw) : Reading AgentWorld := do
  let world ← changeWorld (.new clock) document
  let stored ← document.listAt "stored" readResult
  pure { world with
    probe := ← document.partAt "probe" readProbe
    store := stored.foldl ResultStore.put .empty
    course := ← document.listAt "timeline" readNodeEvent }

/-! ### Records -/

/-- The record of a call. -/
def agentCall : Dialogue.Exchange Call Call.Answer → List Field
  | ⟨.listDevices, found⟩ =>
    callRecord "list" [] (recorded (fun devices : List BlockDevice => ofNat devices.length) found)
  | ⟨.getResult namespaceName name, found⟩ =>
    callRecord "get_result" (located namespaceName name)
      (recorded (fun result : Option ResultObject => .bool result.isSome) found)
  | ⟨.createResult result, done⟩ => actRecord "create_result" [("object", result.toJson)] done
  | ⟨.updateResultStatus result, done⟩ =>
    actRecord "update_result_status"
      [("name", .string result.metadata.anyName),
       ("status", orNull ResultStatus.toJson result.status)]
      done
  | ⟨.publish event, done⟩ => actRecord "publish" [("event", eventJson event)] done
  | ⟨.examine, _⟩ | ⟨.clock, _⟩ | ⟨.wait _ _, _⟩ => []

/-- The record of an entry of the log. -/
def entryFields : AgentEntry → List Field
  | .call exchange => agentCall exchange
  | .listingBegins => [("call", .string "list_begin")]
  | .signalSent accepted => [("udev_sent", .bool accepted)]

/-- A log without times. -/
def logJson (log : List (Nat × AgentEntry)) : Json :=
  listOf (fun entry => .object (entryFields entry.2)) log

/-- A log with times. -/
def timedLogJson (log : List (Nat × AgentEntry)) : Json :=
  listOf (fun entry => .object (("t", ofNat entry.1) :: entryFields entry.2)) log

/-- What an agent is. -/
def agentJson (agent : Agent) : Json :=
  .object
    [("state", .string agent.state.name),
     ("disks", listOf DiscoveredDevice.toJson agent.devices),
     ("gauge", .integer (agent.gauge.get agent.settings.nodeName).1)]

end NodeStorage.Scenario
