/-
**Scenarios: errors and calls.**

A scenario describes a world in memory as a JSON document and records what a program did in it.
The modules of `Scenario` read these descriptions and write these records, one kind of world each.

This one holds what they share: errors as they are described, plans of failures, and the record of
a call, which has the name of the call, its arguments and its answer. In a record an error is its
name.
-/

import NodeStorage.InMemory.Failures
import NodeStorage.Json.Loose

namespace NodeStorage.Scenario

open Json

/-- Reads an error that the cluster's API reports. -/
def readApiStatus (document : Raw) : Reading ApiStatus := do
  pure
    { status := ← document.valueAt "status" Raw.text "Failure"
      message := ← document.textAt "message"
      reason := ← document.textAt "reason"
      code := ← document.valueAt "code" Raw.natural 500 }

/-- Reads an error; one without a type is one of the cluster's API. -/
def readError (document : Raw) : Reading Error := do
  let message ← document.textAt "message"
  let reason ← document.textAt "reason"
  let name ← document.textAt "name"
  match ← document.textAt "type" with
  | "resource_not_found" => pure (.resourceNotFound (← document.textAt "kind") name)
  | "resource_exists" => pure (.resourceExists (← document.textAt "kind") name)
  | "internal" => pure (.internal message)
  | "configuration" => pure (.configuration message)
  | "block_device_listing" => pure (.deviceListing message)
  | "udev_monitor" => pure (.udevMonitor message)
  | "pull_secret" => pure (.pullSecret message)
  | "io" => pure (.io message)
  | "device_probe" => pure (.deviceProbe (← document.textAt "device") reason)
  | "provisioning" => pure (.provisioning (← document.textAt "operation") reason)
  | "regex" => pure (.pattern message)
  | "json" => pure (.json .malformed)
  | "yaml" => pure (.yaml message)
  | _ => pure (.cluster (.refused (← readApiStatus document)))

/-- Reads a plan of failures. -/
def readFailures (document : Raw) : Reading InMemory.Failures :=
  document.entries readError

/-- An outcome in a record: its value, or the name of its error. -/
def recorded {α : Type} (encode : α → Json) : Outcome α → Json
  | .ok value => encode value
  | .error cause => .object [("error", .string cause.name)]

/-- A success without a value. -/
def okay {α : Type} (_ : α) : Json :=
  .string "ok"

/-- The record of a call. -/
def callRecord (name : String) (arguments : List Field) (reply : Json) : List Field :=
  ("call", .string name) :: arguments ++ [("answer", reply)]

/-- The record of a call whose answer has no value. -/
def actRecord (name : String) (arguments : List Field) (done : Outcome Unit) : List Field :=
  callRecord name arguments (recorded okay done)

/-- A namespace and a name as arguments. -/
def located (namespaceName name : String) : List Field :=
  [("namespace", .string namespaceName), ("name", .string name)]

end NodeStorage.Scenario
