/-
**Errors and what to do about them.**

An error names its cause. `Error.message` is its wording; `Error.action` says whether the operation
is worth repeating, and when: trouble with the cluster or the operating system passes by itself,
missing objects show up once their owner catches up, and a wrong configuration stays wrong until
somebody changes it.
-/

import NodeStorage.Json.Reader
import NodeStorage.Text.Quoted

namespace NodeStorage

/-- What the cluster's API says when it refuses a request. -/
structure ApiStatus where
  status : String
  message : String
  reason : String
  code : Nat
  deriving DecidableEq, Repr, Inhabited

/-- The status as diagnostics show it. -/
def ApiStatus.diagnostic (response : ApiStatus) : String :=
  String.join
    ["ErrorResponse \x7b status: ", Text.quoted response.status, ", message: ",
      Text.quoted response.message, ", reason: ", Text.quoted response.reason, ", code: ",
      toString response.code, " \x7d"]

/-- What goes wrong between a client and the cluster. -/
inductive ClusterError where
  /-- The API refuses the request. -/
  | refused (response : ApiStatus)
  /-- The API accepts the request and answers something else than was asked for. -/
  | unreadableAnswer
  /-- The request cannot be written. -/
  | unwritableRequest
  deriving DecidableEq, Repr

/-- The wording of a cluster error. -/
def ClusterError.message : ClusterError → String
  | .refused response =>
    String.join
      ["ApiError: ", response.message, ": ", response.reason, " (", response.diagnostic, ")"]
  | .unreadableAnswer => "Error deserializing response"
  | .unwritableRequest =>
    "Failed to build request: failed to build request: invalid uri character"

/-- Everything that can go wrong. -/
inductive Error where
  | internal (message : String)
  | configuration (message : String)
  | cluster (cause : ClusterError)
  | resourceNotFound (kind name : String)
  | resourceExists (kind name : String)
  | deviceListing (message : String)
  | deviceProbe (device reason : String)
  | udevMonitor (message : String)
  | pattern (message : String)
  | provisioning (operation reason : String)
  | pullSecret (message : String)
  | json (cause : Json.ReadError)
  | yaml (message : String)
  | io (message : String)
  deriving DecidableEq, Repr

namespace Error

/-- The name of the cause. -/
def name : Error → String
  | .internal _ => "Internal"
  | .configuration _ => "Configuration"
  | .cluster _ => "Kube"
  | .resourceNotFound _ _ => "ResourceNotFound"
  | .resourceExists _ _ => "ResourceExists"
  | .deviceListing _ => "BlockDeviceListing"
  | .deviceProbe _ _ => "DeviceProbe"
  | .udevMonitor _ => "UdevMonitor"
  | .pattern _ => "Regex"
  | .provisioning _ _ => "Provisioning"
  | .pullSecret _ => "PullSecret"
  | .json _ => "JsonParse"
  | .yaml _ => "Yaml"
  | .io _ => "Io"

/-- The wording of an error. -/
def message : Error → String
  | .internal text => "Internal error: " ++ text
  | .configuration text => "Configuration error: " ++ text
  | .cluster cause => "Kubernetes API error: " ++ cause.message
  | .resourceNotFound kind name => String.join ["Resource not found: ", kind, "/", name]
  | .resourceExists kind name => String.join ["Resource already exists: ", kind, "/", name]
  | .deviceListing text => "Failed to list block devices: " ++ text
  | .deviceProbe device reason => String.join ["Device probe failed for ", device, ": ", reason]
  | .udevMonitor text => "Udev monitor error: " ++ text
  | .pattern text => "Invalid regular expression: " ++ text
  | .provisioning operation reason => String.join [operation, ": ", reason]
  | .pullSecret text => "Pull secret error: " ++ text
  | .json cause => "JSON parse error: " ++ cause.message
  | .yaml text => "YAML error: " ++ text
  | .io text => "IO error: " ++ text

/-- What to do after an error. -/
inductive Action where
  /-- Try again, waiting longer each time. -/
  | backoff
  /-- Try again after a number of seconds. -/
  | after (seconds : Nat)
  /-- Wait until something changes. -/
  | awaitChange
  deriving DecidableEq, Repr

/-- The action for an error. -/
def action : Error → Action
  | .resourceNotFound _ _ => .after 30
  | .deviceListing _ | .udevMonitor _ => .after 60
  | .configuration _ | .pattern _ | .pullSecret _ | .json _ | .yaml _ => .awaitChange
  | .cluster _ | .io _ | .internal _ | .resourceExists _ _ | .deviceProbe _ _
  | .provisioning _ _ => .backoff

/-- The operation is worth repeating without a change. -/
def isRetryable (error : Error) : Bool :=
  error.action != .awaitChange

/-- The trouble is with the cluster or the operating system and may pass by itself. -/
def isTransient : Error → Bool
  | .cluster _ | .io _ => true
  | _ => false

/-- The object asked for does not exist. -/
def isNotFound : Error → Bool
  | .resourceNotFound _ _ => true
  | .cluster (.refused response) => response.code == 404
  | _ => false

/-- The object to be made exists already. -/
def isAlreadyExists : Error → Bool
  | .resourceExists _ _ => true
  | .cluster (.refused response) => response.code == 409
  | _ => false

/-- An error inside a step of a provisioning job, under the name of the step. -/
def during (operation : String) (cause : Error) : Error :=
  .provisioning operation cause.message

end Error

/-- A value, or the error that stands in its way. -/
abbrev Outcome (α : Type) := Except Error α

/-- The value read from a document, or a JSON error. -/
def Outcome.ofReading {α : Type} (reading : Json.Reading α) : Outcome α :=
  match reading with
  | .ok value => .ok value
  | .error cause => .error (.json cause)

end NodeStorage
