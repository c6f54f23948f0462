/-
**Scenarios: the cluster's API.**

A server is described by the responses that it has ready; what a call does on the wire is
described by the name of the call and its arguments. The record of a client is the requests that
the server got.
-/

import NodeStorage.InMemory.ApiServer
import NodeStorage.Kubernetes.DiscoveryClient
import NodeStorage.Kubernetes.StorageClient
import NodeStorage.Scenario.Reconcile
import NodeStorage.Scenario.Storage

namespace NodeStorage.Scenario

open Json Discovery Provisioning InMemory Kubernetes

/-- Reads a response: a text as it is, another document as its text, and null as the request's own
body. -/
def readResponse (document : Raw) : Reading PreparedResponse := do
  let body ← document.optionalAt "body" fun value =>
    match value with
    | .string characters => Raw.content characters
    | _ => (Raw.value value).map Json.toText
  pure ⟨← document.valueAt "status" Raw.natural 200, body⟩

/-- The record of a request. -/
def requestJson (request : Request) : Json :=
  .object
    [("method", .string request.method.name), ("path", .string request.target.path),
     ("query", .string request.target.query),
     ("content_type", Json.ofText? request.contentType), ("body", request.body.getD .null)]

/-- A node with its labels. -/
def nodeJson (node : Node) : Json :=
  .object [("name", .string node.name), ("labels", Json.ofTextMap node.labels)]

/-- A filesystem with its labels. -/
def foundFilesystemJson (found : Filesystem) : Json :=
  .object
    [("name", .string found.name), ("namespace", .string found.namespaceName),
     ("labels", Json.ofTextMap found.labels)]

/-- A call of a client, which comes to a value as it is recorded or to an error. -/
abbrev ClientCall := WireDialogue (Outcome Json)

/-- A call with its value as it is recorded. -/
def recording {α : Type} (encode : α → Json) (program : WireDialogue (Outcome α)) : ClientCall :=
  program.bind fun result => .done (result.map encode)

/-- A question of a job that has no value. -/
def acting (program : WireDialogue (Outcome Unit)) : ClientCall :=
  recording okay program

/-- Reads a call about discovery. -/
def readDiscoveryCall (document : Raw) : Reading (Option ClientCall) := do
  let namespaceName ← document.textAt "namespace"
  let name ← document.textAt "name"
  match ← document.textAt "call" with
  | "get_result" =>
    pure (some (recording (orNull ResultObject.toJson) (getResult namespaceName name)))
  | "create_result" => do
    let result := (← readIdentity document).newResult
    let status ← document.optionalAt "status" ResultStatus.read
    pure (some (acting (createResult { result with status := status })))
  | "update_result_status" => do
    let result := (← readIdentity document).newResult
    let status ← document.optionalAt "status" ResultStatus.read
    pure (some (acting (updateResultStatus { result with status := status })))
  | "publish" => do
    let identity ← readIdentity document
    let event ← readEvent document
    pure (some (acting (publish identity event)))
  | "list_nodes" => pure (some (recording (listOf nodeJson) listNodes))
  | "list_results" =>
    pure (some (recording (listOf ResultObject.toJson) (listResults namespaceName)))
  | "delete_result" => pure (some (acting (deleteResult namespaceName name)))
  | "daemonset_counts" =>
    pure (some (recording podCountsJson (Kubernetes.podCounts namespaceName name)))
  | "update_discovery_status" => do
    let status ← document.partAt "status" Status.read
    pure (some (acting (updateDiscoveryStatus namespaceName name status)))
  | _ => pure none

/-- Reads a call of a filesystem job. -/
def readStorageCall (document : Raw) : Reading (Option ClientCall) := do
  let name ← readObjectName document
  match ← document.textAt "call" with
  | "create_local_disk" => do
    let request ← readLocalDisk document
    pure (some (acting (storageOnWire (.createLocalDisk request))))
  | "create_filesystem" => do
    let disks ← document.listAt "disks" Raw.text
    let request := FilesystemRequest.of name.name name.namespaceName disks
    pure (some (acting (storageOnWire (.createFilesystem request))))
  | "create_storage_class" =>
    pure (some (acting (storageOnWire (.createStorageClass (.of name.name)))))
  | "get_filesystem" =>
    pure (some (recording (orNull foundFilesystemJson) (getFilesystem name)))
  | "label_filesystem" => do
    let key ← document.textAt "key"
    let value ← document.textAt "value"
    pure (some (acting (labelFilesystem name key value)))
  | "delete_filesystem" => pure (some (acting (storageOnWire (.deleteFilesystem name))))
  | "delete_storage_class" =>
    pure (some (acting (storageOnWire (.deleteStorageClass name.name))))
  | "delete_job" => pure (some (acting (storageOnWire (.deleteJob name))))
  | "annotate_job" => do
    let annotations ← document.valueAt "annotations" Raw.textMap []
    pure (some (acting (storageOnWire (.annotateJob name annotations))))
  | _ => pure none

/-- Reads a call of a client. -/
def readClientCall (document : Raw) : Reading (Option ClientCall) := do
  match ← readDiscoveryCall document with
  | some call => pure (some call)
  | none => readStorageCall document

end NodeStorage.Scenario
