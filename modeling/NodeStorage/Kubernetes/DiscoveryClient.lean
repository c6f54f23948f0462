/-
**Discovery over the cluster's API.**

Each question that agents and reconciling ask of the cluster becomes requests. The status of an
object is written as a merge patch of the object's status alone. A result that is already gone
counts as deleted.
-/

import NodeStorage.Discovery.Agent
import NodeStorage.Discovery.Reconcile
import NodeStorage.Kubernetes.Client
import NodeStorage.Kubernetes.Object

namespace NodeStorage.Kubernetes

open Json Discovery

/-- The results in a namespace. -/
def results (namespaceName : String) : Collection :=
  ⟨Discovery.group, Discovery.version, "localvolumediscoveryresults", some namespaceName⟩

/-- The discovery objects in a namespace. -/
def discoveries (namespaceName : String) : Collection :=
  ⟨Discovery.group, Discovery.version, "localvolumediscoveries", some namespaceName⟩

/-- The events in a namespace. -/
def events (namespaceName : String) : Collection :=
  ⟨"events.k8s.io", "v1", "events", some namespaceName⟩

/-- The nodes of the cluster. -/
def nodes : Collection :=
  ⟨"", "v1", "nodes", none⟩

/-- The daemon sets in a namespace. -/
def daemonSets (namespaceName : String) : Collection :=
  ⟨"apps", "v1", "daemonsets", some namespaceName⟩

/-- A patch of a status. -/
def statusPatch (status : Json) : Json :=
  .object [("status", status)]

/-! ### Results -/

/-- The result of a name, if there is one. -/
def getResult (namespaceName name : String) : WireDialogue (Outcome (Option ResultObject)) :=
  (results namespaceName).find name ResultObject.read

/-- Creates a result. -/
def createResult (object : ResultObject) : WireDialogue (Outcome Unit) :=
  (results (object.metadata.namespaceName.getD "")).create object.toJson ResultObject.read

/-- The patch that writes the status of a result. -/
def resultPatch (object : ResultObject) : Json :=
  statusPatch ((object.status.map ResultStatus.toJson).getD .null)

/-- Writes the status of a result. -/
def updateResultStatus (object : ResultObject) : WireDialogue (Outcome Unit) :=
  (results (object.metadata.namespaceName.getD "")).patchStatus object.metadata.anyName
    (resultPatch object) ResultObject.read

/-- A deletion of what does not exist, which is no error. -/
def orGone : Outcome Unit → Outcome Unit
  | .ok () => .ok ()
  | .error cause => if cause.isNotFound then .ok () else .error cause

/-- Deletes a result that may be gone already. -/
def deleteResult (namespaceName name : String) : WireDialogue (Outcome Unit) := do
  let outcome ← (results namespaceName).delete name [] ResultObject.read
  pure (orGone outcome)

/-! ### Events -/

/-- Who reports events. -/
def eventReporter : String := "auto-discover-devices"

/-- What is done when an event happens. -/
def eventAction : String := "Discovery"

/-- The object of an event about a discovery object. -/
def eventObject (identity : ResultIdentity) (event : DiskEvent) (now : Instant) : Json :=
  .object
    [("apiVersion", .string "events.k8s.io/v1"), ("kind", .string "Event"),
     ("action", .string eventAction), ("eventTime", .string (Instant.writeMicroseconds now)),
     ("metadata",
       ({ generateName := some (eventReporter ++ "-")
          namespaceName := some identity.namespaceName } : Cluster.Metadata).toJson),
     ("note", .string event.message), ("reason", .string event.reason.name),
     ("regarding", identity.parentReference), ("reportingController", .string eventReporter),
     ("reportingInstance", .string identity.nodeName), ("type", .string event.eventType.name)]

/-- Publishes an event. -/
def publish (identity : ResultIdentity) (event : DiskEvent) : WireDialogue (Outcome Unit) := do
  let now ← askTime
  (events identity.namespaceName).create (eventObject identity event now) readEvent

/-! ### Reconciling -/

/-- The nodes of the cluster with their labels. -/
def listNodes : WireDialogue (Outcome (List Node)) :=
  nodes.list fun document => do
    let found ← readItems readNode document
    pure (found.map fun metadata => ⟨metadata.anyName, metadata.labelMap⟩)

/-- The results in a namespace. -/
def listResults (namespaceName : String) : WireDialogue (Outcome (List ResultObject)) :=
  (results namespaceName).list (readItems ResultObject.read)

/-- How many pods a daemon set wants and has. -/
def podCounts (namespaceName name : String) : WireDialogue (Outcome (Option PodCounts)) :=
  (daemonSets namespaceName).find name fun document => do
    let (wanted, ready) ← readDaemonSet document
    pure ⟨wanted, ready⟩

/-- Writes the status of a discovery object. -/
def updateDiscoveryStatus (namespaceName name : String) (status : Status) :
    WireDialogue (Outcome Unit) :=
  (discoveries namespaceName).patchStatus name (statusPatch status.toJson) DiscoveryObject.read

/-- The requests for a question of reconciling. -/
def onWire : (call : ClusterCall) → WireDialogue call.Answer
  | .listNodes => listNodes
  | .listResults namespaceName => listResults namespaceName
  | .deleteResult namespaceName name => deleteResult namespaceName name
  | .podCounts namespaceName name => podCounts namespaceName name
  | .updateStatus namespaceName name status => updateDiscoveryStatus namespaceName name status
  | .clock => askTime

end NodeStorage.Kubernetes
