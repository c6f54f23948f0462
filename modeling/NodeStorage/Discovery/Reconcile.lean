/-
**Reconciling a discovery object.**

Results of nodes that the selector no longer means are deleted, and then the status is worked out
from the pods of discovery and written. The first thing that goes wrong ends the round: no status is
written before all of these results are gone. Without a selector every node is meant and nothing is
looked up or deleted.

A round is a dialogue: `ClusterCall` is what it asks of the cluster and the clock.
-/

import NodeStorage.Dialogue
import NodeStorage.Discovery.Resource
import NodeStorage.Error

namespace NodeStorage.Discovery

/-- What reconciling asks. -/
inductive ClusterCall where
  | listNodes
  | listResults (namespaceName : String)
  | deleteResult (namespaceName name : String)
  /-- How many pods a daemon set wants and has. -/
  | podCounts (namespaceName name : String)
  | updateStatus (namespaceName name : String) (status : Status)
  /-- The time. -/
  | clock

/-- The answers to these questions. -/
def ClusterCall.Answer : ClusterCall → Type
  | .listNodes => Outcome (List Node)
  | .listResults _ => Outcome (List ResultObject)
  | .deleteResult _ _ => Outcome Unit
  | .podCounts _ _ => Outcome (Option PodCounts)
  | .updateStatus _ _ _ => Outcome Unit
  | .clock => Instant

/-- A program that asks these questions. -/
abbrev ClusterDialogue := Dialogue ClusterCall ClusterCall.Answer

namespace AskCluster

/-- The nodes of the cluster. -/
def nodes : ClusterDialogue (Outcome (List Node)) :=
  .question ClusterCall.listNodes

/-- The results in a namespace. -/
def results (namespaceName : String) : ClusterDialogue (Outcome (List ResultObject)) :=
  .question (ClusterCall.listResults namespaceName)

/-- Deletes a result. -/
def deleteResult (namespaceName name : String) : ClusterDialogue (Outcome Unit) :=
  .question (ClusterCall.deleteResult namespaceName name)

/-- How many pods a daemon set wants and has; `none` when it does not exist. -/
def podCounts (namespaceName name : String) : ClusterDialogue (Outcome (Option PodCounts)) :=
  .question (ClusterCall.podCounts namespaceName name)

/-- Writes the status of a discovery object. -/
def updateStatus (namespaceName name : String) (status : Status) :
    ClusterDialogue (Outcome Unit) :=
  .question (ClusterCall.updateStatus namespaceName name status)

/-- The time. -/
def clock : ClusterDialogue Instant :=
  .question ClusterCall.clock

end AskCluster

/-! ### Orphans -/

/-- The names of the nodes that a selector means. -/
def selectedNames (selector : NodeSelector) (nodes : List Node) : List String :=
  (nodes.filter fun node => selector.fits node).map Node.name

/-- The results of other nodes than the selected ones. -/
def orphans (selected : List String) (results : List ResultObject) : List ResultObject :=
  results.filter fun result => !selected.contains result.nodeName

/-- Deletes results one after another until one cannot be deleted. The outcome is the names of those
that were deleted, after the names in `deleted`. -/
def deleteAll (namespaceName : String) (deleted : List String) :
    List ResultObject → ClusterDialogue (Outcome (List String))
  | [] => pure (.ok deleted)
  | result :: rest => do
    let name := result.metadata.anyName
    match ← AskCluster.deleteResult namespaceName name with
    | .error cause => pure (.error cause)
    | .ok () => deleteAll namespaceName (deleted ++ [name]) rest

/-- Deletes the results of nodes that the object's selector does not mean. -/
def deleteOrphans (object : DiscoveryObject) : ClusterDialogue (Outcome (List String)) :=
  match object.spec.nodeSelector with
  | none => pure (.ok [])
  | some selector => do
    let namespaceName := object.metadata.namespaceName.getD ""
    match ← AskCluster.nodes with
    | .error cause => pure (.error cause)
    | .ok nodes =>
      match ← AskCluster.results namespaceName with
      | .error cause => pure (.error cause)
      | .ok results =>
        deleteAll namespaceName [] (orphans (selectedNames selector nodes) results)

/-! ### Rounds -/

/-- When to look at an object again. -/
inductive Requeue where
  | after (seconds : Nat)
  | awaitChange
  deriving DecidableEq, Repr

/-- The daemon set that runs the pods of discovery, unless another is given. -/
def defaultDaemonSet : String := "devicefinder-discovery"

/-- The seconds after which a healthy object is looked at again. -/
def resyncSeconds : Nat := 60

/-- The seconds after which an object is looked at again when an error asks for patience. -/
def backoffSeconds : Nat := 15

/-- When to look again after an error. -/
def requeueAfter (cause : Error) : Requeue :=
  match cause.action with
  | .backoff => .after backoffSeconds
  | .after seconds => .after seconds
  | .awaitChange => .awaitChange

/-- Works out the status of an object and writes it. -/
def reportStatus (daemonSet namespaceName : String) (object : DiscoveryObject) :
    ClusterDialogue (Outcome Unit) := do
  match ← AskCluster.podCounts namespaceName daemonSet with
  | .error cause => pure (.error cause)
  | .ok counts =>
    let now ← AskCluster.clock
    let status := nextStatus object.status counts object.metadata.generation now
    AskCluster.updateStatus namespaceName object.metadata.anyName status

/-- One round for an object. -/
def reconcile (daemonSet : String) (object : DiscoveryObject) :
    ClusterDialogue (Outcome Requeue) :=
  match object.metadata.namespaceName with
  | none =>
    pure (.error (.configuration (String.join
      [discoveryKind, " ", object.metadata.anyName, " has no namespace"])))
  | some namespaceName => do
    match ← deleteOrphans object with
    | .error cause => pure (.error cause)
    | .ok _ =>
      match ← reportStatus daemonSet namespaceName object with
      | .error cause => pure (.error cause)
      | .ok () => pure (.ok (.after resyncSeconds))

end NodeStorage.Discovery
