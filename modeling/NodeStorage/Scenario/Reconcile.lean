/-
**Scenarios: reconciling.**

A discovery object is described by its name, its namespace, its generation and what it asks for,
and a cluster by its nodes, its results and the counts of its pods. The record of a round is its
calls, the time aside.
-/

import NodeStorage.InMemory.DiscoveryCluster
import NodeStorage.Scenario.Agent

namespace NodeStorage.Scenario

open Json Discovery InMemory

/-- Reads a node. -/
def readNode (document : Raw) : Reading Node := do
  pure ⟨← document.textAt "name", ← document.valueAt "labels" Raw.textMap []⟩

/-- Reads the counts of pods: how many are wanted and how many are ready, or null. -/
def readPodCounts (document : Raw) : Reading (Option PodCounts) := do
  match ← Raw.optional (Raw.list Raw.integer64) document with
  | some [desired, ready] => pure (some ⟨desired, ready⟩)
  | some _ => .error (.expected "two counts")
  | none => pure none

/-- The counts of pods, or null. -/
def podCountsJson (counts : Option PodCounts) : Json :=
  orNull (fun pods : PodCounts => .array [.integer pods.desired, .integer pods.ready]) counts

/-- Reads a discovery object. -/
def readDiscovery (document : Raw) : Reading DiscoveryObject := do
  pure
    { metadata :=
        { name := ← document.textAt? "name"
          namespaceName := ← document.textAt? "namespace"
          generation := ← document.optionalAt "generation" Raw.integer64 }
      spec := ← document.partAt "spec" DiscoverySpec.read
      status := ← document.optionalAt "status" Status.read }

/-- Reads changes to a discovery object. -/
def changeDiscovery (asked : DiscoveryObject) (document : Raw) : Reading DiscoveryObject := do
  let generation ← document.changeAt "generation" (Raw.optional Raw.integer64)
    asked.metadata.generation
  pure { asked with
    metadata := { asked.metadata with generation := generation }
    spec := ← document.changeAt "spec" DiscoverySpec.read asked.spec }

/-- Reads changes to a cluster; results are added. -/
def changeCluster (cluster : DiscoveryCluster) (document : Raw) : Reading DiscoveryCluster := do
  let added ← document.listAt "add_results" readResult
  pure { cluster with
    failures := ← document.valueAt "fail" readFailures cluster.failures
    pods := ← document.changeAt "daemonset" readPodCounts cluster.pods
    nodes := ← document.valueAt "nodes" (Raw.list readNode) cluster.nodes
    results := cluster.results ++ added }

/-- Reads a cluster. -/
def readCluster (clock : Clock) (document : Raw) : Reading DiscoveryCluster := do
  let results ← document.listAt "results" readResult
  changeCluster
    { nodes := [], results := results, pods := none, failures := [], clock := clock
      written := none }
    document

/-- The record of a call; the time is not recorded. -/
def clusterCall : Dialogue.Exchange ClusterCall ClusterCall.Answer → Option Json
  | ⟨.listNodes, found⟩ =>
    some (.object (callRecord "list_nodes" []
      (recorded (fun nodes : List Node => ofNat nodes.length) found)))
  | ⟨.listResults namespaceName, found⟩ =>
    some (.object (callRecord "list_results" [("namespace", .string namespaceName)]
      (recorded (fun results : List ResultObject => ofNat results.length) found)))
  | ⟨.deleteResult namespaceName name, done⟩ =>
    some (.object (actRecord "delete_result" (located namespaceName name) done))
  | ⟨.podCounts namespaceName name, found⟩ =>
    some (.object (callRecord "daemonset_counts" (located namespaceName name)
      (recorded podCountsJson found)))
  | ⟨.updateStatus namespaceName name status, done⟩ =>
    some (.object (actRecord "update_discovery_status"
      (located namespaceName name ++ [("status", status.toJson)]) done))
  | ⟨.clock, _⟩ => none

/-- Runs a program in a cluster: its result, the record of its calls, and the cluster afterwards. -/
def runInCluster {α : Type} (program : ClusterDialogue α) (cluster : DiscoveryCluster) :
    α × Json × DiscoveryCluster :=
  let (result, after) := Dialogue.run DiscoveryCluster.respond program cluster
  let calls := (Dialogue.trace DiscoveryCluster.respond program cluster).filterMap clusterCall
  (result, .array calls, after)

/-- When an object is looked at again. -/
def requeueJson : Requeue → Json
  | .after seconds => .object [("requeue_secs", ofNat seconds)]
  | .awaitChange => .string "await_change"

end NodeStorage.Scenario
