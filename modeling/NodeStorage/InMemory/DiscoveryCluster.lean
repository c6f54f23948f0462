/-
**A cluster for reconciling, in memory.**

The cluster has nodes, results in the order in which they came, and at most one daemon set, whatever
name it is asked for by. It remembers the status that was written last.
-/

import NodeStorage.Discovery.Reconcile
import NodeStorage.InMemory.Failures

namespace NodeStorage.InMemory

open Discovery

/-- A cluster with all that reconciling can ask. -/
structure DiscoveryCluster where
  nodes : List Node
  results : List ResultObject
  pods : Option PodCounts
  failures : Failures
  clock : Clock
  /-- The status that was written last. -/
  written : Option Status
  deriving DecidableEq, Repr

namespace DiscoveryCluster

/-- The result is the one of a namespace and name. -/
def isResult (namespaceName name : String) (result : ResultObject) : Bool :=
  result.metadata.namespaceName == some namespaceName && result.metadata.name == some name

/-- Answers a question. -/
def respond : (call : ClusterCall) → DiscoveryCluster → call.Answer × DiscoveryCluster
  | .listNodes, cluster =>
    cluster.failures.guard "list_nodes" "" cluster fun cluster => (.ok cluster.nodes, cluster)
  | .listResults namespaceName, cluster =>
    cluster.failures.guard "list_results" namespaceName cluster fun cluster =>
      (.ok (cluster.results.filter fun result =>
        result.metadata.namespaceName == some namespaceName), cluster)
  | .deleteResult namespaceName name, cluster =>
    cluster.failures.guard "delete_result" name cluster fun cluster =>
      (.ok (), { cluster with
        results := cluster.results.filter fun result => !isResult namespaceName name result })
  | .podCounts _ name, cluster =>
    cluster.failures.guard "daemonset_counts" name cluster fun cluster =>
      (.ok cluster.pods, cluster)
  | .updateStatus _ name status, cluster =>
    cluster.failures.guard "update_discovery_status" name cluster fun cluster =>
      (.ok (), { cluster with written := some status })
  | .clock, cluster =>
    let (instant, clock) := cluster.clock.read
    (instant, { cluster with clock := clock })

end DiscoveryCluster

end NodeStorage.InMemory
