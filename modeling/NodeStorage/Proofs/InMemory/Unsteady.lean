/-
**A cluster for reconciling in which any call may fail.**

Which calls fail is open (`Troubles`): it may depend on the call and on how many calls came before.
A call that fails has no effect; every other call does what the cluster does.

* `effect_respond` — what a call does, by the answer that it got.
* `results_of_leads` — after some calls the results are the first ones without those that were
  deleted; nodes and pods stay as they are (`fixed_of_leads`).
* `Filed` — in a cluster every result has a name of its own within its namespace.
-/

import Mathlib.Data.List.Nodup
import NodeStorage.InMemory.DiscoveryCluster
import NodeStorage.Proofs.Discovery.Pruning

namespace NodeStorage.InMemory

open Discovery Dialogue

/-! ### Failing calls -/

/-- What a call answers when it fails. The clock does not fail. -/
def failing? (cause : Error) : (call : ClusterCall) → Option call.Answer
  | .listNodes | .listResults _ | .deleteResult _ _ | .podCounts _ _ | .updateStatus _ _ _ =>
    some (.error cause)
  | .clock => none

/-- Which calls fail, by the number of calls before. -/
abbrev Troubles := Nat → ClusterCall → Option Error

/-- No call fails. -/
def Troubles.none : Troubles := fun _ _ => .none

/-- A cluster with the number of calls that it has been asked. -/
structure UnsteadyCluster where
  count : Nat
  cluster : DiscoveryCluster

namespace UnsteadyCluster

/-- Answers a call, unless it is to fail. -/
def respond (troubles : Troubles) (call : ClusterCall) (state : UnsteadyCluster) :
    call.Answer × UnsteadyCluster :=
  match (troubles state.count call).bind fun cause => failing? cause call with
  | some answer => (answer, ⟨state.count + 1, state.cluster⟩)
  | none =>
    ((DiscoveryCluster.respond call state.cluster).1,
      ⟨state.count + 1, (DiscoveryCluster.respond call state.cluster).2⟩)

/-! ### What a call does -/

/-- **What a call does to the cluster**, by the answer that it got. -/
def Effect (call : ClusterCall) (answer : call.Answer) (before after : DiscoveryCluster) : Prop :=
  match call, answer with
  | .listNodes, .ok nodes => nodes = before.nodes ∧ after = before
  | .listResults namespaceName, .ok results =>
    results = (before.results.filter fun result =>
      result.metadata.namespaceName == some namespaceName) ∧ after = before
  | .deleteResult namespaceName name, .ok () =>
    after = { before with results := before.results.filter fun result =>
      !DiscoveryCluster.isResult namespaceName name result }
  | .podCounts _ _, .ok counts => counts = before.pods ∧ after = before
  | .updateStatus _ _ status, .ok () => after = { before with written := some status }
  | .clock, now => now = before.clock.next ∧ after = { before with clock := before.clock.read.2 }
  | .listNodes, .error _ | .listResults _, .error _ | .deleteResult _ _, .error _
  | .podCounts _ _, .error _ | .updateStatus _ _ _, .error _ => after = before

/-- A call that fails has no effect. -/
theorem effect_failing {call : ClusterCall} {answer : call.Answer} {cause : Error}
    (failing : failing? cause call = some answer) (cluster : DiscoveryCluster) :
    Effect call answer cluster cluster := by
  cases call with
  | clock => cases failing
  | listNodes | listResults | deleteResult | podCounts | updateStatus =>
    cases failing
    rfl

/-- What the cluster does, and whether a failure is planned, shows in its answer. -/
theorem effect_cluster (call : ClusterCall) (cluster : DiscoveryCluster) :
    Effect call (DiscoveryCluster.respond call cluster).1 cluster
      (DiscoveryCluster.respond call cluster).2 := by
  cases call with
  | clock => exact ⟨rfl, rfl⟩
  | listNodes | listResults | podCounts =>
    rw [DiscoveryCluster.respond, Failures.guard]
    split
    · rfl
    · exact ⟨rfl, rfl⟩
  | deleteResult | updateStatus =>
    rw [DiscoveryCluster.respond, Failures.guard]
    split
    · rfl
    · rfl

/-- **Every call has the effect that its answer says**, whatever fails. -/
theorem effect_respond (troubles : Troubles) (call : ClusterCall) (state : UnsteadyCluster) :
    Effect call (respond troubles call state).1 state.cluster
      (respond troubles call state).2.cluster := by
  rw [respond]
  cases failing : (troubles state.count call).bind fun cause => failing? cause call with
  | none => exact effect_cluster call state.cluster
  | some answer =>
    obtain ⟨cause, -, failing⟩ := Option.bind_eq_some_iff.mp failing
    exact effect_failing failing state.cluster

theorem effect_of_leads {troubles : Troubles} {state last : UnsteadyCluster} {call : ClusterCall}
    {answer : call.Answer} {later : List ClusterExchange}
    (leads : Leads (respond troubles) state (⟨call, answer⟩ :: later) last) :
    ∃ next, Effect call answer state.cluster next.cluster ∧
      Leads (respond troubles) next later last := by
  obtain ⟨rfl, later⟩ := leads_cons_iff.mp leads
  exact ⟨_, effect_respond troubles call state, later⟩

/-! ### What calls leave -/

/-- The exchange deletes a result. -/
def deletes (exchange : ClusterExchange) (result : ResultObject) : Bool :=
  match exchange with
  | ⟨.deleteResult namespaceName name, .ok ()⟩ =>
    DiscoveryCluster.isResult namespaceName name result
  | _ => false

/-- One of the exchanges deletes a result. -/
def isDeleted (exchanges : List ClusterExchange) (result : ResultObject) : Bool :=
  exchanges.any fun exchange => deletes exchange result

/-- **A call leaves the results that it does not delete.** -/
theorem Effect.results {call : ClusterCall} {answer : call.Answer}
    {before after : DiscoveryCluster} (effect : Effect call answer before after) :
    after.results = before.results.filter fun result => !deletes ⟨call, answer⟩ result := by
  have all : before.results = before.results.filter fun _ => !false :=
    (List.filter_eq_self.mpr fun _ _ => rfl).symm
  cases call with
  | clock =>
    rw [effect.2]
    exact all
  | listNodes | listResults | podCounts =>
    cases answer with
    | error cause => exact (congrArg DiscoveryCluster.results effect).trans all
    | ok found => exact (congrArg DiscoveryCluster.results effect.2).trans all
  | updateStatus =>
    cases answer <;> exact (congrArg DiscoveryCluster.results effect).trans all
  | deleteResult namespaceName name =>
    cases answer with
    | error cause => exact (congrArg DiscoveryCluster.results effect).trans all
    | ok done => exact congrArg DiscoveryCluster.results effect

/-- No call changes the nodes, the pods or the plan of failures. -/
theorem Effect.fixed {call : ClusterCall} {answer : call.Answer}
    {before after : DiscoveryCluster} (effect : Effect call answer before after) :
    after.nodes = before.nodes ∧ after.pods = before.pods ∧
      after.failures = before.failures := by
  cases call with
  | clock =>
    rw [effect.2]
    exact ⟨rfl, rfl, rfl⟩
  | listNodes | listResults | podCounts =>
    cases answer with
    | error cause => cases effect; exact ⟨rfl, rfl, rfl⟩
    | ok found => cases effect.2; exact ⟨rfl, rfl, rfl⟩
  | updateStatus | deleteResult =>
    cases answer <;> cases effect <;> exact ⟨rfl, rfl, rfl⟩

theorem isDeleted_cons (exchange : ClusterExchange) (exchanges : List ClusterExchange)
    (result : ResultObject) :
    isDeleted (exchange :: exchanges) result =
      (deletes exchange result || isDeleted exchanges result) :=
  List.any_cons

theorem isDeleted_append (early late : List ClusterExchange) (result : ResultObject) :
    isDeleted (early ++ late) result = (isDeleted early result || isDeleted late result) :=
  List.any_append

section Leading

variable {troubles : Troubles} {state last : UnsteadyCluster} {exchanges : List ClusterExchange}

/-- **Calls leave the results that none of them deletes.** -/
theorem results_of_leads (leads : Leads (respond troubles) state exchanges last) :
    last.cluster.results =
      state.cluster.results.filter fun result => !isDeleted exchanges result := by
  induction leads with
  | stay state => exact (List.filter_eq_self.mpr fun _ _ => rfl).symm
  | step call leads ih =>
    rw [ih, (effect_respond troubles call _).results, List.filter_filter]
    refine List.filter_congr fun result _ => ?_
    rw [isDeleted_cons, Bool.not_or, Bool.and_comm]

/-- **Nodes, pods and the plan of failures stay as they are.** -/
theorem fixed_of_leads (leads : Leads (respond troubles) state exchanges last) :
    last.cluster.nodes = state.cluster.nodes ∧ last.cluster.pods = state.cluster.pods ∧
      last.cluster.failures = state.cluster.failures := by
  refine leads.keeps (P := fun next => next.cluster.nodes = state.cluster.nodes ∧
      next.cluster.pods = state.cluster.pods ∧
      next.cluster.failures = state.cluster.failures)
    ⟨rfl, rfl, rfl⟩ fun exchange _ next same => ?_
  obtain ⟨nodes, pods, failures⟩ := (effect_respond troubles exchange.question next).fixed
  exact ⟨nodes.trans same.1, pods.trans same.2.1, failures.trans same.2.2⟩

end Leading

end UnsteadyCluster

/-! ### Names of results -/

/-- The namespace and the name under which the cluster knows a result. -/
def resultKey (result : ResultObject) : Option String × Option String :=
  (result.metadata.namespaceName, result.metadata.name)

/-- **Every result has a name, and no two of a namespace have the same**, as in any cluster. -/
structure Filed (results : List ResultObject) : Prop where
  named : ∀ result ∈ results, result.metadata.name.isSome = true
  apart : (results.map resultKey).Nodup

namespace Filed

variable {results : List ResultObject}

theorem filter (filed : Filed results) (kept : ResultObject → Bool) :
    Filed (results.filter kept) where
  named result member := filed.named result (List.mem_filter.mp member).1
  apart := filed.apart.sublist ((List.filter_sublist).map resultKey)

/-- A result is meant by its own name. -/
theorem isResult_self (filed : Filed results) {result : ResultObject} {namespaceName : String}
    (member : result ∈ results) (inside : result.metadata.namespaceName = some namespaceName) :
    DiscoveryCluster.isResult namespaceName result.metadata.anyName result = true := by
  obtain ⟨name, named⟩ := Option.isSome_iff_exists.mp (filed.named result member)
  simp [DiscoveryCluster.isResult, inside, Cluster.Metadata.anyName, named]

/-- No other result is meant by its name. -/
theorem eq_of_isResult (filed : Filed results) {result other : ResultObject}
    {namespaceName : String} (member : result ∈ results) (otherMember : other ∈ results)
    (inside : result.metadata.namespaceName = some namespaceName)
    (meant : DiscoveryCluster.isResult namespaceName result.metadata.anyName other = true) :
    other = result := by
  refine List.inj_on_of_nodup_map filed.apart otherMember member ?_
  have own := filed.isResult_self member inside
  simp only [DiscoveryCluster.isResult, Bool.and_eq_true, beq_iff_eq] at own meant
  exact Prod.ext (meant.1.trans own.1.symm) (meant.2.trans own.2.symm)

end Filed

end NodeStorage.InMemory
