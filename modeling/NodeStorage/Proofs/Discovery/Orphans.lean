/-
**Pruning deletes exactly the orphans.**

The cluster here is any one that removes what is deleted, and any call to it may fail. A result is a
stray when it is in the object's namespace and an orphan of its selector. The store deletes by name,
so what is said of strays needs that results are filed under names of their own.

* `PruningGoes.bears_of_isDeleted`, `PruningGoes.isDeleted_of_bears` — what is deleted bears the
  name of a stray, and if nothing fails everything that bears one is deleted.
* `Prunes` — what a pruning does to the results: those of other namespaces and those of nodes that
  are meant stay all the time, strays are gone when it works, and a second one has nothing to do.
* `deleteOrphans_prunes` — every pruning asks what it must ask and does this.
-/

import NodeStorage.Proofs.InMemory.Unsteady

namespace NodeStorage.Discovery

open Dialogue InMemory UnsteadyCluster

/-! ### Strays -/

/-- **The result is in the object's namespace and an orphan of its selector.** -/
def IsStray (object : DiscoveryObject) (nodes : List Node) (result : ResultObject) : Prop :=
  result.metadata.namespaceName = some object.prunes ∧
    ∃ selector ∈ object.spec.nodeSelector, IsOrphan selector nodes result

instance (object : DiscoveryObject) (nodes : List Node) (result : ResultObject) :
    Decidable (IsStray object nodes result) :=
  inferInstanceAs (Decidable (_ ∧ _))

section Strays

variable {object : DiscoveryObject} {nodes : List Node} {result : ResultObject}

theorem isStray_iff {selector : NodeSelector}
    (selected : object.spec.nodeSelector = some selector) :
    IsStray object nodes result ↔
      result.metadata.namespaceName = some object.prunes ∧ IsOrphan selector nodes result := by
  simp [IsStray, selected]

theorem not_isStray (unselected : object.spec.nodeSelector = none) :
    ¬ IsStray object nodes result := by
  simp [IsStray, unselected]

/-- The orphans among the results of the namespace are the strays. -/
theorem filter_isOrphan {selector : NodeSelector}
    (selected : object.spec.nodeSelector = some selector) (results : List ResultObject) :
    ((results.filter fun result => result.metadata.namespaceName == some object.prunes).filter
        fun result => IsOrphan selector nodes result) =
      results.filter fun result => IsStray object nodes result := by
  rw [List.filter_filter]
  refine List.filter_congr fun result _ => ?_
  rw [Bool.eq_iff_iff, decide_eq_true_iff, isStray_iff selected, Bool.and_eq_true,
    decide_eq_true_iff, beq_iff_eq, and_comm]

end Strays

/-! ### What is deleted -/

/-- The cluster knows a result by the name of another. -/
def Bears (object : DiscoveryObject) (given result : ResultObject) : Prop :=
  DiscoveryCluster.isResult object.prunes given.metadata.anyName result = true

section Deleted

variable {object : DiscoveryObject} {troubles : Troubles} {initial last : UnsteadyCluster}
  {exchanges : List ClusterExchange} {outcome : Outcome (List String)} {result : ResultObject}

/-- Deletions that all work delete what bears the name of a result given to them. -/
theorem isDeleted_deletions {given : List ResultObject} :
    isDeleted (given.map (deletion object.prunes (.ok ()))) result = true ↔
      ∃ other ∈ given, Bears object other result := by
  rw [isDeleted, List.any_map, List.any_eq_true]
  exact Iff.rfl

theorem DeletionGoes.bears_of_isDeleted {deleted : List String} {given : List ResultObject}
    (goes : DeletionGoes object.prunes deleted given exchanges outcome)
    (gone : isDeleted exchanges result = true) : ∃ other ∈ given, Bears object other result := by
  cases goes with
  | complete => exact isDeleted_deletions.mp gone
  | @stopped done rest stuck cause split =>
    rw [isDeleted_append, Bool.or_eq_true] at gone
    rcases gone with gone | impossible
    · obtain ⟨other, member, bears⟩ := isDeleted_deletions.mp gone
      exact ⟨other, by rw [split]; exact List.mem_append_left _ member, bears⟩
    · cases impossible

/-- What is deleted once all is listed is the strays of the cluster. -/
theorem DeletionGoes.of_listed {selector : NodeSelector} {nodes : List Node}
    {results : List ResultObject}
    (goes : DeletionGoes object.prunes []
      (results.filter fun result => IsOrphan selector nodes result) exchanges outcome)
    (selected : object.spec.nodeSelector = some selector)
    (leads : Leads (respond troubles) initial
      (⟨.listNodes, .ok nodes⟩ :: ⟨.listResults object.prunes, .ok results⟩ :: exchanges) last) :
    DeletionGoes object.prunes []
      (initial.cluster.results.filter fun result => IsStray object initial.cluster.nodes result)
      exchanges outcome := by
  obtain ⟨next, ⟨nodes, same⟩, later⟩ := effect_of_leads leads
  obtain ⟨third, ⟨found, -⟩, -⟩ := effect_of_leads later
  rw [nodes, found, same, filter_isOrphan selected] at goes
  exact goes

/-- **What a pruning deletes bears the name of a stray.** -/
theorem PruningGoes.bears_of_isDeleted (goes : PruningGoes object exchanges outcome)
    (leads : Leads (respond troubles) initial exchanges last)
    (gone : isDeleted exchanges result = true) :
    ∃ stray ∈ initial.cluster.results,
      IsStray object initial.cluster.nodes stray ∧ Bears object stray result := by
  cases goes with
  | unselected | withoutNodes | withoutResults => cases gone
  | listed selected goes =>
    obtain ⟨stray, member, bears⟩ := (goes.of_listed selected leads).bears_of_isDeleted gone
    obtain ⟨member, isStray⟩ := List.mem_filter.mp member
    exact ⟨stray, member, of_decide_eq_true isStray, bears⟩

/-- A pruning that works gives the names of the strays. -/
theorem PruningGoes.names {names : List String} (goes : PruningGoes object exchanges (.ok names))
    (leads : Leads (respond troubles) initial exchanges last) :
    names = (initial.cluster.results.filter fun result =>
      IsStray object initial.cluster.nodes result).map fun stray => stray.metadata.anyName := by
  cases goes with
  | unselected none =>
    rw [List.filter_eq_nil_iff.mpr fun result _ => by simp [not_isStray none], List.map_nil]
  | listed selected goes =>
    cases goes.of_listed selected leads
    rfl

/-- **A pruning that works deletes everything that bears the name of a stray.** -/
theorem PruningGoes.isDeleted_of_bears {names : List String}
    (goes : PruningGoes object exchanges (.ok names))
    (leads : Leads (respond troubles) initial exchanges last) {stray : ResultObject}
    (member : stray ∈ initial.cluster.results)
    (isStray : IsStray object initial.cluster.nodes stray) (bears : Bears object stray result) :
    isDeleted exchanges result = true := by
  cases goes with
  | unselected none => exact absurd isStray (not_isStray none)
  | listed selected goes =>
    cases goes.of_listed selected leads
    exact isDeleted_deletions.mpr
      ⟨stray, List.mem_filter.mpr ⟨member, decide_eq_true isStray⟩, bears⟩

/-- Where there are no strays a pruning deletes nothing, and works unless a listing fails. -/
theorem PruningGoes.of_clean (goes : PruningGoes object exchanges outcome)
    (leads : Leads (respond troubles) initial exchanges last)
    (clean : ∀ result ∈ initial.cluster.results, ¬ IsStray object initial.cluster.nodes result) :
    (∀ exchange ∈ exchanges, ∀ namespaceName name,
        exchange.question ≠ .deleteResult namespaceName name) ∧
      ((∀ exchange ∈ exchanges, failure? exchange = none) → outcome = .ok []) := by
  cases goes with
  | unselected => exact ⟨by simp, fun _ => rfl⟩
  | withoutNodes | withoutResults => simp [failure?]
  | listed selected goes =>
    have strays := goes.of_listed selected leads
    rw [List.filter_eq_nil_iff.mpr fun result member => by simp [clean result member]] at strays
    cases strays with
    | complete => simp
    | @stopped done rest stuck cause split => cases done <;> cases split

end Deleted

/-! ### What is left -/

/-- **What a pruning does to the results of the cluster.** -/
structure Prunes (object : DiscoveryObject) (troubles : Troubles) (initial : UnsteadyCluster) :
    Prop where
  /-- Results of other namespaces are the same all the time. -/
  elsewhere : ∀ middle, Passes (respond troubles) (deleteOrphans object) initial middle →
    (middle.cluster.results.filter fun result =>
        result.metadata.namespaceName ≠ some object.prunes) =
      initial.cluster.results.filter fun result =>
        result.metadata.namespaceName ≠ some object.prunes
  /-- What is not a stray is there all the time: the results of nodes that are meant, and every
  result where there is no selector. -/
  spared : ∀ middle, Passes (respond troubles) (deleteOrphans object) initial middle →
    ∀ result ∈ initial.cluster.results, ¬ IsStray object initial.cluster.nodes result →
      result ∈ middle.cluster.results
  /-- When it works the strays are gone, and nothing else; it gives their names in order. -/
  cleared : ∀ names last,
    Dialogue.run (respond troubles) (deleteOrphans object) initial = (.ok names, last) →
      (last.cluster.results = initial.cluster.results.filter fun result =>
        ¬ IsStray object initial.cluster.nodes result) ∧
      names = (initial.cluster.results.filter fun result =>
        IsStray object initial.cluster.nodes result).map fun stray => stray.metadata.anyName
  /-- A second one then deletes nothing, and gives no names unless a listing fails. -/
  again : ∀ names last,
    Dialogue.run (respond troubles) (deleteOrphans object) initial = (.ok names, last) →
      ∀ others : Troubles,
        let second := Dialogue.trace (respond others) (deleteOrphans object) last
        (∀ exchange ∈ second, ∀ namespaceName name,
          exchange.question ≠ .deleteResult namespaceName name) ∧
        ((∀ exchange ∈ second, failure? exchange = none) →
          (Dialogue.run (respond others) (deleteOrphans object) last).1 = .ok [])

section Left

variable {object : DiscoveryObject} {troubles : Troubles} {initial : UnsteadyCluster}

/-- Nothing is deleted in another namespace. -/
theorem Bears.inside {given result : ResultObject} (bears : Bears object given result) :
    result.metadata.namespaceName = some object.prunes := by
  rw [Bears, DiscoveryCluster.isResult, Bool.and_eq_true, beq_iff_eq] at bears
  exact bears.1

/-- A pruning of filed results deletes no other than strays. -/
theorem isStray_of_isDeleted (filed : Filed initial.cluster.results)
    {exchanges : List ClusterExchange} {outcome : Outcome (List String)} {last : UnsteadyCluster}
    (goes : PruningGoes object exchanges outcome)
    (leads : Leads (respond troubles) initial exchanges last) {result : ResultObject}
    (member : result ∈ initial.cluster.results) (gone : isDeleted exchanges result = true) :
    IsStray object initial.cluster.nodes result := by
  obtain ⟨stray, strayMember, isStray, bears⟩ := goes.bears_of_isDeleted leads gone
  rw [filed.eq_of_isResult strayMember member isStray.1 bears]
  exact isStray

/-- A pruning of filed results that works leaves those that are not strays. -/
theorem results_of_pruned (filed : Filed initial.cluster.results)
    {exchanges : List ClusterExchange} {names : List String} {last : UnsteadyCluster}
    (goes : PruningGoes object exchanges (.ok names))
    (leads : Leads (respond troubles) initial exchanges last) :
    last.cluster.results = initial.cluster.results.filter fun result =>
      ¬ IsStray object initial.cluster.nodes result := by
  rw [results_of_leads leads]
  refine List.filter_congr fun result member => ?_
  rw [Bool.eq_iff_iff, decide_eq_true_iff, Bool.not_eq_true', ← Bool.not_eq_true]
  refine not_congr ⟨isStray_of_isDeleted filed goes leads member, fun isStray => ?_⟩
  exact goes.isDeleted_of_bears leads member isStray (filed.isResult_self member isStray.1)

/-- On its way a pruning has deleted part of what it deletes. -/
theorem results_of_passes {middle : UnsteadyCluster}
    (passes : Passes (respond troubles) (deleteOrphans object) initial middle) :
    ∃ kept : ResultObject → Bool, middle.cluster.results = initial.cluster.results.filter kept ∧
      ∀ result, kept result = false → isDeleted
        (Dialogue.trace (respond troubles) (deleteOrphans object) initial) result = true := by
  obtain ⟨early, late, split, leads⟩ := passes
  refine ⟨_, results_of_leads leads, fun result gone => ?_⟩
  rw [split, isDeleted_append, Bool.or_eq_true]
  rw [Bool.not_eq_false'] at gone
  exact Or.inl gone

theorem prunes_of_filed (filed : Filed initial.cluster.results) :
    Prunes object troubles initial := by
  have goes := conversation_deleteOrphans_iff.mp
    (conversation_trace (respond troubles) (deleteOrphans object) initial)
  have leads := leads_trace (respond troubles) (deleteOrphans object) initial
  constructor
  case elsewhere =>
    intro middle passes
    obtain ⟨kept, same, deleted⟩ := results_of_passes passes
    rw [same, List.filter_filter]
    refine List.filter_congr fun result _ => ?_
    cases keeps : kept result with
    | true => rw [Bool.and_true]
    | false =>
      obtain ⟨stray, -, -, bears⟩ := goes.bears_of_isDeleted leads (deleted result keeps)
      simp [bears.inside]
  case spared =>
    intro middle passes result member notStray
    obtain ⟨kept, same, deleted⟩ := results_of_passes passes
    rw [same]
    refine List.mem_filter.mpr ⟨member, ?_⟩
    by_contra lost
    have gone := deleted result (Bool.not_eq_true _ ▸ lost)
    exact notStray (isStray_of_isDeleted filed goes leads member gone)
  case cleared =>
    intro names last ran
    rw [ran] at goes leads
    exact ⟨results_of_pruned filed goes leads, goes.names leads⟩
  case again =>
    intro names last ran others
    rw [ran] at goes leads
    have cleared := results_of_pruned filed goes leads
    have nodes := (fixed_of_leads leads).1
    refine (conversation_deleteOrphans_iff.mp
      (conversation_trace (respond others) (deleteOrphans object) last)).of_clean
      (leads_trace (respond others) (deleteOrphans object) last) fun result member => ?_
    rw [cleared] at member
    rw [nodes]
    exact of_decide_eq_true (List.mem_filter.mp member).2

end Left

/-- **Every pruning asks what it must ask, and deletes exactly the orphans.** -/
theorem deleteOrphans_prunes (object : DiscoveryObject) :
    (∀ exchanges outcome, Conversation (deleteOrphans object) exchanges outcome ↔
      PruningGoes object exchanges outcome) ∧
    ∀ (troubles : Troubles) (initial : UnsteadyCluster), Filed initial.cluster.results →
      Prunes object troubles initial :=
  ⟨fun _ _ => conversation_deleteOrphans_iff, fun _ _ => prunes_of_filed⟩

/-- An object that means the nodes with disks. -/
def diskDiscovery : DiscoveryObject where
  metadata := { name := some "disks", namespaceName := some "storage", generation := some 2 }
  spec := ⟨some ⟨[⟨[⟨"disks", .exists, []⟩], []⟩]⟩⟩
  status := none

/-- A node with disks, a node without, and the results of both and of a node that is gone; in
another namespace there is a result of a node without disks, too. -/
def diskCluster : DiscoveryCluster where
  nodes := [⟨"worker-0", [("disks", "2")]⟩, ⟨"worker-1", []⟩]
  results :=
    [ResultIdentity.newResult ⟨"worker-1", "storage", "disks", "d1"⟩,
      ResultIdentity.newResult ⟨"worker-0", "storage", "disks", "d1"⟩,
      ResultIdentity.newResult ⟨"worker-7", "storage", "disks", "d1"⟩,
      ResultIdentity.newResult ⟨"worker-1", "archive", "disks", "d2"⟩]
  pods := some ⟨1, 1⟩
  failures := []
  clock := default
  written := none

theorem diskCluster_filed : Filed diskCluster.results where
  named := by decide
  apart := by decide

/-- The results of the nodes without disks go, unless their deletion fails. -/
theorem diskDiscovery_prunes :
    (Dialogue.run (respond Troubles.none) (deleteOrphans diskDiscovery) ⟨0, diskCluster⟩).1 =
        .ok ["discovery-result-worker-1", "discovery-result-worker-7"] ∧
      ∀ troubles, Prunes diskDiscovery troubles ⟨0, diskCluster⟩ :=
  ⟨by decide, fun troubles =>
    (deleteOrphans_prunes diskDiscovery).2 troubles ⟨0, diskCluster⟩ diskCluster_filed⟩

end NodeStorage.Discovery
