/-
**Rounds converge once nothing fails.**

An object is looked at again and again, and a round may fail at any call. Each may have deleted some
of the orphans; so it does not help to follow the results in between. What does not change is what a
pruning would leave (`kept`): a round deletes strays only, and strays are not part of it. The first
round in which nothing fails leaves exactly that.

* `kept_attended` — rounds do not change what a pruning would leave, as many as there are.
* `Settled` — the namespace holds the results of the nodes that are meant, other namespaces what
  they held, and the status says what the pods call for.
* `reconcile_settles` — **every round stops at the first failure, and the first round without one
  settles the cluster.**
-/

import NodeStorage.Proofs.Discovery.Orphans
import NodeStorage.Proofs.Discovery.Rounds

namespace NodeStorage.Discovery

open Dialogue InMemory UnsteadyCluster

/-! ### One round -/

/-- What a pruning would leave of the results. -/
def kept (object : DiscoveryObject) (cluster : DiscoveryCluster) : List ResultObject :=
  cluster.results.filter fun result => ¬ IsStray object cluster.nodes result

section Round

variable {daemonSet : String} {object : DiscoveryObject} {troubles : Troubles}
  {initial last : UnsteadyCluster} {exchanges : List ClusterExchange} {outcome : Outcome Requeue}

/-- Only the pruning of a round deletes anything. -/
theorem RoundGoes.isStray_of_isDeleted (filed : Filed initial.cluster.results)
    (goes : RoundGoes daemonSet object exchanges outcome)
    (leads : Leads (respond troubles) initial exchanges last) {result : ResultObject}
    (member : result ∈ initial.cluster.results) (gone : isDeleted exchanges result = true) :
    IsStray object initial.cluster.nodes result := by
  have pruned {pruning late : List ClusterExchange} {outcome : Outcome (List String)}
      (goes : PruningGoes object pruning outcome)
      (leads : Leads (respond troubles) initial (pruning ++ late) last)
      (gone : isDeleted (pruning ++ late) result = true)
      (others : isDeleted late result = false) : IsStray object initial.cluster.nodes result := by
    obtain ⟨middle, early, -⟩ := leads_append_iff.mp leads
    rw [isDeleted_append, others, Bool.or_false] at gone
    exact Discovery.isStray_of_isDeleted filed goes early member gone
  cases goes with
  | nameless => cases gone
  | unpruned _ goes => exact Discovery.isStray_of_isDeleted filed goes leads member gone
  | uncounted _ goes => exact pruned goes leads gone rfl
  | reported _ goes => exact pruned goes leads gone rfl

/-- **A round does not change what a pruning would leave.** -/
theorem RoundGoes.kept (filed : Filed initial.cluster.results)
    (goes : RoundGoes daemonSet object exchanges outcome)
    (leads : Leads (respond troubles) initial exchanges last) :
    kept object last.cluster = kept object initial.cluster := by
  rw [Discovery.kept, Discovery.kept, (fixed_of_leads leads).1, results_of_leads leads,
    List.filter_filter]
  refine List.filter_congr fun result member => ?_
  cases gone : isDeleted exchanges result with
  | false => rw [Bool.not_false, Bool.and_true]
  | true => simp [goes.isStray_of_isDeleted filed leads member gone]

/-- Where no trouble is made, no call fails. -/
theorem failure?_of_leads (leads : Leads (respond Troubles.none) initial exchanges last)
    (working : initial.cluster.failures = []) :
    ∀ exchange ∈ exchanges, failure? exchange = none := by
  induction leads with
  | stay => exact List.forall_mem_nil _
  | @step state last exchanges call leads ih =>
    refine List.forall_mem_cons.mpr ⟨?_, ih ?_⟩
    · cases call <;> simp [respond, Troubles.none, DiscoveryCluster.respond, Failures.guard,
        Failures.of?, Failures.lookup?, working, failure?]
    · exact (effect_respond Troubles.none call state).fixed.2.2.trans working

/-- What stops with an error has a call that failed. -/
theorem StopsAtFailure.not_works {Value : Type} {cause : Error}
    (stops : StopsAtFailure exchanges (.error cause : Outcome Value)) :
    ¬ ∀ exchange ∈ exchanges, failure? exchange = none := by
  obtain ⟨earlier, last, rfl, -, failed⟩ := stops
  intro works
  have worked := works last (List.mem_append_right _ (List.mem_singleton_self last))
  rw [failed] at worked
  cases worked

/-- **A round in which nothing fails** leaves what a pruning leaves, and writes the status that is
due at the time that it reads. -/
theorem RoundGoes.of_works (filed : Filed initial.cluster.results)
    (goes : RoundGoes daemonSet object exchanges outcome)
    (placed : object.metadata.namespaceName.isSome = true)
    (leads : Leads (respond troubles) initial exchanges last)
    (works : ∀ exchange ∈ exchanges, failure? exchange = none) :
    outcome = .ok (.after resyncSeconds) ∧
      last.cluster.results = Discovery.kept object initial.cluster ∧
      ∃ now, ⟨.clock, now⟩ ∈ exchanges ∧ last.cluster.written = some
        (nextStatus object.status initial.cluster.pods object.metadata.generation now) := by
  cases goes with
  | nameless none =>
    rw [none] at placed
    cases placed
  | unpruned _ goes => exact absurd works goes.stops.not_works
  | uncounted _ goes =>
    have failed := works _ (List.mem_append_right _ (List.mem_singleton_self _))
    cases failed
  | @reported _ pruning names pods now written _ goes =>
    obtain ⟨middle, pruned, reported⟩ := leads_append_iff.mp leads
    obtain ⟨counted, ⟨rfl, same⟩, timing⟩ := effect_of_leads reported
    obtain ⟨timed, ⟨-, ticked⟩, writing⟩ := effect_of_leads timing
    obtain ⟨final, effect, ended⟩ := effect_of_leads writing
    obtain rfl := leads_nil_iff.mp ended
    cases written with
    | error cause => simpa [failure?] using works _ (List.mem_append_right _
        (List.mem_cons_of_mem _ (List.mem_cons_of_mem _ (List.mem_singleton_self _))))
    | ok value =>
      have left : last.cluster = { timed.cluster with written := some (nextStatus object.status
          middle.cluster.pods object.metadata.generation now) } := effect
      rw [left, ticked, same]
      refine ⟨rfl, results_of_pruned filed goes pruned, now, ?_, ?_⟩
      · exact List.mem_append_right _ (List.mem_cons_of_mem _ List.mem_cons_self)
      · rw [(fixed_of_leads pruned).2.1]

end Round

/-! ### Many rounds -/

/-- A time at which an object is looked at: what its status and its generation are, which pods run,
and which calls fail. -/
structure Occasion where
  status : Option Status
  generation : Option Int
  pods : Option PodCounts
  troubles : Troubles

/-- The object on an occasion. -/
def DiscoveryObject.on (object : DiscoveryObject) (occasion : Occasion) : DiscoveryObject :=
  { object with
    status := occasion.status
    metadata := { object.metadata with generation := occasion.generation } }

/-- The cluster on an occasion. -/
def Occasion.meets (occasion : Occasion) (state : UnsteadyCluster) : UnsteadyCluster :=
  { state with cluster := { state.cluster with pods := occasion.pods } }

/-- The state after rounds on some occasions. -/
def attended (daemonSet : String) (object : DiscoveryObject) :
    List Occasion → UnsteadyCluster → UnsteadyCluster
  | [], state => state
  | occasion :: rest, state =>
    attended daemonSet object rest (Dialogue.run (respond occasion.troubles)
      (reconcile daemonSet (object.on occasion)) (occasion.meets state)).2

/-- The state in which no call is planned to fail any more. -/
def mended (state : UnsteadyCluster) : UnsteadyCluster :=
  { state with cluster := { state.cluster with failures := [] } }

/-- **Rounds do not change what a pruning would leave**, as many as there are. -/
theorem kept_attended (daemonSet : String) (object : DiscoveryObject) (occasions : List Occasion)
    {initial : UnsteadyCluster} (filed : Filed initial.cluster.results) :
    Filed (attended daemonSet object occasions initial).cluster.results ∧
      kept object (attended daemonSet object occasions initial).cluster =
        kept object initial.cluster := by
  induction occasions generalizing initial with
  | nil => exact ⟨filed, rfl⟩
  | cons occasion occasions ih =>
    have goes := roundGoes_of_conversation (conversation_trace (respond occasion.troubles)
      (reconcile daemonSet (object.on occasion)) (occasion.meets initial))
    have leads := leads_trace (respond occasion.troubles)
      (reconcile daemonSet (object.on occasion)) (occasion.meets initial)
    rw [attended]
    generalize (Dialogue.run (respond occasion.troubles) (reconcile daemonSet (object.on occasion))
      (occasion.meets initial)).2 = next at leads ⊢
    have met : Filed (occasion.meets initial).cluster.results := filed
    have remaining : Filed next.cluster.results := by
      rw [results_of_leads leads]
      exact met.filter _
    have unchanged := goes.kept met leads
    obtain ⟨last, left⟩ := ih remaining
    exact ⟨last, left.trans unchanged⟩

/-! ### Settled -/

/-- The result's node is one that the object means; without a selector every node is. -/
def IsMeant (object : DiscoveryObject) (nodes : List Node) (result : ResultObject) : Prop :=
  ∀ selector ∈ object.spec.nodeSelector,
    ∃ node ∈ nodes, selector.fits node = true ∧ node.name = result.nodeName

instance (object : DiscoveryObject) (nodes : List Node) (result : ResultObject) :
    Decidable (IsMeant object nodes result) :=
  inferInstanceAs (Decidable (∀ selector ∈ object.spec.nodeSelector, _))

theorem not_isStray_iff {object : DiscoveryObject} {nodes : List Node} {result : ResultObject}
    (inside : result.metadata.namespaceName = some object.prunes) :
    ¬ IsStray object nodes result ↔ IsMeant object nodes result := by
  simp [IsStray, IsMeant, IsOrphan, inside]

/-- **The results are those of the nodes that are meant, and the status is the one that is due.** -/
structure Settled (object : DiscoveryObject) (pods : Option PodCounts) (now : Instant)
    (before after : DiscoveryCluster) : Prop where
  inside : (after.results.filter fun result =>
      result.metadata.namespaceName = object.metadata.namespaceName) =
    (before.results.filter fun result =>
      result.metadata.namespaceName = object.metadata.namespaceName).filter
        fun result => IsMeant object before.nodes result
  elsewhere : (after.results.filter fun result =>
      result.metadata.namespaceName ≠ object.metadata.namespaceName) =
    before.results.filter fun result =>
      result.metadata.namespaceName ≠ object.metadata.namespaceName
  written : after.written =
    some (nextStatus object.status pods object.metadata.generation now)

theorem settled_of_kept {object : DiscoveryObject} {pods : Option PodCounts} {now : Instant}
    {before after : DiscoveryCluster} {namespaceName : String}
    (placed : object.metadata.namespaceName = some namespaceName)
    (left : after.results = kept object before)
    (written : after.written =
      some (nextStatus object.status pods object.metadata.generation now)) :
    Settled object pods now before after := by
  have own : object.metadata.namespaceName = some object.prunes := by
    rw [DiscoveryObject.prunes, placed]
    rfl
  refine ⟨?_, ?_, written⟩
  · rw [left, kept, List.filter_filter, List.filter_filter]
    refine List.filter_congr fun result _ => ?_
    by_cases inside : result.metadata.namespaceName = some object.prunes
    · rw [own, Bool.eq_iff_iff]
      simp [inside, not_isStray_iff inside]
    · simp [own, inside]
  · rw [left, kept, List.filter_filter]
    refine List.filter_congr fun result _ => ?_
    by_cases inside : result.metadata.namespaceName = some object.prunes
    · simp [own, inside]
    · simp [own, inside, IsStray]

/-- **Every round keeps to its plan up to the first failure, and the first round in which nothing
fails settles the cluster**, whatever the rounds before it came to. -/
theorem reconcile_settles (daemonSet : String) (object : DiscoveryObject) :
    (∀ exchanges outcome, Conversation (reconcile daemonSet object) exchanges outcome →
      (object.metadata.namespaceName = none →
        exchanges = [] ∧ ∃ message, outcome = .error (.configuration message)) ∧
      ∀ namespaceName, object.metadata.namespaceName = some namespaceName →
        ∃ findings, KeepsToPlan daemonSet namespaceName object findings exchanges outcome) ∧
    ∀ (occasions : List Occasion) (final : Occasion) (initial : UnsteadyCluster),
      object.metadata.namespaceName.isSome = true → Filed initial.cluster.results →
        let round := reconcile daemonSet (object.on final)
        let state := final.meets (mended (attended daemonSet object occasions initial))
        ∃ last now, Dialogue.run (respond Troubles.none) round state =
            (.ok (.after resyncSeconds), last) ∧
          ⟨.clock, now⟩ ∈ Dialogue.trace (respond Troubles.none) round state ∧
          Settled (object.on final) final.pods now initial.cluster last.cluster := by
  refine ⟨fun exchanges outcome conversation => ?_, fun occasions final initial placed filed => ?_⟩
  · have goes := roundGoes_of_conversation conversation
    refine ⟨fun none => ?_, fun namespaceName placed => goes.keepsToPlan placed⟩
    cases goes with
    | nameless => exact ⟨rfl, _, rfl⟩
    | unpruned other | uncounted other | reported other =>
      rw [none] at other
      cases other
  · intro round state
    obtain ⟨filed, left⟩ := kept_attended daemonSet object occasions filed
    have goes := roundGoes_of_conversation (conversation_trace (respond Troubles.none) round state)
    have leads := leads_trace (respond Troubles.none) round state
    have met : Filed state.cluster.results := filed
    obtain ⟨worked, results, now, timed, written⟩ :=
      goes.of_works met placed leads (failure?_of_leads leads rfl)
    obtain ⟨namespaceName, named⟩ := Option.isSome_iff_exists.mp placed
    exact ⟨_, now, Prod.ext worked rfl, timed, settled_of_kept named (results.trans left) written⟩

/-- All calls after the third fail. -/
def interrupted : Occasion :=
  ⟨none, some 1, none, fun count _ => if 3 ≤ count then some (.internal "timeout") else none⟩

/-- Nothing fails, and the one pod that is wanted runs. -/
def calm : Occasion :=
  ⟨none, some 2, some ⟨1, 1⟩, Troubles.none⟩

/-- A round that fails between two deletions is made good by the next. -/
theorem diskDiscovery_settles :
    (Dialogue.run (respond interrupted.troubles)
        (reconcile defaultDaemonSet (diskDiscovery.on interrupted)) ⟨0, diskCluster⟩).1 =
          .error (.internal "timeout") ∧
      ∃ last now,
        Dialogue.run (respond Troubles.none) (reconcile defaultDaemonSet (diskDiscovery.on calm))
            (calm.meets
              (mended (attended defaultDaemonSet diskDiscovery [interrupted] ⟨0, diskCluster⟩))) =
          (.ok (.after resyncSeconds), last) ∧
        Settled (diskDiscovery.on calm) calm.pods now diskCluster last.cluster := by
  refine ⟨by decide, ?_⟩
  obtain ⟨last, now, ran, -, settled⟩ := (reconcile_settles defaultDaemonSet diskDiscovery).2
    [interrupted] calm ⟨0, diskCluster⟩ rfl diskCluster_filed
  exact ⟨last, now, ran, settled⟩

end NodeStorage.Discovery
