/-
**A round stops at the first failure.**

Nothing is assumed of the cluster: any call may fail, and the others may be answered anything.

* `RoundGoes` — the ways in which a round can go, by how its pruning goes.
* `roundPlan` — the calls of a round in which nothing fails: with a selector the listings and a
  deletion for each orphan, then the counts and the status.
* `KeepsToPlan` — what a round asks is the start of its plan; it ends where a call fails, with the
  error of that call, and at the end of the plan otherwise.
* `RoundGoes.keepsToPlan` — every round does.
-/

import NodeStorage.Proofs.Discovery.Pruning

namespace NodeStorage.Discovery

open Dialogue

/-! ### The ways of a round -/

/-- **The ways in which a round can go.** -/
inductive RoundGoes (daemonSet : String) (object : DiscoveryObject) :
    List ClusterExchange → Outcome Requeue → Prop
  /-- Without a namespace nothing is asked. -/
  | nameless {message : String} :
      object.metadata.namespaceName = none →
      RoundGoes daemonSet object [] (.error (.configuration message))
  | unpruned {namespaceName : String} {pruning : List ClusterExchange} {cause : Error} :
      object.metadata.namespaceName = some namespaceName →
      PruningGoes object pruning (.error cause) →
      RoundGoes daemonSet object pruning (.error cause)
  | uncounted {namespaceName : String} {pruning : List ClusterExchange} {names : List String}
      {cause : Error} :
      object.metadata.namespaceName = some namespaceName →
      PruningGoes object pruning (.ok names) →
      RoundGoes daemonSet object
        (pruning ++ [⟨.podCounts namespaceName daemonSet, .error cause⟩]) (.error cause)
  | reported {namespaceName : String} {pruning : List ClusterExchange} {names : List String}
      {pods : Option PodCounts} {now : Instant} {written : Outcome Unit} :
      object.metadata.namespaceName = some namespaceName →
      PruningGoes object pruning (.ok names) →
      RoundGoes daemonSet object
        (pruning ++ [⟨.podCounts namespaceName daemonSet, .ok pods⟩, ⟨.clock, now⟩,
          ⟨.updateStatus namespaceName object.metadata.anyName
            (nextStatus object.status pods object.metadata.generation now), written⟩])
        (written.map fun _ => .after resyncSeconds)

/-- A round of an object with a namespace, step by step. -/
theorem reconcile_eq {daemonSet namespaceName : String} {object : DiscoveryObject}
    (placed : object.metadata.namespaceName = some namespaceName) :
    reconcile daemonSet object = (deleteOrphans object).attempt fun _ =>
      .ask (.podCounts namespaceName daemonSet) fun counted : Outcome (Option PodCounts) =>
        match counted with
        | .error cause => .done (.error cause)
        | .ok pods => .ask .clock fun now : Instant =>
            .ask (.updateStatus namespaceName object.metadata.anyName
                (nextStatus object.status pods object.metadata.generation now))
              fun written : Outcome Unit => .done (written.map fun _ => .after resyncSeconds) := by
  rw [reconcile, placed, attempt]
  refine congrArg (Dialogue.bind (deleteOrphans object)) (funext fun pruned => ?_)
  cases pruned with
  | error cause => rfl
  | ok names =>
    refine congrArg (Dialogue.ask (ClusterCall.podCounts namespaceName daemonSet))
      (funext fun counted => ?_)
    cases counted with
    | error cause => rfl
    | ok pods =>
      refine congrArg (Dialogue.ask ClusterCall.clock) (funext fun now => ?_)
      refine congrArg (Dialogue.ask (ClusterCall.updateStatus namespaceName _ _))
        (funext fun written => ?_)
      cases written <;> rfl

/-- **Every round goes in one of these ways.** -/
theorem roundGoes_of_conversation {daemonSet : String} {object : DiscoveryObject}
    {exchanges : List ClusterExchange} {outcome : Outcome Requeue}
    (conversation : Conversation (reconcile daemonSet object) exchanges outcome) :
    RoundGoes daemonSet object exchanges outcome := by
  cases placed : object.metadata.namespaceName with
  | none =>
    rw [reconcile, placed] at conversation
    obtain ⟨rfl, rfl⟩ := conversation_done_iff.mp conversation
    exact .nameless placed
  | some namespaceName =>
    rw [reconcile_eq placed] at conversation
    rcases conversation_attempt_iff.mp conversation with
      ⟨cause, pruned, rfl⟩ | ⟨pruning, names, reporting, rfl, pruned, reported⟩
    · exact .unpruned placed (conversation_deleteOrphans_iff.mp pruned)
    · have goes := conversation_deleteOrphans_iff.mp pruned
      obtain ⟨counted, rest, rfl, reports⟩ := conversation_ask_iff.mp reported
      cases counted with
      | error cause =>
        obtain ⟨rfl, rfl⟩ := conversation_done_iff.mp reports
        exact .uncounted placed goes
      | ok pods =>
        obtain ⟨now, rest, rfl, timed⟩ := conversation_ask_iff.mp reports
        obtain ⟨written, rest, rfl, ends⟩ := conversation_ask_iff.mp timed
        obtain ⟨rfl, rfl⟩ := conversation_done_iff.mp ends
        exact .reported placed goes

/-! ### The plan of a round -/

/-- What a cluster says in a round. -/
structure Findings where
  nodes : List Node
  results : List ResultObject
  pods : Option PodCounts
  now : Instant

/-- The answer is what is found, unless it is an error. -/
def Findings.Give (findings : Findings) : ClusterExchange → Prop
  | ⟨.listNodes, .ok nodes⟩ => nodes = findings.nodes
  | ⟨.listResults _, .ok results⟩ => results = findings.results
  | ⟨.podCounts _ _, .ok pods⟩ => pods = findings.pods
  | ⟨.clock, now⟩ => now = findings.now
  | ⟨_, _⟩ => True

/-- The calls to the cluster, in order; the clock is not part of it. -/
def calls (exchanges : List ClusterExchange) : List ClusterCall :=
  exchanges.filterMap fun exchange =>
    match exchange.question with
    | .clock => none
    | call => some call

@[simp] theorem calls_nil : calls [] = [] := rfl

@[simp] theorem calls_append (early late : List ClusterExchange) :
    calls (early ++ late) = calls early ++ calls late :=
  List.filterMap_append

/-- The calls of a pruning in which nothing fails. -/
def pruningPlan (object : DiscoveryObject) (findings : Findings) : List ClusterCall :=
  match object.spec.nodeSelector with
  | none => []
  | some selector =>
    .listNodes :: .listResults object.prunes ::
      (findings.results.filter fun result => IsOrphan selector findings.nodes result).map
        fun orphan => .deleteResult object.prunes orphan.metadata.anyName

/-- **The calls of a round in which nothing fails.** -/
def roundPlan (daemonSet namespaceName : String) (object : DiscoveryObject) (findings : Findings) :
    List ClusterCall :=
  pruningPlan object findings ++
    [.podCounts namespaceName daemonSet,
      .updateStatus namespaceName object.metadata.anyName
        (nextStatus object.status findings.pods object.metadata.generation findings.now)]

/-- Nothing fails, or the last call and only that; its error is the outcome. -/
def StopsAtFailure {Value : Type} (exchanges : List ClusterExchange) :
    Outcome Value → Prop
  | .ok _ => ∀ exchange ∈ exchanges, failure? exchange = none
  | .error cause => ∃ earlier last, exchanges = earlier ++ [last] ∧
      (∀ exchange ∈ earlier, failure? exchange = none) ∧ failure? last = some cause

/-- **What a round asks is the start of its plan, up to the first failure.** -/
structure KeepsToPlan (daemonSet namespaceName : String) (object : DiscoveryObject)
    (findings : Findings) (exchanges : List ClusterExchange) (outcome : Outcome Requeue) :
    Prop where
  gives : ∀ exchange ∈ exchanges, findings.Give exchange
  planned : calls exchanges <+: roundPlan daemonSet namespaceName object findings
  stops : StopsAtFailure exchanges outcome
  /-- A round that works asks all of its plan. -/
  whole : ∀ requeue, outcome = .ok requeue →
    requeue = .after resyncSeconds ∧
      calls exchanges = roundPlan daemonSet namespaceName object findings
  /-- A status is written only at the end of the plan. -/
  reported : ∀ target name status, .updateStatus target name status ∈ calls exchanges →
    calls exchanges = roundPlan daemonSet namespaceName object findings

/-! ### Keeping to it -/

section Deletions

variable {namespaceName : String} {deleted : List String} {results : List ResultObject}
  {exchanges : List ClusterExchange} {outcome : Outcome (List String)}

theorem calls_deletions (answer : Outcome Unit) (given : List ResultObject) :
    calls (given.map (deletion namespaceName answer)) =
      given.map fun result => .deleteResult namespaceName result.metadata.anyName := by
  rw [calls, List.filterMap_map, ← List.filterMap_eq_map]
  rfl

theorem failure?_deletions {given : List ResultObject} {exchange : ClusterExchange}
    (member : exchange ∈ given.map (deletion namespaceName (.ok ()))) :
    failure? exchange = none := by
  obtain ⟨result, -, rfl⟩ := List.mem_map.mp member
  rfl

theorem DeletionGoes.stops (goes : DeletionGoes namespaceName deleted results exchanges outcome) :
    StopsAtFailure exchanges outcome := by
  cases goes with
  | complete => exact fun exchange => failure?_deletions
  | stopped => exact ⟨_, _, rfl, fun exchange => failure?_deletions, rfl⟩

/-- Deletions ask for one result after the other. -/
theorem DeletionGoes.planned
    (goes : DeletionGoes namespaceName deleted results exchanges outcome) :
    (calls exchanges <+: results.map fun result =>
        .deleteResult namespaceName result.metadata.anyName) ∧
      ∀ names, outcome = .ok names → calls exchanges = results.map fun result =>
        .deleteResult namespaceName result.metadata.anyName := by
  cases goes with
  | complete =>
    have whole : calls (results.map (deletion namespaceName (.ok ()))) = _ :=
      calls_deletions (.ok ()) results
    exact ⟨whole ▸ List.prefix_rfl, fun _ _ => whole⟩
  | @stopped done rest stuck cause split =>
    refine ⟨⟨rest.map fun result => .deleteResult namespaceName result.metadata.anyName, ?_⟩,
      fun _ impossible => by cases impossible⟩
    rw [calls_append, calls_deletions, split, List.map_append, List.append_assoc]
    rfl

theorem Findings.give_deletions (findings : Findings) (answer : Outcome Unit)
    (result : ResultObject) : findings.Give (deletion namespaceName answer result) := by
  cases answer <;> trivial

theorem DeletionGoes.gives (goes : DeletionGoes namespaceName deleted results exchanges outcome)
    (findings : Findings) : ∀ exchange ∈ exchanges, findings.Give exchange := by
  intro exchange member
  cases goes with
  | complete =>
    obtain ⟨result, -, rfl⟩ := List.mem_map.mp member
    exact findings.give_deletions _ result
  | stopped =>
    rcases List.mem_append.mp member with member | member
    · obtain ⟨result, -, rfl⟩ := List.mem_map.mp member
      exact findings.give_deletions _ result
    · obtain rfl := List.mem_singleton.mp member
      exact findings.give_deletions _ _

end Deletions

section Prunings

variable {object : DiscoveryObject} {exchanges : List ClusterExchange}
  {outcome : Outcome (List String)}

/-- What works before does not stop it. -/
theorem StopsAtFailure.after {Value : Type} {early late : List ClusterExchange}
    {outcome : Outcome Value} (works : ∀ exchange ∈ early, failure? exchange = none)
    (stops : StopsAtFailure late outcome) : StopsAtFailure (early ++ late) outcome := by
  cases outcome with
  | ok value =>
    intro exchange member
    rcases List.mem_append.mp member with member | member
    · exact works exchange member
    · exact stops exchange member
  | error cause =>
    obtain ⟨earlier, last, rfl, worked, failed⟩ := stops
    refine ⟨early ++ earlier, last, (List.append_assoc _ _ _).symm, fun exchange member => ?_,
      failed⟩
    rcases List.mem_append.mp member with member | member
    · exact works exchange member
    · exact worked exchange member

theorem PruningGoes.stops (goes : PruningGoes object exchanges outcome) :
    StopsAtFailure exchanges outcome := by
  cases goes with
  | unselected => exact List.forall_mem_nil _
  | withoutNodes => exact ⟨[], _, rfl, List.forall_mem_nil _, rfl⟩
  | withoutResults => exact ⟨[_], _, rfl, List.forall_mem_singleton.mpr rfl, rfl⟩
  | @listed selector nodes results deletions outcome selected goes =>
    have listings : ∀ exchange ∈ ([⟨.listNodes, .ok nodes⟩,
        ⟨.listResults object.prunes, .ok results⟩] : List ClusterExchange),
        failure? exchange = none := by
      simp [failure?]
    exact .after listings goes.stops

/-- **A pruning keeps to its plan**, whatever is found after it. -/
theorem PruningGoes.planned (goes : PruningGoes object exchanges outcome) :
    ∃ nodes results, ∀ pods now, let findings : Findings := ⟨nodes, results, pods, now⟩
      (∀ exchange ∈ exchanges, findings.Give exchange) ∧
        calls exchanges <+: pruningPlan object findings ∧
        ∀ names, outcome = .ok names → calls exchanges = pruningPlan object findings := by
  cases goes with
  | unselected none =>
    exact ⟨[], [], fun pods now => by simp [pruningPlan, none]⟩
  | withoutNodes selected =>
    refine ⟨[], [], fun pods now => ⟨?_, ?_, fun _ impossible => by cases impossible⟩⟩
    · simp [Findings.Give]
    · simp [pruningPlan, selected, calls]
  | @withoutResults selector nodes cause selected =>
    refine ⟨nodes, [], fun pods now => ⟨?_, ?_, fun _ impossible => by cases impossible⟩⟩
    · simp [Findings.Give]
    · simp [pruningPlan, selected, calls]
  | @listed selector nodes results deletions outcome selected goes =>
    refine ⟨nodes, results, fun pods now => ⟨?_, ?_, fun names worked => ?_⟩⟩
    · exact List.forall_mem_cons.mpr ⟨rfl, List.forall_mem_cons.mpr ⟨rfl, goes.gives _⟩⟩
    · rw [pruningPlan, selected]
      exact List.cons_prefix_cons.mpr ⟨rfl, List.cons_prefix_cons.mpr ⟨rfl, goes.planned.1⟩⟩
    · rw [pruningPlan, selected]
      exact congrArg (ClusterCall.listNodes :: ClusterCall.listResults object.prunes :: ·)
        (goes.planned.2 names worked)

end Prunings

/-! ### Rounds -/

section Rounds

variable {daemonSet namespaceName : String} {object : DiscoveryObject}
  {exchanges : List ClusterExchange} {outcome : Outcome Requeue}

/-- Only the end of a plan writes a status. -/
theorem eq_roundPlan_of_reported {findings : Findings} {asked : List ClusterCall}
    (planned : asked <+: roundPlan daemonSet namespaceName object findings)
    {target name : String} {status : Status} (reported : .updateStatus target name status ∈ asked) :
    asked = roundPlan daemonSet namespaceName object findings := by
  have split : roundPlan daemonSet namespaceName object findings =
      (pruningPlan object findings ++ [.podCounts namespaceName daemonSet]) ++
        [.updateStatus namespaceName object.metadata.anyName
          (nextStatus object.status findings.pods object.metadata.generation findings.now)] := by
    rw [List.append_assoc]
    rfl
  rw [split] at planned ⊢
  rcases List.prefix_concat_iff.mp planned with whole | part
  · exact whole
  · have early := part.subset reported
    cases selected : object.spec.nodeSelector <;> simp [pruningPlan, selected] at early

/-- What stops within a plan keeps to it. -/
theorem KeepsToPlan.of_failure {findings : Findings} {cause : Error}
    (gives : ∀ exchange ∈ exchanges, findings.Give exchange)
    (planned : calls exchanges <+: roundPlan daemonSet namespaceName object findings)
    (stops : StopsAtFailure exchanges (.error cause : Outcome Requeue)) :
    KeepsToPlan daemonSet namespaceName object findings exchanges (.error cause) where
  gives := gives
  planned := planned
  stops := stops
  whole _ impossible := by cases impossible
  reported _ _ _ := eq_roundPlan_of_reported planned

/-- What asks all of a plan keeps to it. -/
theorem KeepsToPlan.of_whole {findings : Findings}
    (gives : ∀ exchange ∈ exchanges, findings.Give exchange)
    (whole : calls exchanges = roundPlan daemonSet namespaceName object findings)
    (stops : StopsAtFailure exchanges outcome)
    (ends : ∀ requeue, outcome = .ok requeue → requeue = .after resyncSeconds) :
    KeepsToPlan daemonSet namespaceName object findings exchanges outcome where
  gives := gives
  planned := whole ▸ List.prefix_rfl
  stops := stops
  whole requeue worked := ⟨ends requeue worked, whole⟩
  reported _ _ _ _ := whole

/-- **Every round of an object with a namespace keeps to a plan.** -/
theorem RoundGoes.keepsToPlan (goes : RoundGoes daemonSet object exchanges outcome)
    (placed : object.metadata.namespaceName = some namespaceName) :
    ∃ findings, KeepsToPlan daemonSet namespaceName object findings exchanges outcome := by
  cases goes with
  | nameless none =>
    rw [placed] at none
    cases none
  | unpruned _ pruned =>
    obtain ⟨nodes, results, found⟩ := pruned.planned
    obtain ⟨gives, planned, -⟩ := found none default
    have early : calls exchanges <+:
        roundPlan daemonSet namespaceName object ⟨nodes, results, none, default⟩ :=
      planned.trans (List.prefix_append _ _)
    exact ⟨_, .of_failure gives early pruned.stops⟩
  | @uncounted _ pruning names cause same pruned =>
    obtain rfl := Option.some.inj (placed.symm.trans same)
    obtain ⟨nodes, results, found⟩ := pruned.planned
    obtain ⟨gives, -, planned⟩ := found none default
    have early : calls (pruning ++ [⟨.podCounts namespaceName daemonSet, .error cause⟩]) <+:
        roundPlan daemonSet namespaceName object ⟨nodes, results, none, default⟩ := by
      rw [calls_append, planned names rfl]
      exact (List.prefix_append_right_inj _).mpr (List.cons_prefix_cons.mpr ⟨rfl, List.nil_prefix⟩)
    refine ⟨_, .of_failure (List.forall_mem_append.mpr ⟨gives, ?_⟩) early
      (.after pruned.stops ⟨[], _, rfl, List.forall_mem_nil _, rfl⟩)⟩
    exact List.forall_mem_singleton.mpr trivial
  | @reported _ pruning names pods now written same pruned =>
    obtain rfl := Option.some.inj (placed.symm.trans same)
    obtain ⟨nodes, results, found⟩ := pruned.planned
    obtain ⟨gives, -, planned⟩ := found pods now
    refine ⟨⟨nodes, results, pods, now⟩, .of_whole ?gives ?whole (.after pruned.stops ?stops) ?ends⟩
    case gives =>
      refine List.forall_mem_append.mpr ⟨gives, List.forall_mem_cons.mpr
        ⟨rfl, List.forall_mem_cons.mpr ⟨rfl, List.forall_mem_singleton.mpr ?_⟩⟩⟩
      cases written <;> trivial
    case whole =>
      rw [calls_append, planned names rfl]
      rfl
    case stops =>
      cases written with
      | ok value => simp [StopsAtFailure, Except.map, failure?]
      | error cause =>
        exact ⟨[⟨.podCounts namespaceName daemonSet, .ok pods⟩, ⟨.clock, now⟩], _, rfl,
          by simp [failure?], rfl⟩
    case ends =>
      intro requeue worked
      cases written with
      | error cause => cases worked
      | ok value =>
        cases worked
        rfl

end Rounds

end NodeStorage.Discovery
