/-
**How the pruning of orphans goes.**

A result is an orphan when its node is not among the nodes of the cluster that the selector means
(`IsOrphan`). Nothing is assumed of the cluster here: it may list anything, and any call may fail.

* `DeletionGoes` — results are deleted in order, up to and including the first that cannot be.
* `PruningGoes` — without a selector nothing is asked; otherwise the nodes and the results are
  listed, and then exactly the orphans are deleted in this way.
* `conversation_deleteOrphans_iff` — these are the conversations of a pruning, all of them and no
  others.
-/

import NodeStorage.Discovery.Reconcile
import NodeStorage.Proofs.Dialogue.Conversation

namespace NodeStorage.Discovery

open Dialogue

/-- An exchange with the cluster. -/
abbrev ClusterExchange := Exchange ClusterCall ClusterCall.Answer

/-- The error that a call was answered. -/
def failure? : ClusterExchange → Option Error
  | ⟨.listNodes, .error cause⟩ | ⟨.listResults _, .error cause⟩
  | ⟨.deleteResult _ _, .error cause⟩ | ⟨.podCounts _ _, .error cause⟩
  | ⟨.updateStatus _ _ _, .error cause⟩ => some cause
  | ⟨_, _⟩ => none

/-! ### Orphans -/

/-- **The result's node is not the name of a node that the selector means.** -/
def IsOrphan (selector : NodeSelector) (nodes : List Node) (result : ResultObject) : Prop :=
  ∀ node ∈ nodes, selector.fits node = true → node.name ≠ result.nodeName

instance (selector : NodeSelector) (nodes : List Node) (result : ResultObject) :
    Decidable (IsOrphan selector nodes result) :=
  inferInstanceAs (Decidable (∀ node ∈ nodes, _ → _))

theorem isOrphan_iff_not_mem {selector : NodeSelector} {nodes : List Node}
    {result : ResultObject} :
    IsOrphan selector nodes result ↔ result.nodeName ∉ selectedNames selector nodes := by
  simp only [IsOrphan, selectedNames, List.mem_map, List.mem_filter, not_exists, not_and, and_imp]

theorem orphans_selectedNames (selector : NodeSelector) (nodes : List Node)
    (results : List ResultObject) :
    orphans (selectedNames selector nodes) results =
      results.filter fun result => IsOrphan selector nodes result := by
  refine List.filter_congr fun result _ => ?_
  rw [Bool.eq_iff_iff, decide_eq_true_iff, isOrphan_iff_not_mem, Bool.not_eq_true',
    ← Bool.not_eq_true, List.contains_iff_mem]

/-! ### Deleting one after another -/

/-- The deletion of a result, with its answer. -/
def deletion (namespaceName : String) (answer : Outcome Unit) (result : ResultObject) :
    ClusterExchange :=
  ⟨.deleteResult namespaceName result.metadata.anyName, answer⟩

/-- The ways in which deleting results one after another can go, after some that were deleted. -/
inductive DeletionGoes (namespaceName : String) (deleted : List String)
    (results : List ResultObject) : List ClusterExchange → Outcome (List String) → Prop
  /-- Every deletion works. -/
  | complete :
      DeletionGoes namespaceName deleted results
        (results.map (deletion namespaceName (.ok ())))
        (.ok (deleted ++ results.map fun result => result.metadata.anyName))
  /-- The first deletion that fails is the last. -/
  | stopped {done rest : List ResultObject} {stuck : ResultObject} {cause : Error} :
      results = done ++ stuck :: rest →
      DeletionGoes namespaceName deleted results
        (done.map (deletion namespaceName (.ok ())) ++
          [deletion namespaceName (.error cause) stuck])
        (.error cause)

/-- How deleting goes on after an answer. -/
def deletingAfter (namespaceName : String) (deleted : List String) (name : String)
    (rest : List ResultObject) : Outcome Unit → ClusterDialogue (Outcome (List String))
  | .error cause => .done (.error cause)
  | .ok () => deleteAll namespaceName (deleted ++ [name]) rest

theorem deleteAll_cons (namespaceName : String) (deleted : List String) (result : ResultObject)
    (rest : List ResultObject) :
    deleteAll namespaceName deleted (result :: rest) =
      .ask (.deleteResult namespaceName result.metadata.anyName)
        (deletingAfter namespaceName deleted result.metadata.anyName rest) := by
  refine congrArg (Dialogue.ask (ClusterCall.deleteResult namespaceName result.metadata.anyName))
    (funext fun answer => ?_)
  cases answer <;> rfl

section Deletions

variable {namespaceName : String} {deleted : List String} {results : List ResultObject}
  {exchanges : List ClusterExchange} {outcome : Outcome (List String)}

/-- A deletion that works goes before the deletions of the rest. -/
theorem DeletionGoes.cons {result : ResultObject}
    (goes : DeletionGoes namespaceName (deleted ++ [result.metadata.anyName]) results exchanges
      outcome) :
    DeletionGoes namespaceName deleted (result :: results)
      (deletion namespaceName (.ok ()) result :: exchanges) outcome := by
  cases goes with
  | complete =>
    rw [List.append_assoc]
    exact .complete
  | @stopped done rest stuck cause split =>
    have later : result :: results = (result :: done) ++ stuck :: rest :=
      congrArg (result :: ·) split
    exact .stopped later

/-- The first deletion fails, or the rest is deleted after it. -/
theorem DeletionGoes.uncons {result : ResultObject}
    (goes : DeletionGoes namespaceName deleted (result :: results) exchanges outcome) :
    (∃ cause, exchanges = [deletion namespaceName (.error cause) result] ∧
        outcome = .error cause) ∨
      ∃ rest, exchanges = deletion namespaceName (.ok ()) result :: rest ∧
        DeletionGoes namespaceName (deleted ++ [result.metadata.anyName]) results rest outcome := by
  cases goes with
  | complete =>
    refine Or.inr ⟨_, rfl, ?_⟩
    have names : DeletionGoes namespaceName (deleted ++ [result.metadata.anyName]) results _ _ :=
      .complete
    rw [List.append_assoc] at names
    exact names
  | @stopped done rest stuck cause split =>
    cases done with
    | nil =>
      obtain ⟨rfl, rfl⟩ := List.cons.inj split
      exact Or.inl ⟨cause, rfl, rfl⟩
    | cons first done =>
      obtain ⟨rfl, later⟩ := List.cons.inj split
      exact Or.inr ⟨_, rfl, .stopped later⟩

/-- **Deletions go on until one fails**, whatever they are answered. -/
theorem conversation_deleteAll_iff :
    Conversation (deleteAll namespaceName deleted results) exchanges outcome ↔
      DeletionGoes namespaceName deleted results exchanges outcome := by
  induction results generalizing deleted exchanges with
  | nil =>
    rw [deleteAll, pure_eq_done, conversation_done_iff]
    constructor
    · rintro ⟨rfl, rfl⟩
      have none : DeletionGoes namespaceName deleted [] _ _ := .complete
      rw [List.map_nil, List.map_nil, List.append_nil] at none
      exact none
    · intro goes
      cases goes with
      | complete => exact ⟨rfl, congrArg Except.ok (List.append_nil deleted)⟩
      | @stopped done rest stuck cause split => cases done <;> cases split
  | cons result results ih =>
    rw [deleteAll_cons]
    refine conversation_ask_iff.trans ?_
    constructor
    · rintro ⟨answer, rest, rfl, later⟩
      cases answer with
      | error cause =>
        obtain ⟨rfl, rfl⟩ := conversation_done_iff.mp later
        exact .stopped (List.nil_append (result :: results)).symm
      | ok done => exact (ih.mp later).cons
    · intro goes
      rcases goes.uncons with ⟨cause, rfl, rfl⟩ | ⟨rest, rfl, later⟩
      · exact ⟨.error cause, [], rfl, .done _⟩
      · exact ⟨.ok (), rest, rfl, ih.mpr later⟩

end Deletions

/-! ### Pruning -/

/-- The namespace in which an object prunes. -/
def DiscoveryObject.prunes (object : DiscoveryObject) : String :=
  object.metadata.namespaceName.getD ""

/-- **The ways in which pruning can go.** -/
inductive PruningGoes (object : DiscoveryObject) :
    List ClusterExchange → Outcome (List String) → Prop
  /-- Without a selector nothing is asked. -/
  | unselected : object.spec.nodeSelector = none → PruningGoes object [] (.ok [])
  /-- The nodes cannot be listed. -/
  | withoutNodes {selector : NodeSelector} {cause : Error} :
      object.spec.nodeSelector = some selector →
      PruningGoes object [⟨.listNodes, .error cause⟩] (.error cause)
  /-- The results cannot be listed. -/
  | withoutResults {selector : NodeSelector} {nodes : List Node} {cause : Error} :
      object.spec.nodeSelector = some selector →
      PruningGoes object
        [⟨.listNodes, .ok nodes⟩, ⟨.listResults object.prunes, .error cause⟩] (.error cause)
  /-- The orphans among the results are deleted, until a deletion fails. -/
  | listed {selector : NodeSelector} {nodes : List Node} {results : List ResultObject}
      {deletions : List ClusterExchange} {outcome : Outcome (List String)} :
      object.spec.nodeSelector = some selector →
      DeletionGoes object.prunes [] (results.filter fun result => IsOrphan selector nodes result)
        deletions outcome →
      PruningGoes object
        (⟨.listNodes, .ok nodes⟩ :: ⟨.listResults object.prunes, .ok results⟩ :: deletions) outcome

/-- A pruning with a selector, call by call. -/
theorem deleteOrphans_eq {object : DiscoveryObject} {selector : NodeSelector}
    (selected : object.spec.nodeSelector = some selector) :
    deleteOrphans object = .ask .listNodes fun listing : Outcome (List Node) =>
      match listing with
      | .error cause => .done (.error cause)
      | .ok nodes => .ask (.listResults object.prunes) fun found : Outcome (List ResultObject) =>
        match found with
        | .error cause => .done (.error cause)
        | .ok results => deleteAll object.prunes []
            (results.filter fun result => IsOrphan selector nodes result) := by
  rw [deleteOrphans, selected]
  refine congrArg (Dialogue.ask ClusterCall.listNodes) (funext fun listing => ?_)
  cases listing with
  | error cause => rfl
  | ok nodes =>
    refine congrArg (Dialogue.ask (ClusterCall.listResults object.prunes)) (funext fun found => ?_)
    cases found with
    | error cause => rfl
    | ok results =>
      exact congrArg (deleteAll object.prunes []) (orphans_selectedNames selector nodes results)

/-- **These are the conversations of a pruning**, all of them and no others. -/
theorem conversation_deleteOrphans_iff {object : DiscoveryObject}
    {exchanges : List ClusterExchange} {outcome : Outcome (List String)} :
    Conversation (deleteOrphans object) exchanges outcome ↔
      PruningGoes object exchanges outcome := by
  cases selected : object.spec.nodeSelector with
  | none =>
    rw [deleteOrphans, selected]
    refine conversation_done_iff.trans ?_
    constructor
    · rintro ⟨rfl, rfl⟩
      exact .unselected selected
    · intro goes
      cases goes with
      | unselected => exact ⟨rfl, rfl⟩
      | withoutNodes other | withoutResults other | listed other =>
        rw [selected] at other
        cases other
  | some selector =>
    rw [deleteOrphans_eq selected]
    refine conversation_ask_iff.trans ?_
    constructor
    · rintro ⟨listing, rest, rfl, listed⟩
      cases listing with
      | error cause =>
        obtain ⟨rfl, rfl⟩ := conversation_done_iff.mp listed
        exact .withoutNodes selected
      | ok nodes =>
        obtain ⟨found, rest, rfl, pruned⟩ := conversation_ask_iff.mp listed
        cases found with
        | error cause =>
          obtain ⟨rfl, rfl⟩ := conversation_done_iff.mp pruned
          exact .withoutResults selected
        | ok results => exact .listed selected (conversation_deleteAll_iff.mp pruned)
    · intro goes
      cases goes with
      | unselected none =>
        rw [selected] at none
        cases none
      | withoutNodes => exact ⟨_, _, rfl, .done _⟩
      | @withoutResults _ nodes cause =>
        exact ⟨.ok nodes, _, rfl, .ask _ (.done _)⟩
      | @listed other nodes results deletions _ isSelector goes =>
        rw [selected] at isSelector
        cases isSelector
        exact ⟨.ok nodes, _, rfl, conversation_ask_iff.mpr
          ⟨Except.ok results, _, rfl, conversation_deleteAll_iff.mpr goes⟩⟩

end NodeStorage.Discovery
