/-
**What creations leave behind in a cluster.**

Here a cluster may refuse any creation, whatever it holds (`Counted.respond`); a call that is
refused has no effect, so it keeps what the call would have kept (`Counted.respond_keeps`). Then the
cluster has gained exactly what was made: what was there stays as it was, and what is made was not
there before (`Grown`, `grown_of_leads`).
-/

import NodeStorage.InMemory.StorageCluster
import NodeStorage.Proofs.Provisioning.History

namespace NodeStorage.InMemory

open Provisioning Cluster Dialogue

/-! ### A cluster that refuses -/

/-- A call fails. -/
def refuse (cause : Error) : (call : JobCall) → call.Answer
  | .getFilesystem _ => .error cause
  | .createLocalDisk _ | .createFilesystem _ | .createStorageClass _ | .labelFilesystem _ _ _
  | .deleteFilesystem _ | .deleteStorageClass _ | .deleteJob _ | .annotateJob _ _ => .error cause

/-- The errors of calls, by the number of calls before and the call. -/
abbrev Refusals := Nat → JobCall → Option Error

/-- Only creations are refused. -/
def Refusals.OnlyCreations (refusals : Refusals) : Prop :=
  ∀ count call cause, refusals count call = some cause → call.isCreation = true

/-- Nothing is refused. -/
def Refusals.never : Refusals := fun _ _ => none

/-- A cluster with the number of calls that it has answered, or refused. -/
structure Counted where
  count : Nat
  cluster : StorageCluster

/-- Answers a call, unless it is refused. -/
def Counted.respond (refusals : Refusals) (call : JobCall) (state : Counted) :
    call.Answer × Counted :=
  match refusals state.count call with
  | some cause => (refuse cause call, ⟨state.count + 1, state.cluster⟩)
  | none =>
    ((StorageCluster.respond call state.cluster).1,
      ⟨state.count + 1, (StorageCluster.respond call state.cluster).2⟩)

theorem Counted.respond_of_granted {refusals : Refusals} {call : JobCall} {state : Counted}
    (granted : refusals state.count call = none) :
    Counted.respond refusals call state =
      ((StorageCluster.respond call state.cluster).1,
        ⟨state.count + 1, (StorageCluster.respond call state.cluster).2⟩) := by
  rw [respond, granted]

theorem Counted.respond_of_refused {refusals : Refusals} {call : JobCall} {state : Counted}
    {cause : Error} (refused : refusals state.count call = some cause) :
    Counted.respond refusals call state =
      (refuse cause call, ⟨state.count + 1, state.cluster⟩) := by
  rw [respond, refused]

theorem Failures.guard_keeps {α State : Type} {failures : Failures} {operation name : String}
    {state : State} {perform : State → Outcome α × State} {P : State → Prop} (before : P state)
    (after : P (perform state).2) : P (failures.guard operation name state perform).2 := by
  rw [guard]
  split
  · exact before
  · exact after

/-- **What holds before a call and after it holds also where the call is refused.** -/
theorem Counted.respond_keeps {refusals : Refusals} {call : JobCall} {state : Counted}
    {P : StorageCluster → Prop} (before : P state.cluster)
    (after : P (StorageCluster.respond call state.cluster).2) :
    P (Counted.respond refusals call state).2.cluster := by
  cases decided : refusals state.count call with
  | some cause =>
    rw [Counted.respond_of_refused decided]
    exact before
  | none =>
    rw [Counted.respond_of_granted decided]
    exact after

theorem Refusals.OnlyCreations.granted {refusals : Refusals} (only : refusals.OnlyCreations)
    {call : JobCall} (other : call.isCreation = false) (count : Nat) :
    refusals count call = none := by
  cases decided : refusals count call with
  | none => rfl
  | some cause =>
    rw [only count call cause decided] at other
    cases other

theorem Refusals.onlyCreations_never : Refusals.never.OnlyCreations := by
  intro count call cause refused
  cases refused

/-! ### Growth -/

/-- The object of a local disk. -/
def diskObject (request : LocalDiskRequest) : ObjectName :=
  ⟨request.name, request.namespaceName⟩

/-- The object of a filesystem. -/
def filesystemObject (request : FilesystemRequest) : ObjectName :=
  ⟨request.name, request.namespaceName⟩

/-- **The cluster has gained what these calls make**, and nothing of it was there before. -/
structure Grown (before after : StorageCluster) (calls : List JobCall) : Prop where
  failures : after.failures = before.failures
  localDisks : after.localDisks =
    before.localDisks ++ (calls.filterMap JobCall.disk?).map diskObject
  filesystems : after.filesystems =
    before.filesystems ++ (calls.filterMap JobCall.filesystem?).map fun request =>
      (filesystemObject request, [])
  storageClasses : after.storageClasses =
    before.storageClasses ++ (calls.filterMap JobCall.storageClass?).map StorageClassRequest.name
  newFilesystems : ∀ request ∈ calls.filterMap JobCall.filesystem?,
    StorageCluster.find? before.filesystems (filesystemObject request) = none
  newStorageClasses : ∀ request ∈ calls.filterMap JobCall.storageClass?,
    request.name ∉ before.storageClasses

namespace StorageCluster

theorem find?_of_append {objects more : List (ObjectName × TextMap)} {name : ObjectName}
    (absent : find? (objects ++ more) name = none) : find? objects name = none := by
  rw [find?, List.find?_append] at absent
  rw [find?]
  cases found : objects.find? fun entry => entry.1 == name with
  | none => rfl
  | some entry =>
    rw [found] at absent
    cases absent

end StorageCluster

theorem Grown.refl {before after : StorageCluster} (failures : after.failures = before.failures)
    (localDisks : after.localDisks = before.localDisks)
    (filesystems : after.filesystems = before.filesystems)
    (storageClasses : after.storageClasses = before.storageClasses) : Grown before after [] where
  failures := failures
  localDisks := by rw [localDisks]; exact (List.append_nil _).symm
  filesystems := by rw [filesystems]; exact (List.append_nil _).symm
  storageClasses := by rw [storageClasses]; exact (List.append_nil _).symm
  newFilesystems _ member := by cases member
  newStorageClasses _ member := by cases member

theorem Grown.trans {before middle after : StorageCluster} {first second : List JobCall}
    (early : Grown before middle first) (late : Grown middle after second) :
    Grown before after (first ++ second) where
  failures := late.failures.trans early.failures
  localDisks := by
    rw [late.localDisks, early.localDisks, List.filterMap_append, List.map_append,
      List.append_assoc]
  filesystems := by
    rw [late.filesystems, early.filesystems, List.filterMap_append, List.map_append,
      List.append_assoc]
  storageClasses := by
    rw [late.storageClasses, early.storageClasses, List.filterMap_append, List.map_append,
      List.append_assoc]
  newFilesystems request member := by
    rw [List.filterMap_append] at member
    rcases List.mem_append.mp member with member | member
    · exact early.newFilesystems request member
    · have absent := late.newFilesystems request member
      rw [early.filesystems] at absent
      exact StorageCluster.find?_of_append absent
  newStorageClasses request member := by
    rw [List.filterMap_append] at member
    rcases List.mem_append.mp member with member | member
    · exact early.newStorageClasses request member
    · have absent := late.newStorageClasses request member
      rw [early.storageClasses] at absent
      exact fun present => absent (List.mem_append_left _ present)

/-! ### One creation -/

theorem Failures.guard_of_empty {α State : Type} {failures : Failures} (empty : failures = [])
    (operation name : String) (state : State) (perform : State → Outcome α × State) :
    failures.guard operation name state perform = perform state := by
  rw [empty]
  rfl

namespace StorageCluster

variable {cluster : StorageCluster}

theorem put_new {objects : List (ObjectName × TextMap)} {name : ObjectName}
    (absent : find? objects name = none) (texts : TextMap) :
    put objects name texts = objects ++ [(name, texts)] := by
  rw [put, absent]
  rfl

theorem grown_createLocalDisk (request : LocalDiskRequest) :
    Grown cluster (createLocalDisk request cluster).2
      (worked [⟨.createLocalDisk request, (createLocalDisk request cluster).1⟩]) := by
  by_cases present : cluster.localDisks.contains (diskObject request) = true
  · have refused : createLocalDisk request cluster =
        (.error (.resourceExists localDiskKind request.name), cluster) := if_pos present
    rw [refused]
    exact .refl rfl rfl rfl rfl
  · have made : createLocalDisk request cluster =
        (.ok (), { cluster with localDisks := cluster.localDisks ++ [diskObject request] }) :=
      if_neg present
    rw [made]
    exact ⟨rfl, rfl, (List.append_nil _).symm, (List.append_nil _).symm,
      fun _ member => (by cases member), fun _ member => (by cases member)⟩

theorem grown_createFilesystem (request : FilesystemRequest) :
    Grown cluster (createFilesystem request cluster).2
      (worked [⟨.createFilesystem request, (createFilesystem request cluster).1⟩]) := by
  by_cases present : (find? cluster.filesystems (filesystemObject request)).isSome = true
  · have refused : createFilesystem request cluster =
        (.error (.resourceExists filesystemKind request.name), cluster) := if_pos present
    rw [refused]
    exact .refl rfl rfl rfl rfl
  · have made : createFilesystem request cluster =
        (.ok (), { cluster with
          filesystems := put cluster.filesystems (filesystemObject request) [] }) :=
      if_neg present
    have absent : find? cluster.filesystems (filesystemObject request) = none :=
      Option.not_isSome_iff_eq_none.mp present
    rw [made, put_new absent]
    refine ⟨rfl, (List.append_nil _).symm, rfl, (List.append_nil _).symm, ?_,
      fun _ member => (by cases member)⟩
    intro asked member
    rw [List.mem_singleton.mp member]
    exact absent

theorem grown_createStorageClass (request : StorageClassRequest) :
    Grown cluster (createStorageClass request cluster).2
      (worked [⟨.createStorageClass request, (createStorageClass request cluster).1⟩]) := by
  by_cases present : cluster.storageClasses.contains request.name = true
  · have refused : createStorageClass request cluster =
        (.error (.resourceExists storageClassKind request.name), cluster) := if_pos present
    rw [refused]
    exact .refl rfl rfl rfl rfl
  · have made : createStorageClass request cluster =
        (.ok (), { cluster with storageClasses := cluster.storageClasses ++ [request.name] }) :=
      if_neg present
    rw [made]
    refine ⟨rfl, (List.append_nil _).symm, (List.append_nil _).symm, rfl,
      fun _ member => (by cases member), ?_⟩
    intro asked member
    rw [List.mem_singleton.mp member]
    exact fun there => present (List.contains_iff_mem.mpr there)

/-- **A creation makes what it is asked for, or nothing.** -/
theorem grown_respond {call : JobCall} (working : cluster.failures = [])
    (creation : call.isCreation = true) :
    Grown cluster (respond call cluster).2 (worked [⟨call, (respond call cluster).1⟩]) := by
  cases call with
  | createLocalDisk request =>
    rw [respond, Failures.guard_of_empty working]
    exact grown_createLocalDisk request
  | createFilesystem request =>
    rw [respond, Failures.guard_of_empty working]
    exact grown_createFilesystem request
  | createStorageClass request =>
    rw [respond, Failures.guard_of_empty working]
    exact grown_createStorageClass request
  | _ => cases creation

/-- A note makes nothing. -/
theorem grown_annotateJob (working : cluster.failures = []) (job : ObjectName) (texts : TextMap) :
    Grown cluster (respond (.annotateJob job texts) cluster).2 [] := by
  rw [respond, Failures.guard_of_empty working]
  exact .refl rfl rfl rfl rfl

end StorageCluster

/-! ### Many calls -/

/-- A refused creation makes nothing. -/
theorem worked_refuse {call : JobCall} (cause : Error) :
    worked? ⟨call, refuse cause call⟩ = none := by
  cases call <;> rfl

theorem grown_call {refusals : Refusals} {state : Counted} {call : JobCall}
    (working : state.cluster.failures = [])
    (creating : call.isCreation = true ∨ ∃ job texts, call = .annotateJob job texts) :
    Grown state.cluster (Counted.respond refusals call state).2.cluster
      (worked [⟨call, (Counted.respond refusals call state).1⟩]) := by
  cases decided : refusals state.count call with
  | some cause =>
    rw [Counted.respond_of_refused decided, worked, List.filterMap_cons, worked_refuse]
    exact .refl rfl rfl rfl rfl
  | none =>
    rw [Counted.respond_of_granted decided]
    rcases creating with creation | ⟨job, texts, rfl⟩
    · exact StorageCluster.grown_respond working creation
    · exact StorageCluster.grown_annotateJob working job texts

/-- **Creations and notes leave behind exactly what was made**, whatever is refused. -/
theorem grown_of_leads {refusals : Refusals} {state last : Counted} {exchanges : List JobExchange}
    (leads : Leads (Counted.respond refusals) state exchanges last)
    (working : state.cluster.failures = [])
    (creating : ∀ exchange ∈ exchanges, exchange.question.isCreation = true ∨
      ∃ job texts, exchange.question = .annotateJob job texts) :
    Grown state.cluster last.cluster (worked exchanges) := by
  induction leads with
  | stay state => exact .refl rfl rfl rfl rfl
  | @step state last rest call leads ih =>
    have one : Grown state.cluster (Counted.respond refusals call state).2.cluster
        (worked [⟨call, (Counted.respond refusals call state).1⟩]) :=
      grown_call working (creating _ List.mem_cons_self)
    have later := ih (one.failures.trans working) fun exchange member =>
      creating exchange (List.mem_cons_of_mem _ member)
    have both := one.trans later
    rw [← worked_append] at both
    exact both

end NodeStorage.InMemory
