/-
**What comes into a cluster and what goes out of it.**

Local disks, filesystems and storage classes are things that a cluster has or has not. A creation
that works brings in a thing that was not there, and nothing else comes or goes with it
(`gains_served`), whether calls are answered as the cluster answers them or are refused for no
reason. Nothing goes out but by its own deletion (`has_respond`).
-/

import NodeStorage.Proofs.InMemory.Refusals

namespace NodeStorage.InMemory

open Provisioning Cluster Dialogue

/-- Something that a cluster may have. -/
inductive Thing where
  | localDisk (name : ObjectName)
  | filesystem (name : ObjectName)
  | storageClass (name : String)
  deriving DecidableEq, Repr

/-- The cluster has the thing. -/
def StorageCluster.Has (cluster : StorageCluster) : Thing → Prop
  | .localDisk name => name ∈ cluster.localDisks
  | .filesystem name => name ∈ cluster.filesystems.map Prod.fst
  | .storageClass name => name ∈ cluster.storageClasses

/-- The thing that a call creates. -/
def created? : JobCall → Option Thing
  | .createLocalDisk request => some (.localDisk (diskObject request))
  | .createFilesystem request => some (.filesystem (filesystemObject request))
  | .createStorageClass request => some (.storageClass request.name)
  | _ => none

/-- The thing that was made, if one was. -/
def made? (exchange : JobExchange) : Option Thing :=
  (worked? exchange).bind created?

/-- The thing that a call deletes. -/
def deleted? : JobCall → Option Thing
  | .deleteFilesystem name => some (.filesystem name)
  | .deleteStorageClass name => some (.storageClass name)
  | _ => none

/-- A call is answered by the cluster, or refused without effect. -/
inductive Served (cluster : StorageCluster) : JobExchange → StorageCluster → Prop
  | answered (call : JobCall) :
      Served cluster ⟨call, (StorageCluster.respond call cluster).1⟩
        (StorageCluster.respond call cluster).2
  | refused (call : JobCall) (cause : Error) : Served cluster ⟨call, refuse cause call⟩ cluster

/-- **The cluster has gained what was made**, which it did not have before. -/
structure Gains (before after : StorageCluster) (made : Option Thing) : Prop where
  has : ∀ thing, after.Has thing ↔ before.Has thing ∨ made = some thing
  new : ∀ thing, made = some thing → ¬ before.Has thing

/-! ### Creations -/

namespace StorageCluster

variable {cluster : StorageCluster}

theorem gains_nothing : Gains cluster cluster none where
  has _ := by simp
  new _ made := by cases made

/-- A thing that was not there has been added. -/
theorem gains_one {before after : StorageCluster} {thing : Thing}
    (has : ∀ other, after.Has other ↔ before.Has other ∨ other = thing)
    (absent : ¬ before.Has thing) : Gains before after (some thing) where
  has other := by rw [has, Option.some_inj, eq_comm]
  new other same := by
    cases same
    exact absent

theorem find?_isSome_iff {objects : List (ObjectName × TextMap)} {name : ObjectName} :
    (find? objects name).isSome = true ↔ name ∈ objects.map Prod.fst := by
  rw [find?, Option.isSome_map, List.find?_isSome, List.mem_map]
  simp only [beq_iff_eq]

theorem mem_of_found {objects : List (ObjectName × TextMap)} {name : ObjectName}
    {texts : TextMap} (found : find? objects name = some texts) : name ∈ objects.map Prod.fst :=
  find?_isSome_iff.mp (by rw [found]; rfl)

theorem not_mem_of_absent {objects : List (ObjectName × TextMap)} {name : ObjectName}
    (absent : find? objects name = none) : name ∉ objects.map Prod.fst := by
  intro member
  have found := find?_isSome_iff.mpr member
  rw [absent] at found
  cases found

theorem gains_createLocalDisk (request : LocalDiskRequest) :
    Gains cluster (createLocalDisk request cluster).2
      (made? ⟨.createLocalDisk request, (createLocalDisk request cluster).1⟩) := by
  by_cases present : cluster.localDisks.contains (diskObject request) = true
  · have refused : createLocalDisk request cluster =
        (.error (.resourceExists localDiskKind request.name), cluster) := if_pos present
    rw [refused]
    exact gains_nothing
  · have made : createLocalDisk request cluster =
        (.ok (), { cluster with localDisks := cluster.localDisks ++ [diskObject request] }) :=
      if_neg present
    rw [made]
    refine gains_one ?_ fun there => present (List.contains_iff_mem.mpr there)
    rintro (name | name | name) <;> simp [Has]

theorem gains_createFilesystem (request : FilesystemRequest) :
    Gains cluster (createFilesystem request cluster).2
      (made? ⟨.createFilesystem request, (createFilesystem request cluster).1⟩) := by
  by_cases present : (find? cluster.filesystems (filesystemObject request)).isSome = true
  · have refused : createFilesystem request cluster =
        (.error (.resourceExists filesystemKind request.name), cluster) := if_pos present
    rw [refused]
    exact gains_nothing
  · have made : createFilesystem request cluster =
        (.ok (), { cluster with
          filesystems := put cluster.filesystems (filesystemObject request) [] }) :=
      if_neg present
    rw [made, put_new (Option.not_isSome_iff_eq_none.mp present)]
    refine gains_one ?_ fun there => present (find?_isSome_iff.mpr there)
    rintro (name | name | name) <;> simp [Has]

theorem gains_createStorageClass (request : StorageClassRequest) :
    Gains cluster (createStorageClass request cluster).2
      (made? ⟨.createStorageClass request, (createStorageClass request cluster).1⟩) := by
  by_cases present : cluster.storageClasses.contains request.name = true
  · have refused : createStorageClass request cluster =
        (.error (.resourceExists storageClassKind request.name), cluster) := if_pos present
    rw [refused]
    exact gains_nothing
  · have made : createStorageClass request cluster =
        (.ok (), { cluster with storageClasses := cluster.storageClasses ++ [request.name] }) :=
      if_neg present
    rw [made]
    refine gains_one ?_ fun there => present (List.contains_iff_mem.mpr there)
    rintro (name | name | name) <;> simp [Has]

/-- A note brings nothing in. -/
theorem gains_annotateJob (job : ObjectName) (texts : TextMap) :
    Gains cluster (annotateJob job texts cluster).2 none where
  has thing := by cases thing <;> simp [Has, annotateJob]
  new _ made := by cases made

/-- A call that may fail without effect brings in what the call itself brings in. -/
theorem gains_guard (made : Outcome Unit → Option Thing)
    (nothing : ∀ cause, made (.error cause) = none) {operation name : String}
    {perform : StorageCluster → Outcome Unit × StorageCluster}
    (gains : Gains cluster (perform cluster).2 (made (perform cluster).1)) :
    Gains cluster (cluster.failures.guard operation name cluster perform).2
      (made (cluster.failures.guard operation name cluster perform).1) := by
  rw [Failures.guard]
  split
  · rw [nothing]
    exact gains_nothing
  · exact gains

/-- **A creation or a note brings in what was made.** -/
theorem gains_respond {call : JobCall}
    (creating : call.isCreation = true ∨ ∃ job texts, call = .annotateJob job texts) :
    Gains cluster (respond call cluster).2 (made? ⟨call, (respond call cluster).1⟩) := by
  rcases creating with creation | ⟨job, texts, rfl⟩
  · cases call with
    | createLocalDisk request =>
      exact gains_guard (fun answer => made? ⟨.createLocalDisk request, answer⟩) (fun _ => rfl)
        (gains_createLocalDisk request)
    | createFilesystem request =>
      exact gains_guard (fun answer => made? ⟨.createFilesystem request, answer⟩) (fun _ => rfl)
        (gains_createFilesystem request)
    | createStorageClass request =>
      exact gains_guard (fun answer => made? ⟨.createStorageClass request, answer⟩) (fun _ => rfl)
        (gains_createStorageClass request)
    | _ => cases creation
  · exact gains_guard (fun answer => made? ⟨.annotateJob job texts, answer⟩) (fun _ => rfl)
      (gains_annotateJob job texts)

/-! ### Deletions -/

/-- Other texts for an object that is there leave all names as they are. -/
theorem names_put {objects : List (ObjectName × TextMap)} {name : ObjectName} {texts : TextMap}
    (found : find? objects name = some texts) (others : TextMap) :
    (put objects name others).map Prod.fst = objects.map Prod.fst := by
  have there : (find? objects name).isSome = true := by
    rw [found]
    rfl
  rw [put, if_pos there, List.map_map]
  refine List.map_congr_left fun entry _ => ?_
  show (if entry.1 = name then (name, others) else entry).1 = entry.1
  split
  · rename_i same
    exact same.symm
  · rfl

theorem has_labelFilesystem {thing : Thing} (there : cluster.Has thing) (target : ObjectName)
    (key value : String) : (labelFilesystem target key value cluster).2.Has thing := by
  rw [labelFilesystem]
  split
  · exact there
  · rename_i texts found
    cases thing with
    | filesystem name =>
      show name ∈ List.map _ _
      rw [names_put found]
      exact there
    | localDisk | storageClass => exact there

theorem has_deleteFilesystem {thing : Thing} (there : cluster.Has thing) {target : ObjectName}
    (other : thing ≠ .filesystem target) : (deleteFilesystem target cluster).2.Has thing := by
  rw [deleteFilesystem]
  split
  · cases thing with
    | filesystem name =>
      obtain ⟨entry, member, rfl⟩ := List.mem_map.mp there
      refine List.mem_map_of_mem (List.mem_filter.mpr ⟨member, ?_⟩)
      rw [bne_iff_ne]
      exact fun same => other (congrArg Thing.filesystem same)
    | localDisk | storageClass => exact there
  · exact there

theorem has_deleteStorageClass {thing : Thing} (there : cluster.Has thing) {target : String}
    (other : thing ≠ .storageClass target) : (deleteStorageClass target cluster).2.Has thing := by
  rw [deleteStorageClass]
  split
  · cases thing with
    | storageClass name =>
      refine List.mem_filter.mpr ⟨there, ?_⟩
      rw [bne_iff_ne]
      exact fun same => other (congrArg Thing.storageClass same)
    | localDisk | filesystem => exact there
  · exact there

/-- **Nothing goes but by its own deletion.** -/
theorem has_respond {call : JobCall} {thing : Thing} (there : cluster.Has thing)
    (spared : deleted? call ≠ some thing) : (respond call cluster).2.Has thing := by
  cases call with
  | createLocalDisk | createFilesystem | createStorageClass =>
    exact ((gains_respond (Or.inl rfl)).has thing).mpr (Or.inl there)
  | annotateJob job texts =>
    exact ((gains_respond (Or.inr ⟨job, texts, rfl⟩)).has thing).mpr (Or.inl there)
  | getFilesystem => exact Failures.guard_keeps (P := (Has · thing)) there there
  | labelFilesystem target key value =>
    exact Failures.guard_keeps (P := (Has · thing)) there
      (has_labelFilesystem there target key value)
  | deleteFilesystem target =>
    refine Failures.guard_keeps (P := (Has · thing)) there
      (has_deleteFilesystem there fun same => spared ?_)
    rw [same]
    rfl
  | deleteStorageClass target =>
    refine Failures.guard_keeps (P := (Has · thing)) there
      (has_deleteStorageClass there fun same => spared ?_)
    rw [same]
    rfl
  | deleteJob job =>
    refine Failures.guard_keeps (P := (Has · thing)) there ?_
    rw [deleteJob]
    split
    · cases thing <;> exact there
    · exact there

/-- What no call deletes is there at the end. -/
theorem has_of_leads {cluster last : StorageCluster} {exchanges : List JobExchange} {thing : Thing}
    (leads : Leads respond cluster exchanges last) (there : cluster.Has thing)
    (spared : ∀ exchange ∈ exchanges, deleted? exchange.question ≠ some thing) :
    last.Has thing :=
  leads.keeps (P := (Has · thing)) there fun exchange member _ there =>
    has_respond there (spared exchange member)

end StorageCluster

theorem gains_served {cluster after : StorageCluster} {exchange : JobExchange}
    (served : Served cluster exchange after)
    (creating : exchange.question.isCreation = true ∨
      ∃ job texts, exchange.question = .annotateJob job texts) :
    Gains cluster after (made? exchange) := by
  cases served with
  | answered call => exact StorageCluster.gains_respond creating
  | refused call cause =>
    rw [made?, worked_refuse]
    exact StorageCluster.gains_nothing

end NodeStorage.InMemory
