/-
**What deletions take out of a cluster.**

A deletion leaves a cluster without its object, whether the object was there or not
(`deleteFilesystem_snd`, `deleteStorageClass_snd`, `deleteJob_snd`), and all other objects as they
were. No call changes which calls are planned to fail (`failures_respond`).
-/

import NodeStorage.Proofs.InMemory.Things

namespace NodeStorage.InMemory

open Provisioning Cluster Dialogue

namespace StorageCluster

variable {objects : List (ObjectName × TextMap)} {name other : ObjectName}

/-! ### Lists without an object -/

theorem without_of_absent (absent : find? objects name = none) :
    without objects name = objects := by
  refine List.filter_eq_self.mpr fun entry member => ?_
  have differs := List.find?_eq_none.mp (Option.map_eq_none_iff.mp absent) entry member
  rw [bne, Bool.eq_false_iff.mpr differs]
  rfl

theorem without_without (objects : List (ObjectName × TextMap)) (name : ObjectName) :
    without (without objects name) name = without objects name := by
  rw [without, without, List.filter_filter]
  exact List.filter_congr fun entry _ => Bool.and_self _

theorem find?_without (objects : List (ObjectName × TextMap)) (name : ObjectName) :
    find? (without objects name) name = none := by
  rw [find?, Option.map_eq_none_iff, List.find?_eq_none]
  intro entry member same
  have differs := (List.mem_filter.mp member).2
  rw [bne, same] at differs
  cases differs

theorem find?_without_of_ne (objects : List (ObjectName × TextMap)) (differs : other ≠ name) :
    find? (without objects name) other = find? objects other := by
  rw [find?, find?, without, List.find?_filter]
  congr 2
  funext entry
  by_cases same : entry.1 = other
  · rw [same, bne_iff_ne.mpr differs]
    simp
  · simp [same]

theorem not_mem_without (objects : List (ObjectName × TextMap)) (name : ObjectName) :
    name ∉ (without objects name).map Prod.fst :=
  not_mem_of_absent (find?_without objects name)

/-! ### One deletion -/

theorem deleteFilesystem_snd (target : ObjectName) (cluster : StorageCluster) :
    (deleteFilesystem target cluster).2 =
      { cluster with filesystems := without cluster.filesystems target } := by
  rw [deleteFilesystem]
  split
  · rfl
  · rename_i missing
    rw [without_of_absent (Option.not_isSome_iff_eq_none.mp missing)]

theorem deleteStorageClass_snd (name : String) (cluster : StorageCluster) :
    (deleteStorageClass name cluster).2 =
      { cluster with storageClasses := cluster.storageClasses.filter (· != name) } := by
  rw [deleteStorageClass]
  split
  · rfl
  · rename_i missing
    have kept : cluster.storageClasses.filter (· != name) = cluster.storageClasses := by
      refine List.filter_eq_self.mpr fun found member => ?_
      rw [bne_iff_ne]
      rintro rfl
      exact missing (List.contains_iff_mem.mpr member)
    rw [kept]

theorem deleteJob_snd (job : ObjectName) (cluster : StorageCluster) :
    (deleteJob job cluster).2 = { cluster with jobs := without cluster.jobs job } := by
  rw [deleteJob]
  split
  · rfl
  · rename_i missing
    rw [without_of_absent (Option.not_isSome_iff_eq_none.mp missing)]

/-! ### The plan of failures -/

/-- No call changes the plan. -/
theorem failures_respond (call : JobCall) (cluster : StorageCluster) :
    (respond call cluster).2.failures = cluster.failures := by
  have kept {α : Type} {operation name : String}
      {perform : StorageCluster → Outcome α × StorageCluster}
      (same : (perform cluster).2.failures = cluster.failures) :
      (cluster.failures.guard operation name cluster perform).2.failures = cluster.failures :=
    Failures.guard_keeps (P := (failures · = cluster.failures)) rfl same
  cases call with
  | createLocalDisk request =>
    refine kept ?_
    simp only [createLocalDisk]
    split <;> rfl
  | createFilesystem request =>
    refine kept ?_
    simp only [createFilesystem]
    split <;> rfl
  | createStorageClass request =>
    refine kept ?_
    simp only [createStorageClass]
    split <;> rfl
  | labelFilesystem target key value =>
    refine kept ?_
    simp only [labelFilesystem]
    split <;> rfl
  | deleteFilesystem target => exact kept (by rw [deleteFilesystem_snd])
  | deleteStorageClass name => exact kept (by rw [deleteStorageClass_snd])
  | deleteJob job => exact kept (by rw [deleteJob_snd])
  | getFilesystem | annotateJob => exact kept rfl

end StorageCluster

namespace Counted

variable {refusals : Refusals} {state last : Counted}

/-- Nor does a run. -/
theorem failures_run {Result : Type} (refusals : Refusals) (dialogue : JobDialogue Result)
    (state : Counted) :
    (Dialogue.run (respond refusals) dialogue state).2.cluster.failures =
      state.cluster.failures := by
  refine (leads_trace (respond refusals) dialogue state).keeps
    (P := fun last => last.cluster.failures = state.cluster.failures) rfl
    fun exchange _ next same => ?_
  exact respond_keeps (P := (StorageCluster.failures · = state.cluster.failures)) same
    ((StorageCluster.failures_respond exchange.question next.cluster).trans same)

/-- What no call deletes is there at the end, whatever is refused. -/
theorem has_of_leads {exchanges : List JobExchange} {thing : Thing}
    (leads : Leads (respond refusals) state exchanges last) (there : state.cluster.Has thing)
    (spared : ∀ exchange ∈ exchanges, deleted? exchange.question ≠ some thing) :
    last.cluster.Has thing :=
  leads.keeps (P := fun state => state.cluster.Has thing) there
    fun exchange member _ there => respond_keeps (P := (StorageCluster.Has · thing)) there
      (StorageCluster.has_respond there (spared exchange member))

end Counted

end NodeStorage.InMemory
