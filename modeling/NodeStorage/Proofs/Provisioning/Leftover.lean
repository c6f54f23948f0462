/-
**What deletions leave behind when they are started again.**

A deletion looks for the filesystem first, and where there is none it has nothing to do. So a
storage class whose filesystem is missing is left behind (`class_left_behind`): as it is best
effort to delete the storage class, a deletion may work and leave it, and none of the later
attempts asks for it again.

While storage classes can be deleted this does not come about. Then an attempt neither leaves a
storage class without its filesystem nor removes one that was left before, whatever else is
refused.

* `Backed` — the storage class is not there without the filesystem.
* `backed_deletion`, `backed_attempted` — one attempt, and any number of them, keep this as it is.
* `deletion_retried` — **the attempt that comes through works and leaves no filesystem**, and it
  leaves the storage class exactly where this was there without the filesystem at first.
-/

import NodeStorage.Proofs.Provisioning.Retries

namespace NodeStorage.Provisioning

open Dialogue Cluster InMemory

/-- An attempt to delete a filesystem: by itself, or after the job that failed to make it. -/
inductive Deletion where
  | alone
  | afterJob (failedJob : Option ObjectName)

/-- The request of an attempt. -/
def Deletion.request (target : ObjectName) : Deletion → JobRequest
  | .alone => .deleteFilesystem target
  | .afterJob failedJob => .cleanupFilesystem target failedJob

/-- The storage class is there only with the filesystem. -/
def Backed (target : ObjectName) (cluster : StorageCluster) : Prop :=
  cluster.Has (.storageClass target.name) → cluster.Has (.filesystem target)

section Attempts

variable {refusals : Refusals} {target : ObjectName} {state : Counted}

/-! ### Single steps -/

/-- Putting on the label takes nothing away. -/
theorem has_allowDeletion {thing : Thing} (filesystem : Filesystem)
    (there : state.cluster.Has thing) :
    (Dialogue.run (Counted.respond refusals) (allowDeletion target filesystem)
      state).2.cluster.Has thing := by
  refine Counted.has_of_leads (leads_trace _ _ state) there fun exchange member => ?_
  rcases exchanges_of_allowDeletion (conversation_trace _ _ state) with
    ⟨-, none, -⟩ | ⟨-, answer, one, -⟩
  · rw [none] at member
    cases member
  · rw [one] at member
    rw [List.mem_singleton.mp member]
    exact fun impossible => by cases impossible

/-- A filesystem that could not be removed is there. -/
theorem has_of_not_removed (working : state.cluster.failures = [])
    (there : state.cluster.Has (.filesystem target)) {cause : Error}
    (failed : (Dialogue.run (Counted.respond refusals) (removeFilesystem target) state).1 =
      .error cause) :
    (Dialogue.run (Counted.respond refusals) (removeFilesystem target)
      state).2.cluster.Has (.filesystem target) := by
  cases decided : refusals state.count (.deleteFilesystem target) with
  | none =>
    rw [run_removeFilesystem working decided] at failed
    cases failed
  | some refusal =>
    rw [run_of_asks (removeFilesystem_eq target), Counted.respond_of_refused decided]
    exact there

/-- A failed job that is deleted takes nothing else with it. -/
theorem cluster_whenSome_dropJob (refusals : Refusals) (failedJob : Option ObjectName)
    (state : Counted) :
    ∃ jobs, (Dialogue.run (Counted.respond refusals) (whenSome failedJob dropJob)
      state).2.cluster = { state.cluster with jobs := jobs } := by
  cases failedJob with
  | none => exact ⟨_, rfl⟩
  | some job =>
    let Same (cluster : StorageCluster) : Prop :=
      ∃ jobs, cluster = { state.cluster with jobs := jobs }
    have before : Same state.cluster := ⟨state.cluster.jobs, rfl⟩
    refine Counted.respond_keeps (P := Same) before (Failures.guard_keeps (P := Same) before ?_)
    exact ⟨_, StorageCluster.deleteJob_snd job state.cluster⟩

/-! ### One attempt -/

/-- Where the filesystem was found, no storage class is left without it. -/
theorem backed_deletionAfter (state : Counted) (working : state.cluster.failures = [])
    (granted : ∀ count, refusals count (.deleteStorageClass target.name) = none)
    (there : state.cluster.Has (.filesystem target)) (filesystem : Filesystem) :
    Backed target (Dialogue.run (Counted.respond refusals)
      (deletionAfter target (.ok (some filesystem))) state).2.cluster := by
  have labelledThere : (Dialogue.run (Counted.respond refusals)
      (allowDeletion target filesystem) state).2.cluster.Has (.filesystem target) :=
    has_allowDeletion filesystem there
  rw [deletionAfter]
  cases labelled : (Dialogue.run (Counted.respond refusals) (allowDeletion target filesystem)
      state).1 with
  | error cause =>
    rw [run_attempt_of_error labelled]
    exact fun _ => labelledThere
  | ok _ =>
    have labelledWorking :=
      (Counted.failures_run refusals (allowDeletion target filesystem) state).trans working
    rw [run_attempt_of_ok labelled]
    generalize (Dialogue.run (Counted.respond refusals) (allowDeletion target filesystem)
      state).2 = second at labelledThere labelledWorking ⊢
    cases removed : (Dialogue.run (Counted.respond refusals) (removeFilesystem target)
        second).1 with
    | error cause =>
      rw [run_attempt_of_error removed]
      exact fun _ => has_of_not_removed labelledWorking labelledThere removed
    | ok _ =>
      have removedWorking :=
        (Counted.failures_run refusals (removeFilesystem target) second).trans labelledWorking
      rw [run_attempt_of_ok removed, run_bind,
        run_dropStorageClass removedWorking (granted _)]
      intro left
      have differs := (List.mem_filter.mp left).2
      rw [bne_self_eq_false] at differs
      cases differs

/-- A deletion that may look finds what is there. -/
theorem run_deleteFilesystem (working : state.cluster.failures = [])
    (granted : refusals state.count (.getFilesystem target) = none) :
    Dialogue.run (Counted.respond refusals) (deleteFilesystem target) state =
      Dialogue.run (Counted.respond refusals)
        (deletionAfter target (.ok
          ((StorageCluster.find? state.cluster.filesystems target).map fun labels =>
            ⟨target.name, target.namespaceName, labels⟩)))
        ⟨state.count + 1, state.cluster⟩ := by
  rw [run_of_asks (deleteFilesystem_eq target), Counted.respond_of_granted granted,
    StorageCluster.respond, Failures.guard_of_empty working]

/-- **A deletion neither leaves a storage class without its filesystem nor removes one**, when
storage classes can be deleted. -/
theorem backed_deletion (working : state.cluster.failures = [])
    (granted : ∀ count, refusals count (.deleteStorageClass target.name) = none) :
    Backed target (Dialogue.run (Counted.respond refusals) (deleteFilesystem target)
      state).2.cluster ↔ Backed target state.cluster := by
  cases decided : refusals state.count (.getFilesystem target) with
  | some cause =>
    rw [run_of_asks (deleteFilesystem_eq target), Counted.respond_of_refused decided]
    exact Iff.rfl
  | none =>
    rw [run_deleteFilesystem working decided]
    cases found : StorageCluster.find? state.cluster.filesystems target with
    | none => exact Iff.rfl
    | some labels =>
      have there : state.cluster.Has (.filesystem target) := StorageCluster.mem_of_found found
      have next := backed_deletionAfter ⟨state.count + 1, state.cluster⟩ working granted there
      exact iff_of_true (next _) fun _ => there

/-- **So does every attempt.** -/
theorem backed_attempt (working : state.cluster.failures = [])
    (granted : ∀ count, refusals count (.deleteStorageClass target.name) = none)
    (attempt : Deletion) :
    Backed target (Dialogue.run (Counted.respond refusals) (attempt.request target).run
      state).2.cluster ↔ Backed target state.cluster := by
  cases attempt with
  | alone => exact backed_deletion working granted
  | afterJob failedJob =>
    obtain ⟨jobs, dropped⟩ := cluster_whenSome_dropJob refusals failedJob state
    have droppedWorking :=
      (Counted.failures_run refusals (whenSome failedJob dropJob) state).trans working
    show Backed target (Dialogue.run (Counted.respond refusals)
      ((whenSome failedJob dropJob).bind fun _ => deleteFilesystem target) state).2.cluster ↔ _
    rw [run_bind, backed_deletion droppedWorking granted, dropped]
    exact Iff.rfl

/-! ### Many attempts -/

theorem failures_attempted (refusals : Refusals) (requests : List JobRequest) (state : Counted) :
    (attempted refusals requests state).cluster.failures = state.cluster.failures := by
  induction requests generalizing state with
  | nil => rfl
  | cons request rest ih =>
    rw [attempted, ih]
    exact Counted.failures_run refusals request.run state

/-- **So do attempts, as many as there are.** -/
theorem backed_attempted (working : state.cluster.failures = [])
    (granted : ∀ count, refusals count (.deleteStorageClass target.name) = none)
    (attempts : List Deletion) :
    Backed target (attempted refusals (attempts.map (·.request target)) state).cluster ↔
      Backed target state.cluster := by
  induction attempts generalizing state with
  | nil => exact Iff.rfl
  | cons first rest ih =>
    have firstWorking :=
      (Counted.failures_run refusals (first.request target).run state).trans working
    rw [List.map_cons, attempted, ih firstWorking]
    exact backed_attempt working granted first

end Attempts

/-! ### The attempt that comes through -/

section Working

variable {refusals : Refusals} {target : ObjectName} {state : Counted}

/-- The label is put on a filesystem that is there. -/
theorem run_allowDeletion (only : refusals.OnlyCreations) (working : state.cluster.failures = [])
    {labels : TextMap}
    (found : StorageCluster.find? state.cluster.filesystems target = some labels) :
    (Dialogue.run (Counted.respond refusals)
      (allowDeletion target ⟨target.name, target.namespaceName, labels⟩) state).1 = .ok () := by
  by_cases labelled : Labelled ⟨target.name, target.namespaceName, labels⟩
  · rw [allowDeletion_of_labelled labelled]
    rfl
  · have answered : (StorageCluster.labelFilesystem target allowDeleteLabel ""
        state.cluster).1 = .ok () := by
      rw [StorageCluster.labelFilesystem, found]
    rw [run_of_asks (allowDeletion_of_not_labelled labelled),
      Counted.respond_of_granted (only.granted rfl _), StorageCluster.respond,
      Failures.guard_of_empty working]
    show labelResult target _ = _
    rw [answered]
    rfl

/-- A filesystem that was found is removed. -/
theorem run_deletionAfter (only : refusals.OnlyCreations) (state : Counted)
    (working : state.cluster.failures = []) {labels : TextMap}
    (found : StorageCluster.find? state.cluster.filesystems target = some labels) :
    (Dialogue.run (Counted.respond refusals)
      (deletionAfter target (.ok (some ⟨target.name, target.namespaceName, labels⟩)))
      state).1 = .ok () ∧
    ¬ (Dialogue.run (Counted.respond refusals)
      (deletionAfter target (.ok (some ⟨target.name, target.namespaceName, labels⟩)))
      state).2.cluster.Has (.filesystem target) := by
  have allowedWorking := (Counted.failures_run refusals
    (allowDeletion target ⟨target.name, target.namespaceName, labels⟩) state).trans working
  rw [deletionAfter, run_attempt_of_ok (run_allowDeletion only working found)]
  generalize (Dialogue.run (Counted.respond refusals)
    (allowDeletion target ⟨target.name, target.namespaceName, labels⟩) state).2 = second
    at allowedWorking ⊢
  have granted : refusals second.count (.deleteFilesystem target) = none := only.granted rfl _
  have removed := run_removeFilesystem allowedWorking granted
  have worked : (Dialogue.run (Counted.respond refusals) (removeFilesystem target) second).1 =
      .ok () := by
    rw [removed]
  have gone : ¬ (Dialogue.run (Counted.respond refusals) (removeFilesystem target)
      second).2.cluster.Has (.filesystem target) := by
    rw [removed]
    exact StorageCluster.not_mem_without _ _
  have removedWorking :=
    (Counted.failures_run refusals (removeFilesystem target) second).trans allowedWorking
  rw [run_attempt_of_ok worked, run_bind,
    run_dropStorageClass removedWorking (only.granted rfl _)]
  exact ⟨rfl, gone⟩

/-- **A deletion works, and the filesystem is gone.** -/
theorem run_deletion (target : ObjectName) (only : refusals.OnlyCreations)
    (working : state.cluster.failures = []) :
    (Dialogue.run (Counted.respond refusals) (deleteFilesystem target) state).1 = .ok () ∧
    ¬ (Dialogue.run (Counted.respond refusals) (deleteFilesystem target)
      state).2.cluster.Has (.filesystem target) := by
  rw [run_deleteFilesystem working (only.granted rfl _)]
  cases found : StorageCluster.find? state.cluster.filesystems target with
  | none => exact ⟨rfl, StorageCluster.not_mem_of_absent found⟩
  | some labels => exact run_deletionAfter only ⟨state.count + 1, state.cluster⟩ working found

/-- **An attempt works, and the filesystem is gone.** -/
theorem run_request (target : ObjectName) (only : refusals.OnlyCreations)
    (working : state.cluster.failures = []) (attempt : Deletion) :
    (Dialogue.run (Counted.respond refusals) (attempt.request target).run state).1 = .ok () ∧
    ¬ (Dialogue.run (Counted.respond refusals) (attempt.request target).run
      state).2.cluster.Has (.filesystem target) := by
  cases attempt with
  | alone => exact run_deletion target only working
  | afterJob failedJob =>
    have droppedWorking :=
      (Counted.failures_run refusals (whenSome failedJob dropJob) state).trans working
    have steps : (Deletion.request target (.afterJob failedJob)).run =
        (whenSome failedJob dropJob).bind fun _ => deleteFilesystem target := rfl
    rw [steps, run_bind]
    exact run_deletion target only droppedWorking

end Working

/-- **A deletion that is started again works in the end and leaves no filesystem**, whatever is
refused before. When it is not storage classes that are refused, it leaves the storage class exactly
where this was there without the filesystem at first. -/
theorem deletion_retried (target : ObjectName) (refusals : Refusals) {initial : Counted}
    (working : initial.cluster.failures = []) (attempts : List Deletion) (final : Deletion) :
    ∃ last, Dialogue.run (Counted.respond .never) (final.request target).run
        (attempted refusals (attempts.map (·.request target)) initial) = (.ok (), last) ∧
      ¬ last.cluster.Has (.filesystem target) ∧
      ((∀ count, refusals count (.deleteStorageClass target.name) = none) →
        (last.cluster.Has (.storageClass target.name) ↔
          initial.cluster.Has (.storageClass target.name) ∧
            ¬ initial.cluster.Has (.filesystem target))) := by
  have stillWorking :=
    (failures_attempted refusals (attempts.map (·.request target)) initial).trans working
  obtain ⟨worked, gone⟩ := run_request target Refusals.onlyCreations_never stillWorking final
  refine ⟨_, Prod.ext worked rfl, gone, fun granted => ?_⟩
  have neverRefused : ∀ count, Refusals.never count (.deleteStorageClass target.name) = none :=
    fun _ => rfl
  have backed := (backed_attempt stillWorking neverRefused final).trans
    (backed_attempted working granted attempts)
  -- Without the filesystem, to be backed is to be gone.
  rw [← not_iff_not, not_and_not_right]
  exact Iff.trans ⟨fun left there => absurd there left, fun held there => gone (held there)⟩ backed

/-- A filesystem with its storage class. -/
def wholeCluster : Counted := ⟨0, [], [(⟨"fs1", "ibm-spectrum-scale"⟩, [])], ["fs1"], [], []⟩

/-- Labels are refused. -/
def noLabel : Refusals := fun _ call =>
  match call with
  | .labelFilesystem _ _ _ => some (.io "no route to host")
  | _ => none

/-- When the label could not be put on at first, a second attempt removes both. -/
theorem whole_removed :
    ∃ last, Dialogue.run (Counted.respond .never)
        (JobRequest.deleteFilesystem ⟨"fs1", "ibm-spectrum-scale"⟩).run
        (attempted noLabel [.deleteFilesystem ⟨"fs1", "ibm-spectrum-scale"⟩] wholeCluster) =
          (.ok (), last) ∧
      ¬ last.cluster.Has (.filesystem ⟨"fs1", "ibm-spectrum-scale"⟩) ∧
      ¬ last.cluster.Has (.storageClass "fs1") := by
  have granted : ∀ count, noLabel count (.deleteStorageClass "fs1") = none := fun _ => rfl
  have working : wholeCluster.cluster.failures = [] := rfl
  have there : wholeCluster.cluster.Has (.filesystem ⟨"fs1", "ibm-spectrum-scale"⟩) :=
    List.mem_singleton_self _
  obtain ⟨last, ran, gone, left⟩ :=
    deletion_retried ⟨"fs1", "ibm-spectrum-scale"⟩ noLabel working [.alone] .alone
  exact ⟨last, ran, gone, fun classThere => ((left granted).mp classThere).2 there⟩

/-- Deletions of storage classes are refused. -/
def noClassDeletion : Refusals := fun _ call =>
  match call with
  | .deleteStorageClass _ => some (.io "no route to host")
  | _ => none

/-- When the storage class could not be deleted at first, a second attempt works and leaves it. -/
theorem class_left_behind :
    (Dialogue.run (Counted.respond .never)
        (JobRequest.deleteFilesystem ⟨"fs1", "ibm-spectrum-scale"⟩).run
        (attempted noClassDeletion [.deleteFilesystem ⟨"fs1", "ibm-spectrum-scale"⟩]
          wholeCluster)).1 = .ok () ∧
    (Dialogue.run (Counted.respond .never)
        (JobRequest.deleteFilesystem ⟨"fs1", "ibm-spectrum-scale"⟩).run
        (attempted noClassDeletion [.deleteFilesystem ⟨"fs1", "ibm-spectrum-scale"⟩]
          wholeCluster)).2.cluster.Has (.storageClass "fs1") :=
  ⟨rfl, List.mem_singleton_self _⟩

end NodeStorage.Provisioning
