/-
**A clean-up undoes a run that makes a filesystem.**

A run is accepted, makes what it can in a cluster that may refuse any creation, and keeps its last
checkpoint with the job. Started with this checkpoint, a clean-up is accepted and works, and leaves
the filesystems and storage classes as they were before the run; the local disks that were made stay
for another run (`CreateRequest.cleanup_undoes`).
-/

import NodeStorage.Proofs.InMemory.Deletions
import NodeStorage.Proofs.Outcome
import NodeStorage.Proofs.Provisioning.KeptCheckpoint
import NodeStorage.Proofs.Provisioning.Removal

namespace NodeStorage.Provisioning

open Dialogue Cluster InMemory

/-! ### What a clean-up does to a cluster -/

section CleanUp

variable {refusals : Refusals} {state : Counted}

theorem run_of_asks {α : Type} {dialogue : JobDialogue α} {call : JobCall}
    {next : call.Answer → JobDialogue α} (asks : dialogue = .ask call next) :
    Dialogue.run (Counted.respond refusals) dialogue state =
      Dialogue.run (Counted.respond refusals) (next (Counted.respond refusals call state).1)
        (Counted.respond refusals call state).2 := by
  rw [asks]
  rfl

theorem gone_deleteFilesystem (target : ObjectName) (cluster : StorageCluster) :
    Gone (StorageCluster.deleteFilesystem target cluster).1 := by
  rw [StorageCluster.deleteFilesystem]
  split
  · trivial
  · rfl

theorem run_removeFilesystem (working : state.cluster.failures = []) {target : ObjectName}
    (granted : refusals state.count (.deleteFilesystem target) = none) :
    Dialogue.run (Counted.respond refusals) (removeFilesystem target) state =
      (.ok (), ⟨state.count + 1, { state.cluster with
        filesystems := StorageCluster.without state.cluster.filesystems target }⟩) := by
  rw [run_of_asks (removeFilesystem_eq target), Counted.respond_of_granted granted,
    StorageCluster.respond, Failures.guard_of_empty working,
    StorageCluster.deleteFilesystem_snd]
  exact Prod.ext (removalResult_eq_ok_iff.mpr (gone_deleteFilesystem target state.cluster)) rfl

theorem run_dropStorageClass (working : state.cluster.failures = []) {name : String}
    (granted : refusals state.count (.deleteStorageClass name) = none) :
    Dialogue.run (Counted.respond refusals) (dropStorageClass name) state =
      ((), ⟨state.count + 1, { state.cluster with
        storageClasses := state.cluster.storageClasses.filter (· != name) }⟩) := by
  have asks : dropStorageClass name = .ask (.deleteStorageClass name) fun _ => .done () := rfl
  rw [run_of_asks asks, Counted.respond_of_granted granted, StorageCluster.respond,
    Failures.guard_of_empty working, StorageCluster.deleteStorageClass_snd]
  rfl

theorem run_dropJob (working : state.cluster.failures = []) {job : ObjectName}
    (granted : refusals state.count (.deleteJob job) = none) :
    Dialogue.run (Counted.respond refusals) (dropJob job) state =
      ((), ⟨state.count + 1, { state.cluster with
        jobs := StorageCluster.without state.cluster.jobs job }⟩) := by
  have asks : dropJob job = .ask (.deleteJob job) fun _ => .done () := rfl
  rw [run_of_asks asks, Counted.respond_of_granted granted, StorageCluster.respond,
    Failures.guard_of_empty working, StorageCluster.deleteJob_snd]
  rfl

/-- The storage classes without the one that was made, if any. -/
def classesWithout (classes : List String) : Option String → List String
  | none => classes
  | some name => classes.filter (· != name)

/-- The filesystems without the one that was made, if any. -/
def filesystemsWithout (filesystems : List (ObjectName × TextMap)) (namespaceName : String) :
    Option String → List (ObjectName × TextMap)
  | none => filesystems
  | some name => StorageCluster.without filesystems ⟨name, namespaceName⟩

/-- The jobs without the one that failed, if it is known. -/
def jobsWithout (jobs : List (ObjectName × TextMap)) :
    Option ObjectName → List (ObjectName × TextMap)
  | none => jobs
  | some job => StorageCluster.without jobs job

/-- The cluster without what a clean-up removes. -/
def CleanupRequest.cleaned (cleanup : CleanupRequest) (cluster : StorageCluster) :
    StorageCluster :=
  { cluster with
    storageClasses := classesWithout cluster.storageClasses cleanup.created.storageClass
    filesystems := filesystemsWithout cluster.filesystems cleanup.namespaceName
      cleanup.created.filesystem
    jobs := jobsWithout cluster.jobs cleanup.failedJob }

theorem cluster_dropClass (only : refusals.OnlyCreations) (working : state.cluster.failures = [])
    (made : Option String) :
    (Dialogue.run (Counted.respond refusals) (whenSome made dropStorageClass) state).2.cluster =
      { state.cluster with
        storageClasses := classesWithout state.cluster.storageClasses made } := by
  cases made with
  | none => rfl
  | some name =>
    rw [whenSome, run_dropStorageClass working (only.granted rfl _)]
    rfl

theorem run_removal (only : refusals.OnlyCreations) (working : state.cluster.failures = [])
    (namespaceName : String) (made : Option String) :
    (Dialogue.run (Counted.respond refusals) (removal namespaceName made) state).1 = .ok () ∧
    (Dialogue.run (Counted.respond refusals) (removal namespaceName made) state).2.cluster =
      { state.cluster with
        filesystems := filesystemsWithout state.cluster.filesystems namespaceName made } := by
  cases made with
  | none => exact ⟨rfl, rfl⟩
  | some name =>
    rw [removal, run_removeFilesystem working (only.granted rfl _)]
    exact ⟨rfl, rfl⟩

theorem cluster_dropFailedJob (only : refusals.OnlyCreations)
    (working : state.cluster.failures = []) (failedJob : Option ObjectName) :
    (Dialogue.run (Counted.respond refusals) (whenSome failedJob dropJob) state).2.cluster =
      { state.cluster with jobs := jobsWithout state.cluster.jobs failedJob } := by
  cases failedJob with
  | none => rfl
  | some job =>
    rw [whenSome, run_dropJob working (only.granted rfl _)]
    rfl

/-- **A clean-up works and removes what it is told was made.** -/
theorem run_cleanup (only : refusals.OnlyCreations) (working : state.cluster.failures = [])
    (cleanup : CleanupRequest) :
    (Dialogue.run (Counted.respond refusals) cleanup.run state).1 = .ok () ∧
    (Dialogue.run (Counted.respond refusals) cleanup.run state).2.cluster =
      cleanup.cleaned state.cluster := by
  -- Each of the three steps changes one part of the cluster and finds the others as they were.
  have classes := cluster_dropClass only working cleanup.created.storageClass
  rw [cleanup_eq, run_bind]
  generalize (Dialogue.run (Counted.respond refusals)
    (whenSome cleanup.created.storageClass dropStorageClass) state).2 = second at classes ⊢
  have secondWorking : second.cluster.failures = [] := by
    rw [classes]
    exact working
  obtain ⟨removed, filesystems⟩ :=
    run_removal only secondWorking cleanup.namespaceName cleanup.created.filesystem
  rw [run_attempt_of_ok removed]
  generalize (Dialogue.run (Counted.respond refusals)
    (removal cleanup.namespaceName cleanup.created.filesystem) second).2 = third at filesystems ⊢
  have thirdWorking : third.cluster.failures = [] := by
    rw [filesystems]
    exact secondWorking
  refine ⟨by rw [run_bind]; rfl, ?_⟩
  rw [run_bind, Dialogue.run, cluster_dropFailedJob only thirdWorking, filesystems, classes]
  rfl

end CleanUp

/-! ### What the two jobs are started with -/

theorem present?_of_required {text : Option String} {source value : String}
    (given : required text source = .ok value) : Text.present? text = some value := by
  rw [required] at given
  cases present : Text.present? text with
  | none =>
    rw [present] at given
    cases given
  | some found =>
    rw [present] at given
    cases given
    rfl

namespace JobArguments

variable {arguments : JobArguments}

/-- The namespace of a request is given again as it is. -/
theorem present?_namespaceName {request : CreateRequest}
    (accepted : arguments.createRequest = .ok request) :
    Text.present? (some request.namespaceName) = some request.namespaceName := by
  obtain ⟨filesystemName, -, rest⟩ := bind_eq_ok accepted
  obtain ⟨namespaceName, given, rest⟩ := bind_eq_ok rest
  obtain ⟨jobName, -, rest⟩ := bind_eq_ok rest
  obtain ⟨newLuns, -, rest⟩ := bind_eq_ok rest
  obtain ⟨reusedLuns, -, rest⟩ := bind_eq_ok rest
  have same : request.namespaceName = namespaceName := by
    split at rest
    · cases rest
    · obtain ⟨-, -, last⟩ := bind_eq_ok rest
      cases last
      rfl
  rw [same]
  exact Text.present?_present? (present?_of_required given)

theorem createRequest_of_toRequest {request : CreateRequest}
    (accepted : arguments.toRequest = .ok (.createFilesystem request)) :
    arguments.createRequest = .ok request := by
  rw [toRequest] at accepted
  split at accepted
  · cases accepted
  all_goals
    obtain ⟨made, same, last⟩ := bind_eq_ok accepted
    cases last
  exact same

/-- **A clean-up is accepted with the text of a checkpoint.** -/
theorem toRequest_of_checkpoint {namespaceName : String} {checkpoint : Checkpoint}
    (operation : arguments.operation = some .cleanupFailedJob)
    (target : arguments.targetNamespace = some namespaceName)
    (present : Text.present? (some namespaceName) = some namespaceName)
    (resources : arguments.createdResources = some checkpoint.toText) :
    arguments.toRequest =
      .ok (.cleanupFailedJob ⟨namespaceName, arguments.failedJob, checkpoint⟩) := by
  have created : arguments.created = .ok checkpoint := by
    simp only [JobArguments.created, resources, Checkpoint.present?_toText,
      Checkpoint.ofText_toText]
  have request : arguments.cleanupRequest =
      .ok ⟨namespaceName, arguments.failedJob, checkpoint⟩ := by
    simp only [cleanupRequest, target, present, created]
    rfl
  simp only [toRequest, operation, request]
  rfl

end JobArguments

/-! ### Creating and cleaning up -/

/-- The annotations that an exchange writes. -/
def noteTexts? : JobExchange → Option TextMap
  | ⟨.annotateJob _ texts, _⟩ => some texts
  | _ => none

/-- The text of the checkpoint in the last note. -/
def lastCheckpoint? (exchanges : List JobExchange) : Option String :=
  (exchanges.filterMap noteTexts?).getLast?.bind (TextMap.lookup? Progress.checkpointKey)

namespace CreateRequest

variable {request : CreateRequest} {exchanges : List JobExchange} {result : Outcome Checkpoint}

theorem lastCheckpoint?_of_course (course : request.Course exchanges result) :
    lastCheckpoint? exchanges = some (request.checkpointOf (worked exchanges)).toText := by
  obtain ⟨earlier, progress, answer, same, claim⟩ := last_note_of_course course
  have texts : (exchanges.filterMap noteTexts?).getLast? = some progress.annotations := by
    rw [same, List.filterMap_append]
    exact List.getLast?_concat
  rw [lastCheckpoint?, texts, ← claim]
  rfl

theorem eq_nil_or_singleton_of_prefix {α : Type} {first : List α} {element : α}
    (few : first <+: [element]) : first = [] ∨ first = [element] := by
  rcases List.prefix_cons_iff.mp few with none | ⟨more, one, nothing⟩
  · exact Or.inl none
  · rw [List.prefix_nil.mp nothing] at one
    exact Or.inr one

/-- At most the one filesystem is made. -/
theorem filesystems_of_prefix {calls : List JobCall} (first : calls <+: request.plan) :
    calls.filterMap JobCall.filesystem? = [] ∨
      calls.filterMap JobCall.filesystem? = [request.filesystemRequest] := by
  have few := first.filterMap JobCall.filesystem?
  rw [plan, List.filterMap_append, filesystems_diskCalls] at few
  exact eq_nil_or_singleton_of_prefix few

/-- At most the one storage class is made. -/
theorem storageClasses_of_prefix {calls : List JobCall} (first : calls <+: request.plan) :
    calls.filterMap JobCall.storageClass? = [] ∨
      calls.filterMap JobCall.storageClass? = [request.storageClassRequest] := by
  have few := first.filterMap JobCall.storageClass?
  rw [plan, List.filterMap_append, storageClasses_diskCalls] at few
  exact eq_nil_or_singleton_of_prefix few

variable {before after : StorageCluster} {calls : List JobCall}

/-- Without the filesystem that was made, the filesystems are as before. -/
theorem filesystems_restored (grown : Grown before after calls) (first : calls <+: request.plan) :
    filesystemsWithout after.filesystems request.namespaceName
      (request.checkpointOf calls).filesystem = before.filesystems := by
  rw [grown.filesystems, checkpointOf]
  rcases filesystems_of_prefix first with none | one
  · rw [none]
    exact List.append_nil _
  · have absent := grown.newFilesystems request.filesystemRequest (by
      rw [one]
      exact List.mem_singleton_self _)
    have gone : [(filesystemObject request.filesystemRequest, ([] : TextMap))].filter
        (fun entry => entry.1 != filesystemObject request.filesystemRequest) = [] :=
      List.filter_cons_of_neg (by simp)
    rw [one]
    show (before.filesystems ++ [(filesystemObject request.filesystemRequest, [])]).filter
      (fun entry => entry.1 != filesystemObject request.filesystemRequest) = before.filesystems
    rw [List.filter_append, gone, List.append_nil]
    exact StorageCluster.without_of_absent absent

/-- Without the storage class that was made, the storage classes are as before. -/
theorem storageClasses_restored (grown : Grown before after calls)
    (first : calls <+: request.plan) :
    classesWithout after.storageClasses (request.checkpointOf calls).storageClass =
      before.storageClasses := by
  rw [grown.storageClasses, checkpointOf]
  rcases storageClasses_of_prefix first with none | one
  · rw [none]
    exact List.append_nil _
  · have absent := grown.newStorageClasses request.storageClassRequest (by
      rw [one]
      exact List.mem_singleton_self _)
    have gone : [request.filesystemName].filter (· != request.filesystemName) = [] :=
      List.filter_cons_of_neg (by simp)
    rw [one]
    show (before.storageClasses ++ [request.filesystemName]).filter
      (· != request.filesystemName) = before.storageClasses
    rw [List.filter_append, gone, List.append_nil]
    refine List.filter_eq_self.mpr fun name member => bne_iff_ne.mpr ?_
    rintro rfl
    exact absent member

/-- A run asks for creations and notes only. -/
theorem creations_and_notes (course : request.Course exchanges result) :
    ∀ exchange ∈ exchanges, exchange.question.isCreation = true ∨
      ∃ job texts, exchange.question = .annotateJob job texts := by
  intro exchange member
  obtain ⟨earlier, later, split⟩ := List.append_of_mem member
  rcases (sound_of_course course).at split with ⟨creation, -⟩ | ⟨progress, note, -⟩
  · exact Or.inl creation
  · exact Or.inr ⟨request.job, progress.annotations, note⟩

/-- **A clean-up undoes a run**, wherever the run ended, when nothing but creations fails: it is
accepted with the last checkpoint of the run, works, and leaves the filesystems and storage classes
as they were at first, and besides the first local disks exactly those that the run made. -/
theorem cleanup_undoes {arguments : JobArguments}
    (accepted : arguments.toRequest = .ok (.createFilesystem request))
    {refusals : Refusals} (only : refusals.OnlyCreations) {initial created : Counted}
    (working : initial.cluster.failures = [])
    (ran : (Dialogue.run (Counted.respond refusals) request.run initial).2 = created)
    {cleaning : JobArguments} (operation : cleaning.operation = some .cleanupFailedJob)
    (target : cleaning.targetNamespace = some request.namespaceName)
    (resources : cleaning.createdResources =
      lastCheckpoint? (trace (Counted.respond refusals) request.run initial)) :
    ∃ cleanup last, cleaning.toRequest = .ok (.cleanupFailedJob cleanup) ∧
      Dialogue.run (Counted.respond refusals) cleanup.run created = (.ok (), last) ∧
      last.cluster.filesystems = initial.cluster.filesystems ∧
      last.cluster.storageClasses = initial.cluster.storageClasses ∧
      last.cluster.localDisks = initial.cluster.localDisks ++
        ((worked (trace (Counted.respond refusals) request.run initial)).filterMap
          JobCall.disk?).map diskObject := by
  have course :=
    course_of_conversation (conversation_trace (Counted.respond refusals) request.run initial)
  have leads := leads_trace (Counted.respond refusals) request.run initial
  rw [ran] at leads
  have grown := grown_of_leads leads working (creations_and_notes course)
  have first := worked_prefix_plan course
  rw [lastCheckpoint?_of_course course] at resources
  obtain ⟨ended, left⟩ := run_cleanup only (grown.failures.trans working)
    ⟨request.namespaceName, cleaning.failedJob, request.checkpointOf (worked _)⟩
  refine ⟨_, _, JobArguments.toRequest_of_checkpoint operation target
    (JobArguments.present?_namespaceName (JobArguments.createRequest_of_toRequest accepted))
    resources, Prod.ext ended rfl, ?_, ?_, ?_⟩
  · rw [left]
    exact filesystems_restored grown first
  · rw [left]
    exact storageClasses_restored grown first
  · rw [left]
    exact grown.localDisks

/-- What the small run is started with. -/
def smallArguments : JobArguments where
  operation := some .createFilesystem
  filesystemName := some " fs1 "
  namespaceName := some "ibm-spectrum-scale"
  jobName := some "make-fs1"
  newLuns := some "[\x7b\"path\":\"/dev/sdb\",\"wwn\":\"0x6000\",\"node\":\"node1\"\x7d]"
  reusedLuns := some ("[\x7b\"path\":\"/dev/sdc\",\"wwn\":\"0x6001\",\"node\":\"node1\"," ++
    "\"isReused\":true,\"localDiskName\":\"sdc-0x6001\"\x7d]")

theorem toRequest_smallArguments : smallArguments.toRequest = .ok (.createFilesystem small) :=
  eq_ok_of_toOption (by decide +kernel)

/-- Storage classes are refused. -/
def noStorageClass : Refusals := fun _ call =>
  match call with
  | .createStorageClass _ => some (.io "no route to host")
  | _ => none

/-- A cluster with another filesystem and its storage class. -/
def otherCluster : Counted := ⟨0, [], [(⟨"fs0", "ibm-spectrum-scale"⟩, [])], ["fs0"], [], []⟩

/-- The filesystem that was made goes again, the other one and the disk that was made stay. -/
theorem small_undone :
    ∃ cleanup last,
      ({ operation := some .cleanupFailedJob
         targetNamespace := some "ibm-spectrum-scale"
         createdResources :=
           lastCheckpoint? (trace (Counted.respond noStorageClass) small.run otherCluster) } :
        JobArguments).toRequest = .ok (.cleanupFailedJob cleanup) ∧
      Dialogue.run (Counted.respond noStorageClass) cleanup.run
        (Dialogue.run (Counted.respond noStorageClass) small.run otherCluster).2 = (.ok (), last) ∧
      last.cluster.filesystems = [(⟨"fs0", "ibm-spectrum-scale"⟩, [])] ∧
      last.cluster.storageClasses = ["fs0"] ∧
      last.cluster.localDisks =
        small.newLuns.map fun lun => diskObject (small.diskRequest lun) := by
  have only : noStorageClass.OnlyCreations := by
    intro count call cause refused
    cases call <;> first | rfl | cases refused
  exact cleanup_undoes toRequest_smallArguments only rfl rfl rfl rfl rfl

end CreateRequest

end NodeStorage.Provisioning
