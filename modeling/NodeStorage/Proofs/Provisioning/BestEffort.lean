/-
**What is best effort makes no difference.**

Notes about the progress, deletions of storage classes and deletions of jobs are best effort: they
may fail, and the job goes on as if they had worked. So a job that is answered differently in such
calls only asks for the same things, in the same order and with the same arguments, and comes to the
same result. Nothing of an answer gets into a later note, the checkpoint or an error.

* `undeterred_request` — each job goes on in one way after every call that is best effort.
* `best_effort` — **two runs of a job that are alike but for best-effort answers are the same**.
-/

import NodeStorage.Proofs.Dialogue.Indifference
import NodeStorage.Proofs.InMemory.Refusals
import NodeStorage.Proofs.Provisioning.Phases
import NodeStorage.Proofs.Provisioning.Removal

namespace NodeStorage.Provisioning

open Dialogue Cluster InMemory

/-- The call is best effort. -/
def JobCall.IsBestEffort : JobCall → Prop
  | .annotateJob _ _ | .deleteStorageClass _ | .deleteJob _ => True
  | _ => False

/-- The dialogue goes on in one way after a call that is best effort. -/
abbrev Undeterred {α : Type} (dialogue : JobDialogue α) : Prop :=
  Disregards JobCall.IsBestEffort dialogue

/-! ### Notes -/

theorem undeterred_record (job : ObjectName) (progress : Progress) :
    Undeterred (record job progress) := by
  show Undeterred (.ask (.annotateJob job progress.annotations) fun _ => .done ())
  exact .tell (.done _)

theorem undeterred_enter (job : ObjectName) (next : Phase) (message : String)
    (progress : Progress) : Undeterred (enter job next message progress) := by
  rw [enter]
  split
  · exact .done _
  · exact (undeterred_record job _).bind fun _ => .done _

theorem undeterred_stop {α : Type} (job : ObjectName) (message : String) (cause : Error)
    (progress : Progress) :
    Undeterred (stop job message cause progress : JobDialogue (Outcome α)) :=
  (undeterred_record job _).bind fun _ => .done _

/-! ### Making a filesystem -/

namespace CreateRequest

variable (request : CreateRequest)

theorem undeterred_makeDisks (luns : List Lun) (progress : Progress) :
    Undeterred (request.makeDisks luns progress) := by
  induction luns generalizing progress with
  | nil => exact .done _
  | cons lun luns ih =>
    refine .heed id fun answer => ?_
    cases answer with
    | error cause => exact undeterred_stop _ _ _ _
    | ok _ => exact ih _

theorem undeterred_makeFilesystem (disks : List String) (progress : Progress) :
    Undeterred (request.makeFilesystem disks progress) := by
  refine .heed id fun answer => ?_
  cases answer with
  | error cause => exact undeterred_stop _ _ _ _
  | ok _ => exact .done _

theorem undeterred_makeStorageClass (progress : Progress) :
    Undeterred (request.makeStorageClass progress) := by
  refine .heed id fun answer => ?_
  cases answer with
  | error cause => exact undeterred_stop _ _ _ _
  | ok _ => exact .done _

theorem undeterred_run : Undeterred request.run := by
  refine (undeterred_record _ _).bind fun _ => ?_
  have disks : Undeterred (request.disksStep request.beginning) :=
    (undeterred_enter _ _ _ _).attempt fun _ =>
      (request.undeterred_makeDisks _ _).attempt fun _ => .done _
  have filesystem (progress : Progress) : Undeterred (request.filesystemStep progress) :=
    (undeterred_enter _ _ _ _).attempt fun _ => request.undeterred_makeFilesystem _ _
  have storageClass (progress : Progress) : Undeterred (request.storageClassStep progress) :=
    (undeterred_enter _ _ _ _).attempt fun _ => request.undeterred_makeStorageClass _
  have completion (progress : Progress) : Undeterred (request.completion progress) :=
    undeterred_enter _ _ _ _
  exact disks.attempt fun progress => (filesystem progress).attempt fun progress =>
    (storageClass progress).attempt fun progress => (completion progress).attempt fun _ => .done _

end CreateRequest

/-! ### Removing things -/

theorem undeterred_dropStorageClass (name : String) : Undeterred (dropStorageClass name) := by
  show Undeterred (.ask (.deleteStorageClass name) fun _ => .done ())
  exact .tell (.done _)

theorem undeterred_dropJob (job : ObjectName) : Undeterred (dropJob job) := by
  show Undeterred (.ask (.deleteJob job) fun _ => .done ())
  exact .tell (.done _)

theorem undeterred_whenSome {α : Type} (value : Option α) {perform : α → JobDialogue Unit}
    (each : ∀ found, Undeterred (perform found)) : Undeterred (whenSome value perform) := by
  cases value with
  | none => exact .done _
  | some found => exact each found

theorem undeterred_removeFilesystem (target : ObjectName) :
    Undeterred (removeFilesystem target) := by
  rw [removeFilesystem_eq]
  exact .heed id fun _ => .done _

theorem undeterred_allowDeletion (target : ObjectName) (filesystem : Filesystem) :
    Undeterred (allowDeletion target filesystem) := by
  by_cases labelled : Labelled filesystem
  · rw [allowDeletion_of_labelled labelled]
    exact .done _
  · rw [allowDeletion_of_not_labelled labelled]
    exact .heed id fun _ => .done _

theorem undeterred_deleteFilesystem (target : ObjectName) :
    Undeterred (deleteFilesystem target) := by
  rw [deleteFilesystem_eq]
  refine .heed id fun answer => ?_
  match answer with
  | .error cause => exact .done _
  | .ok none => exact .done _
  | .ok (some filesystem) =>
    exact (undeterred_allowDeletion target filesystem).attempt fun _ =>
      (undeterred_removeFilesystem target).attempt fun _ =>
        (undeterred_dropStorageClass target.name).bind fun _ => .done _

theorem undeterred_cleanup (cleanup : CleanupRequest) : Undeterred cleanup.run := by
  have removes : Undeterred (removal cleanup.namespaceName cleanup.created.filesystem) := by
    cases cleanup.created.filesystem with
    | none => exact .done _
    | some name => exact undeterred_removeFilesystem _
  rw [cleanup_eq]
  exact (undeterred_whenSome _ undeterred_dropStorageClass).bind fun _ =>
    removes.attempt fun _ =>
      (undeterred_whenSome _ undeterred_dropJob).bind fun _ => .done _

/-! ### All jobs -/

/-- **No job is deterred by calls that are best effort.** -/
theorem undeterred_request (request : JobRequest) : Undeterred request.run := by
  cases request with
  | createFilesystem create => exact create.undeterred_run.attempt fun _ => .done _
  | cleanupFailedJob cleanup => exact undeterred_cleanup cleanup
  | cleanupFilesystem target failedJob =>
    exact (undeterred_whenSome failedJob undeterred_dropJob).bind fun _ =>
      undeterred_deleteFilesystem target
  | deleteFilesystem target => exact undeterred_deleteFilesystem target

/-- **Best-effort calls make no difference**: two runs of a job that get the same answers to all
other calls ask the same calls, with the same arguments and in the same order, and have the same
result. -/
theorem best_effort {request : JobRequest} {first second : List JobExchange}
    {result resultToo : Outcome Unit} (conversation : Conversation request.run first result)
    (conversationToo : Conversation request.run second resultToo)
    (alike : AlikeBut JobCall.IsBestEffort first second) :
    first.map Exchange.question = second.map Exchange.question ∧ result = resultToo :=
  (undeterred_request request).same conversation conversationToo alike

/-- Notes are refused. -/
def noNotes : Refusals := fun _ call =>
  match call with
  | .annotateJob _ _ => some (.io "no route to host")
  | _ => none

theorem alikeBut_noNotes :
    AlikeBut JobCall.IsBestEffort
      (trace StorageCluster.respond (JobRequest.createFilesystem .small).run
        CreateRequest.takenCluster)
      (trace (Counted.respond noNotes) (JobRequest.createFilesystem .small).run
        ⟨0, CreateRequest.takenCluster⟩) := by
  have note {job : ObjectName} {texts : TextMap} {answer answerToo : Outcome Unit}
      {first second : List JobExchange} (later : AlikeBut JobCall.IsBestEffort first second) :
      AlikeBut JobCall.IsBestEffort (⟨.annotateJob job texts, answer⟩ :: first)
        (⟨.annotateJob job texts, answerToo⟩ :: second) :=
    alikeBut_cons_iff.mpr ⟨fun heeded => absurd trivial heeded, later⟩
  have same {exchange : JobExchange} {first second : List JobExchange}
      (later : AlikeBut JobCall.IsBestEffort first second) :
      AlikeBut JobCall.IsBestEffort (exchange :: first) (exchange :: second) :=
    alikeBut_cons_iff.mpr ⟨fun _ => rfl, later⟩
  exact note (note (same (note (same (note alikeBut_nil)))))

/-- A run ends in the same way whether its notes are written or refused. -/
theorem small_without_notes :
    (trace StorageCluster.respond (JobRequest.createFilesystem .small).run
        CreateRequest.takenCluster).map Exchange.question =
      (trace (Counted.respond noNotes) (JobRequest.createFilesystem .small).run
        ⟨0, CreateRequest.takenCluster⟩).map Exchange.question ∧
    (Dialogue.run StorageCluster.respond (JobRequest.createFilesystem .small).run
        CreateRequest.takenCluster).1 =
      (Dialogue.run (Counted.respond noNotes) (JobRequest.createFilesystem .small).run
        ⟨0, CreateRequest.takenCluster⟩).1 :=
  best_effort (conversation_trace _ _ _) (conversation_trace _ _ _) alikeBut_noNotes

end NodeStorage.Provisioning
