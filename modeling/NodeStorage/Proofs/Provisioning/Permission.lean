/-
**Which filesystems are deleted by permission.**

A filesystem may be deleted only when it carries a label that allows it. A job that deletes a
filesystem by its name looks for the label first, and puts it on where it is missing; so the label
was seen or put on before every deletion, and is put on at most once. A clean-up trusts its
checkpoint: it deletes the filesystem that is recorded there as it is, without a look at the label.

* `MayFollow` — what is allowed after the exchanges before, and `abides_deletion`, by which a
  deletion never asks for anything else.
* `permitted_iff` — **deletions are permitted in exactly the runs that have no recorded
  filesystem**, and in every run the label is put on once at most, and never where it was seen.
* `recorded_deleted_without_label` — where a clean-up deletes a filesystem that lacks the label.
-/

import NodeStorage.Proofs.Provisioning.CleanUp

namespace NodeStorage.Provisioning

open Dialogue Cluster InMemory

/-! ### The label in a conversation -/

/-- The filesystem was seen to carry the label. -/
def ShowsLabel (target : ObjectName) : JobExchange → Prop
  | ⟨.getFilesystem asked, .ok (some filesystem)⟩ => asked = target ∧ Labelled filesystem
  | _ => False

/-- The label was put on the filesystem. -/
def PutsLabel (target : ObjectName) : JobExchange → Prop
  | ⟨.labelFilesystem asked key _, .ok _⟩ => asked = target ∧ key = allowDeleteLabel
  | _ => False

/-- The call puts a label on a filesystem. -/
def JobCall.isLabelling : JobCall → Bool
  | .labelFilesystem _ _ _ => true
  | _ => false

/-- **Every deletion of a filesystem is permitted**: the label was seen or put on before. -/
def DeletesPermitted (exchanges : List JobExchange) : Prop :=
  ∀ earlier target answer later,
    exchanges = earlier ++ ⟨.deleteFilesystem target, answer⟩ :: later →
    ∃ exchange ∈ earlier, ShowsLabel target exchange ∨ PutsLabel target exchange

/-- Nothing was labelled so far, and no label was seen. -/
def Unlabelled (earlier : List JobExchange) : Prop :=
  ∀ exchange ∈ earlier, exchange.question.isLabelling = false ∧
    ∀ target, ¬ ShowsLabel target exchange

/-- **Labels are put on sparingly**: before a label is put on, no other was, and none was seen. -/
def LabelsOnce (exchanges : List JobExchange) : Prop :=
  ∀ earlier target key value answer later,
    exchanges = earlier ++ ⟨.labelFilesystem target key value, answer⟩ :: later →
    Unlabelled earlier

/-- The filesystem that a request finds recorded in a checkpoint and deletes. -/
def JobRequest.recorded? : JobRequest → Option String
  | .cleanupFailedJob cleanup => cleanup.created.filesystem
  | _ => none

/-! ### Deletions -/

/-- A deletion follows a label, and a label follows no label. -/
def MayFollow (earlier : List JobExchange) : JobCall → Prop
  | .deleteFilesystem target =>
    ∃ exchange ∈ earlier, ShowsLabel target exchange ∨ PutsLabel target exchange
  | .labelFilesystem _ _ _ => Unlabelled earlier
  | _ => True

theorem unlabelled_append {first second : List JobExchange} :
    Unlabelled (first ++ second) ↔ Unlabelled first ∧ Unlabelled second :=
  List.forall_mem_append

theorem unlabelled_whenSome_dropJob {failedJob : Option ObjectName}
    {exchanges : List JobExchange} {result : Unit}
    (conversation : Conversation (whenSome failedJob dropJob) exchanges result) :
    Unlabelled exchanges := by
  cases failedJob with
  | none =>
    obtain ⟨rfl, -⟩ := conversation_done_iff.mp conversation
    exact List.forall_mem_nil _
  | some job =>
    obtain ⟨answer, rest, rfl, last⟩ := conversation_ask_iff.mp conversation
    obtain ⟨rfl, -⟩ := conversation_done_iff.mp last
    exact List.forall_mem_singleton.mpr ⟨rfl, fun _ => id⟩

/-- **A filesystem is deleted by permission** where nothing was labelled before. -/
theorem abides_deletion (target : ObjectName) {history : List JobExchange}
    (unlabelled : Unlabelled history) :
    Abides MayFollow history (deleteFilesystem target) := by
  rw [deleteFilesystem_eq]
  refine .ask trivial fun answer => ?_
  match answer with
  | .error cause => exact .done _ _
  | .ok none => exact .done _ _
  | .ok (some filesystem) =>
    refine .attempt ?_ fun exchanges _ allowed =>
      .attempt (abides_removeFilesystem ?_) fun _ _ _ =>
        .bind (abides_dropStorageClass trivial) fun _ _ _ => .done _ _
    · by_cases labelled : Labelled filesystem
      · rw [allowDeletion_of_labelled labelled]
        exact .done _ _
      · rw [allowDeletion_of_not_labelled labelled]
        refine .ask (unlabelled_append.mpr ⟨unlabelled, ?_⟩) fun _ => .done _ _
        exact List.forall_mem_singleton.mpr ⟨rfl, fun _ shown => labelled shown.2⟩
    · rcases exchanges_of_allowDeletion allowed with
        ⟨labelled, rfl, -⟩ | ⟨-, answer, rfl, worked⟩
      · exact ⟨_, List.mem_append_left _ (List.mem_append_right _ (List.mem_singleton_self _)),
          Or.inl ⟨rfl, labelled⟩⟩
      · cases answer with
        | error cause => cases worked
        | ok _ =>
          exact ⟨_, List.mem_append_right _ (List.mem_singleton_self _), Or.inr ⟨rfl, rfl⟩⟩

theorem permitted_of_abides {dialogue : JobDialogue (Outcome Unit)}
    (abides : Abides MayFollow [] dialogue) {exchanges : List JobExchange} {result : Outcome Unit}
    (conversation : Conversation dialogue exchanges result) :
    DeletesPermitted exchanges ∧ LabelsOnce exchanges := by
  have each := abides.of_conversation conversation
  exact ⟨fun _ _ _ _ split => each.at split, fun _ _ _ _ _ _ split => each.at split⟩

/-! ### Other jobs -/

/-- A job that makes a filesystem says what the run of its request says. -/
theorem course_of_createFilesystem {create : CreateRequest} {exchanges : List JobExchange}
    {result : Outcome Unit}
    (conversation : Conversation (JobRequest.createFilesystem create).run exchanges result) :
    ∃ made, create.Course exchanges made := by
  rcases conversation_attempt_iff.mp conversation with
    ⟨cause, made, -⟩ | ⟨early, checkpoint, late, rfl, made, last⟩
  · exact ⟨_, CreateRequest.course_of_conversation made⟩
  · obtain ⟨rfl, -⟩ := conversation_done_iff.mp last
    rw [List.append_nil]
    exact ⟨_, CreateRequest.course_of_conversation made⟩

/-- A run that makes a filesystem neither deletes nor labels. -/
theorem permitted_of_course {request : CreateRequest} {exchanges : List JobExchange}
    {result : Outcome Checkpoint} (course : request.Course exchanges result) :
    DeletesPermitted exchanges ∧ LabelsOnce exchanges := by
  have creating := CreateRequest.creations_and_notes course
  constructor
  · rintro earlier target answer later rfl
    rcases creating _ List.mem_append_cons_self with impossible | ⟨_, _, impossible⟩ <;>
      cases impossible
  · rintro earlier target key value answer later rfl
    rcases creating _ List.mem_append_cons_self with impossible | ⟨_, _, impossible⟩ <;>
      cases impossible

/-- **A clean-up has no permission** for the filesystem in its checkpoint. -/
theorem permitted_cleanup_iff {cleanup : CleanupRequest} {exchanges : List JobExchange}
    {result : Outcome Unit} (conversation : Conversation cleanup.run exchanges result) :
    DeletesPermitted exchanges ↔ cleanup.created.filesystem = none := by
  have each := (abides_cleanup cleanup).of_conversation conversation
  constructor
  · intro permitted
    by_contra recorded
    obtain ⟨name, filesystem⟩ := Option.ne_none_iff_exists'.mp recorded
    obtain ⟨earlier, answer, later, rfl⟩ := asked_of_cleanup filesystem conversation
    obtain ⟨⟨call, answer⟩, member, label⟩ := permitted _ _ _ _ rfl
    obtain ⟨first, last, rfl⟩ := List.append_of_mem member
    rw [List.append_assoc] at each
    have allowed : cleanup.Allows first call := each.at rfl
    cases call with
    | getFilesystem | labelFilesystem => exact allowed
    | _ => rcases label with label | label <;> exact label
  · rintro recorded earlier target answer later split
    have allowed : cleanup.created.filesystem = some target.name ∧ _ := each.at split
    rw [recorded] at allowed
    cases allowed.1

theorem labelsOnce_cleanup {cleanup : CleanupRequest} {exchanges : List JobExchange}
    {result : Outcome Unit} (conversation : Conversation cleanup.run exchanges result) :
    LabelsOnce exchanges := by
  rintro earlier target key value answer later split
  exact (((abides_cleanup cleanup).of_conversation conversation).at split).elim

/-! ### All jobs -/

/-- **Deletions are permitted in exactly the runs that have no recorded filesystem**, whatever they
are answered, and in every run the label is put on sparingly. -/
theorem permitted_iff {request : JobRequest} {exchanges : List JobExchange}
    {result : Outcome Unit} (conversation : Conversation request.run exchanges result) :
    (DeletesPermitted exchanges ↔ request.recorded? = none) ∧ LabelsOnce exchanges := by
  cases request with
  | createFilesystem create =>
    obtain ⟨_, course⟩ := course_of_createFilesystem conversation
    obtain ⟨deletes, labels⟩ := permitted_of_course course
    exact ⟨iff_of_true deletes rfl, labels⟩
  | cleanupFailedJob cleanup =>
    exact ⟨permitted_cleanup_iff conversation, labelsOnce_cleanup conversation⟩
  | cleanupFilesystem target failedJob =>
    have abides : Abides MayFollow [] (cleanupFilesystem target failedJob) :=
      .bind (abides_whenSome fun _ _ => abides_dropJob trivial) fun _ _ dropped =>
        abides_deletion target (unlabelled_whenSome_dropJob dropped)
    obtain ⟨deletes, labels⟩ := permitted_of_abides abides conversation
    exact ⟨iff_of_true deletes rfl, labels⟩
  | deleteFilesystem target =>
    obtain ⟨deletes, labels⟩ :=
      permitted_of_abides (abides_deletion target (List.forall_mem_nil _)) conversation
    exact ⟨iff_of_true deletes rfl, labels⟩

/-- A cluster with a filesystem that lacks the label. -/
def bareCluster : StorageCluster := ⟨[], [(⟨"fs1", "ibm-spectrum-scale"⟩, [])], [], [], []⟩

/-- A filesystem that lacks the label gets it before it is deleted, when it is deleted by name. -/
theorem bare_deleted_with_label :
    DeletesPermitted (trace StorageCluster.respond
      (JobRequest.deleteFilesystem ⟨"fs1", "ibm-spectrum-scale"⟩).run bareCluster) ∧
    LabelsOnce (trace StorageCluster.respond
      (JobRequest.deleteFilesystem ⟨"fs1", "ibm-spectrum-scale"⟩).run bareCluster) := by
  have permitted := permitted_iff (conversation_trace StorageCluster.respond
    (JobRequest.deleteFilesystem ⟨"fs1", "ibm-spectrum-scale"⟩).run bareCluster)
  exact ⟨permitted.1.mpr rfl, permitted.2⟩

/-- A clean-up that is told of the same filesystem deletes it as it is. -/
theorem recorded_deleted_without_label :
    ¬ DeletesPermitted (trace StorageCluster.respond
      (JobRequest.cleanupFailedJob ⟨"ibm-spectrum-scale", none, { filesystem := some "fs1" }⟩).run
      bareCluster) := by
  intro permitted
  obtain ⟨_, impossible, -⟩ :=
    permitted [] ⟨"fs1", "ibm-spectrum-scale"⟩ (.ok ()) [] rfl
  cases impossible

end NodeStorage.Provisioning
