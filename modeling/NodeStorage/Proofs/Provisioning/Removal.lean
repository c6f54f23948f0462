/-
**What jobs remove, and in which order.**

Removing a filesystem is one call, and the filesystem counts as gone also when nothing was there
(`removeFilesystem_eq`, `removalResult_eq_ok_iff`). A deletion by name looks for the filesystem
before anything else, and has nothing to do where there is none (`deleteFilesystem_eq`).

A clean-up deletes what its checkpoint names and nothing else, and it deletes the failed job, which
keeps the checkpoint, only when the filesystem is gone (`CleanupRequest.Allows`, `abides_cleanup`).
-/

import NodeStorage.Proofs.Provisioning.Course

namespace NodeStorage.Provisioning

open Dialogue Cluster

/-! ### Removing a filesystem -/

/-- What was to be deleted is gone. -/
def Gone : Outcome Unit → Prop
  | .ok _ => True
  | .error cause => cause.isNotFound = true

/-- What a removal comes to, by the answer to the deletion. -/
def removalResult (target : ObjectName) : Outcome Unit → Outcome Unit
  | .ok _ => .ok ()
  | .error cause =>
    if cause.isNotFound then .ok ()
    else .error (cause.during ("failed to delete FileSystem " ++ target.name))

theorem removalResult_eq_ok_iff {target : ObjectName} {answer : Outcome Unit} :
    removalResult target answer = .ok () ↔ Gone answer := by
  cases answer with
  | ok _ => exact iff_of_true rfl trivial
  | error cause =>
    rw [removalResult, Gone]
    split
    · exact iff_of_true rfl ‹_›
    · exact iff_of_false (fun impossible => by cases impossible) ‹_›

theorem removeFilesystem_eq (target : ObjectName) :
    removeFilesystem target =
      .ask (.deleteFilesystem target) fun answer => .done (removalResult target answer) := by
  refine congrArg (Dialogue.ask (JobCall.deleteFilesystem target)) (funext fun answer => ?_)
  cases answer with
  | ok _ => rfl
  | error cause =>
    show (if cause.isNotFound then Dialogue.done _ else Dialogue.done _) = _
    rw [removalResult]
    split <;> rfl

/-- **A removal is one deletion**, and works when the filesystem is gone. -/
theorem exchanges_of_removeFilesystem {target : ObjectName} {exchanges : List JobExchange}
    {result : Outcome Unit}
    (conversation : Conversation (removeFilesystem target) exchanges result) :
    ∃ answer, exchanges = [⟨.deleteFilesystem target, answer⟩] ∧
      result = removalResult target answer := by
  rw [removeFilesystem_eq] at conversation
  obtain ⟨answer, rest, rfl, last⟩ := conversation_ask_iff.mp conversation
  obtain ⟨rfl, rfl⟩ := conversation_done_iff.mp last
  exact ⟨answer, rfl, rfl⟩

/-! ### Allowing the deletion -/

/-- The filesystem carries the label that allows to delete it. -/
def Labelled (filesystem : Filesystem) : Prop :=
  allowDeleteLabel ∈ filesystem.labels.map Prod.fst

theorem isSome_lookup?_iff {key : String} {texts : TextMap} :
    (TextMap.lookup? key texts).isSome = true ↔ key ∈ texts.map Prod.fst := by
  rw [TextMap.lookup?, Option.isSome_map, List.find?_isSome, List.mem_map]
  simp only [beq_iff_eq]

/-- What becomes of the deletion, by the answer to the label. -/
def labelResult (target : ObjectName) : Outcome Unit → Outcome Unit
  | .ok _ => .ok ()
  | .error cause =>
    .error (cause.during ("failed to add deletion label to FileSystem " ++ target.name))

theorem allowDeletion_of_labelled {target : ObjectName} {filesystem : Filesystem}
    (labelled : Labelled filesystem) : allowDeletion target filesystem = .done (.ok ()) :=
  if_pos (isSome_lookup?_iff.mpr labelled)

theorem allowDeletion_of_not_labelled {target : ObjectName} {filesystem : Filesystem}
    (bare : ¬ Labelled filesystem) :
    allowDeletion target filesystem =
      .ask (.labelFilesystem target allowDeleteLabel "") fun answer =>
        .done (labelResult target answer) := by
  refine (if_neg (mt isSome_lookup?_iff.mp bare)).trans ?_
  refine congrArg (Dialogue.ask (JobCall.labelFilesystem target allowDeleteLabel ""))
    (funext fun answer => ?_)
  cases answer <;> rfl

/-- **The label is put on a filesystem that lacks it**, and on no other. -/
theorem exchanges_of_allowDeletion {target : ObjectName} {filesystem : Filesystem}
    {exchanges : List JobExchange} {result : Outcome Unit}
    (conversation : Conversation (allowDeletion target filesystem) exchanges result) :
    (Labelled filesystem ∧ exchanges = [] ∧ result = .ok ()) ∨
      ¬ Labelled filesystem ∧ ∃ answer,
        exchanges = [⟨.labelFilesystem target allowDeleteLabel "", answer⟩] ∧
        result = labelResult target answer := by
  by_cases labelled : Labelled filesystem
  · rw [allowDeletion_of_labelled labelled] at conversation
    exact Or.inl ⟨labelled, conversation_done_iff.mp conversation⟩
  · rw [allowDeletion_of_not_labelled labelled] at conversation
    obtain ⟨answer, rest, rfl, last⟩ := conversation_ask_iff.mp conversation
    obtain ⟨rfl, rfl⟩ := conversation_done_iff.mp last
    exact Or.inr ⟨labelled, answer, rfl, rfl⟩

/-! ### Deleting a filesystem by its name -/

/-- How a deletion goes on when it knows what is there. -/
def deletionAfter (target : ObjectName) :
    Outcome (Option Filesystem) → JobDialogue (Outcome Unit)
  | .error cause => .done (.error (cause.during ("failed to get FileSystem " ++ target.name)))
  | .ok none => .done (.ok ())
  | .ok (some filesystem) =>
    (allowDeletion target filesystem).attempt fun _ =>
      (removeFilesystem target).attempt fun _ =>
        (dropStorageClass target.name).bind fun _ => .done (.ok ())

/-- A deletion looks for the filesystem first. -/
theorem deleteFilesystem_eq (target : ObjectName) :
    deleteFilesystem target = .ask (.getFilesystem target) (deletionAfter target) := by
  refine congrArg (Dialogue.ask (JobCall.getFilesystem target)) (funext fun answer => ?_)
  match answer with
  | .error cause => rfl
  | .ok none => rfl
  | .ok (some filesystem) => rfl

/-! ### Rules that single steps abide by -/

section Steps

variable {rule : List JobExchange → JobCall → Prop} {history : List JobExchange}

theorem abides_removeFilesystem {target : ObjectName}
    (may : rule history (.deleteFilesystem target)) :
    Abides rule history (removeFilesystem target) := by
  rw [removeFilesystem_eq]
  exact .ask may fun _ => .done _ _

theorem abides_dropStorageClass {name : String} (may : rule history (.deleteStorageClass name)) :
    Abides rule history (dropStorageClass name) :=
  .ask may fun _ => .done _ _

theorem abides_dropJob {job : ObjectName} (may : rule history (.deleteJob job)) :
    Abides rule history (dropJob job) :=
  .ask may fun _ => .done _ _

theorem abides_whenSome {α : Type} {value : Option α} {perform : α → JobDialogue Unit}
    (each : ∀ found, value = some found → Abides rule history (perform found)) :
    Abides rule history (whenSome value perform) := by
  cases value with
  | none => exact .done _ _
  | some found => exact each found rfl

end Steps

/-! ### Clean-ups -/

/-- What a clean-up does about the filesystem. -/
def removal (namespaceName : String) : Option String → JobDialogue (Outcome Unit)
  | some name => removeFilesystem ⟨name, namespaceName⟩
  | none => .done (.ok ())

/-- A clean-up, step by step. -/
theorem cleanup_eq (cleanup : CleanupRequest) :
    cleanup.run = (whenSome cleanup.created.storageClass dropStorageClass).bind fun _ =>
      (removal cleanup.namespaceName cleanup.created.filesystem).attempt fun _ =>
        (whenSome cleanup.failedJob dropJob).bind fun _ => .done (.ok ()) := by
  obtain ⟨namespaceName, failedJob, localDisks, filesystem, storageClass⟩ := cleanup
  cases filesystem <;> rfl

/-- **What a clean-up may ask** after the exchanges before: to delete what its checkpoint names, and
the failed job when the filesystem is gone. -/
def CleanupRequest.Allows (cleanup : CleanupRequest) (earlier : List JobExchange) :
    JobCall → Prop
  | .deleteStorageClass name => cleanup.created.storageClass = some name
  | .deleteFilesystem target =>
    cleanup.created.filesystem = some target.name ∧ target.namespaceName = cleanup.namespaceName
  | .deleteJob job =>
    cleanup.failedJob = some job ∧
      ∀ name, cleanup.created.filesystem = some name →
        ∃ answer, ⟨.deleteFilesystem ⟨name, cleanup.namespaceName⟩, answer⟩ ∈ earlier ∧ Gone answer
  | _ => False

/-- **A clean-up deletes what its checkpoint names**, and the failed job last. -/
theorem abides_cleanup (cleanup : CleanupRequest) :
    Abides cleanup.Allows [] cleanup.run := by
  rw [cleanup_eq]
  refine .bind (abides_whenSome fun name named => abides_dropStorageClass named) fun _ _ _ =>
    .attempt ?_ fun exchanges value removed =>
      .bind (abides_whenSome fun job named => abides_dropJob ⟨named, ?_⟩) fun _ _ _ => .done _ _
  · cases filesystem : cleanup.created.filesystem with
    | none => exact .done _ _
    | some name => exact abides_removeFilesystem ⟨filesystem, rfl⟩
  · intro name filesystem
    rw [filesystem] at removed
    obtain ⟨answer, rfl, worked⟩ := exchanges_of_removeFilesystem removed
    exact ⟨answer, List.mem_append_right _ (List.mem_singleton_self _),
      removalResult_eq_ok_iff.mp worked.symm⟩

/-- **A clean-up asks to delete the filesystem** that its checkpoint names. -/
theorem asked_of_cleanup {cleanup : CleanupRequest} {name : String}
    {exchanges : List JobExchange} {result : Outcome Unit}
    (filesystem : cleanup.created.filesystem = some name)
    (conversation : Conversation cleanup.run exchanges result) :
    ∃ earlier answer later, exchanges =
      earlier ++ ⟨.deleteFilesystem ⟨name, cleanup.namespaceName⟩, answer⟩ :: later := by
  rw [cleanup_eq, filesystem] at conversation
  obtain ⟨earlier, _, late, rfl, -, rest⟩ := conversation_bind_iff.mp conversation
  rcases conversation_attempt_iff.mp rest with
    ⟨_, removed, -⟩ | ⟨_, _, later, rfl, removed, -⟩
  · obtain ⟨answer, rfl, -⟩ := exchanges_of_removeFilesystem removed
    exact ⟨earlier, answer, [], rfl⟩
  · obtain ⟨answer, rfl, -⟩ := exchanges_of_removeFilesystem removed
    exact ⟨earlier, answer, later, rfl⟩

end NodeStorage.Provisioning
