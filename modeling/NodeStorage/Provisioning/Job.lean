/-
**Filesystem jobs.**

To make a filesystem, a job creates a local disk for every new unit, the filesystem on all local
disks, and its storage class. Whenever it enters a phase it writes its progress to the cluster; the
first creation that fails ends the job, and local disks are left for a later job to reuse.

Cleaning up undoes a checkpoint, newest first: storage class, filesystem, and last the failed job.
Deleting a filesystem first puts the label on it without which it may not be deleted.

Some calls are best effort, and nothing depends on whether they work: writing the progress, deleting
a storage class, deleting a job. A filesystem that is already gone counts as deleted.

A job is a dialogue: `JobCall` is what it asks of the cluster.
-/

import NodeStorage.Dialogue
import NodeStorage.Provisioning.Progress
import NodeStorage.Provisioning.Request

namespace NodeStorage.Provisioning

open Cluster

/-- What a job asks. -/
inductive JobCall where
  | createLocalDisk (request : LocalDiskRequest)
  | createFilesystem (request : FilesystemRequest)
  | createStorageClass (request : StorageClassRequest)
  | getFilesystem (target : ObjectName)
  | labelFilesystem (target : ObjectName) (key value : String)
  | deleteFilesystem (target : ObjectName)
  | deleteStorageClass (name : String)
  | deleteJob (job : ObjectName)
  | annotateJob (job : ObjectName) (annotations : TextMap)
  deriving DecidableEq, Repr

/-- The answers to these questions. -/
def JobCall.Answer : JobCall → Type
  | .getFilesystem _ => Outcome (Option Filesystem)
  | .createLocalDisk _ | .createFilesystem _ | .createStorageClass _ | .labelFilesystem _ _ _
  | .deleteFilesystem _ | .deleteStorageClass _ | .deleteJob _ | .annotateJob _ _ => Outcome Unit

/-- A program that asks these questions. -/
abbrev JobDialogue := Dialogue JobCall JobCall.Answer

namespace AskStorage

/-- Creates a local disk. -/
def createLocalDisk (request : LocalDiskRequest) : JobDialogue (Outcome Unit) :=
  .question (JobCall.createLocalDisk request)

/-- Creates a filesystem. -/
def createFilesystem (request : FilesystemRequest) : JobDialogue (Outcome Unit) :=
  .question (JobCall.createFilesystem request)

/-- Creates a storage class. -/
def createStorageClass (request : StorageClassRequest) : JobDialogue (Outcome Unit) :=
  .question (JobCall.createStorageClass request)

/-- The filesystem of a name, if there is one. -/
def filesystem (target : ObjectName) : JobDialogue (Outcome (Option Filesystem)) :=
  .question (JobCall.getFilesystem target)

/-- Puts a label on a filesystem. -/
def labelFilesystem (target : ObjectName) (key value : String) : JobDialogue (Outcome Unit) :=
  .question (JobCall.labelFilesystem target key value)

/-- Deletes a filesystem. -/
def deleteFilesystem (target : ObjectName) : JobDialogue (Outcome Unit) :=
  .question (JobCall.deleteFilesystem target)

/-- Deletes a storage class. -/
def deleteStorageClass (name : String) : JobDialogue (Outcome Unit) :=
  .question (JobCall.deleteStorageClass name)

/-- Deletes a job. -/
def deleteJob (job : ObjectName) : JobDialogue (Outcome Unit) :=
  .question (JobCall.deleteJob job)

/-- Writes annotations to a job. -/
def annotateJob (job : ObjectName) (annotations : TextMap) : JobDialogue (Outcome Unit) :=
  .question (JobCall.annotateJob job annotations)

end AskStorage

/-! ### Making a filesystem -/

/-- Writes the progress to the job, as well as that goes. -/
def record (job : ObjectName) (progress : Progress) : JobDialogue Unit := do
  let _ ← AskStorage.annotateJob job progress.annotations
  pure ()

/-- Moves on to a phase and writes that down. -/
def enter (job : ObjectName) (next : Phase) (message : String) (progress : Progress) :
    JobDialogue (Outcome Progress) :=
  match progress.advance next message with
  | .error cause => pure (.error cause)
  | .ok after => do
    record job after
    pure (.ok after)

/-- Ends the run with an error and writes that down. -/
def stop {α : Type} (job : ObjectName) (message : String) (cause : Error) (progress : Progress) :
    JobDialogue (Outcome α) := do
  let after := match progress.fail message cause.message with
    | .ok failed => failed
    | .error _ => progress
  record job after
  pure (.error cause)

namespace CreateRequest

/-- Creates the local disks of units, one after another. -/
def makeDisks (request : CreateRequest) : List Lun → Progress → JobDialogue (Outcome Progress)
  | [], progress => pure (.ok progress)
  | lun :: rest, progress => do
    let disk := LocalDiskRequest.of lun request.filesystemName request.namespaceName
    match ← AskStorage.createLocalDisk disk with
    | .error cause =>
      stop request.job "Failed to create LocalDisks"
        (cause.during ("failed to create LocalDisk " ++ disk.name)) progress
    | .ok () => makeDisks request rest (progress.addDisk disk.name)

/-- Adds the local disks that are used again. -/
def reuseDisks (request : CreateRequest) (progress : Progress) : Progress :=
  request.reusedLuns.foldl (fun progress lun => progress.addDisk (lun.localDisk.getD "")) progress

/-- The step of the local disks. -/
def disksStep (request : CreateRequest) (progress : Progress) : JobDialogue (Outcome Progress) :=
  (enter request.job .creatingDisks
      (String.join ["Creating ", toString request.newLuns.length, " new LocalDisk resources"])
      progress).attempt fun entered =>
    (request.makeDisks request.newLuns entered).attempt fun made =>
      pure (.ok (request.reuseDisks made))

/-- Creates the filesystem on the local disks. -/
def makeFilesystem (request : CreateRequest) (disks : List String) (progress : Progress) :
    JobDialogue (Outcome Progress) := do
  match ← AskStorage.createFilesystem
      (.of request.filesystemName request.namespaceName disks) with
  | .error cause =>
    stop request.job "Failed to create FileSystem - LocalDisks have been preserved for reuse"
      (cause.during ("failed to create FileSystem " ++ request.filesystemName)) progress
  | .ok () => pure (.ok (progress.setFilesystem (some request.filesystemName)))

/-- The step of the filesystem. -/
def filesystemStep (request : CreateRequest) (progress : Progress) :
    JobDialogue (Outcome Progress) :=
  let disks := progress.checkpoint.localDisks
  (enter request.job .creatingFilesystem
      (String.join ["Creating FileSystem ", request.filesystemName, " with ",
        toString disks.length, " LocalDisks"])
      progress).attempt fun entered =>
    request.makeFilesystem disks entered

/-- Creates the storage class. -/
def makeStorageClass (request : CreateRequest) (progress : Progress) :
    JobDialogue (Outcome Progress) := do
  match ← AskStorage.createStorageClass (.of request.filesystemName) with
  | .error cause =>
    stop request.job "FileSystem created successfully, but StorageClass creation failed"
      (cause.during ("failed to create StorageClass " ++ request.filesystemName)) progress
  | .ok () => pure (.ok (progress.setStorageClass (some request.filesystemName)))

/-- The step of the storage class. -/
def storageClassStep (request : CreateRequest) (progress : Progress) :
    JobDialogue (Outcome Progress) :=
  (enter request.job .creatingStorageClass
      ("Creating StorageClass " ++ request.filesystemName) progress).attempt fun entered =>
    request.makeStorageClass entered

/-- The end of a run in which everything worked. -/
def completion (request : CreateRequest) (progress : Progress) :
    JobDialogue (Outcome Progress) :=
  enter request.job .completed
    (String.join ["Successfully created filesystem ", request.filesystemName,
      " with all components"])
    progress

/-- The progress of a run that starts. -/
def beginning (request : CreateRequest) : Progress :=
  .start ("Starting creation of filesystem " ++ request.filesystemName)

/-- Makes the filesystem; the result is the last checkpoint. -/
def run (request : CreateRequest) : JobDialogue (Outcome Checkpoint) := do
  record request.job request.beginning
  (request.disksStep request.beginning).attempt fun progress =>
    (request.filesystemStep progress).attempt fun progress =>
      (request.storageClassStep progress).attempt fun progress =>
        (request.completion progress).attempt fun progress =>
          pure (.ok progress.checkpoint)

end CreateRequest

/-! ### Cleaning up -/

/-- Deletes a storage class, as well as that goes. -/
def dropStorageClass (name : String) : JobDialogue Unit := do
  let _ ← AskStorage.deleteStorageClass name
  pure ()

/-- Deletes a job, as well as that goes. -/
def dropJob (job : ObjectName) : JobDialogue Unit := do
  let _ ← AskStorage.deleteJob job
  pure ()

/-- Does something for a value that is there. -/
def whenSome {α : Type} (value : Option α) (perform : α → JobDialogue Unit) : JobDialogue Unit :=
  match value with
  | some found => perform found
  | none => pure ()

/-- Deletes a filesystem that may be gone already. -/
def removeFilesystem (target : ObjectName) : JobDialogue (Outcome Unit) := do
  match ← AskStorage.deleteFilesystem target with
  | .ok () => pure (.ok ())
  | .error cause =>
    if cause.isNotFound then pure (.ok ())
    else pure (.error (cause.during ("failed to delete FileSystem " ++ target.name)))

/-- Removes what a failed job has made, and the job. -/
def CleanupRequest.run (request : CleanupRequest) : JobDialogue (Outcome Unit) := do
  whenSome request.created.storageClass dropStorageClass
  let removal : JobDialogue (Outcome Unit) := match request.created.filesystem with
    | some name => removeFilesystem ⟨name, request.namespaceName⟩
    | none => pure (.ok ())
  removal.attempt fun _ => do
    whenSome request.failedJob dropJob
    pure (.ok ())

/-- Puts the label on a filesystem that allows to delete it, unless it is there. -/
def allowDeletion (target : ObjectName) (filesystem : Filesystem) : JobDialogue (Outcome Unit) :=
  if (TextMap.lookup? allowDeleteLabel filesystem.labels).isSome then pure (.ok ())
  else do
    match ← AskStorage.labelFilesystem target allowDeleteLabel "" with
    | .ok () => pure (.ok ())
    | .error cause =>
      pure (.error (cause.during ("failed to add deletion label to FileSystem " ++ target.name)))

/-- Deletes a filesystem and its storage class. -/
def deleteFilesystem (target : ObjectName) : JobDialogue (Outcome Unit) := do
  match ← AskStorage.filesystem target with
  | .error cause =>
    pure (.error (cause.during ("failed to get FileSystem " ++ target.name)))
  | .ok none => pure (.ok ())
  | .ok (some filesystem) =>
    (allowDeletion target filesystem).attempt fun _ =>
      (removeFilesystem target).attempt fun _ => do
        dropStorageClass target.name
        pure (.ok ())

/-- Deletes a filesystem after the job that failed to make it. -/
def cleanupFilesystem (target : ObjectName) (failedJob : Option ObjectName) :
    JobDialogue (Outcome Unit) := do
  whenSome failedJob dropJob
  deleteFilesystem target

/-- Does what is asked. -/
def JobRequest.run : JobRequest → JobDialogue (Outcome Unit)
  | .createFilesystem request => request.run.attempt fun _ => pure (.ok ())
  | .cleanupFailedJob request => request.run
  | .cleanupFilesystem target failedJob => Provisioning.cleanupFilesystem target failedJob
  | .deleteFilesystem target => Provisioning.deleteFilesystem target

end NodeStorage.Provisioning
