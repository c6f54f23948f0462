/-
**A cluster for filesystem jobs, in memory.**

The cluster has local disks, filesystems with their labels, storage classes, and jobs with their
annotations. What exists cannot be created again, and what does not exist cannot be deleted or
labelled; such a call is an error and has no effect. Annotating a job makes it if need be.
-/

import NodeStorage.InMemory.Failures
import NodeStorage.Provisioning.Job

namespace NodeStorage.InMemory

open Provisioning Cluster

/-- A cluster with all that a filesystem job can ask. -/
structure StorageCluster where
  localDisks : List ObjectName
  /-- Filesystems with their labels. -/
  filesystems : List (ObjectName × TextMap)
  storageClasses : List String
  /-- Jobs with their annotations. -/
  jobs : List (ObjectName × TextMap)
  failures : Failures
  deriving DecidableEq, Repr

namespace StorageCluster

/-- The texts kept with an object. -/
def find? (objects : List (ObjectName × TextMap)) (name : ObjectName) : Option TextMap :=
  (objects.find? fun entry => entry.1 == name).map Prod.snd

/-- The objects without one of them. -/
def without (objects : List (ObjectName × TextMap)) (name : ObjectName) :
    List (ObjectName × TextMap) :=
  objects.filter fun entry => entry.1 != name

/-- The objects with other texts for one of them, which is there afterwards in any case. -/
def put (objects : List (ObjectName × TextMap)) (name : ObjectName) (texts : TextMap) :
    List (ObjectName × TextMap) :=
  if (find? objects name).isSome then
    objects.map fun entry => if entry.1 = name then (name, texts) else entry
  else objects ++ [(name, texts)]

/-- Creates a local disk. -/
def createLocalDisk (request : LocalDiskRequest) (cluster : StorageCluster) :
    Outcome Unit × StorageCluster :=
  let name : ObjectName := ⟨request.name, request.namespaceName⟩
  if cluster.localDisks.contains name then
    (.error (.resourceExists localDiskKind request.name), cluster)
  else (.ok (), { cluster with localDisks := cluster.localDisks ++ [name] })

/-- Creates a filesystem. -/
def createFilesystem (request : FilesystemRequest) (cluster : StorageCluster) :
    Outcome Unit × StorageCluster :=
  let name : ObjectName := ⟨request.name, request.namespaceName⟩
  if (find? cluster.filesystems name).isSome then
    (.error (.resourceExists filesystemKind request.name), cluster)
  else (.ok (), { cluster with filesystems := put cluster.filesystems name [] })

/-- Creates a storage class. -/
def createStorageClass (request : StorageClassRequest) (cluster : StorageCluster) :
    Outcome Unit × StorageCluster :=
  if cluster.storageClasses.contains request.name then
    (.error (.resourceExists storageClassKind request.name), cluster)
  else (.ok (), { cluster with storageClasses := cluster.storageClasses ++ [request.name] })

/-- Puts a label on a filesystem. -/
def labelFilesystem (target : ObjectName) (key value : String) (cluster : StorageCluster) :
    Outcome Unit × StorageCluster :=
  match find? cluster.filesystems target with
  | none => (.error (.resourceNotFound filesystemKind target.name), cluster)
  | some labels =>
    (.ok (), { cluster with
      filesystems := put cluster.filesystems target (TextMap.insert key value labels) })

/-- Deletes a filesystem. -/
def deleteFilesystem (target : ObjectName) (cluster : StorageCluster) :
    Outcome Unit × StorageCluster :=
  if (find? cluster.filesystems target).isSome then
    (.ok (), { cluster with filesystems := without cluster.filesystems target })
  else (.error (.resourceNotFound filesystemKind target.name), cluster)

/-- Deletes a storage class. -/
def deleteStorageClass (name : String) (cluster : StorageCluster) :
    Outcome Unit × StorageCluster :=
  if cluster.storageClasses.contains name then
    (.ok (), { cluster with storageClasses := cluster.storageClasses.filter (· != name) })
  else (.error (.resourceNotFound storageClassKind name), cluster)

/-- Deletes a job. -/
def deleteJob (job : ObjectName) (cluster : StorageCluster) : Outcome Unit × StorageCluster :=
  if (find? cluster.jobs job).isSome then
    (.ok (), { cluster with jobs := without cluster.jobs job })
  else (.error (.resourceNotFound "Job" job.name), cluster)

/-- Writes annotations to a job. -/
def annotateJob (job : ObjectName) (annotations : TextMap) (cluster : StorageCluster) :
    Outcome Unit × StorageCluster :=
  let present := (find? cluster.jobs job).getD []
  (.ok (), { cluster with jobs := put cluster.jobs job (TextMap.merge present annotations) })

/-- Answers a question of a job. -/
def respond : (call : JobCall) → StorageCluster → call.Answer × StorageCluster
  | .createLocalDisk request, cluster =>
    cluster.failures.guard "create_local_disk" request.name cluster (createLocalDisk request)
  | .createFilesystem request, cluster =>
    cluster.failures.guard "create_filesystem" request.name cluster (createFilesystem request)
  | .createStorageClass request, cluster =>
    cluster.failures.guard "create_storage_class" request.name cluster
      (createStorageClass request)
  | .getFilesystem target, cluster =>
    cluster.failures.guard "get_filesystem" target.name cluster fun cluster =>
      (.ok ((find? cluster.filesystems target).map fun labels =>
        ⟨target.name, target.namespaceName, labels⟩), cluster)
  | .labelFilesystem target key value, cluster =>
    cluster.failures.guard "label_filesystem" target.name cluster
      (labelFilesystem target key value)
  | .deleteFilesystem target, cluster =>
    cluster.failures.guard "delete_filesystem" target.name cluster (deleteFilesystem target)
  | .deleteStorageClass name, cluster =>
    cluster.failures.guard "delete_storage_class" name cluster (deleteStorageClass name)
  | .deleteJob job, cluster =>
    cluster.failures.guard "delete_job" job.name cluster (deleteJob job)
  | .annotateJob job annotations, cluster =>
    let phase := (TextMap.lookup? Progress.phaseKey annotations).getD ""
    cluster.failures.guard "annotate_job" phase cluster (annotateJob job annotations)

end StorageCluster

end NodeStorage.InMemory
