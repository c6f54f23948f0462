/-
**Scenarios: filesystem jobs.**

A job is described by its arguments, and a cluster by its local disks, filesystems, storage
classes and jobs; an object is named by its namespace and its name with a slash between them. The
record of a job is its calls with the requests that they carry.
-/

import NodeStorage.InMemory.StorageCluster
import NodeStorage.Scenario.Failure

namespace NodeStorage.Scenario

open Json Provisioning InMemory

/-! ### Jobs -/

/-- Reads the arguments of a job, all but the operation. -/
def readJobArguments (operation : Option Operation) (document : Raw) : Reading JobArguments := do
  pure
    { operation := operation
      filesystemName := ← document.textAt? "filesystem_name"
      namespaceName := ← document.textAt? "namespace"
      jobName := ← document.textAt? "job_name"
      newLuns := ← document.textAt? "new_luns_json"
      reusedLuns := ← document.textAt? "reused_luns_json"
      fusionNamespace := ← document.textAt? "fusion_namespace"
      targetName := ← document.textAt? "target_name"
      targetNamespace := ← document.textAt? "target_namespace"
      failedJobName := ← document.textAt? "failed_job_name"
      failedJobNamespace := ← document.textAt? "failed_job_namespace"
      createdResources := ← document.textAt? "created_resources" }

/-- Reads an object's name. -/
def readObjectName (document : Raw) : Reading ObjectName := do
  pure ⟨← document.textAt "name", ← document.textAt "namespace"⟩

/-- An object's name. -/
def objectNameJson (name : ObjectName) : Json :=
  .object [("name", .string name.name), ("namespace", .string name.namespaceName)]

/-- Reads a request to make a filesystem. -/
def readCreateRequest (document : Raw) : Reading CreateRequest := do
  pure
    { filesystemName := ← document.textAt "filesystem_name"
      namespaceName := ← document.textAt "namespace"
      newLuns := ← document.partAt "new_luns" (Raw.list Lun.read)
      reusedLuns := ← document.partAt "reused_luns" (Raw.list Lun.read)
      job := ← document.partAt "job" readObjectName }

/-- A request to a job. -/
def jobRequestJson (request : JobRequest) : Json :=
  let parts : List Field := match request with
    | .createFilesystem create =>
      [("filesystem_name", .string create.filesystemName),
       ("namespace", .string create.namespaceName),
       ("new_luns", listOf Lun.toJson create.newLuns),
       ("reused_luns", listOf Lun.toJson create.reusedLuns),
       ("job", objectNameJson create.job)]
    | .cleanupFailedJob cleanup =>
      [("target_namespace", .string cleanup.namespaceName),
       ("failed_job", orNull objectNameJson cleanup.failedJob),
       ("created", cleanup.created.toJson)]
    | .cleanupFilesystem name failedJob =>
      [("target", objectNameJson name), ("failed_job", orNull objectNameJson failedJob)]
    | .deleteFilesystem name => [("target", objectNameJson name)]
  .object (("operation", .string request.operation.name) :: parts)

/-- A checkpoint, and whether it is empty. -/
def checkpointFields (checkpoint : Checkpoint) : List Field :=
  [("created", checkpoint.toJson), ("empty", .bool checkpoint.isEmpty)]

/-! ### Requests -/

/-- A request for a local disk. -/
def localDiskJson (request : LocalDiskRequest) : Json :=
  .object
    [("name", .string request.name), ("namespace", .string request.namespaceName),
     ("device", .string request.device), ("node", .string request.node),
     ("labels", Json.ofTextMap request.labels)]

/-- Reads a request for a local disk. -/
def readLocalDisk (document : Raw) : Reading LocalDiskRequest := do
  pure
    { name := ← document.textAt "name"
      namespaceName := ← document.textAt "namespace"
      device := ← document.textAt "device"
      node := ← document.textAt "node"
      labels := ← document.valueAt "labels" Raw.textMap [] }

/-- A request for a filesystem. -/
def filesystemJson (request : FilesystemRequest) : Json :=
  .object
    [("name", .string request.name), ("namespace", .string request.namespaceName),
     ("disks", Json.ofTexts request.disks), ("replication", .string request.replication),
     ("filesystem_type", .string request.sharing)]

/-- A request for a storage class. -/
def storageClassJson (request : StorageClassRequest) : Json :=
  .object
    [("name", .string request.name), ("provisioner", .string request.provisioner),
     ("parameters", Json.ofTextMap request.parameters)]

/-! ### Clusters -/

/-- The object of a key. -/
def ofKey (key : String) : ObjectName :=
  let chars := key.toList
  { name := String.ofList ((chars.dropWhile (· != '/')).drop 1)
    namespaceName := String.ofList (chars.takeWhile (· != '/')) }

/-- The key of an object. -/
def keyOf (name : ObjectName) : String :=
  String.join [name.namespaceName, "/", name.name]

/-- Reads objects with their texts. -/
def readObjects (document : Raw) (field : String) :
    Reading (List (ObjectName × Cluster.TextMap)) := do
  let found ← document.entriesAt field Raw.textMap
  pure (found.map fun entry => (ofKey entry.1, entry.2))

/-- Reads a cluster. -/
def readStorage (document : Raw) : Reading StorageCluster := do
  let localDisks ← document.listAt "local_disks" Raw.text
  pure
    { localDisks := localDisks.map ofKey
      filesystems := ← readObjects document "filesystems"
      storageClasses := ← document.listAt "storage_classes" Raw.text
      jobs := ← readObjects document "jobs"
      failures := [] }

/-- Texts in order. -/
def sortedTexts (texts : List String) : Json :=
  Json.ofTexts (texts.mergeSort fun left right => decide (left ≤ right))

/-- Objects with their texts, in order. -/
def objectsJson (objects : List (ObjectName × Cluster.TextMap)) : Json :=
  .object (sortFields (objects.map fun entry => (keyOf entry.1, Json.ofTextMap entry.2)))

/-- What is in a cluster. -/
def storageJson (cluster : StorageCluster) : Json :=
  .object
    [("local_disks", sortedTexts (cluster.localDisks.map keyOf)),
     ("filesystems", objectsJson cluster.filesystems),
     ("storage_classes", sortedTexts cluster.storageClasses),
     ("jobs", objectsJson cluster.jobs)]

/-! ### Records -/

/-- An object as an argument. -/
def objectFields (name : ObjectName) : List Field :=
  located name.namespaceName name.name

/-- The record of a call. -/
def jobCall : Dialogue.Exchange JobCall JobCall.Answer → List Field
  | ⟨.createLocalDisk request, done⟩ =>
    actRecord "create_local_disk" [("request", localDiskJson request)] done
  | ⟨.createFilesystem request, done⟩ =>
    actRecord "create_filesystem" [("request", filesystemJson request)] done
  | ⟨.createStorageClass request, done⟩ =>
    actRecord "create_storage_class" [("request", storageClassJson request)] done
  | ⟨.getFilesystem name, found⟩ =>
    callRecord "get_filesystem" (objectFields name)
      (recorded (fun filesystem : Option Filesystem => .bool filesystem.isSome) found)
  | ⟨.labelFilesystem name key value, done⟩ =>
    actRecord "label_filesystem"
      (objectFields name ++ [("key", .string key), ("value", .string value)]) done
  | ⟨.deleteFilesystem name, done⟩ => actRecord "delete_filesystem" (objectFields name) done
  | ⟨.deleteStorageClass name, done⟩ =>
    actRecord "delete_storage_class" [("name", .string name)] done
  | ⟨.deleteJob job, done⟩ => actRecord "delete_job" (objectFields job) done
  | ⟨.annotateJob job annotations, done⟩ =>
    actRecord "annotate_job"
      (objectFields job ++ [("annotations", Json.ofTextMap annotations)]) done

/-- Runs a job in a cluster: its result, the record of its calls, and the cluster afterwards. -/
def runInStorage {α : Type} (program : JobDialogue α) (cluster : StorageCluster) :
    α × Json × StorageCluster :=
  let (result, after) := Dialogue.run StorageCluster.respond program cluster
  let calls := Dialogue.trace StorageCluster.respond program cluster
  (result, listOf (fun exchange => .object (jobCall exchange)) calls, after)

end NodeStorage.Scenario
