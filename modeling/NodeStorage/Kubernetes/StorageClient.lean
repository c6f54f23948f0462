/-
**Filesystem jobs over the cluster's API.**

Each question of a filesystem job becomes requests. A label is put on a filesystem by reading the
whole object and writing it back with the label; annotations are merged into the job. A job is
deleted in the background, so that its pods go as well.
-/

import NodeStorage.Kubernetes.Client
import NodeStorage.Kubernetes.Object
import NodeStorage.Provisioning.Job

namespace NodeStorage.Kubernetes

open Json Provisioning

/-- The local disks in a namespace. -/
def localDisks (namespaceName : String) : Collection :=
  ⟨Provisioning.group, Provisioning.version, "localdisks", some namespaceName⟩

/-- The filesystems in a namespace. -/
def filesystems (namespaceName : String) : Collection :=
  ⟨Provisioning.group, Provisioning.version, "filesystems", some namespaceName⟩

/-- The storage classes of the cluster. -/
def storageClasses : Collection :=
  ⟨"storage.k8s.io", "v1", "storageclasses", none⟩

/-- The jobs in a namespace. -/
def jobs (namespaceName : String) : Collection :=
  ⟨"batch", "v1", "jobs", some namespaceName⟩

/-- A filesystem as jobs see it. -/
def filesystemOf (found : AnyObject) : Filesystem :=
  ⟨found.metadata.anyName, found.metadata.namespaceName.getD "", found.metadata.labelMap⟩

/-- The filesystem of a name, if there is one. -/
def getFilesystem (target : ObjectName) : WireDialogue (Outcome (Option Filesystem)) := do
  let outcome ← (filesystems target.namespaceName).find target.name AnyObject.read
  pure (outcome.map fun found => found.map filesystemOf)

/-- Puts a label on a filesystem. -/
def labelFilesystem (target : ObjectName) (key value : String) :
    WireDialogue (Outcome Unit) := do
  let collection := filesystems target.namespaceName
  match ← collection.find target.name AnyObject.read with
  | .error cause => pure (.error cause)
  | .ok none => pure (.error (.resourceNotFound filesystemKind target.name))
  | .ok (some filesystem) =>
    collection.replace target.name (filesystem.withLabel key value).toJson AnyObject.read

/-- The patch that writes annotations. -/
def annotationPatch (annotations : Cluster.TextMap) : Json :=
  .object [("metadata", .object [("annotations", Json.ofTextMap annotations)])]

/-- The requests for a question of a job. -/
def storageOnWire : (call : JobCall) → WireDialogue call.Answer
  | .createLocalDisk request =>
    (localDisks request.namespaceName).create request.toObject AnyObject.read
  | .createFilesystem request =>
    (filesystems request.namespaceName).create request.toObject AnyObject.read
  | .createStorageClass request => storageClasses.create request.toObject readStorageClass
  | .getFilesystem target => getFilesystem target
  | .labelFilesystem target key value => labelFilesystem target key value
  | .deleteFilesystem target =>
    (filesystems target.namespaceName).delete target.name [] AnyObject.read
  | .deleteStorageClass name => storageClasses.delete name [] readStorageClass
  | .deleteJob job =>
    (jobs job.namespaceName).delete job.name [("propagationPolicy", .string "Background")] readJob
  | .annotateJob job annotations =>
    (jobs job.namespaceName).patch job.name (annotationPatch annotations) readJob

/-- A filesystem job on the wire. -/
def runJob (request : JobRequest) : WireDialogue (Outcome Unit) :=
  Dialogue.translate storageOnWire request.run

end NodeStorage.Kubernetes
