/-
**What a filesystem job is asked to do.**

A job is started with an operation and a set of texts, all of them optional. Each operation looks at
some of the texts only and makes a request of them; a blank text counts as none. What is missing or
cannot be read is an error, and of several errors the first in the order of the checks counts.
-/

import NodeStorage.Provisioning.Checkpoint
import NodeStorage.Provisioning.Resource

namespace NodeStorage.Provisioning

open Json

/-- What a job can do. -/
inductive Operation where
  | createFilesystem | cleanupFailedJob | cleanupFilesystem | deleteFilesystem
  deriving DecidableEq, Repr

namespace Operation

/-- All operations. -/
def all : List Operation :=
  [.createFilesystem, .cleanupFailedJob, .cleanupFilesystem, .deleteFilesystem]

/-- The written name of an operation. -/
def name : Operation → String
  | .createFilesystem => "create-filesystem"
  | .cleanupFailedJob => "cleanup-failed-job"
  | .cleanupFilesystem => "cleanup-filesystem"
  | .deleteFilesystem => "delete-filesystem"

/-- The operation with a name. -/
def ofName? (name : String) : Option Operation :=
  all.find? fun operation => operation.name == name

end Operation

/-- An object by its name. -/
structure ObjectName where
  name : String
  namespaceName : String
  deriving DecidableEq, Repr, Inhabited

/-- A request to make a filesystem. -/
structure CreateRequest where
  filesystemName : String
  namespaceName : String
  /-- Units that have no local disk yet. -/
  newLuns : List Lun
  /-- Units whose local disks are used again. -/
  reusedLuns : List Lun
  /-- The job that makes the filesystem. -/
  job : ObjectName
  deriving DecidableEq, Repr

/-- A request to clean up after a job that failed to make a filesystem. -/
structure CleanupRequest where
  namespaceName : String
  failedJob : Option ObjectName
  /-- What the job had made. -/
  created : Checkpoint
  deriving DecidableEq, Repr

/-- A request to a job. -/
inductive JobRequest where
  | createFilesystem (request : CreateRequest)
  | cleanupFailedJob (request : CleanupRequest)
  | cleanupFilesystem (target : ObjectName) (failedJob : Option ObjectName)
  | deleteFilesystem (target : ObjectName)
  deriving DecidableEq, Repr

/-- The operation of a request. -/
def JobRequest.operation : JobRequest → Operation
  | .createFilesystem _ => .createFilesystem
  | .cleanupFailedJob _ => .cleanupFailedJob
  | .cleanupFilesystem _ _ => .cleanupFilesystem
  | .deleteFilesystem _ => .deleteFilesystem

/-- What a job is started with. -/
structure JobArguments where
  operation : Option Operation := none
  filesystemName : Option String := none
  namespaceName : Option String := none
  jobName : Option String := none
  newLuns : Option String := none
  reusedLuns : Option String := none
  fusionNamespace : Option String := none
  targetName : Option String := none
  targetNamespace : Option String := none
  failedJobName : Option String := none
  failedJobNamespace : Option String := none
  createdResources : Option String := none
  deriving DecidableEq, Repr

/-- The namespace of jobs, unless another is given. -/
def defaultNamespace : String := "ibm-fusion-access"

/-- A text that must be there; `source` is the variable it comes from. -/
def required (text : Option String) (source : String) : Outcome String :=
  match Text.present? text with
  | some value => .ok value
  | none => .error (.configuration (source ++ " environment variable is required"))

/-- The error when a variable holds something that cannot be read. -/
def unreadable (source cause : String) : Error :=
  .configuration (String.join ["failed to parse ", source, ": ", cause])

/-- Reads a list of units, which may be null. -/
def readLuns (document : Raw) : Reading (List Lun) :=
  (Raw.optional (Raw.list Lun.read) document).map fun luns => luns.getD []

/-- The units in a text, none when it is blank. -/
def lunsOf (text : Option String) (source : String) : Outcome (List Lun) :=
  match Text.present? text with
  | none => .ok []
  | some value =>
    match readText readLuns value with
    | .ok luns => .ok luns
    | .error cause => .error (unreadable source cause.message)

/-- The unit does not say which local disk to use again. -/
def Lun.lacksDisk (lun : Lun) : Bool :=
  (lun.localDisk.getD "").isEmpty

/-- Units to reuse must say which local disk they have. -/
def checkReused (luns : List Lun) : Outcome Unit :=
  match luns.find? Lun.lacksDisk with
  | none => .ok ()
  | some lun =>
    .error (.configuration (String.join
      ["reused LUN ", lun.path, " on ", lun.node, " has no localDiskName"]))

namespace JobArguments

/-- An object, when both its name and its namespace are given. -/
def objectName? (name namespaceName : Option String) : Option ObjectName :=
  match Text.present? name, Text.present? namespaceName with
  | some name, some namespaceName => some ⟨name, namespaceName⟩
  | _, _ => none

/-- The job that failed, if it is named in full. -/
def failedJob (arguments : JobArguments) : Option ObjectName :=
  objectName? arguments.failedJobName arguments.failedJobNamespace

/-- The filesystem to delete. -/
def target (arguments : JobArguments) : Outcome ObjectName :=
  match objectName? arguments.targetName arguments.targetNamespace with
  | some target => .ok target
  | none => .error (.configuration "TARGET_NAME and TARGET_NAMESPACE are required")

/-- The request to make a filesystem. -/
def createRequest (arguments : JobArguments) : Outcome CreateRequest := do
  let filesystemName ← required arguments.filesystemName "FILESYSTEM_NAME"
  let namespaceName ← required arguments.namespaceName "NAMESPACE"
  let jobName ← required arguments.jobName "JOB_NAME"
  let newLuns ← lunsOf arguments.newLuns "NEW_LUNS_JSON"
  let reusedLuns ← lunsOf arguments.reusedLuns "REUSED_LUNS_JSON"
  if newLuns.isEmpty && reusedLuns.isEmpty then
    .error (.configuration "no LUNs provided for filesystem creation")
  else
    checkReused reusedLuns
    let jobNamespace := (Text.present? arguments.fusionNamespace).getD defaultNamespace
    pure ⟨filesystemName, namespaceName, newLuns, reusedLuns, ⟨jobName, jobNamespace⟩⟩

/-- What the failed job had made; nothing when nothing is given. -/
def created (arguments : JobArguments) : Outcome Checkpoint :=
  match Text.present? arguments.createdResources with
  | none => .ok {}
  | some text =>
    match Checkpoint.ofText text with
    | .ok checkpoint => .ok checkpoint
    | .error cause => .error (unreadable "CREATED_RESOURCES" cause.message)

/-- The request to clean up after a failed job. -/
def cleanupRequest (arguments : JobArguments) : Outcome CleanupRequest :=
  match Text.present? arguments.targetNamespace with
  | none => .error (.configuration "TARGET_NAMESPACE is required")
  | some namespaceName => do
    let created ← arguments.created
    pure ⟨namespaceName, arguments.failedJob, created⟩

/-- The request that the arguments make. -/
def toRequest (arguments : JobArguments) : Outcome JobRequest :=
  match arguments.operation with
  | none => .error (.configuration "OPERATION environment variable is required")
  | some .createFilesystem => do
    let request ← arguments.createRequest
    pure (.createFilesystem request)
  | some .cleanupFailedJob => do
    let request ← arguments.cleanupRequest
    pure (.cleanupFailedJob request)
  | some .cleanupFilesystem => do
    let target ← arguments.target
    pure (.cleanupFilesystem target arguments.failedJob)
  | some .deleteFilesystem => do
    let target ← arguments.target
    pure (.deleteFilesystem target)

end JobArguments

end NodeStorage.Provisioning
