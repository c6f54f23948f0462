/-
**What a filesystem is made of.**

A logical unit (LUN) is a disk seen from a node. Each new one becomes a local disk, the local disks
become the one pool of a filesystem, and a storage class gives out volumes on it.

A local disk is named after the last step of its path and its world-wide name (WWN), in lower case
and with a dash for every underscore, colon and slash. The name is cut to the length that the
cluster takes, and dashes and points that then stand at its end are dropped.
-/

import NodeStorage.Cluster.Metadata
import NodeStorage.Text.Case
import NodeStorage.Text.Split
import NodeStorage.Text.WhiteSpace

namespace NodeStorage.Provisioning

open Json Cluster

/-- A logical unit. -/
structure Lun where
  path : String
  wwn : String
  node : String
  /-- The unit has a local disk already. -/
  isReused : Bool := false
  /-- The local disk of a reused unit. -/
  localDisk : Option String := none
  deriving DecidableEq, Repr, Inhabited

namespace Lun

/-- The JSON form of a logical unit. -/
def toJson (lun : Lun) : Json :=
  Json.record
    [("path", some (.string lun.path)), ("wwn", some (.string lun.wwn)),
     ("node", some (.string lun.node)), ("isReused", some (.bool lun.isReused)),
     ("localDiskName", lun.localDisk.map .string)]

/-- Reads a logical unit. -/
def read (document : Raw) : Reading Lun := do
  let fields ← document.fields ["path", "wwn", "node", "isReused", "localDiskName"]
  let path ← fields.required "path" Raw.text
  let wwn ← fields.required "wwn" Raw.text
  let node ← fields.required "node" Raw.text
  let isReused ← fields.withDefault "isReused" Raw.boolean false
  let localDisk ← fields.optional "localDiskName" Raw.text
  pure ⟨path, wwn, node, isReused, localDisk⟩

/-! ### The name of a local disk -/

/-- The last step of the path, slashes at its end set aside. -/
def device (lun : Lun) : List Char :=
  ((Text.splitAt '/' (Text.trimRight (· == '/') lun.path.toList)).getLast?).getD []

/-- A character as it stands in the name of an object. -/
def nameChar (c : Char) : Char :=
  if c = '_' ∨ c = ':' ∨ c = '/' then '-' else c

/-- The name before it is cut. -/
def fullDiskName (lun : Lun) : String :=
  Text.lowercase (String.ofList ((lun.device ++ '-' :: lun.wwn.toList).map nameChar))

/-- The longest name, in characters. -/
def longestName : Nat := 63

/-- The name of the unit's local disk. -/
def diskName (lun : Lun) : String :=
  String.ofList
    (Text.trimRight (fun c => c == '-' || c == '.') (lun.fullDiskName.toList.take longestName))

end Lun

/-! ### Requests -/

/-- A request for a local disk. -/
structure LocalDiskRequest where
  name : String
  namespaceName : String
  device : String
  node : String
  labels : TextMap
  deriving DecidableEq, Repr

/-- A request for a filesystem. -/
structure FilesystemRequest where
  name : String
  namespaceName : String
  disks : List String
  replication : String
  sharing : String
  deriving DecidableEq, Repr

/-- A request for a storage class. -/
structure StorageClassRequest where
  name : String
  provisioner : String
  parameters : TextMap
  deriving DecidableEq, Repr

/-- A filesystem in the cluster. -/
structure Filesystem where
  name : String
  namespaceName : String
  labels : TextMap
  deriving DecidableEq, Repr

/-- The label of everything that filesystem jobs make. -/
def jobLabel : String := "fusion.storage.openshift.io/filesystem-job"

/-- The label with the filesystem that a disk is made for. -/
def filesystemLabel : String := "fusion.storage.openshift.io/filesystem-name"

/-- The label without which a filesystem may not be deleted. -/
def allowDeleteLabel : String := "scale.spectrum.ibm.com/allowDelete"

/-- The driver that gives out volumes. -/
def volumeDriver : String := "spectrumscale.csi.ibm.com"

/-- The request for a unit's local disk. -/
def LocalDiskRequest.of (lun : Lun) (filesystem namespaceName : String) : LocalDiskRequest where
  name := lun.diskName
  namespaceName := namespaceName
  device := lun.path
  node := lun.node
  labels := [(jobLabel, "true"), (filesystemLabel, filesystem)]

/-- The request for a filesystem on disks: shared, without a second copy. -/
def FilesystemRequest.of (name namespaceName : String) (disks : List String) : FilesystemRequest :=
  ⟨name, namespaceName, disks, "1-way", "shared"⟩

/-- The request for the storage class of a filesystem, which has the filesystem's name. -/
def StorageClassRequest.of (filesystem : String) : StorageClassRequest :=
  ⟨filesystem, volumeDriver, [("volBackendFs", filesystem)]⟩

/-! ### Objects -/

/-- The group of local disks and filesystems. -/
def group : String := "scale.spectrum.ibm.com"

/-- The version of the group. -/
def version : String := "v1beta1"

/-- The kind of local disks. -/
def localDiskKind : String := "LocalDisk"

/-- The kind of filesystems. -/
def filesystemKind : String := "Filesystem"

/-- The kind of storage classes. -/
def storageClassKind : String := "StorageClass"

/-- An object of the group. -/
def objectJson (kind : String) (metadata : Metadata) (spec : Json) : Json :=
  .object
    [("apiVersion", .string (String.join [group, "/", version])), ("kind", .string kind),
     ("metadata", metadata.toJson), ("spec", spec)]

/-- The object of a local disk. -/
def LocalDiskRequest.toObject (request : LocalDiskRequest) : Json :=
  objectJson localDiskKind
    { name := some request.name, namespaceName := some request.namespaceName
      labels := some request.labels }
    (.object [("device", .string request.device), ("node", .string request.node)])

/-- The object of a filesystem. -/
def FilesystemRequest.toObject (request : FilesystemRequest) : Json :=
  objectJson filesystemKind
    { name := some request.name, namespaceName := some request.namespaceName }
    (.object
      [("local", .object
        [("pools", .array [.object [("disks", Json.ofTexts request.disks)]]),
         ("replication", .string request.replication), ("type", .string request.sharing)])])

/-- The object of a storage class. -/
def StorageClassRequest.toObject (request : StorageClassRequest) : Json :=
  .object
    [("apiVersion", .string "storage.k8s.io/v1"), ("kind", .string storageClassKind),
     ("metadata", ({ name := some request.name } : Metadata).toJson),
     ("parameters", Json.ofTextMap request.parameters),
     ("provisioner", .string request.provisioner)]

end NodeStorage.Provisioning
