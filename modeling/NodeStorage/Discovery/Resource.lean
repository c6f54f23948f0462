/-
**The objects of discovery in the cluster.**

`DiscoveryObject` asks for discovery on the nodes that its selector means. `ResultObject` holds what
was found on one node: it belongs to the discovery object, carries the node's name as a label, and
is named after the node. A node name that would make the result's name too long for the cluster is
replaced by half of its SHA-256 digest.

Objects are written with the version and kind of their own type, whatever they were read with.
-/

import NodeStorage.Cluster.Metadata
import NodeStorage.Device.Discovered
import NodeStorage.Digest.Sha256
import NodeStorage.Discovery.NodeSelector
import NodeStorage.Discovery.Status
import NodeStorage.Text.Hexadecimal
import NodeStorage.Text.Utf8

namespace NodeStorage.Discovery

open Json Cluster

/-- The group that the objects belong to. -/
def group : String := "fusion.storage.openshift.io"

/-- The version of the group. -/
def version : String := "v1alpha1"

/-- The group with its version. -/
def apiVersion : String := String.join [group, "/", version]

/-- The kind of the object that asks for discovery. -/
def discoveryKind : String := "LocalVolumeDiscovery"

/-- The kind of the object that holds a node's devices. -/
def resultKind : String := "LocalVolumeDiscoveryResult"

/-- An object: version and kind, metadata, what is asked of it, and what has become of it. -/
def objectJson (kind : String) (metadata : Metadata) (spec : Json) (status : Option Json) : Json :=
  Json.record
    [("apiVersion", some (.string apiVersion)), ("kind", some (.string kind)),
     ("metadata", some metadata.toJson), ("spec", some spec), ("status", status)]

/-- Reads the parts of an object. -/
def readObject {Spec State Whole : Type} (readSpec : Raw → Reading Spec)
    (readStatus : Raw → Reading State) (build : Metadata → Spec → Option State → Whole)
    (document : Raw) : Reading Whole := do
  let fields ← document.fields ["metadata", "spec", "status"]
  let metadata ← fields.required "metadata" Metadata.read
  let spec ← fields.required "spec" readSpec
  let status ← fields.optionalByName "status" readStatus
  pure (build metadata spec status)

/-! ### Asking for discovery -/

/-- What a discovery object asks for. -/
structure DiscoverySpec where
  /-- The nodes on which discovery runs; all nodes when there is no selector. -/
  nodeSelector : Option NodeSelector
  deriving DecidableEq, Repr

namespace DiscoverySpec

/-- The JSON form of what is asked for. -/
def toJson (spec : DiscoverySpec) : Json :=
  Json.record [("nodeSelector", spec.nodeSelector.map NodeSelector.toJson)]

/-- Reads what is asked for. -/
def read (document : Raw) : Reading DiscoverySpec := do
  let fields ← document.fields ["nodeSelector"]
  let nodeSelector ← fields.optional "nodeSelector" NodeSelector.read
  pure ⟨nodeSelector⟩

end DiscoverySpec

/-- An object that asks for discovery. -/
structure DiscoveryObject where
  metadata : Metadata
  spec : DiscoverySpec
  status : Option Status
  deriving DecidableEq, Repr

namespace DiscoveryObject

/-- The JSON form of a discovery object. -/
def toJson (object : DiscoveryObject) : Json :=
  objectJson discoveryKind object.metadata object.spec.toJson (object.status.map Status.toJson)

/-- Reads a discovery object. -/
def read : Raw → Reading DiscoveryObject :=
  readObject DiscoverySpec.read Status.read DiscoveryObject.mk

end DiscoveryObject

/-! ### What was found on a node -/

/-- The devices of a node. -/
structure ResultStatus where
  devices : List DiscoveredDevice
  /-- When the list was written. -/
  writtenAt : Option String
  deriving DecidableEq, Repr

namespace ResultStatus

/-- The JSON form of a list of devices. -/
def toJson (status : ResultStatus) : Json :=
  Json.record
    [("discoveredDevices", some (.array (status.devices.map DiscoveredDevice.toJson))),
     ("discoveredTimeStamp", status.writtenAt.map .string)]

/-- Reads a list of devices. -/
def read (document : Raw) : Reading ResultStatus := do
  let fields ← document.fields ["discoveredDevices", "discoveredTimeStamp"]
  let devices ← fields.withDefault "discoveredDevices" (Raw.list DiscoveredDevice.read) []
  let writtenAt ← fields.optional "discoveredTimeStamp" Raw.text
  pure ⟨devices, writtenAt⟩

end ResultStatus

/-- An object that holds what was found on a node. -/
structure ResultObject where
  metadata : Metadata
  /-- The node on which the devices were found. -/
  nodeName : String
  status : Option ResultStatus
  deriving DecidableEq, Repr

namespace ResultObject

/-- The JSON form of a result. -/
def toJson (object : ResultObject) : Json :=
  objectJson resultKind object.metadata (.object [("nodeName", .string object.nodeName)])
    (object.status.map ResultStatus.toJson)

/-- Reads the name of the node. -/
def readSpec (document : Raw) : Reading String := do
  let fields ← document.fields ["nodeName"]
  fields.required "nodeName" Raw.text

/-- Reads a result. -/
def read : Raw → Reading ResultObject :=
  readObject readSpec ResultStatus.read ResultObject.mk

/-- The label with the node that a result belongs to. -/
def nodeLabel : String := "discovery-result-node"

/-- What every result's name starts with. -/
def nameStart : String := "discovery-result-"

/-- The longest name of a result, in bytes. -/
def longestName : Nat := 253

/-- How many bytes of a digest stand for a long node name. -/
def digestLength : Nat := 16

/-- The first bytes of a text's digest, in hexadecimal. -/
def shortDigest (text : String) : String :=
  Text.toHexadecimal ((Digest.sha256 (Text.encodeUtf8 text)).take digestLength)

/-- The name of a node's result. -/
def nameFor (nodeName : String) : String :=
  let plain := nameStart ++ nodeName
  if plain.utf8ByteSize ≤ longestName then plain else nameStart ++ shortDigest nodeName

end ResultObject

/-- A node with the discovery object that its result belongs to. -/
structure ResultIdentity where
  nodeName : String
  namespaceName : String
  parentName : String
  parentUid : String
  deriving DecidableEq, Repr, Inhabited

namespace ResultIdentity

/-- The name of the node's result. -/
def resultName (identity : ResultIdentity) : String :=
  ResultObject.nameFor identity.nodeName

/-- The discovery object as the owner of the result. -/
def owner (identity : ResultIdentity) : OwnerReference :=
  { apiVersion := apiVersion, kind := discoveryKind, name := identity.parentName
    uid := identity.parentUid }

/-- A new result for the node, without devices. -/
def newResult (identity : ResultIdentity) : ResultObject :=
  { metadata :=
      { name := some identity.resultName
        namespaceName := some identity.namespaceName
        labels := some [(ResultObject.nodeLabel, identity.nodeName)]
        owners := some [identity.owner] }
    nodeName := identity.nodeName
    status := none }

/-- The discovery object as what an event is about. -/
def parentReference (identity : ResultIdentity) : Json :=
  .object
    [("apiVersion", .string apiVersion), ("kind", .string discoveryKind),
     ("name", .string identity.parentName), ("namespace", .string identity.namespaceName),
     ("uid", .string identity.parentUid)]

end ResultIdentity

end NodeStorage.Discovery
