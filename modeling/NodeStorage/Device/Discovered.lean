/-
**Discovered devices.**

The record that discovery reports for a device: which device it is, what kind of device, and
whether it may be used. Its JSON form has one field per part, in the order of `fieldNames`; texts
and the size have defaults, the path, the kind, the property and the status do not.
-/

import NodeStorage.Json.Reader
import NodeStorage.Json.Writer

namespace NodeStorage

open Json

/-- The kind of a block device. -/
inductive DeviceType where
  | disk | part | loop | lvm | mpath | unknown
  deriving DecidableEq, Repr, Inhabited

namespace DeviceType

/-- The written names of the kinds. -/
def variants : List (String × DeviceType) :=
  [("disk", .disk), ("part", .part), ("loop", .loop), ("lvm", .lvm), ("mpath", .mpath),
   ("", .unknown)]

/-- The written name of a kind; the unknown kind has an empty one. -/
def name : DeviceType → String
  | .disk => "disk"
  | .part => "part"
  | .loop => "loop"
  | .lvm => "lvm"
  | .mpath => "mpath"
  | .unknown => ""

/-- The kind that the listing's word names. -/
def ofListing (word : String) : DeviceType :=
  if word = "disk" then .disk
  else if word = "part" then .part
  else if word = "loop" then .loop
  else if word = "lvm" then .lvm
  else if word = "mpath" then .mpath
  else .unknown

/-- Discovery reports whole disks and multipath maps. -/
def isSupported : DeviceType → Bool
  | .disk | .mpath => true
  | .part | .loop | .lvm | .unknown => false

end DeviceType

/-- Whether the device spins. -/
inductive MechanicalProperty where
  | rotational | nonRotational | unknown
  deriving DecidableEq, Repr, Inhabited

namespace MechanicalProperty

/-- The written names of the properties. -/
def variants : List (String × MechanicalProperty) :=
  [("Rotational", .rotational), ("NonRotational", .nonRotational), ("", .unknown)]

/-- The written name of a property; the unknown one has an empty one. -/
def name : MechanicalProperty → String
  | .rotational => "Rotational"
  | .nonRotational => "NonRotational"
  | .unknown => ""

/-- The property that the listing's flag denotes. -/
def ofFlag : Option Bool → MechanicalProperty
  | some true => .rotational
  | some false => .nonRotational
  | none => .unknown

end MechanicalProperty

/-- Whether a device may be used. -/
inductive DeviceState where
  | available | notAvailable | unknown
  deriving DecidableEq, Repr

namespace DeviceState

/-- A device is unknown until it has been looked at. -/
instance : Inhabited DeviceState := ⟨.unknown⟩

/-- The written names of the states. -/
def variants : List (String × DeviceState) :=
  [("Available", .available), ("NotAvailable", .notAvailable), ("Unknown", .unknown)]

/-- The written name of a state. -/
def name : DeviceState → String
  | .available => "Available"
  | .notAvailable => "NotAvailable"
  | .unknown => "Unknown"

end DeviceState

/-- A block device that discovery reports. -/
structure DiscoveredDevice where
  /-- The persistent path of the device, empty where there is none. -/
  deviceId : String
  path : String
  model : String
  deviceType : DeviceType
  vendor : String
  serial : String
  /-- The size in bytes. -/
  size : Int
  property : MechanicalProperty
  filesystemType : String
  state : DeviceState
  worldWideName : String
  deriving DecidableEq, Repr

namespace DiscoveredDevice

/-- The names of the fields, in order. -/
def fieldNames : List String :=
  ["deviceID", "path", "model", "type", "vendor", "serial", "size", "property", "fstype", "status",
   "WWN"]

/-- Reads the status of a device. -/
def readStatus (document : Raw) : Reading DeviceState := do
  let fields ← document.fields ["state"]
  fields.required "state" (Raw.variant DeviceState.variants)

/-- Reads a discovered device. -/
def read (document : Raw) : Reading DiscoveredDevice := do
  let fields ← document.fields fieldNames
  let deviceId ← fields.withDefault "deviceID" Raw.text ""
  let path ← fields.required "path" Raw.text
  let model ← fields.withDefault "model" Raw.text ""
  let deviceType ← fields.required "type" (Raw.variant DeviceType.variants)
  let vendor ← fields.withDefault "vendor" Raw.text ""
  let serial ← fields.withDefault "serial" Raw.text ""
  let size ← fields.withDefault "size" Raw.integer64 0
  let property ← fields.required "property" (Raw.variant MechanicalProperty.variants)
  let filesystemType ← fields.withDefault "fstype" Raw.text ""
  let state ← fields.required "status" readStatus
  let worldWideName ← fields.withDefault "WWN" Raw.text ""
  pure ⟨deviceId, path, model, deviceType, vendor, serial, size, property, filesystemType, state,
    worldWideName⟩

/-- The JSON form of a discovered device. -/
def toJson (device : DiscoveredDevice) : Json :=
  .object
    [("deviceID", .string device.deviceId), ("path", .string device.path),
     ("model", .string device.model), ("type", .string device.deviceType.name),
     ("vendor", .string device.vendor), ("serial", .string device.serial),
     ("size", .integer device.size), ("property", .string device.property.name),
     ("fstype", .string device.filesystemType),
     ("status", .object [("state", .string device.state.name)]),
     ("WWN", .string device.worldWideName)]

/-- What tells discovered devices apart. -/
def key (device : DiscoveredDevice) : String × String :=
  (device.deviceId, device.path)

end DiscoveredDevice

end NodeStorage
