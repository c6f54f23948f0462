/-
**Block devices.**

A block device as the node's device listing reports it. A flag is missing when the listing gives no
usable value for it; a device without a kernel name has no device node.
-/

import NodeStorage.Error
import NodeStorage.Text.Case

namespace NodeStorage

/-- A block device as the node's device listing reports it. -/
structure BlockDevice where
  /-- The device's name, such as `sdb` or `mpatha`. -/
  name : String
  /-- The kernel's name, such as `sdb` or `dm-0`. -/
  kernelName : String
  /-- The listing's word for the kind of device. -/
  deviceType : String
  model : String
  vendor : String
  serial : String
  /-- The size in bytes. -/
  size : Int
  rotational : Option Bool
  readOnly : Option Bool
  removable : Option Bool
  state : String
  partitionLabel : String
  filesystemType : String
  worldWideName : String
  /-- The kernel names of the devices nested under this one. -/
  children : List String
  deriving DecidableEq, Repr

namespace BlockDevice

/-- The state of a device that is never reported. -/
def suspended : String := "suspended"

/-- An error of a probe of this device. -/
def probeError (device : BlockDevice) (reason : String) : Error :=
  .deviceProbe device.name reason

/-- The path of the device node. -/
def nodePath (device : BlockDevice) : Outcome String :=
  if device.kernelName.isEmpty then .error (device.probeError "empty kernel name")
  else .ok ("/dev/" ++ device.kernelName)

/-- The read-only flag, which must be known. -/
def isReadOnly (device : BlockDevice) : Outcome Bool :=
  match device.readOnly with
  | some flag => .ok flag
  | none => .error (device.probeError "unparsable read-only flag")

end BlockDevice

namespace Text

/-- `part` stands somewhere in `whole`. -/
def containsPart (part : List Char) : List Char → Bool
  | [] => part.isEmpty
  | c :: rest => part.isPrefixOf (c :: rest) || containsPart part rest

end Text

/-- The partition label marks a BIOS boot partition: it holds both words in any case. -/
def BlockDevice.hasBiosBootLabel (device : BlockDevice) : Bool :=
  let label := (Text.lowercase device.partitionLabel).toList
  Text.containsPart "bios".toList label && Text.containsPart "boot".toList label

end NodeStorage
