/-
**Looking at a device on its host.**

A device's persistent path is the first link, in the order of the names' bytes, in the directory of
persistent links that leads to the device's node. A device is free when its node can be opened, and
in use when the mount table shows its node as mounted.
-/

import NodeStorage.Device.Classification
import NodeStorage.Host.FileTree
import NodeStorage.Host.MountTable
import NodeStorage.Text.Utf8

namespace NodeStorage.Host

/-- Where a host keeps what the probe looks at. -/
structure Places where
  /-- The directory of the device nodes. -/
  devices : String
  /-- The directory of the persistent links. -/
  persistentLinks : String
  /-- The mount table of the host's first process. -/
  mountTable : String
  deriving DecidableEq, Repr

/-- The usual places. -/
def Places.standard : Places :=
  ⟨"/dev", "/dev/disk/by-id", "/proc/1/mountinfo"⟩

/-- A system error met while probing a device. -/
def probing {α : Type} (device : BlockDevice) (result : Except SystemError α) : Outcome α :=
  result.mapError fun cause => device.probeError cause.message

/-- The path of the device's node. -/
def nodeOf (places : Places) (device : BlockDevice) : Outcome String :=
  if device.kernelName.isEmpty then .error (device.probeError "empty kernel name")
  else .ok (join places.devices device.kernelName)

/-- The device's persistent path. -/
def pathById (tree : FileTree) (places : Places) (device : BlockDevice) : Outcome String := do
  let node ← nodeOf places device
  let target ← probing device (tree.resolve node)
  let names ← probing device (tree.list places.persistentLinks)
  let links := (names.mergeSort fun left right => decide (left ≤ right)).map
    (join places.persistentLinks)
  match links.find? fun link => (tree.resolve link).toOption == some target with
  | some link => pure link
  | none =>
    .error (device.probeError
      (String.join ["no link in ", places.persistentLinks, " points to it"]))

/-- The device's node can be opened. -/
def canOpen (tree : FileTree) (places : Places) (device : BlockDevice) : Outcome Bool := do
  let node ← nodeOf places device
  let _ ← probing device (tree.open node)
  pure true

/-- Where the device's node is mounted. -/
def bindMount (tree : FileTree) (places : Places) (device : BlockDevice) :
    Outcome (Option String) := do
  let bytes ← probing device (tree.read places.mountTable)
  match Text.decodeUtf8? bytes with
  | some table => pure (findBindMount table device.kernelName)
  | none => .error (device.probeError SystemError.notText.message)

/-- The probe of a host. -/
def probe (tree : FileTree) (places : Places) : DeviceProbe where
  pathById := pathById tree places
  canOpenExclusively := canOpen tree places
  bindMount := bindMount tree places

end NodeStorage.Host
