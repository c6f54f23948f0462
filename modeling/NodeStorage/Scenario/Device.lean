/-
**Scenarios: devices and hosts.**

A device is described by what differs from a writable disk without contents. A probe is described
by tables with the kernel's names of devices, and a host by the files, links and directories that
it has.
-/

import NodeStorage.Device.Listing
import NodeStorage.Host.Probe
import NodeStorage.Scenario.Failure

namespace NodeStorage.Scenario

open Json

/-! ### Block devices -/

/-- Reads a read-only flag; any other word than true or false means that it is unknown. -/
def readFlag : Raw → Reading (Option Bool)
  | .bool flag => .ok (some flag)
  | _ => .ok none

/-- Reads a block device. -/
def readDevice (document : Raw) : Reading BlockDevice := do
  let name ← document.textAt "name"
  pure
    { name := name
      kernelName := ← document.valueAt "kname" Raw.text name
      deviceType := ← document.valueAt "device_type" Raw.text DeviceType.disk.name
      model := ← document.textAt "model"
      vendor := ← document.textAt "vendor"
      serial := ← document.textAt "serial"
      size := ← document.valueAt "size" Raw.integer64 0
      rotational := ← document.optionalAt "rotational" Raw.boolean
      readOnly := ← document.valueAt "read_only" readFlag (some false)
      removable := ← document.optionalAt "removable" Raw.boolean
      state := ← document.textAt "state"
      partitionLabel := ← document.textAt "part_label"
      filesystemType := ← document.textAt "fs_type"
      worldWideName := ← document.textAt "wwn"
      children := ← document.listAt "children" Raw.text }

/-- All parts of a block device. -/
def deviceJson (device : BlockDevice) : Json :=
  .object
    [("name", .string device.name), ("kname", .string device.kernelName),
     ("device_type", .string device.deviceType), ("model", .string device.model),
     ("vendor", .string device.vendor), ("serial", .string device.serial),
     ("size", .integer device.size), ("rotational", orNull .bool device.rotational),
     ("read_only", orNull .bool device.readOnly), ("removable", orNull .bool device.removable),
     ("state", .string device.state), ("part_label", .string device.partitionLabel),
     ("fs_type", .string device.filesystemType), ("wwn", .string device.worldWideName),
     ("children", Json.ofTexts device.children)]

/-- Reads devices, which are described one by one or by the text of a listing. -/
def readDevices (document : Raw) : Reading (Outcome (List BlockDevice)) := do
  match ← document.textAt? "lsblk" with
  | some listing => pure (DeviceListing.parse listing)
  | none => do
    let devices ← document.listAt "devices" readDevice
    pure (.ok devices)

/-- Reads how the listing tool ran. -/
def readRun (document : Raw) : Reading ProgramRun := do
  let output ← document.partAt "stdout" Raw.bytes
  let errors ← document.partAt "stderr" Raw.bytes
  let code ← document.valueAt "exit" Raw.natural 0
  match ← document.flagAt "missing", ← document.optionalAt "signal" Raw.natural with
  | true, _ => pure (.notStarted Host.SystemError.notFound.message)
  | false, some number => pure (.ended (.signal number) output errors)
  | false, none => pure (.ended (.code code) output errors)

/-! ### Probes -/

/-- What a table says about a device. -/
def ofDevice? {α : Type} (table : List (String × α)) (device : BlockDevice) : Option α :=
  (table.find? fun entry => entry.1 == device.kernelName).map Prod.snd

/-- Reads whether a device can be opened: a word means that it is busy. -/
def readOpening (document : Raw) : Reading (Outcome Bool) :=
  match document with
  | .string _ => .ok (.ok false)
  | _ => (readError document).map .error

/-- Reads a probe. -/
def readProbe (document : Raw) : Reading DeviceProbe := do
  let paths ← document.entriesAt "by_id" Raw.text
  let openings ← document.entriesAt "open" readOpening
  let mounts ← document.entriesAt "mounts" Raw.text
  let mountErrors ← document.entriesAt "mount_errors" readError
  pure
    { pathById := fun device =>
        match ofDevice? paths device with
        | some path => .ok path
        | none => .error (device.probeError "no persistent path")
      canOpenExclusively := fun device => (ofDevice? openings device).getD (.ok true)
      bindMount := fun device =>
        match ofDevice? mountErrors device with
        | some cause => .error cause
        | none => .ok (ofDevice? mounts device) }

/-! ### Hosts -/

/-- The names on a path. -/
def namesOf (path : String) : List String :=
  (Host.steps path).filter fun step => step != "" && step != "."

/-- Reads a link, a file or a directory; `target` is what a link's text stands for. -/
def readLeaf (target : String → String) (document : Raw) : Reading Host.FileTree := do
  match ← document.textAt? "link", document.given? "file" with
  | some text, _ => pure (.link (target text))
  | none, some contents => contents.bytes.map .file
  | none, none => pure (.directory [])

/-- Reads a host's files, which are put into an empty directory one after another. -/
def readFiles (target : String → String) (document : Raw) : Reading Host.FileTree := do
  let leaves ← document.listAt "tree" fun entry => do
    let path ← entry.textAt "path"
    let leaf ← readLeaf target entry
    pure (namesOf path, leaf)
  pure (leaves.foldl (fun tree (path, leaf) => leaf.put path tree) (.directory []))

end NodeStorage.Scenario
