/-
**Every device that counts is reported once.**

A listing is a forest, and a multipath map stands in it under every disk that it runs over.
Discovery goes through the forest in pre-order, leaves out what is no candidate, and keeps one
record for each device. A device is told by its kernel name, as long as the probe finds persistent
paths by it, as a host's probe does (`Host.pathsByKernelName`).

* `ListedDevice.candidates` — the devices of a forest that are not left out, in pre-order.
* `DeviceProbe.key_classify`, `DeviceProbe.keyOf_injective` — a record's key stands for the kernel
  name of its device.
* `discover_reports_once` — **there is one record for each kernel name**, in the order in which the
  names first occur, and it is the record of the last device with the name.
-/

import Mathlib.Data.List.Nodup
import NodeStorage.Host.Probe
import NodeStorage.Proofs.Device.Duplicates
import NodeStorage.Proofs.Device.Forest
import NodeStorage.Proofs.Json.RoundTrip
import NodeStorage.Proofs.Outcome

namespace NodeStorage

open DiscoveredDevice

/-! ### Candidates -/

namespace ListedDevice

/-- The candidates of a forest, in pre-order. -/
def candidates (forest : List ListedDevice) : List BlockDevice :=
  ((preorderAll forest).map toBlockDevice).filter fun device => !device.isIgnored

theorem discover_flattenAll (probe : DeviceProbe) (forest : List ListedDevice) :
    discover probe (flattenAll forest) =
      uniqueDevices ((candidates forest).map fun device => device.classify probe) := by
  rw [discover, flattenAll_eq_map, candidates]

end ListedDevice

/-! ### Keys and kernel names -/

/-- The path in the record of a device with a kernel name. -/
def recordPath (kernelName : String) : String :=
  if kernelName.isEmpty then "" else "/dev/" ++ kernelName

theorem path_classify (probe : DeviceProbe) (device : BlockDevice) :
    (device.classify probe).path = recordPath device.kernelName := by
  show BlockDevice.textOrEmpty device.nodePath = recordPath device.kernelName
  rw [BlockDevice.nodePath, recordPath]
  split <;> rfl

/-- **Different kernel names have different paths.** -/
theorem recordPath_injective : Function.Injective recordPath := by
  intro first second same
  have start : "/dev/".toList ≠ [] := by decide
  rw [recordPath, recordPath] at same
  split at same <;> split at same
  · rename_i none alsoNone
    rw [String.isEmpty_iff.mp none, String.isEmpty_iff.mp alsoNone]
  · have empty := congrArg String.toList same
    rw [String.toList_append] at empty
    exact absurd (List.append_eq_nil_iff.mp empty.symm).1 start
  · have empty := congrArg String.toList same
    rw [String.toList_append] at empty
    exact absurd (List.append_eq_nil_iff.mp empty).1 start
  · have names := congrArg String.toList same
    rw [String.toList_append, String.toList_append, List.append_cancel_left_eq] at names
    exact String.toList_inj.mp names

/-- The probe finds the persistent path of a device, or none, by its kernel name alone. -/
def DeviceProbe.PathsByKernelName (probe : DeviceProbe) : Prop :=
  ∀ first second : BlockDevice, first.kernelName = second.kernelName →
    (probe.pathById first).toOption = (probe.pathById second).toOption

/-- A device of which nothing is known but its kernel name. -/
def BlockDevice.ofKernelName (kernelName : String) : BlockDevice where
  name := ""
  kernelName := kernelName
  deviceType := ""
  model := ""
  vendor := ""
  serial := ""
  size := 0
  rotational := none
  readOnly := none
  removable := none
  state := ""
  partitionLabel := ""
  filesystemType := ""
  worldWideName := ""
  children := []

theorem textOrEmpty_eq (outcome : Outcome String) :
    BlockDevice.textOrEmpty outcome = outcome.toOption.getD "" := by
  cases outcome <;> rfl

namespace DeviceProbe

/-- The key of the records of devices with a kernel name. -/
def keyOf (probe : DeviceProbe) (kernelName : String) : String × String :=
  ((BlockDevice.ofKernelName kernelName).classify probe).key

variable {probe : DeviceProbe}

/-- **The key of a record depends on the kernel name of its device only.** -/
theorem key_classify (paths : probe.PathsByKernelName) (device : BlockDevice) :
    (device.classify probe).key = probe.keyOf device.kernelName := by
  have identity : (device.classify probe).deviceId =
      ((BlockDevice.ofKernelName device.kernelName).classify probe).deviceId := by
    show BlockDevice.textOrEmpty _ = BlockDevice.textOrEmpty _
    rw [textOrEmpty_eq, textOrEmpty_eq, paths device (.ofKernelName device.kernelName) rfl]
  have path := (path_classify probe device).trans
    (path_classify probe (.ofKernelName device.kernelName)).symm
  exact Prod.ext identity path

theorem keyOf_snd (probe : DeviceProbe) (kernelName : String) :
    (probe.keyOf kernelName).2 = recordPath kernelName :=
  path_classify probe (.ofKernelName kernelName)

/-- **Different kernel names have different keys.** -/
theorem keyOf_injective (probe : DeviceProbe) : Function.Injective probe.keyOf := by
  intro first second same
  have paths := congrArg Prod.snd same
  rw [keyOf_snd, keyOf_snd] at paths
  exact recordPath_injective paths

end DeviceProbe

/-- A map that keeps elements apart keeps their first places. -/
theorem eraseDups_map_of_injective {α β : Type} [BEq α] [LawfulBEq α] [BEq β] [LawfulBEq β]
    {f : α → β} (injective : Function.Injective f) (elements : List α) :
    (elements.map f).eraseDups = elements.eraseDups.map f := by
  induction elements using List.reverseRecOn with
  | nil => rfl
  | append_singleton elements last ih =>
    have seen : f last ∈ elements.map f ↔ last ∈ elements := List.mem_map_of_injective injective
    rw [List.map_append, List.map_singleton, eraseDups_concat, eraseDups_concat, ih]
    simp only [seen]
    split
    · rfl
    · rw [List.map_append, List.map_singleton]

/-! ### A host's probe -/

theorem toOption_bind {α β : Type} (outcome : Outcome α) (next : α → Outcome β) :
    (outcome >>= next).toOption = outcome.toOption.bind fun value => (next value).toOption := by
  cases outcome <;> rfl

namespace Host

variable (tree : FileTree) (places : Places)

theorem toOption_probing {α : Type} (device : BlockDevice) (result : Except SystemError α) :
    (probing device result).toOption = result.toOption := by
  cases result <;> rfl

theorem toOption_nodeOf {first second : BlockDevice} (same : first.kernelName = second.kernelName) :
    (nodeOf places first).toOption = (nodeOf places second).toOption := by
  rw [nodeOf, nodeOf, same]
  split <;> rfl

/-- **A host's probe finds paths by kernel name.** -/
theorem pathsByKernelName : (probe tree places).PathsByKernelName := by
  intro first second same
  show (pathById tree places first).toOption = (pathById tree places second).toOption
  simp only [pathById, toOption_bind, toOption_probing, toOption_nodeOf places same]
  refine Option.bind_congr fun node _ => Option.bind_congr fun target _ =>
    Option.bind_congr fun names _ => ?_
  split <;> rfl

end Host

/-! ### What is reported -/

/-- The last of the devices with a kernel name. -/
def lastNamed (kernelName : String) (devices : List BlockDevice) : Option BlockDevice :=
  (devices.filter fun device => device.kernelName == kernelName).getLast?

/-- **The records report the devices**, each once. -/
structure ReportsOnce (probe : DeviceProbe) (devices : List BlockDevice)
    (records : List DiscoveredDevice) : Prop where
  /-- There is one record for each kernel name, in the order in which the names first occur: the
  record of the last device with the name. -/
  inOrder : records.map some =
    (devices.map BlockDevice.kernelName).eraseDups.map fun kernelName =>
      (lastNamed kernelName devices).map fun device => device.classify probe
  /-- However often a device is listed, one record has its path. -/
  once : ∀ device ∈ devices,
    (records.map path).count (recordPath device.kernelName) = 1
  /-- Devices with different kernel names have a record each. -/
  apart : ∀ first ∈ devices, ∀ second ∈ devices, first.kernelName ≠ second.kernelName →
    ∃ one ∈ records, ∃ other ∈ records, one ≠ other ∧
      one.path = recordPath first.kernelName ∧ other.path = recordPath second.kernelName

section Reports

variable {probe : DeviceProbe} (paths : probe.PathsByKernelName) (devices : List BlockDevice)

include paths

/-- The keys of the records stand for the kernel names at their first places. -/
theorem keys_unique_classified :
    (uniqueDevices (devices.map fun device => device.classify probe)).map key =
      (devices.map BlockDevice.kernelName).eraseDups.map probe.keyOf := by
  have keys : (devices.map fun device => device.classify probe).map key =
      (devices.map BlockDevice.kernelName).map probe.keyOf := by
    rw [List.map_map, List.map_map]
    exact List.map_congr_left fun device _ => DeviceProbe.key_classify paths device
  rw [keys_uniqueDevices, keys, eraseDups_map_of_injective probe.keyOf_injective]

theorem lastWithKey_classified (kernelName : String) :
    lastWithKey (probe.keyOf kernelName) (devices.map fun device => device.classify probe) =
      (lastNamed kernelName devices).map fun device => device.classify probe := by
  have same : ∀ device ∈ devices, ((device.classify probe).key == probe.keyOf kernelName) =
      (device.kernelName == kernelName) := fun device _ => by
    rw [DeviceProbe.key_classify paths, Bool.eq_iff_iff, beq_iff_eq, beq_iff_eq,
      probe.keyOf_injective.eq_iff]
  rw [lastWithKey, lastNamed, List.filter_map, List.getLast?_map]
  exact congrArg (fun kept : List BlockDevice => kept.getLast?.map _) (List.filter_congr same)

theorem reportsOnce_unique_classified :
    ReportsOnce probe devices
      (uniqueDevices (devices.map fun device => device.classify probe)) := by
  have keys := keys_unique_classified paths devices
  generalize records : uniqueDevices (devices.map fun device => device.classify probe) = reported
    at keys
  have distinct : (devices.map BlockDevice.kernelName).eraseDups.Nodup := by
    refine List.Nodup.of_map probe.keyOf ?_
    rw [← keys, ← records]
    exact nodup_keys_uniqueDevices _
  -- Identifiers may be equal or missing, so it is the paths that tell the records apart.
  have pathsOf : reported.map path =
      (devices.map BlockDevice.kernelName).eraseDups.map recordPath := by
    have seconds := congrArg (List.map Prod.snd) keys
    rw [List.map_map, List.map_map] at seconds
    exact seconds.trans (List.map_congr_left fun kernelName _ =>
      DeviceProbe.keyOf_snd probe kernelName)
  have listed : ∀ device ∈ devices, recordPath device.kernelName ∈ reported.map path := by
    intro device member
    rw [pathsOf]
    exact List.mem_map_of_mem (List.mem_eraseDups.mpr (List.mem_map_of_mem member))
  refine ⟨?_, fun device member => ?_, fun first isFirst second isSecond differ => ?_⟩
  · rw [← records, map_some_uniqueDevices, ← keys_uniqueDevices, records, keys, List.map_map]
    exact List.map_congr_left fun kernelName _ => lastWithKey_classified paths devices kernelName
  · have once : (reported.map path).Nodup := by
      rw [pathsOf]
      exact distinct.map recordPath_injective
    exact List.count_eq_one_of_mem once (listed device member)
  · obtain ⟨one, isOne, onePath⟩ := List.mem_map.mp (listed first isFirst)
    obtain ⟨other, isOther, otherPath⟩ := List.mem_map.mp (listed second isSecond)
    refine ⟨one, isOne, other, isOther, ?_, onePath, otherPath⟩
    rintro rfl
    exact differ (recordPath_injective (onePath.symm.trans otherPath))

end Reports

/-- **Every candidate of a listing is reported once**, however deep and however often it is listed,
and no two devices are taken for one. -/
theorem discover_reports_once {probe : DeviceProbe} (paths : probe.PathsByKernelName)
    {text : String} {listed : List BlockDevice}
    (parsed : DeviceListing.parse text = .ok listed) :
    ∃ forest, Json.readText DeviceListing.readForest text = .ok forest ∧
      ReportsOnce probe (ListedDevice.candidates forest) (discover probe listed) := by
  obtain ⟨forest, read, rfl⟩ := DeviceListing.forest_of_parse parsed
  refine ⟨forest, read, ?_⟩
  rw [ListedDevice.discover_flattenAll]
  exact reportsOnce_unique_classified paths _

/-! ### A map over two disks -/

namespace DeviceListing

/-- A listing that was written as text is read from its document. -/
theorem parse_toText {listing : Json} {devices : List BlockDevice}
    (read : ((Json.raw? listing).bind fun document =>
      ((Outcome.ofReading (readForest document)).map ListedDevice.flattenAll).toOption) =
        some devices) : parse listing.toText = .ok devices := by
  obtain ⟨document, known, worked⟩ := Option.bind_eq_some_iff.mp read
  rw [parse, Json.readText, Json.Raw.parse, Json.parse?_toText known]
  exact eq_ok_of_toOption worked

/-- A listing of two disks under one multipath map, with a third disk between them. -/
def multipathListing : Json :=
  .object [("blockdevices", .array [
    .object [("name", .string "sda"), ("type", .string "disk"), ("ro", .bool false),
      ("children", .array [map])],
    .object [("name", .string "sdb"), ("type", .string "disk"), ("ro", .string "0")],
    .object [("name", .string "sdc"), ("type", .string "disk"), ("ro", .bool false),
      ("children", .array [map])]])]
where
  /-- The map, as it is listed under each of its disks. -/
  map : Json := .object [("name", .string "mpatha"), ("kname", .string "dm-0"),
    ("type", .string "mpath"), ("ro", .integer 0)]

/-- The devices of the listing. -/
def multipathDevices : List BlockDevice :=
  [{ disk "sda" with children := ["dm-0"] }, map, disk "sdb",
   { disk "sdc" with children := ["dm-0"] }, map]
where
  /-- A disk that can be written to. -/
  disk (name : String) : BlockDevice :=
    { BlockDevice.ofKernelName name with
      name := name, deviceType := "disk", readOnly := some false }
  /-- The map over the outer disks. -/
  map : BlockDevice :=
    { BlockDevice.ofKernelName "dm-0" with
      name := "mpatha", deviceType := "mpath", readOnly := some false }

theorem parse_multipathListing : parse multipathListing.toText = .ok multipathDevices :=
  parse_toText (by decide +kernel)

end DeviceListing

/-- A probe that finds a path by kernel name, and every device free. -/
def DeviceProbe.idle : DeviceProbe where
  pathById device := .ok ("/dev/disk/by-id/" ++ device.kernelName)
  canOpenExclusively _ := .ok true
  bindMount _ := .ok none

theorem multipath_reported_once :
    (∃ forest,
      Json.readText DeviceListing.readForest DeviceListing.multipathListing.toText = .ok forest ∧
      ReportsOnce .idle (ListedDevice.candidates forest)
        (discover .idle DeviceListing.multipathDevices)) ∧
    (discover .idle DeviceListing.multipathDevices).map path = ["/dev/dm-0", "/dev/sdb"] :=
  ⟨discover_reports_once (fun first second same => by simp only [DeviceProbe.idle, same])
    DeviceListing.parse_multipathListing, by decide +kernel⟩

end NodeStorage
