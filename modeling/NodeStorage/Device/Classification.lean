/-
**From listed devices to discovered ones.**

A device is a candidate when it can be written to, holds no other device, is not suspended and is a
disk or a multipath map. What a candidate may be used for is found out by checks in a fixed order,
from the cheapest to the most expensive; the first one that speaks against the device decides, and
one that fails leaves the device unknown.

A multipath map is listed under every disk it runs over, so a listing names it more than once:
`uniqueDevices` keeps one record for each device, at its first place, with its last contents.
-/

import NodeStorage.Device.Block
import NodeStorage.Device.Discovered

namespace NodeStorage

/-- What the host says about a device. -/
structure DeviceProbe where
  /-- The persistent path of the device. -/
  pathById : BlockDevice → Outcome String
  /-- Nobody else holds the device open. -/
  canOpenExclusively : BlockDevice → Outcome Bool
  /-- Where the device is bind-mounted. -/
  bindMount : BlockDevice → Outcome (Option String)

namespace BlockDevice

/-- The device is no candidate for discovery. -/
def isIgnored (device : BlockDevice) : Bool :=
  match device.isReadOnly with
  | .ok false =>
    !device.children.isEmpty || device.state == suspended ||
      !(DeviceType.ofListing device.deviceType).isSupported
  | _ => true

/-- Whether the device may be used, as far as the probe can tell. -/
def availability (probe : DeviceProbe) (device : BlockDevice) : DeviceState :=
  if !device.filesystemType.isEmpty then .notAvailable
  else if device.hasBiosBootLabel then .notAvailable
  else
    match probe.canOpenExclusively device with
    | .ok false => .notAvailable
    | .error _ => .unknown
    | .ok true =>
      match probe.bindMount device with
      | .ok (some _) => .notAvailable
      | .error _ => .unknown
      | .ok none => .available

/-- An outcome, with an empty text in place of an error. -/
def textOrEmpty (outcome : Outcome String) : String :=
  match outcome with
  | .ok text => text
  | .error _ => ""

/-- The record of one device. -/
def classify (probe : DeviceProbe) (device : BlockDevice) : DiscoveredDevice where
  deviceId := textOrEmpty (probe.pathById device)
  path := textOrEmpty device.nodePath
  model := device.model
  deviceType := .ofListing device.deviceType
  vendor := device.vendor
  serial := device.serial
  size := device.size
  property := .ofFlag device.rotational
  filesystemType := device.filesystemType
  state := device.availability probe
  worldWideName := device.worldWideName

end BlockDevice

/-- The records with one more: in the place of the record of the same device, or at the end. -/
def putDevice (device : DiscoveredDevice) : List DiscoveredDevice → List DiscoveredDevice
  | [] => [device]
  | other :: rest =>
    if other.key = device.key then device :: rest else other :: putDevice device rest

/-- One record for each device: at its first place, with its last contents. -/
def uniqueDevices (devices : List DiscoveredDevice) : List DiscoveredDevice :=
  devices.foldl (fun kept device => putDevice device kept) []

/-- The records of a listing. -/
def discover (probe : DeviceProbe) (devices : List BlockDevice) : List DiscoveredDevice :=
  uniqueDevices ((devices.filter fun device => !device.isIgnored).map fun device =>
    device.classify probe)

end NodeStorage
