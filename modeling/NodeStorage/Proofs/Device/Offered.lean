/-
**A device in use is never offered.**

Whoever is told that a device is available may overwrite it. A record says so only for a device
whose object in the listing's text makes it a candidate, that bears no filesystem and no boot label,
and that the probe could open and did not find mounted. A missing flag, a probe that fails, a later
device in the place of an earlier one: none of them makes a device available.

* `BlockDevice.isIgnored_eq_false_iff` — what makes a device a candidate.
* `BlockDevice.availability_eq_available_iff` — a device is available exactly if it is vacant.
* `offers_only_vacant` — **what is offered is vacant, and what is not vacant is withheld.**
-/

import NodeStorage.Proofs.Device.Duplicates
import NodeStorage.Proofs.Device.Objects
import NodeStorage.Proofs.Device.Reported

namespace NodeStorage

open Json ListedDevice DeviceListing

/-! ### Candidates -/

namespace DeviceType

/-- Whole disks and multipath maps are supported, by these words of the listing. -/
theorem isSupported_ofListing_iff (word : String) :
    (ofListing word).isSupported = true ↔ word = "disk" ∨ word = "mpath" := by
  by_cases disk : word = "disk"
  · subst disk
    decide
  · by_cases map : word = "mpath"
    · subst map
      decide
    · refine iff_of_false ?_ (not_or.mpr ⟨disk, map⟩)
      rw [ofListing, if_neg disk, if_neg map]
      split_ifs <;> decide

end DeviceType

namespace BlockDevice

/-- **What makes a device a candidate.** -/
theorem isIgnored_eq_false_iff (device : BlockDevice) :
    device.isIgnored = false ↔
      device.readOnly = some false ∧ device.children = [] ∧ device.state ≠ suspended ∧
        (device.deviceType = "disk" ∨ device.deviceType = "mpath") := by
  rw [isIgnored, isReadOnly]
  cases device.readOnly with
  | none => simp
  | some flag =>
    cases flag with
    | true => simp
    | false =>
      rw [← DeviceType.isSupported_ofListing_iff]
      simp [and_assoc]

end BlockDevice

/-! ### Availability -/

namespace Text

/-- A part is contained exactly if it stands somewhere inside. -/
theorem containsPart_iff {part whole : List Char} :
    containsPart part whole = true ↔ part <:+: whole := by
  induction whole with
  | nil => rw [containsPart, List.isEmpty_iff, List.infix_nil]
  | cons c rest ih =>
    rw [containsPart, Bool.or_eq_true, List.isPrefixOf_iff_prefix, ih, List.infix_cons_iff]

end Text

namespace BlockDevice

/-- The words of a boot label stand in a text, in any case. -/
def MarksBoot (label : String) : Prop :=
  "bios".toList <:+: (Text.lowercase label).toList ∧
    "boot".toList <:+: (Text.lowercase label).toList

theorem hasBiosBootLabel_iff (device : BlockDevice) :
    device.hasBiosBootLabel = true ↔ MarksBoot device.partitionLabel := by
  rw [hasBiosBootLabel, Bool.and_eq_true, Text.containsPart_iff, Text.containsPart_iff]
  rfl

/-- **The device is in nobody's use**, as far as its columns and the probe tell. -/
structure Vacant (probe : DeviceProbe) (device : BlockDevice) : Prop where
  noFilesystem : device.filesystemType = ""
  noBootLabel : ¬ MarksBoot device.partitionLabel
  opens : probe.canOpenExclusively device = .ok true
  unmounted : probe.bindMount device = .ok none

/-- **A device is available exactly if it is vacant.** -/
theorem availability_eq_available_iff {probe : DeviceProbe} {device : BlockDevice} :
    device.availability probe = .available ↔ device.Vacant probe := by
  constructor
  · intro available
    rw [availability] at available
    split at available
    · cases available
    · rename_i blank
      split at available
      · cases available
      · rename_i unlabelled
        split at available
        · cases available
        · cases available
        · rename_i opens
          split at available
          · cases available
          · cases available
          · rename_i unmounted
            exact ⟨by simpa using blank, fun marked =>
              unlabelled ((hasBiosBootLabel_iff device).mpr marked), opens, unmounted⟩
  · rintro ⟨noFilesystem, noBootLabel, opens, unmounted⟩
    rw [← hasBiosBootLabel_iff] at noBootLabel
    rw [availability, noFilesystem, if_neg (by decide), if_neg noBootLabel, opens, unmounted]

end BlockDevice

/-! ### What is offered -/

/-- **The object's device may be offered**: the object makes it a candidate, and it is vacant. -/
structure Offerable (probe : DeviceProbe) (object : Raw) (device : BlockDevice) : Prop where
  writable : ∃ value, column? "ro" object = some value ∧ DenotesFalse value
  holdsNothing : column? "children" object = none ∨ column? "children" object = some (.array [])
  awake : columnText "state" object ≠ BlockDevice.suspended
  kind : columnText "type" object = "disk" ∨ columnText "type" object = "mpath"
  noFilesystem : columnText "fstype" object = ""
  noBootLabel : ¬ BlockDevice.MarksBoot (columnText "partlabel" object)
  opens : probe.canOpenExclusively device = .ok true
  unmounted : probe.bindMount device = .ok none

theorem offerable_of_vacant {probe : DeviceProbe} {object : Raw} {device : BlockDevice}
    (describes : Describes object device) (candidate : device.isIgnored = false)
    (vacant : device.Vacant probe) : Offerable probe object device := by
  obtain ⟨source, reads, rfl⟩ := describes
  obtain ⟨writable, holdsNothing, awake, kind⟩ :=
    (BlockDevice.isIgnored_eq_false_iff _).mp candidate
  obtain ⟨noFilesystem, noBootLabel, opens, unmounted⟩ := vacant
  rw [reads.texts.state] at awake
  rw [reads.texts.deviceType] at kind
  rw [reads.texts.filesystemType] at noFilesystem
  rw [reads.texts.partitionLabel] at noBootLabel
  exact ⟨reads.readOnly_iff.mp writable, reads.children_iff.mp holdsNothing, awake, kind,
    noFilesystem, noBootLabel, opens, unmounted⟩

/-- **Only vacant devices are offered** of a listing, and its text vouches for each. -/
structure OffersOnlyVacant (probe : DeviceProbe) (document : Raw) (listed : List BlockDevice)
    (records : List DiscoveredDevice) : Prop where
  /-- An available record is that of a device with an object in the text that may be offered. -/
  offered : ∀ record ∈ records, record.state = .available →
    ∃ object device, ObjectIn document object ∧ Describes object device ∧
      record = device.classify probe ∧ Offerable probe object device
  /-- Every listed device has the file system and the label that its object in the text gives. -/
  described : ∀ device ∈ listed, ∃ object, ObjectIn document object ∧ Describes object device ∧
    device.filesystemType = columnText "fstype" object ∧
    device.partitionLabel = columnText "partlabel" object
  /-- The last candidate with its key has a record, and unless it is vacant, that does not offer
  it. -/
  withheld : ∀ earlier device later,
    (listed.filter fun device => !device.isIgnored) = earlier ++ device :: later →
    (∀ other ∈ later, (other.classify probe).key ≠ (device.classify probe).key) →
    ¬ device.Vacant probe →
    device.classify probe ∈ records ∧
      ∀ record ∈ records, record.key = (device.classify probe).key →
        record.state = .notAvailable ∨ record.state = .unknown

theorem mem_discover {probe : DeviceProbe} {listed : List BlockDevice} {record : DiscoveredDevice}
    (member : record ∈ discover probe listed) :
    ∃ device ∈ listed, device.isIgnored = false ∧ record = device.classify probe := by
  rw [discover] at member
  have last := mem_uniqueDevices_iff.mp member
  obtain ⟨device, kept, rfl⟩ := List.mem_map.mp (mem_of_lastWithKey last).1
  obtain ⟨isListed, candidate⟩ := List.mem_filter.mp kept
  exact ⟨device, isListed, by simpa using candidate, rfl⟩

/-- The last candidate with its key has a record, and no other record has the key. -/
theorem discover_of_last {probe : DeviceProbe} {listed earlier later : List BlockDevice}
    {device : BlockDevice}
    (split : (listed.filter fun device => !device.isIgnored) = earlier ++ device :: later)
    (last : ∀ other ∈ later, (other.classify probe).key ≠ (device.classify probe).key) :
    device.classify probe ∈ discover probe listed ∧
      ∀ record ∈ discover probe listed, record.key = (device.classify probe).key →
        record = device.classify probe := by
  have remaining : ∀ other ∈ later.map fun device => device.classify probe,
      other.key ≠ (device.classify probe).key := by
    intro other member
    obtain ⟨behind, isLater, rfl⟩ := List.mem_map.mp member
    exact last behind isLater
  have isLast := lastWithKey_of_split (earlier.map fun device => device.classify probe) remaining
  rw [discover, split, List.map_append, List.map_cons]
  refine ⟨mem_uniqueDevices_iff.mpr isLast, fun record member same => ?_⟩
  have recordLast := mem_uniqueDevices_iff.mp member
  rw [same, isLast] at recordLast
  exact (Option.some.inj recordLast).symm

/-- **A device in use is never offered**, whatever the listing says and whatever the probe
answers. -/
theorem offers_only_vacant {text : String} {listed : List BlockDevice} (probe : DeviceProbe)
    (parsed : DeviceListing.parse text = .ok listed) :
    ∃ document, Raw.parse text = .ok document ∧
      OffersOnlyVacant probe document listed (discover probe listed) := by
  obtain ⟨document, given, describes⟩ := describes_of_parse parsed
  refine ⟨document, given, fun record member available => ?_, fun device member => ?_,
    fun earlier device later split last occupied => ?_⟩
  · obtain ⟨device, isListed, candidate, rfl⟩ := mem_discover member
    obtain ⟨object, there, describes⟩ := describes device isListed
    exact ⟨object, device, there, describes, rfl, offerable_of_vacant describes candidate
      (BlockDevice.availability_eq_available_iff.mp available)⟩
  · obtain ⟨object, there, source, reads, rfl⟩ := describes device member
    exact ⟨object, there, ⟨source, reads, rfl⟩, reads.texts.filesystemType,
      reads.texts.partitionLabel⟩
  · obtain ⟨kept, only⟩ := discover_of_last split last
    refine ⟨kept, fun record member same => ?_⟩
    rw [only record member same]
    have withheld : device.availability probe ≠ .available := fun available =>
      occupied (BlockDevice.availability_eq_available_iff.mp available)
    show device.availability probe = _ ∨ device.availability probe = _
    cases state : device.availability probe with
    | available => exact absurd state withheld
    | notAvailable => exact Or.inl rfl
    | unknown => exact Or.inr rfl

/-- The probe of a host on which the multipath map is held open. -/
def DeviceProbe.mapInUse : DeviceProbe where
  pathById device := .ok ("/dev/disk/by-id/" ++ device.kernelName)
  canOpenExclusively device := .ok (device.kernelName != "dm-0")
  bindMount _ := .ok none

theorem multipath_withheld :
    (∃ document, Raw.parse multipathListing.toText = .ok document ∧
      OffersOnlyVacant .mapInUse document multipathDevices
        (discover .mapInUse multipathDevices)) ∧
    (discover .mapInUse multipathDevices).map DiscoveredDevice.state =
      [.notAvailable, .available] :=
  ⟨offers_only_vacant .mapInUse parse_multipathListing, by decide +kernel⟩

end NodeStorage
