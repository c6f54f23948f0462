/-
**The records of discovery are read back.**

What was found on a node and what is asked of discovery are written as JSON texts. Whatever their
texts contain and whichever of their parts are left out, they are read back as they were
(`discovery_records_kept`), so two lists of devices are never written in one way.
-/

import NodeStorage.Discovery.Resource
import NodeStorage.Json.Loose
import NodeStorage.Proofs.Json.Records

namespace NodeStorage

open Json

/-! ### Devices -/

theorem DeviceType.find?_variants (kind : DeviceType) :
    DeviceType.variants.find? (fun entry => entry.1 == kind.name) = some (kind.name, kind) := by
  cases kind <;> rfl

theorem MechanicalProperty.find?_variants (property : MechanicalProperty) :
    MechanicalProperty.variants.find? (fun entry => entry.1 == property.name) =
      some (property.name, property) := by
  cases property <;> rfl

theorem DeviceState.find?_variants (state : DeviceState) :
    DeviceState.variants.find? (fun entry => entry.1 == state.name) = some (state.name, state) := by
  cases state <;> rfl

namespace DiscoveredDevice

theorem readAs_status (state : DeviceState) :
    ReadAs readStatus (.object [("state", .string state.name)]) state := by
  have written : Json.object [("state", .string state.name)] =
      Json.record [("state", some (.string state.name))] := rfl
  rw [written]
  refine readAs_record (by simp) (by simp [raw?]) fun document given fields found => ?_
  obtain ⟨stated, -⟩ := List.forall_mem_cons.mp found
  exact ok_bind fields (Fields.required_eq_ok stated (readAs_variant state.find?_variants))

/-- **A device is read back** from its JSON form. -/
theorem readAs_toJson (device : DiscoveredDevice) (fits : Text.fitsSigned device.size = true) :
    ReadAs DiscoveredDevice.read device.toJson device := by
  have written : device.toJson =
      Json.record
        [("deviceID", some (.string device.deviceId)), ("path", some (.string device.path)),
         ("model", some (.string device.model)), ("type", some (.string device.deviceType.name)),
         ("vendor", some (.string device.vendor)), ("serial", some (.string device.serial)),
         ("size", some (.integer device.size)),
         ("property", some (.string device.property.name)),
         ("fstype", some (.string device.filesystemType)),
         ("status", some (.object [("state", .string device.state.name)])),
         ("WWN", some (.string device.worldWideName))] := rfl
  rw [written]
  refine readAs_record (by simp) (by simp [raw?, rawFields?]) fun document given fields found => ?_
  simp only [List.forall_mem_cons] at found
  obtain ⟨deviceId, path, model, deviceType, vendor, serial, size, property, filesystemType, status,
    worldWideName, -⟩ := found
  exact ok_bind fields <|
    ok_bind (Fields.withDefault_eq_ok deviceId (readAs_text _)) <|
    ok_bind (Fields.required_eq_ok path (readAs_text _)) <|
    ok_bind (Fields.withDefault_eq_ok model (readAs_text _)) <|
    ok_bind (Fields.required_eq_ok deviceType (readAs_variant (DeviceType.find?_variants _))) <|
    ok_bind (Fields.withDefault_eq_ok vendor (readAs_text _)) <|
    ok_bind (Fields.withDefault_eq_ok serial (readAs_text _)) <|
    ok_bind (Fields.withDefault_eq_ok size (readAs_integer64 fits)) <|
    ok_bind (Fields.required_eq_ok property
      (readAs_variant (MechanicalProperty.find?_variants _))) <|
    ok_bind (Fields.withDefault_eq_ok filesystemType (readAs_text _)) <|
    ok_bind (Fields.required_eq_ok status (readAs_status _)) <|
    ok_bind (Fields.withDefault_eq_ok worldWideName (readAs_text _)) rfl

end DiscoveredDevice

namespace Discovery

/-! ### Selectors -/

section Lists

variable {α : Type} {read : Raw → Reading α} {encode : α → Json} {items : List α}

/-- A list that is left out when it is empty is read as the empty list then. -/
theorem withDefault_unlessEmpty {fields : Fields} {name : String}
    (found : fields.find? name = (unlessEmpty encode items).bind raw?)
    (each : ∀ item ∈ items, ReadAs read (encode item) item) :
    fields.withDefault name (Raw.list read) [] = .ok items := by
  cases items with
  | nil =>
    rw [Fields.withDefault, found]
    rfl
  | cons item rest => exact Fields.withDefault_eq_ok found (readAs_list each)

theorem writable_unlessEmpty (each : ∀ item ∈ items, ReadAs read (encode item) item) :
    ∀ value ∈ unlessEmpty encode items, (raw? value).isSome = true := by
  cases items with
  | nil =>
    intro value written
    cases written
  | cons item rest =>
    rintro _ ⟨⟩
    exact (readAs_list each).writable

end Lists

theorem SelectorOperator.find?_variants (operator : SelectorOperator) :
    SelectorOperator.variants.find? (fun entry => entry.1 == operator.name) =
      some (operator.name, operator) := by
  cases operator <;> rfl

theorem Requirement.readAs_toJson (requirement : Requirement) :
    ReadAs Requirement.read requirement.toJson requirement := by
  have values : ∀ text ∈ requirement.values, ReadAs Raw.text (.string text) text :=
    fun text _ => readAs_text text
  refine readAs_record (by simp) ?_ fun document given fields found => ?_
  · simpa [raw?] using writable_unlessEmpty values
  · simp only [List.forall_mem_cons] at found
    obtain ⟨key, operator, compared, -⟩ := found
    exact ok_bind fields <|
      ok_bind (Fields.required_eq_ok key (readAs_text _)) <|
      ok_bind (Fields.required_eq_ok operator
        (readAs_variant (SelectorOperator.find?_variants _))) <|
      ok_bind (withDefault_unlessEmpty compared values) rfl

theorem SelectorTerm.readAs_toJson (term : SelectorTerm) :
    ReadAs SelectorTerm.read term.toJson term := by
  have each (requirements : List Requirement) : ∀ requirement ∈ requirements,
      ReadAs Requirement.read requirement.toJson requirement :=
    fun requirement _ => requirement.readAs_toJson
  refine readAs_record (by simp) ?_ fun document given fields found => ?_
  · simp only [List.forall_mem_cons]
    exact ⟨writable_unlessEmpty (each _), writable_unlessEmpty (each _), by simp⟩
  · simp only [List.forall_mem_cons] at found
    obtain ⟨onLabels, onFields, -⟩ := found
    exact ok_bind fields <|
      ok_bind (withDefault_unlessEmpty onLabels (each _)) <|
      ok_bind (withDefault_unlessEmpty onFields (each _)) rfl

theorem NodeSelector.readAs_toJson (selector : NodeSelector) :
    ReadAs NodeSelector.read selector.toJson selector := by
  have written : selector.toJson =
      Json.record [("nodeSelectorTerms", some (.array (selector.terms.map SelectorTerm.toJson)))] :=
    rfl
  have terms : ReadAs (Raw.list SelectorTerm.read) (.array (selector.terms.map SelectorTerm.toJson))
      selector.terms := readAs_list fun term _ => term.readAs_toJson
  rw [written]
  refine readAs_record (by simp) (by simpa using terms.writable)
    fun document given fields found => ?_
  obtain ⟨here, -⟩ := List.forall_mem_cons.mp found
  exact ok_bind fields (ok_bind (Fields.withDefault_eq_ok here terms) rfl)

/-- **What is asked of discovery is read back** from its JSON form. -/
theorem DiscoverySpec.readAs_toJson (spec : DiscoverySpec) :
    ReadAs DiscoverySpec.read spec.toJson spec := by
  refine readAs_record (by simp) ?_ fun document given fields found => ?_
  · simp [(NodeSelector.readAs_toJson _).writable]
  · obtain ⟨nodeSelector, -⟩ := List.forall_mem_cons.mp found
    refine ok_bind fields (ok_bind (Fields.optional_eq_ok nodeSelector ?_ ?_) rfl)
    · exact fun selector _ => selector.readAs_toJson
    · exact fun selector null => by cases null

/-! ### Lists of devices -/

/-- The sizes of the devices are 64-bit numbers. -/
def SizesFit (devices : List DiscoveredDevice) : Prop :=
  ∀ device ∈ devices, Text.fitsSigned device.size = true

instance (devices : List DiscoveredDevice) : Decidable (SizesFit devices) :=
  inferInstanceAs (Decidable (∀ device ∈ devices, _))

theorem readAs_devices {devices : List DiscoveredDevice} (fit : SizesFit devices) :
    ReadAs (Raw.list DiscoveredDevice.read) (listOf DiscoveredDevice.toJson devices) devices :=
  readAs_list fun device member => device.readAs_toJson (fit device member)

/-- The fields of what was found on a node, as they are written. -/
def ResultStatus.written (status : ResultStatus) : List (String × Option Json) :=
  [("discoveredDevices", some (listOf DiscoveredDevice.toJson status.devices)),
   ("discoveredTimeStamp", status.writtenAt.map .string)]

/-- A document that gives what was written is read as what was found. -/
theorem ResultStatus.read_of_found {status : ResultStatus} (fit : SizesFit status.devices)
    {document : Raw} {given : Fields}
    (fields : document.fields (status.written.map Prod.fst) = .ok given)
    (found : ∀ field ∈ status.written, given.find? field.1 = field.2.bind raw?) :
    ResultStatus.read document = .ok status := by
  simp only [written, List.forall_mem_cons] at found
  obtain ⟨devices, writtenAt, -⟩ := found
  exact ok_bind fields <|
    ok_bind (Fields.withDefault_eq_ok devices (readAs_devices fit)) <|
    ok_bind (Fields.optional_text writtenAt) rfl

/-- **What was found on a node is read back** from its JSON form. -/
theorem ResultStatus.readAs_toJson (status : ResultStatus) (fit : SizesFit status.devices) :
    ReadAs ResultStatus.read status.toJson status := by
  have written : status.toJson = Json.record status.written := rfl
  rw [written]
  refine readAs_record (by simp [ResultStatus.written]) ?_ fun document given => read_of_found fit
  simpa [ResultStatus.written, raw?] using (readAs_devices fit).writable

end Discovery

open Discovery

/-- What is read back is what was written, so different values have different texts. -/
theorem toText_ne_of_readAs {α : Type} {read : Raw → Reading α} {first second : Json}
    {result other : α} (means : ReadAs read first result) (differs : ReadAs read second other)
    (ne : result ≠ other) : first.toText ≠ second.toText := by
  intro same
  apply ne
  have read := means.readText
  rw [same, differs.readText] at read
  exact (Except.ok.inj read).symm

/-- **The records of discovery are kept by their texts.** What was found on a node and what is asked
of discovery are read back as they were written. Different lists of devices have different texts, on
their own and as what was found on a node, whenever it was written. -/
theorem discovery_records_kept (status other : ResultStatus) (fit : SizesFit status.devices)
    (fits : SizesFit other.devices) (spec : DiscoverySpec) :
    readText ResultStatus.read status.toJson.toText = .ok status ∧
      readText DiscoverySpec.read spec.toJson.toText = .ok spec ∧
      (status.devices ≠ other.devices →
        status.toJson.toText ≠ other.toJson.toText ∧
        (listOf DiscoveredDevice.toJson status.devices).toText ≠
          (listOf DiscoveredDevice.toJson other.devices).toText) := by
  refine ⟨(status.readAs_toJson fit).readText, spec.readAs_toJson.readText, fun differ => ⟨?_, ?_⟩⟩
  · exact toText_ne_of_readAs (status.readAs_toJson fit) (other.readAs_toJson fits)
      fun same => differ (congrArg ResultStatus.devices same)
  · exact toText_ne_of_readAs (readAs_devices fit) (readAs_devices fits) differ

/-- A device of an unknown kind whose texts hold quotes, controls and letters beyond ASCII. -/
def oddDevice : DiscoveredDevice where
  deviceId := ""
  path := "/dev/\"sd\\a\n"
  model := "Größe \x00"
  deviceType := .unknown
  vendor := "供應商"
  serial := "\t"
  size := -9223372036854775808
  property := .unknown
  filesystemType := ""
  state := .notAvailable
  worldWideName := "𝔻"

/-- An odd device and a selector with empty lists are kept, and the device makes a difference. -/
theorem oddDevice_kept :
    SizesFit [oddDevice] ∧ SizesFit [] ∧
      readText ResultStatus.read (ResultStatus.toJson ⟨[oddDevice], none⟩).toText =
        .ok ⟨[oddDevice], none⟩ ∧
      (ResultStatus.toJson ⟨[oddDevice], none⟩).toText ≠
        (ResultStatus.toJson ⟨[], some ""⟩).toText :=
  have fit : SizesFit [oddDevice] := by decide
  have fits : SizesFit [] := by decide
  have kept := discovery_records_kept ⟨[oddDevice], none⟩ ⟨[], some ""⟩ fit fits
    ⟨some ⟨[⟨[⟨"zone", .isIn, []⟩], []⟩]⟩⟩
  ⟨fit, fits, kept.1, (kept.2.2 (by simp)).1⟩

end NodeStorage
