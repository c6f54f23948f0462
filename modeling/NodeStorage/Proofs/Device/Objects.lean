/-
**The device objects of a listing.**

A listing is a document in which device objects stand inside one another. Here a device that was
read is traced back to its object, at whatever depth that stands, and what the device says of itself
to what the object gives for its columns.

* `ListedDevice.ObjectIn` — the device objects of a document.
* `ListedDevice.Reads` — the object is read as the device; then the device's texts are the trimmed
  ones of the object (`Reads.texts`), a device is writable exactly if its object says so
  (`Reads.readOnly_iff`), and holds nothing exactly if its object has no objects inside
  (`Reads.children_iff`).
* `DeviceListing.describes_of_parse` — **every device of a listing is described by one of the
  objects in its text.**
-/

import NodeStorage.Proofs.Device.Forest
import NodeStorage.Proofs.Json.Members

namespace NodeStorage

open Json

/-! ### Fields of records -/

/-- What a document gives for a field of a record that has fields of these names. -/
def Json.Raw.field? (names : List String) (name : String) (document : Raw) : Option Raw :=
  match document.fields names with
  | .ok fields => fields.find? name
  | .error _ => none

theorem Json.Raw.field?_of_fields {names : List String} {document : Raw} {fields : Fields}
    (read : document.fields names = .ok fields) (name : String) :
    document.field? names name = fields.find? name := by
  rw [Raw.field?, read]

/-- The trimmed text that is given, and an empty one for anything else. -/
def trimmedText : Option Raw → String
  | some (.string (some text)) => Text.trim text
  | _ => ""

/-- **A column of text holds the trimmed text that is given.** -/
theorem textOf_of_optional {fields : Fields} {name : String} {column : Option String}
    (worked : fields.optional name Raw.text = .ok column) :
    ListedColumns.textOf column = trimmedText (fields.find? name) := by
  rcases Fields.optional_cases worked with ⟨none | null, rfl⟩ | ⟨document, text, given, read, rfl⟩
  · rw [none]
    rfl
  · rw [null]
    rfl
  · rw [given]
    cases document with
    | null | bool | number | array | object => cases read
    | string content =>
      cases content with
      | none => cases read
      | some text =>
        cases read
        rfl

/-- The value says no: the truth value, zero, or a text of one of these. -/
inductive DenotesFalse : Raw → Prop
  | boolean : DenotesFalse (.bool false)
  | zero {numeral : Numeral} : numeral.value? = some (.integer 0) → DenotesFalse (.number numeral)
  | word {text : String} : Text.trim text = "0" ∨ Text.trim text = "false" →
      DenotesFalse (.string (some text))

/-- A whole number says no exactly if it is zero. -/
theorem flag_integer (value : Int) :
    ListedColumns.flag (some (.integer value)) = some false ↔ value = 0 := by
  rw [ListedColumns.flag]
  by_cases zero : value = 0
  · rw [if_pos zero]
    exact iff_of_true rfl zero
  · rw [if_neg zero]
    refine iff_of_false ?_ zero
    split <;> simp

/-- A text says no exactly if it is one of two words, blanks around it set aside. -/
theorem flag_string (text : String) :
    ListedColumns.flag (some (.string text)) = some false ↔
      Text.trim text = "0" ∨ Text.trim text = "false" := by
  rw [ListedColumns.flag]
  by_cases no : Text.trim text = "0" ∨ Text.trim text = "false"
  · rw [if_pos no]
    exact iff_of_true rfl no
  · rw [if_neg no]
    refine iff_of_false ?_ no
    split <;> simp

/-- **A value is a flag that says no exactly if the document does.** -/
theorem flag_of_value {depth : Nat} {document : Raw} {value : Json}
    (read : Raw.valueWithin depth document = .ok value) :
    ListedColumns.flag (some value) = some false ↔ DenotesFalse document := by
  cases document with
  | null =>
    cases read
    exact iff_of_false (by simp [ListedColumns.flag]) fun no => by cases no
  | bool truth =>
    cases read
    cases truth with
    | false => exact iff_of_true rfl .boolean
    | true => exact iff_of_false (by simp [ListedColumns.flag]) fun no => by cases no
  | number numeral =>
    have only : DenotesFalse (.number numeral) ↔ numeral.value? = some (.integer 0) :=
      ⟨fun no => by cases no; assumption, .zero⟩
    rw [only]
    rw [Raw.valueWithin] at read
    cases worth : numeral.value? with
    | none =>
      rw [worth] at read
      cases read
    | some number =>
      rw [worth] at read
      cases number with
      | decimal decimal =>
        cases read
        simp [ListedColumns.flag]
      | integer whole =>
        cases read
        rw [flag_integer]
        simp
  | string content =>
    cases content with
    | none => cases read
    | some text =>
      cases read
      rw [flag_string]
      exact ⟨.word, fun no => by cases no; assumption⟩
  | array items =>
    refine iff_of_false ?_ fun no => by cases no
    cases depth with
    | zero => cases read
    | succ inner =>
      obtain ⟨values, -, rfl⟩ := map_eq_ok read
      simp [ListedColumns.flag]
  | object fields =>
    refine iff_of_false ?_ fun no => by cases no
    cases depth with
    | zero => cases read
    | succ inner =>
      obtain ⟨pairs, -, rfl⟩ := map_eq_ok read
      simp [ListedColumns.flag]

/-- A column of flags says no exactly if a value is given that does; one that is missing, null or
unreadable does not. -/
theorem flag_of_optional {fields : Fields} {name : String} {depth : Nat} {column : Option Json}
    (worked : fields.optional name (Raw.valueWithin depth) = .ok column) :
    ListedColumns.flag column = some false ↔
      ∃ value, fields.find? name = some value ∧ DenotesFalse value := by
  rcases Fields.optional_cases worked with ⟨none | null, rfl⟩ | ⟨document, value, given, read, rfl⟩
  · rw [none]
    simp [ListedColumns.flag]
  · rw [null]
    refine iff_of_false (by simp [ListedColumns.flag]) ?_
    rintro ⟨value, ⟨rfl⟩, no⟩
    cases no
  · rw [given, flag_of_value read]
    simp

namespace ListedDevice

/-! ### Device objects -/

/-- What a device object gives for a column. -/
def column? (name : String) (object : Raw) : Option Raw :=
  object.field? columnNames name

/-- The trimmed text that a device object gives for a column. -/
def columnText (name : String) (object : Raw) : String :=
  trimmedText (column? name object)

/-- **The device objects of a listing**, at whatever depth they stand. -/
inductive ObjectIn (document : Raw) : Raw → Prop
  | top {items : List Raw} {object : Raw} :
      document.field? ["blockdevices"] "blockdevices" = some (.array items) → object ∈ items →
      ObjectIn document object
  | nested {parent object : Raw} {items : List Raw} :
      ObjectIn document parent → column? "children" parent = some (.array items) →
      object ∈ items → ObjectIn document object

/-- The object is read as the device. -/
def Reads (object : Raw) (device : ListedDevice) : Prop :=
  ∃ depth, ListedDevice.read depth object = .ok device

/-- What is read of a device's columns. -/
structure ReadsColumns (fields : Fields) (columns : ListedColumns) : Prop where
  name : fields.required "name" Raw.text = .ok columns.name
  kernelName : fields.optional "kname" Raw.text = .ok columns.kernelName
  deviceType : fields.optional "type" Raw.text = .ok columns.deviceType
  state : fields.optional "state" Raw.text = .ok columns.state
  partitionLabel : fields.optional "partlabel" Raw.text = .ok columns.partitionLabel
  filesystemType : fields.optional "fstype" Raw.text = .ok columns.filesystemType
  readOnly : ∃ depth, fields.optional "ro" (Raw.valueWithin depth) = .ok columns.readOnly

theorem readsColumns_of_readColumns {depth : Nat} {fields : Fields} {columns : ListedColumns}
    (worked : readColumns depth fields = .ok columns) : ReadsColumns fields columns := by
  obtain ⟨name, isName, worked⟩ := bind_eq_ok worked
  obtain ⟨kernelName, isKernelName, worked⟩ := bind_eq_ok worked
  obtain ⟨deviceType, isDeviceType, worked⟩ := bind_eq_ok worked
  obtain ⟨size, -, worked⟩ := bind_eq_ok worked
  obtain ⟨model, -, worked⟩ := bind_eq_ok worked
  obtain ⟨vendor, -, worked⟩ := bind_eq_ok worked
  obtain ⟨serial, -, worked⟩ := bind_eq_ok worked
  obtain ⟨state, isState, worked⟩ := bind_eq_ok worked
  obtain ⟨partitionLabel, isPartitionLabel, worked⟩ := bind_eq_ok worked
  obtain ⟨filesystemType, isFilesystemType, worked⟩ := bind_eq_ok worked
  obtain ⟨worldWideName, -, worked⟩ := bind_eq_ok worked
  obtain ⟨rotational, -, worked⟩ := bind_eq_ok worked
  obtain ⟨readOnly, isReadOnly, worked⟩ := bind_eq_ok worked
  obtain ⟨removable, -, worked⟩ := bind_eq_ok worked
  cases worked
  exact ⟨isName, isKernelName, isDeviceType, isState, isPartitionLabel, isFilesystemType, depth,
    isReadOnly⟩

/-- The texts of a device by which it is told whether it is in use. -/
structure TextsOf (object : Raw) (device : BlockDevice) : Prop where
  deviceType : device.deviceType = columnText "type" object
  state : device.state = columnText "state" object
  partitionLabel : device.partitionLabel = columnText "partlabel" object
  filesystemType : device.filesystemType = columnText "fstype" object

/-- **A device is read from its columns and from the objects inside.** -/
theorem Reads.parts {object : Raw} {device : ListedDevice} (reads : Reads object device) :
    ∃ fields, object.fields columnNames = .ok fields ∧ ReadsColumns fields device.columns ∧
      ((fields.find? "children" = none ∧ device.children = []) ∨
        ∃ items, fields.find? "children" = some (.array items) ∧
          List.Forall₂ Reads items device.children) := by
  obtain ⟨depth, worked⟩ := reads
  cases depth with
  | zero => cases worked
  | succ depth =>
    -- The depth only bounds the reading: the objects inside are read with one less, and still read.
    rw [ListedDevice.read] at worked
    obtain ⟨fields, given, worked⟩ := bind_eq_ok worked
    obtain ⟨columns, read, worked⟩ := bind_eq_ok worked
    have columnsRead := readsColumns_of_readColumns read
    dsimp only at worked
    split at worked
    · rename_i none
      cases worked
      exact ⟨fields, given, columnsRead, Or.inl ⟨none, rfl⟩⟩
    · rename_i items inside
      split at worked
      · cases worked
      · obtain ⟨children, nested, worked⟩ := bind_eq_ok worked
        cases worked
        exact ⟨fields, given, columnsRead, Or.inr ⟨items, inside,
          (forall₂_of_mapM nested).imp fun _ _ read => ⟨_, read⟩⟩⟩
    · cases worked

namespace Reads

variable {object : Raw} {device : ListedDevice} (reads : Reads object device)

include reads

theorem column?_eq : ∃ fields, (∀ name, column? name object = fields.find? name) ∧
    ReadsColumns fields device.columns := by
  obtain ⟨fields, given, columns, -⟩ := reads.parts
  exact ⟨fields, Raw.field?_of_fields given, columns⟩

/-- **The texts of a device are the trimmed ones of its object.** -/
theorem texts : TextsOf object device.toBlockDevice := by
  obtain ⟨fields, given, columns⟩ := reads.column?_eq
  have text {name : String} {column : Option String}
      (read : fields.optional name Raw.text = .ok column) :
      ListedColumns.textOf column = columnText name object := by
    rw [columnText, given]
    exact textOf_of_optional read
  exact ⟨text columns.deviceType, text columns.state, text columns.partitionLabel,
    text columns.filesystemType⟩

/-- **A device can be written to exactly if its object says that it is not read-only.** -/
theorem readOnly_iff : device.toBlockDevice.readOnly = some false ↔
    ∃ value, column? "ro" object = some value ∧ DenotesFalse value := by
  obtain ⟨fields, given, columns⟩ := reads.column?_eq
  obtain ⟨depth, read⟩ := columns.readOnly
  rw [given]
  exact flag_of_optional read

/-- **A device holds nothing exactly if there are no objects inside its own.** -/
theorem children_iff : device.toBlockDevice.children = [] ↔
    column? "children" object = none ∨ column? "children" object = some (.array []) := by
  obtain ⟨fields, given, -, nested⟩ := reads.parts
  show device.children.map _ = [] ↔ _
  rw [column?, Raw.field?_of_fields given, List.map_eq_nil_iff]
  rcases nested with ⟨none, empty⟩ | ⟨items, inside, each⟩
  · exact iff_of_true empty (Or.inl none)
  · rw [inside]
    generalize device.children = children at each ⊢
    cases each with
    | nil => exact iff_of_true rfl (Or.inr rfl)
    | cons => exact iff_of_false (List.cons_ne_nil _ _) (by simp)

/-- A nested device is read from an object inside. -/
theorem nested {document : Raw} (there : ObjectIn document object) :
    ∀ child ∈ device.children, ∃ inner, ObjectIn document inner ∧ Reads inner child := by
  obtain ⟨fields, given, -, nested⟩ := reads.parts
  rcases nested with ⟨-, empty⟩ | ⟨items, inside, each⟩
  · rw [empty]
    exact fun child member => by cases member
  · rw [← Raw.field?_of_fields given] at inside
    intro child member
    obtain ⟨item, isItem, read⟩ := exists_mem_of_forall₂ each member
    exact ⟨item, .nested there inside isItem, read⟩

end Reads

/-- The device is read from an object of the document. -/
def ReadFrom (document : Raw) (device : ListedDevice) : Prop :=
  ∃ object, ObjectIn document object ∧ Reads object device

theorem ReadFrom.children {document : Raw} {device : ListedDevice}
    (readFrom : ReadFrom document device) :
    ∀ child ∈ device.children, ReadFrom document child := by
  obtain ⟨object, there, reads⟩ := readFrom
  exact reads.nested there

mutual

/-- **All devices of a tree are read from objects of the document** when the first of them is. -/
theorem ReadFrom.preorder {document : Raw} : (device : ListedDevice) →
    ReadFrom document device → ∀ other ∈ preorder device, ReadFrom document other
  | .node columns children, readFrom, other, member => by
    rw [ListedDevice.preorder] at member
    rcases List.mem_cons.mp member with rfl | member
    · exact readFrom
    · exact ReadFrom.preorderAll children readFrom.children other member

theorem ReadFrom.preorderAll {document : Raw} : (forest : List ListedDevice) →
    (∀ device ∈ forest, ReadFrom document device) →
    ∀ other ∈ preorderAll forest, ReadFrom document other
  | [], _, _, member => by cases member
  | device :: rest, each, other, member => by
    rw [ListedDevice.preorderAll] at member
    obtain ⟨first, later⟩ := List.forall_mem_cons.mp each
    rcases List.mem_append.mp member with member | member
    · exact ReadFrom.preorder device first other member
    · exact ReadFrom.preorderAll rest later other member

end

end ListedDevice

namespace DeviceListing

open ListedDevice

theorem readFrom_of_readForest {document : Raw} {forest : List ListedDevice}
    (read : readForest document = .ok forest) :
    ∀ device ∈ forest, ReadFrom document device := by
  obtain ⟨fields, given, read⟩ := bind_eq_ok read
  have inside := Raw.field?_of_fields given "blockdevices"
  rw [Fields.withDefault] at read
  split at read
  · rename_i listed found
    rw [found] at inside
    cases listed with
    | null | bool | number | string | object => cases read
    | array items =>
      intro device member
      obtain ⟨item, isItem, readItem⟩ := mem_of_mapM read member
      exact ⟨item, .top inside isItem, _, readItem⟩
  · cases read
    exact fun device member => by cases member

/-- The device is read from the object. -/
def Describes (object : Raw) (device : BlockDevice) : Prop :=
  ∃ node, Reads object node ∧ node.toBlockDevice = device

/-- **Every device of a listing is described by an object in its text.** -/
theorem describes_of_parse {text : String} {listed : List BlockDevice}
    (parsed : DeviceListing.parse text = .ok listed) :
    ∃ document, Raw.parse text = .ok document ∧
      ∀ device ∈ listed, ∃ object, ObjectIn document object ∧ Describes object device := by
  obtain ⟨forest, read, rfl⟩ := forest_of_parse parsed
  obtain ⟨document, given, read⟩ := bind_eq_ok read
  refine ⟨document, given, fun device member => ?_⟩
  rw [flattenAll_eq_map] at member
  obtain ⟨source, inForest, rfl⟩ := List.mem_map.mp member
  obtain ⟨object, there, reads⟩ :=
    ReadFrom.preorderAll forest (readFrom_of_readForest read) source inForest
  exact ⟨object, there, source, reads, rfl⟩

end DeviceListing

end NodeStorage
