/-
**Listings of one forest are read as one list.**

The listing tool writes a device in more than one way. Older releases quote flags and sizes, newer
ones print them as numbers and truth values, blanks may stand around a text, and a column without a
value is null or left out. What a listing says of a forest of devices is kept apart here from how it
says so:

* `DeviceFacts`, `DeviceTree` — what is said of a device and of those nested under it, and
  `DeviceTree.devices` — the devices in pre-order.
* `WritesInteger`, `WritesFlag`, `WritesText`, `Writes` — the ways in which a column is written;
  `writesInteger_number` — any number of up to 250 digits may be written as a number.
* `DeviceTree.Renders` — a document says what is to be said of a tree.
* `readsTree_of_renders` — a tree is read from its document if values may be nested as deep as it
  is, and is nested too deeply else.
* `dialects_agree` — **any two listings of a forest are parsed alike.**
-/

import NodeStorage.Proofs.Decimal.Range
import NodeStorage.Proofs.Device.Reported
import NodeStorage.Proofs.Json.Members
import NodeStorage.Proofs.Json.Records
import NodeStorage.Proofs.Text.Trim

namespace NodeStorage

open Json

/-! ### What is said of a device -/

/-- The columns of text in which blanks on either end count for nothing. -/
inductive TextColumn where
  | deviceType | model | vendor | serial | state | partitionLabel | filesystemType | worldWideName

/-- The written name of a column of text. -/
def TextColumn.key : TextColumn → String
  | .deviceType => "type"
  | .model => "model"
  | .vendor => "vendor"
  | .serial => "serial"
  | .state => "state"
  | .partitionLabel => "partlabel"
  | .filesystemType => "fstype"
  | .worldWideName => "wwn"

/-- The columns of flags. -/
inductive FlagColumn where
  | rotational | readOnly | removable

/-- The written name of a column of flags. -/
def FlagColumn.key : FlagColumn → String
  | .rotational => "rota"
  | .readOnly => "ro"
  | .removable => "rm"

/-- What a listing says of a device; a flag may be any whole number. -/
structure DeviceFacts where
  name : String
  kernelName : Option String
  size : Option Int
  text : TextColumn → Option String
  flag : FlagColumn → Option Int

/-- The meaning of a number as a flag. -/
def flagMeaning (value : Int) : Option Bool :=
  if value = 0 then some false else if value = 1 then some true else none

/-- The meaning of a number as a size: zero if it is no signed 64-bit number. -/
def sizeMeaning (value : Int) : Int :=
  if Text.fitsSigned value then value else 0

namespace DeviceFacts

def knownAs (facts : DeviceFacts) : String :=
  facts.kernelName.getD facts.name

def trimmed (facts : DeviceFacts) (column : TextColumn) : String :=
  ((facts.text column).map Text.trim).getD ""

def meaning (facts : DeviceFacts) (column : FlagColumn) : Option Bool :=
  (facts.flag column).bind flagMeaning

/-- The device of which this is said, with the names of those nested under it. -/
def toBlockDevice (facts : DeviceFacts) (children : List String) : BlockDevice where
  name := facts.name
  kernelName := facts.knownAs
  deviceType := facts.trimmed .deviceType
  model := facts.trimmed .model
  vendor := facts.trimmed .vendor
  serial := facts.trimmed .serial
  size := (facts.size.map sizeMeaning).getD 0
  rotational := facts.meaning .rotational
  readOnly := facts.meaning .readOnly
  removable := facts.meaning .removable
  state := facts.trimmed .state
  partitionLabel := facts.trimmed .partitionLabel
  filesystemType := facts.trimmed .filesystemType
  worldWideName := facts.trimmed .worldWideName
  children := children

end DeviceFacts

/-- What a listing says of a device and of those nested under it. A device can be listed without a
list of nested devices, or with one that may be empty. -/
inductive DeviceTree where
  | leaf (facts : DeviceFacts)
  | parent (facts : DeviceFacts) (children : List DeviceTree)

namespace DeviceTree

def facts : DeviceTree → DeviceFacts
  | .leaf facts | .parent facts _ => facts

mutual

/-- The devices of a tree, parents first. -/
def devices : DeviceTree → List BlockDevice
  | .leaf facts => [facts.toBlockDevice []]
  | .parent facts children =>
    facts.toBlockDevice (children.map fun child => child.facts.knownAs) :: devicesAll children

/-- The devices of a forest, parents first. -/
def devicesAll : List DeviceTree → List BlockDevice
  | [] => []
  | tree :: rest => devices tree ++ devicesAll rest

end

mutual

/-- How deep arrays and objects are nested where a tree is written. -/
def depth : DeviceTree → Nat
  | .leaf _ => 1
  | .parent _ children => depthAll children + 2

/-- How deep they are nested where any tree of a forest is written. -/
def depthAll : List DeviceTree → Nat
  | [] => 0
  | tree :: rest => max (depth tree) (depthAll rest)

end

end DeviceTree

/-! ### How it is written -/

section Columns

/-- The text with blanks around it. -/
inductive WritesText (text : String) : Raw → Prop
  | padded {before after : String} : Text.isBlank before = true → Text.isBlank after = true →
      WritesText text (.string (some (before ++ text ++ after)))

/-- A number, unless it is beyond all doubles, or a text of its digits. -/
inductive WritesInteger (value : Int) : Raw → Prop
  | number : (Numeral.ofInt value).value? ≠ none → WritesInteger value (.number (.ofInt value))
  | digits {document : Raw} : WritesText (toString value) document → WritesInteger value document

/-- A number of a length that a listing can be expected to have is written as one. -/
theorem writesInteger_number {value : Int} (few : (Nat.toDigits 10 value.natAbs).length ≤ 250) :
    WritesInteger value (.number (.ofInt value)) :=
  .number (Numeral.value?_ofInt_ne_none few)

/-- A number, or a truth value or its name for one of two numbers. -/
inductive WritesFlag : Int → Raw → Prop
  | integer {value : Int} {document : Raw} : WritesInteger value document →
      WritesFlag value document
  | no : WritesFlag 0 (.bool false)
  | yes : WritesFlag 1 (.bool true)
  | noWord {document : Raw} : WritesText "false" document → WritesFlag 0 document
  | yesWord {document : Raw} : WritesText "true" document → WritesFlag 1 document

/-- A column that is left out or null without a value, and written with one. -/
inductive Writes {α : Type} (writes : α → Raw → Prop) : Option α → Option Raw → Prop
  | leftOut : Writes writes none none
  | null : Writes writes none (some .null)
  | given {value : α} {document : Raw} : writes value document →
      Writes writes (some value) (some document)

end Columns

/-- The members of an object say what is to be said of a device, in any order and among others. -/
structure DeviceFacts.Renders (facts : DeviceFacts) (members : List Member) : Prop where
  isRecord : IsRecord ListedDevice.columnNames members
  name : under? (some "name") members = some (.string (some facts.name))
  kernelName : Writes (fun name document => document = .string (some name)) facts.kernelName
    (under? (some "kname") members)
  size : Writes WritesInteger facts.size (under? (some "size") members)
  text : ∀ column, Writes WritesText (facts.text column) (under? (some column.key) members)
  flag : ∀ column, Writes WritesFlag (facts.flag column) (under? (some column.key) members)

/-- The document says what is to be said of a tree. -/
inductive DeviceTree.Renders : DeviceTree → Raw → Prop
  | leaf {facts : DeviceFacts} {members : List Member} : facts.Renders members →
      under? (some "children") members = none → Renders (.leaf facts) (.object members)
  | parent {facts : DeviceFacts} {children : List DeviceTree} {members : List Member}
      {items : List Raw} : facts.Renders members →
      under? (some "children") members = some (.array items) →
      List.Forall₂ Renders children items → Renders (.parent facts children) (.object members)

/-- The text is a listing of the forest. -/
inductive DeviceListing.Lists (forest : List DeviceTree) (text : String) : Prop
  | listing {members : List Member} {items : List Raw} :
      Raw.parse? text = some (.object members) → IsRecord ["blockdevices"] members →
      under? (some "blockdevices") members = some (.array items) →
      List.Forall₂ DeviceTree.Renders forest items → Lists forest text

/-! ### How it is read -/

/-! #### Numbers in texts -/

theorem trim_toString (value : Int) : Text.trim (toString value) = toString value := by
  have solid : ∀ c ∈ (toString value).toList, Text.isWhiteSpace c = false := by
    intro c member
    rw [toList_toString] at member
    rcases List.mem_append.mp member with sign | digit
    · split at sign
      · cases List.mem_singleton.mp sign
        rfl
      · cases sign
    · exact Text.isWhiteSpace_of_isDigit (Text.isDigit_of_mem_toDigits c digit)
  have bare : Text.Bare (toString value).toList :=
    ⟨fun c first => solid c (List.mem_of_mem_head? first),
      fun c last => solid c (List.mem_of_mem_getLast? last)⟩
  have kept := Text.trim_eq_self bare
  rwa [String.ofList_toList] at kept

theorem toString_eq_iff {value other : Int} (fits : Text.fitsSigned other = true) :
    toString value = toString other ↔ value = other := by
  refine ⟨fun same => ?_, fun same => same ▸ rfl⟩
  have read := signed?_toString value
  rw [same, signed?_toString, if_pos fits] at read
  split at read
  · exact (Option.some.inj read).symm
  · cases read

theorem toString_ne_word {value : Int} {word : String} {c : Char} {rest : List Char}
    (begins : word.toList = c :: rest) (notSign : c ≠ '-') (notDigit : c.isDigit = false) :
    toString value ≠ word := by
  rintro rfl
  obtain ⟨first, others, same, sign | digit⟩ := toString_eq_cons value
  · cases same.symm.trans begins
    exact notSign sign
  · cases same.symm.trans begins
    rw [digit] at notDigit
    cases notDigit

/-- **The digits of a number mean as a flag what the number means.** -/
theorem flag_of_digits {text : String} {value : Int} (digits : Text.trim text = toString value) :
    ListedColumns.flag (some (.string text)) = flagMeaning value := by
  have isZero : toString value = toString (0 : Int) ↔ value = 0 := toString_eq_iff rfl
  have isOne : toString value = toString (1 : Int) ↔ value = 1 := toString_eq_iff rfl
  have zero : toString value = "0" ∨ toString value = "false" ↔ value = 0 :=
    (or_iff_left (toString_ne_word rfl (by decide) rfl)).trans isZero
  have one : toString value = "1" ∨ toString value = "true" ↔ value = 1 :=
    (or_iff_left (toString_ne_word rfl (by decide) rfl)).trans isOne
  simp only [ListedColumns.flag, digits, zero, one, flagMeaning]

theorem size_of_digits {text : String} {value : Int} (digits : Text.trim text = toString value) :
    ListedColumns.sizeOf (some (.string text)) = sizeMeaning value := by
  rw [ListedColumns.sizeOf, digits, signed?_toString, sizeMeaning]
  split <;> rfl

/-! #### Columns -/

section Columns

/-- What is read of a column in each of the ways in which it may be written. -/
theorem optional_of_writes {α β γ : Type} {writes : α → Raw → Prop} {read : Raw → Reading β}
    (meaning : Option β → γ) (means : Option α → γ) (absent : meaning none = means none)
    (given : ∀ value document, writes value document →
      document ≠ .null ∧ ∃ result, read document = .ok result ∧
        meaning (some result) = means (some value))
    {value : Option α} {written : Option Raw} (column : Writes writes value written) :
    ∃ result, Raw.optional read (written.getD .null) = .ok result ∧
      meaning result = means value := by
  cases column with
  | leftOut | null => exact ⟨none, rfl, absent⟩
  | @given value document isWritten =>
    obtain ⟨present, result, isResult, same⟩ := given value document isWritten
    refine ⟨some result, ?_, same⟩
    rw [Option.getD_some, Raw.optional_of_ne_null present, isResult]
    rfl

theorem text_of_writes {text : Option String} {written : Option Raw}
    (column : Writes WritesText text written) :
    ∃ result, Raw.optional Raw.text (written.getD .null) = .ok result ∧
      ListedColumns.textOf result = (text.map Text.trim).getD "" := by
  refine optional_of_writes ListedColumns.textOf (fun text => (text.map Text.trim).getD "") rfl ?_
    column
  rintro text _ ⟨blankBefore, blankAfter⟩
  exact ⟨by simp, _, rfl, Text.trim_padded blankBefore blankAfter text⟩

theorem kernelName_of_writes {name : Option String} {written : Option Raw}
    (column : Writes (fun name document => document = .string (some name)) name written) :
    Raw.optional Raw.text (written.getD .null) = .ok name := by
  cases column with
  | leftOut | null => rfl
  | given same =>
    rw [same]
    rfl

/-- **The value of a written number**: itself if it fits into 64 bits with its sign, else a double,
or a text of its digits. -/
theorem value_of_writesInteger {value : Int} {document : Raw}
    (writes : WritesInteger value document) (depth : Nat) :
    document ≠ .null ∧ ∃ result, Raw.valueWithin depth document = .ok result ∧
      (result = .integer value ∨ (¬ FitsWord value ∧ ∃ decimal, result = .decimal decimal) ∨
        ∃ text, result = .string text ∧ Text.trim text = toString value) := by
  rcases writes with readable | ⟨blankBefore, blankAfter⟩
  · refine ⟨by simp, ?_⟩
    rw [Raw.valueWithin]
    cases worth : (Numeral.ofInt value).value? with
    | none => exact absurd worth readable
    | some number =>
      cases number with
      | integer other =>
        cases Numeral.eq_of_value?_ofInt worth
        exact ⟨_, rfl, Or.inl rfl⟩
      | decimal decimal =>
        refine ⟨_, rfl, Or.inr (Or.inl ⟨fun fits => ?_, decimal, rfl⟩)⟩
        rw [Numeral.value?_ofInt fits] at worth
        cases worth
  · refine ⟨by simp, _, rfl, Or.inr (Or.inr ⟨_, rfl, ?_⟩)⟩
    rw [Text.trim_padded blankBefore blankAfter, trim_toString]

/-- Beyond 64 bits, a number is neither a flag nor a size. -/
theorem meaning_of_not_fitsWord {value : Int} (large : ¬ FitsWord value) :
    flagMeaning value = none ∧ sizeMeaning value = 0 := by
  simp only [FitsWord, Text.maxUnsigned] at large
  constructor
  · rw [flagMeaning, if_neg (by omega), if_neg (by omega)]
  · refine if_neg fun fits => ?_
    simp only [Text.fitsSigned, Bool.and_eq_true, decide_eq_true_iff] at fits
    omega

theorem size_of_writes {size : Option Int} {written : Option Raw}
    (column : Writes WritesInteger size written) (depth : Nat) :
    ∃ result, Raw.optional (Raw.valueWithin depth) (written.getD .null) = .ok result ∧
      ListedColumns.sizeOf result = (size.map sizeMeaning).getD 0 := by
  refine optional_of_writes ListedColumns.sizeOf (fun size => (size.map sizeMeaning).getD 0) rfl
    (fun value document writes => ?_) column
  obtain ⟨present, result, read, number⟩ := value_of_writesInteger writes depth
  refine ⟨present, result, read, ?_⟩
  rcases number with rfl | ⟨large, decimal, rfl⟩ | ⟨text, rfl, digits⟩
  · rfl
  · exact (meaning_of_not_fitsWord large).2.symm
  · exact size_of_digits digits

theorem flag_of_writes {flag : Option Int} {written : Option Raw}
    (column : Writes WritesFlag flag written) (depth : Nat) :
    ∃ result, Raw.optional (Raw.valueWithin depth) (written.getD .null) = .ok result ∧
      ListedColumns.flag result = flag.bind flagMeaning := by
  refine optional_of_writes ListedColumns.flag (fun flag => flag.bind flagMeaning) rfl
    (fun value document writes => ?_) column
  cases writes with
  | integer writes =>
    obtain ⟨present, result, read, number⟩ := value_of_writesInteger writes depth
    refine ⟨present, result, read, ?_⟩
    rcases number with rfl | ⟨large, decimal, rfl⟩ | ⟨text, rfl, digits⟩
    · rfl
    · exact (meaning_of_not_fitsWord large).1.symm
    · exact flag_of_digits digits
  | no | yes => exact ⟨by simp, _, rfl, rfl⟩
  | noWord writes | yesWord writes =>
    obtain ⟨blankBefore, blankAfter⟩ := writes
    refine ⟨by simp, _, rfl, ?_⟩
    simp only [ListedColumns.flag, Text.trim_padded blankBefore blankAfter]
    decide +kernel

/-- **The columns of a device mean what is said of it.** -/
theorem readColumns_of_renders {facts : DeviceFacts} {members : List Member}
    (renders : facts.Renders members) (depth : Nat) :
    ∃ columns,
      ListedDevice.readColumns depth ⟨true, taken ListedDevice.columnNames members⟩ =
        .ok columns ∧
      columns.knownAs = facts.knownAs ∧
      ∀ children, (ListedDevice.node columns children).toBlockDevice =
        facts.toBlockDevice (children.map fun child => child.columns.knownAs) := by
  have optional {α : Type} {read : Raw → Reading α} {name : String} {column : Option α}
      (isField : name ∈ ListedDevice.columnNames)
      (worked : Raw.optional read ((under? (some name) members).getD .null) = .ok column) :
      Fields.optional ⟨true, taken ListedDevice.columnNames members⟩ name read = .ok column :=
    (Fields.optional_taken isField).trans worked
  obtain ⟨deviceType, isDeviceType, deviceTypeSame⟩ := text_of_writes (renders.text .deviceType)
  obtain ⟨size, isSize, sizeSame⟩ := size_of_writes renders.size depth
  obtain ⟨model, isModel, modelSame⟩ := text_of_writes (renders.text .model)
  obtain ⟨vendor, isVendor, vendorSame⟩ := text_of_writes (renders.text .vendor)
  obtain ⟨serial, isSerial, serialSame⟩ := text_of_writes (renders.text .serial)
  obtain ⟨state, isState, stateSame⟩ := text_of_writes (renders.text .state)
  obtain ⟨partitionLabel, isLabel, labelSame⟩ := text_of_writes (renders.text .partitionLabel)
  obtain ⟨filesystemType, isFilesystem, filesystemSame⟩ :=
    text_of_writes (renders.text .filesystemType)
  obtain ⟨worldWideName, isWorldWide, worldWideSame⟩ := text_of_writes (renders.text .worldWideName)
  obtain ⟨rotational, isRotational, rotationalSame⟩ :=
    flag_of_writes (renders.flag .rotational) depth
  obtain ⟨readOnly, isReadOnly, readOnlySame⟩ :=
    flag_of_writes (renders.flag .readOnly) depth
  obtain ⟨removable, isRemovable, removableSame⟩ :=
    flag_of_writes (renders.flag .removable) depth
  refine ⟨⟨facts.name, facts.kernelName, deviceType, size, model, vendor, serial, state,
    partitionLabel, filesystemType, worldWideName, rotational, readOnly, removable⟩, ?_, rfl, ?_⟩
  · exact ok_bind ((Fields.required_taken_eq_ok_iff (by decide)).mpr ⟨_, renders.name, rfl⟩) <|
      ok_bind (optional (by decide) (kernelName_of_writes renders.kernelName)) <|
      ok_bind (optional (by decide) isDeviceType) <|
      ok_bind (optional (by decide) isSize) <|
      ok_bind (optional (by decide) isModel) <|
      ok_bind (optional (by decide) isVendor) <|
      ok_bind (optional (by decide) isSerial) <|
      ok_bind (optional (by decide) isState) <|
      ok_bind (optional (by decide) isLabel) <|
      ok_bind (optional (by decide) isFilesystem) <|
      ok_bind (optional (by decide) isWorldWide) <|
      ok_bind (optional (by decide) isRotational) <|
      ok_bind (optional (by decide) isReadOnly) <|
      ok_bind (optional (by decide) isRemovable) rfl
  · intro children
    simp only [ListedDevice.toBlockDevice, DeviceFacts.toBlockDevice, ListedDevice.columns,
      ListedDevice.children, DeviceFacts.trimmed, DeviceFacts.meaning, deviceTypeSame, sizeSame,
      modelSame, vendorSame, serialSame, stateSame, labelSame, filesystemSame, worldWideSame,
      rotationalSame, readOnlySame, removableSame]
    rfl

end Columns

/-! #### Trees -/

section Trees

open ListedDevice

/-- **A document is read as a tree**, if values may be nested as deep as the tree is written, and is
nested too deeply else. -/
structure ReadsTree (limit : Nat) (tree : DeviceTree) (document : Raw) : Prop where
  within : tree.depth ≤ limit → ∃ device, ListedDevice.read limit document = .ok device ∧
    flatten device = tree.devices ∧ device.columns.knownAs = tree.facts.knownAs
  beyond : limit < tree.depth → ListedDevice.read limit document = .error .tooDeep

/-- The same of the trees of a forest, one after the other. -/
structure ReadsForest (limit : Nat) (forest : List DeviceTree) (items : List Raw) : Prop where
  within : DeviceTree.depthAll forest ≤ limit → ∃ devices,
    items.mapM (ListedDevice.read limit) = .ok devices ∧
      flattenAll devices = DeviceTree.devicesAll forest ∧
      devices.map (fun device => device.columns.knownAs) =
        forest.map fun tree => tree.facts.knownAs
  beyond : limit < DeviceTree.depthAll forest →
    items.mapM (ListedDevice.read limit) = .error .tooDeep

theorem readsForest_cons {limit : Nat} {tree : DeviceTree} {forest : List DeviceTree} {item : Raw}
    {items : List Raw} (first : ReadsTree limit tree item) (rest : ReadsForest limit forest items) :
    ReadsForest limit (tree :: forest) (item :: items) := by
  constructor
  · intro fits
    obtain ⟨here, later⟩ := Nat.max_le.mp fits
    obtain ⟨device, read, same, name⟩ := first.within here
    obtain ⟨devices, reads, listed, names⟩ := rest.within later
    refine ⟨device :: devices, ?_, ?_, ?_⟩
    · rw [List.mapM_cons]
      exact ok_bind read (ok_bind reads rfl)
    · rw [flattenAll, same, listed, DeviceTree.devicesAll]
    · rw [List.map_cons, List.map_cons, name, names]
  · intro deep
    rw [DeviceTree.depthAll] at deep
    rw [List.mapM_cons]
    by_cases here : tree.depth ≤ limit
    · obtain ⟨device, read, -⟩ := first.within here
      rw [read, rest.beyond (by omega)]
      rfl
    · rw [first.beyond (by omega)]
      rfl

/-- A device is read with its columns, if the devices nested under it are read. -/
theorem read_object {facts : DeviceFacts} {members : List Member}
    (renders : facts.Renders members) (limit : Nat) :
    ∃ columns,
      (under? (some "children") members = none →
        ListedDevice.read (limit + 1) (.object members) = .ok (.node columns [])) ∧
      (∀ items, under? (some "children") members = some (.array items) →
        ListedDevice.read (limit + 1) (.object members) =
          match limit with
          | 0 => .error .tooDeep
          | inner + 1 => items.mapM (ListedDevice.read inner) >>= fun children =>
            .ok (.node columns children)) ∧
      columns.knownAs = facts.knownAs ∧
      ∀ children, (ListedDevice.node columns children).toBlockDevice =
        facts.toBlockDevice (children.map fun child => child.columns.knownAs) := by
  obtain ⟨columns, read, means⟩ := readColumns_of_renders renders limit
  have isChildren : "children" ∈ columnNames := by decide
  rw [ListedDevice.read, fields_object_eq_ok_iff.mpr ⟨rfl, renders.isRecord⟩]
  refine ⟨columns, fun alone => ?_, fun items inside => ?_, means⟩
  · show (ListedDevice.readColumns limit _ >>= _) = _
    rw [read, find?_taken isChildren, alone]
    rfl
  · show (ListedDevice.readColumns limit _ >>= _) = _
    rw [read, find?_taken isChildren, inside]
    cases limit <;> rfl

mutual

theorem readsTree_of_renders : (tree : DeviceTree) → {document : Raw} → tree.Renders document →
    (limit : Nat) → ReadsTree limit tree document
  | .leaf facts, document, renders, 0 =>
    ⟨fun fits => absurd fits (Nat.not_succ_le_zero _), fun _ => rfl⟩
  | .parent facts children, document, renders, 0 =>
    ⟨fun fits => absurd fits (Nat.not_succ_le_zero _), fun _ => rfl⟩
  | .leaf facts, document, renders, limit + 1 => by
    cases renders with
    | leaf device alone =>
      obtain ⟨columns, read, -, name, means⟩ := read_object device limit
      refine ⟨fun _ => ⟨_, read alone, ?_, name⟩, fun deep => ?_⟩
      · rw [flatten, means]
        rfl
      · rw [DeviceTree.depth] at deep
        omega
  | .parent facts children, document, renders, limit + 1 => by
    cases renders with
    | @parent _ _ members items device inside each =>
      obtain ⟨columns, -, read, name, means⟩ := read_object device limit
      have read := read _ inside
      cases limit with
      | zero =>
        refine ⟨fun fits => ?_, fun _ => read⟩
        rw [DeviceTree.depth] at fits
        omega
      | succ inner =>
        have nested := readsForest_of_renders children each inner
        constructor
        · intro fits
          rw [DeviceTree.depth] at fits
          obtain ⟨devices, reads, listed, names⟩ := nested.within (by omega)
          refine ⟨.node columns devices, read.trans (ok_bind reads rfl), ?_, name⟩
          rw [flatten, means, listed, names]
          rfl
        · intro deep
          rw [DeviceTree.depth] at deep
          refine read.trans ?_
          show items.mapM _ >>= _ = _
          rw [nested.beyond (by omega)]
          rfl

theorem readsForest_of_renders : (forest : List DeviceTree) → {items : List Raw} →
    List.Forall₂ DeviceTree.Renders forest items → (limit : Nat) → ReadsForest limit forest items
  | [], items, renders, limit => by
    cases renders
    exact ⟨fun _ => ⟨[], rfl, rfl, rfl⟩, fun deep => absurd deep (Nat.not_lt_zero _)⟩
  | tree :: forest, items, renders, limit => by
    cases renders with
    | cons first rest =>
      exact readsForest_cons (readsTree_of_renders tree first limit)
        (readsForest_of_renders forest rest limit)

end

end Trees

namespace DeviceListing

/-- How deep the arrays and objects of a forest may be nested where it is listed. -/
def forestLimit : Nat := Raw.depthLimit - 2

/-- **What a listing of a forest is parsed to.** -/
theorem parse_of_lists {forest : List DeviceTree} {text : String} (lists : Lists forest text) :
    parse text =
      if DeviceTree.depthAll forest ≤ forestLimit then .ok (DeviceTree.devicesAll forest)
      else .error (.json .tooDeep) := by
  obtain ⟨document, isRecord, inside, each⟩ := lists
  rename_i members items
  have reads := readsForest_of_renders forest each forestLimit
  have read : Json.readText readForest text = items.mapM (ListedDevice.read forestLimit) := by
    rw [Json.readText, Raw.parse, document]
    show readForest (.object members) = _
    rw [readForest, fields_object_eq_ok_iff.mpr ⟨rfl, isRecord⟩]
    show Fields.withDefault _ _ _ _ = _
    rw [Fields.withDefault, find?_taken (by decide), inside]
    rfl
  rw [parse, read]
  split
  · rename_i fits
    obtain ⟨devices, isRead, listed, -⟩ := reads.within fits
    rw [isRead, ← listed]
    rfl
  · rename_i deep
    rw [reads.beyond (by omega)]
    rfl

/-- **Any two listings of a forest are parsed alike**: to its devices, parents first, or to an error
if it is nested too deeply. -/
theorem dialects_agree {forest : List DeviceTree} {first second : String}
    (one : Lists forest first) (other : Lists forest second) :
    parse first = parse second ∧
      parse first =
        if DeviceTree.depthAll forest ≤ forestLimit then .ok (DeviceTree.devicesAll forest)
        else .error (.json .tooDeep) :=
  ⟨(parse_of_lists one).trans (parse_of_lists other).symm, parse_of_lists one⟩

/-! ### A disk in two listings -/

/-- A disk with a number for a flag that is no truth value. -/
def diskFacts : DeviceFacts where
  name := "sda"
  kernelName := none
  size := some 2199023255552
  text
    | .deviceType => some "disk"
    | .model => some "QEMU HARDDISK"
    | _ => none
  flag
    | .rotational => some 1
    | .readOnly => some 0
    | .removable => some (1000000000000000000000000000000)

/-- A map that is larger than a size can be. -/
def mapFacts : DeviceFacts where
  name := "mpatha"
  kernelName := some "dm-0"
  size := some (9223372036854775808)
  text _ := none
  flag _ := none

/-- The disk with the map on it. -/
def mappedDisk : List DeviceTree := [.parent diskFacts [.leaf mapFacts]]

private def padded (before text after : String) : Json := .string (before ++ text ++ after)

/-- The disk in a listing that quotes its numbers. -/
def quotedListing : Json :=
  .object [("blockdevices", .array [
    .object [("name", .string "sda"), ("rota", padded "" (toString (1 : Int)) " "),
      ("type", padded "" "disk" ""), ("size", padded "" (toString (2199023255552 : Int)) ""),
      ("model", padded "" "QEMU HARDDISK" "   "), ("vendor", .null),
      ("ro", padded "\t" "false" ""),
      ("rm", padded "" (toString (1000000000000000000000000000000 : Int)) ""),
      ("children", .array [
        .object [("name", .string "mpatha"), ("kname", .string "dm-0"), ("fstype", .null),
          ("size", padded "" (toString (9223372036854775808 : Int)) "\n")]])]])]

/-- The disk in a listing that does not, with its columns in another order. -/
def plainListing : Json :=
  .object [("blockdevices", .array [
    .object [
      ("children", .array [
        .object [("kname", .string "dm-0"), ("name", .string "mpatha"),
          ("size", .integer (9223372036854775808)), ("rota", .null)]]),
      ("name", .string "sda"), ("kname", .null),
      ("rm", .integer (1000000000000000000000000000000)), ("ro", .integer 0),
      ("rota", .bool true), ("model", padded " " "QEMU HARDDISK" ""), ("type", padded "" "disk" ""),
      ("size", .integer 2199023255552)]])]

theorem lists_quotedListing : Lists mappedDisk quotedListing.toText := by
  have known : raw? quotedListing = some (.object _) := rfl
  refine .listing (parse?_toText known) (by decide) rfl
    (.cons (.parent ?disk rfl (.cons (.leaf ?map rfl) .nil)) .nil)
  case disk =>
    refine ⟨by decide, rfl, .leftOut, .given (.digits (.padded rfl rfl)), ?_, ?_⟩
    · rintro (_ | _ | _ | _ | _ | _ | _ | _)
      · exact .given (.padded rfl rfl)
      · exact .given (.padded rfl rfl)
      · exact .null
      all_goals exact .leftOut
    · rintro (_ | _ | _)
      · exact .given (.integer (.digits (.padded rfl rfl)))
      · exact .given (.noWord (.padded rfl rfl))
      · exact .given (.integer (.digits (.padded rfl rfl)))
  case map =>
    refine ⟨by decide, rfl, .given rfl, .given (.digits (.padded rfl rfl)), ?_, ?_⟩
    · rintro (_ | _ | _ | _ | _ | _ | _ | _)
      case filesystemType => exact .null
      all_goals exact .leftOut
    · rintro (_ | _ | _) <;> exact .leftOut

theorem lists_plainListing : Lists mappedDisk plainListing.toText := by
  have known : raw? plainListing = some (.object _) := rfl
  refine .listing (parse?_toText known) (by decide) rfl
    (.cons (.parent ?disk rfl (.cons (.leaf ?map rfl) .nil)) .nil)
  case disk =>
    refine ⟨by decide, rfl, .null, .given (writesInteger_number (by decide)), ?_, ?_⟩
    · rintro (_ | _ | _ | _ | _ | _ | _ | _)
      · exact .given (.padded rfl rfl)
      · exact .given (.padded rfl rfl)
      all_goals exact .leftOut
    · rintro (_ | _ | _)
      · exact .given .yes
      · exact .given (.integer (writesInteger_number (by decide)))
      · exact .given (.integer (writesInteger_number (by decide)))
  case map =>
    refine ⟨by decide, rfl, .given rfl, .given (writesInteger_number (by decide)), ?_, ?_⟩
    · rintro (_ | _ | _ | _ | _ | _ | _ | _) <;> exact .leftOut
    · rintro (_ | _ | _)
      case rotational => exact .null
      all_goals exact .leftOut

/-- The devices of both listings. -/
def mappedDevices : List BlockDevice :=
  [{ BlockDevice.ofKernelName "sda" with
      name := "sda", deviceType := "disk", model := "QEMU HARDDISK", size := 2199023255552
      rotational := some true, readOnly := some false, children := ["dm-0"] },
    { BlockDevice.ofKernelName "dm-0" with name := "mpatha" }]

/-- The listings are parsed alike: the flag is unknown and the size is zero in both. -/
theorem mappedDisk_agrees :
    Lists mappedDisk quotedListing.toText ∧ Lists mappedDisk plainListing.toText ∧
      parse quotedListing.toText = parse plainListing.toText ∧
      parse quotedListing.toText = .ok mappedDevices := by
  obtain ⟨alike, parsed⟩ := dialects_agree lists_quotedListing lists_plainListing
  have shallow : DeviceTree.depthAll mappedDisk ≤ forestLimit := by decide
  have devices : DeviceTree.devicesAll mappedDisk = mappedDevices := by decide +kernel
  rw [if_pos shallow, devices] at parsed
  exact ⟨lists_quotedListing, lists_plainListing, alike, parsed⟩

end DeviceListing

end NodeStorage
