/-
**A flat list tells its forest.**

A listing is a document in which device objects stand inside one another, and is kept as a flat
list. The list has a record for each object: a device comes right before those nested under it, and
keeps their names. So the number of names says how many of the trees that follow are nested under a
device, and going through the list from its end puts the forest together again.

* `ListedDevice.withInner` — the device objects of a document, in pre-order.
* `ListedDevice.LaidOutAll` — where the records of objects and of those inside them stand, and which
  names a record keeps; `laidOutAll_flattenAll` — every listing is laid out like this.
* `rebuild` — the forest of a flat list; `LaidOutAll.rebuilt` — it is the one that was laid out.
* `DeviceListing.flat_list_tells_forest` — **a flat list has all devices of its listing and says how
  they are nested**: listings with the same flat list are the same forest of devices.
-/

import NodeStorage.Proofs.Device.Objects
import NodeStorage.Proofs.Device.Reported

namespace NodeStorage

open Json

/-! ### What stands inside a document -/

/-- What a record takes from an object is a member of it. -/
theorem Json.mem_of_mem_taken {fields : List String} {members : List Member}
    {entry : String × Raw} (member : entry ∈ taken fields members) :
    (some entry.1, entry.2) ∈ members := by
  induction members with
  | nil => cases member
  | cons first rest ih =>
    obtain ⟨name, value⟩ := first
    cases name with
    | none => exact List.mem_cons_of_mem _ (ih member)
    | some name =>
      rw [taken] at member
      split at member
      · rcases List.mem_cons.mp member with rfl | later
        · exact List.mem_cons_self
        · exact List.mem_cons_of_mem _ (ih later)
      · exact List.mem_cons_of_mem _ (ih member)

/-- What a document gives for a field is smaller than the document. -/
theorem Json.Raw.sizeOf_lt_of_field? {names : List String} {name : String} {document value : Raw}
    (given : document.field? names name = some value) : sizeOf value < sizeOf document := by
  rw [Raw.field?] at given
  split at given
  · rename_i fields read
    obtain ⟨entry, found, rfl⟩ := Option.map_eq_some_iff.mp given
    have member := List.mem_of_find?_eq_some found
    cases document with
    | null | bool | number | string => cases read
    | array items =>
      rw [Raw.fields] at read
      split at read
      · cases read
        have smaller := List.sizeOf_lt_of_mem (List.of_mem_zip member).2
        rw [Raw.array.sizeOf_spec]
        omega
      · cases read
    | object members =>
      obtain ⟨rfl, -⟩ := fields_object_eq_ok_iff.mp read
      have smaller := List.sizeOf_lt_of_mem (mem_of_mem_taken member)
      rw [Prod.mk.sizeOf_spec] at smaller
      rw [Raw.object.sizeOf_spec]
      omega
  · cases given

/-- The text that is given. -/
def givenText : Option Raw → Option String
  | some (.string (some text)) => some text
  | _ => none

theorem text_eq_ok {document : Raw} {text : String} (read : Raw.text document = .ok text) :
    document = .string (some text) := by
  cases document with
  | null | bool | number | array | object => cases read
  | string content =>
    cases content with
    | none => cases read
    | some text =>
      cases read
      rfl

theorem givenText_of_required {fields : Fields} {name text : String}
    (worked : fields.required name Raw.text = .ok text) :
    givenText (fields.find? name) = some text := by
  rw [Fields.required] at worked
  split at worked
  · rename_i document given
    rw [given, text_eq_ok worked]
    rfl
  · cases worked

theorem givenText_of_optional {fields : Fields} {name : String} {column : Option String}
    (worked : fields.optional name Raw.text = .ok column) :
    givenText (fields.find? name) = column := by
  rcases Fields.optional_cases worked with ⟨none | null, rfl⟩ | ⟨document, text, given, read, rfl⟩
  · rw [none]
    rfl
  · rw [null]
    rfl
  · rw [given, text_eq_ok read]
    rfl

namespace ListedDevice

/-! ### Device objects in order -/

/-- The objects right inside a device object. -/
def inside (object : Raw) : List Raw :=
  match column? "children" object with
  | some (.array items) => items
  | _ => []

theorem sizeOf_lt_of_mem_inside {object item : Raw} (member : item ∈ inside object) :
    sizeOf item < sizeOf object := by
  unfold inside at member
  split at member
  · rename_i items given
    have outer := Raw.sizeOf_lt_of_field? given
    have inner := List.sizeOf_lt_of_mem member
    rw [Raw.array.sizeOf_spec] at outer
    omega
  · cases member

/-- **A device object and all objects inside it**, every one before those inside it. -/
def withInner (object : Raw) : List Raw :=
  object :: (inside object).attach.flatMap fun item => withInner item.1
termination_by sizeOf object
decreasing_by exact sizeOf_lt_of_mem_inside item.2

theorem withInner_eq (object : Raw) :
    withInner object = object :: (inside object).flatMap withInner := by
  rw [withInner, List.flatMap_subtype (g := withInner) (fun _ _ => rfl), List.unattach_attach]

/-- The name that a device object goes by: that of the kernel, or else its own. -/
def knownName? (object : Raw) : Option String :=
  (givenText (column? "kname" object)).or (givenText (column? "name" object))

variable {object : Raw} {device : ListedDevice}

/-- **A device is known by the name of its object.** -/
theorem Reads.knownName (reads : Reads object device) :
    knownName? object = some device.toBlockDevice.kernelName := by
  obtain ⟨fields, given, columns⟩ := reads.column?_eq
  rw [knownName?, given, given, givenText_of_optional columns.kernelName,
    givenText_of_required columns.name]
  show _ = some (device.columns.kernelName.getD device.columns.name)
  cases device.columns.kernelName <;> rfl

/-- The nested devices are read from the objects inside. -/
theorem Reads.inside (reads : Reads object device) :
    List.Forall₂ Reads (inside object) device.children := by
  obtain ⟨fields, given, -, nested⟩ := reads.parts
  rw [ListedDevice.inside, column?, Raw.field?_of_fields given]
  rcases nested with ⟨none, empty⟩ | ⟨items, found, each⟩
  · rw [none, empty]
    exact .nil
  · rw [found]
    exact each

/-! ### The layout of a flat list -/

mutual

/-- **The records of a device object**: its own, which has its name and the names of the objects
right inside it, and below it the records of these. -/
inductive LaidOut : (object : Raw) → (record : BlockDevice) → (below : List BlockDevice) → Prop
  | node {object : Raw} {record : BlockDevice} {heads below : List BlockDevice} :
    DeviceListing.Describes object record → knownName? object = some record.kernelName →
    LaidOutAll (inside object) heads below → record.children = heads.map BlockDevice.kernelName →
    LaidOut object record below

/-- **The records of device objects**: for one object after the other, its record and right behind
that the records below. The records of the objects themselves are the heads. -/
inductive LaidOutAll : (objects : List Raw) → (heads records : List BlockDevice) → Prop
  | nil : LaidOutAll [] [] []
  | cons {object : Raw} {record : BlockDevice} {below : List BlockDevice} {rest : List Raw}
    {heads records : List BlockDevice} :
    LaidOut object record below → LaidOutAll rest heads records →
    LaidOutAll (object :: rest) (record :: heads) (record :: below ++ records)

end

mutual

theorem laidOut_flatten : (device : ListedDevice) → {object : Raw} → Reads object device →
    LaidOut object device.toBlockDevice (flattenAll device.children)
  | .node columns children, _, reads => by
    refine .node ⟨_, reads, rfl⟩ reads.knownName
      (laidOutAll_flattenAll children reads.inside) ?_
    show children.map _ = _
    rw [List.map_map]
    rfl

/-- **A forest is laid out as a flat list.** -/
theorem laidOutAll_flattenAll : (forest : List ListedDevice) → {objects : List Raw} →
    List.Forall₂ Reads objects forest →
    LaidOutAll objects (forest.map toBlockDevice) (flattenAll forest)
  | [], _, .nil => .nil
  | device :: rest, _, .cons first later => by
    have tree := laidOut_flatten device first
    have forest := laidOutAll_flattenAll rest later
    cases device with
    | node columns children => exact .cons tree forest

end

/-- There is a head for every object. -/
theorem LaidOutAll.length_heads {objects : List Raw} {heads records : List BlockDevice}
    (laidOut : LaidOutAll objects heads records) : heads.length = objects.length :=
  match laidOut with
  | .nil => rfl
  | .cons _ later => congrArg (· + 1) later.length_heads

mutual

theorem LaidOut.describes {object : Raw} {record : BlockDevice} {below : List BlockDevice}
    (laidOut : LaidOut object record below) :
    List.Forall₂ DeviceListing.Describes (withInner object) (record :: below) :=
  match laidOut with
  | .node here _ inner _ => by
    rw [withInner_eq]
    exact .cons here inner.describes

/-- **There is a record for each object**, in pre-order. -/
theorem LaidOutAll.describes {objects : List Raw} {heads records : List BlockDevice}
    (laidOut : LaidOutAll objects heads records) :
    List.Forall₂ DeviceListing.Describes (objects.flatMap withInner) records :=
  match laidOut with
  | .nil => .nil
  | .cons first later => List.rel_append first.describes later.describes

end

/-! ### Putting the forest together -/

/-- A record with the trees nested under it. -/
inductive RecordTree where
  | node (record : BlockDevice) (children : List RecordTree)

/-- One more record in front: as many of the trees behind it as it has names of nested devices are
nested under it. -/
def growTree (record : BlockDevice) (trees : List RecordTree) : List RecordTree :=
  .node record (trees.take record.children.length) :: trees.drop record.children.length

/-- **The forest of a flat list**, put together from the end. -/
def rebuild (records : List BlockDevice) : List RecordTree :=
  records.foldr growTree []

/-- The tree pictures a device object: its record describes the object, and the trees under it
picture the objects inside, in order. -/
inductive Pictures : Raw → RecordTree → Prop
  | node {object : Raw} {record : BlockDevice} {trees : List RecordTree} :
    DeviceListing.Describes object record → List.Forall₂ Pictures (inside object) trees →
    Pictures object (.node record trees)

mutual

theorem LaidOut.rebuilt {object : Raw} {record : BlockDevice} {below : List BlockDevice}
    (laidOut : LaidOut object record below) (behind : List RecordTree) :
    ∃ tree, Pictures object tree ∧
      (record :: below).foldr growTree behind = tree :: behind :=
  match laidOut with
  | .node describes _ inner names => by
    obtain ⟨trees, pictured, together⟩ := inner.rebuilt behind
    have many : record.children.length = trees.length := by
      rw [names, List.length_map, inner.length_heads, pictured.length_eq]
    refine ⟨.node record trees, .node describes pictured, ?_⟩
    rw [List.foldr_cons, together, growTree, many, List.take_left, List.drop_left]

/-- **What was laid out is put together again**, whatever trees stand behind it. -/
theorem LaidOutAll.rebuilt {objects : List Raw} {heads records : List BlockDevice}
    (laidOut : LaidOutAll objects heads records) (behind : List RecordTree) :
    ∃ trees, List.Forall₂ Pictures objects trees ∧
      records.foldr growTree behind = trees ++ behind :=
  match laidOut with
  | .nil => ⟨[], .nil, rfl⟩
  | .cons first later => by
    obtain ⟨trees, pictured, together⟩ := later.rebuilt behind
    obtain ⟨tree, picture, grown⟩ := first.rebuilt (trees ++ behind)
    exact ⟨tree :: trees, .cons picture pictured, by rw [List.foldr_append, together, grown]; rfl⟩

end

/-- **The objects are the same tree of devices**: they are read as the same record, and so are the
objects inside them, one by one. -/
inductive SameDevices : Raw → Raw → Prop
  | node {object other : Raw} {record : BlockDevice} :
    DeviceListing.Describes object record → DeviceListing.Describes other record →
    List.Forall₂ SameDevices (inside object) (inside other) → SameDevices object other

mutual

theorem sameDevices_of_pictures : (tree : RecordTree) → {object other : Raw} →
    Pictures object tree → Pictures other tree → SameDevices object other
  | .node _ trees, _, _, .node describes inner, .node alsoDescribes otherInner =>
    .node describes alsoDescribes (sameDevices_of_picturesAll trees inner otherInner)

/-- Objects that are pictured by the same forest are the same. -/
theorem sameDevices_of_picturesAll : (trees : List RecordTree) → {objects others : List Raw} →
    List.Forall₂ Pictures objects trees → List.Forall₂ Pictures others trees →
    List.Forall₂ SameDevices objects others
  | [], _, _, .nil, .nil => .nil
  | tree :: rest, _, _, .cons first later, .cons otherFirst otherLater =>
    .cons (sameDevices_of_pictures tree first otherFirst)
      (sameDevices_of_picturesAll rest later otherLater)

end

end ListedDevice

/-! ### Listings -/

namespace DeviceListing

open ListedDevice

/-- The device objects of a listing that stand in no other one. -/
def topObjects (document : Raw) : List Raw :=
  match document.field? ["blockdevices"] "blockdevices" with
  | some (.array items) => items
  | _ => []

/-- **The device objects of a listing**, every one before those inside it. -/
def objects (document : Raw) : List Raw :=
  (topObjects document).flatMap withInner

theorem reads_topObjects {document : Raw} {forest : List ListedDevice}
    (read : readForest document = .ok forest) :
    List.Forall₂ Reads (topObjects document) forest := by
  obtain ⟨fields, given, read⟩ := bind_eq_ok read
  rw [topObjects, Raw.field?_of_fields given]
  rw [Fields.withDefault] at read
  split at read
  · rename_i listed found
    rw [found]
    cases listed with
    | null | bool | number | string | object => cases read
    | array items => exact (forall₂_of_mapM read).imp fun _ _ worked => ⟨_, worked⟩
  · rename_i missing
    cases read
    rw [missing]
    exact .nil

/-- **Every listing is laid out as its flat list.** -/
theorem laidOutAll_of_parse {text : String} {listed : List BlockDevice} {document : Raw}
    (parsed : parse text = .ok listed) (given : Raw.parse text = .ok document) :
    ∃ heads, LaidOutAll (topObjects document) heads listed := by
  obtain ⟨forest, read, rfl⟩ := forest_of_parse parsed
  obtain ⟨same, known, read⟩ := bind_eq_ok read
  cases given.symm.trans known
  exact ⟨_, laidOutAll_flattenAll forest (reads_topObjects read)⟩

/-- **A flat list tells the forest of a document.** -/
structure TellsForest (document : Raw) (listed : List BlockDevice) : Prop where
  /-- The list has one record for each device object, in pre-order. -/
  describes : List.Forall₂ Describes (objects document) listed
  /-- The records of a device and of those nested under it stand together, the device first, and a
  record has the names of the records right under it. -/
  laidOut : ∃ heads, LaidOutAll (topObjects document) heads listed
  /-- The forest can be put together from the list alone. -/
  rebuilt : List.Forall₂ Pictures (topObjects document) (rebuild listed)
  /-- Another listing with the same flat list has the same forest. -/
  sole : ∀ {other : String} {otherDocument : Raw}, parse other = .ok listed →
    Raw.parse other = .ok otherDocument →
    List.Forall₂ SameDevices (topObjects document) (topObjects otherDocument)

theorem pictures_rebuild {text : String} {listed : List BlockDevice} {document : Raw}
    (parsed : parse text = .ok listed) (given : Raw.parse text = .ok document) :
    List.Forall₂ Pictures (topObjects document) (rebuild listed) := by
  obtain ⟨heads, laidOut⟩ := laidOutAll_of_parse parsed given
  obtain ⟨trees, pictured, together⟩ := laidOut.rebuilt []
  rw [rebuild, together, List.append_nil]
  exact pictured

/-- **A listing loses nothing when it is made flat.** -/
theorem flat_list_tells_forest {text : String} {listed : List BlockDevice}
    (parsed : parse text = .ok listed) :
    ∃ document, Raw.parse text = .ok document ∧ TellsForest document listed := by
  obtain ⟨forest, read, -⟩ := forest_of_parse parsed
  obtain ⟨document, given, -⟩ := bind_eq_ok read
  obtain ⟨heads, laidOut⟩ := laidOutAll_of_parse parsed given
  have pictured := pictures_rebuild parsed given
  exact ⟨document, given, laidOut.describes, ⟨heads, laidOut⟩, pictured,
    fun alsoParsed alsoGiven =>
      sameDevices_of_picturesAll _ pictured (pictures_rebuild alsoParsed alsoGiven)⟩

/-- A listing of a disk with volumes on one of its partitions, and of another disk. -/
def nestedListing : Json :=
  .object [("blockdevices", .array [
    .object [("name", .string "sda"), ("children", .array [
      .object [("name", .string "sda1"), ("kname", .null)],
      .object [("name", .string "sda2"), ("children", .array [
        .object [("name", .string "root"), ("kname", .string "dm-0")],
        .object [("name", .string "swap"), ("kname", .string "dm-1"), ("children", .array [])]])],
      .object [("name", .string "sda3")]])],
    .object [("name", .string "sdb")]])]

/-- The devices of the listing. -/
def nestedDevices : List BlockDevice :=
  [device "sda" "sda" ["sda1", "sda2", "sda3"], device "sda1" "sda1" [],
   device "sda2" "sda2" ["dm-0", "dm-1"], device "root" "dm-0" [], device "swap" "dm-1" [],
   device "sda3" "sda3" [], device "sdb" "sdb" []]
where
  /-- A device of which the listing gives nothing but names. -/
  device (name kernelName : String) (children : List String) : BlockDevice :=
    { BlockDevice.ofKernelName kernelName with name := name, children := children }

theorem parse_nestedListing : parse nestedListing.toText = .ok nestedDevices :=
  parse_toText (by decide +kernel)

theorem nestedListing_rebuilt :
    (∃ document, Raw.parse nestedListing.toText = .ok document ∧
      TellsForest document nestedDevices) ∧
    rebuild nestedDevices =
      [.node (nestedDevices.device "sda" "sda" ["sda1", "sda2", "sda3"])
        [.node (nestedDevices.device "sda1" "sda1" []) [],
         .node (nestedDevices.device "sda2" "sda2" ["dm-0", "dm-1"])
          [.node (nestedDevices.device "root" "dm-0" []) [],
           .node (nestedDevices.device "swap" "dm-1" []) []],
         .node (nestedDevices.device "sda3" "sda3" []) []],
       .node (nestedDevices.device "sdb" "sdb" []) []] :=
  ⟨flat_list_tells_forest parse_nestedListing, rfl⟩

end DeviceListing

end NodeStorage
