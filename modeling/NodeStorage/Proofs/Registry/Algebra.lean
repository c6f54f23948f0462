/-
**The algebra of documents of credentials.**

A document over another gives every field a value that depends on the two values below and above
only (`mergedField`). For the registries that is one object over the other, where anything that is
no object counts as one without registries; for every other field it is the value above, if there is
one. Both are associative, so documents over each other are (`mergeFields_assoc`): fields that are
sorted are told by what their names find. A document that names registries, if it does, in an object
is kept by the empty document and by itself on either side of it.

What holds for fields holds for bytes, because what is written is sorted and is read again as it was
(`Holds.mergeConfigs`). Bytes that hold no fields are refused from either side.

`mergeConfigs_laws` — **these laws hold for all bytes.**
-/

import NodeStorage.Proofs.Registry.Merging

namespace NodeStorage.Registry

open Json

/-! ### Registries over registries -/

theorem sorted_overlay {fields : List Field} (sorted : Sorted fields) (more : List Field) :
    Sorted (overlay fields more) :=
  sorted_foldl_insertSorted more sorted

theorem nil_overlay {fields : List Field} (sorted : Sorted fields) : overlay [] fields = fields :=
  sortFields_eq_self sorted

theorem overlay_self {fields : List Field} (sorted : Sorted fields) :
    overlay fields fields = fields :=
  (sorted_overlay sorted fields).ext sorted fun key => by
    rw [lookup?_overlay fields sorted, Option.or_self]

theorem overlay_assoc {first second third : List Field} (sorted : Sorted first)
    (secondSorted : Sorted second) (thirdSorted : Sorted third) :
    overlay (overlay first second) third = overlay first (overlay second third) := by
  have upperSorted := sorted_overlay secondSorted third
  refine (sorted_overlay (sorted_overlay sorted second) third).ext
    (sorted_overlay sorted _) fun key => ?_
  rw [lookup?_overlay _ thirdSorted, lookup?_overlay _ secondSorted,
    lookup?_overlay _ upperSorted, lookup?_overlay _ thirdSorted, Option.or_assoc]

/-! ### One field over another -/

/-- What a field has after a value, if there is one, is put over what it had. -/
def mergedField (key : String) (old new : Option Json) : Option Json :=
  (new.map (mergedValue key old)).or old

/-- The registries are put over each other, also where there are none on one side. -/
theorem fieldsOf_mergedField (old new : Option Json) :
    fieldsOf (mergedField authsKey old new) = overlay (fieldsOf old) (fieldsOf new) := by
  cases new <;> rfl

theorem mergedField_of_ne {key : String} (other : key ≠ authsKey) (old new : Option Json) :
    mergedField key old new = new.or old := by
  have same : mergedValue key old = id := funext fun value => if_neg other
  rw [mergedField, same, Option.map_id, id]

theorem mergedField_authsKey (old : Option Json) (new : Json) :
    mergedField authsKey old (some new) =
      some (.object (overlay (fieldsOf old) (fieldsOf (some new)))) :=
  rfl

/-- **Values over each other**, of which those of the registries are sorted. -/
theorem mergedField_assoc (key : String) {first second third : Option Json}
    (sorted : Sorted (fieldsOf first)) (secondSorted : Sorted (fieldsOf second))
    (thirdSorted : Sorted (fieldsOf third)) :
    mergedField key (mergedField key first second) third =
      mergedField key first (mergedField key second third) := by
  by_cases registries : key = authsKey
  · subst registries
    cases third with
    | none => rfl
    | some value =>
      rw [mergedField_authsKey, fieldsOf_mergedField,
        overlay_assoc sorted secondSorted thirdSorted]
      rfl
  · simp only [mergedField_of_ne registries, Option.or_assoc]

/-- What is put over a value that adds nothing to it stays as it is, but registries have to stand in
an object. -/
theorem mergedField_eq_right {key : String} {old new : Option Json}
    (object : key = authsKey → ∀ value, new = some value → ∃ fields, value = .object fields)
    (registries : overlay (fieldsOf old) (fieldsOf new) = fieldsOf new)
    (other : new.or old = new) : mergedField key old new = new := by
  by_cases same : key = authsKey
  · cases new with
    | none => exact other
    | some value =>
      obtain ⟨fields, rfl⟩ := object same value rfl
      rw [same, mergedField_authsKey, registries]
      rfl
  · rw [mergedField_of_ne same, other]

/-! ### Documents over each other -/

/-- **A document over another**, field by field. -/
theorem lookup?_mergeFields_eq (config : List Field) {more : List Field}
    (kept : Kept Raw.depthLimit (.object more)) (key : String) :
    lookup? key (mergeFields config more) =
      mergedField key (lookup? key config) (lookup? key more) :=
  lookup?_mergeFields config kept.sorted key

theorem sorted_fieldsOf {fields : List Field} (kept : Kept Raw.depthLimit (.object fields))
    (key : String) : Sorted (fieldsOf (lookup? key fields)) :=
  (kept_fieldsOf 125 fun _ found => kept.field _ (mem_of_lookup? found)).sorted

section Fields

variable {first second third : List Field}

/-- **Documents over each other may be grouped in any way**, whatever stands for the registries. -/
theorem mergeFields_assoc (kept : Kept Raw.depthLimit (.object first))
    (secondKept : Kept Raw.depthLimit (.object second))
    (thirdKept : Kept Raw.depthLimit (.object third)) :
    mergeFields (mergeFields first second) third =
      mergeFields first (mergeFields second third) := by
  have lower := kept_mergeFields_of_kept kept secondKept
  have upper := kept_mergeFields_of_kept secondKept thirdKept
  refine (kept_mergeFields_of_kept lower thirdKept).sorted.ext
    (kept_mergeFields_of_kept kept upper).sorted fun key => ?_
  rw [lookup?_mergeFields_eq _ thirdKept, lookup?_mergeFields_eq _ secondKept,
    lookup?_mergeFields_eq _ upper, lookup?_mergeFields_eq _ thirdKept]
  exact mergedField_assoc key (sorted_fieldsOf kept key) (sorted_fieldsOf secondKept key)
    (sorted_fieldsOf thirdKept key)

/-- The registries, if a document names them, stand in an object. -/
def NamesRegistries (fields : List Field) : Prop :=
  ∀ value, lookup? authsKey fields = some value → ∃ registries, value = .object registries

/-- A document over one that adds nothing to any of its fields stays as it is. -/
theorem mergeFields_eq_right (kept : Kept Raw.depthLimit (.object first))
    (others : Kept Raw.depthLimit (.object second)) (names : NamesRegistries second)
    (registries : ∀ key, overlay (fieldsOf (lookup? key first)) (fieldsOf (lookup? key second)) =
      fieldsOf (lookup? key second))
    (same : ∀ key, (lookup? key second).or (lookup? key first) = lookup? key second) :
    mergeFields first second = second := by
  refine (kept_mergeFields_of_kept kept others).sorted.ext others.sorted fun key => ?_
  rw [lookup?_mergeFields_eq _ others]
  refine mergedField_eq_right ?_ (registries key) (same key)
  rintro rfl
  exact names

theorem nil_mergeFields (kept : Kept Raw.depthLimit (.object first))
    (names : NamesRegistries first) : mergeFields [] first = first :=
  mergeFields_eq_right (.object sorted_nil fun _ member => by cases member) kept names
    (fun key => nil_overlay (sorted_fieldsOf kept key)) fun _ => Option.or_none

theorem mergeFields_self (kept : Kept Raw.depthLimit (.object first))
    (names : NamesRegistries first) : mergeFields first first = first :=
  mergeFields_eq_right kept kept names (fun key => overlay_self (sorted_fieldsOf kept key))
    fun _ => Option.or_self

end Fields

/-! ### Bytes that are refused -/

/-- The bytes are the text of an object, as the grammar has it, or there are none. -/
def IsObjectText (bytes : List UInt8) : Prop :=
  bytes = [] ∨ ∃ text members, Text.decodeUtf8? bytes = some text ∧
    Raw.parse? text = some (.object members)

/-- The bytes hold fields: they are the text of an object that is not nested too deeply and in
which every number and every string has a value, or there are none. -/
def IsReadable (bytes : List UInt8) : Prop :=
  bytes = [] ∨ ∃ fields, readFields bytes = .ok fields

/-- Nothing is read but the text of an object. -/
theorem IsReadable.isObjectText {bytes : List UInt8} (readable : IsReadable bytes) :
    IsObjectText bytes := by
  refine readable.imp_right fun ⟨fields, read⟩ => ?_
  obtain ⟨text, document, decoded, found, given⟩ := exists_document_of_readFields read
  cases document with
  | object members => exact ⟨text, members, decoded, found⟩
  | number numeral =>
    rw [Raw.valueWithin] at given
    split at given <;> cases given
  | string content =>
    obtain ⟨_, -, isText⟩ := map_eq_ok given
    cases isText
  | array items =>
    obtain ⟨_, -, isArray⟩ := map_eq_ok given
    cases isArray
  | _ => cases given

/-- What cannot be read is refused, and the error says which document it was. -/
theorem readConfig_cases (what : String) (bytes : List UInt8) :
    (IsReadable bytes ∧ ∃ fields, readConfig what bytes = .ok fields) ∨
      (¬ IsReadable bytes ∧
        ∃ cause, readConfig what bytes = .error (invalidDocument what cause)) := by
  cases bytes with
  | nil => exact Or.inl ⟨Or.inl rfl, [], rfl⟩
  | cons byte bytes =>
    cases read : readFields (byte :: bytes) with
    | ok fields => exact Or.inl ⟨Or.inr ⟨fields, read⟩, fields, readConfig_eq_ok read what⟩
    | error cause =>
      refine Or.inr ⟨?_, cause, by rw [readConfig, read]; rfl⟩
      rintro (empty | ⟨fields, given⟩)
      · cases empty
      · rw [read] at given
        cases given

/-- Nothing is written, and the error is one of pull secrets. -/
def IsRefused (outcome : Outcome (List UInt8)) : Prop :=
  ∃ message, outcome = .error (.pullSecret message)

/-- **Putting one over the other ends in one of two ways:** both are read and something is written,
or one of them cannot be read and nothing is. -/
theorem mergeConfigs_cases (config more : List UInt8) :
    (IsReadable config ∧ IsReadable more ∧ ∃ merged, mergeConfigs config more = .ok merged) ∨
      ((¬ IsReadable config ∨ ¬ IsReadable more) ∧ IsRefused (mergeConfigs config more)) := by
  rw [mergeConfigs]
  obtain ⟨read, below, isBelow⟩ | ⟨unread, cause, refused⟩ :=
    readConfig_cases "dest .dockerconfigjson" config
  · rw [isBelow]
    obtain ⟨alsoRead, above, isAbove⟩ | ⟨unread, cause, refused⟩ :=
      readConfig_cases "src .dockerconfigjson" more
    · rw [isAbove]
      exact Or.inl ⟨read, alsoRead, _, rfl⟩
    · rw [refused]
      exact Or.inr ⟨Or.inr unread, _, rfl⟩
  · rw [refused]
    exact Or.inr ⟨Or.inl unread, _, rfl⟩

theorem isRefused_mergeConfigs {config more : List UInt8}
    (unread : ¬ IsReadable config ∨ ¬ IsReadable more) : IsRefused (mergeConfigs config more) := by
  obtain ⟨read, alsoRead, -⟩ | ⟨-, refused⟩ := mergeConfigs_cases config more
  · exact absurd (And.intro read alsoRead) (not_and_or.mpr unread)
  · exact refused

/-- A chain of two is refused where either of them is. -/
theorem isRefused_bind {config more : List UInt8} {next : List UInt8 → Outcome (List UInt8)}
    (refused : IsReadable config → IsReadable more → ∀ merged, IsRefused (next merged)) :
    IsRefused (mergeConfigs config more >>= next) := by
  obtain ⟨read, alsoRead, merged, worked⟩ | ⟨-, message, failed⟩ := mergeConfigs_cases config more
  · rw [worked]
    exact refused read alsoRead merged
  · rw [failed]
    exact ⟨message, rfl⟩

/-! ### The laws -/

/-- **What holds of documents of credentials over each other.** -/
structure MergeLaws (first second third : List UInt8) : Prop where
  /-- They may be grouped in either way, and the same bytes are written. -/
  assoc : IsConfig first → IsConfig second → IsConfig third →
    ∃ below above merged, mergeConfigs first second = .ok below ∧
      mergeConfigs second third = .ok above ∧ mergeConfigs below third = .ok merged ∧
      mergeConfigs first above = .ok merged
  /-- If one of them cannot be read, nothing is written in either way. -/
  assocUnread : ¬ (IsReadable first ∧ IsReadable second ∧ IsReadable third) →
    IsRefused (mergeConfigs first second >>= fun below => mergeConfigs below third) ∧
      IsRefused (mergeConfigs second third >>= fun above => mergeConfigs first above)
  /-- No bytes on either side change no more than the document itself does. -/
  neutral : IsConfig first → NamesRegistries (fieldsIn first) →
    ∃ merged, mergeConfigs [] first = .ok merged ∧ mergeConfigs first [] = .ok merged ∧
      mergeConfigs first first = .ok merged
  /-- A document that cannot be read is refused in all three ways. -/
  neutralUnread : ¬ IsReadable first →
    IsRefused (mergeConfigs [] first) ∧ IsRefused (mergeConfigs first []) ∧
      IsRefused (mergeConfigs first first)
  /-- What was written is written again. -/
  canonical : IsConfig first → IsConfig second →
    ∀ merged, mergeConfigs first second = .ok merged → mergeConfigs merged [] = .ok merged
  /-- What is no text of an object is refused on either side. -/
  refused : ¬ IsObjectText first ∨ ¬ IsObjectText second → IsRefused (mergeConfigs first second)

/-- **The laws of putting documents of credentials over each other.** -/
theorem mergeConfigs_laws (first second third : List UInt8) : MergeLaws first second third where
  assoc config secondConfig thirdConfig := by
    have holds := config.holds
    have secondHolds := secondConfig.holds
    have thirdHolds := thirdConfig.holds
    obtain ⟨isBelow, below⟩ := holds.mergeConfigs secondHolds
    obtain ⟨isAbove, above⟩ := secondHolds.mergeConfigs thirdHolds
    refine ⟨_, _, _, isBelow, isAbove, (below.mergeConfigs thirdHolds).1, ?_⟩
    rw [mergeFields_assoc holds.kept secondHolds.kept thirdHolds.kept]
    exact (holds.mergeConfigs above).1
  assocUnread unread := by
    constructor
    · refine isRefused_bind fun read secondRead merged => isRefused_mergeConfigs (Or.inr ?_)
      exact fun thirdRead => unread ⟨read, secondRead, thirdRead⟩
    · refine isRefused_bind fun secondRead thirdRead merged => isRefused_mergeConfigs (Or.inl ?_)
      exact fun read => unread ⟨read, secondRead, thirdRead⟩
  neutral config names := by
    have holds := config.holds
    refine ⟨writeFields (fieldsIn first), ?_, (holds.mergeConfigs holds_nil).1, ?_⟩
    · rw [(holds_nil.mergeConfigs holds).1, nil_mergeFields holds.kept names]
    · rw [(holds.mergeConfigs holds).1, mergeFields_self holds.kept names]
  neutralUnread unread :=
    ⟨isRefused_mergeConfigs (Or.inr unread), isRefused_mergeConfigs (Or.inl unread),
      isRefused_mergeConfigs (Or.inl unread)⟩
  canonical config secondConfig merged written := by
    obtain ⟨isMerged, holds⟩ := config.holds.mergeConfigs secondConfig.holds
    obtain rfl := Except.ok.inj (isMerged.symm.trans written)
    exact (holds.mergeConfigs holds_nil).1
  refused noObject :=
    isRefused_mergeConfigs (noObject.imp (mt IsReadable.isObjectText) (mt IsReadable.isObjectText))

/-- A document in which a number stands for the registries. -/
def oddFields : List Field :=
  [(authsKey, .integer 5), ("credsStore", .string "own")]

/-- A document that names a registry. -/
def namedFields : List Field :=
  [(authsKey, .object [("a.io", .string "new")])]

theorem kept_oddFields : Kept Raw.depthLimit (.object oddFields) :=
  .object (by decide) <| List.forall_mem_cons.mpr
    ⟨.integer ⟨by decide, by decide⟩, List.forall_mem_singleton.mpr (.string _)⟩

theorem kept_namedFields : Kept Raw.depthLimit (.object namedFields) :=
  .object (by decide) <| List.forall_mem_singleton.mpr <|
    .object (by decide) <| List.forall_mem_singleton.mpr (.string _)

/-- An array is no object. -/
theorem not_isObjectText_array : ¬ IsObjectText [0x5B, 0x5D] := by
  rintro (empty | ⟨text, members, decoded, found⟩)
  · cases empty
  · cases decoded
    cases found

/-- A number for the registries, on both sides of a document that names one, does not matter for how
the three are grouped; the document in the middle is kept by itself, and an array is refused. -/
theorem oddFields_grouped :
    (∃ below above merged,
      mergeConfigs (writeFields oddFields) (writeFields namedFields) = .ok below ∧
      mergeConfigs (writeFields namedFields) (writeFields oddFields) = .ok above ∧
      mergeConfigs below (writeFields oddFields) = .ok merged ∧
      mergeConfigs (writeFields oddFields) above = .ok merged ∧
      mergeConfigs below [] = .ok below) ∧
    (∃ merged, mergeConfigs [] (writeFields namedFields) = .ok merged ∧
      mergeConfigs (writeFields namedFields) [] = .ok merged ∧
      mergeConfigs (writeFields namedFields) (writeFields namedFields) = .ok merged) ∧
    IsRefused (mergeConfigs [0x5B, 0x5D] []) := by
  have odd : IsConfig (writeFields oddFields) :=
    Or.inr (isDocument_writeFields kept_oddFields rfl)
  have named : IsConfig (writeFields namedFields) :=
    Or.inr (isDocument_writeFields kept_namedFields rfl)
  have names : NamesRegistries (fieldsIn (writeFields namedFields)) := by
    rw [fieldsIn_eq (readFields_writeFields kept_namedFields)]
    rintro _ ⟨⟩
    exact ⟨_, rfl⟩
  have laws := mergeConfigs_laws (writeFields oddFields) (writeFields namedFields)
    (writeFields oddFields)
  obtain ⟨below, above, merged, isBelow, isAbove, grouped, otherwise⟩ := laws.assoc odd named odd
  exact ⟨⟨below, above, merged, isBelow, isAbove, grouped, otherwise,
      laws.canonical odd named below isBelow⟩,
    (mergeConfigs_laws (writeFields namedFields) [] []).neutral named names,
    (mergeConfigs_laws [0x5B, 0x5D] [] []).refused (Or.inl not_isObjectText_array)⟩

end NodeStorage.Registry
