/-
**Records are read back field by field.**

What a record is written as and what it is read from go by the same names. A field that is written
is found again under its name, and one that is left out is not found (`fields_record`), so it is
enough to say for every field how its value is read: `ReadAs` says so of a value, and there is one
lemma for each way of asking for a field.
-/

import Mathlib.Data.List.Basic
import NodeStorage.Proofs.Json.Numbers
import NodeStorage.Proofs.Outcome

namespace NodeStorage.Json

/-! ### Values -/

section Values

variable {α : Type} {read : Raw → Reading α}

/-- The written value is read with this result. -/
def ReadAs (read : Raw → Reading α) (value : Json) (result : α) : Prop :=
  ∃ document, raw? value = some document ∧ read document = .ok result

/-- **What is read from the text of a value** is what is read from its document. -/
theorem ReadAs.readText {value : Json} {result : α} (means : ReadAs read value result) :
    readText read value.toText = .ok result := by
  obtain ⟨document, known, result⟩ := means
  rw [Json.readText, Raw.parse, parse?_toText known]
  exact result

theorem ReadAs.writable {value : Json} {result : α} (means : ReadAs read value result) :
    (raw? value).isSome = true := by
  obtain ⟨document, known, -⟩ := means
  rw [known]
  rfl

theorem readAs_text (text : String) : ReadAs Raw.text (.string text) text :=
  ⟨_, rfl, rfl⟩

theorem readAs_boolean (value : Bool) : ReadAs Raw.boolean (.bool value) value :=
  ⟨_, rfl, rfl⟩

theorem readAs_integer64 {value : Int} (fits : Text.fitsSigned value = true) :
    ReadAs Raw.integer64 (.integer value) value := by
  have range : -9223372036854775808 ≤ value ∧ value ≤ 9223372036854775807 := by
    simpa [Text.fitsSigned] using fits
  have word : FitsWord value := ⟨range.1, by simp only [Text.maxUnsigned]; omega⟩
  refine ⟨_, rfl, ?_⟩
  simp only [Raw.integer64, Raw.integerBetween, Numeral.value?_ofInt word]
  exact if_pos range

/-- A variant is read from its name. -/
theorem readAs_variant {values : List (String × α)} {name : String} {value : α}
    (found : values.find? (fun entry => entry.1 == name) = some (name, value)) :
    ReadAs (Raw.variant values) (.string name) value := by
  refine ⟨_, rfl, ?_⟩
  rw [Raw.variant]
  exact ok_bind rfl (by rw [found])

/-- A list is read item by item. -/
theorem readAs_list {encode : α → Json} {items : List α}
    (each : ∀ item ∈ items, ReadAs read (encode item) item) :
    ReadAs (Raw.list read) (.array (items.map encode)) items := by
  suffices ∃ documents, rawItems? (items.map encode) = some documents ∧
      documents.mapM read = .ok items by
    obtain ⟨documents, known, means⟩ := this
    exact ⟨.array documents, by rw [raw?, known]; rfl, means⟩
  induction items with
  | nil => exact ⟨[], rfl, rfl⟩
  | cons item items ih =>
    obtain ⟨first, rest⟩ := List.forall_mem_cons.mp each
    obtain ⟨document, known, means⟩ := first
    obtain ⟨documents, others, mean⟩ := ih rest
    refine ⟨document :: documents, rawItems?_cons_iff.mpr ⟨_, _, known, others, rfl⟩, ?_⟩
    rw [List.mapM_cons, means, mean]
    rfl

theorem readAs_texts (texts : List String) : ReadAs (Raw.list Raw.text) (ofTexts texts) texts :=
  readAs_list fun text _ => readAs_text text

theorem eq_null_of_raw? {value : Json} (known : raw? value = some .null) : value = .null := by
  cases value with
  | null => rfl
  | bool | integer | string => cases known
  | decimal value => cases (raw?_decimal_eq_some known).2
  | array items =>
    obtain ⟨documents, -, other⟩ := Option.map_eq_some_iff.mp known
    cases other
  | object fields =>
    obtain ⟨documents, -, other⟩ := Option.map_eq_some_iff.mp known
    cases other

end Values

/-! ### Finding the fields of a record -/

/-- The fields of a record that are written, with their documents. -/
def writtenFields (fields : List (String × Option Json)) : List (String × Raw) :=
  fields.filterMap fun field => (field.2.bind raw?).map fun document => (field.1, document)

theorem writtenFields_cons_of_none {name : String} {value : Option Json}
    {fields : List (String × Option Json)} (nothing : value.bind raw? = none) :
    writtenFields ((name, value) :: fields) = writtenFields fields :=
  List.filterMap_cons_none (congrArg (Option.map _) nothing)

theorem writtenFields_cons_of_some {name : String} {value : Option Json} {document : Raw}
    {fields : List (String × Option Json)} (is : value.bind raw? = some document) :
    writtenFields ((name, value) :: fields) = (name, document) :: writtenFields fields :=
  List.filterMap_cons_some (congrArg (Option.map _) is)

theorem keys_writtenFields (fields : List (String × Option Json)) :
    ((writtenFields fields).map Prod.fst).Sublist (fields.map Prod.fst) := by
  induction fields with
  | nil => exact .slnil
  | cons field fields ih =>
    obtain ⟨name, value⟩ := field
    cases known : value.bind raw? with
    | none => rw [writtenFields_cons_of_none known]; exact ih.cons name
    | some document => rw [writtenFields_cons_of_some known]; exact ih.cons_cons name

theorem rawFields?_record {fields : List (String × Option Json)}
    (writable : ∀ field ∈ fields, ∀ value ∈ field.2, (raw? value).isSome = true) :
    rawFields? (fields.filterMap fun field => field.2.map fun value => (field.1, value)) =
      some ((writtenFields fields).map fun entry => (some entry.1, entry.2)) := by
  induction fields with
  | nil => rfl
  | cons field fields ih =>
    obtain ⟨name, value⟩ := field
    obtain ⟨first, rest⟩ := List.forall_mem_cons.mp writable
    cases value with
    | none => exact ih rest
    | some value =>
      obtain ⟨document, is⟩ := Option.isSome_iff_exists.mp (first value rfl)
      have known : (some value).bind raw? = some document := is
      rw [writtenFields_cons_of_some known]
      exact rawFields?_cons_iff.mpr ⟨_, _, is, ih rest, rfl⟩

/-- Fields of the record, none of them twice, are taken as they are. -/
theorem namedFields_eq_ok {names : List String} {entries found : List (String × Raw)}
    (known : ∀ entry ∈ entries, entry.1 ∈ names)
    (distinct : ((found ++ entries).map Prod.fst).Nodup) :
    namedFields names (entries.map fun entry => (some entry.1, entry.2)) found =
      .ok (found ++ entries) := by
  induction entries generalizing found with
  | nil => rw [List.append_nil]; rfl
  | cons entry entries ih =>
    obtain ⟨here, later⟩ := List.forall_mem_cons.mp known
    have fresh : (found.any fun other => other.1 == entry.1) = false := by
      rw [List.map_append, List.nodup_append] at distinct
      rw [List.any_eq_false]
      intro other member same
      exact distinct.2.2 _ (List.mem_map_of_mem member) _
        (List.mem_map_of_mem List.mem_cons_self) (eq_of_beq same)
    rw [List.append_cons] at distinct ⊢
    rw [List.map_cons, namedFields, if_pos (List.contains_iff_mem.mpr here), fresh]
    exact ih later distinct

/-- A written field is found under its name, and no other is. -/
theorem find?_writtenFields {fields : List (String × Option Json)}
    (distinct : (fields.map Prod.fst).Nodup) {field : String × Option Json}
    (member : field ∈ fields) :
    ((writtenFields fields).find? fun entry => entry.1 == field.1).map Prod.snd =
      field.2.bind raw? := by
  induction fields with
  | nil => cases member
  | cons other fields ih =>
    obtain ⟨name, value⟩ := other
    obtain ⟨fresh, rest⟩ := List.nodup_cons.mp distinct
    rcases List.mem_cons.mp member with rfl | later
    · cases known : value.bind raw? with
      | none =>
        rw [writtenFields_cons_of_none known, Option.map_eq_none_iff, List.find?_eq_none]
        intro entry written same
        exact fresh (eq_of_beq same ▸
          (keys_writtenFields fields).subset (List.mem_map_of_mem written))
      | some document =>
        rw [writtenFields_cons_of_some known]
        simp
    · have differs : name ≠ field.1 := fun same =>
        fresh (show name ∈ _ from same ▸ List.mem_map_of_mem later)
      rw [← ih rest later]
      cases known : value.bind raw? with
      | none => rw [writtenFields_cons_of_none known]
      | some document =>
        rw [writtenFields_cons_of_some known, List.find?_cons_of_neg (by simpa using differs)]

/-- **What is written of a record is found under its name**, and what is left out is not found. -/
theorem fields_record {fields : List (String × Option Json)}
    (distinct : (fields.map Prod.fst).Nodup)
    (writable : ∀ field ∈ fields, ∀ value ∈ field.2, (raw? value).isSome = true) :
    ∃ document given, raw? (record fields) = some document ∧
      document.fields (fields.map Prod.fst) = .ok given ∧
      ∀ field ∈ fields, given.find? field.1 = field.2.bind raw? := by
  have keys := keys_writtenFields fields
  have taken : namedFields (fields.map Prod.fst)
      ((writtenFields fields).map fun entry => (some entry.1, entry.2)) [] =
        .ok (writtenFields fields) :=
    namedFields_eq_ok (fun entry member => keys.subset (List.mem_map_of_mem member))
      (keys.nodup distinct)
  refine ⟨_, ⟨true, writtenFields fields⟩,
    by rw [record, raw?, rawFields?_record writable]; rfl, ?_, ?_⟩
  · rw [Raw.fields, taken]
    rfl
  · exact fun field member => find?_writtenFields distinct member

/-! ### Asking for a field -/

section Fields

variable {α : Type} {read : Raw → Reading α} {fields : Fields} {name : String}

theorem Raw.optional_of_ne_null {document : Raw} (other : document ≠ .null) :
    Raw.optional read document = (read document).map some := by
  cases document <;> first | rfl | exact absurd rfl other

theorem Fields.required_eq_ok {value : Json} {result : α} (found : fields.find? name = raw? value)
    (means : ReadAs read value result) : fields.required name read = .ok result := by
  obtain ⟨document, known, result⟩ := means
  rw [required, found, known]
  exact result

theorem Fields.withDefault_eq_ok {value : Json} {result default : α}
    (found : fields.find? name = raw? value) (means : ReadAs read value result) :
    fields.withDefault name read default = .ok result := by
  obtain ⟨document, known, result⟩ := means
  rw [withDefault, found, known]
  exact result

/-- A field that is left out where there is no value is read as none. -/
theorem Fields.optional_eq_ok {value : Option α} {encode : α → Json}
    (found : fields.find? name = (value.map encode).bind raw?)
    (means : ∀ given, value = some given → ReadAs read (encode given) given)
    (visible : ∀ given, encode given ≠ .null) : fields.optional name read = .ok value := by
  rw [optional, withDefault, found]
  cases value with
  | none => rfl
  | some given =>
    obtain ⟨document, known, result⟩ := means given rfl
    rw [Option.map_some, Option.bind_some, known]
    have other : document ≠ .null := fun null => visible given (eq_null_of_raw? (null ▸ known))
    show Raw.optional read document = .ok (some given)
    rw [Raw.optional_of_ne_null other, result]
    rfl

theorem Fields.optional_text {value : Option String}
    (found : fields.find? name = (value.map .string).bind raw?) :
    fields.optional name Raw.text = .ok value :=
  optional_eq_ok found (fun text _ => readAs_text text) fun text null => by cases null

/-- A text that is written as null where there is none is read as none. -/
theorem Fields.optional_ofText? {value : Option α} {encode : α → String}
    (found : fields.find? name = raw? (ofText? (value.map encode)))
    (means : ∀ given, value = some given → ReadAs read (.string (encode given)) given) :
    fields.optional name read = .ok value := by
  rw [optional, withDefault, found]
  cases value with
  | none => rfl
  | some given =>
    obtain ⟨document, known, result⟩ := means given rfl
    cases known
    exact congrArg (Except.map some) result

end Fields

/-- **A record is read as its reader reads it field by field.** -/
theorem readAs_record {α : Type} {read : Raw → Reading α} {fields : List (String × Option Json)}
    {result : α} (distinct : (fields.map Prod.fst).Nodup)
    (writable : ∀ field ∈ fields, ∀ value ∈ field.2, (raw? value).isSome = true)
    (means : ∀ document given, document.fields (fields.map Prod.fst) = .ok given →
      (∀ field ∈ fields, given.find? field.1 = field.2.bind raw?) → read document = .ok result) :
    ReadAs read (record fields) result := by
  obtain ⟨document, given, known, taken, found⟩ := fields_record distinct writable
  exact ⟨document, known, means document given taken found⟩

end NodeStorage.Json
