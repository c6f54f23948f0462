/-
**Values are kept by their texts.**

What is read has sorted objects and numbers in their range (`Readable`), and it is not nested deeper
than its reader allows (`readable_of_valueWithin`).

A value may be a number of its own kind, so its text means the value again only if its numbers do:
here these are the whole numbers of 64 bits, and minus zero. Besides, its objects must be sorted and
it may not be nested too deeply. `Kept` says all this of a value; such a value is read as itself
(`Kept.parse`). What is read with no other numbers is kept (`kept_of_valueWithin`), also by a reader
that allows less nesting, as long as it allows as much as there is (`Kept.of_depth_le`).
-/

import Mathlib.Data.List.Basic
import NodeStorage.Proofs.Decimal.Range
import NodeStorage.Proofs.Json.Records
import NodeStorage.Proofs.Json.Sorted

namespace NodeStorage.Json

/-! ### The numbers and the nesting of a value -/

mutual

/-- Every number in the value is whole, or minus zero. -/
def isWhole : Json → Bool
  | .decimal value => value == minusZero
  | .array items => areWhole items
  | .object fields => fieldsWhole fields
  | _ => true

/-- The numbers in the items are whole. -/
def areWhole : List Json → Bool
  | [] => true
  | item :: rest => isWhole item && areWhole rest

/-- The numbers in the fields are whole. -/
def fieldsWhole : List Field → Bool
  | [] => true
  | (_, value) :: rest => isWhole value && fieldsWhole rest

end

mutual

/-- How deep arrays and objects are nested in the value. -/
def depth : Json → Nat
  | .array items => itemsDepth items + 1
  | .object fields => fieldsDepth fields + 1
  | _ => 0

/-- How deep arrays and objects are nested in the items. -/
def itemsDepth : List Json → Nat
  | [] => 0
  | item :: rest => max (depth item) (itemsDepth rest)

/-- How deep arrays and objects are nested in the fields. -/
def fieldsDepth : List Field → Nat
  | [] => 0
  | (_, value) :: rest => max (depth value) (fieldsDepth rest)

end

theorem areWhole_iff {items : List Json} :
    areWhole items = true ↔ ∀ item ∈ items, item.isWhole = true := by
  induction items with
  | nil => simp [areWhole]
  | cons item items ih => simp [areWhole, ih]

theorem fieldsWhole_iff {fields : List Field} :
    fieldsWhole fields = true ↔ ∀ field ∈ fields, field.2.isWhole = true := by
  induction fields with
  | nil => simp [fieldsWhole]
  | cons field fields ih => rw [fieldsWhole, Bool.and_eq_true, ih, List.forall_mem_cons]

theorem itemsDepth_le_iff {items : List Json} {limit : Nat} :
    itemsDepth items ≤ limit ↔ ∀ item ∈ items, item.depth ≤ limit := by
  induction items with
  | nil => simp [itemsDepth]
  | cons item items ih => rw [itemsDepth, Nat.max_le, ih, List.forall_mem_cons]

theorem fieldsDepth_le_iff {fields : List Field} {limit : Nat} :
    fieldsDepth fields ≤ limit ↔ ∀ field ∈ fields, field.2.depth ≤ limit := by
  induction fields with
  | nil => simp [fieldsDepth]
  | cons field fields ih => rw [fieldsDepth, Nat.max_le, ih, List.forall_mem_cons]

/-! ### Values that were read -/

/-- A value with sorted objects and with numbers in their range. -/
inductive Readable : Json → Prop
  | null : Readable .null
  | bool (value : Bool) : Readable (.bool value)
  | integer {value : Int} (fits : FitsWord value) : Readable (.integer value)
  | decimal {value : Decimal.Double} (inRange : value.InRange) : Readable (.decimal value)
  | string (value : String) : Readable (.string value)
  | array {items : List Json} (each : ∀ item ∈ items, Readable item) : Readable (.array items)
  | object {fields : List Field} (sorted : Sorted fields)
    (each : ∀ field ∈ fields, Readable field.2) : Readable (.object fields)

mutual

/-- **What is read is readable**, and nested no deeper than allowed. -/
theorem readable_of_valueWithin (document : Raw) (limit : Nat) (value : Json)
    (read : Raw.valueWithin limit document = .ok value) : Readable value ∧ value.depth ≤ limit := by
  cases document with
  | null => cases read; exact ⟨.null, Nat.zero_le _⟩
  | bool flag => cases read; exact ⟨.bool flag, Nat.zero_le _⟩
  | number numeral =>
    rw [Raw.valueWithin] at read
    split at read
    · rename_i known
      cases read
      exact ⟨.integer (Numeral.fitsWord_of_value? known), Nat.zero_le _⟩
    · rename_i known
      cases read
      exact ⟨.decimal (Numeral.inRange_of_value? known), Nat.zero_le _⟩
    · cases read
  | string content =>
    obtain ⟨text, -, rfl⟩ := map_eq_ok read
    exact ⟨.string text, Nat.zero_le _⟩
  | array items =>
    cases limit with
    | zero => cases read
    | succ limit =>
      obtain ⟨values, inside, rfl⟩ := map_eq_ok read
      have each := readable_of_itemsWithin items limit values inside
      exact ⟨.array fun item member => (each item member).1,
        Nat.succ_le_succ (itemsDepth_le_iff.mpr fun item member => (each item member).2)⟩
  | object fields =>
    cases limit with
    | zero => cases read
    | succ limit =>
      obtain ⟨pairs, inside, rfl⟩ := map_eq_ok read
      have each := readable_of_fieldsWithin fields limit pairs inside
      exact ⟨.object (sorted_sortFields pairs) fun field member =>
          (each field (mem_of_mem_sortFields member)).1,
        Nat.succ_le_succ (fieldsDepth_le_iff.mpr fun field member =>
          (each field (mem_of_mem_sortFields member)).2)⟩

theorem readable_of_itemsWithin (documents : List Raw) (limit : Nat) (values : List Json)
    (read : Raw.itemsWithin limit documents = .ok values) (value : Json)
    (member : value ∈ values) : Readable value ∧ value.depth ≤ limit := by
  match documents with
  | [] =>
    cases read
    cases member
  | document :: documents =>
    rw [Raw.itemsWithin] at read
    obtain ⟨first, here, rest⟩ := bind_eq_ok read
    obtain ⟨others, later, last⟩ := bind_eq_ok rest
    cases last
    rcases List.mem_cons.mp member with rfl | member
    · exact readable_of_valueWithin document limit value here
    · exact readable_of_itemsWithin documents limit others later value member

theorem readable_of_fieldsWithin (documents : List (Option String × Raw)) (limit : Nat)
    (pairs : List Field) (read : Raw.fieldsWithin limit documents = .ok pairs) (field : Field)
    (member : field ∈ pairs) : Readable field.2 ∧ field.2.depth ≤ limit := by
  match documents with
  | [] =>
    cases read
    cases member
  | (name, document) :: documents =>
    rw [Raw.fieldsWithin] at read
    obtain ⟨key, -, rest⟩ := bind_eq_ok read
    obtain ⟨value, here, rest⟩ := bind_eq_ok rest
    obtain ⟨others, later, last⟩ := bind_eq_ok rest
    cases last
    rcases List.mem_cons.mp member with rfl | member
    · exact readable_of_valueWithin document limit value here
    · exact readable_of_fieldsWithin documents limit others later field member

end

/-! ### Values that are kept -/

/-- A value that its text means again to a reader that allows so much nesting. -/
inductive Kept : (limit : Nat) → Json → Prop
  | null {limit : Nat} : Kept limit .null
  | bool {limit : Nat} (value : Bool) : Kept limit (.bool value)
  | integer {limit : Nat} {value : Int} (fits : FitsWord value) : Kept limit (.integer value)
  | minusZero {limit : Nat} : Kept limit (.decimal minusZero)
  | string {limit : Nat} (value : String) : Kept limit (.string value)
  | array {limit : Nat} {items : List Json} (each : ∀ item ∈ items, Kept limit item) :
    Kept (limit + 1) (.array items)
  | object {limit : Nat} {fields : List Field} (sorted : Sorted fields)
    (each : ∀ field ∈ fields, Kept limit field.2) : Kept (limit + 1) (.object fields)

theorem itemsWithin_eq_ok {limit : Nat} {items : List Json}
    (each : ∀ item ∈ items, ReadAs (Raw.valueWithin limit) item item) :
    ∃ documents, rawItems? items = some documents ∧
      Raw.itemsWithin limit documents = .ok items := by
  induction items with
  | nil => exact ⟨[], rfl, rfl⟩
  | cons item items ih =>
    obtain ⟨⟨document, known, read⟩, rest⟩ := List.forall_mem_cons.mp each
    obtain ⟨documents, others, reads⟩ := ih rest
    refine ⟨document :: documents, rawItems?_cons_iff.mpr ⟨_, _, known, others, rfl⟩, ?_⟩
    rw [Raw.itemsWithin]
    exact ok_bind read (ok_bind reads rfl)

theorem fieldsWithin_eq_ok {limit : Nat} {fields : List Field}
    (each : ∀ field ∈ fields, ReadAs (Raw.valueWithin limit) field.2 field.2) :
    ∃ documents, rawFields? fields = some documents ∧
      Raw.fieldsWithin limit documents = .ok fields := by
  induction fields with
  | nil => exact ⟨[], rfl, rfl⟩
  | cons field fields ih =>
    obtain ⟨⟨document, known, read⟩, rest⟩ := List.forall_mem_cons.mp each
    obtain ⟨documents, others, reads⟩ := ih rest
    refine ⟨(some field.1, document) :: documents,
      rawFields?_cons_iff.mpr ⟨_, _, known, others, rfl⟩, ?_⟩
    rw [Raw.fieldsWithin]
    exact ok_bind rfl (ok_bind read (ok_bind reads rfl))

namespace Kept

/-- **A kept value is read as itself.** -/
theorem readAs {limit : Nat} {value : Json} (kept : Kept limit value) :
    ReadAs (Raw.valueWithin limit) value value := by
  induction kept with
  | null => exact ⟨_, rfl, rfl⟩
  | bool value => exact ⟨_, rfl, rfl⟩
  | integer fits => exact ⟨_, rfl, by rw [Raw.valueWithin, Numeral.value?_ofInt fits]⟩
  | minusZero => exact ⟨_, rfl, by rw [Raw.valueWithin, Numeral.value?_minusZero]⟩
  | string value => exact ⟨_, rfl, rfl⟩
  | array _ ih =>
    obtain ⟨documents, known, read⟩ := itemsWithin_eq_ok ih
    exact ⟨.array documents, by rw [raw?, known]; rfl, by rw [Raw.valueWithin, read]; rfl⟩
  | object sorted _ ih =>
    obtain ⟨documents, known, read⟩ := fieldsWithin_eq_ok ih
    refine ⟨.object documents, by rw [raw?, known]; rfl, ?_⟩
    rw [Raw.valueWithin, read, Except.map, sortFields_eq_self sorted]

/-- **The text of a kept value means the value.** -/
theorem parse {value : Json} (kept : Kept Raw.depthLimit value) :
    Json.parse value.toText = .ok value :=
  kept.readAs.readText

theorem of_depth_le {limit less : Nat} {value : Json} (kept : Kept limit value)
    (shallow : value.depth ≤ less) : Kept less value := by
  induction kept generalizing less with
  | null => exact null
  | bool value => exact bool value
  | integer fits => exact integer fits
  | minusZero => exact minusZero
  | string value => exact string value
  | array _ ih =>
    rw [depth] at shallow
    obtain ⟨less, rfl⟩ : ∃ smaller, less = smaller + 1 := ⟨less - 1, by omega⟩
    have inside := itemsDepth_le_iff.mp (Nat.le_of_add_le_add_right shallow)
    exact array fun item member => ih item member (inside item member)
  | object sorted _ ih =>
    rw [depth] at shallow
    obtain ⟨less, rfl⟩ : ∃ smaller, less = smaller + 1 := ⟨less - 1, by omega⟩
    have inside := fieldsDepth_le_iff.mp (Nat.le_of_add_le_add_right shallow)
    exact object sorted fun field member => ih field member (inside field member)

theorem sorted {limit : Nat} {fields : List Field} (kept : Kept limit (.object fields)) :
    Sorted fields := by
  cases kept with
  | object sorted _ => exact sorted

theorem field {limit : Nat} {fields : List Field} (kept : Kept (limit + 1) (.object fields)) :
    ∀ field ∈ fields, Kept limit field.2 := by
  cases kept with
  | object _ each => exact each

/-- A field that is put among kept fields, and is kept itself, leaves them kept. -/
theorem insertSorted {limit : Nat} {fields : List Field} (kept : Kept (limit + 1) (.object fields))
    (key : String) {value : Json} (new : Kept limit value) :
    Kept (limit + 1) (.object (Json.insertSorted key value fields)) := by
  refine object (sorted_insertSorted key value kept.sorted) fun field member => ?_
  rcases mem_insertSorted member with rfl | before
  · exact new
  · exact kept.field field before

/-- What is put over kept fields, and is kept itself, leaves them kept. -/
theorem foldl_insertSorted {limit : Nat} {fields more : List Field}
    (kept : Kept (limit + 1) (.object fields)) (each : ∀ field ∈ more, Kept limit field.2) :
    Kept (limit + 1) (.object
      (more.foldl (fun merged field => Json.insertSorted field.1 field.2 merged) fields)) := by
  induction more generalizing fields with
  | nil => exact kept
  | cons field more ih =>
    obtain ⟨here, later⟩ := List.forall_mem_cons.mp each
    exact ih (kept.insertSorted field.1 here) later

end Kept

/-! ### Values that were read are kept -/

/-- A value that can be read again is kept if its numbers are whole and its nesting is allowed. -/
theorem Readable.kept {value : Json} (readable : Readable value) (whole : value.isWhole = true)
    {limit : Nat} (shallow : value.depth ≤ limit) : Kept limit value := by
  induction readable generalizing limit with
  | null => exact .null
  | bool value => exact .bool value
  | integer fits => exact .integer fits
  | decimal _ =>
    rw [eq_of_beq whole]
    exact .minusZero
  | string value => exact .string value
  | array _ ih =>
    rw [depth] at shallow
    obtain ⟨limit, rfl⟩ : ∃ smaller, limit = smaller + 1 := ⟨limit - 1, by omega⟩
    have inside := itemsDepth_le_iff.mp (Nat.le_of_add_le_add_right shallow)
    exact .array fun item member =>
      ih item member (areWhole_iff.mp whole item member) (inside item member)
  | object sorted _ ih =>
    rw [depth] at shallow
    obtain ⟨limit, rfl⟩ : ∃ smaller, limit = smaller + 1 := ⟨limit - 1, by omega⟩
    have inside := fieldsDepth_le_iff.mp (Nat.le_of_add_le_add_right shallow)
    exact .object sorted fun field member =>
      ih field member (fieldsWhole_iff.mp whole field member) (inside field member)

/-- **What is read is kept**, if its numbers are whole. -/
theorem kept_of_valueWithin (document : Raw) (limit : Nat) (value : Json)
    (read : Raw.valueWithin limit document = .ok value) (whole : value.isWhole = true) :
    Kept limit value := by
  obtain ⟨readable, shallow⟩ := readable_of_valueWithin document limit value read
  exact readable.kept whole shallow

end NodeStorage.Json
