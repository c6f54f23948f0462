/-
**Reading what was written.**

The text of a value is read as the document that the value stands for (`parse?_document`). For a
value without decimals, or with no other than minus zero, `raw?` names this document
(`parse?_toText`); such a document means the value again, where another decimal may be read as a
neighbour of itself.

The proof is one induction on the value, together with the items of an array and the fields of an
object. What follows a value matters only for a number, which ends at the comma or bracket behind
it. Reading counts its steps down from twice the length of the text: an item and the list it begins
take one step each, and both are paid for by a character.
-/

import NodeStorage.Proofs.Json.Decimals

namespace NodeStorage.Json

/-! ### The document of a value -/

mutual

/-- The document that the text of a value is. -/
def document : Json → Raw
  | .null => .null
  | .bool value => .bool value
  | .integer value => .number (Numeral.ofInt value)
  | .decimal value => .number (Numeral.ofDouble value)
  | .string value => .string (some value)
  | .array items => .array (documents items)
  | .object fields => .object (namedDocuments fields)

/-- The documents of an array's items. -/
def documents : List Json → List Raw
  | [] => []
  | item :: rest => document item :: documents rest

/-- The names and documents of an object's fields. -/
def namedDocuments : List (String × Json) → List (Option String × Raw)
  | [] => []
  | (name, value) :: rest => (some name, document value) :: namedDocuments rest

end

/-- Minus zero, which is no whole number. -/
def minusZero : Decimal.Double := ⟨true, 0, Decimal.Double.minExponent⟩

/-- Minus zero as it is written. -/
def Numeral.minusZero : Numeral := ⟨true, ['0'], some ['0'], none⟩

mutual

/-- The document that the text of a value is; `none` for a value with a decimal in it that is not
minus zero. -/
def raw? : Json → Option Raw
  | .null => some .null
  | .bool value => some (.bool value)
  | .integer value => some (.number (Numeral.ofInt value))
  | .decimal value => if value = minusZero then some (.number .minusZero) else none
  | .string value => some (.string (some value))
  | .array items => (rawItems? items).map .array
  | .object fields => (rawFields? fields).map .object

/-- The documents of an array's items. -/
def rawItems? : List Json → Option (List Raw)
  | [] => some []
  | item :: rest => do
    let document ← raw? item
    let documents ← rawItems? rest
    pure (document :: documents)

/-- The names and documents of an object's fields. -/
def rawFields? : List (String × Json) → Option (List (Option String × Raw))
  | [] => some []
  | (name, value) :: rest => do
    let document ← raw? value
    let documents ← rawFields? rest
    pure ((some name, document) :: documents)

end

theorem raw?_decimal_eq_some {value : Decimal.Double} {document : Raw}
    (known : raw? (.decimal value) = some document) :
    value = minusZero ∧ document = .number .minusZero := by
  rw [raw?] at known
  split at known
  · rename_i same
    exact ⟨same, (Option.some.inj known).symm⟩
  · cases known

theorem rawItems?_cons_iff {item : Json} {items : List Json} {documents : List Raw} :
    rawItems? (item :: items) = some documents ↔
      ∃ document rest, raw? item = some document ∧ rawItems? items = some rest ∧
        documents = document :: rest := by
  simp only [rawItems?, Option.bind_eq_bind, Option.bind_eq_some_iff, Option.pure_def,
    Option.some.injEq]
  constructor
  · rintro ⟨document, first, rest, others, rfl⟩
    exact ⟨document, rest, first, others, rfl⟩
  · rintro ⟨document, rest, first, others, rfl⟩
    exact ⟨document, first, rest, others, rfl⟩

theorem rawFields?_cons_iff {name : String} {value : Json} {fields : List (String × Json)}
    {documents : List (Option String × Raw)} :
    rawFields? ((name, value) :: fields) = some documents ↔
      ∃ document rest, raw? value = some document ∧ rawFields? fields = some rest ∧
        documents = (some name, document) :: rest := by
  simp only [rawFields?, Option.bind_eq_bind, Option.bind_eq_some_iff, Option.pure_def,
    Option.some.injEq]
  constructor
  · rintro ⟨document, first, rest, others, rfl⟩
    exact ⟨document, rest, first, others, rfl⟩
  · rintro ⟨document, rest, first, others, rfl⟩
    exact ⟨document, first, rest, others, rfl⟩

mutual

/-- What `raw?` names is the document of the value. -/
theorem eq_document_of_raw? (value : Json) (found : Raw) (known : raw? value = some found) :
    found = document value := by
  cases value with
  | null | bool | integer | string => exact (Option.some.inj known).symm
  | decimal value =>
    obtain ⟨rfl, rfl⟩ := raw?_decimal_eq_some known
    rfl
  | array items =>
    obtain ⟨inside, others, rfl⟩ := Option.map_eq_some_iff.mp known
    rw [document, eq_documents_of_rawItems? items inside others]
  | object fields =>
    obtain ⟨inside, others, rfl⟩ := Option.map_eq_some_iff.mp known
    rw [document, eq_namedDocuments_of_rawFields? fields inside others]

theorem eq_documents_of_rawItems? (items : List Json) (found : List Raw)
    (known : rawItems? items = some found) : found = documents items := by
  match items with
  | [] => exact (Option.some.inj known).symm
  | item :: items =>
    obtain ⟨first, rest, single, others, rfl⟩ := rawItems?_cons_iff.mp known
    rw [documents, eq_document_of_raw? item first single,
      eq_documents_of_rawItems? items rest others]

theorem eq_namedDocuments_of_rawFields? (fields : List (String × Json))
    (found : List (Option String × Raw)) (known : rawFields? fields = some found) :
    found = namedDocuments fields := by
  match fields with
  | [] => exact (Option.some.inj known).symm
  | (name, value) :: fields =>
    obtain ⟨first, rest, single, others, rfl⟩ := rawFields?_cons_iff.mp known
    rw [namedDocuments, eq_document_of_raw? value first single,
      eq_namedDocuments_of_rawFields? fields rest others]

end

/-! ### The first character -/

theorem skipBlanks_cons {c : Char} {rest : List Char}
    (visible : c ≠ ' ' ∧ c ≠ '\n' ∧ c ≠ '\r' ∧ c ≠ '\t') : skipBlanks (c :: rest) = c :: rest := by
  simp [skipBlanks, visible]

theorem readValue_number (fuel : Nat) {c : Char} {rest : List Char}
    (number : c = '-' ∨ c.isDigit = true) :
    readValue (fuel + 1) (c :: rest) =
      (readNumber (c :: rest)).map fun found => (.number found.1, found.2) := by
  have visible : c ≠ ' ' ∧ c ≠ '\n' ∧ c ≠ '\r' ∧ c ≠ '\t' := by
    refine ⟨?_, ?_, ?_, ?_⟩ <;> (rintro rfl; revert number; decide)
  have other : c ≠ 'n' ∧ c ≠ 't' ∧ c ≠ 'f' ∧ c ≠ '"' ∧ c ≠ '[' ∧ c ≠ '{' := by
    refine ⟨?_, ?_, ?_, ?_, ?_, ?_⟩ <;> (rintro rfl; revert number; decide)
  rw [readValue, skipBlanks_cons visible]
  split <;> simp_all

/-- The first character of a value is no blank and closes nothing. -/
theorem write_eq_cons (value : Json) :
    ∃ c rest, write value = c :: rest ∧
      (c ≠ ' ' ∧ c ≠ '\n' ∧ c ≠ '\r' ∧ c ≠ '\t') ∧ c ≠ ']' := by
  have number {c : Char} (first : c = '-' ∨ c.isDigit = true) :
      (c ≠ ' ' ∧ c ≠ '\n' ∧ c ≠ '\r' ∧ c ≠ '\t') ∧ c ≠ ']' := by
    refine ⟨⟨?_, ?_, ?_, ?_⟩, ?_⟩ <;> (rintro rfl; revert first; decide)
  cases value with
  | null => exact ⟨'n', _, rfl, by decide⟩
  | bool value =>
    cases value
    · exact ⟨'f', _, rfl, by decide⟩
    · exact ⟨'t', _, rfl, by decide⟩
  | integer value =>
    obtain ⟨c, rest, same, first⟩ := toString_eq_cons value
    exact ⟨c, rest, same, number first⟩
  | decimal value =>
    obtain ⟨c, rest, same, first⟩ := Numeral.write_eq_cons value
    exact ⟨c, rest, same, number first⟩
  | string value => exact ⟨'"', _, rfl, by decide⟩
  | array items => exact ⟨'[', _, rfl, by decide⟩
  | object fields => exact ⟨'\x7b', _, rfl, by decide⟩

/-- The first character of a list of items is no blank and does not close the list. -/
theorem writeItems_eq_cons {items : List Json} (given : items ≠ []) :
    ∃ c rest, writeItems items = c :: rest ∧
      (c ≠ ' ' ∧ c ≠ '\n' ∧ c ≠ '\r' ∧ c ≠ '\t') ∧ c ≠ ']' := by
  match items, given with
  | [item], _ => exact write_eq_cons item
  | item :: next :: items, _ =>
    obtain ⟨c, tail, same, visible⟩ := write_eq_cons item
    exact ⟨c, tail ++ ',' :: writeItems (next :: items), by rw [writeItems, same]; rfl, visible⟩

theorem writeFields_eq_cons {fields : List (String × Json)} (given : fields ≠ []) :
    ∃ rest, writeFields fields = '"' :: rest := by
  match fields, given with
  | [(name, value)], _ => exact ⟨_, rfl⟩
  | (name, value) :: next :: rest, _ => exact ⟨_, rfl⟩

/-! ### One step of reading -/

theorem endsNumber_cons {c : Char} (rest : List Char)
    (other : c.isDigit = false ∧ c ≠ '.' ∧ c ≠ 'e' ∧ c ≠ 'E') : EndsNumber (c :: rest) := by
  rintro d ⟨rfl⟩
  exact other

theorem readValue_array {fuel : Nat} {c : Char} {inside rest : List Char} {documents : List Raw}
    (visible : c ≠ ' ' ∧ c ≠ '\n' ∧ c ≠ '\r' ∧ c ≠ '\t') (other : c ≠ ']')
    (read : readItems fuel (c :: inside) = some (documents, rest)) :
    readValue (fuel + 1) ('[' :: c :: inside) = some (.array documents, rest) := by
  simp [readValue, skipBlanks_cons (c := '[') (by decide), skipBlanks_cons visible, other, read]

theorem readValue_object {fuel : Nat} {inside rest : List Char}
    {documents : List (Option String × Raw)}
    (read : readFields fuel ('"' :: inside) = some (documents, rest)) :
    readValue (fuel + 1) ('\x7b' :: '"' :: inside) = some (.object documents, rest) := by
  simp [readValue, skipBlanks, read]

theorem readItems_last {fuel : Nat} {chars rest : List Char} {document : Raw}
    (read : readValue fuel chars = some (document, ']' :: rest)) :
    readItems (fuel + 1) chars = some ([document], rest) := by
  simp [readItems, read, skipBlanks]

theorem readItems_step {fuel : Nat} {chars later rest : List Char} {document : Raw}
    {documents : List Raw} (read : readValue fuel chars = some (document, ',' :: later))
    (others : readItems fuel later = some (documents, rest)) :
    readItems (fuel + 1) chars = some (document :: documents, rest) := by
  simp [readItems, read, skipBlanks, others]

theorem readFields_last {fuel : Nat} {name : String} {chars rest : List Char} {document : Raw}
    (read : readValue fuel chars = some (document, '\x7d' :: rest)) :
    readFields (fuel + 1) (writeString name ++ ':' :: chars) =
      some ([(some name, document)], rest) := by
  have named := readString_written name (':' :: chars)
  simp [readFields, writeString, skipBlanks, named, read]

theorem readFields_step {fuel : Nat} {name : String} {chars later rest : List Char}
    {document : Raw} {documents : List (Option String × Raw)}
    (read : readValue fuel chars = some (document, ',' :: later))
    (others : readFields fuel later = some (documents, rest)) :
    readFields (fuel + 1) (writeString name ++ ':' :: chars) =
      some ((some name, document) :: documents, rest) := by
  have named := readString_written name (':' :: chars)
  simp [readFields, writeString, skipBlanks, named, read, others]

/-! ### Values -/

mutual

/-- **A written value is read back**, wherever it stands. -/
theorem readValue_write (value : Json) (fuel : Nat) (enough : 2 * (write value).length ≤ fuel)
    (rest : List Char) (ends : EndsNumber rest) :
    readValue fuel (write value ++ rest) = some (document value, rest) := by
  obtain ⟨c, tail, first, -⟩ := write_eq_cons value
  obtain ⟨fuel, rfl⟩ : ∃ less, fuel = less + 1 :=
    ⟨fuel - 1, by rw [first, List.length_cons] at enough; omega⟩
  cases value with
  | null => rfl
  | bool value => cases value <;> rfl
  | integer value =>
    obtain ⟨c, tail, same, number⟩ := toString_eq_cons value
    have read := readNumber_toString value ends
    rw [write, same, List.cons_append] at *
    rw [readValue_number fuel number, read]
    rfl
  | decimal value =>
    obtain ⟨c, tail, same, number⟩ := Numeral.write_eq_cons value
    have read := Numeral.readNumber_decimal value ends
    rw [write, same, List.cons_append] at *
    rw [readValue_number fuel number, read]
    rfl
  | string value =>
    have read := readString_written value rest
    simp [write, writeString, readValue, skipBlanks, read, document]
  | array items =>
    by_cases given : items = []
    · subst given
      rfl
    · obtain ⟨c, tail, same, visible, other⟩ := writeItems_eq_cons given
      have read := readItems_write items given fuel
        (by
          simp only [write, List.length_append, List.length_cons, List.length_nil] at enough
          omega)
        rest
      rw [same] at read
      rw [write, same, List.append_assoc]
      exact readValue_array visible other read
  | object fields =>
    by_cases given : fields = []
    · subst given
      rfl
    · obtain ⟨tail, same⟩ := writeFields_eq_cons given
      have read := readFields_write fields given fuel
        (by
          simp only [write, List.length_append, List.length_cons, List.length_nil] at enough
          omega)
        rest
      rw [same] at read
      rw [write, same, List.append_assoc]
      exact readValue_object read

/-- The items of a written array are read back. -/
theorem readItems_write (items : List Json) (given : items ≠ []) (fuel : Nat)
    (enough : 2 * (writeItems items).length < fuel) (rest : List Char) :
    readItems fuel (writeItems items ++ ']' :: rest) = some (documents items, rest) := by
  obtain ⟨fuel, rfl⟩ : ∃ less, fuel = less + 1 := ⟨fuel - 1, by omega⟩
  match items, given with
  | [item], _ =>
    exact readItems_last (readValue_write item fuel (by rw [writeItems] at enough; omega) _
      (endsNumber_cons _ (by decide)))
  | item :: next :: items, _ =>
    rw [writeItems, List.length_append, List.length_cons] at enough
    rw [writeItems, List.append_assoc]
    exact readItems_step
      (readValue_write item fuel (by omega) _ (endsNumber_cons _ (by decide)))
      (readItems_write (next :: items) (List.cons_ne_nil _ _) fuel (by omega) rest)

/-- The fields of a written object are read back. -/
theorem readFields_write (fields : List (String × Json)) (given : fields ≠ []) (fuel : Nat)
    (enough : 2 * (writeFields fields).length < fuel) (rest : List Char) :
    readFields fuel (writeFields fields ++ '\x7d' :: rest) =
      some (namedDocuments fields, rest) := by
  obtain ⟨fuel, rfl⟩ : ∃ less, fuel = less + 1 := ⟨fuel - 1, by omega⟩
  match fields, given with
  | [(name, value)], _ =>
    rw [writeFields, List.length_append, List.length_cons] at enough
    rw [writeFields, List.append_assoc]
    exact readFields_last (readValue_write value fuel (by omega) _
      (endsNumber_cons _ (by decide)))
  | (name, value) :: next :: fields, _ =>
    simp only [writeFields, List.length_append, List.length_cons] at enough
    simp only [writeFields, List.append_assoc, List.cons_append]
    exact readFields_step
      (readValue_write value fuel (by omega) _ (endsNumber_cons _ (by decide)))
      (readFields_write (next :: fields) (List.cons_ne_nil _ _) fuel (by omega) rest)

end

/-- **The text of a value is its document.** -/
theorem parse?_document (value : Json) : Raw.parse? value.toText = some (document value) := by
  have read := readValue_write value (2 * (write value).length + 2) (by omega) []
    (fun c member => by cases member)
  rw [List.append_nil] at read
  rw [Raw.parse?, toText, String.toList_ofList, read]
  rfl

/-- The text of a value is the document that `raw?` names. -/
theorem parse?_toText {value : Json} {found : Raw} (known : raw? value = some found) :
    Raw.parse? value.toText = some found := by
  rw [eq_document_of_raw? value found known]
  exact parse?_document value

end NodeStorage.Json
