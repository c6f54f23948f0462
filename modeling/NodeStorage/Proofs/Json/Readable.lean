/-
**What was read can be read again.**

A value that was read is written as a document that has a meaning again, for every reader that
allows its nesting, and that any other reader refuses as nested too deeply and for no other reason
(`Readable.answers`). The value that comes back has the same names in its object
(`keys_of_valueWithin_document`), but a decimal in it may be a neighbour of what it was.

A reader answers for a list what it answers for the deepest element, so its answers are put together
as the depths are (`Answers.bind`).
-/

import NodeStorage.Proofs.Decimal.Written
import NodeStorage.Proofs.Json.Members
import NodeStorage.Proofs.Json.Values

namespace NodeStorage.Json

/-! ### What a reader answers -/

/-- A reader that allows so much nesting gives a value for something so deep, or refuses it as too
deep. -/
structure Answers {α : Type} (limit depth : Nat) (outcome : Reading α) : Prop where
  read : depth ≤ limit → ∃ value, outcome = .ok value
  refused : limit < depth → outcome = .error .tooDeep

section Answers

variable {α β : Type} {limit depth later : Nat} {outcome : Reading α}

theorem answers_ok (limit : Nat) (value : α) : Answers limit 0 (.ok value : Reading α) :=
  ⟨fun _ => ⟨value, rfl⟩, fun deep => absurd deep (Nat.not_lt_zero _)⟩

theorem answers_zero (depth : Nat) : Answers 0 (depth + 1) (.error .tooDeep : Reading α) :=
  ⟨fun shallow => absurd shallow (Nat.not_succ_le_zero _), fun _ => rfl⟩

/-- A container takes one level of what is allowed. -/
theorem Answers.map (answers : Answers limit depth outcome) (f : α → β) :
    Answers (limit + 1) (depth + 1) (outcome.map f) where
  read shallow := by
    obtain ⟨value, rfl⟩ := answers.read (Nat.le_of_succ_le_succ shallow)
    exact ⟨f value, rfl⟩
  refused deep := by
    rw [answers.refused (Nat.lt_of_succ_lt_succ deep)]
    rfl

/-- What is read one after the other is refused if either is. -/
theorem Answers.bind (answers : Answers limit depth outcome) {next : α → Reading β}
    (rest : ∀ value, Answers limit later (next value)) :
    Answers limit (max depth later) (outcome >>= next) where
  read shallow := by
    obtain ⟨here, after⟩ := Nat.max_le.mp shallow
    obtain ⟨value, worked⟩ := answers.read here
    obtain ⟨result, done⟩ := (rest value).read after
    exact ⟨result, ok_bind worked done⟩
  refused deep := by
    by_cases here : depth ≤ limit
    · obtain ⟨value, worked⟩ := answers.read here
      rw [worked]
      exact (rest value).refused ((lt_max_iff.mp deep).resolve_left (Nat.not_lt.mpr here))
    · rw [answers.refused (Nat.not_le.mp here)]
      rfl

/-- What is made of a value when all is read changes no answer. -/
theorem Answers.bind_pure (answers : Answers limit depth outcome) (f : α → β) :
    Answers limit depth (outcome >>= fun value => pure (f value)) := by
  have all := answers.bind fun value => answers_ok limit (f value)
  rwa [Nat.max_zero] at all

end Answers

/-! ### Reading a written value -/

theorem answers_items {limit : Nat} {items : List Json}
    (each : ∀ item ∈ items, Answers limit item.depth (Raw.valueWithin limit (document item))) :
    Answers limit (itemsDepth items) (Raw.itemsWithin limit (documents items)) := by
  induction items with
  | nil => exact answers_ok limit []
  | cons item items ih =>
    obtain ⟨here, later⟩ := List.forall_mem_cons.mp each
    rw [itemsDepth, documents, Raw.itemsWithin]
    exact here.bind fun value => (ih later).bind_pure fun values => value :: values

theorem answers_fields {limit : Nat} {fields : List Field}
    (each : ∀ field ∈ fields,
      Answers limit field.2.depth (Raw.valueWithin limit (document field.2))) :
    Answers limit (fieldsDepth fields) (Raw.fieldsWithin limit (namedDocuments fields)) := by
  induction fields with
  | nil => exact answers_ok limit []
  | cons field fields ih =>
    obtain ⟨here, later⟩ := List.forall_mem_cons.mp each
    rw [fieldsDepth, namedDocuments, Raw.fieldsWithin]
    exact here.bind fun value => (ih later).bind_pure fun pairs => (field.1, value) :: pairs

/-- **A value that was read can be read again** wherever its nesting is allowed, and is refused as
too deep wherever it is not. -/
theorem Readable.answers {value : Json} (readable : Readable value) (limit : Nat) :
    Answers limit value.depth (Raw.valueWithin limit (document value)) := by
  induction readable generalizing limit with
  | null => exact answers_ok limit _
  | bool value => exact answers_ok limit _
  | integer fits =>
    rw [document, Raw.valueWithin, Numeral.value?_ofInt fits]
    exact answers_ok limit _
  | decimal inRange =>
    obtain ⟨again, known⟩ := Numeral.value?_ofDouble inRange
    rw [document, Raw.valueWithin, known]
    exact answers_ok limit _
  | string value => exact answers_ok limit _
  | array _ ih =>
    rw [depth, document]
    cases limit with
    | zero => exact answers_zero _
    | succ limit => exact (answers_items fun item member => ih item member limit).map _
  | object _ _ ih =>
    rw [depth, document]
    cases limit with
    | zero => exact answers_zero _
    | succ limit => exact (answers_fields fun field member => ih field member limit).map _

/-! ### The names of an object -/

theorem names_namedDocuments (fields : List Field) :
    names (namedDocuments fields) = fields.map fun field => some field.1 := by
  induction fields with
  | nil => rfl
  | cons field fields ih =>
    rw [namedDocuments, names, List.map_cons, ← names, ih, List.map_cons]

theorem some_mem_iff_mem_keys {name : String} {fields : List Field} :
    some name ∈ (fields.map fun field => some field.1) ↔ name ∈ keys fields := by
  simp [keys]

/-- The fields that are read go by the names that are written. -/
theorem names_eq_of_fieldsWithin {limit : Nat} {members : List Member} {pairs : List Field}
    (read : Raw.fieldsWithin limit members = .ok pairs) :
    names members = pairs.map fun field => some field.1 := by
  induction members generalizing pairs with
  | nil =>
    cases read
    rfl
  | cons member members ih =>
    obtain ⟨name, document⟩ := member
    rw [Raw.fieldsWithin] at read
    obtain ⟨key, named, rest⟩ := bind_eq_ok read
    obtain ⟨value, -, rest⟩ := bind_eq_ok rest
    obtain ⟨others, later, last⟩ := bind_eq_ok rest
    cases last
    rw [names, List.map_cons, ← names, ih later, List.map_cons]
    cases name with
    | none => cases named
    | some name =>
      cases named
      rfl

/-- The names in an object are those of its document, sorted and each of them once. -/
theorem mem_keys_of_valueWithin {limit : Nat} {members : List Member} {fields : List Field}
    (read : Raw.valueWithin limit (.object members) = .ok (.object fields)) (name : String) :
    some name ∈ names members ↔ name ∈ keys fields := by
  cases limit with
  | zero => cases read
  | succ limit =>
    obtain ⟨pairs, inside, same⟩ := map_eq_ok read
    cases same
    rw [names_eq_of_fieldsWithin inside, mem_keys_sortFields, some_mem_iff_mem_keys]

/-- **A written object comes back with the same names.** -/
theorem keys_of_valueWithin_document {limit : Nat} {fields : List Field} (sorted : Sorted fields)
    {again : Json} (read : Raw.valueWithin limit (document (.object fields)) = .ok again) :
    ∃ pairs, again = .object pairs ∧ keys pairs = keys fields := by
  cases limit with
  | zero => cases read
  | succ limit =>
    obtain ⟨pairs, inside, rfl⟩ := map_eq_ok read
    have same := names_eq_of_fieldsWithin inside
    rw [names_namedDocuments] at same
    have asBefore : keys pairs = keys fields := by
      have texts := congrArg (List.map (Option.getD · "")) same
      rw [List.map_map, List.map_map] at texts
      exact texts.symm
    refine ⟨pairs, ?_, asBefore⟩
    rw [sortFields_eq_self (sorted_iff_keys.mpr (asBefore ▸ sorted_iff_keys.mp sorted))]

end NodeStorage.Json
