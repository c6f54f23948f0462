/-
**The members of an object.**

A record can be read from an object exactly if all names in it are legible and none of the record's
own stands there twice (`IsRecord`); other names may stand there as often as they like. Each field
is then what the object gives under its name, so the order of the members does not matter
(`fields_object_eq_ok_iff`, `find?_taken`).
-/

import Mathlib.Data.List.Basic
import Mathlib.Tactic.Tauto
import NodeStorage.Json.Reader
import NodeStorage.Proofs.Outcome

namespace NodeStorage.Json

/-- A member of an object: its name, or none for one that holds half of a surrogate pair, and what
stands under it. -/
abbrev Member := Option String × Raw

/-- The names of members. -/
def names (members : List Member) : List (Option String) :=
  members.map Prod.fst

/-- What stands under a name, at its first place. -/
def under? (name : Option String) (members : List Member) : Option Raw :=
  (members.find? fun member => member.1 == name).map Prod.snd

/-- **A record with these fields can be read from the members.** -/
def IsRecord (fields : List String) : List Member → Prop
  | [] => True
  | (none, _) :: _ => False
  | (some name, _) :: rest => (name ∈ fields → some name ∉ names rest) ∧ IsRecord fields rest

instance (fields : List String) (members : List Member) : Decidable (IsRecord fields members) :=
  match members with
  | [] => isTrue trivial
  | (none, _) :: _ => isFalse id
  | (some name, _) :: rest =>
    have := instDecidableIsRecord fields rest
    inferInstanceAs (Decidable ((name ∈ fields → some name ∉ names rest) ∧ IsRecord fields rest))

/-- The members that a record takes. -/
def taken (fields : List String) : List Member → List (String × Raw)
  | [] => []
  | (none, _) :: rest => taken fields rest
  | (some name, value) :: rest =>
    if name ∈ fields then (name, value) :: taken fields rest else taken fields rest

variable {fields : List String} {members : List Member}

theorem namedFields_eq_ok_iff {found given : List (String × Raw)} :
    namedFields fields members found = .ok given ↔
      given = found ++ taken fields members ∧ IsRecord fields members ∧
        ∀ entry ∈ found, entry.1 ∈ fields → some entry.1 ∉ names members := by
  induction members generalizing found with
  | nil => simp [namedFields, taken, IsRecord, names, eq_comm]
  | cons member rest ih =>
    obtain ⟨name, value⟩ := member
    cases name with
    | none => simp [namedFields, IsRecord]
    | some name =>
      by_cases isField : name ∈ fields
      · have contained : fields.contains name = true := List.contains_iff_mem.mpr isField
        by_cases twice : ∃ entry ∈ found, entry.1 = name
        · have any : (found.any fun entry => entry.1 == name) = true := by simpa using twice
          rw [namedFields, if_pos contained, if_pos any]
          refine iff_of_false (by simp) ?_
          rintro ⟨-, -, once⟩
          obtain ⟨entry, member, rfl⟩ := twice
          exact once entry member isField List.mem_cons_self
        · have fresh : (found.any fun entry => entry.1 == name) = false := by
            refine List.any_eq_false.mpr fun entry member same => ?_
            exact twice ⟨entry, member, eq_of_beq same⟩
          rw [namedFields, if_pos contained, fresh, if_neg Bool.false_ne_true, ih, taken,
            if_pos isField, IsRecord, List.append_assoc, List.singleton_append,
            List.forall_mem_append, List.forall_mem_singleton]
          have apart : (∀ entry ∈ found, entry.1 ∈ fields →
              some entry.1 ∉ names ((some name, value) :: rest)) ↔
                ∀ entry ∈ found, entry.1 ∈ fields → some entry.1 ∉ names rest := by
            refine forall₂_congr fun entry member => imp_congr_right fun _ => ?_
            have differs : entry.1 ≠ name := fun same => twice ⟨entry, member, same⟩
            simp [names, differs]
          rw [apart]
          tauto
      · have other : fields.contains name = false := by simpa using isField
        rw [namedFields, other, if_neg Bool.false_ne_true, ih, taken, if_neg isField, IsRecord]
        have apart : (∀ entry ∈ found, entry.1 ∈ fields →
            some entry.1 ∉ names ((some name, value) :: rest)) ↔
              ∀ entry ∈ found, entry.1 ∈ fields → some entry.1 ∉ names rest := by
          refine forall₂_congr fun entry member => forall_congr' fun known => ?_
          have differs : entry.1 ≠ name := fun same => isField (same ▸ known)
          simp [names, differs]
        rw [apart]
        tauto

/-- **What a record takes from an object.** -/
theorem fields_object_eq_ok_iff {given : Fields} :
    (Raw.object members).fields fields = .ok given ↔
      given = ⟨true, taken fields members⟩ ∧ IsRecord fields members := by
  rw [Raw.fields]
  constructor
  · intro read
    obtain ⟨entries, named, rfl⟩ := map_eq_ok read
    obtain ⟨rfl, isRecord, -⟩ := namedFields_eq_ok_iff.mp named
    exact ⟨rfl, isRecord⟩
  · rintro ⟨rfl, isRecord⟩
    rw [namedFields_eq_ok_iff.mpr ⟨rfl, isRecord, List.forall_mem_nil _⟩]
    rfl

/-- A field that was taken is what stands under its name. -/
theorem find?_taken {name : String} (isField : name ∈ fields) :
    Fields.find? ⟨true, taken fields members⟩ name = under? (some name) members := by
  rw [Fields.find?]
  induction members with
  | nil => rfl
  | cons member rest ih =>
    obtain ⟨key, value⟩ := member
    cases key with
    | none => exact ih
    | some key =>
      by_cases same : key = name
      · subst same
        rw [taken, if_pos isField]
        simp [under?]
      · have skipped :
            under? (some name) ((some key, value) :: rest) = under? (some name) rest := by
          simp [under?, same]
        rw [skipped, ← ih, taken]
        split
        · simp [same]
        · rfl

theorem Fields.required_taken_eq_ok_iff {α : Type} {name : String} {read : Raw → Reading α}
    {value : α} (isField : name ∈ fields) :
    Fields.required ⟨true, taken fields members⟩ name read = .ok value ↔
      ∃ document, under? (some name) members = some document ∧ read document = .ok value := by
  rw [Fields.required, find?_taken isField]
  cases under? (some name) members <;> simp

/-- A field that may be null or left out is read as if null stood there when it is left out. -/
theorem Fields.optionalByName_taken {α : Type} {name : String} {read : Raw → Reading α}
    (isField : name ∈ fields) :
    Fields.optionalByName ⟨true, taken fields members⟩ name read =
      Raw.optional read ((under? (some name) members).getD .null) := by
  rw [Fields.optionalByName, find?_taken isField]
  cases under? (some name) members <;> rfl

theorem Fields.optional_taken {α : Type} {name : String} {read : Raw → Reading α}
    (isField : name ∈ fields) :
    Fields.optional ⟨true, taken fields members⟩ name read =
      Raw.optional read ((under? (some name) members).getD .null) := by
  rw [Fields.optional, Fields.withDefault, find?_taken isField]
  cases under? (some name) members <;> rfl

/-- A field that may be left out is left out or null, or has a value that is read. -/
theorem Fields.optional_cases {α : Type} {fields : Fields} {name : String} {read : Raw → Reading α}
    {column : Option α} (worked : fields.optional name read = .ok column) :
    ((fields.find? name = none ∨ fields.find? name = some .null) ∧ column = none) ∨
      ∃ document value, fields.find? name = some document ∧ read document = .ok value ∧
        column = some value := by
  rw [Fields.optional, Fields.withDefault] at worked
  cases given : fields.find? name with
  | none =>
    rw [given] at worked
    cases worked
    exact Or.inl ⟨Or.inl rfl, rfl⟩
  | some document =>
    rw [given] at worked
    cases document with
    | null =>
      cases worked
      exact Or.inl ⟨Or.inr rfl, rfl⟩
    | bool | number | string | array | object =>
      obtain ⟨value, result, rfl⟩ := map_eq_ok worked
      exact Or.inr ⟨_, value, rfl, result, rfl⟩

theorem Fields.exists_of_optionalByName {α : Type} {fields : Fields} {name : String}
    {read : Raw → Reading α} {value : α}
    (worked : fields.optionalByName name read = .ok (some value)) :
    ∃ document, read document = .ok value := by
  rw [Fields.optionalByName] at worked
  split at worked
  · rename_i document _
    cases document with
    | null => cases worked
    | bool | number | string | array | object =>
      obtain ⟨given, result, same⟩ := map_eq_ok worked
      cases same
      exact ⟨_, result⟩
  · split at worked <;> cases worked

end NodeStorage.Json
