/-
**Merge patches.**

A merge patch is a document. An object changes the members that it names and leaves the others: null
takes a member away, an object is merged into what stands there, and anything else takes its place.
A patch that is no object takes the place of the whole document.

* `under?_mergeMembers_of_mem`, `under?_mergeMembers_of_not_mem` — what stands under a name then.
* `isRecord_mergeMembers` — a record can still be read from the members.
* `found_merge` — **a record that is written in full replaces the one that was there**, whatever
  that one held, as long as none of its values is an object or null.
-/

import Mathlib.Data.List.Nodup
import NodeStorage.Proofs.Json.Members
import NodeStorage.Proofs.Json.Records

namespace NodeStorage.Json

/-- The members with one that has a new value, in the place of the first of its name or at the
end. -/
def putMember (name : Option String) (value : Raw) : List Member → List Member
  | [] => [(name, value)]
  | member :: rest =>
    if member.1 = name then (name, value) :: rest else member :: putMember name value rest

/-- The members of an object; none of anything else. -/
def Raw.members : Raw → List Member
  | .object members => members
  | _ => []

mutual

/-- The document after a merge patch. -/
def Raw.merge (target : Raw) : (patch : Raw) → Raw
  | .object changes => .object (mergeMembers target.members changes)
  | other => other

/-- The members after the changes of a merge patch. -/
def mergeMembers (members : List Member) : (changes : List Member) → List Member
  | [] => members
  | change :: rest => mergeMembers (mergeMember members change) rest

/-- The members after one change. -/
def mergeMember (members : List Member) : (change : Member) → List Member
  | (name, .null) => members.filter fun member => member.1 != name
  | (name, change) => putMember name (((under? name members).getD .null).merge change) members

end

theorem merge_object (target : Raw) (changes : List Member) :
    target.merge (.object changes) = .object (mergeMembers target.members changes) := rfl

section Lookups

variable {members changes : List Member} {name other : Option String} {value change : Raw}

theorem under?_cons_self (rest : List Member) :
    under? name ((name, value) :: rest) = some value := by
  simp [under?]

theorem under?_cons_of_ne (differs : other ≠ name) (rest : List Member) :
    under? name ((other, value) :: rest) = under? name rest := by
  simp [under?, differs]

theorem under?_putMember_self : under? name (putMember name value members) = some value := by
  induction members with
  | nil => exact under?_cons_self []
  | cons member rest ih =>
    obtain ⟨key, old⟩ := member
    rw [putMember]
    split
    · exact under?_cons_self rest
    · rename_i differs
      rw [under?_cons_of_ne differs, ih]

theorem under?_putMember_of_ne (differs : name ≠ other) :
    under? other (putMember name value members) = under? other members := by
  induction members with
  | nil => exact under?_cons_of_ne differs []
  | cons member rest ih =>
    obtain ⟨key, old⟩ := member
    rw [putMember]
    split
    · rename_i same
      obtain rfl : key = name := same
      rw [under?_cons_of_ne differs, under?_cons_of_ne differs]
    · by_cases isOther : key = other
      · subst isOther
        rw [under?_cons_self, under?_cons_self]
      · rw [under?_cons_of_ne isOther, under?_cons_of_ne isOther, ih]

theorem under?_filter_of_ne (differs : name ≠ other) :
    under? other (members.filter fun member => member.1 != name) = under? other members := by
  induction members with
  | nil => rfl
  | cons member rest ih =>
    obtain ⟨key, old⟩ := member
    rw [List.filter_cons]
    by_cases isOther : key = other
    · subst isOther
      rw [if_pos (by simpa using differs.symm), under?_cons_self, under?_cons_self]
    · rw [under?_cons_of_ne isOther, ← ih]
      split
      · exact under?_cons_of_ne isOther _
      · rfl

theorem mergeMember_of_ne_null (given : change ≠ .null) :
    mergeMember members (name, change) =
      putMember name (((under? name members).getD .null).merge change) members := by
  cases change with
  | null => exact absurd rfl given
  | bool | number | string | array | object => rfl

/-- One change leaves the other members as they are. -/
theorem under?_mergeMember_of_ne (differs : name ≠ other) :
    under? other (mergeMember members (name, change)) = under? other members := by
  by_cases null : change = .null
  · subst null
    exact under?_filter_of_ne differs
  · rw [mergeMember_of_ne_null null]
    exact under?_putMember_of_ne differs

/-- **What a patch does not name stays as it is.** -/
theorem under?_mergeMembers_of_not_mem (unnamed : other ∉ names changes) :
    under? other (mergeMembers members changes) = under? other members := by
  induction changes generalizing members with
  | nil => rfl
  | cons change changes ih =>
    obtain ⟨first, rest⟩ := List.ne_and_not_mem_of_not_mem_cons unnamed
    rw [mergeMembers, ih rest, under?_mergeMember_of_ne first.symm]

/-- **What a patch names becomes what stood there, merged with the change.** -/
theorem under?_mergeMembers_of_mem (distinct : (names changes).Nodup)
    (member : (name, change) ∈ changes) (given : change ≠ .null) :
    under? name (mergeMembers members changes) =
      some (((under? name members).getD .null).merge change) := by
  induction changes generalizing members with
  | nil => cases member
  | cons first changes ih =>
    obtain ⟨fresh, rest⟩ := List.nodup_cons.mp distinct
    obtain ⟨key, value⟩ := first
    rw [mergeMembers]
    rcases List.mem_cons.mp member with same | later
    · cases same
      rw [under?_mergeMembers_of_not_mem fresh, mergeMember_of_ne_null given,
        under?_putMember_self]
    · have differs : key ≠ name := fun same =>
        fresh (show key ∈ _ from same ▸ List.mem_map_of_mem later)
      rw [ih rest later, under?_mergeMember_of_ne differs]

end Lookups

/-! ### Records -/

section Records

variable {fields : List String} {members changes : List Member} {name : Option String}
  {value change : Raw}

theorem mem_names_putMember {other : Option String} :
    other ∈ names (putMember name value members) ↔ other = name ∨ other ∈ names members := by
  induction members with
  | nil => simp [putMember, names]
  | cons member rest ih =>
    rw [putMember]
    split
    · rename_i same
      simp [names, same]
    · simp only [names, List.map_cons, List.mem_cons] at ih ⊢
      rw [ih]
      tauto

theorem isRecord_putMember (isRecord : IsRecord fields members) (legible : name ≠ none) :
    IsRecord fields (putMember name value members) := by
  obtain ⟨name, rfl⟩ := Option.ne_none_iff_exists'.mp legible
  induction members with
  | nil => exact ⟨fun _ => List.not_mem_nil, trivial⟩
  | cons member rest ih =>
    obtain ⟨key, old⟩ := member
    cases key with
    | none => cases isRecord
    | some key =>
      obtain ⟨once, later⟩ := isRecord
      rw [putMember]
      split
      · rename_i same
        cases same
        exact ⟨once, later⟩
      · rename_i differs
        refine ⟨fun isField again => ?_, ih later⟩
        rcases mem_names_putMember.mp again with same | again
        · exact differs same
        · exact once isField again

theorem isRecord_filter (isRecord : IsRecord fields members) (keep : Member → Bool) :
    IsRecord fields (members.filter keep) := by
  induction members with
  | nil => exact trivial
  | cons member rest ih =>
    obtain ⟨key, old⟩ := member
    cases key with
    | none => cases isRecord
    | some key =>
      obtain ⟨once, later⟩ := isRecord
      rw [List.filter_cons]
      split
      · refine ⟨fun isField again => once isField ?_, ih later⟩
        exact (List.filter_sublist.map Prod.fst).subset again
      · exact ih later

/-- **A record can still be read after a patch** whose names are legible. -/
theorem isRecord_mergeMembers (isRecord : IsRecord fields members)
    (legible : none ∉ names changes) : IsRecord fields (mergeMembers members changes) := by
  induction changes generalizing members with
  | nil => exact isRecord
  | cons change changes ih =>
    obtain ⟨name, change⟩ := change
    obtain ⟨first, rest⟩ := List.ne_and_not_mem_of_not_mem_cons legible
    rw [mergeMembers]
    refine ih ?_ rest
    by_cases null : change = .null
    · subst null
      exact isRecord_filter isRecord _
    · rw [mergeMember_of_ne_null null]
      exact isRecord_putMember isRecord first.symm

/-- What can be read as a record has the members of one, or is no object. -/
theorem isRecord_of_fields {document : Raw} {given : Fields}
    (read : document.fields fields = .ok given) : IsRecord fields document.members := by
  cases document with
  | object members => exact (fields_object_eq_ok_iff.mp read).2
  | null | bool | number | string | array => exact trivial

end Records

/-! ### Records written in full -/

/-- The document takes the place of whatever it is merged into: it is neither null nor an object. -/
def isFlat : Raw → Bool
  | .null | .object _ => false
  | .bool _ | .number _ | .string _ | .array _ => true

theorem merge_of_isFlat {document : Raw} (flat : isFlat document = true) (target : Raw) :
    target.merge document = document := by
  cases document with
  | null | object => cases flat
  | bool | number | string | array => rfl

theorem ne_null_of_isFlat {document : Raw} (flat : isFlat document = true) : document ≠ .null := by
  rintro rfl
  cases flat

theorem isFlat_of_array {items : List Json} {document : Raw}
    (known : raw? (.array items) = some document) : isFlat document = true := by
  obtain ⟨documents, -, rfl⟩ := Option.map_eq_some_iff.mp known
  rfl

/-- **A record that is written in full replaces the one that was there.** -/
theorem found_merge {fields : List (String × Option Json)} (distinct : (fields.map Prod.fst).Nodup)
    (flat : ∀ field ∈ fields, ∃ document,
      field.2.bind raw? = some document ∧ isFlat document = true)
    {target : Raw} (isRecord : IsRecord (fields.map Prod.fst) target.members) :
    ∃ changes given, raw? (record fields) = some (.object changes) ∧
      (target.merge (.object changes)).fields (fields.map Prod.fst) = .ok given ∧
      ∀ field ∈ fields, given.find? field.1 = field.2.bind raw? := by
  have writable : ∀ field ∈ fields, ∀ value ∈ field.2, (raw? value).isSome = true := by
    intro field member value given
    obtain ⟨document, known, -⟩ := flat field member
    rw [Option.mem_def.mp given, Option.bind_some] at known
    rw [known]
    rfl
  have isNames : names ((writtenFields fields).map fun entry => (some entry.1, entry.2)) =
      ((writtenFields fields).map Prod.fst).map some := by
    simp [names]
  have legible :
      none ∉ names ((writtenFields fields).map fun entry => (some entry.1, entry.2)) := by
    simp [isNames]
  have apart : (names ((writtenFields fields).map fun entry => (some entry.1, entry.2))).Nodup := by
    rw [isNames]
    exact List.Nodup.map (fun _ _ => Option.some.inj) ((keys_writtenFields fields).nodup distinct)
  refine ⟨_, _, by rw [record, raw?, rawFields?_record writable]; rfl,
    fields_object_eq_ok_iff.mpr ⟨rfl, isRecord_mergeMembers isRecord legible⟩, ?_⟩
  intro field member
  obtain ⟨document, known, isFlat⟩ := flat field member
  have written : (field.1, document) ∈ writtenFields fields :=
    List.mem_filterMap.mpr ⟨field, member, by rw [known]; rfl⟩
  have change : (some field.1, document) ∈
      (writtenFields fields).map fun entry => (some entry.1, entry.2) :=
    List.mem_map.mpr ⟨_, written, rfl⟩
  rw [find?_taken (List.mem_map_of_mem member),
    under?_mergeMembers_of_mem apart change (ne_null_of_isFlat isFlat), merge_of_isFlat isFlat,
    known]

end NodeStorage.Json
