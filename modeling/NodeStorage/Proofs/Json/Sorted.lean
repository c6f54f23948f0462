/-
**Sorted fields.**

A field that is put among others is found there, and no other field is found differently; this
needs no order (`lookup?_insertSorted_self`, `lookup?_insertSorted_of_ne`). Fields that are sorted
stay so, no name stands among them twice, and sorting them again changes nothing
(`sortFields_eq_self`). Sorted fields in which every name finds the same are the same
(`Sorted.ext`).
-/

import Mathlib.Data.List.Pairwise
import NodeStorage.Json.Value

namespace NodeStorage.Json

/-! ### Finding fields -/

theorem ne_of_before {name other : String} (before : name < other) : name ≠ other := by
  rintro rfl
  exact String.lt_irrefl name before

theorem lookup?_cons_self (key : String) (value : Json) (fields : List Field) :
    lookup? key ((key, value) :: fields) = some value := by
  simp [lookup?]

theorem lookup?_cons_of_ne {key name : String} (differs : name ≠ key) (value : Json)
    (fields : List Field) : lookup? key ((name, value) :: fields) = lookup? key fields := by
  simp [lookup?, differs]

theorem lookup?_eq_none {key : String} {fields : List Field}
    (absent : ∀ field ∈ fields, field.1 ≠ key) : lookup? key fields = none := by
  simpa [lookup?] using absent

theorem mem_of_lookup? {key : String} {value : Json} {fields : List Field}
    (found : lookup? key fields = some value) : (key, value) ∈ fields := by
  obtain ⟨⟨name, value⟩, known, rfl⟩ := Option.map_eq_some_iff.mp found
  have same : name = key := by simpa using List.find?_some known
  exact same ▸ List.mem_of_find?_eq_some known

theorem lookup?_insertSorted_self (key : String) (value : Json) (fields : List Field) :
    lookup? key (insertSorted key value fields) = some value := by
  induction fields with
  | nil => exact lookup?_cons_self key value []
  | cons field fields ih =>
    obtain ⟨name, old⟩ := field
    rw [insertSorted]
    split
    · exact lookup?_cons_self key value _
    · split
      · exact lookup?_cons_self key value _
      · rename_i differs
        rw [lookup?_cons_of_ne (Ne.symm differs), ih]

theorem lookup?_insertSorted_of_ne {key other : String} (differs : key ≠ other) (value : Json)
    (fields : List Field) :
    lookup? other (insertSorted key value fields) = lookup? other fields := by
  induction fields with
  | nil => exact lookup?_cons_of_ne differs value []
  | cons field fields ih =>
    obtain ⟨name, old⟩ := field
    rw [insertSorted]
    split
    · exact lookup?_cons_of_ne differs value _
    · split
      · rename_i same
        subst same
        rw [lookup?_cons_of_ne differs, lookup?_cons_of_ne differs]
      · by_cases here : name = other
        · subst here
          rw [lookup?_cons_self, lookup?_cons_self]
        · rw [lookup?_cons_of_ne here, lookup?_cons_of_ne here, ih]

theorem mem_insertSorted {key : String} {value : Json} {fields : List Field} {field : Field}
    (member : field ∈ insertSorted key value fields) : field = (key, value) ∨ field ∈ fields := by
  induction fields with
  | nil => exact Or.inl (List.mem_singleton.mp member)
  | cons first fields ih =>
    obtain ⟨name, old⟩ := first
    rw [insertSorted] at member
    split at member
    · exact List.mem_cons.mp member
    · split at member
      · exact (List.mem_cons.mp member).imp_right (List.mem_cons_of_mem _)
      · rcases List.mem_cons.mp member with here | later
        · exact Or.inr (here ▸ List.mem_cons_self)
        · exact (ih later).imp_right (List.mem_cons_of_mem _)

/-! ### Sorted fields -/

/-- The fields are sorted by name, and no name stands among them twice. -/
def Sorted (fields : List Field) : Prop :=
  fields.Pairwise fun field other => field.1 < other.1

instance (fields : List Field) : Decidable (Sorted fields) :=
  inferInstanceAs (Decidable (fields.Pairwise _))

theorem sorted_nil : Sorted [] :=
  List.Pairwise.nil

theorem sorted_insertSorted (key : String) (value : Json) {fields : List Field}
    (sorted : Sorted fields) : Sorted (insertSorted key value fields) := by
  induction fields with
  | nil => exact List.pairwise_singleton _ _
  | cons field fields ih =>
    obtain ⟨name, old⟩ := field
    obtain ⟨after, rest⟩ := List.pairwise_cons.mp sorted
    rw [insertSorted]
    split
    · rename_i before
      refine List.pairwise_cons.mpr ⟨fun other member => ?_, sorted⟩
      rcases List.mem_cons.mp member with rfl | later
      · exact before
      · exact String.lt_trans before (after other later)
    · split
      · rename_i same
        subst same
        exact List.pairwise_cons.mpr ⟨after, rest⟩
      · rename_i notBefore differs
        refine List.pairwise_cons.mpr ⟨fun other member => ?_, ih rest⟩
        rcases mem_insertSorted member with rfl | later
        · exact Std.lt_of_le_of_ne (String.not_lt.mp notBefore) (Ne.symm differs)
        · exact after other later

/-- What is put over sorted fields leaves them sorted. -/
theorem sorted_foldl_insertSorted {fields : List Field} (more : List Field)
    (sorted : Sorted fields) :
    Sorted (more.foldl (fun merged field => insertSorted field.1 field.2 merged) fields) := by
  induction more generalizing fields with
  | nil => exact sorted
  | cons field more ih => exact ih (sorted_insertSorted field.1 field.2 sorted)

theorem mem_foldl_insertSorted {fields more : List Field} {field : Field}
    (member : field ∈
      more.foldl (fun merged field => insertSorted field.1 field.2 merged) fields) :
    field ∈ fields ∨ field ∈ more := by
  induction more generalizing fields with
  | nil => exact Or.inl member
  | cons first more ih =>
    rcases ih member with before | later
    · rcases mem_insertSorted before with here | before
      · exact Or.inr (here ▸ List.mem_cons_self)
      · exact Or.inl before
    · exact Or.inr (List.mem_cons_of_mem _ later)

theorem sorted_sortFields (fields : List Field) : Sorted (sortFields fields) :=
  sorted_foldl_insertSorted fields sorted_nil

theorem mem_of_mem_sortFields {fields : List Field} {field : Field}
    (member : field ∈ sortFields fields) : field ∈ fields :=
  (mem_foldl_insertSorted member).resolve_left List.not_mem_nil

/-- The names of the fields. -/
def keys (fields : List Field) : List String :=
  fields.map Prod.fst

theorem sorted_iff_keys {fields : List Field} :
    Sorted fields ↔ (keys fields).Pairwise (· < ·) :=
  List.pairwise_map.symm

theorem mem_keys_cons {name : String} {field : Field} {fields : List Field} :
    name ∈ keys (field :: fields) ↔ name = field.1 ∨ name ∈ keys fields :=
  List.mem_cons

theorem mem_keys_insertSorted {key name : String} {value : Json} {fields : List Field} :
    name ∈ keys (insertSorted key value fields) ↔ name = key ∨ name ∈ keys fields := by
  induction fields with
  | nil => exact List.mem_cons
  | cons field fields ih =>
    obtain ⟨other, old⟩ := field
    rw [insertSorted]
    split
    · exact mem_keys_cons
    · split
      · rename_i same
        rw [mem_keys_cons, mem_keys_cons, ← same, ← or_assoc, or_self]
      · rw [mem_keys_cons, ih, mem_keys_cons, or_left_comm]

/-- Sorting loses no name and adds none. -/
theorem mem_keys_sortFields {name : String} {fields : List Field} :
    name ∈ keys (sortFields fields) ↔ name ∈ keys fields := by
  suffices ∀ before, name ∈ keys (fields.foldl
      (fun merged field => insertSorted field.1 field.2 merged) before) ↔
        name ∈ keys before ∨ name ∈ keys fields from
    (this []).trans (or_iff_right List.not_mem_nil)
  induction fields with
  | nil => exact fun before => (or_iff_left List.not_mem_nil).symm
  | cons field fields ih =>
    intro before
    rw [List.foldl_cons, ih, mem_keys_insertSorted, mem_keys_cons, or_assoc, or_left_comm]

/-- A field whose name comes after all others is put last. -/
theorem insertSorted_eq_append {key : String} {value : Json} {fields : List Field}
    (last : ∀ field ∈ fields, field.1 < key) :
    insertSorted key value fields = fields ++ [(key, value)] := by
  induction fields with
  | nil => rfl
  | cons field fields ih =>
    obtain ⟨name, old⟩ := field
    obtain ⟨here, later⟩ := List.forall_mem_cons.mp last
    rw [insertSorted, if_neg (String.lt_asymm here), if_neg (ne_of_before here).symm, ih later]
    rfl

/-- **Sorted fields are sorted as they are.** -/
theorem sortFields_eq_self {fields : List Field} (sorted : Sorted fields) :
    sortFields fields = fields := by
  suffices ∀ before, Sorted (before ++ fields) →
      fields.foldl (fun merged field => insertSorted field.1 field.2 merged) before =
        before ++ fields from this [] sorted
  clear sorted
  induction fields with
  | nil => exact fun before _ => (List.append_nil before).symm
  | cons field fields ih =>
    intro before sorted
    have last : ∀ other ∈ before, other.1 < field.1 := fun other member =>
      (List.pairwise_append.mp sorted).2.2 other member field List.mem_cons_self
    rw [List.foldl_cons, insertSorted_eq_append last, ih _ (by rwa [← List.append_cons]),
      ← List.append_cons]

/-- Beside a field of sorted fields there is no other of its name. -/
theorem Sorted.lookup?_tail {key : String} {value : Json} {fields : List Field}
    (sorted : Sorted ((key, value) :: fields)) : lookup? key fields = none :=
  lookup?_eq_none fun field member =>
    (ne_of_before ((List.pairwise_cons.mp sorted).1 field member)).symm

theorem Sorted.lookup?_eq_some_iff {key : String} {value : Json} {fields : List Field}
    (sorted : Sorted fields) : lookup? key fields = some value ↔ (key, value) ∈ fields := by
  refine ⟨mem_of_lookup?, fun member => ?_⟩
  induction fields with
  | nil => cases member
  | cons field fields ih =>
    obtain ⟨before, rest⟩ := List.pairwise_cons.mp sorted
    rcases List.mem_cons.mp member with rfl | later
    · exact lookup?_cons_self key value fields
    · rw [lookup?_cons_of_ne (ne_of_before (before _ later)), ih rest later]

/-- **Sorted fields are told by what their names find.** -/
theorem Sorted.ext {first second : List Field} (sorted : Sorted first) (alsoSorted : Sorted second)
    (same : ∀ key, lookup? key first = lookup? key second) : first = second := by
  have distinct {fields : List Field} (sorted : Sorted fields) : fields.Nodup :=
    sorted.imp fun before => fun same => ne_of_before before (congrArg Prod.fst same)
  have members : first.Perm second :=
    (List.perm_ext_iff_of_nodup (distinct sorted) (distinct alsoSorted)).mpr fun field => by
      rw [← sorted.lookup?_eq_some_iff, same, alsoSorted.lookup?_eq_some_iff]
  exact members.eq_of_pairwise
    (fun _ _ _ _ before after => absurd before (String.lt_asymm after)) sorted alsoSorted

end NodeStorage.Json
