/-
**Merging pull secrets loses no credential.**

A secret whose documents are objects is merged into another secret without an error, if the one
document of that secret that is used is an object, is empty or is missing. What results has for
every registry the credential of the last document that names it, in the order in which the
documents stand, and where none does the one that was there before; so it is with every other part.
The other documents of the secret stay as they were (`Secret.merge_keeps_credentials`).
-/

import NodeStorage.Proofs.Registry.Merging

namespace NodeStorage.Registry

open Json

namespace Secret

/-! ### Documents by name -/

theorem lookup?_cons_self (key : String) (document : List UInt8)
    (documents : List (String × List UInt8)) :
    lookup? key ((key, document) :: documents) = some document := by
  simp [lookup?]

theorem lookup?_cons_of_ne {key name : String} (differs : name ≠ key) (document : List UInt8)
    (documents : List (String × List UInt8)) :
    lookup? key ((name, document) :: documents) = lookup? key documents := by
  simp [lookup?, differs]

theorem lookup?_insert_self (key : String) (document : List UInt8)
    (documents : List (String × List UInt8)) :
    lookup? key (insert key document documents) = some document := by
  induction documents with
  | nil => exact lookup?_cons_self key document []
  | cons entry documents ih =>
    obtain ⟨name, old⟩ := entry
    rw [insert]
    split
    · exact lookup?_cons_self key document _
    · split
      · exact lookup?_cons_self key document _
      · rename_i differs
        rw [lookup?_cons_of_ne (Ne.symm differs), ih]

theorem lookup?_insert_of_ne {key other : String} (differs : key ≠ other) (document : List UInt8)
    (documents : List (String × List UInt8)) :
    lookup? other (insert key document documents) = lookup? other documents := by
  induction documents with
  | nil => exact lookup?_cons_of_ne differs document []
  | cons entry documents ih =>
    obtain ⟨name, old⟩ := entry
    rw [insert]
    split
    · exact lookup?_cons_of_ne differs document _
    · split
      · rename_i same
        subst same
        rw [lookup?_cons_of_ne differs, lookup?_cons_of_ne differs]
      · by_cases here : name = other
        · subst here
          rw [lookup?_cons_self, lookup?_cons_self]
        · rw [lookup?_cons_of_ne here, lookup?_cons_of_ne here, ih]

/-! ### Merging one document after the other -/

/-- The bytes of the document that is used; none where there is no such document. -/
def used (documents : List (String × List UInt8)) : List UInt8 :=
  (lookup? configKey documents).getD []

/-- The document that is used holds these fields. -/
structure Uses (documents : List (String × List UInt8)) (config : List Field) : Prop where
  read : ∀ what, readConfig what (used documents) = .ok config
  kept : Kept Raw.depthLimit (.object config)

/-- What is merged into a secret: an object, with room around it if it is in the older form. -/
structure IsSource (bytes : List UInt8) : Prop extends IsDocument bytes where
  room : isLegacy (fieldsIn bytes) = true →
    (Json.object (fieldsIn bytes)).depth < Raw.depthLimit

theorem IsSource.kept_normalized {bytes : List UInt8} (source : IsSource bytes) :
    Kept Raw.depthLimit (.object (normalized (fieldsIn bytes))) :=
  Registry.kept_normalized source.kept source.room

variable {documents : List (String × List UInt8)} {config : List Field}

theorem uses_of_isDocument (base : used documents = [] ∨ IsDocument (used documents)) :
    Uses documents (fieldsIn (used documents)) :=
  have holds := IsConfig.holds base
  ⟨holds.read, holds.kept⟩

/-- **One document is merged** into the one that is used, and into no other. -/
theorem mergeDocument_eq_ok (uses : Uses documents config) {document : List UInt8}
    (source : IsSource document) :
    ∃ merged, mergeDocument documents document = .ok merged ∧
      Uses merged (mergeFields config (normalized (fieldsIn document))) ∧
      lookup? configKey merged =
        some (writeFields (mergeFields config (normalized (fieldsIn document)))) ∧
      ∀ key, key ≠ configKey → lookup? key merged = lookup? key documents := by
  obtain ⟨newer, converted, read⟩ :=
    convertLegacy_eq_ok source.toIsDocument source.kept_normalized
  have below : Holds (used documents) config := ⟨uses.read, uses.kept⟩
  have above : Holds newer (normalized (fieldsIn document)) :=
    ⟨readConfig_eq_ok read, source.kept_normalized⟩
  obtain ⟨merged, holds⟩ := below.mergeConfigs above
  have found := lookup?_insert_self configKey
    (writeFields (mergeFields config (normalized (fieldsIn document)))) documents
  refine ⟨_, ok_bind converted (ok_bind merged rfl), ⟨fun what => ?_, holds.kept⟩, found, ?_⟩
  · rw [used, found, Option.getD_some]
    exact holds.read what
  · exact fun key other => lookup?_insert_of_ne other.symm _ _

/-- **Several documents are merged**, one after the other. -/
theorem mergeDocuments_eq_ok (uses : Uses documents config) {sources : List (List UInt8)}
    (each : ∀ document ∈ sources, IsSource document) :
    ∃ merged, sources.foldlM mergeDocument documents = .ok merged ∧
      (sources = [] → merged = documents) ∧
      (sources ≠ [] → lookup? configKey merged =
        some (writeFields (mergeAll config (sources.map fieldsIn)))) ∧
      ∀ key, key ≠ configKey → lookup? key merged = lookup? key documents := by
  induction sources generalizing documents config with
  | nil => exact ⟨documents, rfl, fun _ => rfl, fun given => absurd rfl given, fun _ _ => rfl⟩
  | cons document sources ih =>
    obtain ⟨here, later⟩ := List.forall_mem_cons.mp each
    obtain ⟨first, step, next, written, others⟩ := mergeDocument_eq_ok uses here
    obtain ⟨merged, rest, nothing, last, same⟩ := ih next later
    refine ⟨merged, by rw [List.foldlM_cons]; exact ok_bind step rest,
      fun empty => absurd empty (List.cons_ne_nil _ _), fun _ => ?_,
      fun key other => (same key other).trans (others key other)⟩
    -- After the last document, what was written for it is still there.
    by_cases more : sources = []
    · rw [nothing more, written, more]
      rfl
    · exact last more

/-- The documents of a secret, in the order of their names. -/
def entries (secret : Secret) : List (String × List UInt8) :=
  secret.documents.getD []

/-- **Merging pull secrets loses no credential.** Where the document of the secret that is used is
missing, is empty or is an object, a secret of credentials is merged into it, if all its documents
are objects. The secret keeps its kind, or gets one, and keeps its other documents; without
anything to merge it keeps the one that is used as well. Otherwise the document that is used is a
merge of what it was with the others, in their order. -/
theorem merge_keeps_credentials (secret more : Secret) (holds : more.holdsCredentials = true)
    (base : used secret.entries = [] ∨ IsDocument (used secret.entries))
    (sources : ∀ entry ∈ more.entries, IsSource entry.2) :
    ∃ documents, secret.merge more = .ok ⟨secret.kindOrDefault, some documents⟩ ∧
      (∀ key, key ≠ configKey → lookup? key documents = lookup? key secret.entries) ∧
      (more.entries = [] → documents = secret.entries) ∧
      (more.entries ≠ [] → ∃ bytes fields, lookup? configKey documents = some bytes ∧
        readFields bytes = .ok fields ∧
        IsMerge (fieldsIn (used secret.entries))
          (more.entries.map fun entry => fieldsIn entry.2) fields) := by
  have uses := uses_of_isDocument base
  have each : ∀ document ∈ more.entries.map Prod.snd, IsSource document := by
    intro document member
    obtain ⟨entry, inside, rfl⟩ := List.mem_map.mp member
    exact sources entry inside
  have kept : ∀ fields ∈ (more.entries.map Prod.snd).map fieldsIn,
      Kept Raw.depthLimit (.object (normalized fields)) := by
    intro fields member
    obtain ⟨document, inside, rfl⟩ := List.mem_map.mp member
    exact (each document inside).kept_normalized
  obtain ⟨documents, merged, nothing, written, others⟩ := mergeDocuments_eq_ok uses each
  refine ⟨documents, ?_, others, fun empty => nothing (by rw [empty]; rfl), fun given => ?_⟩
  · rw [merge, if_pos holds]
    exact ok_bind merged rfl
  · have some_source : more.entries.map Prod.snd ≠ [] := fun empty =>
      given (List.map_eq_nil_iff.mp empty)
    refine ⟨_, _, written some_source, readFields_writeFields (kept_mergeAll kept uses.kept), ?_⟩
    have whole := isMerge_mergeAll (fun empty => some_source (List.map_eq_nil_iff.mp empty)) kept
      (fieldsIn (used secret.entries))
    rwa [List.map_map] at whole ⊢

/-- A document with credentials and a helper's name. -/
def ownFields : List Field :=
  [(authsKey, .object [("a.io", .string "old"), ("b.io", .string "old")]),
   ("credsStore", .string "own")]

/-- A document in the older form. -/
def olderFields : List Field :=
  [("b.io", .string "new"), ("c.io", .string "new")]

/-- A document in the newer form that names a registry of the older one. -/
def newerFields : List Field :=
  [(authsKey, .object [("c.io", .string "newer")]), ("credsStore", .string "given")]

/-- A secret without a kind, with credentials and something beside them. -/
def ownSecret : Secret :=
  ⟨none, some [(configKey, writeFields ownFields), ("note", [0xFF])]⟩

/-- A secret with credentials in both forms. -/
def givenSecret : Secret :=
  ⟨some legacyKind, some [("first", writeFields olderFields), ("second", writeFields newerFields)]⟩

/-- An object of texts is kept. -/
theorem kept_texts (limit : Nat) {fields : List Field} (sorted : Sorted fields)
    (each : ∀ field ∈ fields, ∃ text, field.2 = .string text) :
    Kept (limit + 1) (.object fields) :=
  .object sorted fun field member => by
    obtain ⟨text, is⟩ := each field member
    exact is ▸ .string text

theorem kept_ownFields : Kept Raw.depthLimit (.object ownFields) :=
  .object (by decide) <| List.forall_mem_cons.mpr
    ⟨kept_texts 125 (by decide) (by simp), List.forall_mem_singleton.mpr (.string _)⟩

theorem kept_olderFields : Kept Raw.depthLimit (.object olderFields) :=
  kept_texts 126 (by decide) (by simp [olderFields])

theorem kept_newerFields : Kept Raw.depthLimit (.object newerFields) :=
  .object (by decide) <| List.forall_mem_cons.mpr
    ⟨kept_texts 125 (by decide) (by simp), List.forall_mem_singleton.mpr (.string _)⟩

/-- The given credentials are merged into the own ones, the later of two for a registry. -/
theorem givenSecret_merged :
    ∃ documents bytes fields,
      ownSecret.merge givenSecret = .ok ⟨some configKind, some documents⟩ ∧
      lookup? "note" documents = some [0xFF] ∧ lookup? configKey documents = some bytes ∧
      readFields bytes = .ok fields ∧
      auth? "a.io" fields = some (.string "old") ∧ auth? "b.io" fields = some (.string "new") ∧
      auth? "c.io" fields = some (.string "newer") ∧
      Json.lookup? "credsStore" fields = some (.string "given") := by
  have own := fieldsIn_eq (readFields_writeFields kept_ownFields)
  have older := fieldsIn_eq (readFields_writeFields kept_olderFields)
  have newer := fieldsIn_eq (readFields_writeFields kept_newerFields)
  have base : IsDocument (writeFields ownFields) := isDocument_writeFields kept_ownFields rfl
  have first : IsSource (writeFields olderFields) :=
    ⟨isDocument_writeFields kept_olderFields rfl, by rw [older]; decide⟩
  have second : IsSource (writeFields newerFields) :=
    ⟨isDocument_writeFields kept_newerFields rfl, by rw [newer]; decide⟩
  have sources : ∀ entry ∈ givenSecret.entries, IsSource entry.2 :=
    List.forall_mem_cons.mpr ⟨first, List.forall_mem_singleton.mpr second⟩
  obtain ⟨documents, merged, others, -, written⟩ :=
    merge_keeps_credentials ownSecret givenSecret rfl (Or.inr base) sources
  obtain ⟨bytes, fields, found, read, merge⟩ := written (List.cons_ne_nil _ _)
  have merge : IsMerge ownFields [olderFields, newerFields] fields := by
    rwa [show used ownSecret.entries = writeFields ownFields from rfl, own,
      show (givenSecret.entries.map fun entry => fieldsIn entry.2) =
        [fieldsIn (writeFields olderFields), fieldsIn (writeFields newerFields)] from rfl,
      older, newer] at merge
  exact ⟨documents, bytes, fields, merged, others "note" (by decide), found, read,
    merge.registry "a.io", merge.registry "b.io", merge.registry "c.io",
    merge.part "credsStore" (by decide)⟩

end Secret

end NodeStorage.Registry
