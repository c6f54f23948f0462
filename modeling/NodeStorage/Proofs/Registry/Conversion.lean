/-
**Documents brought into the newer form.**

A document in the older form becomes the only part of a document around it, which has the same
registries and is nested one level deeper. Everything in it can be read again, its decimals
included, so the new document can be read where this level is still allowed
(`isUsable_of_readFields`). Where it is not, the document has been accepted, but what is made of it
can neither be converted nor be put over another (`isUnusable_of_readFields`).

* `isConversion_of_convertLegacy` — **what becomes of every document that is accepted.**
* `deepest_unusable` — a document that is accepted for nothing.
-/

import NodeStorage.Proofs.Json.Readable
import NodeStorage.Proofs.Registry.Algebra

namespace NodeStorage.Registry

open Json

/-! ### Reading what was written -/

/-- What is read from bytes can be read again, and its nesting is allowed. -/
theorem readable_of_readFields {bytes : List UInt8} {fields : List Field}
    (read : readFields bytes = .ok fields) :
    Readable (.object fields) ∧ (Json.object fields).depth ≤ Raw.depthLimit := by
  obtain ⟨_, document, -, -, given⟩ := exists_document_of_readFields read
  exact readable_of_valueWithin document Raw.depthLimit _ given

/-- The bytes are the text of an object with these members. -/
def IsTextOf (bytes : List UInt8) (members : List Member) : Prop :=
  ∃ text, Text.decodeUtf8? bytes = some text ∧ Raw.parse? text = some (.object members)

theorem isTextOf_writeFields (fields : List Field) :
    IsTextOf (writeFields fields) (namedDocuments fields) :=
  ⟨_, Text.decodeUtf8?_encodeUtf8 _, parse?_document (.object fields)⟩

/-- Bytes that are read are the text of an object with the same names. -/
theorem exists_members_of_readFields {bytes : List UInt8} {fields : List Field}
    (read : readFields bytes = .ok fields) :
    ∃ members, IsTextOf bytes members ∧ ∀ name, some name ∈ names members ↔ name ∈ keys fields := by
  obtain ⟨text, members, decoded, found⟩ :=
    (IsReadable.isObjectText (Or.inr ⟨fields, read⟩)).resolve_left (by rintro rfl; cases read)
  obtain ⟨_, document, again, alsoFound, given⟩ := exists_document_of_readFields read
  obtain rfl := Option.some.inj (decoded.symm.trans again)
  obtain rfl := Option.some.inj (found.symm.trans alsoFound)
  exact ⟨members, ⟨text, decoded, found⟩, mem_keys_of_valueWithin given⟩

theorem readFields_writeFields_eq (fields : List Field) :
    readFields (writeFields fields) =
      (Raw.valueWithin Raw.depthLimit (document (.object fields)) >>= fun value =>
        match value with
        | .object given => pure given
        | _ => .error (.expected "an object")) := by
  rw [readFields, writeFields, Text.decodeUtf8?_encodeUtf8]
  dsimp only
  rw [Json.parse, readText, Raw.parse, parse?_document]
  rfl

/-! ### A document around another -/

/-- The part for registries with these fields, and nothing else. -/
def enclosed (fields : List Field) : List Field :=
  [(authsKey, .object fields)]

theorem depth_enclosed (fields : List Field) :
    (Json.object (enclosed fields)).depth = (Json.object fields).depth + 1 := by
  rw [enclosed, depth, fieldsDepth, fieldsDepth, Nat.max_zero]

theorem readable_enclosed {fields : List Field} (readable : Readable (.object fields)) :
    Readable (.object (enclosed fields)) :=
  .object (List.pairwise_singleton _ _) (List.forall_mem_singleton.mpr readable)

variable {fields : List Field}

/-- **With room for one more level, a document around another is read**, and names the same
registries. -/
theorem readFields_enclosed (readable : Readable (.object fields))
    (room : (Json.object fields).depth < Raw.depthLimit) :
    ∃ registries,
      readFields (writeFields (enclosed fields)) = .ok [(authsKey, .object registries)] ∧
        keys registries = keys fields := by
  have allowed : (Json.object fields).depth ≤ 126 := Nat.le_of_lt_succ room
  obtain ⟨inner, inside⟩ := (readable.answers 126).read allowed
  have sorted : Sorted fields := by
    cases readable with
    | object sorted _ => exact sorted
  obtain ⟨registries, rfl, same⟩ := keys_of_valueWithin_document sorted inside
  refine ⟨registries, ?_, same⟩
  have members : Raw.fieldsWithin 126 (namedDocuments (enclosed fields)) =
      .ok [(authsKey, .object registries)] := by
    rw [enclosed, namedDocuments, Raw.fieldsWithin]
    exact ok_bind rfl (ok_bind inside (ok_bind rfl rfl))
  have whole : Raw.valueWithin Raw.depthLimit (document (.object (enclosed fields))) =
      .ok (.object [(authsKey, .object registries)]) := by
    rw [document, Raw.depthLimit, Raw.valueWithin, members]
    rfl
  rw [readFields_writeFields_eq]
  exact ok_bind whole rfl

/-- **Without room for one more level, a document around another is refused.** -/
theorem readFields_enclosed_eq_tooDeep (readable : Readable (.object fields))
    (full : Raw.depthLimit ≤ (Json.object fields).depth) :
    readFields (writeFields (enclosed fields)) = .error .tooDeep := by
  have deep : Raw.depthLimit < (Json.object (enclosed fields)).depth := by
    rw [depth_enclosed]
    exact Nat.lt_succ_of_le full
  rw [readFields_writeFields_eq,
    ((readable_enclosed readable).answers Raw.depthLimit).refused deep]
  rfl

/-! ### What can be done with a document -/

/-- The document has a part for registries, is not converted again, and is put over every document
that can be read. -/
structure IsUsable (newer : List UInt8) : Prop where
  auths : ∃ fields value, readFields newer = .ok fields ∧ lookup? authsKey fields = some value
  again : convertLegacy newer = .ok newer
  merged : ∀ config, IsReadable config → ∃ merged, mergeConfigs config newer = .ok merged

/-- The document is nested too deeply to be converted or to be put over any other. -/
structure IsUnusable (newer : List UInt8) : Prop where
  again : convertLegacy newer = .error (invalidDocument "dockercfg" .tooDeep)
  merged : ∀ config, IsReadable config →
    mergeConfigs config newer = .error (invalidDocument "src .dockerconfigjson" .tooDeep)

theorem isUsable_of_readFields {newer : List UInt8} {value : Json}
    (read : readFields newer = .ok fields) (found : lookup? authsKey fields = some value) :
    IsUsable newer where
  auths := ⟨fields, value, read, found⟩
  again := by
    rw [convertLegacy, read]
    exact if_pos (by rw [found]; rfl)
  merged config readable := by
    obtain ⟨-, -, merged⟩ | ⟨unread, -⟩ := mergeConfigs_cases config newer
    · exact merged
    · exact absurd (And.intro readable (Or.inr ⟨fields, read⟩)) (not_and_or.mpr unread)

theorem isUnusable_of_readFields {newer : List UInt8} (deep : readFields newer = .error .tooDeep) :
    IsUnusable newer where
  again := by rw [convertLegacy, deep]
  merged config readable := by
    have below : ∃ fields, readConfig "dest .dockerconfigjson" config = .ok fields := by
      obtain ⟨-, read⟩ | ⟨unread, -⟩ := readConfig_cases "dest .dockerconfigjson" config
      · exact read
      · exact absurd readable unread
    have above : readConfig "src .dockerconfigjson" newer =
        .error (invalidDocument "src .dockerconfigjson" .tooDeep) := by
      cases newer with
      | nil => cases deep
      | cons byte bytes => rw [readConfig, deep]; rfl
    obtain ⟨fields, read⟩ := below
    rw [mergeConfigs, read, above]
    rfl

/-! ### Every document that is accepted -/

/-- The bytes have a part for registries already, or there is room for one more level around
them. -/
def HasRoom (bytes : List UInt8) : Prop :=
  isLegacy (fieldsIn bytes) = true → (Json.object (fieldsIn bytes)).depth < Raw.depthLimit

/-- **What becomes of bytes that are accepted.** -/
structure IsConversion (bytes newer : List UInt8) : Prop where
  /-- The new bytes are the text of an object with a part for registries. -/
  auths : ∃ members, IsTextOf newer members ∧ some authsKey ∈ names members
  /-- If there was no such part, it has the names that were at the top, and is all there is. -/
  registries : isLegacy (fieldsIn bytes) = true → ∃ members inner, IsTextOf bytes members ∧
    IsTextOf newer [(some authsKey, .object inner)] ∧
    ∀ name : String, some name ∈ names inner ↔ some name ∈ names members
  /-- With room for it, this part is read with these names. -/
  read : HasRoom bytes → isLegacy (fieldsIn bytes) = true → ∃ registries,
    readFields newer = .ok [(authsKey, .object registries)] ∧
      keys registries = keys (fieldsIn bytes)
  /-- With room for it, the document can be used. -/
  usable : HasRoom bytes → IsUsable newer
  /-- Without, it cannot be used for anything. -/
  unusable : ¬ HasRoom bytes → IsUnusable newer

theorem convertLegacy_of_isLegacy {bytes : List UInt8} (read : readFields bytes = .ok fields)
    (legacy : isLegacy fields = true) :
    convertLegacy bytes = .ok (writeFields (enclosed fields)) := by
  rw [convertLegacy, read]
  exact if_neg (by simpa [isLegacy] using legacy)

/-- Bytes that are accepted hold an object, which is left as it is or enclosed. -/
theorem convertLegacy_cases {bytes newer : List UInt8}
    (converted : convertLegacy bytes = .ok newer) :
    readFields bytes = .ok (fieldsIn bytes) ∧
      ((isLegacy (fieldsIn bytes) = false ∧ newer = bytes) ∨
        (isLegacy (fieldsIn bytes) = true ∧ newer = writeFields (enclosed (fieldsIn bytes)))) := by
  rw [convertLegacy] at converted
  split at converted
  · cases converted
  · rename_i fields read
    rw [fieldsIn_eq read]
    refine ⟨read, ?_⟩
    split at converted
    · rename_i given
      cases converted
      exact Or.inl ⟨by rwa [isLegacy, Option.isNone_eq_false_iff], rfl⟩
    · rename_i missing
      cases converted
      exact Or.inr ⟨by rwa [isLegacy, Option.isNone_iff_eq_none, ← Option.not_isSome_iff_eq_none],
        rfl⟩

/-- **A document is brought into the newer form** with its registries; it can be used from there on
exactly if there is room for the level that is put around it. -/
theorem isConversion_of_convertLegacy {bytes newer : List UInt8}
    (converted : convertLegacy bytes = .ok newer) : IsConversion bytes newer := by
  obtain ⟨read, ⟨given, rfl⟩ | ⟨legacy, rfl⟩⟩ := convertLegacy_cases converted
  · have notLegacy : isLegacy (fieldsIn newer) ≠ true := by rw [given]; exact Bool.false_ne_true
    obtain ⟨value, found⟩ : ∃ value, lookup? authsKey (fieldsIn newer) = some value := by
      rwa [isLegacy, Option.isNone_eq_false_iff, Option.isSome_iff_exists] at given
    obtain ⟨members, text, same⟩ := exists_members_of_readFields read
    exact {
      auths := ⟨members, text, (same _).mpr (List.mem_map_of_mem (mem_of_lookup? found))⟩
      registries := fun legacy => absurd legacy notLegacy
      read := fun _ legacy => absurd legacy notLegacy
      usable := fun _ => isUsable_of_readFields read found
      unusable := fun full => absurd (fun legacy => absurd legacy notLegacy) full }
  · obtain ⟨readable, -⟩ := readable_of_readFields read
    obtain ⟨members, text, same⟩ := exists_members_of_readFields read
    have written := isTextOf_writeFields (enclosed (fieldsIn bytes))
    exact {
      auths := ⟨_, written, List.mem_cons_self⟩
      registries := fun _ => by
        refine ⟨members, namedDocuments (fieldsIn bytes), text, written, fun name => ?_⟩
        rw [names_namedDocuments, some_mem_iff_mem_keys, same]
      read := fun room _ => readFields_enclosed readable (room legacy)
      usable := fun room => by
        obtain ⟨registries, again, -⟩ := readFields_enclosed readable (room legacy)
        exact isUsable_of_readFields again (lookup?_cons_self _ _ _)
      unusable := fun full => by
        refine isUnusable_of_readFields (readFields_enclosed_eq_tooDeep readable ?_)
        exact not_lt.mp fun room => full fun _ => room }

/-- A document in the older form, with one registry. -/
def hubFields : List Field :=
  [("a.io", .object [("auth", .string "eHl6")])]

theorem kept_hubFields : Kept Raw.depthLimit (.object hubFields) :=
  .object (by decide) <| List.forall_mem_singleton.mpr <|
    .object (by decide) <| List.forall_mem_singleton.mpr (.string _)

/-- It is brought into the newer form, with its registry, and can be used from there on. -/
theorem hubFields_converted :
    ∃ newer, convertLegacy (writeFields hubFields) = .ok newer ∧ IsUsable newer ∧
      ∃ registries, readFields newer = .ok [(authsKey, .object registries)] ∧
        keys registries = ["a.io"] := by
  have read := readFields_writeFields kept_hubFields
  have converted := convertLegacy_of_isLegacy read rfl
  have whole := isConversion_of_convertLegacy converted
  have same := fieldsIn_eq read
  have room : HasRoom (writeFields hubFields) := by
    rw [HasRoom, same]
    decide
  obtain ⟨registries, again, named⟩ := whole.read room (by rw [same]; rfl)
  exact ⟨_, converted, whole.usable room, registries, again, by rw [named, same]; rfl⟩

/-! ### A document that is nested as deeply as allowed -/

/-- Arrays in an array, so many of them. -/
def nested : (levels : Nat) → Json
  | 0 => .array []
  | levels + 1 => .array [nested levels]

theorem kept_nested (levels : Nat) : Kept (levels + 1) (nested levels) := by
  induction levels with
  | zero => exact .array fun item member => by cases member
  | succ levels ih => exact .array (List.forall_mem_singleton.mpr ih)

theorem depth_nested (levels : Nat) : (nested levels).depth = levels + 1 := by
  induction levels with
  | zero => rfl
  | succ levels ih => rw [nested, depth, itemsDepth, itemsDepth, Nat.max_zero, ih]

/-- A document in the older form that is nested as deeply as it may be. -/
def deepestFields : List Field :=
  [("a", nested 125)]

/-- A document in the newer form that is nested as deeply as it may be. -/
def deepestNewer : List Field :=
  enclosed [("a", nested 124)]

/-- **A document is accepted for nothing:** what it is converted to is refused wherever it is used,
though other documents in the newer form may be nested as deeply as it was itself. -/
theorem deepest_unusable :
    (∃ newer, convertLegacy (writeFields deepestFields) = .ok newer ∧ IsUnusable newer) ∧
      (Json.object deepestNewer).depth = (Json.object deepestFields).depth ∧
      IsUsable (writeFields deepestNewer) := by
  have older : Kept Raw.depthLimit (.object deepestFields) :=
    .object (by decide) (List.forall_mem_singleton.mpr (kept_nested 125))
  have newer : Kept Raw.depthLimit (.object deepestNewer) :=
    .object (by decide) <| List.forall_mem_singleton.mpr <|
      .object (by decide) (List.forall_mem_singleton.mpr (kept_nested 124))
  have full : (Json.object deepestFields).depth = Raw.depthLimit := by
    rw [deepestFields, depth, fieldsDepth, fieldsDepth, Nat.max_zero, depth_nested]
    rfl
  have alsoFull : (Json.object deepestNewer).depth = Raw.depthLimit := by
    rw [deepestNewer, depth_enclosed, depth, fieldsDepth, fieldsDepth, Nat.max_zero, depth_nested]
    rfl
  have read := readFields_writeFields older
  have deep := readFields_enclosed_eq_tooDeep (readable_of_readFields read).1 full.ge
  exact ⟨⟨_, convertLegacy_of_isLegacy read rfl, isUnusable_of_readFields deep⟩,
    alsoFull.trans full.symm,
    isUsable_of_readFields (readFields_writeFields newer) (lookup?_cons_self _ _ _)⟩

end NodeStorage.Registry
