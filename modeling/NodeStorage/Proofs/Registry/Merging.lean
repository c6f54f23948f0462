/-
**Documents of credentials over each other.**

A document in the older form names all its fields as registries, one in the newer form those of its
part for registries. Put over another, a document in the newer form gives each of its fields the
value from above, or the one from below where there is none above (`lookup?_mergeFields`). Of
several documents put over each other, one after the other, the last one that gives something wins,
for whatever is looked at (`view_mergeAll`); so no registry and no other part is lost
(`isMerge_mergeAll`).

The bytes that are written on the way are read again as what was written
(`readFields_writeFields`), so what happens to the fields is what happens to the bytes.
-/

import NodeStorage.Proofs.Json.Values
import NodeStorage.Proofs.Text.Utf8
import NodeStorage.Registry.PullSecret

namespace NodeStorage.Registry

open Json

/-! ### Fields put over fields -/

/-- **Fields put among others, one after the other:** a field has the value from above, combined
with what was there, or what was there where there is none above. -/
theorem lookup?_foldl_insertSorted (combine : String → Option Json → Json → Json)
    (config : List Field) {more : List Field} (sorted : Sorted more) (key : String) :
    lookup? key (more.foldl (fun below field => insertSorted field.1
        (combine field.1 (lookup? field.1 below) field.2) below) config) =
      ((lookup? key more).map (combine key (lookup? key config))).or (lookup? key config) := by
  induction more generalizing config with
  | nil => rfl
  | cons field more ih =>
    obtain ⟨name, value⟩ := field
    rw [List.foldl_cons, ih _ (List.pairwise_cons.mp sorted).2]
    by_cases here : name = key
    · subst here
      -- No later field has this name, so this is the value that stays.
      rw [sorted.lookup?_tail, lookup?_cons_self, lookup?_insertSorted_self]
      rfl
    · rw [lookup?_cons_of_ne here, lookup?_insertSorted_of_ne here]

theorem lookup?_overlay (fields : List Field) {more : List Field} (sorted : Sorted more)
    (key : String) :
    lookup? key (overlay fields more) = (lookup? key more).or (lookup? key fields) := by
  have found := lookup?_foldl_insertSorted (fun _ _ value => value) fields sorted key
  rwa [Option.map_id'] at found

/-- The value of a field after a value is put over it. -/
def mergedValue (key : String) (old : Option Json) (value : Json) : Json :=
  if key = authsKey then .object (overlay (fieldsOf old) (fieldsOf (some value))) else value

theorem mergeField_eq_insertSorted (config : List Field) (field : Field) :
    mergeField config field =
      insertSorted field.1 (mergedValue field.1 (lookup? field.1 config) field.2) config := by
  obtain ⟨key, value⟩ := field
  rw [mergeField, mergedValue]
  split
  · rename_i same
    rw [show key = authsKey from same]
  · rfl

/-- **A document put over another** changes the fields that it has, and only those. -/
theorem lookup?_mergeFields (config : List Field) {more : List Field} (sorted : Sorted more)
    (key : String) :
    lookup? key (mergeFields config more) =
      ((lookup? key more).map (mergedValue key (lookup? key config))).or (lookup? key config) := by
  rw [mergeFields, funext fun config => funext (mergeField_eq_insertSorted config)]
  exact lookup?_foldl_insertSorted mergedValue config sorted key

/-! ### What a document names -/

/-- A document without a part for registries is in the older form. -/
def isLegacy (fields : List Field) : Bool :=
  (lookup? authsKey fields).isNone

/-- The credential for a registry in a document of the newer form. -/
def auth? (registry : String) (config : List Field) : Option Json :=
  lookup? registry (fieldsOf (lookup? authsKey config))

/-- The credential that a document of either form gives for a registry. -/
def credential? (registry : String) (fields : List Field) : Option Json :=
  if isLegacy fields then lookup? registry fields else auth? registry fields

/-- The value that a document gives for a part; one in the older form has registries only. -/
def part? (key : String) (fields : List Field) : Option Json :=
  if isLegacy fields then none else lookup? key fields

/-- A document in the newer form. -/
def normalized (fields : List Field) : List Field :=
  if isLegacy fields then [(authsKey, .object fields)] else fields

theorem auth?_normalized (registry : String) (fields : List Field) :
    auth? registry (normalized fields) = credential? registry fields := by
  rw [normalized, credential?]
  split
  · rw [auth?, lookup?_cons_self]
    rfl
  · rfl

theorem lookup?_normalized {key : String} (other : key ≠ authsKey) (fields : List Field) :
    lookup? key (normalized fields) = part? key fields := by
  rw [normalized, part?]
  split
  · exact lookup?_cons_of_ne other.symm _ _
  · rfl

/-- In the newer form there is a part for registries. -/
theorem exists_auths_normalized (fields : List Field) :
    ∃ value, lookup? authsKey (normalized fields) = some value := by
  rw [normalized]
  split
  · exact ⟨_, lookup?_cons_self _ _ _⟩
  · rename_i newer
    exact Option.ne_none_iff_exists'.mp (by simpa [isLegacy] using newer)

/-- What is read in one form is kept in the newer form, if there is room for one more object around
the older form. -/
theorem kept_normalized {fields : List Field} (kept : Kept Raw.depthLimit (.object fields))
    (room : isLegacy fields = true → (Json.object fields).depth < Raw.depthLimit) :
    Kept Raw.depthLimit (.object (normalized fields)) := by
  rw [normalized]
  split
  · rename_i legacy
    have inner : Kept 126 (.object fields) := kept.of_depth_le (Nat.le_of_lt_succ (room legacy))
    exact .object (List.pairwise_singleton _ _) fun field member => by
      rw [List.mem_singleton.mp member]
      exact inner
  · exact kept

/-! ### A document over another -/

theorem kept_fieldsOf (limit : Nat) {value : Option Json}
    (kept : ∀ given, value = some given → Kept (limit + 1) given) :
    Kept (limit + 1) (.object (fieldsOf value)) := by
  unfold fieldsOf
  split
  · exact kept _ rfl
  · exact .object sorted_nil fun field member => by cases member

theorem kept_overlay {limit : Nat} {fields more : List Field}
    (kept : Kept (limit + 1) (.object fields)) (others : Kept (limit + 1) (.object more)) :
    Kept (limit + 1) (.object (overlay fields more)) :=
  kept.foldl_insertSorted others.field

/-- Kept values over a kept document leave it kept. -/
theorem kept_mergeFields (limit : Nat) {config more : List Field}
    (kept : Kept (limit + 2) (.object config)) (others : ∀ field ∈ more, Kept (limit + 1) field.2) :
    Kept (limit + 2) (.object (mergeFields config more)) := by
  induction more generalizing config with
  | nil => exact kept
  | cons field more ih =>
    obtain ⟨here, later⟩ := List.forall_mem_cons.mp others
    have below : ∀ given, lookup? field.1 config = some given → Kept (limit + 1) given :=
      fun given found => kept.field _ (mem_of_lookup? found)
    have merged : Kept (limit + 1) (mergedValue field.1 (lookup? field.1 config) field.2) := by
      rw [mergedValue]
      split
      · refine kept_overlay (kept_fieldsOf limit below) (kept_fieldsOf limit ?_)
        rintro _ ⟨⟩
        exact here
      · exact here
    refine ih ?_ later
    rw [mergeField_eq_insertSorted]
    exact kept.insertSorted field.1 merged

/-- A kept document over a kept document is kept. -/
theorem kept_mergeFields_of_kept {config more : List Field}
    (kept : Kept Raw.depthLimit (.object config)) (others : Kept Raw.depthLimit (.object more)) :
    Kept Raw.depthLimit (.object (mergeFields config more)) :=
  kept_mergeFields 125 kept others.field

theorem auth?_mergeFields (registry : String) (config : List Field) {fields : List Field}
    (kept : Kept Raw.depthLimit (.object (normalized fields))) :
    auth? registry (mergeFields config (normalized fields)) =
      (credential? registry fields).or (auth? registry config) := by
  obtain ⟨value, found⟩ := exists_auths_normalized fields
  have registries : Kept 126 (.object (fieldsOf (some value))) := by
    refine kept_fieldsOf 125 ?_
    rintro _ ⟨⟩
    exact kept.field _ (mem_of_lookup? found)
  rw [← auth?_normalized, auth?, lookup?_mergeFields _ kept.sorted, found]
  show lookup? registry (overlay _ _) = _
  rw [lookup?_overlay _ registries.sorted, auth?, found, auth?]

theorem part?_mergeFields {key : String} (other : key ≠ authsKey) (config : List Field)
    {fields : List Field} (kept : Kept Raw.depthLimit (.object (normalized fields))) :
    lookup? key (mergeFields config (normalized fields)) =
      (part? key fields).or (lookup? key config) := by
  have same : mergedValue key (lookup? key config) = id := by
    funext value
    exact if_neg other
  rw [lookup?_mergeFields _ kept.sorted, same, Option.map_id, id, lookup?_normalized other]

/-! ### Several documents over each other -/

/-- A document with others put over it, one after the other. -/
def mergeAll (config : List Field) (sources : List (List Field)) : List Field :=
  sources.foldl (fun below fields => mergeFields below (normalized fields)) config

/-- What the last document that gives something gives. -/
def latest? (pick : List Field → Option Json) (sources : List (List Field)) : Option Json :=
  sources.reverse.findSome? pick

/-- **The last document that gives something wins**, whatever is looked at: any view for which
the document above counts, and the one below where that has nothing. -/
theorem view_mergeAll (view pick : List Field → Option Json) {sources : List (List Field)}
    (step : ∀ fields ∈ sources, ∀ config,
      view (mergeFields config (normalized fields)) = (pick fields).or (view config))
    (config : List Field) :
    view (mergeAll config sources) = (latest? pick sources).or (view config) := by
  induction sources generalizing config with
  | nil => rfl
  | cons fields sources ih =>
    obtain ⟨here, later⟩ := List.forall_mem_cons.mp step
    rw [mergeAll, List.foldl_cons, ← mergeAll, ih later, here, latest?, latest?, List.reverse_cons,
      List.findSome?_append, List.findSome?_singleton, Option.or_assoc]

/-- Once a document has been put over, there is a part for registries. -/
theorem exists_auths_mergeAll {sources : List (List Field)} (given : sources ≠ [])
    (kept : ∀ fields ∈ sources, Kept Raw.depthLimit (.object (normalized fields)))
    (config : List Field) :
    ∃ registries, lookup? authsKey (mergeAll config sources) = some (.object registries) := by
  obtain ⟨before, last, rfl⟩ := List.eq_nil_or_concat sources |>.resolve_left given
  obtain ⟨value, found⟩ := exists_auths_normalized last
  have sorted := (kept last (by simp)).sorted
  rw [List.concat_eq_append, mergeAll, List.foldl_append, List.foldl_cons, List.foldl_nil,
    lookup?_mergeFields _ sorted, found]
  exact ⟨_, rfl⟩

/-- The document has what the sources give, the last of them counting, and otherwise what the base
has. -/
structure IsMerge (base : List Field) (sources : List (List Field)) (fields : List Field) : Prop
    where
  /-- The part for registries is an object. -/
  auths : ∃ registries, lookup? authsKey fields = some (.object registries)
  /-- Every registry has the credential of the last source that names it. -/
  registry : ∀ registry, auth? registry fields =
    (latest? (credential? registry) sources).or (auth? registry base)
  /-- Every other part has the value of the last source in the newer form that has it. -/
  part : ∀ key, key ≠ authsKey →
    lookup? key fields = (latest? (part? key) sources).or (lookup? key base)

/-- **Documents put over each other lose nothing.** -/
theorem isMerge_mergeAll {sources : List (List Field)} (given : sources ≠ [])
    (kept : ∀ fields ∈ sources, Kept Raw.depthLimit (.object (normalized fields)))
    (base : List Field) : IsMerge base sources (mergeAll base sources) where
  auths := exists_auths_mergeAll given kept base
  registry registry := view_mergeAll (auth? registry) (credential? registry)
    (fun fields member config => auth?_mergeFields registry config (kept fields member)) base
  part key other := view_mergeAll (lookup? key) (part? key)
    (fun fields member config => part?_mergeFields other config (kept fields member)) base

theorem kept_mergeAll {sources : List (List Field)}
    (others : ∀ fields ∈ sources, Kept Raw.depthLimit (.object (normalized fields)))
    {config : List Field} (kept : Kept Raw.depthLimit (.object config)) :
    Kept Raw.depthLimit (.object (mergeAll config sources)) := by
  induction sources generalizing config with
  | nil => exact kept
  | cons fields sources ih =>
    obtain ⟨here, later⟩ := List.forall_mem_cons.mp others
    exact ih later (kept_mergeFields_of_kept kept here)

/-! ### Documents as bytes -/

/-- The fields of the object in the bytes; none where they hold no object. -/
def fieldsIn (bytes : List UInt8) : List Field :=
  (readFields bytes).toOption.getD []

/-- The bytes are an object, and its numbers are whole. -/
structure IsDocument (bytes : List UInt8) : Prop where
  read : readFields bytes = .ok (fieldsIn bytes)
  whole : (Json.object (fieldsIn bytes)).isWhole = true

/-- Bytes that are read hold a text, and the text an object. -/
theorem exists_document_of_readFields {bytes : List UInt8} {fields : List Field}
    (read : readFields bytes = .ok fields) :
    ∃ text document, Text.decodeUtf8? bytes = some text ∧ Raw.parse? text = some document ∧
      Raw.valueWithin Raw.depthLimit document = .ok (.object fields) := by
  rw [readFields] at read
  split at read
  · cases read
  · rename_i text decoded
    obtain ⟨value, parsed, isObject⟩ := bind_eq_ok read
    obtain ⟨document, known, given⟩ := bind_eq_ok parsed
    rw [Raw.parse] at known
    split at known
    · rename_i found
      cases known
      cases value with
      | object inside =>
        cases isObject
        exact ⟨text, document, decoded, found, given⟩
      | _ => cases isObject
    · cases known

/-- What is read of a document is kept. -/
theorem IsDocument.kept {bytes : List UInt8} (document : IsDocument bytes) :
    Kept Raw.depthLimit (.object (fieldsIn bytes)) := by
  obtain ⟨_, raw, -, -, read⟩ := exists_document_of_readFields document.read
  exact kept_of_valueWithin raw Raw.depthLimit _ read document.whole

/-- **The bytes of a kept document are read as the document.** -/
theorem readFields_writeFields {fields : List Field}
    (kept : Kept Raw.depthLimit (.object fields)) :
    readFields (writeFields fields) = .ok fields := by
  rw [readFields, writeFields, Text.decodeUtf8?_encodeUtf8]
  exact ok_bind kept.parse rfl

theorem readConfig_eq_ok {bytes : List UInt8} {fields : List Field}
    (read : readFields bytes = .ok fields) (what : String) :
    readConfig what bytes = .ok fields := by
  cases bytes with
  | nil => cases read
  | cons byte bytes => rw [readConfig, read]; rfl

theorem fieldsIn_eq {bytes : List UInt8} {fields : List Field}
    (read : readFields bytes = .ok fields) : fieldsIn bytes = fields := by
  rw [fieldsIn, read]
  rfl

/-- The bytes hold these fields, whatever the document is called. -/
structure Holds (bytes : List UInt8) (fields : List Field) : Prop where
  read : ∀ what, readConfig what bytes = .ok fields
  kept : Kept Raw.depthLimit (.object fields)

/-- A document, or no bytes. -/
def IsConfig (bytes : List UInt8) : Prop :=
  bytes = [] ∨ IsDocument bytes

/-- No bytes hold no fields. -/
theorem holds_nil : Holds [] [] :=
  ⟨fun _ => rfl, .object sorted_nil fun _ member => by cases member⟩

theorem IsConfig.holds {bytes : List UInt8} (config : IsConfig bytes) :
    Holds bytes (fieldsIn bytes) := by
  rcases config with rfl | document
  · exact holds_nil
  · exact ⟨readConfig_eq_ok document.read, document.kept⟩

theorem holds_writeFields {fields : List Field} (kept : Kept Raw.depthLimit (.object fields)) :
    Holds (writeFields fields) fields :=
  ⟨readConfig_eq_ok (readFields_writeFields kept), kept⟩

/-- **A document is put over another** as its fields are put over those of the other. -/
theorem Holds.mergeConfigs {config more : List UInt8} {fields others : List Field}
    (below : Holds config fields) (above : Holds more others) :
    mergeConfigs config more = .ok (writeFields (mergeFields fields others)) ∧
      Holds (writeFields (mergeFields fields others)) (mergeFields fields others) :=
  ⟨ok_bind (below.read _) (ok_bind (above.read _) rfl),
    holds_writeFields (kept_mergeFields_of_kept below.kept above.kept)⟩

/-- What is written is a document again. -/
theorem isDocument_writeFields {fields : List Field}
    (kept : Kept Raw.depthLimit (.object fields)) (whole : (Json.object fields).isWhole = true) :
    IsDocument (writeFields fields) := by
  have read := readFields_writeFields kept
  have same := fieldsIn_eq read
  exact ⟨same.symm ▸ read, same.symm ▸ whole⟩

/-- The conversion of a document to the newer form is read as that. -/
theorem convertLegacy_eq_ok {bytes : List UInt8} (document : IsDocument bytes)
    (kept : Kept Raw.depthLimit (.object (normalized (fieldsIn bytes)))) :
    ∃ newer, convertLegacy bytes = .ok newer ∧
      readFields newer = .ok (normalized (fieldsIn bytes)) := by
  rw [convertLegacy, document.read]
  by_cases legacy : isLegacy (fieldsIn bytes) = true
  · have written := readFields_writeFields kept
    rw [normalized, if_pos legacy] at written ⊢
    refine ⟨_, if_neg ?_, written⟩
    simpa [isLegacy] using legacy
  · refine ⟨bytes, if_pos ?_, ?_⟩
    · simpa [isLegacy, Option.isSome_iff_ne_none] using legacy
    · rw [normalized, if_neg legacy, document.read]

end NodeStorage.Registry
