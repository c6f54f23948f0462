/-
**A request to make a filesystem is complete and means what was submitted.**

Names are trimmed and must not be blank, the lists of units are read from their JSON texts, there
is a unit at least, and every unit to reuse says which local disk it has. Nothing else is checked
(`createRequest_eq_ok_iff`). So a run finds everything in its request: where it takes the name of a
reused disk, a name has been submitted, and the filesystem is never asked for without disks. And
whatever lists of units are written as they are written in JSON, the request has just these units.

* `Complete` — names without white space around them, some unit, and the disks of reused units.
* `lunsOf_lunsText` — **the text of a list of units means the list.**
* `accepted_complete` — both directions, with the disks on which a run asks for the filesystem.
-/

import NodeStorage.Proofs.Provisioning.CleanUp
import NodeStorage.Proofs.Provisioning.Phases

namespace NodeStorage.Provisioning

open Json Dialogue

/-! ### Units in their texts -/

theorem Lun.readAs_toJson (lun : Lun) : ReadAs Lun.read lun.toJson lun := by
  refine readAs_record (by simp) ?_ fun document given fields found => ?_
  · simp [raw?]
  · simp only [List.forall_mem_cons] at found
    obtain ⟨path, wwn, node, isReused, localDisk, -⟩ := found
    exact ok_bind fields <| ok_bind (Fields.required_eq_ok path (readAs_text _)) <|
      ok_bind (Fields.required_eq_ok wwn (readAs_text _)) <|
      ok_bind (Fields.required_eq_ok node (readAs_text _)) <|
      ok_bind (Fields.withDefault_eq_ok isReused (readAs_boolean _)) <|
      ok_bind (Fields.optional_text localDisk) rfl

/-- The JSON text of a list of units. -/
def lunsText (luns : List Lun) : String :=
  (Json.array (luns.map Lun.toJson)).toText

theorem readAs_luns (luns : List Lun) : ReadAs readLuns (.array (luns.map Lun.toJson)) luns := by
  obtain ⟨document, known, read⟩ := readAs_list fun lun (_ : lun ∈ luns) => lun.readAs_toJson
  have other : document ≠ .null := by
    rintro rfl
    cases eq_null_of_raw? known
  refine ⟨document, known, ?_⟩
  rw [readLuns, Raw.optional_of_ne_null other, read]
  rfl

/-- **The text of a list of units means the list**, whatever the texts in it contain. -/
theorem lunsOf_lunsText (luns : List Lun) (source : String) :
    lunsOf (some (lunsText luns)) source = .ok luns := by
  have filled : write (.array (luns.map Lun.toJson)) ≠ [] := List.cons_ne_nil _ _
  have given : Text.present? (some (lunsText luns)) = some (lunsText luns) :=
    Text.present?_of_bare (bare_write_array _) filled
  have read : readText readLuns (lunsText luns) = .ok luns := (readAs_luns luns).readText
  rw [lunsOf, given]
  simp only [read]

/-! ### Units to reuse -/

/-- The unit says which local disk it has. -/
def Lun.NamesDisk (lun : Lun) : Prop :=
  ∃ name, lun.localDisk = some name ∧ name ≠ ""

theorem Lun.lacksDisk_eq_false_iff {lun : Lun} : lun.lacksDisk = false ↔ lun.NamesDisk := by
  rw [lacksDisk, NamesDisk, Bool.eq_false_iff, ne_eq, String.isEmpty_iff]
  cases lun.localDisk <;> simp

theorem checkReused_eq_ok_iff {luns : List Lun} :
    checkReused luns = .ok () ↔ ∀ lun ∈ luns, lun.NamesDisk := by
  simp only [← Lun.lacksDisk_eq_false_iff]
  rw [checkReused]
  cases found : luns.find? Lun.lacksDisk with
  | none => simpa using List.find?_eq_none.mp found
  | some lun =>
    have lacks : lun.lacksDisk = true := List.find?_some found
    have member : lun ∈ luns := List.mem_of_find?_eq_some found
    refine iff_of_false (fun passed => by cases passed) fun all => ?_
    rw [all lun member] at lacks
    cases lacks

/-! ### What is checked -/

/-- There are units, and those to reuse say which local disk they have. -/
structure Usable (newLuns reusedLuns : List Lun) : Prop where
  any : newLuns ≠ [] ∨ reusedLuns ≠ []
  reused : ∀ lun ∈ reusedLuns, lun.NamesDisk

/-- The request says what the arguments say. -/
structure Submitted (arguments : JobArguments) (request : CreateRequest) : Prop where
  filesystemName : Text.present? arguments.filesystemName = some request.filesystemName
  namespaceName : Text.present? arguments.namespaceName = some request.namespaceName
  jobName : Text.present? arguments.jobName = some request.job.name
  newLuns : lunsOf arguments.newLuns "NEW_LUNS_JSON" = .ok request.newLuns
  reusedLuns : lunsOf arguments.reusedLuns "REUSED_LUNS_JSON" = .ok request.reusedLuns
  jobNamespace : request.job.namespaceName =
    (Text.present? arguments.fusionNamespace).getD defaultNamespace

namespace JobArguments

variable {arguments : JobArguments} {request : CreateRequest}

theorem required_of_present? {text : Option String} {source value : String}
    (given : Text.present? text = some value) : required text source = .ok value := by
  rw [required, given]

/-- **What is accepted** is what the arguments say, when the units are usable. -/
theorem createRequest_eq_ok_iff :
    arguments.createRequest = .ok request ↔
      Submitted arguments request ∧ Usable request.newLuns request.reusedLuns := by
  constructor
  · intro accepted
    obtain ⟨filesystemName, given, rest⟩ := bind_eq_ok accepted
    obtain ⟨namespaceName, placed, rest⟩ := bind_eq_ok rest
    obtain ⟨jobName, named, rest⟩ := bind_eq_ok rest
    obtain ⟨newLuns, new, rest⟩ := bind_eq_ok rest
    obtain ⟨reusedLuns, reused, rest⟩ := bind_eq_ok rest
    split at rest
    · cases rest
    · rename_i any
      obtain ⟨_, checked, last⟩ := bind_eq_ok rest
      cases last
      refine ⟨⟨present?_of_required given, present?_of_required placed, present?_of_required named,
        new, reused, rfl⟩, ?_, checkReused_eq_ok_iff.mp checked⟩
      simpa [or_iff_not_imp_left] using any
  · rintro ⟨submitted, usable⟩
    have any : ¬ (request.newLuns.isEmpty && request.reusedLuns.isEmpty) = true := by
      simpa [or_iff_not_imp_left] using usable.any
    refine ok_bind (required_of_present? submitted.filesystemName) <|
      ok_bind (required_of_present? submitted.namespaceName) <|
      ok_bind (required_of_present? submitted.jobName) <|
      ok_bind submitted.newLuns <| ok_bind submitted.reusedLuns ?_
    rw [if_neg any]
    refine ok_bind (checkReused_eq_ok_iff.mpr usable.reused) ?_
    rw [← submitted.jobNamespace]
    rfl

theorem toRequest_of_createRequest (operation : arguments.operation = some .createFilesystem)
    (made : arguments.createRequest = .ok request) :
    arguments.toRequest = .ok (.createFilesystem request) := by
  simp only [toRequest, operation, made]
  rfl

end JobArguments

/-! ### Complete requests -/

/-- A text with something in it and no white space around it. -/
structure Proper (text : String) : Prop where
  filled : text ≠ ""
  bare : Text.Bare text.toList

theorem proper_of_present? {text : Option String} {value : String}
    (given : Text.present? text = some value) : Proper value := by
  obtain ⟨chars, rfl, bare, filled⟩ := Text.exists_bare_of_present? given
  refine ⟨fun empty => filled ?_, by rwa [String.toList_ofList]⟩
  rw [← String.toList_ofList (l := chars), empty]
  rfl

/-- The names and the units of the request are there. -/
structure Complete (request : CreateRequest) : Prop where
  filesystemName : Proper request.filesystemName
  namespaceName : Proper request.namespaceName
  jobName : Proper request.job.name
  jobNamespace : Proper request.job.namespaceName
  units : Usable request.newLuns request.reusedLuns

theorem Submitted.complete {arguments : JobArguments} {request : CreateRequest}
    (submitted : Submitted arguments request)
    (usable : Usable request.newLuns request.reusedLuns) : Complete request := by
  refine ⟨proper_of_present? submitted.filesystemName, proper_of_present? submitted.namespaceName,
    proper_of_present? submitted.jobName, ?_, usable⟩
  rw [submitted.jobNamespace]
  cases given : Text.present? arguments.fusionNamespace with
  | none =>
    have given : Text.present? (some defaultNamespace) = some defaultNamespace := by decide
    exact proper_of_present? given
  | some namespaceName => exact proper_of_present? given

/-! ### The disks of the filesystem -/

/-- The disks are those of the new units and then, by their submitted names, those of the units to
reuse; and there is a disk. -/
def Pools (request : CreateRequest) (disks : List String) : Prop :=
  disks ≠ [] ∧ ∃ names, request.reusedLuns.map Lun.localDisk = names.map some ∧
    disks = request.newLuns.map Lun.diskName ++ names

/-- **The pool of a complete request** has a submitted name for every reused unit: what stands in
for a missing one is not in it. -/
theorem Usable.pools {request : CreateRequest}
    (usable : Usable request.newLuns request.reusedLuns) : Pools request request.pool := by
  refine ⟨?_, request.reusedNames, ?_, rfl⟩
  · intro empty
    obtain ⟨noNew, noReused⟩ := List.append_eq_nil_iff.mp empty
    rcases usable.any with new | reused
    · exact new (List.map_eq_nil_iff.mp noNew)
    · exact reused (List.map_eq_nil_iff.mp noReused)
  · rw [CreateRequest.reusedNames, List.map_map]
    refine List.map_congr_left fun lun member => ?_
    obtain ⟨name, named, -⟩ := usable.reused lun member
    rw [Function.comp_apply, named]
    rfl

/-- A run asks for the filesystem on the pool. -/
theorem CreateRequest.disks_of_conversation {request : CreateRequest}
    {exchanges : List JobExchange} {result : Outcome Checkpoint}
    (conversation : Conversation request.run exchanges result) {asked : FilesystemRequest}
    {answer : Outcome Unit} (member : ⟨.createFilesystem asked, answer⟩ ∈ exchanges) :
    asked.disks = request.pool := by
  obtain ⟨earlier, later, split⟩ := List.append_of_mem member
  obtain ⟨-, rfl, -⟩ := (course_of_conversation conversation).filesystem split
  rfl

/-- **A request to make a filesystem is complete and means what was submitted.** What is accepted
has all its names and usable units, and a run on it asks for the filesystem on the disks of just
these units. Whatever usable units are submitted by their texts, with names that are not blank, are
accepted as they are. -/
theorem accepted_complete :
    (∀ (arguments : JobArguments) (request : CreateRequest),
      arguments.toRequest = .ok (.createFilesystem request) →
        Submitted arguments request ∧ Complete request ∧
        ∀ exchanges result, Conversation request.run exchanges result →
          ∀ asked answer, ⟨.createFilesystem asked, answer⟩ ∈ exchanges →
            Pools request asked.disks) ∧
    ∀ (arguments : JobArguments) (filesystemName namespaceName jobName : String)
      (newLuns reusedLuns : List Lun),
      arguments.operation = some .createFilesystem →
      arguments.filesystemName = some filesystemName → Text.isBlank filesystemName = false →
      arguments.namespaceName = some namespaceName → Text.isBlank namespaceName = false →
      arguments.jobName = some jobName → Text.isBlank jobName = false →
      arguments.newLuns = some (lunsText newLuns) →
      arguments.reusedLuns = some (lunsText reusedLuns) → Usable newLuns reusedLuns →
      arguments.toRequest = .ok (.createFilesystem
        ⟨Text.trim filesystemName, Text.trim namespaceName, newLuns, reusedLuns,
          ⟨Text.trim jobName,
            (Text.present? arguments.fusionNamespace).getD defaultNamespace⟩⟩) := by
  refine ⟨fun arguments request accepted => ?_, ?_⟩
  · obtain ⟨submitted, usable⟩ := JobArguments.createRequest_eq_ok_iff.mp
      (JobArguments.createRequest_of_toRequest accepted)
    refine ⟨submitted, submitted.complete usable, ?_⟩
    intro exchanges result conversation asked answer member
    rw [CreateRequest.disks_of_conversation conversation member]
    exact usable.pools
  · intro arguments filesystemName namespaceName jobName newLuns reusedLuns operation
      filesystem hasFilesystem place hasPlace job hasJob new reused usable
    apply JobArguments.toRequest_of_createRequest operation
    refine JobArguments.createRequest_eq_ok_iff.mpr ⟨⟨?_, ?_, ?_, ?_, ?_, rfl⟩, usable⟩
    · rw [filesystem, Text.present?_of_isBlank hasFilesystem]
    · rw [place, Text.present?_of_isBlank hasPlace]
    · rw [job, Text.present?_of_isBlank hasJob]
    · rw [new, lunsOf_lunsText]
    · rw [reused, lunsOf_lunsText]

/-- A new unit, whose texts hold quotes, controls and letters beyond ASCII, and one to reuse. -/
def oddArguments : JobArguments where
  operation := some .createFilesystem
  filesystemName := some " fs1\n"
  namespaceName := some "scale"
  jobName := some "make-fs1"
  newLuns := some (lunsText [⟨"/dev/sd\"b\"", "0xA\n𝔻", "", false, some ""⟩])
  reusedLuns := some (lunsText [⟨"", "\\", "node 1", true, some " sdc "⟩])
  createdResources := some "nobody reads this"

/-- The request that they make. -/
def oddRequest : CreateRequest :=
  ⟨"fs1", "scale", [⟨"/dev/sd\"b\"", "0xA\n𝔻", "", false, some ""⟩],
    [⟨"", "\\", "node 1", true, some " sdc "⟩], ⟨"make-fs1", defaultNamespace⟩⟩

/-- It is accepted as it is, and a run on it in an empty cluster asks for the filesystem on the disk
that it has made and the disk that was submitted. -/
theorem oddArguments_accepted :
    oddArguments.toRequest = .ok (.createFilesystem oddRequest) ∧ Complete oddRequest ∧
      Pools oddRequest ["sd\"b\"-0xa\n𝔻", " sdc "] := by
  have accepted := accepted_complete.2 oddArguments " fs1\n" "scale" "make-fs1"
    oddRequest.newLuns oddRequest.reusedLuns rfl rfl (by decide) rfl (by decide) rfl (by decide)
    rfl rfl ⟨Or.inl (List.cons_ne_nil _ _), fun lun member => by
      rw [List.mem_singleton.mp member]
      exact ⟨" sdc ", rfl, by decide⟩⟩
  rw [show Text.trim " fs1\n" = "fs1" by decide, show Text.trim "scale" = "scale" by decide,
    show Text.trim "make-fs1" = "make-fs1" by decide] at accepted
  obtain ⟨-, complete, pools⟩ := accepted_complete.1 oddArguments oddRequest accepted
  refine ⟨accepted, complete, ?_⟩
  have conversation :=
    conversation_trace InMemory.StorageCluster.respond oddRequest.run ⟨[], [], [], [], []⟩
  exact pools _ _ conversation
    (.of "fs1" "scale" ["sd\"b\"-0xa\n𝔻", " sdc "]) (.ok ())
    (List.mem_of_getElem? (show (trace InMemory.StorageCluster.respond oddRequest.run
      ⟨[], [], [], [], []⟩)[4]? = some _ from rfl))

end NodeStorage.Provisioning
