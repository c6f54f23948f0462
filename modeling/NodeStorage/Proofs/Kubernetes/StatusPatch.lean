/-
**A patch of the status replaces it.**

The status of an object is written as a merge patch, and a server merges it into the object that it
has: what the patch leaves out stays, lists are replaced. Nothing of the old status is left all the
same, whatever it held, since every field of the new one is written.

* `read_merge_status` — an object is read with the new status, and everything but its status stays.
* `requests_of_patchStatus` — what is sent is one patch, if the object's name can stand in a path.
* `patches_replace` — **writing a node's devices, and writing the health of discovery, replaces the
  status** of the stored object and leaves its other members as they are.
-/

import NodeStorage.Kubernetes.DiscoveryClient
import NodeStorage.Proofs.Discovery.Conditions
import NodeStorage.Proofs.Discovery.Scan

namespace NodeStorage.Kubernetes

open Json Dialogue Discovery

/-! ### Objects -/

section Objects

variable {Spec State Whole : Type} {readSpec : Raw → Reading Spec}
  {readStatus : Raw → Reading State} {build : Cluster.Metadata → Spec → Option State → Whole}

/-- The members of an object that are read. -/
theorem readObject_eq_ok_iff {members : List Member} {whole : Whole} :
    readObject readSpec readStatus build (.object members) = .ok whole ↔
      IsRecord ["metadata", "spec", "status"] members ∧
        ∃ metadata spec status,
          (∃ document, under? (some "metadata") members = some document ∧
            Cluster.Metadata.read document = .ok metadata) ∧
          (∃ document, under? (some "spec") members = some document ∧
            readSpec document = .ok spec) ∧
          Raw.optional readStatus ((under? (some "status") members).getD .null) = .ok status ∧
          whole = build metadata spec status := by
  constructor
  · intro read
    obtain ⟨fields, named, read⟩ := bind_eq_ok read
    obtain ⟨rfl, isRecord⟩ := fields_object_eq_ok_iff.mp named
    obtain ⟨metadata, isMetadata, read⟩ := bind_eq_ok read
    obtain ⟨spec, isSpec, read⟩ := bind_eq_ok read
    obtain ⟨status, isStatus, same⟩ := bind_eq_ok read
    cases same
    exact ⟨isRecord, metadata, spec, status,
      (Fields.required_taken_eq_ok_iff (by simp)).mp isMetadata,
      (Fields.required_taken_eq_ok_iff (by simp)).mp isSpec,
      (Fields.optionalByName_taken (by simp)).symm.trans isStatus, rfl⟩
  · rintro ⟨isRecord, metadata, spec, status, isMetadata, isSpec, isStatus, rfl⟩
    exact ok_bind (fields_object_eq_ok_iff.mpr ⟨rfl, isRecord⟩) <|
      ok_bind ((Fields.required_taken_eq_ok_iff (by simp)).mpr isMetadata) <|
      ok_bind ((Fields.required_taken_eq_ok_iff (by simp)).mpr isSpec) <|
      ok_bind ((Fields.optionalByName_taken (by simp)).trans isStatus) rfl

/-- **An object is read with the new status**, and everything but its status stays. -/
theorem read_merge_status {members : List Member} {whole : Whole} (status : State)
    {fields : List (String × Option Json)}
    (read : readObject readSpec readStatus build (.object members) = .ok whole)
    (distinct : (fields.map Prod.fst).Nodup)
    (flat : ∀ field ∈ fields, ∃ document,
      field.2.bind raw? = some document ∧ isFlat document = true)
    (legible : ∀ document old, readStatus document = .ok old →
      ∃ given, document.fields (fields.map Prod.fst) = .ok given)
    (means : ∀ document given, document.fields (fields.map Prod.fst) = .ok given →
      (∀ field ∈ fields, given.find? field.1 = field.2.bind raw?) →
      readStatus document = .ok status) :
    ∃ metadata spec old patch, whole = build metadata spec old ∧
      raw? (statusPatch (record fields)) = some patch ∧
      readObject readSpec readStatus build ((Raw.object members).merge patch) =
        .ok (build metadata spec (some status)) ∧
      ∀ name, name ≠ some "status" →
        under? name ((Raw.object members).merge patch).members = under? name members := by
  obtain ⟨isRecord, metadata, spec, old, isMetadata, isSpec, isStatus, rfl⟩ :=
    readObject_eq_ok_iff.mp read
  -- Whatever the old status is, a record of the same fields can be read from it, or it is none.
  have oldRecord : IsRecord (fields.map Prod.fst)
      ((under? (some "status") members).getD .null).members := by
    generalize (under? (some "status") members).getD .null = target at isStatus
    by_cases null : target = .null
    · rw [null]
      exact trivial
    · rw [Raw.optional_of_ne_null null] at isStatus
      obtain ⟨state, isState, -⟩ := map_eq_ok isStatus
      obtain ⟨given, isGiven⟩ := legible target state isState
      exact isRecord_of_fields isGiven
  obtain ⟨changes, given, known, merged, found⟩ := found_merge distinct flat oldRecord
  have patch : raw? (statusPatch (record fields)) =
      some (.object [(some "status", .object changes)]) := by
    simp only [statusPatch, raw?, rawFields?, known]
    rfl
  have other (name : Option String) (differs : name ≠ some "status") :
      under? name (mergeMembers members [(some "status", .object changes)]) =
        under? name members :=
    under?_mergeMembers_of_not_mem (by simpa [names] using differs)
  have new : under? (some "status") (mergeMembers members [(some "status", .object changes)]) =
      some (((under? (some "status") members).getD .null).merge (.object changes)) :=
    under?_mergeMembers_of_mem (by simp [names]) List.mem_cons_self (by simp)
  refine ⟨metadata, spec, old, _, rfl, patch, ?_, other⟩
  rw [merge_object, readObject_eq_ok_iff]
  show IsRecord _ (mergeMembers members _) ∧ _
  rw [Raw.members, other (some "metadata") (by simp), other (some "spec") (by simp), new]
  refine ⟨isRecord_mergeMembers isRecord (by simp [names]), metadata, spec, some status,
    isMetadata, isSpec, ?_, rfl⟩
  rw [Option.getD_some, Raw.optional_of_ne_null (by simp [merge_object]), means _ _ merged found]
  rfl

end Objects

/-! ### Requests -/

/-- An exchange with the cluster's API. -/
abbrev WireExchange := Exchange WireCall WireCall.Answer

/-- The requests that are sent, in order. -/
def requests (exchanges : List WireExchange) : List Request :=
  exchanges.filterMap fun exchange =>
    match exchange.question with
    | .send request => some request
    | .clock => none

/-- Writing a status sends one patch, if its path can be written. -/
theorem requests_of_patchStatus {α : Type} {collection : Collection} {name : String}
    {change : Json} {read : Raw → Reading α} {exchanges : List WireExchange}
    {outcome : Outcome Unit}
    (conversation : Conversation (collection.patchStatus name change read) exchanges outcome) :
    requests exchanges = ((Target.read? (collection.pathOf name ++ "/status" ++ "?")).map
      fun target => ⟨.patch, target, some change⟩).toList := by
  obtain ⟨given, asked, -⟩ := conversation_bind_done_iff.mp conversation
  rw [request] at asked
  cases legible : Target.read? (collection.pathOf name ++ "/status" ++ "?") with
  | none =>
    rw [legible] at asked
    obtain ⟨rfl, -⟩ := conversation_done_iff.mp asked
    rfl
  | some target =>
    rw [legible] at asked
    obtain ⟨response, rest, rfl, answered⟩ := conversation_ask_iff.mp asked
    obtain ⟨rfl, -⟩ := conversation_done_iff.mp answered
    rfl

/-- What a server makes of the object that it has: the body of a merge patch is merged into it. -/
def Request.appliedTo? (request : Request) (stored : Raw) : Option Raw := do
  let change ← request.body
  if request.contentType = some "application/merge-patch+json" then
    (Raw.parse? change.toText).map stored.merge
  else none

/-- Whatever it is answered, the dialogue sends one request, if the path can be written. A server
that has an object with these members makes one of it that is read as the given object, and has the
same under every name but that of the status. -/
structure ReplacesStatus {α : Type} (path : String) (read : Raw → Reading α)
    (members : List Member) (object : α) (dialogue : WireDialogue (Outcome Unit)) : Prop where
  sent : ∀ {exchanges outcome}, Conversation dialogue exchanges outcome →
    (requests exchanges).map Request.target = (Target.read? (path ++ "?")).toList
  applied : ∀ {exchanges outcome}, Conversation dialogue exchanges outcome →
    ∀ request ∈ requests exchanges, ∃ after,
      request.appliedTo? (.object members) = some after ∧ read after = .ok object ∧
        ∀ name, name ≠ some "status" → under? name after.members = under? name members

theorem replacesStatus_of_patch {α β : Type} {collection : Collection} {name : String}
    {change : Json} {patch : Raw} {read : Raw → Reading α} {readAnswer : Raw → Reading β}
    {members : List Member} {object : α} (known : raw? change = some patch)
    (result : read ((Raw.object members).merge patch) = .ok object)
    (others : ∀ name, name ≠ some "status" →
      under? name ((Raw.object members).merge patch).members = under? name members) :
    ReplacesStatus (collection.pathOf name ++ "/status") read members object
      (collection.patchStatus name change readAnswer) where
  sent conversation := by
    rw [requests_of_patchStatus conversation]
    cases Target.read? (collection.pathOf name ++ "/status" ++ "?") <;> rfl
  applied conversation request member := by
    rw [requests_of_patchStatus conversation, Option.mem_toList] at member
    obtain ⟨target, -, rfl⟩ := Option.map_eq_some_iff.mp member
    refine ⟨(Raw.object members).merge patch, ?_, result, others⟩
    show (Raw.parse? change.toText).map (Raw.object members).merge = _
    rw [parse?_toText known]
    rfl

/-! ### What is written -/

theorem replacesStatus_of_devices {devices : List DiscoveredDevice} (fit : SizesFit devices)
    (got : ResultObject) (now : Instant) {members : List Member} {stored : ResultObject}
    (read : ResultObject.read (.object members) = .ok stored) :
    ReplacesStatus
      ((results (got.metadata.namespaceName.getD "")).pathOf got.metadata.anyName ++ "/status")
      ResultObject.read members (stored.withDevices devices now)
      (updateResultStatus (got.withDevices devices now)) := by
  let status : ResultStatus := ⟨devices, some (Instant.writeSeconds now)⟩
  obtain ⟨documents, known, -⟩ := readAs_devices fit
  have flat : ∀ field ∈ status.written, ∃ document, field.2.bind raw? = some document ∧
      isFlat document = true :=
    List.forall_mem_cons.mpr ⟨⟨documents, known, isFlat_of_array known⟩,
      List.forall_mem_singleton.mpr ⟨_, rfl, rfl⟩⟩
  obtain ⟨metadata, spec, old, patch, rfl, known, result, others⟩ :=
    read_merge_status status read (by simp [ResultStatus.written]) flat
      (fun document old read => by
        obtain ⟨fields, named, -⟩ := bind_eq_ok read
        exact ⟨fields, named⟩)
      fun document given => ResultStatus.read_of_found fit
  exact replacesStatus_of_patch known result others

theorem replacesStatus_of_health {status : Status} {phase : Phase} {generation : Int}
    (hasPhase : status.phase = some phase) (hasGeneration : status.generation = some generation)
    (timely : status.Timely) (fits : status.Fits) (namespaceName name : String)
    {members : List Member} {stored : DiscoveryObject}
    (read : DiscoveryObject.read (.object members) = .ok stored) :
    ReplacesStatus ((discoveries namespaceName).pathOf name ++ "/status") DiscoveryObject.read
      members { stored with status := some status }
      (updateDiscoveryStatus namespaceName name status) := by
  obtain ⟨documents, known, -⟩ := readAs_conditions timely
  have flat : ∀ field ∈ status.written, ∃ document, field.2.bind raw? = some document ∧
      isFlat document = true := by
    rw [Status.written, hasPhase, hasGeneration]
    exact List.forall_mem_cons.mpr ⟨⟨_, rfl, rfl⟩, List.forall_mem_cons.mpr
      ⟨⟨documents, known, isFlat_of_array known⟩, List.forall_mem_singleton.mpr ⟨_, rfl, rfl⟩⟩⟩
  obtain ⟨metadata, spec, old, patch, rfl, known, result, others⟩ :=
    read_merge_status status read (by simp [Status.written]) flat
      (fun document old read => by
        obtain ⟨fields, named, -⟩ := bind_eq_ok read
        exact ⟨fields, named⟩)
      fun document given => Status.read_of_found timely fits
  exact replacesStatus_of_patch known result others

/-- **A status replaces the one that was there.** -/
theorem patches_replace :
    (∀ (identity : ResultIdentity) (devices : List DiscoveredDevice), SizesFit devices →
      ∀ {exchanges : List AgentExchange} {outcome : Outcome Unit},
        Conversation (identity.updateStatus devices) exchanges outcome →
        ∀ got : ResultObject,
          ⟨.getResult identity.namespaceName identity.resultName, .ok (some got)⟩ ∈ exchanges →
          ∃ now answer,
            exchanges = [⟨.getResult identity.namespaceName identity.resultName, .ok (some got)⟩,
              ⟨.clock, now⟩, ⟨.updateResultStatus (got.withDevices devices now), answer⟩] ∧
            ∀ members stored, ResultObject.read (.object members) = .ok stored →
              ReplacesStatus
                ((results (got.metadata.namespaceName.getD "")).pathOf got.metadata.anyName ++
                  "/status")
                ResultObject.read members (stored.withDevices devices now)
                (updateResultStatus (got.withDevices devices now))) ∧
    (∀ (namespaceName name : String) (previous : Option Status) (counts : Option PodCounts)
        (generation : Int) (now : Instant),
      (∀ status ∈ previous, status.Timely) → Text.fitsSigned generation = true → now.IsValid →
      ∀ members stored, DiscoveryObject.read (.object members) = .ok stored →
        ReplacesStatus ((discoveries namespaceName).pathOf name ++ "/status") DiscoveryObject.read
          members { stored with status := some (nextStatus previous counts (some generation) now) }
          (updateDiscoveryStatus namespaceName name
            (nextStatus previous counts (some generation) now))) ∧
    ∀ document stored, DiscoveryObject.read document = .ok stored →
      ∀ status ∈ stored.status, status.Timely := by
  refine ⟨?_, ?_, ?_⟩
  · intro identity devices fit exchanges outcome conversation got member
    cases writeGoes_of_conversation conversation with
    | unread | missing => cases List.mem_singleton.mp member
    | answered =>
      rename_i object now
      rcases List.mem_cons.mp member with same | later
      · cases same
        exact ⟨now, outcome, rfl, fun members stored => replacesStatus_of_devices fit got now⟩
      · rcases List.mem_cons.mp later with same | last
        · cases same
        · cases List.mem_singleton.mp last
  · intro namespaceName name previous counts generation now timely fits valid members stored
    refine replacesStatus_of_health rfl rfl (timely_nextStatus timely counts _ valid) ?_ _ _
    rintro _ ⟨⟩
    exact fits
  · intro document stored
    exact DiscoveryObject.timely_of_read

/-! ### Stored objects -/

private def wireText (text : String) : Raw := .string (some text)

/-- A result whose status lists a disk, and has a member that nothing reads. -/
def storedResult : List Member :=
  [(some "kind", wireText "LocalVolumeDiscoveryResult"),
   (some "status", .object
    [(some "note", .null),
     (some "discoveredDevices", .array
      [.object
        [(some "path", wireText "/dev/sda"), (some "type", wireText "disk"),
         (some "property", wireText "Rotational"),
         (some "status", .object [(some "state", wireText "Available")])]])]),
   (some "metadata", .object
    [(some "name", wireText "found"), (some "namespace", wireText "storage")]),
   (some "spec", .object [(some "nodeName", wireText "worker")])]

/-- What is read from the stored result. -/
def oldResult : ResultObject :=
  ⟨{ name := some "found", namespaceName := some "storage" }, "worker",
    some ⟨[⟨"", "/dev/sda", "", .disk, "", "", 0, .rotational, "", .available, ""⟩], none⟩⟩

/-- A discovery object whose status has two conditions. -/
def storedHealth : List Member :=
  [(some "metadata", .object [(some "name", wireText "all")]), (some "spec", .object []),
   (some "status", .object
    [(some "phase", wireText "DiscoveryFailed"),
     (some "conditions", .array
      [.object
        [(some "type", wireText "Degraded"), (some "status", wireText "False"),
         (some "lastTransitionTime", wireText "2024-02-29T23:59:60Z")],
       .object [(some "type", wireText "Available"), (some "status", wireText "True")]])])]

/-- What is read from the stored discovery object; one of its conditions began in a leap second. -/
def oldHealth : DiscoveryObject :=
  ⟨{ name := some "all" }, ⟨none⟩,
    some ⟨some .failed,
      [⟨"Degraded", "False", some ⟨1709251199, 1000000000⟩, none, none⟩,
       ⟨"Available", "True", none, none, none⟩], none⟩⟩

/-- The status of a stored result and of a stored discovery object is replaced. -/
theorem stored_replaced :
    SizesFit [oddDevice] ∧ ResultObject.read (.object storedResult) = .ok oldResult ∧
      Conversation (ResultIdentity.updateStatus ⟨"worker", "storage", "all", ""⟩ [oddDevice])
        [⟨.getResult "storage" "discovery-result-worker", .ok (some oldResult)⟩,
          ⟨.clock, ⟨0, 0⟩⟩,
          ⟨.updateResultStatus (oldResult.withDevices [oddDevice] ⟨0, 0⟩), .ok ()⟩] (.ok ()) ∧
      ReplacesStatus ((results "storage").pathOf "found" ++ "/status") ResultObject.read
        storedResult (oldResult.withDevices [oddDevice] ⟨0, 0⟩)
        (updateResultStatus (oldResult.withDevices [oddDevice] ⟨0, 0⟩)) ∧
      DiscoveryObject.read (.object storedHealth) = .ok oldHealth ∧
      (∀ status ∈ oldHealth.status, status.Timely) ∧ Instant.IsValid ⟨0, 5⟩ ∧
      ReplacesStatus ((discoveries "storage").pathOf "all" ++ "/status") DiscoveryObject.read
        storedHealth
        { oldHealth with
          status := some (nextStatus oldHealth.status (some ⟨2, 1⟩) (some 3) ⟨0, 5⟩) }
        (updateDiscoveryStatus "storage" "all"
          (nextStatus oldHealth.status (some ⟨2, 1⟩) (some 3) ⟨0, 5⟩)) := by
  have fit : SizesFit [oddDevice] := by decide
  have readResult : ResultObject.read (.object storedResult) = .ok oldResult := by decide +kernel
  have readHealth : DiscoveryObject.read (.object storedHealth) = .ok oldHealth := by
    decide +kernel
  have conversation :
      Conversation (ResultIdentity.updateStatus ⟨"worker", "storage", "all", ""⟩ [oddDevice])
        [⟨.getResult "storage" "discovery-result-worker", .ok (some oldResult)⟩,
          ⟨.clock, ⟨0, 0⟩⟩,
          ⟨.updateResultStatus (oldResult.withDevices [oddDevice] ⟨0, 0⟩), .ok ()⟩] (.ok ()) :=
    .ask _ (.ask _ (.ask _ (.done _)))
  have valid : Instant.IsValid ⟨0, 5⟩ := ⟨by decide, by decide, by decide⟩
  have timely := patches_replace.2.2 _ _ readHealth
  obtain ⟨now, answer, same, replaced⟩ := patches_replace.1 _ _ fit conversation oldResult
    List.mem_cons_self
  cases same
  exact ⟨fit, readResult, conversation, replaced _ _ readResult, readHealth, timely, valid,
    patches_replace.2.1 "storage" "all" oldHealth.status (some ⟨2, 1⟩) 3 ⟨0, 5⟩ timely (by decide)
      valid _ _ readHealth⟩

end NodeStorage.Kubernetes
