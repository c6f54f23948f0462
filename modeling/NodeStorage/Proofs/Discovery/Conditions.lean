/-
**The health of discovery is read back.**

A condition has the time at which its status last changed; a status is timely if all these times are
valid (`Status.Timely`). Statuses that are read are timely (`Status.timely_of_read`), and so is the
next status after a timely one at a valid time (`timely_nextStatus`). A timely status is read back
from what was written of it (`Status.read_of_found`).
-/

import NodeStorage.Proofs.Discovery.Records
import NodeStorage.Proofs.Json.MergePatch
import NodeStorage.Proofs.Time.Instants

namespace NodeStorage.Discovery

open Json

/-! ### Times -/

/-- The time of the condition is valid, if it has one. -/
def Condition.Timely (condition : Condition) : Prop :=
  ∀ time ∈ condition.changedAt, time.IsValid

/-- The times of all conditions are valid. -/
def Status.Timely (status : Status) : Prop :=
  ∀ condition ∈ status.conditions, condition.Timely

theorem timely_after {condition previous : Condition} (timely : condition.Timely)
    (before : previous.Timely) : (condition.after previous).Timely := by
  rw [Condition.after]
  split
  · exact before
  · exact timely

theorem timely_putCondition {condition : Condition} {conditions : List Condition}
    (timely : condition.Timely) (before : ∀ previous ∈ conditions, previous.Timely) :
    ∀ kept ∈ putCondition condition conditions, kept.Timely := by
  induction conditions with
  | nil => simpa [putCondition] using timely
  | cons previous rest ih =>
    obtain ⟨first, later⟩ := List.forall_mem_cons.mp before
    rw [putCondition]
    split
    · exact List.forall_mem_cons.mpr ⟨timely_after timely first, later⟩
    · exact List.forall_mem_cons.mpr ⟨first, ih later⟩

theorem timely_assess (counts : Option PodCounts) {now : Instant} (valid : now.IsValid) :
    (assess counts now).2.Timely := by
  have isNow : (assess counts now).2.changedAt = some now := by
    rw [assess.eq_def]
    split
    · rfl
    · split
      · rfl
      · split <;> rfl
  intro time isTime
  rw [isNow] at isTime
  cases isTime
  exact valid

/-- **The next status is timely.** -/
theorem timely_nextStatus {previous : Option Status} (before : ∀ status ∈ previous, status.Timely)
    (counts : Option PodCounts) (generation : Option Int) {now : Instant} (valid : now.IsValid) :
    (nextStatus previous counts generation now).Timely := by
  refine timely_putCondition (timely_assess counts valid) ?_
  cases previous with
  | none => exact List.forall_mem_nil _
  | some status => exact fun kept member => before status rfl kept (List.mem_filter.mp member).1

theorem isValid_of_readInstant {document : Raw} {instant : Instant}
    (read : Cluster.Metadata.readInstant document = .ok instant) : instant.IsValid := by
  obtain ⟨text, -, parsed⟩ := bind_eq_ok read
  split at parsed
  · rename_i isInstant
    cases parsed
    exact Instant.isValid_of_parse? isInstant
  · cases parsed

/-- **A condition that is read is timely.** -/
theorem Condition.timely_of_read {document : Raw} {condition : Condition}
    (read : Condition.read document = .ok condition) : condition.Timely := by
  obtain ⟨fields, -, read⟩ := bind_eq_ok read
  obtain ⟨topic, -, read⟩ := bind_eq_ok read
  obtain ⟨status, -, read⟩ := bind_eq_ok read
  obtain ⟨changedAt, time, read⟩ := bind_eq_ok read
  obtain ⟨reason, -, read⟩ := bind_eq_ok read
  obtain ⟨message, -, same⟩ := bind_eq_ok read
  cases same
  rintro instant rfl
  rcases Fields.optional_cases time with ⟨-, none⟩ | ⟨document, given, -, isInstant, same⟩
  · cases none
  · cases same
    exact isValid_of_readInstant isInstant

theorem Status.timely_of_read {document : Raw} {status : Status}
    (read : Status.read document = .ok status) : status.Timely := by
  obtain ⟨fields, -, read⟩ := bind_eq_ok read
  obtain ⟨phase, -, read⟩ := bind_eq_ok read
  obtain ⟨conditions, listed, read⟩ := bind_eq_ok read
  obtain ⟨generation, -, same⟩ := bind_eq_ok read
  cases same
  intro condition member
  rw [Fields.withDefault] at listed
  split at listed
  · rename_i document _
    cases document with
    | null | bool | number | string | object => cases listed
    | array items =>
      obtain ⟨item, -, read⟩ := mem_of_mapM listed member
      exact Condition.timely_of_read read
  · cases listed
    cases member

theorem DiscoveryObject.timely_of_read {document : Raw} {object : DiscoveryObject}
    (read : DiscoveryObject.read document = .ok object) :
    ∀ status ∈ object.status, status.Timely := by
  obtain ⟨fields, -, read⟩ := bind_eq_ok read
  obtain ⟨metadata, -, read⟩ := bind_eq_ok read
  obtain ⟨spec, -, read⟩ := bind_eq_ok read
  obtain ⟨status, given, same⟩ := bind_eq_ok read
  cases same
  rintro status rfl
  obtain ⟨document, isStatus⟩ := Fields.exists_of_optionalByName given
  exact Status.timely_of_read isStatus

/-! ### Reading back -/

theorem Phase.find?_variants (phase : Phase) :
    Phase.variants.find? (fun entry => entry.1 == phase.name) = some (phase.name, phase) := by
  cases phase <;> rfl

theorem readAs_instant {instant : Instant} (valid : instant.IsValid) :
    ReadAs Cluster.Metadata.readInstant (.string instant.write) instant := by
  refine ⟨_, rfl, ok_bind rfl ?_⟩
  rw [Instant.parse?_write valid]
  rfl

/-- **A timely condition is read back** from its JSON form. -/
theorem Condition.readAs_toJson (condition : Condition) (timely : condition.Timely) :
    ReadAs Condition.read condition.toJson condition := by
  have written : condition.toJson =
      Json.record
        [("type", some (.string condition.topic)), ("status", some (.string condition.status)),
         ("lastTransitionTime", some (Json.ofText? (condition.changedAt.map Instant.write))),
         ("reason", some (Json.ofText? condition.reason)),
         ("message", some (Json.ofText? condition.message))] := rfl
  have writable (text : Option String) : (raw? (Json.ofText? text)).isSome = true := by
    cases text <;> rfl
  rw [written]
  refine readAs_record (by simp) ?_ fun document given fields found => ?_
  · simp [raw?, writable]
  · simp only [List.forall_mem_cons] at found
    obtain ⟨topic, status, changedAt, reason, message, -⟩ := found
    exact ok_bind fields <|
      ok_bind (Fields.required_eq_ok topic (readAs_text _)) <|
      ok_bind (Fields.required_eq_ok status (readAs_text _)) <|
      ok_bind (Fields.optional_ofText? changedAt fun time is => readAs_instant (timely time is)) <|
      ok_bind (Fields.optional_ofText? (reason.trans (by simp))
        fun text _ => readAs_text text) <|
      ok_bind (Fields.optional_ofText? (message.trans (by simp))
        fun text _ => readAs_text text) rfl

/-- The fields of the health of discovery, as they are written. -/
def Status.written (status : Status) : List (String × Option Json) :=
  [("phase", status.phase.map fun phase => .string phase.name),
   ("conditions", some (.array (status.conditions.map Condition.toJson))),
   ("observedGeneration", status.generation.map .integer)]

/-- The generation, if there is one, is a 64-bit number. -/
def Status.Fits (status : Status) : Prop :=
  ∀ generation ∈ status.generation, Text.fitsSigned generation = true

theorem readAs_conditions {status : Status} (timely : status.Timely) :
    ReadAs (Raw.list Condition.read) (.array (status.conditions.map Condition.toJson))
      status.conditions :=
  readAs_list fun condition member => condition.readAs_toJson (timely condition member)

/-- **A document that gives what was written is read as the status.** -/
theorem Status.read_of_found {status : Status} (timely : status.Timely) (fits : status.Fits)
    {document : Raw} {given : Fields}
    (fields : document.fields (status.written.map Prod.fst) = .ok given)
    (found : ∀ field ∈ status.written, given.find? field.1 = field.2.bind raw?) :
    Status.read document = .ok status := by
  simp only [written, List.forall_mem_cons] at found
  obtain ⟨phase, conditions, generation, -⟩ := found
  exact ok_bind fields <|
    ok_bind (Fields.optional_eq_ok phase
      (fun given _ => readAs_variant given.find?_variants) fun given null => by cases null) <|
    ok_bind (Fields.withDefault_eq_ok conditions (readAs_conditions timely)) <|
    ok_bind (Fields.optional_eq_ok generation
      (fun given is => readAs_integer64 (fits given is)) fun given null => by cases null) rfl

end NodeStorage.Discovery
