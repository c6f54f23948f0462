/-
**A run goes through its phases in order and stops at the first failure.**

Whatever a run that makes a filesystem is answered, the phases it notes are those of a whole run,
or its first ones and then one failure. It ends well exactly when the last phase noted is
completion, and all its errors come from a step of it: the progress itself never refuses a phase.
The first creation that is refused is the last one, and the note after it tells the phase, its
progress and the error as they were. The filesystem is asked for once all local disks are made, the
storage class once the filesystem is made (`CreateRequest.fail_stop`).
-/

import Mathlib.Data.List.Basic
import NodeStorage.Proofs.Provisioning.KeptCheckpoint

namespace NodeStorage.Provisioning

open Dialogue Cluster

/-! ### Phases and refusals -/

namespace Phase

/-- The phases of a whole run. -/
def whole : List Phase :=
  [.starting, .creatingDisks, .creatingFilesystem, .creatingStorageClass, .completed]

/-- Something is created in the phase. -/
def isCreating : Phase → Bool
  | .creatingDisks | .creatingFilesystem | .creatingStorageClass => true
  | _ => false

end Phase

/-- The phase that an exchange notes. -/
def notedPhase? : JobExchange → Option String
  | ⟨.annotateJob _ texts, _⟩ => TextMap.lookup? Progress.phaseKey texts
  | _ => none

/-- The phases noted, in order. -/
def notedPhases (exchanges : List JobExchange) : List String :=
  exchanges.filterMap notedPhase?

/-- The error with which an exchange refuses a creation. -/
def refusal? : JobExchange → Option Error
  | ⟨.createLocalDisk _, .error cause⟩ => some cause
  | ⟨.createFilesystem _, .error cause⟩ => some cause
  | ⟨.createStorageClass _, .error cause⟩ => some cause
  | _ => none

/-- The annotations tell that a run failed in a phase, with this error. -/
def TellsFailure (texts : TextMap) (phase : Phase) (error : Error) : Prop :=
  TextMap.lookup? Progress.phaseKey texts = some Phase.failed.name ∧
    ∃ message, (TextMap.lookup? Progress.detailsKey texts).map
        (Json.readText PhaseDetails.read) =
      some (.ok ⟨phase.name, message, some phase.progress, some error.message⟩)

theorem notedPhases_append (first second : List JobExchange) :
    notedPhases (first ++ second) = notedPhases first ++ notedPhases second :=
  List.filterMap_append

/-- The note of a failure tells the failure. -/
theorem Progress.tellsFailure_broken (progress : Progress) (message : String) (error : Error) :
    TellsFailure (progress.broken message error.message).annotations progress.phase error := by
  refine ⟨Progress.lookup?_phase _, message, ?_⟩
  rw [Progress.lookup?_details, Option.map_some, PhaseDetails.readText_toText]
  rfl

namespace CreateRequest

variable {request : CreateRequest}

theorem notedPhases_disks (luns : List Lun) : notedPhases (luns.map request.diskMade) = [] := by
  rw [notedPhases, List.filterMap_map]
  exact List.filterMap_eq_nil_iff.mpr fun _ _ => rfl

namespace Creation

/-- The phases up to the creation. -/
def phases : Creation request → List Phase
  | disk _ _ _ _ => [.starting, .creatingDisks]
  | filesystem => [.starting, .creatingDisks, .creatingFilesystem]
  | storageClass => [.starting, .creatingDisks, .creatingFilesystem, .creatingStorageClass]

theorem phases_prefix (creation : Creation request) : creation.phases <+: Phase.whole := by
  cases creation <;> exact ⟨_, rfl⟩

theorem getLast?_phases (creation : Creation request) :
    creation.phases.getLast? = some creation.progress.phase := by
  cases creation <;> rfl

theorem isCreating (creation : Creation request) :
    creation.progress.phase.isCreating = true := by
  cases creation <;> rfl

theorem notedPhases_before (creation : Creation request) (answers : Phase → Outcome Unit) :
    notedPhases (creation.before answers) = creation.phases.map Phase.name := by
  cases creation with
  | disk made lun left split =>
    rw [before, notedPhases_append, notedPhases_disks]
    rfl
  | filesystem | storageClass =>
    rw [before, notedPhases_append, notedPhases_append, notedPhases_disks]
    rfl

theorem refusal?_refused (creation : Creation request) (cause : Error) :
    refusal? (creation.answered (.error cause)) = some cause := by
  cases creation <;> rfl

/-- Nothing is refused before the creation. -/
theorem refusal?_before (creation : Creation request) (answers : Phase → Outcome Unit) :
    ∀ exchange ∈ creation.before answers, refusal? exchange = none := by
  have opening : ∀ exchange ∈ request.opening answers, refusal? exchange = none := by
    rintro exchange (_ | ⟨_, _ | ⟨_, ⟨⟩⟩⟩) <;> rfl
  have disks (luns : List Lun) :
      ∀ exchange ∈ luns.map request.diskMade, refusal? exchange = none := by
    intro exchange member
    obtain ⟨lun, -, rfl⟩ := List.mem_map.mp member
    rfl
  cases creation with
  | disk made lun left split => exact List.forall_mem_append.mpr ⟨opening, disks made⟩
  | filesystem =>
    refine List.forall_mem_append.mpr
      ⟨List.forall_mem_append.mpr ⟨opening, disks request.newLuns⟩, ?_⟩
    rintro exchange (_ | ⟨_, ⟨⟩⟩)
    rfl
  | storageClass =>
    refine List.forall_mem_append.mpr
      ⟨List.forall_mem_append.mpr ⟨opening, disks request.newLuns⟩, ?_⟩
    rintro exchange (_ | ⟨_, _ | ⟨_, _ | ⟨_, ⟨⟩⟩⟩⟩) <;> rfl

end Creation

variable {exchanges : List JobExchange} {result : Outcome Checkpoint}

/-! ### The first refusal -/

/-- **A refusal is the end of the course**: one note follows, and the error is that of the step. -/
theorem Course.after_refusal (course : request.Course exchanges result)
    {earlier later : List JobExchange} {exchange : JobExchange} {cause : Error}
    (split : exchanges = earlier ++ exchange :: later) (refused : refusal? exchange = some cause) :
    ∃ (creation : Creation request) (answers : Phase → Outcome Unit) (answer : Outcome Unit),
      earlier = creation.before answers ∧
      later = [noted request.job (creation.failure cause) answer] ∧
      result = .error (cause.during creation.operation) := by
  cases course with
  | whole answers =>
    have clean : ∀ found ∈ request.path answers, refusal? found = none := by
      refine List.forall_mem_append.mpr
        ⟨(Creation.storageClass : Creation request).refusal?_before answers, ?_⟩
      rintro found (_ | ⟨_, _ | ⟨_, ⟨⟩⟩⟩) <;> rfl
    have absent := clean exchange (by
      rw [split]
      exact List.mem_append_right _ List.mem_cons_self)
    rw [refused] at absent
    cases absent
  | stopped creation inner answers =>
    -- Nothing else is refused in a course, so it can be split at a refusal in one way only.
    have notBefore : exchange ∉ creation.before answers := by
      intro member
      have absent := creation.refusal?_before answers exchange member
      rw [refused] at absent
      cases absent
    have notAfter :
        exchange ∉ [noted request.job (creation.failure inner) (answers .failed)] := by
      intro member
      rw [List.mem_singleton.mp member] at refused
      cases refused
    obtain ⟨rfl, rfl, rfl⟩ := (List.append_cons_inj_of_notMem notBefore notAfter).mp split
    rw [creation.refusal?_refused inner] at refused
    cases refused
    exact ⟨creation, answers, answers .failed, rfl, rfl, rfl⟩

/-! ### What precedes a creation -/

/-- **The filesystem is asked for** when all local disks are made. -/
theorem Sound.before_filesystem {earlier : List JobExchange} {exchange : JobExchange}
    (sound : request.Sound earlier exchange) {asked : FilesystemRequest}
    (same : exchange.question = .createFilesystem asked) :
    worked earlier = request.diskCalls request.newLuns ∧ asked = request.filesystemRequest := by
  obtain ⟨left, planned⟩ := sound.planned (by rw [same]; rfl)
  rw [same] at planned
  have notDisk : JobCall.createFilesystem asked ∉ request.diskCalls request.newLuns := by
    intro member
    obtain ⟨lun, -, impossible⟩ := List.mem_map.mp member
    cases impossible
  have notLast : JobCall.createFilesystem asked ∉
      [JobCall.createStorageClass request.storageClassRequest] := by
    intro member
    cases List.mem_singleton.mp member
  obtain ⟨first, second, -⟩ := (List.append_cons_inj_of_notMem notDisk notLast).mp planned
  cases second
  exact ⟨first.symm, rfl⟩

/-- **The storage class is asked for** when the filesystem is made, too. -/
theorem Sound.before_storageClass {earlier : List JobExchange} {exchange : JobExchange}
    (sound : request.Sound earlier exchange) {asked : StorageClassRequest}
    (same : exchange.question = .createStorageClass asked) :
    worked earlier = request.diskCalls request.newLuns ++
        [.createFilesystem request.filesystemRequest] ∧
      asked = request.storageClassRequest := by
  obtain ⟨left, planned⟩ := sound.planned (by rw [same]; rfl)
  rw [same, plan, List.append_cons] at planned
  have notBefore : JobCall.createStorageClass asked ∉
      request.diskCalls request.newLuns ++ [.createFilesystem request.filesystemRequest] := by
    intro member
    rcases List.mem_append.mp member with member | member
    · obtain ⟨lun, -, impossible⟩ := List.mem_map.mp member
      cases impossible
    · cases List.mem_singleton.mp member
  obtain ⟨first, second, -⟩ :=
    (List.append_cons_inj_of_notMem notBefore List.not_mem_nil).mp planned
  cases second
  exact ⟨first.symm, rfl⟩

/-- A creation works or is refused. -/
theorem refusal?_of_not_worked {exchange : JobExchange}
    (creation : exchange.question.isCreation = true) (failed : worked? exchange = none) :
    ∃ cause, refusal? exchange = some cause := by
  obtain ⟨call, answer⟩ := exchange
  cases call with
  | createLocalDisk | createFilesystem | createStorageClass =>
    cases answer with
    | ok => cases failed
    | error cause => exact ⟨cause, rfl⟩
  | _ => cases creation

/-- **Between two creations something is made.** -/
theorem Course.worked_between (course : request.Course exchanges result)
    {earlier middle later : List JobExchange} {first second : JobExchange}
    (split : exchanges = earlier ++ first :: (middle ++ second :: later))
    (firstCreates : first.question.isCreation = true)
    (secondCreates : second.question.isCreation = true) :
    worked (earlier ++ first :: middle) ≠ worked earlier := by
  intro same
  rw [worked_append] at same
  have nothing : worked? first = none :=
    List.filterMap_eq_nil_iff.mp (List.append_right_eq_self.mp same) first List.mem_cons_self
  obtain ⟨cause, refused⟩ := refusal?_of_not_worked firstCreates nothing
  obtain ⟨creation, -, answer, -, after, -⟩ := course.after_refusal split refused
  have member : second ∈ [noted request.job (creation.failure cause) answer] := by
    rw [← after]
    exact List.mem_append_right _ List.mem_cons_self
  rw [List.mem_singleton.mp member] at secondCreates
  cases secondCreates

/-- **What has one history is asked for once.** -/
theorem Course.once (course : request.Course exchanges result) (asks : JobCall → Prop)
    (history : List JobCall) (creates : ∀ call, asks call → call.isCreation = true)
    (same : ∀ earlier exchange, request.Sound earlier exchange → asks exchange.question →
      worked earlier = history)
    {earlier later : List JobExchange} {first : JobExchange}
    (split : exchanges = earlier ++ first :: later) (asked : asks first.question) :
    ∀ second ∈ later, ¬ asks second.question := by
  intro second member again
  -- Both would have the same history, but something is made between them.
  obtain ⟨middle, last, rfl⟩ := List.append_of_mem member
  have between := course.worked_between split (creates _ asked) (creates _ again)
  have before := same _ _ ((sound_of_course course).at split) asked
  rw [← List.cons_append, ← List.append_assoc] at split
  have after := same _ _ ((sound_of_course course).at split) again
  exact between (after.trans before.symm)

/-! ### The phases of a course -/

theorem notedPhases_path (answers : Phase → Outcome Unit) :
    notedPhases (request.path answers) = Phase.whole.map Phase.name := by
  rw [path, notedPhases_append, Creation.notedPhases_before]
  rfl

theorem notedPhases_stopped (creation : Creation request) (cause : Error)
    (answers : Phase → Outcome Unit) (answer : Outcome Unit) :
    notedPhases (creation.before answers ++ [creation.answered (.error cause),
        noted request.job (creation.failure cause) answer]) =
      (creation.phases ++ [Phase.failed]).map Phase.name := by
  rw [notedPhases_append, Creation.notedPhases_before, List.map_append]
  cases creation <;> rfl

/-- **What a run does, whatever it is answered.** -/
structure FailStop (request : CreateRequest) (exchanges : List JobExchange)
    (result : Outcome Checkpoint) : Prop where
  /-- The phases noted are all phases in order, or the first of them up to a creation and a
  failure. -/
  phases : notedPhases exchanges = Phase.whole.map Phase.name ∨
    ∃ begun last, begun <+: Phase.whole ∧ begun.getLast? = some last ∧ last.isCreating = true ∧
      notedPhases exchanges = (begun ++ [Phase.failed]).map Phase.name
  /-- A run ends well exactly when the last phase noted is completion. -/
  ends : (∃ checkpoint, result = .ok checkpoint) ↔
    (notedPhases exchanges).getLast? = some Phase.completed.name
  /-- Every error comes from a step, none from the progress itself. -/
  errors : ∀ error, result = .error error →
    ∃ operation reason, error = .provisioning operation reason
  /-- After a refusal one note follows, which tells the phase that was current and the error that
  the run ends with. -/
  refused : ∀ earlier exchange later cause, exchanges = earlier ++ exchange :: later →
    refusal? exchange = some cause →
    ∃ texts answer phase operation, later = [⟨.annotateJob request.job texts, answer⟩] ∧
      phase.isCreating = true ∧ (notedPhases earlier).getLast? = some phase.name ∧
      result = .error (cause.during operation) ∧ TellsFailure texts phase (cause.during operation)
  /-- The filesystem is asked for once, on all disks, when the local disk of every new unit is
  made. -/
  filesystem : ∀ earlier asked answer later,
    exchanges = earlier ++ ⟨.createFilesystem asked, answer⟩ :: later →
    worked earlier = request.newLuns.map (fun lun =>
        .createLocalDisk (.of lun request.filesystemName request.namespaceName)) ∧
      asked.disks = request.newLuns.map Lun.diskName ++
        request.reusedLuns.map (fun lun => lun.localDisk.getD "") ∧
      ∀ asked answer, ⟨.createFilesystem asked, answer⟩ ∉ later
  /-- The storage class is asked for once, when the filesystem is made, too. -/
  storageClass : ∀ earlier asked answer later,
    exchanges = earlier ++ ⟨.createStorageClass asked, answer⟩ :: later →
    worked earlier = request.newLuns.map (fun lun =>
        .createLocalDisk (.of lun request.filesystemName request.namespaceName)) ++
          [.createFilesystem request.filesystemRequest] ∧
      ∀ asked answer, ⟨.createStorageClass asked, answer⟩ ∉ later

theorem Course.phases (course : request.Course exchanges result) :
    notedPhases exchanges = Phase.whole.map Phase.name ∨
      ∃ begun last, begun <+: Phase.whole ∧ begun.getLast? = some last ∧
        last.isCreating = true ∧
        notedPhases exchanges = (begun ++ [Phase.failed]).map Phase.name := by
  cases course with
  | whole answers => exact Or.inl (notedPhases_path answers)
  | stopped creation cause answers =>
    exact Or.inr ⟨creation.phases, _, creation.phases_prefix, creation.getLast?_phases,
      creation.isCreating, notedPhases_stopped creation cause answers _⟩

theorem Course.ends (course : request.Course exchanges result) :
    (∃ checkpoint, result = .ok checkpoint) ↔
      (notedPhases exchanges).getLast? = some Phase.completed.name := by
  cases course with
  | whole answers =>
    rw [notedPhases_path]
    exact iff_of_true ⟨_, rfl⟩ rfl
  | stopped creation cause answers =>
    rw [notedPhases_stopped, List.map_append, List.map_singleton, List.getLast?_concat]
    refine iff_of_false (fun ⟨_, impossible⟩ => by cases impossible) ?_
    decide

theorem Course.errors (course : request.Course exchanges result) {error : Error}
    (failed : result = .error error) :
    ∃ operation reason, error = .provisioning operation reason := by
  cases course with
  | whole answers => cases failed
  | stopped creation cause answers =>
    cases failed
    exact ⟨creation.operation, cause.message, rfl⟩

theorem Course.refused (course : request.Course exchanges result)
    {earlier later : List JobExchange} {exchange : JobExchange} {cause : Error}
    (split : exchanges = earlier ++ exchange :: later) (refused : refusal? exchange = some cause) :
    ∃ texts answer phase operation, later = [⟨.annotateJob request.job texts, answer⟩] ∧
      phase.isCreating = true ∧ (notedPhases earlier).getLast? = some phase.name ∧
      result = .error (cause.during operation) ∧
      TellsFailure texts phase (cause.during operation) := by
  obtain ⟨creation, answers, answer, rfl, rfl, rfl⟩ := course.after_refusal split refused
  refine ⟨_, answer, creation.progress.phase, creation.operation, rfl, creation.isCreating, ?_, rfl,
    creation.progress.tellsFailure_broken creation.trouble _⟩
  rw [creation.notedPhases_before, List.getLast?_map, creation.getLast?_phases]
  rfl

theorem Course.filesystem (course : request.Course exchanges result)
    {earlier later : List JobExchange} {asked : FilesystemRequest} {answer : Outcome Unit}
    (split : exchanges = earlier ++ ⟨.createFilesystem asked, answer⟩ :: later) :
    worked earlier = request.diskCalls request.newLuns ∧ asked = request.filesystemRequest ∧
      ∀ asked answer, ⟨.createFilesystem asked, answer⟩ ∉ later := by
  have sound := (sound_of_course course).at split
  refine ⟨(sound.before_filesystem rfl).1, (sound.before_filesystem rfl).2, ?_⟩
  have creates : ∀ call : JobCall, (∃ asked, call = .createFilesystem asked) →
      call.isCreation = true := by
    rintro call ⟨asked, rfl⟩
    rfl
  have history : ∀ earlier exchange, request.Sound earlier exchange →
      (∃ asked, exchange.question = .createFilesystem asked) →
      worked earlier = request.diskCalls request.newLuns := by
    rintro earlier exchange sound ⟨asked, same⟩
    exact (sound.before_filesystem same).1
  have once := course.once _ _ creates history split ⟨asked, rfl⟩
  exact fun again answer member => once _ member ⟨again, rfl⟩

theorem Course.storageClass (course : request.Course exchanges result)
    {earlier later : List JobExchange} {asked : StorageClassRequest} {answer : Outcome Unit}
    (split : exchanges = earlier ++ ⟨.createStorageClass asked, answer⟩ :: later) :
    worked earlier =
        request.diskCalls request.newLuns ++ [.createFilesystem request.filesystemRequest] ∧
      asked = request.storageClassRequest ∧
      ∀ asked answer, ⟨.createStorageClass asked, answer⟩ ∉ later := by
  have sound := (sound_of_course course).at split
  refine ⟨(sound.before_storageClass rfl).1, (sound.before_storageClass rfl).2, ?_⟩
  have creates : ∀ call : JobCall, (∃ asked, call = .createStorageClass asked) →
      call.isCreation = true := by
    rintro call ⟨asked, rfl⟩
    rfl
  have history : ∀ earlier exchange, request.Sound earlier exchange →
      (∃ asked, exchange.question = .createStorageClass asked) →
      worked earlier =
        request.diskCalls request.newLuns ++ [.createFilesystem request.filesystemRequest] := by
    rintro earlier exchange sound ⟨asked, same⟩
    exact (sound.before_storageClass same).1
  have once := course.once _ _ creates history split ⟨asked, rfl⟩
  exact fun again answer member => once _ member ⟨again, rfl⟩

/-- **A run goes through its phases in order and stops at the first failure**, whatever it is
answered. -/
theorem fail_stop (conversation : Conversation request.run exchanges result) :
    FailStop request exchanges result := by
  have course := course_of_conversation conversation
  refine ⟨course.phases, course.ends, fun _ => course.errors, fun _ _ _ _ => course.refused,
    fun earlier asked answer later split => ?_, fun earlier asked answer later split => ?_⟩
  · obtain ⟨made, rfl, once⟩ := course.filesystem split
    exact ⟨made, rfl, once⟩
  · obtain ⟨made, rfl, once⟩ := course.storageClass split
    exact ⟨made, once⟩

/-- A cluster that has the filesystem already. -/
def takenCluster : InMemory.StorageCluster :=
  ⟨[], [(⟨"fs1", "ibm-spectrum-scale"⟩, [])], [], [], []⟩

theorem trace_taken :
    trace InMemory.StorageCluster.respond small.run takenCluster =
      (Creation.filesystem : Creation small).before (fun _ => .ok ()) ++
        [(Creation.filesystem : Creation small).answered
            (.error (.resourceExists filesystemKind "fs1")),
          noted small.job ((Creation.filesystem : Creation small).failure
            (.resourceExists filesystemKind "fs1")) (.ok ())] :=
  rfl

/-- There the filesystem is refused, and no storage class is asked for. -/
theorem small_fail_stop :
    FailStop small (trace InMemory.StorageCluster.respond small.run takenCluster)
      (Dialogue.run InMemory.StorageCluster.respond small.run takenCluster).1 ∧
    notedPhases (trace InMemory.StorageCluster.respond small.run takenCluster) =
      ["starting", "creating-localdisks", "creating-filesystem", "failed"] := by
  refine ⟨fail_stop (conversation_trace InMemory.StorageCluster.respond small.run takenCluster), ?_⟩
  rw [trace_taken, notedPhases_stopped]
  rfl

end CreateRequest

end NodeStorage.Provisioning
