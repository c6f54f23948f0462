/-
**The course of a run that makes a filesystem.**

Whatever a run is answered, it follows one course: it notes that it starts, makes the local disks
of the new units one after another, the filesystem on all local disks, and the storage class, and
notes each phase as it enters it. It leaves the course at one kind of place only: a creation is
refused. Then it notes the failure and ends.

* `CreateRequest.Course` — the exchanges of a run with its result, on the whole course or up to a
  creation that is refused (`CreateRequest.Creation`).
* `CreateRequest.course_of_conversation` — **every conversation of a run is of this form.** The
  phases follow each other as they may, so no step is refused by the progress itself
  (`Progress.advance_of_mayMoveTo`, `Progress.fail_of_not_final`).
-/

import NodeStorage.Proofs.Dialogue.Conversation
import NodeStorage.Provisioning.Job

namespace NodeStorage.Provisioning

open Dialogue

/-- One question of a job with its answer. -/
abbrev JobExchange := Exchange JobCall JobCall.Answer

/-! ### Steps of the progress -/

namespace Progress

/-- The progress after a failure in the present phase. -/
def broken (progress : Progress) (message error : String) : Progress :=
  { progress with phase := .failed, details := .of progress.phase message (some error) }

theorem advance_of_mayMoveTo {progress : Progress} {next : Phase} (message : String)
    (follows : progress.phase.mayMoveTo next = true) (goesOn : next ≠ .failed) :
    progress.advance next message = .ok ⟨next, .of next message none, progress.checkpoint⟩ := by
  rw [advance, follows, bne_iff_ne.mpr goesOn]
  rfl

theorem fail_of_not_final {progress : Progress} (message error : String)
    (running : progress.phase.isFinal = false) :
    progress.fail message error = .ok (progress.broken message error) := by
  have follows : progress.phase.mayMoveTo .failed = true := by
    cases phase : progress.phase <;> simp_all [Phase.isFinal, Phase.mayMoveTo]
  rw [fail, follows]
  rfl

end Progress

/-- The progress is noted with the job. -/
def noted (job : ObjectName) (progress : Progress) (answer : Outcome Unit) : JobExchange :=
  ⟨.annotateJob job progress.annotations, answer⟩

/-! ### What is asked for -/

namespace CreateRequest

/-- The local disk of a new unit. -/
def diskRequest (request : CreateRequest) (lun : Lun) : LocalDiskRequest :=
  .of lun request.filesystemName request.namespaceName

/-- The names of local disks that are used again. -/
def reusedNames (request : CreateRequest) : List String :=
  request.reusedLuns.map fun lun => lun.localDisk.getD ""

/-- The disks of the filesystem: new ones, then those used again. -/
def pool (request : CreateRequest) : List String :=
  request.newLuns.map Lun.diskName ++ request.reusedNames

/-- The filesystem on these disks. -/
def filesystemRequest (request : CreateRequest) : FilesystemRequest :=
  .of request.filesystemName request.namespaceName request.pool

/-- The storage class of the filesystem. -/
def storageClassRequest (request : CreateRequest) : StorageClassRequest :=
  .of request.filesystemName

/-! ### The progress in each phase -/

/-- Some local disks are made. -/
def inDisks (request : CreateRequest) (made : List Lun) : Progress where
  phase := .creatingDisks
  details := .of .creatingDisks
    (String.join ["Creating ", toString request.newLuns.length, " new LocalDisk resources"]) none
  checkpoint := { localDisks := made.map Lun.diskName }

/-- All local disks are there. -/
def inFilesystem (request : CreateRequest) : Progress where
  phase := .creatingFilesystem
  details := .of .creatingFilesystem
    (String.join ["Creating FileSystem ", request.filesystemName, " with ",
      toString request.pool.length, " LocalDisks"]) none
  checkpoint := { localDisks := request.pool }

/-- The filesystem is made. -/
def inStorageClass (request : CreateRequest) : Progress where
  phase := .creatingStorageClass
  details := .of .creatingStorageClass ("Creating StorageClass " ++ request.filesystemName) none
  checkpoint := { localDisks := request.pool, filesystem := some request.filesystemName }

/-- The storage class is made. -/
def finished (request : CreateRequest) : Progress where
  phase := .completed
  details := .of .completed
    (String.join ["Successfully created filesystem ", request.filesystemName,
      " with all components"]) none
  checkpoint :=
    { localDisks := request.pool
      filesystem := some request.filesystemName
      storageClass := some request.filesystemName }

@[simp] theorem inDisks_addDisk (request : CreateRequest) (made : List Lun) (lun : Lun) :
    (request.inDisks made).addDisk lun.diskName = request.inDisks (made ++ [lun]) := by
  simp [inDisks, Progress.addDisk]

/-- Adding disks one by one adds all of them at the end. -/
theorem reuseDisks_eq (request : CreateRequest) (progress : Progress) :
    request.reuseDisks progress =
      { progress with checkpoint := { progress.checkpoint with
          localDisks := progress.checkpoint.localDisks ++ request.reusedNames } } := by
  rw [reuseDisks, reusedNames]
  induction request.reusedLuns generalizing progress with
  | nil => simp
  | cons lun luns ih =>
    rw [List.foldl_cons, ih]
    simp [Progress.addDisk]

/-! ### Creations -/

/-- A creation of the run, with what of the new units is done and to do. -/
inductive Creation (request : CreateRequest) where
  | disk (made : List Lun) (lun : Lun) (left : List Lun)
      (split : request.newLuns = made ++ lun :: left)
  | filesystem
  | storageClass

/-- A local disk is made. -/
def diskMade (request : CreateRequest) (lun : Lun) : JobExchange :=
  ⟨.createLocalDisk (request.diskRequest lun), .ok ()⟩

/-- The filesystem is made. -/
def filesystemMade (request : CreateRequest) : JobExchange :=
  ⟨.createFilesystem request.filesystemRequest, .ok ()⟩

/-- The storage class is made. -/
def storageClassMade (request : CreateRequest) : JobExchange :=
  ⟨.createStorageClass request.storageClassRequest, .ok ()⟩

/-- The notes before any creation; the answers are given by the phase that is noted. -/
def opening (request : CreateRequest) (answers : Phase → Outcome Unit) : List JobExchange :=
  [noted request.job request.beginning (answers .starting),
    noted request.job (request.inDisks []) (answers .creatingDisks)]

namespace Creation

variable {request : CreateRequest}

/-- The creation is answered. -/
def answered : Creation request → Outcome Unit → JobExchange
  | disk _ lun _ _, answer => ⟨.createLocalDisk (request.diskRequest lun), answer⟩
  | filesystem, answer => ⟨.createFilesystem request.filesystemRequest, answer⟩
  | storageClass, answer => ⟨.createStorageClass request.storageClassRequest, answer⟩

/-- What precedes the creation. -/
def before (answers : Phase → Outcome Unit) : Creation request → List JobExchange
  | disk made _ _ _ => request.opening answers ++ made.map request.diskMade
  | filesystem =>
    request.opening answers ++ request.newLuns.map request.diskMade ++
      [noted request.job request.inFilesystem (answers .creatingFilesystem)]
  | storageClass =>
    request.opening answers ++ request.newLuns.map request.diskMade ++
      [noted request.job request.inFilesystem (answers .creatingFilesystem),
        request.filesystemMade,
        noted request.job request.inStorageClass (answers .creatingStorageClass)]

/-- The progress when the creation is asked for. -/
def progress : Creation request → Progress
  | disk made _ _ _ => request.inDisks made
  | filesystem => request.inFilesystem
  | storageClass => request.inStorageClass

/-- What is said when the creation is refused. -/
def trouble : Creation request → String
  | disk _ _ _ _ => "Failed to create LocalDisks"
  | filesystem => "Failed to create FileSystem - LocalDisks have been preserved for reuse"
  | storageClass => "FileSystem created successfully, but StorageClass creation failed"

/-- The step that the creation is. -/
def operation : Creation request → String
  | disk _ lun _ _ => "failed to create LocalDisk " ++ lun.diskName
  | filesystem => "failed to create FileSystem " ++ request.filesystemName
  | storageClass => "failed to create StorageClass " ++ request.filesystemName

/-- The progress after the creation is refused. -/
def failure (creation : Creation request) (cause : Error) : Progress :=
  creation.progress.broken creation.trouble (cause.during creation.operation).message

end Creation

open Creation

/-! ### The course -/

/-- The exchanges of a run in which every creation works. -/
def path (request : CreateRequest) (answers : Phase → Outcome Unit) : List JobExchange :=
  (storageClass : Creation request).before answers ++
    [request.storageClassMade, noted request.job request.finished (answers .completed)]

/-- The exchanges of a run with its result. -/
inductive Course (request : CreateRequest) : List JobExchange → Outcome Checkpoint → Prop
  | whole (answers : Phase → Outcome Unit) :
      Course request (request.path answers) (.ok request.finished.checkpoint)
  | stopped (creation : Creation request) (cause : Error) (answers : Phase → Outcome Unit) :
      Course request
        (creation.before answers ++ [creation.answered (.error cause),
          noted request.job (creation.failure cause) (answers .failed)])
        (.error (cause.during creation.operation))

/-! ### Conversations of the steps -/

variable {request : CreateRequest} {exchanges : List JobExchange}

theorem exchanges_of_record {job : ObjectName} {progress : Progress} {result : Unit}
    (conversation : Conversation (record job progress) exchanges result) :
    ∃ answer, exchanges = [noted job progress answer] := by
  obtain ⟨answer, rest, rfl, last⟩ := conversation_ask_iff.mp conversation
  obtain ⟨rfl, -⟩ := conversation_done_iff.mp last
  exact ⟨answer, rfl⟩

/-- **A phase that may follow is entered**, whatever becomes of the note. -/
theorem exchanges_of_enter {α : Type} {job : ObjectName} {next : Phase} {message : String}
    {progress : Progress} {further : Progress → JobDialogue (Outcome α)} {result : Outcome α}
    (follows : progress.phase.mayMoveTo next = true) (goesOn : next ≠ .failed)
    (conversation :
      Conversation ((enter job next message progress).attempt further) exchanges result) :
    ∃ answer late,
      exchanges = noted job ⟨next, .of next message none, progress.checkpoint⟩ answer :: late ∧
      Conversation (further ⟨next, .of next message none, progress.checkpoint⟩) late result := by
  rw [enter, Progress.advance_of_mayMoveTo message follows goesOn] at conversation
  obtain ⟨answer, late, rfl, last⟩ := conversation_ask_iff.mp conversation
  exact ⟨answer, late, rfl, last⟩

/-- **A run that is not over is stopped** with one note and the error. -/
theorem exchanges_of_stop {α : Type} {job : ObjectName} {message : String} {cause : Error}
    {progress : Progress} {result : Outcome α}
    (conversation : Conversation (stop job message cause progress) exchanges result)
    (running : progress.phase.isFinal = false) :
    ∃ answer, exchanges = [noted job (progress.broken message cause.message) answer] ∧
      result = .error cause := by
  rw [stop, Progress.fail_of_not_final _ _ running] at conversation
  obtain ⟨early, _, late, rfl, first, last⟩ := conversation_bind_iff.mp conversation
  obtain ⟨answer, rfl⟩ := exchanges_of_record first
  obtain ⟨rfl, rfl⟩ := conversation_done_iff.mp last
  exact ⟨answer, rfl, rfl⟩

/-- The creation is refused, and the run ends with this error. -/
def Creation.Refused (creation : Creation request) (exchanges : List JobExchange)
    (error : Error) : Prop :=
  ∃ cause answer,
    exchanges = [creation.answered (.error cause),
      noted request.job (creation.failure cause) answer] ∧
    error = cause.during creation.operation

theorem Creation.running (creation : Creation request) :
    creation.progress.phase.isFinal = false := by
  cases creation <;> rfl

/-- What a run does after a refusal. -/
theorem Creation.refused_of_stop {α : Type} (creation : Creation request) {cause : Error}
    {result : Outcome α}
    (conversation : Conversation
      (stop request.job creation.trouble (cause.during creation.operation) creation.progress)
      exchanges result) :
    ∃ error, creation.Refused (creation.answered (.error cause) :: exchanges) error ∧
      result = .error error := by
  obtain ⟨answer, rfl, rfl⟩ := exchanges_of_stop conversation creation.running
  exact ⟨_, ⟨cause, answer, rfl, rfl⟩, rfl⟩

/-- **All disks are made, or one is refused** after those before it. -/
theorem exchanges_of_makeDisks {made luns : List Lun} {result : Outcome Progress}
    (split : request.newLuns = made ++ luns)
    (conversation :
      Conversation (request.makeDisks luns (request.inDisks made)) exchanges result) :
    (made.map request.diskMade ++ exchanges = request.newLuns.map request.diskMade ∧
        result = .ok (request.inDisks request.newLuns)) ∨
      ∃ error,
        (∃ (done : List Lun) (lun : Lun) (left : List Lun)
          (split : request.newLuns = done ++ lun :: left) (late : List JobExchange),
          made.map request.diskMade ++ exchanges = done.map request.diskMade ++ late ∧
            (disk done lun left split).Refused late error) ∧
        result = .error error := by
  -- The units that are made move from the list to the progress, so both vary in the induction.
  induction luns generalizing made exchanges with
  | nil =>
    obtain ⟨rfl, rfl⟩ := conversation_done_iff.mp conversation
    exact Or.inl ⟨by rw [split, List.append_nil, List.append_nil], by rw [split, List.append_nil]⟩
  | cons lun luns ih =>
    obtain ⟨answer, rest, rfl, next⟩ := conversation_ask_iff.mp conversation
    cases answer with
    | error cause =>
      obtain ⟨error, refused, rfl⟩ := (disk made lun luns split).refused_of_stop next
      exact Or.inr ⟨error, ⟨made, lun, luns, split, _, rfl, refused⟩, rfl⟩
    | ok _ =>
      have further : request.newLuns = (made ++ [lun]) ++ luns := by
        rw [split, List.append_assoc, List.singleton_append]
      have goesOn : Conversation (request.makeDisks luns (request.inDisks (made ++ [lun]))) rest
          result := by
        rw [← inDisks_addDisk]
        exact next
      have same : made.map request.diskMade ++ request.diskMade lun :: rest =
          (made ++ [lun]).map request.diskMade ++ rest := by
        rw [List.map_append, List.append_assoc]
        rfl
      have later := ih further goesOn
      rw [← same] at later
      exact later

theorem exchanges_of_makeFilesystem {result : Outcome Progress}
    (conversation :
      Conversation (request.makeFilesystem request.pool request.inFilesystem) exchanges result) :
    (exchanges = [request.filesystemMade] ∧
        result = .ok (request.inFilesystem.setFilesystem (some request.filesystemName))) ∨
      ∃ error, (filesystem : Creation request).Refused exchanges error ∧
        result = .error error := by
  obtain ⟨answer, rest, rfl, next⟩ := conversation_ask_iff.mp conversation
  cases answer with
  | error cause => exact Or.inr ((filesystem : Creation request).refused_of_stop next)
  | ok _ =>
    obtain ⟨rfl, rfl⟩ := conversation_done_iff.mp next
    exact Or.inl ⟨rfl, rfl⟩

theorem exchanges_of_makeStorageClass {result : Outcome Progress}
    (conversation :
      Conversation (request.makeStorageClass request.inStorageClass) exchanges result) :
    (exchanges = [request.storageClassMade] ∧
        result = .ok (request.inStorageClass.setStorageClass (some request.filesystemName))) ∨
      ∃ error, (storageClass : Creation request).Refused exchanges error ∧
        result = .error error := by
  obtain ⟨answer, rest, rfl, next⟩ := conversation_ask_iff.mp conversation
  cases answer with
  | error cause => exact Or.inr ((storageClass : Creation request).refused_of_stop next)
  | ok _ =>
    obtain ⟨rfl, rfl⟩ := conversation_done_iff.mp next
    exact Or.inl ⟨rfl, rfl⟩

/-! ### Conversations of a run -/

theorem exchanges_of_disksStep {result : Outcome Progress}
    (conversation : Conversation (request.disksStep request.beginning) exchanges result) :
    ((∃ answer, exchanges =
          noted request.job (request.inDisks []) answer :: request.newLuns.map request.diskMade) ∧
        result = .ok (request.reuseDisks (request.inDisks request.newLuns))) ∨
      ∃ error,
        (∃ (answer : Outcome Unit) (done : List Lun) (lun : Lun) (left : List Lun)
          (split : request.newLuns = done ++ lun :: left) (late : List JobExchange),
          exchanges = noted request.job (request.inDisks []) answer ::
              (done.map request.diskMade ++ late) ∧
            (disk done lun left split).Refused late error) ∧
        result = .error error := by
  obtain ⟨answer, late, rfl, next⟩ := exchanges_of_enter rfl (by decide) conversation
  have none : request.newLuns = [] ++ request.newLuns := rfl
  rcases conversation_attempt_of (exchanges_of_makeDisks none) next with
    ⟨early, late, rfl, whole, last⟩ | ⟨error, ⟨done, lun, left, split, late, rfl, refused⟩, rfl⟩
  · obtain ⟨rfl, rfl⟩ := conversation_done_iff.mp last
    rw [List.append_nil]
    exact Or.inl ⟨⟨answer, congrArg _ whole⟩, rfl⟩
  · exact Or.inr ⟨error, ⟨answer, done, lun, left, split, late, rfl, refused⟩, rfl⟩

theorem exchanges_of_filesystemStep {result : Outcome Progress}
    (conversation : Conversation
      (request.filesystemStep (request.reuseDisks (request.inDisks request.newLuns)))
      exchanges result) :
    ((∃ answer, exchanges =
          [noted request.job request.inFilesystem answer, request.filesystemMade]) ∧
        result = .ok (request.inFilesystem.setFilesystem (some request.filesystemName))) ∨
      ∃ error,
        (∃ answer late, exchanges = noted request.job request.inFilesystem answer :: late ∧
          (filesystem : Creation request).Refused late error) ∧
        result = .error error := by
  rw [reuseDisks_eq] at conversation
  obtain ⟨answer, late, rfl, next⟩ := exchanges_of_enter rfl (by decide) conversation
  rcases exchanges_of_makeFilesystem next with ⟨rfl, rfl⟩ | ⟨error, refused, rfl⟩
  · exact Or.inl ⟨⟨answer, rfl⟩, rfl⟩
  · exact Or.inr ⟨error, ⟨answer, late, rfl, refused⟩, rfl⟩

theorem exchanges_of_storageClassStep {result : Outcome Progress}
    (conversation : Conversation
      (request.storageClassStep
        (request.inFilesystem.setFilesystem (some request.filesystemName))) exchanges result) :
    ((∃ answer, exchanges =
          [noted request.job request.inStorageClass answer, request.storageClassMade]) ∧
        result = .ok (request.inStorageClass.setStorageClass (some request.filesystemName))) ∨
      ∃ error,
        (∃ answer late, exchanges = noted request.job request.inStorageClass answer :: late ∧
          (storageClass : Creation request).Refused late error) ∧
        result = .error error := by
  obtain ⟨answer, late, rfl, next⟩ := exchanges_of_enter rfl (by decide) conversation
  rcases exchanges_of_makeStorageClass next with ⟨rfl, rfl⟩ | ⟨error, refused, rfl⟩
  · exact Or.inl ⟨⟨answer, rfl⟩, rfl⟩
  · exact Or.inr ⟨error, ⟨answer, late, rfl, refused⟩, rfl⟩

/-- Answers to notes, by the phase that is noted. -/
def answersAt (starting disks filesystem storageClass completed failed : Outcome Unit) :
    Phase → Outcome Unit
  | .starting => starting
  | .creatingDisks => disks
  | .creatingFilesystem => filesystem
  | .creatingStorageClass => storageClass
  | .completed => completed
  | .failed => failed

/-- **Every conversation of a run follows the course**, up to a creation that is refused if there is
one. -/
theorem course_of_conversation {result : Outcome Checkpoint}
    (conversation : Conversation request.run exchanges result) :
    request.Course exchanges result := by
  obtain ⟨first, _, rfl, disks⟩ := conversation_ask_iff.mp conversation
  rcases conversation_attempt_of exchanges_of_disksStep disks with
    ⟨_, _, rfl, ⟨second, rfl⟩, onDisks⟩ |
    ⟨_, ⟨second, done, lun, left, split, _, rfl, cause, failing, rfl, rfl⟩, rfl⟩
  · rcases conversation_attempt_of exchanges_of_filesystemStep onDisks with
      ⟨_, _, rfl, ⟨third, rfl⟩, onFilesystem⟩ | ⟨_, ⟨third, _, rfl, cause, failing, rfl, rfl⟩, rfl⟩
    · rcases conversation_attempt_of exchanges_of_storageClassStep onFilesystem with
        ⟨_, _, rfl, ⟨fourth, rfl⟩, ending⟩ | ⟨_, ⟨fourth, _, rfl, cause, failing, rfl, rfl⟩, rfl⟩
      · obtain ⟨last, _, rfl, final⟩ := exchanges_of_enter rfl (by decide) ending
        obtain ⟨rfl, rfl⟩ := conversation_done_iff.mp final
        have whole : request.Course _ _ :=
          .whole (answersAt first second third fourth last (.ok ()))
        rw [path, before, List.append_assoc, List.append_assoc] at whole
        exact whole
      · have stopped := Course.stopped (storageClass : Creation request) cause
          (answersAt first second third fourth (.ok ()) failing)
        rw [before, List.append_assoc, List.append_assoc] at stopped
        exact stopped
    · have stopped := Course.stopped (filesystem : Creation request) cause
        (answersAt first second third (.ok ()) (.ok ()) failing)
      rw [before, List.append_assoc, List.append_assoc] at stopped
      exact stopped
  · exact .stopped (disk done lun left split) cause
      (answersAt first second (.ok ()) (.ok ()) (.ok ()) failing)

end CreateRequest

end NodeStorage.Provisioning
