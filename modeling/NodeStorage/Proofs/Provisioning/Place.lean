/-
**Where a run is.**

A run that waits for an answer is at one of a few places: at a note, or at a creation. At each place
it has its progress in memory, and the rest of its dialogue before it. The answer takes it to the
next place.

* `Place.progress` — the progress that the run has in memory, with its checkpoint.
* `Place.left` — the dialogue that is left, which goes on with that progress.
* `Place.Turn`, `Place.step_left_iff` — **the turns from place to place are the steps of the
  dialogue**, no more and no fewer; `Place.steps_left_iff` says so of many of them.
-/

import NodeStorage.Proofs.Dialogue.Steps
import NodeStorage.Proofs.Provisioning.Course

namespace NodeStorage

namespace Provisioning.CreateRequest

open Dialogue Cluster Creation

/-! ### Places -/

/-- Where a run is. -/
inductive Place (request : CreateRequest) where
  /-- It notes that it starts. -/
  | opening
  /-- It notes that it makes local disks. -/
  | entering
  | creating (creation : Creation request)
  /-- It notes that it makes the filesystem. -/
  | pooling
  /-- It notes that it makes the storage class. -/
  | classing
  /-- It notes that all is made. -/
  | completing
  | completed
  /-- It notes that a creation was refused. -/
  | failing (creation : Creation request) (cause : Error)
  | failed (creation : Creation request) (cause : Error)

variable {request : CreateRequest}

namespace Place

/-- The place after some disks, with those that are left to make. -/
def atDisks (made : List Lun) :
    (left : List Lun) → request.newLuns = made ++ left → Place request
  | [], _ => .pooling
  | lun :: left, split => .creating (.disk made lun left split)

/-- The progress in memory. -/
def progress : Place request → Progress
  | opening => request.beginning
  | entering => request.inDisks []
  | creating creation => creation.progress
  | pooling => request.inFilesystem
  | classing => request.inStorageClass
  | completing | completed => request.finished
  | failing creation cause | failed creation cause => creation.failure cause

/-- **A run goes on** to the next place after an exchange. -/
inductive Turn : Place request → JobExchange → Place request → Prop
  | opened (answer : Outcome Unit) :
      Turn opening (noted request.job request.beginning answer) entering
  | entered (answer : Outcome Unit) :
      Turn entering (noted request.job (request.inDisks []) answer) (atDisks [] request.newLuns rfl)
  | diskMade {made : List Lun} {lun : Lun} {left : List Lun}
      {split : request.newLuns = made ++ lun :: left}
      (further : request.newLuns = (made ++ [lun]) ++ left) :
      Turn (creating (.disk made lun left split)) (request.diskMade lun)
        (atDisks (made ++ [lun]) left further)
  | pooled (answer : Outcome Unit) :
      Turn pooling (noted request.job request.inFilesystem answer) (creating .filesystem)
  | filesystemMade : Turn (creating .filesystem) request.filesystemMade classing
  | classed (answer : Outcome Unit) :
      Turn classing (noted request.job request.inStorageClass answer) (creating .storageClass)
  | storageClassMade : Turn (creating .storageClass) request.storageClassMade completing
  | completed (answer : Outcome Unit) :
      Turn completing (noted request.job request.finished answer) completed
  | refused (creation : Creation request) (cause : Error) :
      Turn (creating creation) (creation.answered (.error cause)) (failing creation cause)
  | failed (creation : Creation request) (cause : Error) (answer : Outcome Unit) :
      Turn (failing creation cause) (noted request.job (creation.failure cause) answer)
        (failed creation cause)

end Place

/-! ### What is left of the dialogue -/

/-- The rest of a run in which all is made. -/
def fromCompletion (request : CreateRequest) (progress : Progress) :
    JobDialogue (Outcome Checkpoint) :=
  (request.completion progress).attempt fun progress => pure (.ok progress.checkpoint)

/-- The rest of a run from the step of the storage class. -/
def fromStorageClass (request : CreateRequest) (progress : Progress) :
    JobDialogue (Outcome Checkpoint) :=
  (request.storageClassStep progress).attempt request.fromCompletion

/-- The rest of a run from the step of the filesystem. -/
def fromFilesystem (request : CreateRequest) (progress : Progress) :
    JobDialogue (Outcome Checkpoint) :=
  (request.filesystemStep progress).attempt request.fromStorageClass

/-- The rest of a run that has local disks to make. -/
def fromDisks (request : CreateRequest) (luns : List Lun) (progress : Progress) :
    JobDialogue (Outcome Checkpoint) :=
  ((request.makeDisks luns progress).attempt fun made =>
    pure (.ok (request.reuseDisks made))).attempt request.fromFilesystem

namespace Place

/-- What is left of the dialogue, with the progress in memory. -/
def left : Place request → JobDialogue (Outcome Checkpoint)
  | opening => request.run
  | entering => (request.disksStep request.beginning).attempt request.fromFilesystem
  | creating (.disk made lun left _) => request.fromDisks (lun :: left) (request.inDisks made)
  | creating .filesystem =>
    (request.makeFilesystem request.pool request.inFilesystem).attempt request.fromStorageClass
  | creating .storageClass =>
    (request.makeStorageClass request.inStorageClass).attempt request.fromCompletion
  | pooling => request.fromFilesystem (request.reuseDisks (request.inDisks request.newLuns))
  | classing =>
    request.fromStorageClass (request.inFilesystem.setFilesystem (some request.filesystemName))
  | completing =>
    request.fromCompletion (request.inStorageClass.setStorageClass (some request.filesystemName))
  | completed => .done (.ok request.finished.checkpoint)
  | failing creation cause =>
    stop request.job creation.trouble (cause.during creation.operation) creation.progress
  | failed creation cause => .done (.error (cause.during creation.operation))

theorem left_atDisks (made luns : List Lun) (split : request.newLuns = made ++ luns) :
    (atDisks made luns split).left = request.fromDisks luns (request.inDisks made) := by
  cases luns with
  | nil =>
    have whole : request.newLuns = made := split.trans (List.append_nil made)
    show request.fromFilesystem (request.reuseDisks (request.inDisks request.newLuns)) = _
    rw [whole]
    rfl
  | cons lun luns => rfl

/-- **The turns from place to place are the steps of the dialogue.** -/
theorem step_left_iff (place : Place request) (exchange : JobExchange)
    (rest : JobDialogue (Outcome Checkpoint)) :
    Step place.left exchange rest ↔ ∃ next, Turn place exchange next ∧ next.left = rest := by
  constructor
  · intro step
    cases place with
    | opening =>
      obtain ⟨answer, rfl, rfl⟩ := step_ask_iff.mp step
      exact ⟨_, .opened answer, rfl⟩
    | entering =>
      obtain ⟨answer, rfl, rfl⟩ := step_ask_iff.mp step
      exact ⟨_, .entered answer, left_atDisks _ _ _⟩
    | creating creation =>
      cases creation with
      | disk made lun left split =>
        obtain ⟨answer, rfl, rfl⟩ := step_ask_iff.mp step
        cases answer with
        | ok value =>
          have further : request.newLuns = (made ++ [lun]) ++ left := by
            rw [split, List.append_assoc, List.singleton_append]
          refine ⟨_, .diskMade further, ?_⟩
          rw [left_atDisks, ← inDisks_addDisk]
          rfl
        | error cause => exact ⟨_, .refused (.disk made lun left split) cause, rfl⟩
      | filesystem =>
        obtain ⟨answer, rfl, rfl⟩ := step_ask_iff.mp step
        cases answer with
        | ok value => exact ⟨_, .filesystemMade, rfl⟩
        | error cause => exact ⟨_, .refused .filesystem cause, rfl⟩
      | storageClass =>
        obtain ⟨answer, rfl, rfl⟩ := step_ask_iff.mp step
        cases answer with
        | ok value => exact ⟨_, .storageClassMade, rfl⟩
        | error cause => exact ⟨_, .refused .storageClass cause, rfl⟩
    | pooling =>
      -- Disks that are used again are not asked for: they are in the progress of the next note.
      rw [left, reuseDisks_eq] at step
      obtain ⟨answer, rfl, rfl⟩ := step_ask_iff.mp step
      exact ⟨_, .pooled answer, rfl⟩
    | classing =>
      obtain ⟨answer, rfl, rfl⟩ := step_ask_iff.mp step
      exact ⟨_, .classed answer, rfl⟩
    | completing =>
      obtain ⟨answer, rfl, rfl⟩ := step_ask_iff.mp step
      exact ⟨_, .completed answer, rfl⟩
    | completed => exact absurd step not_step_done
    | failing creation cause =>
      rw [left, stop, Progress.fail_of_not_final _ _ creation.running] at step
      obtain ⟨answer, rfl, rfl⟩ := step_ask_iff.mp step
      exact ⟨_, .failed creation cause answer, rfl⟩
    | failed creation cause => exact absurd step not_step_done
  · rintro ⟨next, turn, rfl⟩
    cases turn with
    | opened answer => exact step_ask_iff.mpr ⟨answer, rfl, rfl⟩
    | entered answer =>
      rw [left_atDisks]
      exact step_ask_iff.mpr ⟨answer, rfl, rfl⟩
    | diskMade further =>
      rw [left_atDisks, ← inDisks_addDisk]
      exact step_ask_iff.mpr ⟨.ok (), rfl, rfl⟩
    | pooled answer =>
      show Step
        (request.fromFilesystem (request.reuseDisks (request.inDisks request.newLuns))) _ _
      rw [reuseDisks_eq]
      exact step_ask_iff.mpr ⟨answer, rfl, rfl⟩
    | filesystemMade | storageClassMade => exact step_ask_iff.mpr ⟨.ok (), rfl, rfl⟩
    | classed answer | completed answer => exact step_ask_iff.mpr ⟨answer, rfl, rfl⟩
    | refused creation cause =>
      cases creation <;> exact step_ask_iff.mpr ⟨.error cause, rfl, rfl⟩
    | failed creation cause answer =>
      rw [left, stop, Progress.fail_of_not_final _ _ creation.running]
      exact step_ask_iff.mpr ⟨answer, rfl, rfl⟩

/-- The run goes on through several places. -/
inductive Turns : Place request → List JobExchange → Place request → Prop
  | none (place : Place request) : Turns place [] place
  | more {place middle last : Place request} {exchanges : List JobExchange}
      {exchange : JobExchange} :
      Turns place exchanges middle → Turn middle exchange last →
      Turns place (exchanges ++ [exchange]) last

/-- **The places that a run goes through are those of its dialogue.** -/
theorem steps_left_iff (place : Place request) (exchanges : List JobExchange)
    (rest : JobDialogue (Outcome Checkpoint)) :
    Steps place.left exchanges rest ↔ ∃ last, Turns place exchanges last ∧ last.left = rest := by
  constructor
  · intro steps
    induction steps with
    | none => exact ⟨place, .none place, rfl⟩
    | more steps step ih =>
      obtain ⟨middle, turns, rfl⟩ := ih
      obtain ⟨last, turn, rfl⟩ := (step_left_iff middle _ _).mp step
      exact ⟨last, .more turns turn, rfl⟩
  · rintro ⟨last, turns, rfl⟩
    induction turns with
    | none => exact .none _
    | more turns turn ih => exact .more ih ((step_left_iff _ _ _).mpr ⟨_, turn, rfl⟩)

end Place

end Provisioning.CreateRequest

end NodeStorage
