/-
**What a run has made, read off its exchanges.**

The creations that worked so far are the history of a run. Every exchange is bound by the history
before it (`CreateRequest.Sound`): a creation is the next one that is planned, and a note claims
what was made and no more. This holds along every course (`CreateRequest.sound_of_course`), and
what the last note claims is exactly what was made in all (`CreateRequest.last_note_of_course`).
-/

import NodeStorage.Proofs.Provisioning.Course

namespace NodeStorage.Provisioning

open Dialogue Cluster

/-! ### Creations that worked -/

namespace JobCall

/-- The call creates something. -/
def isCreation : JobCall → Bool
  | .createLocalDisk _ | .createFilesystem _ | .createStorageClass _ => true
  | _ => false

/-- The local disk that the call creates. -/
def disk? : JobCall → Option LocalDiskRequest
  | .createLocalDisk request => some request
  | _ => none

/-- The filesystem that the call creates. -/
def filesystem? : JobCall → Option FilesystemRequest
  | .createFilesystem request => some request
  | _ => none

/-- The storage class that the call creates. -/
def storageClass? : JobCall → Option StorageClassRequest
  | .createStorageClass request => some request
  | _ => none

end JobCall

/-- The creation in an exchange, if it worked. -/
def worked? : JobExchange → Option JobCall
  | ⟨.createLocalDisk request, .ok _⟩ => some (.createLocalDisk request)
  | ⟨.createFilesystem request, .ok _⟩ => some (.createFilesystem request)
  | ⟨.createStorageClass request, .ok _⟩ => some (.createStorageClass request)
  | _ => none

/-- The creations that worked, in order. -/
def worked (exchanges : List JobExchange) : List JobCall :=
  exchanges.filterMap worked?

theorem worked_append (first second : List JobExchange) :
    worked (first ++ second) = worked first ++ worked second :=
  List.filterMap_append

namespace CreateRequest

variable (request : CreateRequest)

/-- The calls for the local disks of new units. -/
def diskCalls (luns : List Lun) : List JobCall :=
  luns.map fun lun => .createLocalDisk (request.diskRequest lun)

/-- The creations of a run in which each of them works. -/
def plan : List JobCall :=
  request.diskCalls request.newLuns ++
    [.createFilesystem request.filesystemRequest, .createStorageClass request.storageClassRequest]

theorem worked_disks (luns : List Lun) :
    worked (luns.map request.diskMade) = request.diskCalls luns := by
  rw [worked, List.filterMap_map, diskCalls, ← List.filterMap_eq_map]
  rfl

theorem worked_opening (answers : Phase → Outcome Unit) : worked (request.opening answers) = [] :=
  rfl

/-- The checkpoint of these creations: the disks that are used again belong to it as soon as all new
ones are there. -/
def checkpointOf (calls : List JobCall) : Checkpoint where
  localDisks :=
    (calls.filterMap JobCall.disk?).map LocalDiskRequest.name ++
      if (calls.filterMap JobCall.disk?).length = request.newLuns.length then request.reusedNames
      else []
  filesystem := (calls.filterMap JobCall.filesystem?).head?.map FilesystemRequest.name
  storageClass := (calls.filterMap JobCall.storageClass?).head?.map StorageClassRequest.name

/-- **The checkpoint claims no more than these creations.** -/
structure Backed (calls : List JobCall) (checkpoint : Checkpoint) : Prop where
  /-- The local disks are made for the first of the new units, or for all of them; only then the
  disks that are used again may follow. -/
  disks : ∃ made left, request.newLuns = made ++ left ∧
    calls.filterMap JobCall.disk? = made.map request.diskRequest ∧
    (checkpoint.localDisks = made.map Lun.diskName ∨
      left = [] ∧ checkpoint.localDisks = made.map Lun.diskName ++ request.reusedNames)
  filesystem : ∀ name, checkpoint.filesystem = some name →
    ∃ asked, JobCall.createFilesystem asked ∈ calls ∧ asked.name = name
  storageClass : ∀ name, checkpoint.storageClass = some name →
    ∃ asked, JobCall.createStorageClass asked ∈ calls ∧ asked.name = name

/-- An exchange that may follow the earlier ones: the next creation, or a note of what was made. -/
def Sound (earlier : List JobExchange) (exchange : JobExchange) : Prop :=
  (exchange.question.isCreation = true ∧
      ∃ left, request.plan = worked earlier ++ exchange.question :: left) ∨
    ∃ progress : Progress, exchange.question = .annotateJob request.job progress.annotations ∧
      request.Backed (worked earlier) progress.checkpoint

/-! ### The history of a creation -/

variable {request}

namespace Creation

/-- The call of the creation. -/
def call : Creation request → JobCall
  | disk _ lun _ _ => .createLocalDisk (request.diskRequest lun)
  | filesystem => .createFilesystem request.filesystemRequest
  | storageClass => .createStorageClass request.storageClassRequest

/-- The creations before it. -/
def done : Creation request → List JobCall
  | disk made _ _ _ => request.diskCalls made
  | filesystem => request.diskCalls request.newLuns
  | storageClass =>
    request.diskCalls request.newLuns ++ [.createFilesystem request.filesystemRequest]

theorem question_answered (creation : Creation request) (answer : Outcome Unit) :
    (creation.answered answer).question = creation.call := by
  cases creation <;> rfl

theorem worked_refused (creation : Creation request) (cause : Error) :
    worked? (creation.answered (.error cause)) = none := by
  cases creation <;> rfl

theorem worked_before (creation : Creation request) (answers : Phase → Outcome Unit) :
    worked (creation.before answers) = creation.done := by
  cases creation with
  | disk made lun left split =>
    rw [before, worked_append, worked_opening, worked_disks]
    rfl
  | filesystem =>
    rw [before, worked_append, worked_append, worked_opening, worked_disks, done]
    exact List.append_nil _
  | storageClass =>
    rw [before, worked_append, worked_append, worked_opening, worked_disks]
    rfl

/-- The creation is the next one that is planned. -/
theorem plan_eq (creation : Creation request) :
    ∃ left, request.plan = creation.done ++ creation.call :: left := by
  cases creation with
  | disk made lun left split =>
    refine ⟨request.diskCalls left ++ [.createFilesystem request.filesystemRequest,
      .createStorageClass request.storageClassRequest], ?_⟩
    rw [plan, split, diskCalls, List.map_append, List.map_cons, List.append_assoc]
    rfl
  | filesystem => exact ⟨_, rfl⟩
  | storageClass =>
    refine ⟨[], ?_⟩
    rw [done, List.append_assoc]
    rfl

end Creation

/-! ### Disks among the calls -/

theorem disks_diskCalls (luns : List Lun) :
    (request.diskCalls luns).filterMap JobCall.disk? = luns.map request.diskRequest := by
  rw [diskCalls, List.filterMap_map, ← List.filterMap_eq_map]
  rfl

theorem filesystems_diskCalls (luns : List Lun) :
    (request.diskCalls luns).filterMap JobCall.filesystem? = [] := by
  rw [diskCalls, List.filterMap_map]
  exact List.filterMap_eq_nil_iff.mpr fun _ _ => rfl

theorem storageClasses_diskCalls (luns : List Lun) :
    (request.diskCalls luns).filterMap JobCall.storageClass? = [] := by
  rw [diskCalls, List.filterMap_map]
  exact List.filterMap_eq_nil_iff.mpr fun _ _ => rfl

theorem names_diskRequest (luns : List Lun) :
    (luns.map request.diskRequest).map LocalDiskRequest.name = luns.map Lun.diskName := by
  rw [List.map_map]
  rfl

/-! ### What notes claim -/

/-- The disks of a history whose other creations are none of disks. -/
theorem disks_append {calls : List JobCall} (luns : List Lun)
    (others : calls.filterMap JobCall.disk? = []) :
    (request.diskCalls luns ++ calls).filterMap JobCall.disk? = luns.map request.diskRequest := by
  rw [List.filterMap_append, others, List.append_nil, disks_diskCalls]

theorem backed_disks {made left : List Lun} (split : request.newLuns = made ++ left) :
    request.Backed (request.diskCalls made) (request.inDisks made).checkpoint where
  disks := ⟨made, left, split, disks_diskCalls made, Or.inl rfl⟩
  filesystem _ named := by cases named
  storageClass _ named := by cases named

/-- All new disks are there, and the names that are given were created. -/
theorem backed_pool {calls : List JobCall} {filesystem storageClass : Option String}
    (others : calls.filterMap JobCall.disk? = [])
    (filesystems : ∀ name, filesystem = some name →
      ∃ asked, JobCall.createFilesystem asked ∈ calls ∧ asked.name = name)
    (storageClasses : ∀ name, storageClass = some name →
      ∃ asked, JobCall.createStorageClass asked ∈ calls ∧ asked.name = name) :
    request.Backed (request.diskCalls request.newLuns ++ calls)
      ⟨request.pool, filesystem, storageClass⟩ where
  disks :=
    ⟨request.newLuns, [], (List.append_nil _).symm, disks_append _ others, Or.inr ⟨rfl, rfl⟩⟩
  filesystem name named := by
    obtain ⟨asked, member, same⟩ := filesystems name named
    exact ⟨asked, List.mem_append_right _ member, same⟩
  storageClass name named := by
    obtain ⟨asked, member, same⟩ := storageClasses name named
    exact ⟨asked, List.mem_append_right _ member, same⟩

theorem Creation.backed (creation : Creation request) :
    request.Backed creation.done creation.progress.checkpoint := by
  cases creation with
  | disk made lun left split => exact backed_disks split
  | filesystem =>
    rw [done, ← List.append_nil (request.diskCalls _)]
    exact backed_pool rfl (fun name named => by cases named) fun name named => by cases named
  | storageClass =>
    refine backed_pool rfl ?_ fun name named => by cases named
    rintro name ⟨rfl⟩
    exact ⟨_, List.mem_singleton_self _, rfl⟩

theorem backed_finished : request.Backed request.plan request.finished.checkpoint := by
  refine backed_pool rfl ?_ ?_
  · rintro name ⟨rfl⟩
    exact ⟨_, List.mem_cons_self, rfl⟩
  · rintro name ⟨rfl⟩
    exact ⟨_, List.mem_cons_of_mem _ (List.mem_singleton_self _), rfl⟩

/-- When all new disks are there, the checkpoint names the whole pool. -/
theorem checkpointOf_pool {calls : List JobCall} (others : calls.filterMap JobCall.disk? = []) :
    request.checkpointOf (request.diskCalls request.newLuns ++ calls) =
      { localDisks := request.pool
        filesystem := (calls.filterMap JobCall.filesystem?).head?.map FilesystemRequest.name
        storageClass :=
          (calls.filterMap JobCall.storageClass?).head?.map StorageClassRequest.name } := by
  rw [checkpointOf, disks_append _ others, names_diskRequest, List.length_map, if_pos rfl,
    List.filterMap_append, List.filterMap_append, filesystems_diskCalls, storageClasses_diskCalls]
  rfl

/-- **Before a creation the checkpoint is exactly what was made.** -/
theorem Creation.checkpointOf_done (creation : Creation request) :
    request.checkpointOf creation.done = creation.progress.checkpoint := by
  cases creation with
  | disk made lun left split =>
    have fewer : ¬ (made.map request.diskRequest).length = request.newLuns.length := by
      rw [split, List.length_map, List.length_append, List.length_cons]
      omega
    rw [done, checkpointOf, disks_diskCalls, filesystems_diskCalls, storageClasses_diskCalls,
      names_diskRequest, if_neg fewer, List.append_nil]
    rfl
  | filesystem =>
    rw [done, ← List.append_nil (request.diskCalls _)]
    exact checkpointOf_pool rfl
  | storageClass => exact checkpointOf_pool rfl

theorem checkpointOf_plan : request.checkpointOf request.plan = request.finished.checkpoint :=
  checkpointOf_pool rfl

/-! ### Every exchange after its history -/

theorem sound_noted {earlier : List JobExchange} {progress : Progress} (answer : Outcome Unit)
    (backed : request.Backed (worked earlier) progress.checkpoint) :
    request.Sound earlier (noted request.job progress answer) :=
  Or.inr ⟨progress, rfl, backed⟩

theorem Creation.sound (creation : Creation request) {earlier : List JobExchange}
    (answer : Outcome Unit) (history : worked earlier = creation.done) :
    request.Sound earlier (creation.answered answer) := by
  refine Or.inl ⟨by cases creation <;> rfl, ?_⟩
  rw [history, question_answered]
  exact creation.plan_eq

theorem Sound.planned {earlier : List JobExchange} {exchange : JobExchange}
    (sound : request.Sound earlier exchange) (creation : exchange.question.isCreation = true) :
    ∃ left, request.plan = worked earlier ++ exchange.question :: left := by
  rcases sound with ⟨-, planned⟩ | ⟨progress, same, -⟩
  · exact planned
  · rw [same] at creation
    cases creation

theorem Sound.backed {earlier : List JobExchange} {exchange : JobExchange}
    (sound : request.Sound earlier exchange) {job : ObjectName} {texts : TextMap}
    (note : exchange.question = .annotateJob job texts) :
    ∃ progress : Progress, texts = progress.annotations ∧
      request.Backed (worked earlier) progress.checkpoint := by
  rcases sound with ⟨creation, -⟩ | ⟨progress, same, backed⟩
  · rw [note] at creation
    cases creation
  · rw [note] at same
    cases same
    exact ⟨progress, rfl, backed⟩

theorem each_disks {made luns left : List Lun} {earlier : List JobExchange}
    (split : request.newLuns = made ++ (luns ++ left))
    (history : worked earlier = request.diskCalls made) :
    EachAfter request.Sound earlier (luns.map request.diskMade) := by
  induction luns generalizing made earlier with
  | nil => exact trivial
  | cons lun luns ih =>
    have further : request.newLuns = (made ++ [lun]) ++ (luns ++ left) := by
      rw [split, List.append_assoc]
      rfl
    refine ⟨(Creation.disk made lun (luns ++ left) split).sound (.ok ()) history, ih further ?_⟩
    rw [worked_append, history, diskCalls, diskCalls, List.map_append]
    rfl

theorem each_opening (answers : Phase → Outcome Unit) :
    EachAfter request.Sound [] (request.opening answers) := by
  have nothing : request.Backed (request.diskCalls []) (request.inDisks []).checkpoint :=
    backed_disks (List.nil_append _).symm
  exact ⟨sound_noted _ nothing, sound_noted _ nothing, trivial⟩

/-- Up to a creation every exchange is sound. -/
theorem Creation.each_before (creation : Creation request) (answers : Phase → Outcome Unit) :
    EachAfter request.Sound [] (creation.before answers) := by
  -- Every creation comes after the opening and some disks; the last two after all of them.
  have disks {made left : List Lun} (split : request.newLuns = [] ++ (made ++ left)) :
      EachAfter request.Sound [] (request.opening answers ++ made.map request.diskMade) :=
    eachAfter_append.mpr ⟨each_opening answers, each_disks split rfl⟩
  have pooled := disks (List.append_nil request.newLuns).symm
  have history : worked (request.opening answers ++ request.newLuns.map request.diskMade) =
      (Creation.filesystem : Creation request).done := by
    rw [worked_append, worked_opening, worked_disks]
    rfl
  cases creation with
  | disk made lun left split => exact disks split
  | filesystem =>
    refine eachAfter_append.mpr ⟨pooled, sound_noted _ ?_, trivial⟩
    rw [List.nil_append, history]
    exact Creation.filesystem.backed
  | storageClass =>
    refine eachAfter_append.mpr ⟨pooled, sound_noted _ ?_, ?_, sound_noted _ ?_, trivial⟩
    · rw [List.nil_append, history]
      exact Creation.filesystem.backed
    · refine Creation.filesystem.sound (.ok ()) ?_
      rw [worked_append, List.nil_append, history]
      exact List.append_nil _
    · have later := (Creation.storageClass : Creation request).backed
      rw [worked_append, worked_append, List.nil_append, history, List.append_assoc]
      exact later

/-! ### Along a course -/

theorem worked_path (answers : Phase → Outcome Unit) :
    worked (request.path answers) = request.plan := by
  rw [path, worked_append, Creation.worked_before, Creation.done, List.append_assoc]
  rfl

theorem worked_stopped (creation : Creation request) (cause : Error) (progress : Progress)
    (answers : Phase → Outcome Unit) (answer : Outcome Unit) :
    worked (creation.before answers ++
      [creation.answered (.error cause), noted request.job progress answer]) = creation.done := by
  rw [worked_append, Creation.worked_before, worked, List.filterMap_cons,
    Creation.worked_refused]
  exact List.append_nil _

variable {exchanges : List JobExchange} {result : Outcome Checkpoint}

/-- **Every exchange of a course is sound.** -/
theorem sound_of_course (course : request.Course exchanges result) :
    EachAfter request.Sound [] exchanges := by
  cases course with
  | whole answers =>
    have before := (Creation.storageClass : Creation request).worked_before answers
    refine eachAfter_append.mpr
      ⟨Creation.storageClass.each_before answers, Creation.storageClass.sound (.ok ()) before,
        sound_noted _ ?_, trivial⟩
    rw [worked_append, List.nil_append, before, Creation.done, List.append_assoc]
    exact backed_finished
  | stopped creation cause answers =>
    have before := creation.worked_before answers
    refine eachAfter_append.mpr
      ⟨creation.each_before answers, creation.sound _ before, sound_noted _ ?_, trivial⟩
    rw [List.nil_append, worked_append, before, worked, List.filterMap_cons,
      Creation.worked_refused, List.filterMap_nil, List.append_nil]
    exact creation.backed

/-- **The creations that worked are the first of those planned.** -/
theorem worked_prefix_plan (course : request.Course exchanges result) :
    worked exchanges <+: request.plan := by
  cases course with
  | whole answers => exact ⟨[], by rw [worked_path, List.append_nil]⟩
  | stopped creation cause answers =>
    obtain ⟨left, same⟩ := creation.plan_eq
    rw [worked_stopped, same]
    exact List.prefix_append _ _

/-- **The last exchange is a note of exactly what was made.** -/
theorem last_note_of_course (course : request.Course exchanges result) :
    ∃ earlier progress answer, exchanges = earlier ++ [noted request.job progress answer] ∧
      progress.checkpoint = request.checkpointOf (worked exchanges) := by
  cases course with
  | whole answers =>
    refine ⟨(Creation.storageClass : Creation request).before answers ++
      [request.storageClassMade], request.finished, answers .completed, ?_, ?_⟩
    · rw [path, List.append_assoc]
      rfl
    · rw [worked_path, checkpointOf_plan]
  | stopped creation cause answers =>
    refine ⟨creation.before answers ++ [creation.answered (.error cause)],
      creation.failure cause, answers .failed, ?_, ?_⟩
    · rw [List.append_assoc]
      rfl
    · rw [worked_stopped, Creation.checkpointOf_done]
      rfl

end CreateRequest

end NodeStorage.Provisioning
