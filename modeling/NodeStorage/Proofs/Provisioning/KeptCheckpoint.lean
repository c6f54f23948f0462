/-
**The checkpoint kept with a job never claims more than the run has made.**

A run writes its checkpoint to the job as it goes, and may lose any of these writes, or die between
any two calls. So what the job keeps may lag behind; but it names a filesystem or a storage class
only if the run has created it before, and local disks only as far as they are made
(`kept_checkpoint_backed`). If no write is lost and the run ends, the job keeps exactly what was
made.
-/

import NodeStorage.InMemory.StorageCluster
import NodeStorage.Proofs.Provisioning.History
import NodeStorage.Proofs.Provisioning.Written

namespace NodeStorage.Provisioning

open Dialogue Cluster

/-- The annotations hold this checkpoint, as a clean-up reads it. -/
def Holds (texts : TextMap) (checkpoint : Checkpoint) : Prop :=
  (TextMap.lookup? Progress.checkpointKey texts).map Checkpoint.ofText = some (.ok checkpoint)

theorem Progress.holds_annotations (progress : Progress) :
    Holds progress.annotations progress.checkpoint := by
  rw [Holds, lookup?_checkpoint, Option.map_some, Checkpoint.ofText_toText]

namespace CreateRequest

variable {request : CreateRequest} {exchanges : List JobExchange} {result : Outcome Checkpoint}

/-- **What a job keeps is backed by what its run has made**, whatever the run is answered and
wherever it is cut off. When no note fails, a run ends with a note of exactly what it has made. -/
theorem kept_checkpoint_backed (conversation : Conversation request.run exchanges result) :
    (∀ seen, seen <+: exchanges → ∀ earlier job texts later,
      seen = earlier ++ ⟨.annotateJob job texts, .ok ()⟩ :: later →
      (∀ job texts, ⟨.annotateJob job texts, .ok ()⟩ ∉ later) →
      ∃ checkpoint, Holds texts checkpoint ∧ request.Backed (worked earlier) checkpoint) ∧
    ((∀ job texts cause, ⟨.annotateJob job texts, .error cause⟩ ∉ exchanges) →
      ∃ earlier job texts, exchanges = earlier ++ [⟨.annotateJob job texts, .ok ()⟩] ∧
        Holds texts (request.checkpointOf (worked exchanges))) := by
  have course := course_of_conversation conversation
  refine ⟨?_, fun answered => ?_⟩
  · rintro seen ⟨rest, rfl⟩ earlier job texts later rfl -
    rw [List.append_assoc] at course
    obtain ⟨progress, rfl, backed⟩ := ((sound_of_course course).at rfl).backed rfl
    exact ⟨progress.checkpoint, progress.holds_annotations, backed⟩
  · obtain ⟨earlier, progress, answer, same, claim⟩ := last_note_of_course course
    cases answer with
    | error cause =>
      refine absurd ?_ (answered request.job progress.annotations cause)
      rw [same]
      exact List.mem_append_right _ (List.mem_singleton_self _)
    | ok _ =>
      refine ⟨earlier, request.job, progress.annotations, same, ?_⟩
      rw [← claim]
      exact progress.holds_annotations

/-- A filesystem on one new disk and one that is used again. -/
def small : CreateRequest where
  filesystemName := "fs1"
  namespaceName := "ibm-spectrum-scale"
  newLuns := [⟨"/dev/sdb", "0x6000", "node1", false, none⟩]
  reusedLuns := [⟨"/dev/sdc", "0x6001", "node1", true, some "sdc-0x6001"⟩]
  job := ⟨"make-fs1", "ibm-fusion-access"⟩

/-- In an empty cluster every creation works. -/
theorem trace_small :
    trace InMemory.StorageCluster.respond small.run ⟨[], [], [], [], []⟩ =
      small.path fun _ => .ok () :=
  rfl

/-- When the run dies between the filesystem and the note of it, the job keeps the note before. -/
theorem small_kept_checkpoint :
    (∃ checkpoint, Holds small.inFilesystem.annotations checkpoint ∧
      small.Backed (small.diskCalls small.newLuns) checkpoint) ∧
    ∃ earlier job texts,
      trace InMemory.StorageCluster.respond small.run ⟨[], [], [], [], []⟩ =
        earlier ++ [⟨.annotateJob job texts, .ok ()⟩] ∧
      Holds texts small.finished.checkpoint := by
  have conversation :=
    conversation_trace InMemory.StorageCluster.respond small.run ⟨[], [], [], [], []⟩
  obtain ⟨kept, ended⟩ := kept_checkpoint_backed conversation
  rw [trace_small] at kept ended ⊢
  constructor
  · refine kept ((Creation.filesystem : Creation small).before (fun _ => .ok ()) ++
      [small.filesystemMade]) ⟨_, rfl⟩ (small.opening (fun _ => .ok ()) ++
        small.newLuns.map small.diskMade) small.job _ [small.filesystemMade] rfl ?_
    intro job texts member
    cases List.mem_singleton.mp member
  · rw [worked_path, checkpointOf_plan] at ended
    refine ended fun job texts cause member => ?_
    iterate 8 rcases member with _ | ⟨_, member⟩
    cases member

end CreateRequest

end NodeStorage.Provisioning
