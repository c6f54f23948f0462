/-
**What is written to a job is read back.**

A run keeps its progress with the job as texts. Here the texts are read again: the text of a
checkpoint means that checkpoint, also to a clean-up that trims it first
(`Checkpoint.ofText_toText`, `Checkpoint.present?_toText`), and the text of phase details means
those details (`PhaseDetails.readText_toText`).
-/

import NodeStorage.Proofs.Json.Records
import NodeStorage.Proofs.Text.Trim
import NodeStorage.Provisioning.Progress

namespace NodeStorage

namespace Json

/-- An object is written between braces, so there is nothing to trim. -/
theorem bare_write_object (fields : List (String × Json)) : Text.Bare (write (.object fields)) := by
  rw [write]
  exact Text.bare_enclosed _ (by decide) (by decide)

/-- A list is written between brackets. -/
theorem bare_write_array (items : List Json) : Text.Bare (write (.array items)) := by
  rw [write]
  exact Text.bare_enclosed _ (by decide) (by decide)

theorem write_object_ne_nil (fields : List (String × Json)) : write (.object fields) ≠ [] :=
  List.cons_ne_nil _ _

end Json

/-! ### Checkpoints and phase details -/

namespace Provisioning

open Json

theorem Checkpoint.readAs_toJson (checkpoint : Checkpoint) :
    ReadAs Checkpoint.read checkpoint.toJson checkpoint := by
  refine readAs_record (by simp) ?_ fun document given fields found => ?_
  · simp [raw?, (readAs_texts checkpoint.localDisks).writable]
  · simp only [List.forall_mem_cons] at found
    obtain ⟨localDisks, filesystem, storageClass, -⟩ := found
    -- The disks are always written, though their reader also takes null for none.
    have disks : given.optional "localDisks" (Raw.list Raw.text) =
        .ok (some checkpoint.localDisks) :=
      Fields.optional_eq_ok localDisks (fun texts is => Option.some.inj is ▸ readAs_texts _)
        fun texts null => by cases null
    exact ok_bind fields <| ok_bind disks <| ok_bind (Fields.optional_text filesystem) <|
      ok_bind (Fields.optional_text storageClass) rfl

/-- **The text of a checkpoint means the checkpoint.** -/
theorem Checkpoint.ofText_toText (checkpoint : Checkpoint) :
    Checkpoint.ofText checkpoint.toText = .ok checkpoint := by
  have trimmed : Text.trim checkpoint.toText = checkpoint.toText :=
    Text.trim_eq_self (bare_write_object _)
  have filled : checkpoint.toText.isEmpty = false :=
    Text.isEmpty_ofList (write_object_ne_nil _)
  have read : readText Checkpoint.read checkpoint.toText = .ok checkpoint :=
    checkpoint.readAs_toJson.readText
  simp only [Checkpoint.ofText, trimmed, filled, read]
  rfl

/-- The text of a checkpoint is given to a clean-up as it is. -/
theorem Checkpoint.present?_toText (checkpoint : Checkpoint) :
    Text.present? (some checkpoint.toText) = some checkpoint.toText :=
  Text.present?_of_bare (bare_write_object _) (write_object_ne_nil _)

/-- **The text of phase details means the details.** -/
theorem PhaseDetails.readText_toText (details : PhaseDetails) :
    readText PhaseDetails.read details.toJson.toText = .ok details := by
  refine ReadAs.readText (readAs_record (by simp) ?_ fun document given fields found => ?_)
  · simp [raw?]
  · simp only [List.forall_mem_cons] at found
    obtain ⟨phaseName, message, progress, error, -⟩ := found
    exact ok_bind fields <| ok_bind (Fields.required_eq_ok phaseName (readAs_text _)) <|
      ok_bind (Fields.required_eq_ok message (readAs_text _)) <|
      ok_bind (Fields.optional_text progress) <| ok_bind (Fields.optional_text error) rfl

/-! ### The texts under their keys -/

namespace Progress

open Cluster (TextMap)

theorem lookup?_phase (progress : Progress) :
    TextMap.lookup? phaseKey progress.annotations = some progress.phase.name := rfl

theorem lookup?_details (progress : Progress) :
    TextMap.lookup? detailsKey progress.annotations = some progress.details.toJson.toText := rfl

theorem lookup?_checkpoint (progress : Progress) :
    TextMap.lookup? checkpointKey progress.annotations = some progress.checkpoint.toText := rfl

end Progress

end Provisioning

end NodeStorage
