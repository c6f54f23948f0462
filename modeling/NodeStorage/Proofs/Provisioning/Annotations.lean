/-
**The annotations of a run are read back.**

Three texts are kept with the job of a run: its phase by name, what is said about it, and its
checkpoint. Whatever the names and messages in them contain, each text tells what it was made of,
and a later job that is to clean up takes the checkpoint from its text, also when there is white
space around it (`Progress.annotations_read_back`).
-/

import NodeStorage.Proofs.Provisioning.Written
import NodeStorage.Provisioning.Request

namespace NodeStorage.Provisioning

open Json Cluster

/-! ### The name of a phase -/

theorem Phase.find?_variants (phase : Phase) :
    Phase.variants.find? (fun entry => entry.1 == phase.name) = some (phase.name, phase) := by
  cases phase <;> rfl

theorem Phase.name_injective : Function.Injective Phase.name := by
  intro phase other same
  have found := phase.find?_variants
  rw [same, other.find?_variants] at found
  cases found
  rfl

/-! ### The checkpoint of a clean-up -/

/-- **A clean-up is given a checkpoint by its text**, whatever white space is around it. -/
theorem JobArguments.created_around {arguments : JobArguments} {before after : String}
    {checkpoint : Checkpoint} (blankBefore : Text.isBlank before = true)
    (blankAfter : Text.isBlank after = true)
    (carried : arguments.createdResources = some (before ++ checkpoint.toText ++ after)) :
    arguments.created = .ok checkpoint := by
  have given : Text.present? arguments.createdResources = some checkpoint.toText := by
    rw [carried]
    exact Text.present?_around blankBefore blankAfter (bare_write_object _)
      (write_object_ne_nil _)
  rw [created, given]
  simp only [Checkpoint.ofText_toText]

/-- The request of a clean-up that is given a checkpoint: the namespace alone can be missing. -/
theorem JobArguments.toRequest_cleanup {arguments : JobArguments} {checkpoint : Checkpoint}
    (asked : arguments.operation = some .cleanupFailedJob)
    (created : arguments.created = .ok checkpoint) :
    arguments.toRequest =
      match Text.present? arguments.targetNamespace with
      | none => .error (.configuration "TARGET_NAMESPACE is required")
      | some namespaceName =>
        .ok (.cleanupFailedJob ⟨namespaceName, arguments.failedJob, checkpoint⟩) := by
  simp only [toRequest, asked, cleanupRequest]
  cases Text.present? arguments.targetNamespace with
  | none => rfl
  | some namespaceName =>
    rw [created]
    rfl

namespace Progress

theorem keys_annotations (progress : Progress) :
    progress.annotations.map Prod.fst = [checkpointKey, phaseKey, detailsKey] := rfl

theorem nodup_keys (progress : Progress) : (progress.annotations.map Prod.fst).Nodup := by
  rw [keys_annotations]
  decide

/-- **What a run keeps with its job is read back.** There are three annotations. The phase is told
by its name and by no other phase's; the details and the checkpoint are read from their texts. A
job that cleans up after the run and is given the text of the checkpoint, with white space around
it or without, is asked to clean up just that: only its namespace can be missing. -/
theorem annotations_read_back (progress : Progress) :
    progress.annotations.map Prod.fst = [checkpointKey, phaseKey, detailsKey] ∧
    (progress.annotations.map Prod.fst).Nodup ∧
    (∀ phase : Phase, TextMap.lookup? phaseKey progress.annotations = some phase.name ↔
      phase = progress.phase) ∧
    (∃ name, TextMap.lookup? phaseKey progress.annotations = some name ∧
      readText (Raw.variant Phase.variants) (Json.string name).toText = .ok progress.phase) ∧
    (∃ text, TextMap.lookup? detailsKey progress.annotations = some text ∧
      readText PhaseDetails.read text = .ok progress.details) ∧
    ∃ text, TextMap.lookup? checkpointKey progress.annotations = some text ∧
      Checkpoint.ofText text = .ok progress.checkpoint ∧
      ∀ (arguments : JobArguments) (before after : String),
        arguments.operation = some .cleanupFailedJob →
        Text.isBlank before = true → Text.isBlank after = true →
        arguments.createdResources = some (before ++ text ++ after) →
        arguments.toRequest =
          match Text.present? arguments.targetNamespace with
          | none => .error (.configuration "TARGET_NAMESPACE is required")
          | some namespaceName =>
            .ok (.cleanupFailedJob ⟨namespaceName, arguments.failedJob, progress.checkpoint⟩) := by
  refine ⟨progress.keys_annotations, progress.nodup_keys, fun phase => ?_, ?_, ?_, ?_⟩
  · rw [lookup?_phase, Option.some_inj, Phase.name_injective.eq_iff, eq_comm]
  · exact ⟨_, progress.lookup?_phase, (readAs_variant progress.phase.find?_variants).readText⟩
  · exact ⟨_, progress.lookup?_details, progress.details.readText_toText⟩
  · refine ⟨_, progress.lookup?_checkpoint, progress.checkpoint.ofText_toText, ?_⟩
    intro arguments before after asked blankBefore blankAfter carried
    exact JobArguments.toRequest_cleanup asked
      (JobArguments.created_around blankBefore blankAfter carried)

/-- A run whose message and names hold quotes, controls and letters beyond ASCII. -/
def oddProgress : Progress :=
  ((start "\"go\"\n").addDisk "disk\\1 \x00").setFilesystem (some "𝔻")

/-- A clean-up after the odd run, given its checkpoint between white space, cleans up just that. -/
theorem oddProgress_read_back :
    Text.isBlank "\n\t" = true ∧ Text.isBlank "　" = true ∧
      JobArguments.toRequest
        { operation := some .cleanupFailedJob
          targetNamespace := some "scale "
          createdResources := some ("\n\t" ++ oddProgress.checkpoint.toText ++ "　") } =
        .ok (.cleanupFailedJob ⟨"scale", none, ⟨["disk\\1 \x00"], some "𝔻", none⟩⟩) := by
  obtain ⟨text, found, -, requests⟩ := oddProgress.annotations_read_back.2.2.2.2.2
  cases found
  exact ⟨by decide, by decide, requests _ "\n\t" "　" rfl (by decide) (by decide) rfl⟩

end Progress

end NodeStorage.Provisioning
