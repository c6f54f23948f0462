/-
**The progress of a run.**

A run knows its phase, what to say about it, and its checkpoint. It moves on to a phase that may
follow, or fails; whatever else is asked of it is refused and changes nothing. After a failure the
details still name the phase in which it happened.

The three parts are kept with the job as annotations: texts under three fixed keys.
-/

import NodeStorage.Cluster.Metadata
import NodeStorage.Provisioning.Checkpoint
import NodeStorage.Provisioning.Phase

namespace NodeStorage.Provisioning

open Json

/-- What is said about a phase. -/
structure PhaseDetails where
  /-- The name of the phase; of the one that failed, after a failure. -/
  phaseName : String
  message : String
  progress : Option String
  error : Option String
  deriving DecidableEq, Repr

namespace PhaseDetails

/-- The details of a phase. -/
def of (phase : Phase) (message : String) (error : Option String) : PhaseDetails :=
  ⟨phase.name, message, some phase.progress, error⟩

/-- The JSON form of details. -/
def toJson (details : PhaseDetails) : Json :=
  Json.record
    [("currentPhase", some (.string details.phaseName)),
     ("message", some (.string details.message)),
     ("progress", details.progress.map .string),
     ("error", details.error.map .string)]

/-- Reads details. -/
def read (document : Raw) : Reading PhaseDetails := do
  let fields ← document.fields ["currentPhase", "message", "progress", "error"]
  let phaseName ← fields.required "currentPhase" Raw.text
  let message ← fields.required "message" Raw.text
  let progress ← fields.optional "progress" Raw.text
  let error ← fields.optional "error" Raw.text
  pure ⟨phaseName, message, progress, error⟩

end PhaseDetails

/-- The progress of a run. -/
structure Progress where
  phase : Phase
  details : PhaseDetails
  checkpoint : Checkpoint
  deriving DecidableEq, Repr

namespace Progress

/-- A run that starts. -/
def start (message : String) : Progress :=
  ⟨.starting, .of .starting message none, {}⟩

/-- The error when a phase may not follow. -/
def refusal (phase next : Phase) : Error :=
  .internal (String.join ["invalid phase transition ", phase.name, " -> ", next.name])

/-- Moves on to the next phase, which is not failure. -/
def advance (progress : Progress) (next : Phase) (message : String) : Outcome Progress :=
  if progress.phase.mayMoveTo next && next != .failed then
    .ok { progress with phase := next, details := .of next message none }
  else .error (refusal progress.phase next)

/-- Fails in the present phase. -/
def fail (progress : Progress) (message error : String) : Outcome Progress :=
  if progress.phase.mayMoveTo .failed then
    .ok { progress with phase := .failed, details := .of progress.phase message (some error) }
  else .error (refusal progress.phase .failed)

/-- Adds a disk to the checkpoint. -/
def addDisk (progress : Progress) (name : String) : Progress :=
  { progress with
    checkpoint := { progress.checkpoint with
      localDisks := progress.checkpoint.localDisks ++ [name] } }

/-- Puts the filesystem into the checkpoint. -/
def setFilesystem (progress : Progress) (name : Option String) : Progress :=
  { progress with checkpoint := { progress.checkpoint with filesystem := name } }

/-- Puts the storage class into the checkpoint. -/
def setStorageClass (progress : Progress) (name : Option String) : Progress :=
  { progress with checkpoint := { progress.checkpoint with storageClass := name } }

/-- The annotation with the phase. -/
def phaseKey : String := "fusion.storage.openshift.io/current-phase"

/-- The annotation with the details. -/
def detailsKey : String := "fusion.storage.openshift.io/phase-details"

/-- The annotation with the checkpoint. -/
def checkpointKey : String := "fusion.storage.openshift.io/created-resources"

/-- The annotations that hold the progress. -/
def annotations (progress : Progress) : Cluster.TextMap :=
  [(checkpointKey, progress.checkpoint.toText), (phaseKey, progress.phase.name),
   (detailsKey, progress.details.toJson.toText)]

end Progress

end NodeStorage.Provisioning
