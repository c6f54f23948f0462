/-
**What a run has made.**

A checkpoint names the local disks of the filesystem, the filesystem and the storage class, as far
as they exist. It is kept with the job as a JSON text, from which a later run cleans up. A blank
text means that nothing was made, and so does null for the disks.
-/

import NodeStorage.Error
import NodeStorage.Json.Writer
import NodeStorage.Text.WhiteSpace

namespace NodeStorage.Provisioning

open Json

/-- What a run has made. -/
structure Checkpoint where
  /-- The disks of the filesystem, new ones and reused ones, in order. -/
  localDisks : List String := []
  filesystem : Option String := none
  storageClass : Option String := none
  deriving DecidableEq, Repr, Inhabited

namespace Checkpoint

/-- Nothing was made. -/
def isEmpty (checkpoint : Checkpoint) : Bool :=
  checkpoint.localDisks.isEmpty && checkpoint.filesystem.isNone && checkpoint.storageClass.isNone

/-- The JSON form of a checkpoint. -/
def toJson (checkpoint : Checkpoint) : Json :=
  Json.record
    [("localDisks", some (Json.ofTexts checkpoint.localDisks)),
     ("fileSystem", checkpoint.filesystem.map .string),
     ("storageClass", checkpoint.storageClass.map .string)]

/-- Reads a checkpoint. -/
def read (document : Raw) : Reading Checkpoint := do
  let fields ← document.fields ["localDisks", "fileSystem", "storageClass"]
  let localDisks ← fields.optional "localDisks" (Raw.list Raw.text)
  let filesystem ← fields.optional "fileSystem" Raw.text
  let storageClass ← fields.optional "storageClass" Raw.text
  pure ⟨localDisks.getD [], filesystem, storageClass⟩

/-- The text of a checkpoint. -/
def toText (checkpoint : Checkpoint) : String :=
  checkpoint.toJson.toText

/-- The checkpoint in a text. -/
def ofText (text : String) : Outcome Checkpoint :=
  let trimmed := Text.trim text
  if trimmed.isEmpty then .ok {} else .ofReading (readText read trimmed)

end Checkpoint

end NodeStorage.Provisioning
