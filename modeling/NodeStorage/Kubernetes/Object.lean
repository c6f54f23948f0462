/-
**Objects in responses.**

Every answer of the cluster's API is checked against what was asked for. An object of a known kind
may say its version and kind, which must then be the right ones, and each of its parts must have the
right shape; parts that are not known are passed over. An object without a type of its own keeps all
its parts, so that it can be written back as a whole.
-/

import NodeStorage.Cluster.Metadata

namespace NodeStorage.Kubernetes

open Json Cluster

/-! ### Objects of known kinds -/

/-- Reads a text that must be a given one. -/
def readExactly (expected : String) (document : Raw) : Reading Unit := do
  let text ← document.text
  if text = expected then pure () else .error (.expected expected)

/-- Reads an object of a kind: its version and kind are checked and its other parts are taken one
after another. -/
def readKind {α : Type} (apiVersion kind : String) (readPart : α → String → Raw → Reading α)
    (start : α) (document : Raw) : Reading α :=
  document.foldFields (fun value name part => do
    match name with
    | "apiVersion" =>
      readExactly apiVersion part
      pure value
    | "kind" =>
      readExactly kind part
      pure value
    | _ => readPart value name part) start

/-- Checks a part and drops it. -/
def check {α : Type} (read : Raw → Reading α) (document : Raw) : Reading Unit :=
  (read document).map fun _ => ()

/-- Reads an object whatever its fields are. -/
def readAnyObject (document : Raw) : Reading Unit :=
  document.foldFields (fun _ _ _ => pure ()) ()

/-- Checks a part that may be null. -/
def checkOptional {α : Type} (read : Raw → Reading α) : Raw → Reading Unit :=
  check (Raw.optional read)

/-- Checks a part of an object of which only the metadata are known; what is asked of it and what
has become of it are objects. -/
def checkPlainPart (_ : Unit) (name : String) (part : Raw) : Reading Unit :=
  match name with
  | "metadata" => check Metadata.read part
  | "spec" | "status" => checkOptional readAnyObject part
  | _ => pure ()

/-- Checks a job. -/
def readJob : Raw → Reading Unit :=
  readKind "batch/v1" "Job" checkPlainPart ()

/-- Checks a part of a storage class. -/
def checkStorageClassPart (_ : Unit) (name : String) (part : Raw) : Reading Unit :=
  match name with
  | "metadata" => check Metadata.read part
  | "provisioner" | "reclaimPolicy" | "volumeBindingMode" => checkOptional Raw.text part
  | "parameters" => checkOptional Raw.textMap part
  | "allowVolumeExpansion" => checkOptional Raw.boolean part
  | "mountOptions" => checkOptional (Raw.list Raw.text) part
  | _ => pure ()

/-- Checks a storage class. -/
def readStorageClass : Raw → Reading Unit :=
  readKind "storage.k8s.io/v1" "StorageClass" checkStorageClassPart ()

/-- Checks a part of an event. -/
def checkEventPart (_ : Unit) (name : String) (part : Raw) : Reading Unit :=
  match name with
  | "metadata" => check Metadata.read part
  | "action" | "note" | "reason" | "reportingController" | "reportingInstance" | "type" =>
    checkOptional Raw.text part
  | "eventTime" => checkOptional Metadata.readInstant part
  | "regarding" | "related" | "series" => checkOptional readAnyObject part
  | _ => pure ()

/-- Checks an event. -/
def readEvent : Raw → Reading Unit :=
  readKind "events.k8s.io/v1" "Event" checkEventPart ()

/-- Takes a part of a node. -/
def readNodePart (metadata : Metadata) (name : String) (part : Raw) : Reading Metadata :=
  match name with
  | "metadata" => Metadata.read part
  | "spec" | "status" => do
    checkOptional readAnyObject part
    pure metadata
  | _ => pure metadata

/-- Reads the metadata of a node. -/
def readNode : Raw → Reading Metadata :=
  readKind "v1" "Node" readNodePart {}

/-- Takes a number of pods, of those that are wanted and those that are ready. -/
def readPodCount (counts : Int × Int) (name : String) (part : Raw) : Reading (Int × Int) := do
  match name with
  | "desiredNumberScheduled" =>
    let wanted ← Raw.optional Raw.integer32 part
    pure (wanted.getD 0, counts.2)
  | "numberReady" =>
    let ready ← Raw.optional Raw.integer32 part
    pure (counts.1, ready.getD 0)
  | "collisionCount" | "currentNumberScheduled" | "numberAvailable" | "numberMisscheduled"
  | "numberUnavailable" | "updatedNumberScheduled" => do
    checkOptional Raw.integer32 part
    pure counts
  | "observedGeneration" => do
    checkOptional Raw.integer64 part
    pure counts
  | _ => pure counts

/-- Takes a part of a daemon set. -/
def readDaemonSetPart (counts : Int × Int) (name : String) (part : Raw) :
    Reading (Int × Int) := do
  match name with
  | "metadata" => do
    check Metadata.read part
    pure counts
  | "spec" => do
    checkOptional readAnyObject part
    pure counts
  | "status" =>
    let found ← Raw.optional (Raw.foldFields readPodCount (0, 0)) part
    pure (found.getD (0, 0))
  | _ => pure counts

/-- Reads how many pods a daemon set wants and has; what it does not say counts as zero. -/
def readDaemonSet : Raw → Reading (Int × Int) :=
  readKind "apps/v1" "DaemonSet" readDaemonSetPart (0, 0)

/-! ### Objects without a type -/

/-- An object that is written back as a whole. -/
structure AnyObject where
  /-- The version and the kind, if the object says both. -/
  kind : Option (String × String)
  metadata : Metadata
  /-- All other parts. -/
  parts : List Field

namespace AnyObject

/-- The text of a part. -/
def textOf? (name : String) (fields : List Field) : Option String :=
  match lookup? name fields with
  | some (.string text) => some text
  | _ => none

/-- Reads the metadata among the parts of an object, which may stand there once at most. -/
def readMetadata (document : Raw) : Reading Metadata := do
  let fields ← document.objectFields ["metadata"]
  fields.withDefault "metadata" Metadata.read {}

/-- Reads an object. -/
def read (document : Raw) : Reading AnyObject := do
  let metadata ← readMetadata document
  match ← Raw.value document with
  | .object fields =>
    let kind := match textOf? "apiVersion" fields, textOf? "kind" fields with
      | some version, some kind => some (version, kind)
      | _, _ => none
    let parts := fields.filter fun field => !(["apiVersion", "kind", "metadata"].contains field.1)
    pure ⟨kind, metadata, parts⟩
  | _ => .error (.expected "an object")

/-- The JSON form of an object. -/
def toJson (object : AnyObject) : Json :=
  let types : List Field := match object.kind with
    | some (version, kind) => [("apiVersion", .string version), ("kind", .string kind)]
    | none => []
  .object (types ++ ("metadata", object.metadata.toJson) :: object.parts)

/-- The object with a label. -/
def withLabel (object : AnyObject) (key value : String) : AnyObject :=
  { object with
    metadata := { object.metadata with
      labels := some (TextMap.insert key value object.metadata.labelMap) } }

end AnyObject

/-! ### Lists -/

/-- Takes a part of the metadata of a list. -/
def checkListMetadataPart (_ : Unit) (name : String) (part : Raw) : Reading Unit :=
  match name with
  | "continue" | "resourceVersion" | "selfLink" => checkOptional Raw.text part
  | "remainingItemCount" => checkOptional Raw.integer64 part
  | _ => pure ()

/-- Reads the items of a list, which must be there but may be null. -/
def readItems {α : Type} (read : Raw → Reading α) (document : Raw) : Reading (List α) := do
  let fields ← document.objectFields ["metadata", "items"]
  fields.withDefault "metadata" (Raw.foldFields checkListMetadataPart ()) ()
  let items ← fields.required "items" (Raw.optional (Raw.list read))
  pure (items.getD [])

end NodeStorage.Kubernetes
