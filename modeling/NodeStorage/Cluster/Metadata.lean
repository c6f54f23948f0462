/-
**The metadata of cluster objects.**

Every object in the cluster has a name, usually a namespace, labels and annotations, and may be
owned by other objects. All parts are optional. Their JSON form lists the parts that are there by
the names of the fields in alphabetical order; a field that is given twice counts the second time.
-/

import NodeStorage.Json.Reader
import NodeStorage.Time.Instant

namespace NodeStorage.Cluster

open Json

/-- Texts by name, sorted by name. -/
abbrev TextMap := List (String × String)

namespace TextMap

/-- The text of a name. -/
def lookup? (key : String) (texts : TextMap) : Option String :=
  (texts.find? fun entry => entry.1 == key).map Prod.snd

/-- The texts with one more, in the place of a text of the same name. -/
def insert (key value : String) : TextMap → TextMap
  | [] => [(key, value)]
  | (name, old) :: rest =>
    if key < name then (key, value) :: (name, old) :: rest
    else if key = name then (key, value) :: rest
    else (name, old) :: insert key value rest

/-- The texts of two maps; where both have a name the second counts. -/
def merge (texts more : TextMap) : TextMap :=
  more.foldl (fun merged entry => insert entry.1 entry.2 merged) texts

end TextMap

/-- An owner of an object, which is deleted when the owner is. -/
structure OwnerReference where
  apiVersion : String
  kind : String
  name : String
  uid : String
  controller : Option Bool := none
  blockOwnerDeletion : Option Bool := none
  deriving DecidableEq, Repr

namespace OwnerReference

/-- The JSON form of an owner. -/
def toJson (owner : OwnerReference) : Json :=
  Json.record
    [("apiVersion", some (.string owner.apiVersion)),
     ("blockOwnerDeletion", owner.blockOwnerDeletion.map .bool),
     ("controller", owner.controller.map .bool),
     ("kind", some (.string owner.kind)),
     ("name", some (.string owner.name)),
     ("uid", some (.string owner.uid))]

/-- Takes one field of an owner. -/
def readField (owner : OwnerReference) (field : String) (document : Raw) :
    Reading OwnerReference := do
  let text := (Raw.optional Raw.text document).map fun found => found.getD ""
  match field with
  | "apiVersion" => pure { owner with apiVersion := ← text }
  | "kind" => pure { owner with kind := ← text }
  | "name" => pure { owner with name := ← text }
  | "uid" => pure { owner with uid := ← text }
  | "controller" => pure { owner with controller := ← Raw.optional Raw.boolean document }
  | "blockOwnerDeletion" =>
    pure { owner with blockOwnerDeletion := ← Raw.optional Raw.boolean document }
  | _ => pure owner

/-- Reads an owner. -/
def read (document : Raw) : Reading OwnerReference :=
  document.foldFields readField ⟨"", "", "", "", none, none⟩

end OwnerReference

/-- The metadata of an object. -/
structure Metadata where
  name : Option String := none
  namespaceName : Option String := none
  /-- The start of a name that the cluster completes. -/
  generateName : Option String := none
  uid : Option String := none
  /-- Counts the changes of what is asked of the object. -/
  generation : Option Int := none
  labels : Option TextMap := none
  annotations : Option TextMap := none
  owners : Option (List OwnerReference) := none
  finalizers : Option (List String) := none
  resourceVersion : Option String := none
  createdAt : Option Instant := none
  deletedAt : Option Instant := none
  deriving DecidableEq, Repr, Inhabited

namespace Metadata

/-- The JSON form of metadata. -/
def toJson (metadata : Metadata) : Json :=
  let texts (entries : Option TextMap) := entries.map Json.ofTextMap
  let time (instant : Option Instant) := instant.map fun value => Json.string value.writeSeconds
  Json.record
    [("annotations", texts metadata.annotations),
     ("creationTimestamp", time metadata.createdAt),
     ("deletionTimestamp", time metadata.deletedAt),
     ("finalizers", metadata.finalizers.map Json.ofTexts),
     ("generateName", metadata.generateName.map .string),
     ("generation", metadata.generation.map .integer),
     ("labels", texts metadata.labels),
     ("name", metadata.name.map .string),
     ("namespace", metadata.namespaceName.map .string),
     ("ownerReferences", metadata.owners.map fun owners =>
       .array (owners.map OwnerReference.toJson)),
     ("resourceVersion", metadata.resourceVersion.map .string),
     ("uid", metadata.uid.map .string)]

/-- Reads a point in time. -/
def readInstant (document : Raw) : Reading Instant := do
  let text ← document.text
  match Instant.parse? text with
  | some instant => pure instant
  | none => .error (.invalidTime text)

/-- Takes one field of metadata. -/
def readField (metadata : Metadata) (field : String) (document : Raw) : Reading Metadata := do
  match field with
  | "name" => pure { metadata with name := ← Raw.optional Raw.text document }
  | "namespace" => pure { metadata with namespaceName := ← Raw.optional Raw.text document }
  | "generateName" => pure { metadata with generateName := ← Raw.optional Raw.text document }
  | "uid" => pure { metadata with uid := ← Raw.optional Raw.text document }
  | "generation" => pure { metadata with generation := ← Raw.optional Raw.integer64 document }
  | "labels" => pure { metadata with labels := ← Raw.optional Raw.textMap document }
  | "annotations" => pure { metadata with annotations := ← Raw.optional Raw.textMap document }
  | "ownerReferences" =>
    pure { metadata with owners := ← Raw.optional (Raw.list OwnerReference.read) document }
  | "finalizers" => pure { metadata with finalizers := ← Raw.optional (Raw.list Raw.text) document }
  | "resourceVersion" => pure { metadata with resourceVersion := ← Raw.optional Raw.text document }
  | "creationTimestamp" => pure { metadata with createdAt := ← Raw.optional readInstant document }
  | "deletionTimestamp" => pure { metadata with deletedAt := ← Raw.optional readInstant document }
  | _ => pure metadata

/-- Reads metadata. -/
def read (document : Raw) : Reading Metadata :=
  document.foldFields readField {}

/-- The object's name, or the start of it, or nothing. -/
def anyName (metadata : Metadata) : String :=
  metadata.name.getD (metadata.generateName.getD "")

/-- The object's labels, none when there are none. -/
def labelMap (metadata : Metadata) : TextMap :=
  metadata.labels.getD []

end Metadata

end NodeStorage.Cluster
