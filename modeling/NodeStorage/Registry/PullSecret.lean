/-
**Merging pull secrets.**

The credentials for image registries are kept in a document with an `auths` object, which has an
entry for every registry; an older form has these entries at its top. `convertLegacy` brings a
document into the newer form. `mergeConfigs` puts a document over another: registries are merged one
by one, every other part is replaced as a whole.

A secret holds such documents by name. Merging a secret into another merges all its documents, in
the order of their names, into the one document of the other that is used.
-/

import NodeStorage.Error
import NodeStorage.Json.Writer
import NodeStorage.Text.Utf8

namespace NodeStorage.Registry

open Json

/-- The part of a document that holds the registries. -/
def authsKey : String := "auths"

/-- The fields of the object that some bytes hold. -/
def readFields (bytes : List UInt8) : Reading (List Field) :=
  match Text.decodeUtf8? bytes with
  | none => .error .malformed
  | some text => do
    match ← Json.parse text with
    | .object fields => pure fields
    | _ => .error (.expected "an object")

/-- The bytes of an object. -/
def writeFields (fields : List Field) : List UInt8 :=
  Text.encodeUtf8 (Json.object fields).toText

/-- The error when a document cannot be read. -/
def invalidDocument (what : String) (cause : ReadError) : Error :=
  .pullSecret (String.join ["invalid ", what, ": ", cause.message])

/-- A document in the newer form; one that has it already stays as it is. -/
def convertLegacy (bytes : List UInt8) : Outcome (List UInt8) :=
  match readFields bytes with
  | .error cause => .error (invalidDocument "dockercfg" cause)
  | .ok fields =>
    if (lookup? authsKey fields).isSome then .ok bytes
    else .ok (writeFields [(authsKey, .object fields)])

/-! ### Merging documents -/

/-- The fields of a value that is an object, and none of another one. -/
def fieldsOf (value : Option Json) : List Field :=
  match value with
  | some (.object fields) => fields
  | _ => []

/-- Sorted fields with others put over them. -/
def overlay (fields more : List Field) : List Field :=
  more.foldl (fun merged field => insertSorted field.1 field.2 merged) fields

/-- A document with one field of another put over it. -/
def mergeField (config : List Field) (field : Field) : List Field :=
  if field.1 = authsKey then
    let registries := overlay (fieldsOf (lookup? authsKey config)) (fieldsOf (some field.2))
    insertSorted authsKey (.object registries) config
  else insertSorted field.1 field.2 config

/-- A document with another put over it. -/
def mergeFields (config more : List Field) : List Field :=
  more.foldl mergeField config

/-- The fields of a document, none when there are no bytes. -/
def readConfig (what : String) (bytes : List UInt8) : Outcome (List Field) :=
  if bytes.isEmpty then .ok []
  else
    match readFields bytes with
    | .ok fields => .ok fields
    | .error cause => .error (invalidDocument what cause)

/-- A document with another put over it, in bytes. -/
def mergeConfigs (config more : List UInt8) : Outcome (List UInt8) := do
  let below ← readConfig "dest .dockerconfigjson" config
  let above ← readConfig "src .dockerconfigjson" more
  pure (writeFields (mergeFields below above))

/-! ### Secrets -/

/-- A secret of the cluster. -/
structure Secret where
  kind : Option String
  /-- The documents by name, sorted by name. -/
  documents : Option (List (String × List UInt8))
  deriving DecidableEq, Repr

/-- The kind of secrets in the newer form. -/
def configKind : String := "kubernetes.io/dockerconfigjson"

/-- The kind of secrets in the older form. -/
def legacyKind : String := "kubernetes.io/dockercfg"

/-- The name of the document that is used. -/
def configKey : String := ".dockerconfigjson"

namespace Secret

/-- The secret holds credentials for registries. -/
def holdsCredentials (secret : Secret) : Bool :=
  secret.kind == some configKind || secret.kind == some legacyKind

/-- The kind of a secret, or the newer one if it has none. -/
def kindOrDefault (secret : Secret) : Option String :=
  if (secret.kind.getD "").isEmpty then some configKind else secret.kind

/-- The document of a name. -/
def lookup? (key : String) (documents : List (String × List UInt8)) : Option (List UInt8) :=
  (documents.find? fun entry => entry.1 == key).map Prod.snd

/-- Documents with one more, in the place of one of the same name. -/
def insert (key : String) (document : List UInt8) :
    List (String × List UInt8) → List (String × List UInt8)
  | [] => [(key, document)]
  | (name, old) :: rest =>
    if key < name then (key, document) :: (name, old) :: rest
    else if key = name then (key, document) :: rest
    else (name, old) :: insert key document rest

/-- Merges one document into the one that is used. -/
def mergeDocument (documents : List (String × List UInt8)) (document : List UInt8) :
    Outcome (List (String × List UInt8)) := do
  let normalized ← convertLegacy document
  let merged ← mergeConfigs ((lookup? configKey documents).getD []) normalized
  pure (insert configKey merged documents)

/-- Merges the documents of a secret into another secret. -/
def merge (secret more : Secret) : Outcome Secret :=
  if more.holdsCredentials then do
    let documents ← ((more.documents.getD []).map Prod.snd).foldlM mergeDocument
      (secret.documents.getD [])
    pure ⟨secret.kindOrDefault, some documents⟩
  else .error (.pullSecret "source secret is not of Docker config type")

end Secret

end NodeStorage.Registry
