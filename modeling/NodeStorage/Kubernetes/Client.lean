/-
**A client of the cluster's API.**

A collection is a kind of objects in a namespace or in the whole cluster; its path is made of its
group, its version, the namespace and its name. The client gets, lists, creates, replaces, patches
and deletes objects of a collection, each with one request.

A failure is an API error that is read from the body of the response; a body that is none becomes
the message of one. Any other response must hold what was asked for. An object counts as missing
when the error's reason says so, whatever its code.
-/

import NodeStorage.Json.Reader
import NodeStorage.Kubernetes.Wire
import NodeStorage.Text.Quoted

namespace NodeStorage.Kubernetes

open Json

/-! ### Collections -/

/-- A kind of objects in a namespace or in the whole cluster. -/
structure Collection where
  /-- The group; empty for the kinds that every cluster has. -/
  group : String
  version : String
  plural : String
  namespaceName : Option String
  deriving DecidableEq, Repr

namespace Collection

/-- The path of a collection. -/
def path (collection : Collection) : String :=
  let root := if collection.group.isEmpty then "/api/"
    else String.join ["/apis/", collection.group, "/"]
  let place := match collection.namespaceName with
    | some name => String.join ["namespaces/", name, "/"]
    | none => ""
  String.join [root, collection.version, "/", place, collection.plural]

/-- The path of an object. -/
def pathOf (collection : Collection) (name : String) : String :=
  String.join [collection.path, "/", name]

end Collection

/-! ### Sending -/

/-- The error in the body of a failure. -/
def readFailure (document : Raw) : Reading ApiStatus := do
  let fields ← document.fields ["status", "message", "reason", "code"]
  let status ← fields.required "status" Raw.text
  let message ← fields.withDefault "message" Raw.text ""
  let reason ← fields.withDefault "reason" Raw.text ""
  let code ← fields.required "code" (Raw.integerBetween 0 65535)
  pure ⟨status, message, reason, code.toNat⟩

/-- The error that a failure reports. -/
def failureOf (response : Response) : ApiStatus :=
  match readText readFailure response.body with
  | .ok failure => failure
  | .error _ =>
    ⟨response.statusLine, Text.quoted response.body, "Failed to parse error data", response.code⟩

/-- What a response holds. -/
def Response.outcome {α : Type} (read : Raw → Reading α) (response : Response) : Outcome α :=
  if response.isFailure then .error (.cluster (.refused (failureOf response)))
  else
    match readText read response.body with
    | .ok value => .ok value
    | .error _ => .error (.cluster .unreadableAnswer)

/-- Sends a request to a path and reads what comes back. -/
def request {α : Type} (method : Method) (path : String) (body : Option Json)
    (read : Raw → Reading α) : WireDialogue (Outcome α) :=
  match Target.read? (path ++ "?") with
  | none => pure (.error (.cluster .unwritableRequest))
  | some target => do
    let response ← (Dialogue.question (WireCall.send ⟨method, target, body⟩) :
      WireDialogue Response)
    pure (response.outcome read)

/-- The time. -/
def askTime : WireDialogue Instant :=
  .question WireCall.clock

/-! ### What the client does -/

/-- A missing object, which is no error. -/
def orMissing {α : Type} : Outcome α → Outcome (Option α)
  | .ok value => .ok (some value)
  | .error (.cluster (.refused failure)) =>
    if failure.reason = "NotFound" then .ok none else .error (.cluster (.refused failure))
  | .error cause => .error cause

/-- Drops the value of a success. -/
def discard {α : Type} (outcome : Outcome α) : Outcome Unit :=
  outcome.map fun _ => ()

/-- Reads a reason why something failed. -/
def readCause (document : Raw) : Reading Unit := do
  let fields ← document.fields ["reason", "message", "field"]
  let _ ← fields.withDefault "reason" Raw.text ""
  let _ ← fields.withDefault "message" Raw.text ""
  let _ ← fields.withDefault "field" Raw.text ""
  pure ()

/-- Reads what is said about a deletion. -/
def readStatusDetails (document : Raw) : Reading Unit := do
  let fields ← document.fields ["name", "group", "kind", "uid", "causes", "retryAfterSeconds"]
  let _ ← fields.withDefault "name" Raw.text ""
  let _ ← fields.withDefault "group" Raw.text ""
  let _ ← fields.withDefault "kind" Raw.text ""
  let _ ← fields.withDefault "uid" Raw.text ""
  let _ ← fields.withDefault "causes" (Raw.list readCause) []
  let _ ← fields.withDefault "retryAfterSeconds" (Raw.integerBetween 0 4294967295) 0
  pure ()

/-- Reads the status of a deletion. -/
def readStatus (document : Raw) : Reading Unit := do
  let fields ← document.fields ["status", "code", "message", "reason", "details"]
  let _ ← fields.optional "status" (Raw.variant [("Success", ()), ("Failure", ())])
  let _ ← fields.withDefault "code" (Raw.integerBetween 0 65535) 0
  let _ ← fields.withDefault "message" Raw.text ""
  let _ ← fields.withDefault "reason" Raw.text ""
  let _ ← fields.optional "details" readStatusDetails
  pure ()

/-- The document says that it is a status. -/
def isStatus : Json → Bool
  | .object fields =>
    match lookup? "kind" fields with
    | some (.string kind) => kind == "Status"
    | _ => false
  | _ => false

/-- Reads what comes back from a deletion: a status or the object. -/
def readDeletion {α : Type} (read : Raw → Reading α) (document : Raw) : Reading Unit := do
  let value ← Raw.value document
  if isStatus value then readStatus document else (read document).map fun _ => ()

namespace Collection

/-- The object of a name. -/
def get {α : Type} (collection : Collection) (name : String) (read : Raw → Reading α) :
    WireDialogue (Outcome α) :=
  request .get (collection.pathOf name) none read

/-- The object of a name, if there is one. -/
def find {α : Type} (collection : Collection) (name : String) (read : Raw → Reading α) :
    WireDialogue (Outcome (Option α)) := do
  let outcome ← collection.get name read
  pure (orMissing outcome)

/-- All objects; `readAll` reads the list of them. -/
def list {α : Type} (collection : Collection) (readAll : Raw → Reading α) :
    WireDialogue (Outcome α) :=
  request .get collection.path none readAll

/-- Creates an object. -/
def create {α : Type} (collection : Collection) (object : Json) (read : Raw → Reading α) :
    WireDialogue (Outcome Unit) := do
  let outcome ← request .post collection.path (some object) read
  pure (discard outcome)

/-- Puts an object in the place of the one of a name. -/
def replace {α : Type} (collection : Collection) (name : String) (object : Json)
    (read : Raw → Reading α) : WireDialogue (Outcome Unit) := do
  let outcome ← request .put (collection.pathOf name) (some object) read
  pure (discard outcome)

/-- Merges a patch into the object of a name. -/
def patch {α : Type} (collection : Collection) (name : String) (change : Json)
    (read : Raw → Reading α) : WireDialogue (Outcome Unit) := do
  let outcome ← request .patch (collection.pathOf name) (some change) read
  pure (discard outcome)

/-- Merges a patch into the status of the object of a name. -/
def patchStatus {α : Type} (collection : Collection) (name : String) (change : Json)
    (read : Raw → Reading α) : WireDialogue (Outcome Unit) := do
  let outcome ← request .patch (collection.pathOf name ++ "/status") (some change) read
  pure (discard outcome)

/-- Deletes the object of a name, as the options say. -/
def delete {α : Type} (collection : Collection) (name : String) (options : List Field)
    (read : Raw → Reading α) : WireDialogue (Outcome Unit) :=
  request .delete (collection.pathOf name) (some (.object options)) (readDeletion read)

end Collection

end NodeStorage.Kubernetes
