/-
**The health of discovery.**

Discovery runs as a set of pods, one on each selected node. Its status has a phase, the conditions
that apply, and the generation of the object it was worked out for. How many pods are wanted and how
many are ready decides the phase and the one condition that is kept; the time of a condition is the
time at which its status last changed.
-/

import NodeStorage.Cluster.Metadata

namespace NodeStorage.Discovery

open Json

/-- Whether discovery works. -/
inductive Phase where
  | discovering | failed
  deriving DecidableEq, Repr

namespace Phase

/-- The written names of the phases. -/
def variants : List (String × Phase) :=
  [("Discovering", .discovering), ("DiscoveryFailed", .failed)]

/-- The written name of a phase. -/
def name : Phase → String
  | .discovering => "Discovering"
  | .failed => "DiscoveryFailed"

end Phase

/-- Something that is or is not the case with discovery. -/
structure Condition where
  /-- What the condition is about. -/
  topic : String
  /-- `True`, `False` or `Unknown`. -/
  status : String
  /-- When the status last changed. -/
  changedAt : Option Instant
  reason : Option String
  message : Option String
  deriving DecidableEq, Repr

namespace Condition

/-- The JSON form of a condition. -/
def toJson (condition : Condition) : Json :=
  .object
    [("type", .string condition.topic), ("status", .string condition.status),
     ("lastTransitionTime", Json.ofText? (condition.changedAt.map Instant.write)),
     ("reason", Json.ofText? condition.reason), ("message", Json.ofText? condition.message)]

/-- Reads a condition. -/
def read (document : Raw) : Reading Condition := do
  let fields ← document.fields ["type", "status", "lastTransitionTime", "reason", "message"]
  let topic ← fields.required "type" Raw.text
  let status ← fields.required "status" Raw.text
  let changedAt ← fields.optional "lastTransitionTime" Cluster.Metadata.readInstant
  let reason ← fields.optional "reason" Raw.text
  let message ← fields.optional "message" Raw.text
  pure ⟨topic, status, changedAt, reason, message⟩

end Condition

/-- The status of discovery. -/
structure Status where
  phase : Option Phase
  conditions : List Condition
  /-- The generation of the object that the status was worked out for. -/
  generation : Option Int
  deriving DecidableEq, Repr

namespace Status

/-- Nothing is known. -/
def empty : Status := ⟨none, [], none⟩

/-- The JSON form of a status. -/
def toJson (status : Status) : Json :=
  Json.record
    [("phase", status.phase.map fun phase => .string phase.name),
     ("conditions", some (.array (status.conditions.map Condition.toJson))),
     ("observedGeneration", status.generation.map .integer)]

/-- Reads a status. -/
def read (document : Raw) : Reading Status := do
  let fields ← document.fields ["phase", "conditions", "observedGeneration"]
  let phase ← fields.optional "phase" (Raw.variant Phase.variants)
  let conditions ← fields.withDefault "conditions" (Raw.list Condition.read) []
  let generation ← fields.optional "observedGeneration" Raw.integer64
  pure ⟨phase, conditions, generation⟩

end Status

/-! ### Keeping conditions -/

/-- A condition in the place of an older one on the same topic: it keeps the time of the older one
while the status stays the same. -/
def Condition.after (condition previous : Condition) : Condition :=
  if previous.status = condition.status then { condition with changedAt := previous.changedAt }
  else condition

/-- The conditions with a new one, in the place of the first on its topic or at the end. -/
def putCondition (condition : Condition) : List Condition → List Condition
  | [] => [condition]
  | previous :: rest =>
    if previous.topic = condition.topic then condition.after previous :: rest
    else previous :: putCondition condition rest

/-- The status with a new condition. -/
def Status.setCondition (status : Status) (condition : Condition) : Status :=
  { status with conditions := putCondition condition status.conditions }

/-! ### From pods to status -/

/-- How many pods of discovery there should be, and how many are ready. -/
structure PodCounts where
  desired : Int
  ready : Int
  deriving DecidableEq, Repr

namespace PodCounts

/-- The counts in words. -/
def message (counts : PodCounts) : String :=
  String.join [toString counts.ready, "/", toString counts.desired, " discovery pods ready"]

end PodCounts

/-- The phase and the condition that the counts of pods call for; `none` when there is nothing that
runs pods. -/
def assess (counts : Option PodCounts) (now : Instant) : Phase × Condition :=
  let condition (topic status reason message : String) : Condition :=
    ⟨topic, status, some now, some reason, some message⟩
  match counts with
  | none =>
    (.failed, condition "Degraded" "False" "DiscoveryDaemonSetMissing"
      "discovery DaemonSet not found")
  | some pods =>
    if 0 < pods.desired ∧ 0 < pods.ready ∧ pods.ready < pods.desired then
      (.discovering, condition "Progressing" "False" "DiscoveryDaemonSetProgressing" pods.message)
    else if 0 < pods.desired ∧ pods.desired ≤ pods.ready then
      (.discovering, condition "Available" "True" "DiscoveryDaemonSetReady" pods.message)
    else
      (.failed, condition "Degraded" "False" "DiscoveryDaemonSetUnavailable" pods.message)

/-- The status after the one before: only the condition that applies now is kept. -/
def nextStatus (previous : Option Status) (counts : Option PodCounts) (generation : Option Int)
    (now : Instant) : Status :=
  let (phase, condition) := assess counts now
  let kept := match previous with
    | some status => status.conditions.filter fun old => old.topic == condition.topic
    | none => []
  Status.setCondition ⟨some phase, kept, generation⟩ condition

end NodeStorage.Discovery
