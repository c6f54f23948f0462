/-
**Which nodes are meant.**

A selector has terms, one of which must fit. A term fits when all its requirements do, those on the
node's labels and those on its fields; the only field is the node's name. A term without
requirements fits nothing.
-/

import NodeStorage.Cluster.Metadata
import NodeStorage.Json.Reader

namespace NodeStorage.Discovery

open Json

/-- How a requirement compares a value. -/
inductive SelectorOperator where
  | isIn | notIn | «exists» | doesNotExist | greater | less
  deriving DecidableEq, Repr

namespace SelectorOperator

/-- The written names of the operators. -/
def variants : List (String × SelectorOperator) :=
  [("In", .isIn), ("NotIn", .notIn), ("Exists", .exists), ("DoesNotExist", .doesNotExist),
   ("Gt", .greater), ("Lt", .less)]

/-- The written name of an operator. -/
def name : SelectorOperator → String
  | .isIn => "In"
  | .notIn => "NotIn"
  | .exists => "Exists"
  | .doesNotExist => "DoesNotExist"
  | .greater => "Gt"
  | .less => "Lt"

end SelectorOperator

/-- A key, an operator and the values it compares with. -/
structure Requirement where
  key : String
  operator : SelectorOperator
  values : List String
  deriving DecidableEq, Repr

/-- Requirements that a node must meet together. -/
structure SelectorTerm where
  /-- Requirements on labels. -/
  onLabels : List Requirement
  /-- Requirements on fields. -/
  onFields : List Requirement
  deriving DecidableEq, Repr

/-- Terms of which a node must fit one. -/
structure NodeSelector where
  terms : List SelectorTerm
  deriving DecidableEq, Repr

/-- A node of the cluster. -/
structure Node where
  name : String
  labels : Cluster.TextMap
  deriving DecidableEq, Repr

/-! ### Matching -/

/-- A requirement is met by a value, which may be missing. -/
def Requirement.isMetBy (requirement : Requirement) (value : Option String) : Bool :=
  match requirement.operator with
  | .isIn => value.any fun text => requirement.values.contains text
  | .notIn => value.all fun text => !requirement.values.contains text
  | .exists => value.isSome
  | .doesNotExist => value.isNone
  | .greater => compared fun number bound => bound < number
  | .less => compared fun number bound => number < bound
where
  /-- Both the value and the only bound are numbers, and compare as asked. -/
  compared (holds : Int → Int → Bool) : Bool :=
    match value, requirement.values with
    | some text, [limit] =>
      match Text.signed? text, Text.signed? limit with
      | some number, some bound => holds number bound
      | _, _ => false
    | _, _ => false

/-- The only field that requirements may name. -/
def nameField : String := "metadata.name"

/-- The value of a node's field. -/
def Node.field? (node : Node) (key : String) : Option String :=
  if key = nameField then some node.name else none

/-- The term fits a node. -/
def SelectorTerm.fits (term : SelectorTerm) (node : Node) : Bool :=
  !(term.onLabels.isEmpty && term.onFields.isEmpty) &&
    (term.onLabels.all fun requirement =>
      requirement.isMetBy (Cluster.TextMap.lookup? requirement.key node.labels)) &&
    term.onFields.all fun requirement => requirement.isMetBy (node.field? requirement.key)

/-- The selector means the node. -/
def NodeSelector.fits (selector : NodeSelector) (node : Node) : Bool :=
  selector.terms.any fun term => term.fits node

/-! ### JSON -/

/-- A list field that is written only when it holds something. -/
def unlessEmpty {α : Type} (toJson : α → Json) (items : List α) : Option Json :=
  if items.isEmpty then none else some (.array (items.map toJson))

namespace Requirement

/-- The JSON form of a requirement. -/
def toJson (requirement : Requirement) : Json :=
  Json.record
    [("key", some (.string requirement.key)),
     ("operator", some (.string requirement.operator.name)),
     ("values", unlessEmpty .string requirement.values)]

/-- Reads a requirement. -/
def read (document : Raw) : Reading Requirement := do
  let fields ← document.fields ["key", "operator", "values"]
  let key ← fields.required "key" Raw.text
  let operator ← fields.required "operator" (Raw.variant SelectorOperator.variants)
  let values ← fields.withDefault "values" (Raw.list Raw.text) []
  pure ⟨key, operator, values⟩

end Requirement

namespace SelectorTerm

/-- The JSON form of a term. -/
def toJson (term : SelectorTerm) : Json :=
  Json.record
    [("matchExpressions", unlessEmpty Requirement.toJson term.onLabels),
     ("matchFields", unlessEmpty Requirement.toJson term.onFields)]

/-- Reads a term. -/
def read (document : Raw) : Reading SelectorTerm := do
  let fields ← document.fields ["matchExpressions", "matchFields"]
  let onLabels ← fields.withDefault "matchExpressions" (Raw.list Requirement.read) []
  let onFields ← fields.withDefault "matchFields" (Raw.list Requirement.read) []
  pure ⟨onLabels, onFields⟩

end SelectorTerm

namespace NodeSelector

/-- The JSON form of a selector. -/
def toJson (selector : NodeSelector) : Json :=
  .object [("nodeSelectorTerms", .array (selector.terms.map SelectorTerm.toJson))]

/-- Reads a selector. -/
def read (document : Raw) : Reading NodeSelector := do
  let fields ← document.fields ["nodeSelectorTerms"]
  let terms ← fields.withDefault "nodeSelectorTerms" (Raw.list SelectorTerm.read) []
  pure ⟨terms⟩

end NodeSelector

end NodeStorage.Discovery
