/-
**The definitions of the cluster's objects.**

Before the cluster takes an object of a new kind, it must know the kind: its names, and a schema of
what is asked of it and of what becomes of it. Here both kinds of discovery are defined. A schema is
built from the same names that objects are read and written with.
-/

import NodeStorage.Discovery.Resource
import NodeStorage.Manifest.Yaml

namespace NodeStorage.Manifest

open Json Discovery

/-! ### Schemas -/

/-- The parts of a schema, sorted by name. -/
abbrev Schema := List Field

namespace Schema

/-- The schema of a type. -/
def ofType (name : String) : Schema :=
  [("type", .string name)]

/-- A text. -/
def text : Schema := ofType "string"

/-- A signed 64-bit number. -/
def integer64 : Schema :=
  insertSorted "format" (.string "int64") (ofType "integer")

/-- One of some texts. -/
def oneOf (names : List String) : Schema :=
  insertSorted "enum" (Json.ofTexts names) text

/-- A list. -/
def listOf (items : Schema) : Schema :=
  insertSorted "items" (.object items) (ofType "array")

/-- An object with some fields, of which some must be there. -/
def record (fields : List (String × Schema)) (required : List String) : Schema :=
  let properties := Json.object (sortFields (fields.map fun field => (field.1, .object field.2)))
  let schema := insertSorted "properties" properties (ofType "object")
  if required.isEmpty then schema else insertSorted "required" (Json.ofTexts required) schema

/-- The schema with a description. -/
def described (schema : Schema) (description : String) : Schema :=
  insertSorted "description" (.string description) schema

/-- The schema with a default. -/
def withDefault (schema : Schema) (value : Json) : Schema :=
  insertSorted "default" value schema

/-- The schema of a value that may be null. -/
def orNull (schema : Schema) : Schema :=
  insertSorted "nullable" (.bool true) schema

/-- A text that may be empty. -/
def textOrEmpty : Schema := text.withDefault (.string "")

end Schema

open Schema

/-- The names of variants. -/
def names {α : Type} (variants : List (String × α)) : List String :=
  variants.map Prod.fst

/-! ### Asking for discovery -/

/-- The schema of a requirement. -/
def requirementSchema : Schema :=
  (record
    [("key", text),
     ("operator", (oneOf (names SelectorOperator.variants)).described "Selector operators"),
     ("values", listOf text)]
    ["key", "operator"]).described "A key, an operator and a set of values"

/-- The schema of a selector's term. -/
def termSchema : Schema :=
  (record
    [("matchExpressions", (listOf requirementSchema).described "Requirements on node labels"),
     ("matchFields", (listOf requirementSchema).described
       "Requirements on node fields (only \x60metadata.name\x60 is supported)")]
    []).described "A single selector term; all requirements within a term are ANDed"

/-- The schema of a node selector. -/
def nodeSelectorSchema : Schema :=
  ((record
    [("nodeSelectorTerms",
      ((listOf termSchema).described "Terms are ORed").withDefault (.array []))]
    []).described "Nodes on which discovery runs; all nodes when unset").orNull

/-- The schema of what a discovery object asks for. -/
def discoverySpecSchema : Schema :=
  (record [("nodeSelector", nodeSelectorSchema)] []).described
    (discoveryKind ++
      " asks the operator to run device discovery on the nodes matched by its node " ++ "selector.")

/-- The schema of a condition. -/
def conditionSchema : Schema :=
  (record
    [("lastTransitionTime", (text.described "Last transition time").orNull),
     ("message", (text.described "Message").orNull),
     ("reason", (text.described "Reason").orNull),
     ("status", text.described "Status: True, False, Unknown"),
     ("type", text.described "Type of condition")]
    ["status", "type"]).described "Discovery condition"

/-- The schema of the status of discovery. -/
def discoveryStatusSchema : Schema :=
  ((record
    [("conditions", ((listOf conditionSchema).described "Conditions").withDefault (.array [])),
     ("observedGeneration",
       (integer64.described "Generation last handled by the reconciler").orNull),
     ("phase", ((oneOf (names Phase.variants)).described "Current phase").orNull)]
    []).described "Status of the LocalVolumeDiscovery").orNull

/-! ### What was found on a node -/

/-- The schema of what a result is about. -/
def resultSpecSchema : Schema :=
  (record [("nodeName", text.described "Name of the node the devices were found on")]
    ["nodeName"]).described "Per-node record of the devices found by the discovery agent."

/-- The schema of a device's status. -/
def deviceStatusSchema : Schema :=
  (record
    [("state", (oneOf (names DeviceState.variants)).described "Device availability state")]
    ["state"]).described "Availability of a discovered device"

/-- The schema of a device. -/
def deviceSchema : Schema :=
  (record
    [("deviceID", textOrEmpty.described
       "Persistent \x60/dev/disk/by-id\x60 path, empty when none exists"),
     ("path", text),
     ("model", textOrEmpty),
     ("type", (oneOf (names DeviceType.variants)).described "Kind of block device"),
     ("vendor", textOrEmpty),
     ("serial", textOrEmpty),
     ("size", (integer64.described "Size in bytes").withDefault (.integer 0)),
     ("property", (oneOf (names MechanicalProperty.variants)).described
       "Whether the device spins"),
     ("fstype", textOrEmpty),
     ("status", deviceStatusSchema),
     ("WWN", textOrEmpty)]
    ["path", "property", "status", "type"]).described "A block device reported by discovery"

/-- The schema of a list of devices. -/
def resultStatusSchema : Schema :=
  ((record
    [("discoveredDevices",
       ((listOf deviceSchema).described
         "Devices found by the last scan that changed the list").withDefault (.array [])),
     ("discoveredTimeStamp", (text.described "RFC 3339 time of the last update").orNull)]
    []).described "Status of a LocalVolumeDiscoveryResult").orNull

/-! ### Definitions -/

/-- A kind of objects. -/
structure Definition where
  kind : String
  plural : String
  singular : String
  shortName : String
  /-- What a listing shows of an object first: a title and a path. -/
  column : String × String
  spec : Schema
  status : Schema

namespace Definition

/-- A column of a listing. -/
def columnJson (path title format : String) : Json :=
  .object [("jsonPath", .string path), ("name", .string title), ("type", .string format)]

/-- The schema of an object. -/
def schema (definition : Definition) : Schema :=
  insertSorted "title" (.string definition.kind)
    ((record [("spec", definition.spec), ("status", definition.status)] ["spec"]).described
      (String.join ["Auto-generated derived type for ", definition.kind,
        "Spec via \x60CustomResource\x60"]))

/-- The one version of the kind. -/
def versionJson (definition : Definition) : Json :=
  .object
    [("additionalPrinterColumns", .array
       [columnJson definition.column.2 definition.column.1 "string",
        columnJson ".metadata.creationTimestamp" "Age" "date"]),
     ("name", .string Discovery.version),
     ("schema", .object [("openAPIV3Schema", .object definition.schema)]),
     ("served", .bool true), ("storage", .bool true),
     ("subresources", .object [("status", .object [])])]

/-- The object that defines the kind. -/
def toJson (definition : Definition) : Json :=
  .object
    [("apiVersion", .string "apiextensions.k8s.io/v1"),
     ("kind", .string "CustomResourceDefinition"),
     ("metadata", .object
       [("name", .string (String.join [definition.plural, ".", Discovery.group]))]),
     ("spec", .object
       [("group", .string Discovery.group),
        ("names", .object
          [("categories", .array []), ("kind", .string definition.kind),
           ("plural", .string definition.plural),
           ("shortNames", Json.ofTexts [definition.shortName]),
           ("singular", .string definition.singular)]),
        ("scope", .string "Namespaced"), ("versions", .array [definition.versionJson])])]

end Definition

/-- The kind of objects that ask for discovery. -/
def discoveryDefinition : Definition where
  kind := discoveryKind
  plural := "localvolumediscoveries"
  singular := "localvolumediscovery"
  shortName := "lvd"
  column := ("Phase", ".status.phase")
  spec := discoverySpecSchema
  status := discoveryStatusSchema

/-- The kind of objects that hold what was found on a node. -/
def resultDefinition : Definition where
  kind := resultKind
  plural := "localvolumediscoveryresults"
  singular := "localvolumediscoveryresult"
  shortName := "lvdr"
  column := ("Node", ".spec.nodeName")
  spec := resultSpecSchema
  status := resultStatusSchema

/-- The lines of all definitions, each a document of its own. -/
def manifestLines : List String :=
  [discoveryDefinition, resultDefinition].flatMap fun definition =>
    "---" :: documentLines definition.toJson

/-- The text of all definitions. -/
def manifests : String :=
  String.join (manifestLines.map fun line => line ++ "\n")

end NodeStorage.Manifest
