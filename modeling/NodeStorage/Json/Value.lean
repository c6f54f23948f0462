/-
**JSON values.**

A number is a whole number or a double, and stays what it was written as. The fields of an object
are kept in the order in which they are to be written: a record has the order of its declaration,
a free-form object is sorted by key. Sorting is by code point, which is the order of the UTF-8
bytes as well.
-/

import NodeStorage.Decimal.Double

namespace NodeStorage

/-- A JSON value. -/
inductive Json where
  | null
  | bool (value : Bool)
  | integer (value : Int)
  | decimal (value : Decimal.Double)
  | string (value : String)
  | array (items : List Json)
  | object (fields : List (String × Json))
  deriving Inhabited

namespace Json

/-- A field of a record. -/
abbrev Field := String × Json

/-- The value of the first field named `key`. -/
def lookup? (key : String) (fields : List Field) : Option Json :=
  (fields.find? fun field => field.1 == key).map Prod.snd

/-- The fields without those named `key`. -/
def erase (key : String) (fields : List Field) : List Field :=
  fields.filter fun field => field.1 != key

/-- Sorted fields with one more, which takes the place of a field of the same name. -/
def insertSorted (key : String) (value : Json) : List Field → List Field
  | [] => [(key, value)]
  | (name, old) :: rest =>
    if key < name then (key, value) :: (name, old) :: rest
    else if key = name then (key, value) :: rest
    else (name, old) :: insertSorted key value rest

/-- The fields sorted by name; of two with one name the later counts. -/
def sortFields (fields : List Field) : List Field :=
  fields.foldl (fun sorted field => insertSorted field.1 field.2 sorted) []

/-- A record: the fields that have a value, in the order given. -/
def record (fields : List (String × Option Json)) : Json :=
  .object (fields.filterMap fun field => field.2.map fun value => (field.1, value))

/-- A text, or null. -/
def ofText? (text : Option String) : Json :=
  match text with
  | some value => .string value
  | none => .null

/-- A list of texts. -/
def ofTexts (texts : List String) : Json :=
  .array (texts.map .string)

/-- A free-form object of texts, sorted by key. -/
def ofTextMap (entries : List (String × String)) : Json :=
  .object (sortFields (entries.map fun entry => (entry.1, .string entry.2)))

/-- The fields of an object. -/
def fields? : Json → Option (List Field)
  | .object fields => some fields
  | _ => none

end Json

end NodeStorage
