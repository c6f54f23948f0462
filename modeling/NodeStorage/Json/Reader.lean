/-
**Reading records from JSON documents.**

The second step of reading gives a document its meaning. A whole number that fits into 64 bits stays
a whole number, every other number becomes a double by the single rounded steps of
`Double.scaleByTen?`; a number beyond the largest double, half a surrogate pair and nesting deeper
than 127 are errors where the value is kept.

A record is read from an object by the names of its fields, or from an array by their order. Names
that the record does not have are passed over, a name given twice is an error, and an array may end
early only where the fields left out have a default, and may not go on.
-/

import NodeStorage.Json.Raw
import NodeStorage.Json.Value
import NodeStorage.Decimal.Double

namespace NodeStorage.Json

/-- Why a document cannot be read. -/
inductive ReadError where
  | malformed
  | numberOutOfRange
  | loneSurrogate
  | tooDeep
  | expected (what : String)
  | missingField (name : String)
  | duplicateField (name : String)
  | tooManyItems (limit : Nat)
  | unknownVariant (name : String)
  | invalidTime (text : String)
  deriving DecidableEq, Repr

/-- The wording of a reading error. -/
def ReadError.message : ReadError → String
  | .malformed => "not a JSON document"
  | .numberOutOfRange => "number out of range"
  | .loneSurrogate => "half of a surrogate pair"
  | .tooDeep => "nested too deeply"
  | .expected what => "expected " ++ what
  | .missingField name => "missing field " ++ name
  | .duplicateField name => "duplicate field " ++ name
  | .tooManyItems limit => "more than " ++ toString limit ++ " items"
  | .unknownVariant name => "unknown variant " ++ name
  | .invalidTime text => "invalid time " ++ text

/-- A value, or the reason why there is none. -/
abbrev Reading (α : Type) := Except ReadError α

/-! ### Numbers -/

/-- The value of a numeral. -/
inductive Number where
  | integer (value : Int)
  | decimal (value : Decimal.Double)
  deriving DecidableEq, Repr

/-- Digits taken onto `start` as long as the result fits into 64 bits: the result, and the digits
that were not taken. -/
def takeDigits (start : Nat) : List Char → Nat × List Char
  | [] => (start, [])
  | c :: rest =>
    let grown := start * 10 + (c.toNat - '0'.toNat)
    if grown ≤ Text.maxUnsigned then takeDigits grown rest else (start, c :: rest)

/-- A numeral that is read as a double: the digits that fit into 64 bits, scaled by what the others
and the exponent are worth. -/
def Numeral.decimal? (numeral : Numeral) : Option Decimal.Double := do
  let (significand, leftOut) := takeDigits 0 numeral.whole
  let (significand, places) := match numeral.fraction with
    | none => (significand, 0)
    | some digits =>
      let (grown, rest) := takeDigits significand digits
      (grown, digits.length - rest.length)
  let shift : Int := (leftOut.length : Int) - places
  let magnitude ← match numeral.exponent with
    | none => (Decimal.Double.ofNat? significand).bind fun value => value.scaleByTen? 8 shift
    | some (negative, digits) =>
      let exponent := digits.foldl (fun value c => value * 10 + (c.toNat - '0'.toNat)) 0
      if exponent > 2147483647 then
        if significand ≠ 0 ∧ !negative then none else some .zero
      else
        let total := if negative then shift - exponent else shift + exponent
        (Decimal.Double.ofNat? significand).bind fun value => value.scaleByTen? 8 total
  pure (if numeral.negative then magnitude.neg else magnitude)

/-- The value of a numeral; `none` beyond the largest double. Minus zero is a double. -/
def Numeral.value? (numeral : Numeral) : Option Number :=
  match numeral.fraction, numeral.exponent, takeDigits 0 numeral.whole with
  | none, none, (magnitude, []) =>
    if !numeral.negative then some (.integer magnitude)
    else if magnitude ≠ 0 ∧ magnitude ≤ 9223372036854775808 then some (.integer (-magnitude))
    else numeral.decimal?.map .decimal
  | _, _, _ => numeral.decimal?.map .decimal

/-! ### Values -/

namespace Raw

/-- How deep arrays and objects may be nested. -/
def depthLimit : Nat := 127

/-- The text of a string. -/
def content (text : Option String) : Reading String :=
  match text with
  | some value => .ok value
  | none => .error .loneSurrogate

mutual

/-- The value of a document whose containers may be nested `depth` deep. -/
def valueWithin (depth : Nat) : Raw → Reading Json
  | .null => .ok .null
  | .bool value => .ok (.bool value)
  | .number numeral =>
    match numeral.value? with
    | some (.integer value) => .ok (.integer value)
    | some (.decimal value) => .ok (.decimal value)
    | none => .error .numberOutOfRange
  | .string text => (content text).map .string
  | .array items =>
    match depth with
    | 0 => .error .tooDeep
    | inner + 1 => (itemsWithin inner items).map .array
  | .object fields =>
    match depth with
    | 0 => .error .tooDeep
    | inner + 1 => (fieldsWithin inner fields).map fun pairs => .object (sortFields pairs)

/-- The values of an array's items. -/
def itemsWithin (depth : Nat) : List Raw → Reading (List Json)
  | [] => .ok []
  | item :: rest => do
    let value ← valueWithin depth item
    let values ← itemsWithin depth rest
    pure (value :: values)

/-- The names and values of an object's fields, in the order in which they are written. -/
def fieldsWithin (depth : Nat) : List (Option String × Raw) → Reading (List (String × Json))
  | [] => .ok []
  | (name, field) :: rest => do
    let key ← content name
    let value ← valueWithin depth field
    let values ← fieldsWithin depth rest
    pure ((key, value) :: values)

end

/-- The value of a document. -/
def value (document : Raw) : Reading Json :=
  valueWithin depthLimit document

/-- A document of text. -/
def parse (text : String) : Reading Raw :=
  match parse? text with
  | some document => .ok document
  | none => .error .malformed

/-! ### Simple fields -/

/-- A text. -/
def text : Raw → Reading String
  | .string characters => content characters
  | _ => .error (.expected "a string")

/-- A truth value. -/
def boolean : Raw → Reading Bool
  | .bool value => .ok value
  | _ => .error (.expected "a boolean")

/-- A whole number from `lowest` to `highest`. -/
def integerBetween (lowest highest : Int) : Raw → Reading Int
  | .number numeral =>
    match numeral.value? with
    | some (.integer value) =>
      if lowest ≤ value ∧ value ≤ highest then .ok value
      else .error (.expected "a smaller integer")
    | some (.decimal _) => .error (.expected "an integer")
    | none => .error .numberOutOfRange
  | _ => .error (.expected "an integer")

/-- A signed 64-bit number. -/
def integer64 : Raw → Reading Int :=
  integerBetween (-9223372036854775808) 9223372036854775807

/-- A signed 32-bit number. -/
def integer32 : Raw → Reading Int :=
  integerBetween (-2147483648) 2147483647

/-- Null, or a value. -/
def optional {α : Type} (read : Raw → Reading α) : Raw → Reading (Option α)
  | .null => .ok none
  | other => (read other).map some

/-- A list. -/
def list {α : Type} (read : Raw → Reading α) : Raw → Reading (List α)
  | .array items => items.mapM read
  | _ => .error (.expected "an array")

/-- A free-form object of texts, sorted by key; of two fields with one name the later counts. -/
def textMap : Raw → Reading (List (String × String))
  | .object fields => do
    let pairs ← fields.mapM fun field => do
      let key ← content field.1
      let entry ← text field.2
      pure (key, entry)
    pure ((sortFields (pairs.map fun pair => (pair.1, Json.string pair.2))).filterMap fun field =>
      match field.2 with
      | .string entry => some (field.1, entry)
      | _ => none)
  | _ => .error (.expected "an object")

/-- One of the named values: its name, or an object that maps the name to null. -/
def variant {α : Type} (values : List (String × α)) (document : Raw) : Reading α :=
  let find (name : String) : Reading α :=
    match values.find? fun entry => entry.1 == name with
    | some entry => .ok entry.2
    | none => .error (.unknownVariant name)
  match document with
  | .string characters => content characters >>= find
  | .object [(name, .null)] => content name >>= find
  | _ => .error (.expected "the name of a variant")

end Raw

/-! ### Records -/

/-- The fields of a record that a document gives. -/
structure Fields where
  /-- The fields stand in an object, by name. -/
  named : Bool
  /-- The fields that are given. -/
  given : List (String × Raw)

/-- The fields of an object that a record has, none of them twice. -/
def namedFields (names : List String) :
    List (Option String × Raw) → List (String × Raw) → Reading (List (String × Raw))
  | [], found => .ok found
  | (name, field) :: rest, found =>
    match name with
    | none => .error .loneSurrogate
    | some key =>
      if names.contains key then
        if found.any fun entry => entry.1 == key then .error (.duplicateField key)
        else namedFields names rest (found ++ [(key, field)])
      else namedFields names rest found

/-- The fields of a record in a document. -/
def Raw.fields (names : List String) : Raw → Reading Fields
  | .object fields => (namedFields names fields []).map fun given => ⟨true, given⟩
  | .array items =>
    if items.length ≤ names.length then .ok ⟨false, names.zip items⟩
    else .error (.tooManyItems names.length)
  | _ => .error (.expected "a record")

/-- The fields of a record that may stand in an object only. -/
def Raw.objectFields (names : List String) : Raw → Reading Fields
  | .object fields => (namedFields names fields []).map fun given => ⟨true, given⟩
  | _ => .error (.expected "an object")

namespace Fields

variable {α : Type}

/-- What the document gives for a field. -/
def find? (fields : Fields) (name : String) : Option Raw :=
  (fields.given.find? fun entry => entry.1 == name).map Prod.snd

/-- A field that must be given. -/
def required (fields : Fields) (name : String) (read : Raw → Reading α) : Reading α :=
  match fields.find? name with
  | some document => read document
  | none => .error (.missingField name)

/-- A field with a default. -/
def withDefault (fields : Fields) (name : String) (read : Raw → Reading α) (default : α) :
    Reading α :=
  match fields.find? name with
  | some document => read document
  | none => .ok default

/-- A field that may be null or left out. -/
def optional (fields : Fields) (name : String) (read : Raw → Reading α) : Reading (Option α) :=
  fields.withDefault name (Raw.optional read) none

/-- A field that may be null, and left out of an object but not of an array. -/
def optionalByName (fields : Fields) (name : String) (read : Raw → Reading α) :
    Reading (Option α) :=
  match fields.find? name with
  | some document => Raw.optional read document
  | none => if fields.named then .ok none else .error (.missingField name)

end Fields

/-- Reads an object field by field, in the order in which they are written; a field that stands
there twice is read twice. -/
def Raw.foldFields {α : Type} (read : α → String → Raw → Reading α) (start : α) :
    Raw → Reading α
  | .object fields =>
    fields.foldlM (fun value field => do
      let name ← content field.1
      read value name field.2) start
  | _ => .error (.expected "an object")

/-- Reads a text as a document and the document as a value of some type. -/
def readText {α : Type} (read : Raw → Reading α) (text : String) : Reading α := do
  let document ← Raw.parse text
  read document

/-- The value of a text. -/
def parse (text : String) : Reading Json :=
  readText Raw.value text

end NodeStorage.Json
