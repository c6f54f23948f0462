/-
**Reading documents that leave things out.**

A description that a person or a tool writes leaves out whatever has its usual value. Here a field
that is null counts as left out, of two fields with one name the later counts, and fields that
nobody asks for do not matter. The strict records of `Json.Reader` stand beside this: they say
what a document of a fixed form must hold.
-/

import NodeStorage.Json.Reader
import NodeStorage.Json.Value
import NodeStorage.Text.Hexadecimal
import NodeStorage.Text.Utf8

namespace NodeStorage.Json

namespace Raw

variable {α : Type}

/-- What a document gives for a field, even if that is null. -/
def given? (document : Raw) (name : String) : Option Raw :=
  match document with
  | .object fields => (fields.reverse.find? fun entry => entry.1 == some name).map Prod.snd
  | _ => none

/-- What a document gives for a field; null counts as nothing. -/
def at? (document : Raw) (name : String) : Option Raw :=
  match document.given? name with
  | some .null => none
  | found => found

/-- A field that may be left out. -/
def optionalAt (document : Raw) (name : String) (read : Raw → Reading α) :
    Reading (Option α) :=
  (document.at? name).mapM read

/-- A field with a default. -/
def valueAt (document : Raw) (name : String) (read : Raw → Reading α) (default : α) :
    Reading α := do
  pure ((← document.optionalAt name read).getD default)

/-- A field that is read as null when it is left out. -/
def partAt (document : Raw) (name : String) (read : Raw → Reading α) : Reading α :=
  read ((document.given? name).getD .null)

/-- A field that changes something when it is given, null included. -/
def changeAt (document : Raw) (name : String) (read : Raw → Reading α) (present : α) :
    Reading α :=
  match document.given? name with
  | some value => read value
  | none => .ok present

/-- A text field; it is empty when it is left out. -/
def textAt (document : Raw) (name : String) : Reading String :=
  document.valueAt name text ""

/-- A text field that may be left out. -/
def textAt? (document : Raw) (name : String) : Reading (Option String) :=
  document.optionalAt name text

/-- A flag; it is false when it is left out. -/
def flagAt (document : Raw) (name : String) : Reading Bool :=
  document.valueAt name boolean false

/-- A number that is not negative. -/
def natural (document : Raw) : Reading Nat :=
  (integerBetween 0 18446744073709551615 document).map Int.toNat

/-- A list field; it is empty when it is left out. -/
def listAt (document : Raw) (name : String) (read : Raw → Reading α) : Reading (List α) :=
  document.valueAt name (list read) []

/-- The names and the values of an object, in the order in which they stand. -/
def entries (read : Raw → Reading α) : Raw → Reading (List (String × α))
  | .object fields =>
    fields.mapM fun field => do
      let name ← content field.1
      let value ← read field.2
      pure (name, value)
  | _ => .error (.expected "an object")

/-- A field with values by name; it is empty when it is left out. -/
def entriesAt (document : Raw) (name : String) (read : Raw → Reading α) :
    Reading (List (String × α)) :=
  document.valueAt name (entries read) []

/-! ### Bytes -/

/-- Bytes: a text, or an object with a text or with hexadecimal digits, or null for none. -/
def bytes (document : Raw) : Reading (List UInt8) :=
  match document with
  | .null => .ok []
  | .string characters => (content characters).map Text.encodeUtf8
  | _ => do
    match ← document.textAt? "text", ← document.textAt? "hex" with
    | some value, _ => pure (Text.encodeUtf8 value)
    | none, some digits =>
      match Text.ofHexadecimal? digits.toList with
      | some found => pure found
      | none => .error (.expected "hexadecimal digits")
    | none, none => .error (.expected "bytes")

end Raw

/-- Bytes as a text if they are one, and as hexadecimal digits if not. -/
def ofBytes (bytes : List UInt8) : Json :=
  match Text.decodeUtf8? bytes with
  | some value => .object [("text", .string value)]
  | none => .object [("hex", .string (Text.toHexadecimal bytes))]

/-- A count. -/
def ofNat (value : Nat) : Json :=
  .integer value

/-- A value, or null. -/
def orNull {α : Type} (encode : α → Json) (value : Option α) : Json :=
  (value.map encode).getD .null

/-- A list of values. -/
def listOf {α : Type} (encode : α → Json) (items : List α) : Json :=
  .array (items.map encode)

end NodeStorage.Json
