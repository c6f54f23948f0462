/-
**Writing JSON.**

The text is compact: no space anywhere outside a string. In a string only the quote, the backslash
and the control characters below U+0020 are escaped; five of these have a short escape, the others
are written as four hexadecimal digits.
-/

import NodeStorage.Json.Value
import NodeStorage.Decimal.Shortest

namespace NodeStorage.Json

/-- Decimals below 10^-5 and from 10^16 on have an exponent, which shows its sign; a whole number
keeps a zero after the point. -/
def decimalStyle : Decimal.DecimalStyle :=
  ⟨-5, 15, ['.', '0'], ['+']⟩

/-- A character inside a JSON string. -/
def escapeChar (c : Char) : List Char :=
  if c = '"' then ['\\', '"']
  else if c = '\\' then ['\\', '\\']
  else if c.toNat = 0x08 then ['\\', 'b']
  else if c.toNat = 0x0C then ['\\', 'f']
  else if c = '\n' then ['\\', 'n']
  else if c = '\r' then ['\\', 'r']
  else if c = '\t' then ['\\', 't']
  else if c.toNat < 0x20 then ['\\', 'u'] ++ Text.hexadecimalPadded 4 c.toNat
  else [c]

/-- A JSON string. -/
def writeString (text : String) : List Char :=
  '"' :: text.toList.flatMap escapeChar ++ ['"']

mutual

/-- The characters of a value. -/
def write : Json → List Char
  | .null => ['n', 'u', 'l', 'l']
  | .bool true => ['t', 'r', 'u', 'e']
  | .bool false => ['f', 'a', 'l', 's', 'e']
  | .integer value => (toString value).toList
  | .decimal value => decimalStyle.write value
  | .string value => writeString value
  | .array items => '[' :: writeItems items ++ [']']
  | .object fields => '{' :: writeFields fields ++ ['}']

/-- The items of an array, parted by commas. -/
def writeItems : List Json → List Char
  | [] => []
  | item :: [] => write item
  | item :: next :: rest => write item ++ ',' :: writeItems (next :: rest)

/-- The fields of an object, parted by commas. -/
def writeFields : List (String × Json) → List Char
  | [] => []
  | (name, value) :: [] => writeString name ++ ':' :: write value
  | (name, value) :: next :: rest =>
    writeString name ++ ':' :: write value ++ ',' :: writeFields (next :: rest)

end

/-- The text of a value. -/
def toText (value : Json) : String :=
  String.ofList (write value)

end NodeStorage.Json
