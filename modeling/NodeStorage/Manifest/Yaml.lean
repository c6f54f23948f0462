/-
**Writing YAML.**

A value is written in block style: every field and every item stands on a line of its own, a list
under a field is not indented, and an object under a field is indented by two blanks. Empty lists
and objects stand on the line of their field.

A text is written plain where no reader can take it for anything else, and in single quotes
elsewhere.
-/

import NodeStorage.Json.Writer

namespace NodeStorage.Manifest

/-! ### Texts -/

/-- Characters that mean something at the start of a text. -/
def indicators : List Char :=
  ['-', '?', ':', ',', '[', ']', '{', '}', '#', '&', '*', '!', '|', '>', Char.ofNat 0x27, '"', '%',
   '@', Char.ofNat 0x60, ' ', '~']

/-- Texts that are read as other values. -/
def reservedWords : List String :=
  ["null", "Null", "NULL", "true", "True", "TRUE", "false", "False", "FALSE",
   ".nan", ".NaN", ".NAN", ".inf", ".Inf", ".INF"]

/-- The characters begin like a number. -/
def beginsLikeNumber : List Char → Bool
  | '.' :: c :: _ => c.isDigit
  | c :: _ => c.isDigit || c == '+'
  | [] => false

/-- The characters can be told from a field and a comment. -/
def hasPlainInside : List Char → Bool
  | [] => true
  | [c] => c != ':' && c != ' '
  | c :: next :: rest =>
    !(c == ':' && next == ' ') && !(c == ' ' && next == '#') && hasPlainInside (next :: rest)

/-- The text may be written plain. -/
def isPlain (text : String) : Bool :=
  match text.toList with
  | [] => false
  | c :: rest =>
    !indicators.contains c && !beginsLikeNumber (c :: rest) && !reservedWords.contains text &&
      hasPlainInside (c :: rest) && (c :: rest).all fun d => 0x20 ≤ d.toNat && d.toNat != 0x7F

/-- The text in single quotes, with every one inside written twice. -/
def singleQuoted (text : String) : String :=
  let quote := Char.ofNat 0x27
  String.ofList
    (quote :: text.toList.flatMap (fun c => if c = quote then [quote, quote] else [c]) ++ [quote])

/-- A text. -/
def writeText (text : String) : String :=
  if isPlain text then text else singleQuoted text

/-! ### Values -/

/-- How a value is written. -/
inductive Layout where
  /-- On the line of its field or item. -/
  | inline (text : String)
  /-- On lines of its own, as a list. -/
  | list (lines : List String)
  /-- On lines of its own, as an object. -/
  | object (lines : List String)

/-- Lines indented by two blanks. -/
def indent (lines : List String) : List String :=
  lines.map fun line => "  " ++ line

/-- The lines of an item. -/
def Layout.itemLines : Layout → List String
  | .inline text => ["- " ++ text]
  | .list lines | .object lines =>
    match lines with
    | [] => ["-"]
    | first :: rest => ("- " ++ first) :: indent rest

/-- The lines of a field. -/
def Layout.fieldLines (name : String) : Layout → List String
  | .inline text => [String.join [writeText name, ": ", text]]
  | .list lines => (writeText name ++ ":") :: lines
  | .object lines => (writeText name ++ ":") :: indent lines

mutual

/-- The layout of a value. -/
def layout : Json → Layout
  | .null => .inline "null"
  | .bool true => .inline "true"
  | .bool false => .inline "false"
  | .integer value => .inline (toString value)
  | .decimal value => .inline (String.ofList (Json.decimalStyle.write value))
  | .string text => .inline (writeText text)
  | .array [] => .inline "[]"
  | .array (item :: rest) => .list (layoutItems (item :: rest))
  | .object [] => .inline "\x7b\x7d"
  | .object (field :: rest) => .object (layoutFields (field :: rest))

/-- The lines of a list. -/
def layoutItems : List Json → List String
  | [] => []
  | item :: rest => (layout item).itemLines ++ layoutItems rest

/-- The lines of an object. -/
def layoutFields : List (String × Json) → List String
  | [] => []
  | (name, value) :: rest => (layout value).fieldLines name ++ layoutFields rest

end

/-- The lines of a document. -/
def documentLines (value : Json) : List String :=
  match layout value with
  | .inline text => [text]
  | .list lines | .object lines => lines

end NodeStorage.Manifest
