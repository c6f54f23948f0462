/-
**JSON documents as they are written.**

Reading a document happens in two steps. The first, here, is the grammar alone: it finds the shape
of the text and keeps every literal as it stands, so a number is its digits and a string its
characters, or nothing when it holds half of a surrogate pair. What a number is worth and whether a
string may be used is asked in the second step, and only of the parts that a reader looks at: a
field nobody knows may hold a number too large for any format.

The grammar is the strict one. Between tokens stand spaces, tabs, line feeds and carriage returns
only; there is no comma after the last item, no leading zero, no raw control character in a string.
-/

import NodeStorage.Text.Integer

namespace NodeStorage.Json

/-- The digits of a number as they are written. -/
structure Numeral where
  negative : Bool
  whole : List Char
  fraction : Option (List Char)
  /-- The sign of the exponent, true for minus, and its digits. -/
  exponent : Option (Bool × List Char)
  deriving DecidableEq, Repr

/-- A document as it is written. -/
inductive Raw where
  | null
  | bool (value : Bool)
  | number (numeral : Numeral)
  /-- A string, or `none` for one that holds half of a surrogate pair. -/
  | string (content : Option String)
  | array (items : List Raw)
  | object (fields : List (Option String × Raw))
  deriving Inhabited

/-- The characters after leading blanks. -/
def skipBlanks (chars : List Char) : List Char :=
  chars.dropWhile fun c => c == ' ' || c == '\n' || c == '\r' || c == '\t'

/-! ### Strings -/

/-- One element of a string: a character, or a sixteen-bit unit given by its number. -/
inductive Unit16 where
  | char (c : Char)
  | unit (value : Nat)

/-- The number of four hexadecimal digits. -/
def unit? (a b c d : Char) : Option Nat := do
  let a ← Text.hexDigit? a
  let b ← Text.hexDigit? b
  let c ← Text.hexDigit? c
  let d ← Text.hexDigit? d
  pure (((a * 16 + b) * 16 + c) * 16 + d)

/-- The character of a short escape. -/
def shortEscape? (c : Char) : Option Char :=
  match c with
  | '"' => some '"'
  | '\\' => some '\\'
  | '/' => some '/'
  | 'b' => some (Char.ofNat 0x08)
  | 'f' => some (Char.ofNat 0x0C)
  | 'n' => some '\n'
  | 'r' => some '\r'
  | 't' => some '\t'
  | _ => none

/-- The elements of a string up to its closing quote, and what follows the quote. -/
def stringUnits : List Char → Option (List Unit16 × List Char)
  | [] => none
  | '"' :: rest => some ([], rest)
  | '\\' :: 'u' :: a :: b :: c :: d :: rest => do
    let value ← unit? a b c d
    let (units, after) ← stringUnits rest
    pure (.unit value :: units, after)
  | '\\' :: c :: rest => do
    let value ← shortEscape? c
    let (units, after) ← stringUnits rest
    pure (.char value :: units, after)
  | c :: rest =>
    if c.toNat < 0x20 then none
    else do
      let (units, after) ← stringUnits rest
      pure (.char c :: units, after)

/-- The characters of a string's elements; a unit that is half of a surrogate pair must stand
before its other half. -/
def joinUnits : List Unit16 → Option (List Char)
  | [] => some []
  | .char c :: rest => (joinUnits rest).map (c :: ·)
  | .unit high :: .unit low :: rest =>
    if 0xD800 ≤ high ∧ high ≤ 0xDBFF then
      if 0xDC00 ≤ low ∧ low ≤ 0xDFFF then
        (joinUnits rest).map
          (Char.ofNat (0x10000 + (high - 0xD800) * 0x400 + (low - 0xDC00)) :: ·)
      else none
    else if 0xDC00 ≤ high ∧ high ≤ 0xDFFF then none
    else (joinUnits (.unit low :: rest)).map (Char.ofNat high :: ·)
  | .unit value :: rest =>
    if 0xD800 ≤ value ∧ value ≤ 0xDFFF then none
    else (joinUnits rest).map (Char.ofNat value :: ·)

/-- A string after its opening quote. -/
def readString (chars : List Char) : Option (Option String × List Char) :=
  (stringUnits chars).map fun (units, rest) => ((joinUnits units).map String.ofList, rest)

/-! ### Numbers -/

/-- The leading digits and the rest. -/
def spanDigits (chars : List Char) : List Char × List Char :=
  (chars.takeWhile Char.isDigit, chars.dropWhile Char.isDigit)

/-- The part of a number after its point, when there is one. -/
def readFraction (chars : List Char) : Option (Option (List Char) × List Char) :=
  match chars with
  | '.' :: rest =>
    match spanDigits rest with
    | ([], _) => none
    | (digits, after) => some (some digits, after)
  | _ => some (none, chars)

/-- The exponent of a number, when there is one. -/
def readExponent (chars : List Char) : Option (Option (Bool × List Char) × List Char) :=
  match chars with
  | c :: rest =>
    if c == 'e' || c == 'E' then
      let (negative, digitsStart) := match rest with
        | '-' :: after => (true, after)
        | '+' :: after => (false, after)
        | _ => (false, rest)
      match spanDigits digitsStart with
      | ([], _) => none
      | (digits, after) => some (some (negative, digits), after)
    else some (none, chars)
  | [] => some (none, chars)

/-- A number after its minus sign. -/
def readUnsigned (negative : Bool) (chars : List Char) : Option (Numeral × List Char) := do
  let (whole, rest) ← match chars with
    | '0' :: rest => some (['0'], rest)
    | _ =>
      match spanDigits chars with
      | ([], _) => none
      | found => some found
  let (fraction, rest) ← readFraction rest
  let (exponent, rest) ← readExponent rest
  pure (⟨negative, whole, fraction, exponent⟩, rest)

/-- A number. -/
def readNumber (chars : List Char) : Option (Numeral × List Char) :=
  match chars with
  | '-' :: rest => readUnsigned true rest
  | _ => readUnsigned false chars

/-! ### Documents -/

mutual

/-- A value at the head of the characters, and what follows it. -/
def readValue : (fuel : Nat) → List Char → Option (Raw × List Char)
  | 0, _ => none
  | fuel + 1, chars =>
    match skipBlanks chars with
    | 'n' :: 'u' :: 'l' :: 'l' :: rest => some (.null, rest)
    | 't' :: 'r' :: 'u' :: 'e' :: rest => some (.bool true, rest)
    | 'f' :: 'a' :: 'l' :: 's' :: 'e' :: rest => some (.bool false, rest)
    | '"' :: rest => (readString rest).map fun (content, after) => (.string content, after)
    | '[' :: rest =>
      match skipBlanks rest with
      | ']' :: after => some (.array [], after)
      | inside => (readItems fuel inside).map fun (items, after) => (.array items, after)
    | '{' :: rest =>
      match skipBlanks rest with
      | '}' :: after => some (.object [], after)
      | inside => (readFields fuel inside).map fun (fields, after) => (.object fields, after)
    | other => (readNumber other).map fun (numeral, after) => (.number numeral, after)

/-- The items of an array up to its closing bracket. -/
def readItems : (fuel : Nat) → List Char → Option (List Raw × List Char)
  | 0, _ => none
  | fuel + 1, chars => do
    let (item, rest) ← readValue fuel chars
    match skipBlanks rest with
    | ']' :: after => pure ([item], after)
    | ',' :: more => do
      let (items, after) ← readItems fuel more
      pure (item :: items, after)
    | _ => none

/-- The fields of an object up to its closing brace. -/
def readFields : (fuel : Nat) → List Char → Option (List (Option String × Raw) × List Char)
  | 0, _ => none
  | fuel + 1, chars => do
    let afterQuote ← match skipBlanks chars with
      | '"' :: rest => some rest
      | _ => none
    let (name, rest) ← readString afterQuote
    let value ← match skipBlanks rest with
      | ':' :: after => some after
      | _ => none
    let (field, rest) ← readValue fuel value
    match skipBlanks rest with
    | '}' :: after => pure ([(name, field)], after)
    | ',' :: more => do
      let (fields, after) ← readFields fuel more
      pure ((name, field) :: fields, after)
    | _ => none

end

/-- Reads a whole document: one value, with blanks around it and nothing else. -/
def Raw.parse? (text : String) : Option Raw := do
  let chars := text.toList
  let (document, rest) ← readValue (2 * chars.length + 2) chars
  if (skipBlanks rest).isEmpty then pure document else none

end NodeStorage.Json
