/-
**Sets of characters in patterns.**

A pattern names sets of characters: a range, the digits of any script, everything but a set, what
two sets have in common. Such a set is a tree, and membership is decided by a walk over it. A set
that ignores case holds a character when it holds any spelling of it.
-/

import NodeStorage.Text.Property
import NodeStorage.Text.Script

namespace NodeStorage.Pattern

/-- A set of characters. -/
inductive CharSet where
  | empty
  /-- The characters from one code point to another, both included. -/
  | range (first last : Nat)
  /-- The decimal digits of any script. -/
  | digit
  /-- White space. -/
  | space
  /-- The characters of words. -/
  | word
  /-- The characters of some general categories. -/
  | categories (names : List Text.Category)
  /-- The characters of the script with a code. -/
  | script (code : String)
  /-- The characters that have a property. -/
  | property (name : Text.Property)
  | union (left right : CharSet)
  | intersection (left right : CharSet)
  | difference (left right : CharSet)
  | complement (set : CharSet)
  /-- All spellings of the set's characters, in any script. -/
  | anyCase (set : CharSet)
  /-- The set with ASCII letters in both cases. -/
  | anyAsciiCase (set : CharSet)
  deriving Repr, DecidableEq, Inhabited

namespace CharSet

/-- The other spellings of an ASCII letter. -/
def asciiVariants (code : Nat) : List Nat :=
  if 0x41 ≤ code ∧ code ≤ 0x5A then [code, code + 0x20]
  else if 0x61 ≤ code ∧ code ≤ 0x7A then [code, code - 0x20]
  else [code]

/-- Membership of a code point. -/
def holds : CharSet → Nat → Bool
  | .empty, _ => false
  | .range first last, code => first ≤ code && code ≤ last
  | .digit, code => Text.isDecimalNumber (Char.ofNat code)
  | .space, code => Text.isWhiteSpace (Char.ofNat code)
  | .word, code => Text.isWordCharacter (Char.ofNat code)
  | .categories names, code => names.contains (Text.category (Char.ofNat code))
  | .script name, code => Text.script (Char.ofNat code) == name
  | .property name, code => name.holds (Char.ofNat code)
  | .union left right, code => left.holds code || right.holds code
  | .intersection left right, code => left.holds code && right.holds code
  | .difference left right, code => left.holds code && !right.holds code
  | .complement set, code => !set.holds code
  | .anyCase set, code => (Text.caseVariants code).any fun other => set.holds other
  | .anyAsciiCase set, code => (asciiVariants code).any fun other => set.holds other

/-- Membership of a character. -/
def contains (set : CharSet) (c : Char) : Bool :=
  set.holds c.toNat

/-- The set of one character. -/
def single (c : Char) : CharSet :=
  .range c.toNat c.toNat

/-- The union of ranges. -/
def ofRanges (ranges : List (Nat × Nat)) : CharSet :=
  ranges.foldl (fun set range => .union set (.range range.1 range.2)) .empty

/-- The ASCII digits. -/
def asciiDigit : CharSet := .range 0x30 0x39

/-- The ASCII white space of patterns. -/
def asciiSpace : CharSet := ofRanges [(0x09, 0x0D), (0x20, 0x20)]

/-- The ASCII characters of words. -/
def asciiWord : CharSet := ofRanges [(0x30, 0x39), (0x41, 0x5A), (0x5F, 0x5F), (0x61, 0x7A)]

/-- The ASCII sets that have a name. -/
def namedAscii : List (String × List (Nat × Nat)) :=
  [("alnum", [(0x30, 0x39), (0x41, 0x5A), (0x61, 0x7A)]),
   ("alpha", [(0x41, 0x5A), (0x61, 0x7A)]),
   ("ascii", [(0x00, 0x7F)]),
   ("blank", [(0x09, 0x09), (0x20, 0x20)]),
   ("cntrl", [(0x00, 0x1F), (0x7F, 0x7F)]),
   ("digit", [(0x30, 0x39)]),
   ("graph", [(0x21, 0x7E)]),
   ("lower", [(0x61, 0x7A)]),
   ("print", [(0x20, 0x7E)]),
   ("punct", [(0x21, 0x2F), (0x3A, 0x40), (0x5B, 0x60), (0x7B, 0x7E)]),
   ("space", [(0x09, 0x0D), (0x20, 0x20)]),
   ("upper", [(0x41, 0x5A)]),
   ("word", [(0x30, 0x39), (0x41, 0x5A), (0x5F, 0x5F), (0x61, 0x7A)]),
   ("xdigit", [(0x30, 0x39), (0x41, 0x46), (0x61, 0x66)])]

/-- The ASCII set of a name. -/
def ofAsciiName? (name : String) : Option CharSet :=
  (namedAscii.find? fun entry => entry.1 == name).map fun entry => ofRanges entry.2

/-! ### Sets named by a property -/

/-- The categories that a name stands for; names are in small letters and without separators. -/
def categoryNames : List (String × String × List Text.Category) :=
  [("c", "other", [.control, .format, .surrogate, .privateUse, .unassigned]),
   ("cc", "control", [.control]), ("cf", "format", [.format]),
   ("cn", "unassigned", [.unassigned]), ("co", "privateuse", [.privateUse]),
   ("l", "letter", [.upperLetter, .lowerLetter, .titleLetter, .modifierLetter, .otherLetter]),
   ("lc", "casedletter", [.upperLetter, .lowerLetter, .titleLetter]),
   ("ll", "lowercaseletter", [.lowerLetter]), ("lm", "modifierletter", [.modifierLetter]),
   ("lo", "otherletter", [.otherLetter]), ("lt", "titlecaseletter", [.titleLetter]),
   ("lu", "uppercaseletter", [.upperLetter]),
   ("m", "mark", [.nonspacingMark, .spacingMark, .enclosingMark]),
   ("mc", "spacingmark", [.spacingMark]), ("me", "enclosingmark", [.enclosingMark]),
   ("mn", "nonspacingmark", [.nonspacingMark]),
   ("n", "number", [.decimalNumber, .letterNumber, .otherNumber]),
   ("nd", "decimalnumber", [.decimalNumber]), ("nl", "letternumber", [.letterNumber]),
   ("no", "othernumber", [.otherNumber]),
   ("p", "punctuation",
     [.connector, .dash, .opening, .closing, .initialQuote, .finalQuote, .otherPunctuation]),
   ("pc", "connectorpunctuation", [.connector]), ("pd", "dashpunctuation", [.dash]),
   ("pe", "closepunctuation", [.closing]), ("pf", "finalpunctuation", [.finalQuote]),
   ("pi", "initialpunctuation", [.initialQuote]), ("po", "otherpunctuation", [.otherPunctuation]),
   ("ps", "openpunctuation", [.opening]),
   ("s", "symbol", [.mathSymbol, .currencySymbol, .modifierSymbol, .otherSymbol]),
   ("sc", "currencysymbol", [.currencySymbol]), ("sk", "modifiersymbol", [.modifierSymbol]),
   ("sm", "mathsymbol", [.mathSymbol]), ("so", "othersymbol", [.otherSymbol]),
   ("z", "separator", [.spaceSeparator, .lineSeparator, .paragraphSeparator]),
   ("zl", "lineseparator", [.lineSeparator]), ("zp", "paragraphseparator", [.paragraphSeparator]),
   ("zs", "spaceseparator", [.spaceSeparator])]

/-- Other words for some of the categories. -/
def categorySynonyms : List (String × String) :=
  [("cntrl", "cc"), ("digit", "nd"), ("punct", "p"), ("combiningmark", "m")]

/-- A name's ASCII letters and signs, without case, blanks, hyphens and low lines. -/
def plainName (chars : List Char) : String :=
  String.ofList ((Text.asciiLowercase chars).filter fun c =>
    c.toNat < 0x80 && c != ' ' && c != '-' && c != '_')

/-- A property's name in its plain form; an `is` in front of it does not count, unless nothing but
a `c` follows. -/
def propertyName (chars : List Char) : String :=
  match Text.asciiLowercase chars with
  | 'i' :: 's' :: rest => if plainName rest = "c" then "isc" else plainName rest
  | others => plainName others

/-- The set of a general category, or of one of the three names that say how far a code point is
taken. -/
def ofCategoryName? (name : String) : Option CharSet :=
  if name = "any" then some (.range 0 0x10FFFF)
  else if name = "ascii" then some (.range 0 0x7F)
  else if name = "assigned" then some (.complement (.categories [.unassigned]))
  else
    let short := ((categorySynonyms.find? fun entry => entry.1 == name).map Prod.snd).getD name
    (categoryNames.find? fun entry => entry.1 == short || entry.2.1 == short).map fun entry =>
      .categories entry.2.2

/-- The set of a script. -/
def ofScriptName? (name : String) : Option CharSet :=
  (Text.Script.ofName? name).map .script

/-- The set that a name alone stands for: a property, a category or a script, whichever has the
name first. -/
def ofName? (name : String) : Option CharSet :=
  (((Text.Property.ofName? name).map .property).or (ofCategoryName? name)).or (ofScriptName? name)

/-- The set of the characters for which a property has a value. -/
def ofValue? (property value : String) : Option CharSet :=
  if ["gc", "generalcategory"].contains property then ofCategoryName? value
  else if ["sc", "script"].contains property then ofScriptName? value
  else none

end CharSet

end NodeStorage.Pattern
