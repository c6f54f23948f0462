/-
**Properties of characters that go by a name.**

Besides its category and its script a character has or has not some properties, such as being a
small letter by use and not only by category. Names are given in small letters and without
separators.
-/

import NodeStorage.Text.Case
import NodeStorage.Text.WhiteSpace

namespace NodeStorage.Text

/-- The properties that can be asked for. -/
inductive Property where
  | alphabetic | lowercase | uppercase | cased | caseIgnorable | graphemeExtend | whiteSpace
  | hexDigit | asciiHexDigit
  deriving DecidableEq, Repr, Inhabited

namespace Property

/-- The names of the properties. -/
def names : List (Property × List String) :=
  [(.alphabetic, ["alphabetic", "alpha"]), (.lowercase, ["lowercase", "lower"]),
   (.uppercase, ["uppercase", "upper"]), (.cased, ["cased"]),
   (.caseIgnorable, ["caseignorable", "ci"]), (.graphemeExtend, ["graphemeextend", "grext"]),
   (.whiteSpace, ["whitespace", "wspace", "space"]), (.hexDigit, ["hexdigit", "hex"]),
   (.asciiHexDigit, ["asciihexdigit", "ahex"])]

/-- The property of a name. -/
def ofName? (name : String) : Option Property :=
  (names.find? fun entry => entry.2.contains name).map Prod.fst

/-- The digits and letters of full width that serve as hexadecimal digits. -/
def wideHexDigits : List (Nat × Nat) :=
  [(0xFF10, 0xFF19), (0xFF21, 0xFF26), (0xFF41, 0xFF46)]

/-- The character has the property. -/
def holds : Property → Char → Bool
  | .alphabetic, c => isAlphabetic c
  | .lowercase, c => isLowercase c
  | .uppercase, c => isUppercase c
  | .cased, c => isCased c
  | .caseIgnorable, c => isCaseIgnorable c
  | .graphemeExtend, c => extendsGrapheme c
  | .whiteSpace, c => isWhiteSpace c
  | .hexDigit, c => (hexDigit? c).isSome || inRanges wideHexDigits c.toNat
  | .asciiHexDigit, c => (hexDigit? c).isSome

end Property

end NodeStorage.Text
