/-
**General categories of characters.**

Every code point has one general category: an upper-case letter, a combining mark, a control
character, a code point that stands for nothing. The rules that ask for more than ASCII (digits and
words in a pattern, what is printed as it is, which letters have a case) are stated on them.
-/

import NodeStorage.Text.Category.Table
import NodeStorage.Text.Run

namespace NodeStorage.Text

/-- Unicode's general categories. -/
inductive Category where
  | upperLetter | lowerLetter | titleLetter | modifierLetter | otherLetter
  | nonspacingMark | spacingMark | enclosingMark
  | decimalNumber | letterNumber | otherNumber
  | connector | dash | opening | closing | initialQuote | finalQuote | otherPunctuation
  | mathSymbol | currencySymbol | modifierSymbol | otherSymbol
  | spaceSeparator | lineSeparator | paragraphSeparator
  | control | format | surrogate | privateUse | unassigned
  deriving DecidableEq, Repr, Inhabited

namespace Category

/-- The two-letter abbreviation of each category. -/
def abbreviations : List (String × Category) :=
  [("Lu", .upperLetter), ("Ll", .lowerLetter), ("Lt", .titleLetter), ("Lm", .modifierLetter),
   ("Lo", .otherLetter), ("Mn", .nonspacingMark), ("Mc", .spacingMark), ("Me", .enclosingMark),
   ("Nd", .decimalNumber), ("Nl", .letterNumber), ("No", .otherNumber), ("Pc", .connector),
   ("Pd", .dash), ("Ps", .opening), ("Pe", .closing), ("Pi", .initialQuote), ("Pf", .finalQuote),
   ("Po", .otherPunctuation), ("Sm", .mathSymbol), ("Sc", .currencySymbol),
   ("Sk", .modifierSymbol), ("So", .otherSymbol), ("Zs", .spaceSeparator), ("Zl", .lineSeparator),
   ("Zp", .paragraphSeparator), ("Cc", .control), ("Cf", .format), ("Cs", .surrogate),
   ("Co", .privateUse), ("Cn", .unassigned)]

/-- The category that a two-letter abbreviation names. -/
def ofAbbreviation (name : String) : Category :=
  ((abbreviations.find? fun entry => entry.1 == name).map Prod.snd).getD .unassigned

/-- The runs of all code points, in order. -/
def runs : Array (Run Category) :=
  Run.readTable 2 ofAbbreviation categoryRuns

end Category

/-- The general category of a character. -/
def category (c : Char) : Category :=
  Run.find Category.runs c.toNat

/-- Membership of a code point in a list of closed ranges. -/
def inRanges (ranges : List (Nat × Nat)) (code : Nat) : Bool :=
  ranges.any fun range => range.1 ≤ code && code ≤ range.2

/-- A letter of any kind. -/
def isLetter (c : Char) : Bool :=
  match category c with
  | .upperLetter | .lowerLetter | .titleLetter | .modifierLetter | .otherLetter => true
  | _ => false

/-- A combining mark of any kind. -/
def isMark (c : Char) : Bool :=
  match category c with
  | .nonspacingMark | .spacingMark | .enclosingMark => true
  | _ => false

/-- A decimal digit of any script. -/
def isDecimalNumber (c : Char) : Bool :=
  category c == .decimalNumber

/-- The enclosed letters that are symbols by category and alphabetic nevertheless. -/
def enclosedLetters : List (Nat × Nat) :=
  [(0x24B6, 0x24E9), (0x1F130, 0x1F149), (0x1F150, 0x1F169), (0x1F170, 0x1F189)]

/-- The runs of the combining marks that count as alphabetic, and of all else. -/
def alphabeticMarks : Array (Run Bool) :=
  Run.readTable 1 (fun label => label == "y") alphabeticMarkRuns

/-- Unicode's property `Alphabetic`: letters, numbers made of letters, enclosed letters, and the
marks that are written for a vowel. -/
def isAlphabetic (c : Char) : Bool :=
  isLetter c || category c == .letterNumber || inRanges enclosedLetters c.toNat ||
    Run.find alphabeticMarks c.toNat

/-- The small letters that are not so by category. -/
def otherLowercase : List (Nat × Nat) :=
  [(0xAA, 0xAA), (0xBA, 0xBA), (0x2B0, 0x2B8), (0x2C0, 0x2C1), (0x2E0, 0x2E4), (0x345, 0x345),
   (0x37A, 0x37A), (0x10FC, 0x10FC), (0x1D2C, 0x1D6A), (0x1D78, 0x1D78), (0x1D9B, 0x1DBF),
   (0x2071, 0x2071), (0x207F, 0x207F), (0x2090, 0x209C), (0x2170, 0x217F), (0x24D0, 0x24E9),
   (0x2C7C, 0x2C7D), (0xA69C, 0xA69D), (0xA770, 0xA770), (0xA7F2, 0xA7F4), (0xA7F8, 0xA7F9),
   (0xAB5C, 0xAB5F), (0xAB69, 0xAB69), (0x10780, 0x10780), (0x10783, 0x10785),
   (0x10787, 0x107B0), (0x107B2, 0x107BA), (0x1E030, 0x1E06D)]

/-- Unicode's property `Lowercase`. -/
def isLowercase (c : Char) : Bool :=
  category c == .lowerLetter || inRanges otherLowercase c.toNat

/-- The capitals that are not so by category. -/
def otherUppercase : List (Nat × Nat) :=
  [(0x2160, 0x216F), (0x24B6, 0x24CF), (0x1F130, 0x1F149), (0x1F150, 0x1F169),
   (0x1F170, 0x1F189)]

/-- Unicode's property `Uppercase`. -/
def isUppercase (c : Char) : Bool :=
  category c == .upperLetter || inRanges otherUppercase c.toNat

/-- A character of a word: a letter, a mark, a digit, a connector such as the low line, or one of
the two joiners. -/
def isWordCharacter (c : Char) : Bool :=
  isLetter c || isMark c || isDecimalNumber c ||
    category c == .letterNumber || category c == .connector ||
    c.toNat == 0x200C || c.toNat == 0x200D || inRanges enclosedLetters c.toNat

/-- The characters that extend the one before them without being nonspacing or enclosing marks. -/
def otherExtenders : List (Nat × Nat) :=
  [(0x09BE, 0x09BE), (0x09D7, 0x09D7), (0x0B3E, 0x0B3E), (0x0B57, 0x0B57), (0x0BBE, 0x0BBE),
   (0x0BD7, 0x0BD7), (0x0CC0, 0x0CC0), (0x0CC2, 0x0CC2), (0x0CC7, 0x0CC8), (0x0CCA, 0x0CCB),
   (0x0CD5, 0x0CD6), (0x0D3E, 0x0D3E), (0x0D57, 0x0D57), (0x0DCF, 0x0DCF), (0x0DDF, 0x0DDF),
   (0x1B35, 0x1B35), (0x200C, 0x200C), (0x302E, 0x302F), (0xFF9E, 0xFF9F), (0x1133E, 0x1133E),
   (0x11357, 0x11357), (0x114B0, 0x114B0), (0x114BD, 0x114BD), (0x115AF, 0x115AF),
   (0x11930, 0x11930), (0x1D165, 0x1D165), (0x1D16E, 0x1D172), (0xE0020, 0xE007F)]

/-- Unicode's property `Grapheme_Extend`: the character is drawn with the one before it. -/
def extendsGrapheme (c : Char) : Bool :=
  category c == .nonspacingMark || category c == .enclosingMark ||
    inRanges otherExtenders c.toNat

/-- A character that is shown as it is: assigned, visible, and no separator but the plain space. -/
def isPrintable (c : Char) : Bool :=
  match category c with
  | .control | .format | .surrogate | .privateUse | .unassigned => false
  | .spaceSeparator | .lineSeparator | .paragraphSeparator => c == ' '
  | _ => true

end NodeStorage.Text
