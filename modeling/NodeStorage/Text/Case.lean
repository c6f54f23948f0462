/-
**Letter case beyond ASCII.**

`lowercase` writes a text in small letters. Every character has its own small form, with two rules
that a table alone cannot hold: the dotted capital I becomes an i and a combining dot, and a
capital sigma at the end of a word becomes the final sigma. A sigma ends a word when a cased letter
stands before it and none after it, marks and punctuation that do not part a word set aside.

`caseVariants` lists the spellings of a character that a comparison without case takes for the same.
-/

import NodeStorage.Text.Case.Table
import NodeStorage.Text.Category

namespace NodeStorage.Text

namespace CaseRow

/-- The code point that the row maps `code` to, when the row holds `code`. -/
def image? (row : CaseRow) (code : Nat) : Option Nat :=
  if row.first ≤ code ∧ code ≤ row.last ∧ (code - row.first) % row.stride = 0 then
    some ((code : Int) + row.offset).toNat
  else none

/-- The code point that the row maps to `code`, when there is one. -/
def preimage? (row : CaseRow) (code : Nat) : Option Nat :=
  let before := ((code : Int) - row.offset).toNat
  if row.image? before = some code then some before else none

end CaseRow

/-- The small form of a character: itself, or one or two others. -/
def lowerForm (c : Char) : List Char :=
  if c.toNat = 0x130 then ['i', Char.ofNat 0x307]
  else
    match lowerRows.findSome? fun row => row.image? c.toNat with
    | some code => [Char.ofNat code]
    | none => [c]

/-- Punctuation that may stand inside a word. -/
def innerPunctuation : List Nat :=
  [0x27, 0x2E, 0x3A, 0xB7, 0x387, 0x55F, 0x5F4, 0x2018, 0x2019, 0x2024, 0x2027, 0xFE13, 0xFE52,
   0xFE55, 0xFF07, 0xFF0E, 0xFF1A]

/-- Unicode's property `Case_Ignorable`. -/
def isCaseIgnorable (c : Char) : Bool :=
  match category c with
  | .nonspacingMark | .enclosingMark | .format | .modifierLetter | .modifierSymbol => true
  | _ => innerPunctuation.contains c.toNat

/-- Unicode's property `Cased`: small, capital and title-case letters. -/
def isCased (c : Char) : Bool :=
  isLowercase c || isUppercase c || category c == .titleLetter

/-- The next character that counts for the end of a word is a cased one. -/
def meetsCased (chars : List Char) : Bool :=
  match chars.dropWhile isCaseIgnorable with
  | [] => false
  | c :: _ => isCased c

/-- The small forms of the characters that follow `before`, which is kept last one first. -/
def lowercaseAfter (before : List Char) : List Char → List Char
  | [] => []
  | c :: rest =>
    let form :=
      if c.toNat = 0x3A3 then
        if meetsCased before && !meetsCased rest then [Char.ofNat 0x3C2] else [Char.ofNat 0x3C3]
      else lowerForm c
    form ++ lowercaseAfter (c :: before) rest

/-- The text in small letters. -/
def lowercase (text : String) : String :=
  String.ofList (lowercaseAfter [] text.toList)

/-- The text with ASCII capitals made small and all else kept. -/
def asciiLowercase (chars : List Char) : List Char :=
  chars.map Char.toLower

/-- The letter that stands for all spellings of a character. -/
def caseFold (code : Nat) : Nat :=
  (foldRows.findSome? fun row => row.image? code).getD code

/-- The code points that a comparison without case takes for `code`. -/
def caseVariants (code : Nat) : List Nat :=
  let folded := caseFold code
  folded :: foldRows.filterMap fun row => row.preimage? folded

end NodeStorage.Text
