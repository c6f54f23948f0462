/-
**White space.**

A character is white space when Unicode gives it the property `White_Space`: the no-break space and
the ideographic space are, the zero-width space and the byte-order mark are not. Trimming takes
such characters off both ends of a text and leaves the inside alone.
-/

namespace NodeStorage.Text

/-- Unicode's property `White_Space`. -/
def isWhiteSpace (c : Char) : Bool :=
  let code := c.toNat
  (0x09 ≤ code && code ≤ 0x0D) || code == 0x20 || code == 0x85 || code == 0xA0 || code == 0x1680 ||
    (0x2000 ≤ code && code ≤ 0x200A) || code == 0x2028 || code == 0x2029 || code == 0x202F ||
    code == 0x205F || code == 0x3000

/-- The characters without the leading ones that satisfy `drop`. -/
def trimLeft (drop : Char → Bool) (chars : List Char) : List Char :=
  chars.dropWhile drop

/-- The characters without the trailing ones that satisfy `drop`. -/
def trimRight (drop : Char → Bool) (chars : List Char) : List Char :=
  (chars.reverse.dropWhile drop).reverse

/-- The text without white space on either end. -/
def trim (text : String) : String :=
  String.ofList (trimRight isWhiteSpace (trimLeft isWhiteSpace text.toList))

/-- The text without white space on its left end. -/
def trimStart (chars : List Char) : List Char :=
  trimLeft isWhiteSpace chars

/-- Nothing but white space. -/
def isBlank (text : String) : Bool :=
  text.toList.all isWhiteSpace

/-- The trimmed text, when anything is left of it. -/
def present? (text : Option String) : Option String :=
  match text with
  | none => none
  | some raw =>
    let kept := trim raw
    if kept.isEmpty then none else some kept

end NodeStorage.Text
