/-
**Parts of a text.**

A text is cut at a separator into the parts between, one more than there are separators.
-/

namespace NodeStorage.Text

/-- The parts of a text between the separators, one more than there are separators. -/
def splitAt (separator : Char) (chars : List Char) : List (List Char) :=
  match chars with
  | [] => [[]]
  | c :: rest =>
    if c = separator then [] :: splitAt separator rest
    else
      match splitAt separator rest with
      | [] => [[c]]
      | part :: parts => (c :: part) :: parts

end NodeStorage.Text
