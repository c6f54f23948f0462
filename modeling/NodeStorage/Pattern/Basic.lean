/-
**Patterns.**

A pattern describes texts: one character of a set, one pattern after another, one of two, a pattern
repeated. It may also ask about its surroundings without taking a character, such as whether a word
ends here. A place in a text is a gap between two characters, and a pattern leads from gaps to gaps.
-/

import NodeStorage.Pattern.CharSet

namespace NodeStorage

namespace Pattern

/-- A gap between two characters of a text, or at one of its ends. -/
structure Gap where
  before : Option Char
  after : Option Char
  deriving DecidableEq, Repr

/-- What a pattern may ask about a gap. -/
inductive Condition where
  | textStart
  | textEnd
  | lineStart
  | lineEnd
  /-- The start of a line where carriage returns end lines too. -/
  | anyLineStart
  /-- The end of a line where carriage returns end lines too. -/
  | anyLineEnd
  | wordBoundary
  | noWordBoundary
  | wordStart
  | wordEnd
  /-- No character of a word stands before. -/
  | wordStartHalf
  /-- No character of a word stands after. -/
  | wordEndHalf
  deriving DecidableEq, Repr

end Pattern

/-- A description of texts. -/
inductive Pattern where
  | empty
  | one (set : Pattern.CharSet)
  /-- A condition on the gap; words are made of the characters of the set. -/
  | condition (question : Pattern.Condition) (letters : Pattern.CharSet)
  | next (first second : Pattern)
  | either (first second : Pattern)
  /-- At least `least` times, and at most `most` times if there is a limit. -/
  | repeated (least : Nat) (most : Option Nat) (pattern : Pattern)
  deriving Repr, DecidableEq, Inhabited

namespace Pattern

/-- The answer at a gap. -/
def Condition.holds (letters : CharSet) (gap : Gap) : Condition → Bool
  | .textStart => gap.before.isNone
  | .textEnd => gap.after.isNone
  | .lineStart => gap.before.isNone || gap.before == some '\n'
  | .lineEnd => gap.after.isNone || gap.after == some '\n'
  | .anyLineStart =>
    gap.before.isNone || gap.before == some '\n' ||
      (gap.before == some '\r' && gap.after != some '\n')
  | .anyLineEnd =>
    gap.after.isNone || gap.after == some '\r' ||
      (gap.after == some '\n' && gap.before != some '\r')
  | .wordBoundary => gap.before.any letters.contains != gap.after.any letters.contains
  | .noWordBoundary => gap.before.any letters.contains == gap.after.any letters.contains
  | .wordStart => !gap.before.any letters.contains && gap.after.any letters.contains
  | .wordEnd => gap.before.any letters.contains && !gap.after.any letters.contains
  | .wordStartHalf => !gap.before.any letters.contains
  | .wordEndHalf => !gap.after.any letters.contains

/-- The patterns one after another. -/
def inOrder : List Pattern → Pattern
  | [] => .empty
  | [only] => only
  | first :: rest => .next first (inOrder rest)

/-- One of the patterns. -/
def anyOf : List Pattern → Pattern
  | [] => .one .empty
  | [only] => only
  | first :: rest => .either first (anyOf rest)

/-- How many single steps a pattern has when its repetitions are written out. -/
def size : Pattern → Nat
  | .empty => 1
  | .one _ => 1
  | .condition _ _ => 1
  | .next first second => first.size + second.size
  | .either first second => first.size + second.size + 1
  | .repeated least most pattern => pattern.size * max (least + 1) (most.getD 0) + 1

end Pattern

end NodeStorage
