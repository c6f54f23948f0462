/-
**Searching a text for a pattern.**

A search follows all ways through a pattern at once: it starts from a set of gaps and computes the
set of gaps that the pattern leads to. A set is a list of truth values, one for each gap. One
character moves a set one gap on, conditions thin it out, alternatives are united, and a repetition
goes on until the set stops growing, which it does before it has gone round once for every gap.
-/

import NodeStorage.Pattern.Basic

namespace NodeStorage.Pattern

/-- A set of gaps: one truth value for each. -/
abbrev GapSet := List Bool

/-- The gaps of a text whose last character so far is `before`. -/
def gapsAfter (before : Option Char) : List Char → List Gap
  | [] => [⟨before, none⟩]
  | c :: rest => ⟨before, some c⟩ :: gapsAfter (some c) rest

/-- The gaps of a text, one more than it has characters. -/
def gaps (text : List Char) : List Gap :=
  gapsAfter none text

/-- The gaps that are in one set or the other. -/
def unite (left right : GapSet) : GapSet :=
  List.zipWith (· || ·) left right

/-- The gaps after one character of the set, from the gaps in `places`. -/
def advance (set : CharSet) (text : List Char) (places : GapSet) : GapSet :=
  false :: List.zipWith (fun c here => here && set.contains c) text places

/-- The gaps in the set at which the condition holds. -/
def keep (question : Condition) (letters : CharSet) (text : List Char) (places : GapSet) : GapSet :=
  List.zipWith (fun gap here => here && question.holds letters gap) (gaps text) places

/-- The set together with what up to `rounds` steps add to it. -/
def saturate (step : GapSet → GapSet) : (rounds : Nat) → GapSet → GapSet
  | 0, places => places
  | rounds + 1, places =>
    let grown := unite places (step places)
    if grown = places then places else saturate step rounds grown

/-- The set after exactly `times` steps. -/
def iterate (step : GapSet → GapSet) : (times : Nat) → GapSet → GapSet
  | 0, places => places
  | times + 1, places => if places.any id then iterate step times (step places) else places

/-- The gaps that the pattern leads to from the gaps in the set. -/
def reach (text : List Char) : Pattern → GapSet → GapSet
  | .empty, places => places
  | .one set, places => advance set text places
  | .condition question letters, places => keep question letters text places
  | .next first second, places => reach text second (reach text first places)
  | .either first second, places => unite (reach text first places) (reach text second places)
  | .repeated least most pattern, places =>
    let step := reach text pattern
    let rounds := match most with
      | some limit => limit - least
      | none => text.length + 1
    saturate step rounds (iterate step least places)

/-- The pattern describes some part of the text. -/
def occursIn (pattern : Pattern) (text : String) : Bool :=
  let chars := text.toList
  (reach chars pattern (List.replicate (chars.length + 1) true)).any id

end NodeStorage.Pattern
