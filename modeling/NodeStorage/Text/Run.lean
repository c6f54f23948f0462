/-
**Properties of code points, run by run.**

A property that gives every code point a label is kept as a list of runs: a label, and how many
neighbouring code points have it. Written down, a run is the label's letters and the count in
hexadecimal, and the runs are parted by blanks. `Run.find` looks a code point up by halving.
-/

import NodeStorage.Text.Integer

namespace NodeStorage.Text

/-- Neighbouring code points of one label, by the first of them. -/
structure Run (α : Type) where
  first : Nat
  label : α
  deriving Repr, Inhabited

namespace Run

variable {α : Type}

/-- Reads one run, its label `width` letters long. -/
def read (width : Nat) (label : String → α) (word : String) : α × Nat :=
  let chars := word.toList
  (label (String.ofList (chars.take width)),
    (chars.drop width).foldl (fun value c => value * 16 + (hexDigit? c).getD 0) 0)

/-- The runs, each of which starts where the one before it ends. -/
def layOut (start : Nat) : List (α × Nat) → List (Run α)
  | [] => []
  | (label, count) :: rest => ⟨start, label⟩ :: layOut (start + count) rest

/-- Reads a table of runs whose labels are `width` letters long. -/
def readTable (width : Nat) (label : String → α) (table : String) : Array (Run α) :=
  (layOut 0 ((table.splitOn " ").map (read width label))).toArray

/-- The last position from `low` up to but not including `high` whose run starts at or before
`code`, by halving. -/
def locate [Inhabited α] (table : Array (Run α)) (code : Nat) : (fuel low high : Nat) → Nat
  | 0, low, _ => low
  | fuel + 1, low, high =>
    if high ≤ low + 1 then low
    else
      let middle := (low + high) / 2
      if (table.getD middle default).first ≤ code then locate table code fuel middle high
      else locate table code fuel low middle

/-- The label of a code point. -/
def find [Inhabited α] (table : Array (Run α)) (code : Nat) : α :=
  (table.getD (locate table code table.size 0 table.size) default).label

end Run

end NodeStorage.Text
