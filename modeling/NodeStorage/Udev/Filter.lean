/-
**Which lines of the udev monitor count.**

A line counts when it has a part that one of the wanted patterns describes, and no part that one of
the unwanted ones describes. By default devices that come or go count, and device-mapper nodes,
which change whenever a multipath map does, do not.
-/

import NodeStorage.Error
import NodeStorage.Pattern.Reader
import NodeStorage.Pattern.Search

namespace NodeStorage.Udev

/-- The patterns that decide which lines count. -/
structure Filter where
  wanted : List Pattern
  unwanted : List Pattern
  deriving Repr

namespace Filter

/-- The patterns of the lines that count, unless others are given. -/
def defaultWanted : List String := ["(?i)add", "(?i)remove"]

/-- The patterns of the lines that do not count, unless others are given. -/
def defaultUnwanted : List String := ["(?i)dm-[0-9]+"]

/-- Reads a list of patterns. -/
def readPatterns (texts : List String) : Outcome (List Pattern) :=
  texts.mapM fun text => (Pattern.parse text).mapError fun cause => .pattern cause.message

/-- The filter of two lists of patterns. -/
def ofTexts (wanted unwanted : List String) : Outcome Filter := do
  let wanted ← readPatterns wanted
  let unwanted ← readPatterns unwanted
  pure ⟨wanted, unwanted⟩

/-- The filter of the default patterns. -/
def standard : Filter :=
  let patterns (texts : List String) := texts.filterMap fun text => (Pattern.parse text).toOption
  ⟨patterns defaultWanted, patterns defaultUnwanted⟩

/-- The line counts. -/
def accepts (filter : Filter) (line : String) : Bool :=
  (filter.wanted.any fun pattern => pattern.occursIn line) &&
    !filter.unwanted.any fun pattern => pattern.occursIn line

end Filter

/-- Whether a line counts for two lists of patterns. -/
def lineCounts (line : String) (wanted unwanted : List String) : Outcome Bool :=
  (Filter.ofTexts wanted unwanted).map fun filter => filter.accepts line

end NodeStorage.Udev
