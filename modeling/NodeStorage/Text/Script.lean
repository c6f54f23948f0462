/-
**Scripts of characters.**

Every assigned code point belongs to one script: a script proper such as Greek, the characters that
all scripts share, or the marks that take the script of what they stand on. A script goes by a
four-letter code and by one or more names.
-/

import NodeStorage.Text.Run
import NodeStorage.Text.Script.Table

namespace NodeStorage.Text

namespace Script

/-- The runs of all code points, in order. -/
def runs : Array (Run String) :=
  Run.readTable 4 id scriptRuns

/-- The code of the script with a name or a code, either in small letters and without
separators. -/
def ofName? (name : String) : Option String :=
  (scriptNames.find? fun entry =>
    entry.1.toLower == name || entry.2.contains name).map Prod.fst

end Script

/-- The code of the script that a character belongs to. -/
def script (c : Char) : String :=
  Run.find Script.runs c.toNat

end NodeStorage.Text
