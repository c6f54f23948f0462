/-
**Gauges.**

A gauge holds one whole number for every value of its label. Reading a value that was never set
starts its series at zero. The numbers are signed 64-bit ones, so a larger count wraps round.

Gauges are published as text, one line for each series in the order of the labels' bytes, after a
line of help and a line with the type; a gauge without a series is not published at all.
-/

import NodeStorage.Decimal.Shortest

namespace NodeStorage.Metrics

/-- A gauge with one label. -/
structure Gauge where
  name : String
  help : String
  label : String
  /-- The series by the value of the label, sorted by it. -/
  series : List (String × Int)
  deriving DecidableEq, Repr

/-- A number as a signed 64-bit one. -/
def wrapSigned (count : Int) : Int :=
  count.bmod 18446744073709551616

/-- Puts a number into sorted series. -/
def putSeries (key : String) (value : Int) : List (String × Int) → List (String × Int)
  | [] => [(key, value)]
  | (name, old) :: rest =>
    if key < name then (key, value) :: (name, old) :: rest
    else if key = name then (key, value) :: rest
    else (name, old) :: putSeries key value rest

/-- The series of a label, if there is one. -/
def findSeries (key : String) (series : List (String × Int)) : Option Int :=
  (series.find? fun entry => entry.1 == key).map Prod.snd

namespace Gauge

/-- The gauge with a new number for a label. -/
def set (gauge : Gauge) (key : String) (count : Int) : Gauge :=
  { gauge with series := putSeries key (wrapSigned count) gauge.series }

/-- The number of a label; its series starts here if it has not yet. -/
def get (gauge : Gauge) (key : String) : Int × Gauge :=
  match findSeries key gauge.series with
  | some value => (value, gauge)
  | none => (0, gauge.set key 0)

/-! ### Publishing -/

/-- A number as it is published: as a double, in plain digits. -/
def publishedStyle : Decimal.DecimalStyle :=
  ⟨-400, 400, [], []⟩

/-- The text of a number. -/
def writeNumber (value : Int) : List Char :=
  match Decimal.Double.ofNat? value.natAbs with
  | none => []
  | some magnitude =>
    publishedStyle.write (if value < 0 then magnitude.neg else magnitude)

/-- A label's character in double quotes. -/
def escapeLabel (c : Char) : List Char :=
  if c = '\\' then ['\\', '\\']
  else if c = '\n' then ['\\', 'n']
  else if c = '"' then ['\\', '"']
  else [c]

/-- A help text's character. -/
def escapeHelp (c : Char) : List Char :=
  if c = '\\' then ['\\', '\\']
  else if c = '\n' then ['\\', 'n']
  else [c]

/-- The line of one series. -/
def seriesLine (gauge : Gauge) (entry : String × Int) : List Char :=
  gauge.name.toList ++ '{' :: gauge.label.toList ++ '=' :: '"' ::
    entry.1.toList.flatMap escapeLabel ++ '"' :: '}' :: ' ' :: writeNumber entry.2 ++ ['\n']

/-- The gauge as text. -/
def exposition (gauge : Gauge) : String :=
  if gauge.series.isEmpty then ""
  else
    String.ofList
      ("# HELP ".toList ++ gauge.name.toList ++ ' ' :: gauge.help.toList.flatMap escapeHelp ++
        "\n# TYPE ".toList ++ gauge.name.toList ++ " gauge\n".toList ++
        gauge.series.flatMap gauge.seriesLine)

end Gauge

/-- How many devices the last scan of each node found. -/
def discoveredDevices : Gauge :=
  ⟨"fusion_access_discovered_devices", "Number of devices found by the last discovery scan",
    "node", []⟩

end NodeStorage.Metrics
