/-
**The device listing.**

The listing tool prints a forest: devices with the devices nested under them, each a record of
columns. Older releases print flags as digits in quotes and sizes as texts, newer ones print
booleans and numbers, so these columns are kept as they come and read by `flag` and `size`. Texts
are trimmed, a missing one is empty, and a device without a kernel name goes by its own name.

`flatten` lists a forest in pre-order: every device stands before the devices nested under it, and
keeps their kernel names.
-/

import NodeStorage.Device.Block
import NodeStorage.Text.Utf8
import NodeStorage.Text.WhiteSpace

namespace NodeStorage

/-- The columns of one device in the listing. -/
structure ListedColumns where
  name : String
  kernelName : Option String
  deviceType : Option String
  size : Option Json
  model : Option String
  vendor : Option String
  serial : Option String
  state : Option String
  partitionLabel : Option String
  filesystemType : Option String
  worldWideName : Option String
  rotational : Option Json
  readOnly : Option Json
  removable : Option Json

/-- A device in the listing with the devices nested under it. -/
inductive ListedDevice where
  | node (columns : ListedColumns) (children : List ListedDevice)

namespace ListedColumns

/-- The meaning of a flag: a truth value, zero or one, or a text of one of these. -/
def flag : Option Json → Option Bool
  | some (.bool value) => some value
  | some (.integer value) =>
    if value = 0 then some false else if value = 1 then some true else none
  | some (.string text) =>
    let word := Text.trim text
    if word = "0" ∨ word = "false" then some false
    else if word = "1" ∨ word = "true" then some true
    else none
  | _ => none

/-- The meaning of a size: a signed 64-bit number or its text, else zero. -/
def sizeOf : Option Json → Int
  | some (.integer value) => if Text.fitsSigned value then value else 0
  | some (.string text) => (Text.signed? (Text.trim text)).getD 0
  | _ => 0

/-- The meaning of a text column. -/
def textOf (column : Option String) : String :=
  match column with
  | some text => Text.trim text
  | none => ""

/-- The kernel's name, or the device's own name where there is none. -/
def knownAs (columns : ListedColumns) : String :=
  columns.kernelName.getD columns.name

end ListedColumns

namespace ListedDevice

/-- The columns of a device. -/
def columns : ListedDevice → ListedColumns
  | .node columns _ => columns

/-- The devices nested under a device. -/
def children : ListedDevice → List ListedDevice
  | .node _ children => children

/-- The device itself, with the names of the devices nested under it. -/
def toBlockDevice (device : ListedDevice) : BlockDevice :=
  let columns := device.columns
  { name := columns.name
    kernelName := columns.knownAs
    deviceType := ListedColumns.textOf columns.deviceType
    model := ListedColumns.textOf columns.model
    vendor := ListedColumns.textOf columns.vendor
    serial := ListedColumns.textOf columns.serial
    size := ListedColumns.sizeOf columns.size
    rotational := ListedColumns.flag columns.rotational
    readOnly := ListedColumns.flag columns.readOnly
    removable := ListedColumns.flag columns.removable
    state := ListedColumns.textOf columns.state
    partitionLabel := ListedColumns.textOf columns.partitionLabel
    filesystemType := ListedColumns.textOf columns.filesystemType
    worldWideName := ListedColumns.textOf columns.worldWideName
    children := device.children.map fun child => child.columns.knownAs }

mutual

/-- A device and the devices nested under it, parents first. -/
def flatten : ListedDevice → List BlockDevice
  | .node columns children =>
    toBlockDevice (.node columns children) :: flattenAll children

/-- The devices of a forest, parents first. -/
def flattenAll : List ListedDevice → List BlockDevice
  | [] => []
  | device :: rest => flatten device ++ flattenAll rest

end

/-! ### Reading -/

open Json

/-- The names of a device's columns, in order. -/
def columnNames : List String :=
  ["name", "kname", "type", "size", "model", "vendor", "serial", "state", "partlabel", "fstype",
   "wwn", "rota", "ro", "rm", "children"]

/-- The columns other than the nested devices, when values may be nested `depth` deep. -/
def readColumns (depth : Nat) (fields : Fields) : Reading ListedColumns := do
  let value := Raw.valueWithin depth
  let name ← fields.required "name" Raw.text
  let kernelName ← fields.optional "kname" Raw.text
  let deviceType ← fields.optional "type" Raw.text
  let size ← fields.optional "size" value
  let model ← fields.optional "model" Raw.text
  let vendor ← fields.optional "vendor" Raw.text
  let serial ← fields.optional "serial" Raw.text
  let state ← fields.optional "state" Raw.text
  let partitionLabel ← fields.optional "partlabel" Raw.text
  let filesystemType ← fields.optional "fstype" Raw.text
  let worldWideName ← fields.optional "wwn" Raw.text
  let rotational ← fields.optional "rota" value
  let readOnly ← fields.optional "ro" value
  let removable ← fields.optional "rm" value
  pure ⟨name, kernelName, deviceType, size, model, vendor, serial, state, partitionLabel,
    filesystemType, worldWideName, rotational, readOnly, removable⟩

/-- Reads a device, with at most `depth` arrays and objects inside one another. -/
def read : (depth : Nat) → Raw → Reading ListedDevice
  | 0, _ => .error .tooDeep
  | depth + 1, document => do
    let fields ← document.fields columnNames
    let columns ← readColumns depth fields
    let children ← match fields.find? "children" with
      | none => pure []
      | some (.array items) =>
        match depth with
        | 0 => .error .tooDeep
        | inner + 1 => items.mapM (read inner)
      | some _ => .error (.expected "an array")
    pure (.node columns children)

end ListedDevice

namespace DeviceListing

open Json

/-- Reads the forest of a listing. -/
def readForest (document : Raw) : Reading (List ListedDevice) := do
  let fields ← document.fields ["blockdevices"]
  fields.withDefault "blockdevices"
    (Raw.list (ListedDevice.read (Raw.depthLimit - 2))) []

/-- Reads the text of a listing as a flat list, parents first. -/
def parse (text : String) : Outcome (List BlockDevice) :=
  (Outcome.ofReading (readText readForest text)).map ListedDevice.flattenAll

/-! ### The listing tool -/

/-- The columns asked for. -/
def columns : String :=
  "NAME,ROTA,TYPE,SIZE,MODEL,VENDOR,RO,RM,STATE,KNAME,SERIAL,PARTLABEL,FSTYPE,WWN"

/-- The arguments of the listing tool. -/
def arguments : List String :=
  ["--json", "--bytes", "-o", columns]

/-- The listing tool's own name. -/
def program : String := "lsblk"

end DeviceListing

/-- How a program ended. -/
inductive ExitStatus where
  | code (value : Nat)
  | signal (number : Nat)
  deriving DecidableEq, Repr

namespace ExitStatus

/-- The names of signals. -/
def signalNames : List (Nat × String) :=
  [(1, "SIGHUP"), (2, "SIGINT"), (3, "SIGQUIT"), (4, "SIGILL"), (5, "SIGTRAP"), (6, "SIGABRT"),
   (7, "SIGBUS"), (8, "SIGFPE"), (9, "SIGKILL"), (10, "SIGUSR1"), (11, "SIGSEGV"),
   (12, "SIGUSR2"), (13, "SIGPIPE"), (14, "SIGALRM"), (15, "SIGTERM"), (16, "SIGSTKFLT"),
   (17, "SIGCHLD"), (18, "SIGCONT"), (19, "SIGSTOP"), (20, "SIGTSTP"), (21, "SIGTTIN"),
   (22, "SIGTTOU"), (23, "SIGURG"), (24, "SIGXCPU"), (25, "SIGXFSZ"), (26, "SIGVTALRM"),
   (27, "SIGPROF"), (28, "SIGWINCH"), (29, "SIGIO"), (30, "SIGPWR"), (31, "SIGSYS")]

/-- The wording of an exit status. -/
def message : ExitStatus → String
  | .code value => "exit status: " ++ toString value
  | .signal number =>
    match signalNames.find? fun entry => entry.1 == number with
    | some entry => String.join ["signal: ", toString number, " (", entry.2, ")"]
    | none => "signal: " ++ toString number

end ExitStatus

/-- What came of running a program. -/
inductive ProgramRun where
  | notStarted (reason : String)
  | ended (status : ExitStatus) (output errors : List UInt8)

/-- The devices that a run of the listing tool reports. -/
def DeviceListing.ofRun (program : String) : ProgramRun → Outcome (List BlockDevice)
  | .notStarted reason =>
    .error (.deviceListing (String.join ["failed to run ", program, ": ", reason]))
  | .ended status output errors =>
    if status = .code 0 then DeviceListing.parse (Text.decodeUtf8Lossy output)
    else
      .error (.deviceListing (String.join
        [program, " exited with ", status.message, ", stderr=",
          Text.trim (Text.decodeUtf8Lossy errors)]))

end NodeStorage
