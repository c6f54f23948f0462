/-
**Bind mounts in the mount table.**

Each line of the mount table has fields parted by single spaces. The fourth is the part of a file
system that is mounted and the fifth where it is mounted. A device node that is mounted somewhere
shows up with its own name at the end of the fourth field.
-/

import NodeStorage.Host.Path

namespace NodeStorage.Host

/-- The lines of a text without their ends: a line feed, or a carriage return and a line feed. What
follows the last line feed is a line when there is anything. -/
def lines (chars : List Char) : List (List Char) :=
  let parts := Text.splitAt '\n' chars
  let ended := (parts.dropLast).map fun line =>
    if line.getLast? = some '\r' then line.dropLast else line
  match parts.getLast? with
  | none => ended
  | some [] => ended
  | some rest => ended ++ [rest]

/-- The mount point of a line that mounts the node of a device. -/
def mountPoint? (kernelName : String) (line : List Char) : Option String :=
  let fields := Text.splitAt ' ' line
  if fields.length < 10 then none
  else
    match fields[3]?, fields[4]? with
    | some mounted, some place =>
      if fileName? (String.ofList mounted) = some kernelName then some (String.ofList place)
      else none
    | _, _ => none

/-- Where the device is bind-mounted: the place of the first line that mounts its node. -/
def findBindMount (table kernelName : String) : Option String :=
  if kernelName.isEmpty then none
  else (lines table.toList).findSome? (mountPoint? kernelName)

end NodeStorage.Host
