/-
**Paths.**

A path is names parted by slashes. Its file name is the last name that stands for something: slashes
at the end and steps to the same directory are passed over, and a path that ends in a step to the
parent directory has none. Joining a path to a directory keeps an absolute path as it is.
-/

import NodeStorage.Text.Split

namespace NodeStorage.Host

/-- The steps of a path, from left to right. -/
def steps (path : String) : List String :=
  (Text.splitAt '/' path.toList).map String.ofList

/-- The path is absolute. -/
def isAbsolute (path : String) : Bool :=
  path.toList.head? == some '/'

/-- The file name at the end of a path. -/
def fileName? (path : String) : Option String :=
  match ((steps path).filter fun step => step != "" && step != ".").getLast? with
  | some name => if name = ".." then none else some name
  | none => none

/-- A path inside a directory, or the path itself when it is absolute. -/
def join (directory path : String) : String :=
  if isAbsolute path || directory.isEmpty then path
  else if directory.toList.getLast? == some '/' then directory ++ path
  else String.join [directory, "/", path]

end NodeStorage.Host
