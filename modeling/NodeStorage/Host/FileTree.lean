/-
**A host's files.**

Files, directories and symbolic links, and the way the system follows a path through them. Every
step of a path must start in a directory; a link is replaced by the steps it holds, from the
directory it stands in or from the top when it is absolute. Following gives up after forty links,
so a loop of links is an error like any other. The result is the path without links.
-/

import NodeStorage.Host.Path

namespace NodeStorage.Host

/-- What goes wrong when the system follows a path. -/
inductive SystemError where
  | notFound
  | notDirectory
  | isDirectory
  | nameTooLong
  | tooManyLinks
  | zeroInName
  | notText
  deriving DecidableEq, Repr

/-- The wording of a system error. -/
def SystemError.message : SystemError → String
  | .notFound => "No such file or directory (os error 2)"
  | .notDirectory => "Not a directory (os error 20)"
  | .isDirectory => "Is a directory (os error 21)"
  | .nameTooLong => "File name too long (os error 36)"
  | .tooManyLinks => "Too many levels of symbolic links (os error 40)"
  | .zeroInName => "file name contained an unexpected NUL byte"
  | .notText => "stream did not contain valid UTF-8"

/-- A file, a directory with its entries, or a symbolic link with the path it holds. -/
inductive FileTree where
  | file (contents : List UInt8)
  | directory (entries : List (String × FileTree))
  | link (target : String)
  deriving Inhabited

namespace FileTree

/-- The entry of a directory. -/
def entry? (name : String) : FileTree → Option FileTree
  | .directory entries => (entries.find? fun entry => entry.1 == name).map Prod.snd
  | _ => none

/-- What stands at the end of a list of names, links not followed. -/
def find? (tree : FileTree) : List String → Option FileTree
  | [] => some tree
  | name :: rest => (tree.entry? name).bind fun child => child.find? rest

/-- Entries with another one, in the place of one of the same name. -/
def putEntry (name : String) (child : FileTree) :
    List (String × FileTree) → List (String × FileTree)
  | [] => [(name, child)]
  | entry :: rest =>
    if entry.1 = name then (name, child) :: rest else entry :: putEntry name child rest

/-- The entries of a directory, none of anything else. -/
def entries : FileTree → List (String × FileTree)
  | .directory entries => entries
  | _ => []

/-- The tree with something put at the end of a list of names; directories on the way are made, and
an empty directory leaves a directory that is there as it is. -/
def put (leaf : FileTree) : List String → FileTree → FileTree
  | [], tree =>
    match leaf, tree with
    | .directory [], .directory entries => .directory entries
    | _, _ => leaf
  | name :: rest, tree =>
    let child := (tree.entry? name).getD (.directory [])
    .directory (putEntry name (put leaf rest child) tree.entries)

/-- It is a directory. -/
def isDirectory : FileTree → Bool
  | .directory _ => true
  | _ => false

/-- The longest name in a directory, in bytes. -/
def longestName : Nat := 255

/-- The most links that are followed on the way. -/
def mostLinks : Nat := 40

/-- Follows steps from a place without links, given by its names; at most `links` links. -/
def follow (tree : FileTree) (links : Nat) (place : List String) (todo : List String) :
    Except SystemError (List String) :=
  match todo with
  | [] => .ok place
  | step :: rest =>
    match tree.find? place with
    | none => .error .notFound
    | some here =>
      if !here.isDirectory then .error .notDirectory
      else if step = "" ∨ step = "." then follow tree links place rest
      else if step = ".." then follow tree links place.dropLast rest
      else if step.utf8ByteSize > longestName then .error .nameTooLong
      else
        match here.entry? step with
        | none => .error .notFound
        | some (.link target) =>
          match links with
          | 0 => .error .tooManyLinks
          | left + 1 =>
            follow tree left (if isAbsolute target then [] else place) (steps target ++ rest)
        | some _ => follow tree links (place ++ [step]) rest
termination_by (links, todo.length)

/-- The place of an absolute path, links followed. -/
def resolve (tree : FileTree) (path : String) : Except SystemError (List String) :=
  if path.toList.contains (Char.ofNat 0) then .error .zeroInName
  else if path.isEmpty then .error .notFound
  else tree.follow mostLinks [] (steps path)

/-- What stands at an absolute path, links followed. -/
def «open» (tree : FileTree) (path : String) : Except SystemError FileTree := do
  let place ← tree.resolve path
  match tree.find? place with
  | some found => pure found
  | none => .error .notFound

/-- The bytes of the file at a path. -/
def read (tree : FileTree) (path : String) : Except SystemError (List UInt8) := do
  match ← tree.open path with
  | .file contents => pure contents
  | _ => .error .isDirectory

/-- The names of the entries of the directory at a path. -/
def list (tree : FileTree) (path : String) : Except SystemError (List String) := do
  match ← tree.open path with
  | .directory entries => pure (entries.map Prod.fst)
  | _ => .error .notDirectory

end FileTree

end NodeStorage.Host
