/-
**Images and manifests.**

The version of an image is its digest, or else its tag: what follows the last colon in the last step
of its name, so that the port of a registry is no tag. Cut to the length of a label's value it can
be put on objects.

Manifests are fetched from one place only.
-/

import NodeStorage.Text.Case
import NodeStorage.Text.Split
import NodeStorage.Text.WhiteSpace

namespace NodeStorage.Registry

/-- What stands between a name and a digest. -/
def digestMark : List Char :=
  "@sha256:".toList

/-- What follows the first occurrence of a mark. -/
def after? (mark : List Char) : List Char → Option (List Char)
  | [] => if mark.isEmpty then some [] else none
  | c :: rest =>
    if mark.isPrefixOf (c :: rest) then some ((c :: rest).drop mark.length) else after? mark rest

/-- What follows the last occurrence of a separator. -/
def afterLast? (separator : Char) (chars : List Char) : Option (List Char) :=
  match Text.splitAt separator chars with
  | [] | [_] => none
  | parts => parts.getLast?

/-- The version of an image; empty when it has neither digest nor tag. -/
def imageVersion (image : String) : String :=
  match after? digestMark image.toList with
  | some digest => String.ofList digest
  | none =>
    let name := ((Text.splitAt '/' image.toList).getLast?).getD []
    String.ofList ((afterLast? ':' name).getD [])

/-- The longest value of a label, in characters. -/
def longestLabel : Nat := 63

/-- The version of an image as the value of a label. -/
def imageLabel (image : String) : String :=
  String.ofList ((imageVersion image).toList.take longestLabel)

/-- Where manifests are fetched from. -/
def manifestSource : String := "https://raw.githubusercontent.com/openshift-storage-scale"

/-- The manifest may be fetched: its address, trimmed and in small letters, starts with the source.
-/
def isManifestAllowed (address : String) : Bool :=
  manifestSource.toList.isPrefixOf (Text.lowercase (Text.trim address)).toList

end NodeStorage.Registry
