/-
**UTF-8.**

Bytes are read one at a time by a machine that is either between characters or inside one. A byte
that cannot go on with the character begun ends it as broken, and is then looked at again as the
first byte of the next one, so a broken part is always as long as it can be. Strict reading refuses
text with a broken part; lenient reading puts U+FFFD in its place.
-/

namespace NodeStorage.Text

/-- Where a reader of bytes stands. -/
inductive Utf8State where
  /-- Between two characters. -/
  | start
  /-- Inside a character: the value of the bits so far, the range of the next byte, and how many
  bytes are wanted after that one. -/
  | inside (bits low high more : Nat)
  deriving DecidableEq

/-- What a byte between two characters begins: a whole character, a longer one, or nothing. -/
inductive Utf8Lead where
  | whole (c : Char)
  | opens (bits low high more : Nat)
  | broken
  deriving DecidableEq

/-- The role of a byte between two characters. -/
def utf8Lead (byte : UInt8) : Utf8Lead :=
  let b := byte.toNat
  if b < 0x80 then .whole (Char.ofNat b)
  else if 0xC2 ≤ b ∧ b ≤ 0xDF then .opens (b - 0xC0) 0x80 0xBF 0
  else if b = 0xE0 then .opens 0 0xA0 0xBF 1
  else if b = 0xED then .opens 0xD 0x80 0x9F 1
  else if 0xE1 ≤ b ∧ b ≤ 0xEF then .opens (b - 0xE0) 0x80 0xBF 1
  else if b = 0xF0 then .opens 0 0x90 0xBF 2
  else if 0xF1 ≤ b ∧ b ≤ 0xF3 then .opens (b - 0xF0) 0x80 0xBF 2
  else if b = 0xF4 then .opens 4 0x80 0x8F 2
  else .broken

/-- The characters of the bytes, with `none` for each broken part. -/
def utf8Pieces : Utf8State → List UInt8 → List (Option Char)
  | .start, [] => []
  | .inside _ _ _ _, [] => [none]
  | .start, byte :: rest =>
    match utf8Lead byte with
    | .whole c => some c :: utf8Pieces .start rest
    | .opens bits low high more => utf8Pieces (.inside bits low high more) rest
    | .broken => none :: utf8Pieces .start rest
  | .inside bits low high more, byte :: rest =>
    let b := byte.toNat
    if low ≤ b ∧ b ≤ high then
      let grown := bits * 0x40 + (b - 0x80)
      match more with
      | 0 => some (Char.ofNat grown) :: utf8Pieces .start rest
      | left + 1 => utf8Pieces (.inside grown 0x80 0xBF left) rest
    else
      match utf8Lead byte with
      | .whole c => none :: some c :: utf8Pieces .start rest
      | .opens bits low high more => none :: utf8Pieces (.inside bits low high more) rest
      | .broken => none :: none :: utf8Pieces .start rest

/-- Every element, when none is missing. -/
def allSome {α : Type} : List (Option α) → Option (List α)
  | [] => some []
  | none :: _ => none
  | some value :: rest => (allSome rest).map (value :: ·)

/-- The text of the bytes, when they are UTF-8. -/
def decodeUtf8? (bytes : List UInt8) : Option String :=
  (allSome (utf8Pieces .start bytes)).map String.ofList

/-- The text of the bytes with U+FFFD for every broken part. -/
def decodeUtf8Lossy (bytes : List UInt8) : String :=
  String.ofList ((utf8Pieces .start bytes).map fun piece => piece.getD (Char.ofNat 0xFFFD))

/-- What breaks a text of bytes, by the index at which the first broken part starts. -/
inductive Utf8Fault where
  /-- So many bytes belong to no character. -/
  | invalid (start length : Nat)
  /-- The bytes end inside a character. -/
  | incomplete (start : Nat)
  deriving DecidableEq, Repr

/-- The wording of a fault. -/
def Utf8Fault.message : Utf8Fault → String
  | .invalid start length =>
    String.join
      ["invalid utf-8 sequence of ", toString length, " bytes from index ", toString start]
  | .incomplete start => "incomplete utf-8 byte sequence from index " ++ toString start

/-- The first fault of the bytes, the first of which has the index `index`; the character that is
being read starts at `start`. -/
def utf8FaultFrom (start index : Nat) : Utf8State → List UInt8 → Option Utf8Fault
  | .start, [] => none
  | .inside _ _ _ _, [] => some (.incomplete start)
  | .start, byte :: rest =>
    match utf8Lead byte with
    | .whole _ => utf8FaultFrom (index + 1) (index + 1) .start rest
    | .opens bits low high more => utf8FaultFrom index (index + 1) (.inside bits low high more) rest
    | .broken => some (.invalid index 1)
  | .inside bits low high more, byte :: rest =>
    let b := byte.toNat
    if low ≤ b ∧ b ≤ high then
      match more with
      | 0 => utf8FaultFrom (index + 1) (index + 1) .start rest
      | left + 1 =>
        utf8FaultFrom start (index + 1) (.inside (bits * 0x40 + (b - 0x80)) 0x80 0xBF left) rest
    else some (.invalid start (index - start))

/-- The first fault of the bytes. -/
def utf8Fault? (bytes : List UInt8) : Option Utf8Fault :=
  utf8FaultFrom 0 0 .start bytes

/-- The UTF-8 bytes of a character. -/
def encodeCharUtf8 (c : Char) : List UInt8 :=
  let code := c.toNat
  if code < 0x80 then [UInt8.ofNat code]
  else if code < 0x800 then
    [UInt8.ofNat (0xC0 + code / 0x40), UInt8.ofNat (0x80 + code % 0x40)]
  else if code < 0x10000 then
    [UInt8.ofNat (0xE0 + code / 0x1000), UInt8.ofNat (0x80 + code / 0x40 % 0x40),
      UInt8.ofNat (0x80 + code % 0x40)]
  else
    [UInt8.ofNat (0xF0 + code / 0x40000), UInt8.ofNat (0x80 + code / 0x1000 % 0x40),
      UInt8.ofNat (0x80 + code / 0x40 % 0x40), UInt8.ofNat (0x80 + code % 0x40)]

/-- The UTF-8 bytes of a text. -/
def encodeUtf8 (text : String) : List UInt8 :=
  text.toList.flatMap encodeCharUtf8

end NodeStorage.Text
