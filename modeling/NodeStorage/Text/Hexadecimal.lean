/-
**Bytes as hexadecimal digits.**

Every byte is written as two digits in lower case, the higher one first. Digits of either case are
read.
-/

import NodeStorage.Text.Integer

namespace NodeStorage.Text

/-- The digits of bytes. -/
def toHexadecimal (bytes : List UInt8) : String :=
  String.ofList (bytes.flatMap fun byte => hexadecimalPadded 2 byte.toNat)

/-- The bytes that digits denote; `none` when a digit is missing or is none. -/
def ofHexadecimal? : List Char → Option (List UInt8)
  | [] => some []
  | high :: low :: rest => do
    let first ← hexDigit? high
    let second ← hexDigit? low
    let bytes ← ofHexadecimal? rest
    pure (UInt8.ofNat (first * 16 + second) :: bytes)
  | [_] => none

end NodeStorage.Text
