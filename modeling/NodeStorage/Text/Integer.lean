/-
**Reading and writing whole numbers.**

A signed number is an optional sign and ASCII digits, nothing else, and must fit into 64 bits. An
unsigned number may carry a plus sign only. Leading zeros count for nothing.
-/

namespace NodeStorage.Text

/-- The value of an ASCII digit. -/
def digit? (c : Char) : Option Nat :=
  if '0' ≤ c ∧ c ≤ '9' then some (c.toNat - '0'.toNat) else none

/-- The number that digits denote on top of `start`; `none` at the first other character. -/
def digitsFrom (start : Nat) : List Char → Option Nat
  | [] => some start
  | c :: rest => (digit? c).bind fun value => digitsFrom (start * 10 + value) rest

/-- At least one digit, and digits only. -/
def digits? : List Char → Option Nat
  | [] => none
  | chars => digitsFrom 0 chars

/-- The range of signed 64-bit numbers. -/
def fitsSigned (value : Int) : Bool :=
  -9223372036854775808 ≤ value && value ≤ 9223372036854775807

/-- The largest unsigned 64-bit number. -/
def maxUnsigned : Nat := 18446744073709551615

/-- Reads a signed 64-bit number. -/
def signed? (text : String) : Option Int :=
  let read : Option Int :=
    match text.toList with
    | '-' :: rest => (digits? rest).map fun value => -(value : Int)
    | '+' :: rest => (digits? rest).map fun value => (value : Int)
    | chars => (digits? chars).map fun value => (value : Int)
  read.filter fitsSigned

/-- Reads an unsigned number of at most `limit`. -/
def unsigned? (limit : Nat) (text : String) : Option Nat :=
  let read :=
    match text.toList with
    | '+' :: rest => digits? rest
    | chars => digits? chars
  read.filter (· ≤ limit)

/-- The digits of `value` in base `base`, at most `fuel` of them, the last one first. -/
def digitsReversed (base : Nat) : (fuel : Nat) → (value : Nat) → List Nat
  | 0, _ => []
  | fuel + 1, value =>
    if value < base then [value] else value % base :: digitsReversed base fuel (value / base)

/-- The character of a digit of a base up to 36. -/
def digitChar (value : Nat) : Char :=
  if value < 10 then Char.ofNat ('0'.toNat + value) else Char.ofNat ('a'.toNat + (value - 10))

/-- The number in lower-case hexadecimal, without leading zeros. -/
def hexadecimal (value : Nat) : List Char :=
  ((digitsReversed 16 (value + 1) value).reverse).map digitChar

/-- The number in `width` hexadecimal digits. -/
def hexadecimalPadded (width value : Nat) : List Char :=
  let shown := hexadecimal value
  List.replicate (width - shown.length) '0' ++ shown

/-- The number in decimal, with at least `width` digits. -/
def decimalPadded (width value : Nat) : List Char :=
  let shown := (toString value).toList
  List.replicate (width - shown.length) '0' ++ shown

/-- The value of a hexadecimal digit of either case. -/
def hexDigit? (c : Char) : Option Nat :=
  if '0' ≤ c ∧ c ≤ '9' then some (c.toNat - '0'.toNat)
  else if 'a' ≤ c ∧ c ≤ 'f' then some (c.toNat - 'a'.toNat + 10)
  else if 'A' ≤ c ∧ c ≤ 'F' then some (c.toNat - 'A'.toNat + 10)
  else none

end NodeStorage.Text
