/-
**The shortest decimal that reads back as the same double.**

The numbers that round to a double fill an interval around it; its ends belong to it when the
mantissa is even. For one digit, then two, and so on up to seventeen, the two decimals next to the
double are tried: the first count of digits with a hit in the interval wins, of two hits the nearer,
of two equally near the even one.
-/

import NodeStorage.Decimal.Double
import NodeStorage.Text.Integer

namespace NodeStorage.Decimal

/-- A decimal number `digits · 10^exponent`. -/
structure Scientific where
  digits : Nat
  exponent : Int
  deriving DecidableEq, Repr

namespace Double

/-- The interval of numbers that round to a double, in quarters of its last place: lower end, the
double itself, upper end. -/
def roundingInterval (value : Double) : Nat × Nat × Nat :=
  let lower :=
    if value.mantissa = mantissaLimit / 2 ∧ value.exponent > minExponent then 4 * value.mantissa - 1
    else 4 * value.mantissa - 2
  (lower, 4 * value.mantissa, 4 * value.mantissa + 2)

/-- The least `count` with `dividend · 10^count ≥ divisor`. -/
def leadingZeros : (fuel : Nat) → (dividend divisor count : Nat) → Nat
  | 0, _, _, count => count
  | fuel + 1, dividend, divisor, count =>
    if dividend ≥ divisor then count else leadingZeros fuel (dividend * 10) divisor (count + 1)

/-- The exponent of the leading decimal digit of a magnitude. -/
def decimalExponent (dividend divisor : Nat) : Int :=
  if dividend ≥ divisor then ((toString (dividend / divisor)).length : Int) - 1
  else -(leadingZeros 400 dividend divisor 0 : Int)

/-- The decimal with `count` digits that reads back, when there is one. -/
def decimalWith? (value : Double) (count : Nat) : Option Scientific :=
  let (lower, middle, upper) := value.roundingInterval
  let unit : Double := ⟨false, 1, value.exponent - 2⟩
  let (unitTop, unitBottom) := unit.magnitude
  let exponent := decimalExponent (middle * unitTop) unitBottom - count + 1
  -- a decimal `d · 10^exponent` in quarters of the last place is `d · top / bottom`
  let (top, bottom) :=
    if 0 ≤ exponent then (Nat.pow 10 exponent.toNat * unitBottom, unitTop)
    else (unitBottom, unitTop * Nat.pow 10 (-exponent).toNat)
  let inside (digits : Nat) : Bool :=
    if value.mantissa % 2 = 0 then lower * bottom ≤ digits * top ∧ digits * top ≤ upper * bottom
    else lower * bottom < digits * top ∧ digits * top < upper * bottom
  let below := middle * bottom / top
  let above := below + 1
  let belowGap := middle * bottom - below * top
  let aboveGap := above * top - middle * bottom
  match inside below, inside above with
  | true, true =>
    if belowGap < aboveGap ∨ (belowGap = aboveGap ∧ below % 2 = 0) then some ⟨below, exponent⟩
    else some ⟨above, exponent⟩
  | true, false => some ⟨below, exponent⟩
  | false, true => some ⟨above, exponent⟩
  | false, false => none

/-- The shortest decimal that reads back as the magnitude of a double other than zero. -/
def shortest (value : Double) : Scientific :=
  ((List.range 17).findSome? fun count => value.decimalWith? (count + 1)).getD ⟨0, 0⟩

end Double

namespace Scientific

/-- The same number without trailing zeros among its digits. -/
def normalize : (fuel : Nat) → Scientific → Scientific
  | 0, number => number
  | fuel + 1, number =>
    if number.digits ≠ 0 ∧ number.digits % 10 = 0 then
      normalize fuel ⟨number.digits / 10, number.exponent + 1⟩
    else number

end Scientific

/-- How a format writes decimals. -/
structure DecimalStyle where
  /-- The smallest exponent of the leading digit that is written with a point and no exponent. -/
  lowestPlain : Int
  /-- The largest exponent of the leading digit that is written with a point and no exponent. -/
  highestPlain : Int
  /-- What follows a whole number that is written without an exponent. -/
  wholeEnding : List Char
  /-- What stands before an exponent that is not negative. -/
  positiveMark : List Char

/-- Writes a double in a style. -/
def DecimalStyle.write (style : DecimalStyle) (value : Double) : List Char :=
  let sign := if value.negative then ['-'] else []
  if value.mantissa = 0 then sign ++ '0' :: style.wholeEnding
  else
    let number := value.shortest.normalize 20
    let digits := (toString number.digits).toList
    let point := number.exponent + digits.length
    let leading := point - 1
    if style.lowestPlain ≤ leading ∧ leading ≤ style.highestPlain then
      if 0 ≤ number.exponent then
        sign ++ digits ++ List.replicate number.exponent.toNat '0' ++ style.wholeEnding
      else if 0 < point then
        sign ++ digits.take point.toNat ++ '.' :: digits.drop point.toNat
      else
        sign ++ '0' :: '.' :: List.replicate (-point).toNat '0' ++ digits
    else
      let fraction := match digits.drop 1 with
        | [] => []
        | rest => '.' :: rest
      let exponent :=
        if leading < 0 then '-' :: (toString leading.natAbs).toList
        else style.positiveMark ++ (toString leading.natAbs).toList
      sign ++ digits.take 1 ++ fraction ++ 'e' :: exponent

end NodeStorage.Decimal
