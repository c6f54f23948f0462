/-
**Double-precision numbers, exactly.**

A finite double is a sign, a whole number below 2^53 and a power of two. Numbers are kept that way
rather than as machine words, so that the arithmetic on them is exact arithmetic on whole numbers
followed by one rounding: to the nearest double, a tie going to the even one.
-/

namespace NodeStorage.Decimal

/-- A finite double: plus or minus `mantissa · 2^exponent`. -/
structure Double where
  negative : Bool
  mantissa : Nat
  exponent : Int
  deriving DecidableEq, Repr, Inhabited

namespace Double

/-- The smallest power of two in a double. -/
def minExponent : Int := -1074

/-- The largest power of two in a double. -/
def maxExponent : Int := 971

/-- What a mantissa stays below: the fifty-third power of two. -/
def mantissaLimit : Nat := 9007199254740992

/-- Plus zero. -/
def zero : Double := ⟨false, 0, minExponent⟩

/-- A quotient rounded to the nearest whole number, a tie to the even one. -/
def roundedQuotient (dividend divisor : Nat) : Nat :=
  let quotient := dividend / divisor
  let rest := dividend % divisor
  if 2 * rest < divisor then quotient
  else if 2 * rest > divisor then quotient + 1
  else if quotient % 2 = 0 then quotient else quotient + 1

/-- Dividend and divisor of the same value in units of `2^exponent`. -/
def inUnits (dividend divisor : Nat) (exponent : Int) : Nat × Nat :=
  if 0 ≤ exponent then (dividend, divisor * Nat.pow 2 exponent.toNat)
  else (dividend * Nat.pow 2 (-exponent).toNat, divisor)

/-- The double nearest to a quotient of whole numbers; `none` beyond the largest double. -/
def ofQuotient? (negative : Bool) (dividend divisor : Nat) : Option Double :=
  if dividend = 0 then some ⟨negative, 0, minExponent⟩
  else
    let estimate := max minExponent ((Nat.log2 dividend : Int) - Nat.log2 divisor - 53)
    let (top, bottom) := inUnits dividend divisor estimate
    let exponent := if top / bottom ≥ mantissaLimit then estimate + 1 else estimate
    let (top, bottom) := inUnits dividend divisor exponent
    let mantissa := roundedQuotient top bottom
    let (mantissa, exponent) :=
      if mantissa = mantissaLimit then (mantissaLimit / 2, exponent + 1) else (mantissa, exponent)
    if exponent > maxExponent then none else some ⟨negative, mantissa, exponent⟩

/-- The double nearest to a whole number. -/
def ofNat? (value : Nat) : Option Double := ofQuotient? false value 1

/-- The magnitude as a quotient of whole numbers. -/
def magnitude (value : Double) : Nat × Nat :=
  if 0 ≤ value.exponent then (value.mantissa * Nat.pow 2 value.exponent.toNat, 1)
  else (value.mantissa, Nat.pow 2 (-value.exponent).toNat)

/-- The rounded product. -/
def mul? (left right : Double) : Option Double :=
  let (leftTop, leftBottom) := left.magnitude
  let (rightTop, rightBottom) := right.magnitude
  ofQuotient? (left.negative != right.negative) (leftTop * rightTop) (leftBottom * rightBottom)

/-- The rounded quotient by a number that is not zero. -/
def div? (left right : Double) : Option Double :=
  let (leftTop, leftBottom) := left.magnitude
  let (rightTop, rightBottom) := right.magnitude
  ofQuotient? (left.negative != right.negative) (leftTop * rightBottom) (leftBottom * rightTop)

/-- The number with the other sign. -/
def neg (value : Double) : Double := { value with negative := !value.negative }

/-- The double nearest to a power of ten up to 10^308. -/
def powerOfTen (exponent : Nat) : Double := (ofNat? (Nat.pow 10 exponent)).getD zero

/-- `value · 10^exponent` in single rounded steps: one multiplication or one division by a power of
ten, or as many divisions by 10^308 as it takes before that one. `none` beyond the largest
double. -/
def scaleByTen? : (fuel : Nat) → (value : Double) → (exponent : Int) → Option Double
  | 0, _, _ => some zero
  | fuel + 1, value, exponent =>
    if exponent.natAbs ≤ 308 then
      if 0 ≤ exponent then value.mul? (powerOfTen exponent.natAbs)
      else value.div? (powerOfTen exponent.natAbs)
    else if value.mantissa = 0 then some value
    else if 0 ≤ exponent then none
    else (value.div? (powerOfTen 308)).bind fun smaller => scaleByTen? fuel smaller (exponent + 308)

end Double

end NodeStorage.Decimal
