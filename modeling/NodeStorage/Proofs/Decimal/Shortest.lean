/-
**The decimals that are written.**

The decimal that is found for a double lies in the interval of the numbers that round to it
(`Double.isInside_of_decimalAt?`), so it is not zero. Where none is found zero is written
(`Double.shortest_cases`). Taking away trailing zeros changes neither.
-/

import NodeStorage.Decimal.Shortest

namespace NodeStorage.Decimal

namespace Double

/-! ### The interval of a double -/

/-- A quarter of the last place of a double. -/
def quarter (value : Double) : Double :=
  ⟨false, 1, value.exponent - 2⟩

/-- What a decimal `d · 10^exponent` is in quarters of the last place: `d` times this quotient. -/
def inQuarters (value : Double) (exponent : Int) : Nat × Nat :=
  if 0 ≤ exponent then
    (Nat.pow 10 exponent.toNat * value.quarter.magnitude.2, value.quarter.magnitude.1)
  else (value.quarter.magnitude.2, value.quarter.magnitude.1 * Nat.pow 10 (-exponent).toNat)

/-- The decimal lies in the interval of the double. -/
def isInside (value : Double) (number : Scientific) : Bool :=
  let (lower, _, upper) := value.roundingInterval
  let (top, bottom) := value.inQuarters number.exponent
  if value.mantissa % 2 = 0 then
    lower * bottom ≤ number.digits * top ∧ number.digits * top ≤ upper * bottom
  else lower * bottom < number.digits * top ∧ number.digits * top < upper * bottom

/-- The decimal in units of a power of ten that reads back, when there is one: of the two
neighbours of the double the nearer one, of those that lie in its interval. -/
def decimalAt? (value : Double) (exponent : Int) : Option Scientific :=
  let (_, middle, _) := value.roundingInterval
  let (top, bottom) := value.inQuarters exponent
  let below := middle * bottom / top
  let above := below + 1
  let belowGap := middle * bottom - below * top
  let aboveGap := above * top - middle * bottom
  match value.isInside ⟨below, exponent⟩, value.isInside ⟨above, exponent⟩ with
  | true, true =>
    if belowGap < aboveGap ∨ (belowGap = aboveGap ∧ below % 2 = 0) then some ⟨below, exponent⟩
    else some ⟨above, exponent⟩
  | true, false => some ⟨below, exponent⟩
  | false, true => some ⟨above, exponent⟩
  | false, false => none

/-- The exponent of the leading decimal digit of a double. -/
def leading (value : Double) : Int :=
  decimalExponent (value.roundingInterval.2.1 * value.quarter.magnitude.1) value.quarter.magnitude.2

theorem shortest_eq (value : Double) :
    value.shortest = ((List.range 17).findSome? fun count =>
      value.decimalAt? (value.leading - (count + 1 : Nat) + 1)).getD ⟨0, 0⟩ :=
  rfl

/-- **What is taken lies in the interval.** -/
theorem isInside_of_decimalAt? {value : Double} {exponent : Int} {number : Scientific}
    (found : value.decimalAt? exponent = some number) : value.isInside number = true := by
  unfold decimalAt? at found
  dsimp only at found
  split at found
  · rename_i lower upper
    split at found <;> cases found
    · exact lower
    · exact upper
  · rename_i lower upper
    cases found
    exact lower
  · rename_i lower upper
    cases found
    exact upper
  · cases found

/-- **The decimal that is written lies in the interval**, or it is zero. -/
theorem shortest_cases (value : Double) :
    value.shortest = ⟨0, 0⟩ ∨ value.isInside value.shortest = true := by
  rw [shortest_eq]
  cases found : (List.range 17).findSome? fun count =>
      value.decimalAt? (value.leading - (count + 1 : Nat) + 1) with
  | none => exact Or.inl rfl
  | some number =>
    obtain ⟨count, -, taken⟩ := List.exists_of_findSome?_eq_some found
    exact Or.inr (isInside_of_decimalAt? taken)

/-- The leading digit of a number that is not below one is the first one that is written. -/
theorem decimalExponent_eq {dividend divisor : Nat} (large : dividend ≥ divisor) :
    decimalExponent dividend divisor =
      ((Nat.toDigits 10 (dividend / divisor)).length : Int) - 1 := by
  rw [decimalExponent, if_pos large, ← String.length_toList, Nat.toString_eq_repr,
    Nat.toList_repr]

/-! ### What lies in the interval -/

theorem magnitude_pos (value : Double) (given : value.mantissa ≠ 0) :
    0 < value.magnitude.1 ∧ 0 < value.magnitude.2 := by
  unfold magnitude
  split
  · exact ⟨Nat.mul_pos (Nat.pos_of_ne_zero given) (Nat.pow_pos (by decide)), Nat.one_pos⟩
  · exact ⟨Nat.pos_of_ne_zero given, Nat.pow_pos (by decide)⟩

theorem inQuarters_pos (value : Double) (exponent : Int) :
    0 < (value.inQuarters exponent).1 ∧ 0 < (value.inQuarters exponent).2 := by
  obtain ⟨top, bottom⟩ := magnitude_pos value.quarter Nat.one_ne_zero
  unfold inQuarters
  split
  · exact ⟨Nat.mul_pos (Nat.pow_pos (by decide)) bottom, top⟩
  · exact ⟨bottom, Nat.mul_pos top (Nat.pow_pos (by decide))⟩

/-- What lies in the interval is not above it. -/
theorem le_of_isInside {value : Double} {number : Scientific}
    (inside : value.isInside number = true) :
    number.digits * (value.inQuarters number.exponent).1 ≤
      (4 * value.mantissa + 2) * (value.inQuarters number.exponent).2 := by
  unfold isInside at inside
  dsimp only at inside
  split at inside
  · exact (of_decide_eq_true inside).2
  · exact Nat.le_of_lt (of_decide_eq_true inside).2

/-- Zero does not lie in the interval of another double. -/
theorem digits_ne_zero_of_isInside {value : Double} (given : value.mantissa ≠ 0)
    {number : Scientific} (inside : value.isInside number = true) : number.digits ≠ 0 := by
  intro zero
  have lower : 0 < value.roundingInterval.1 := by
    unfold roundingInterval
    dsimp only
    split <;> omega
  have positive := Nat.mul_pos lower (inQuarters_pos value number.exponent).2
  unfold isInside at inside
  dsimp only at inside
  rw [zero, Nat.zero_mul] at inside
  split at inside
  · have least := (of_decide_eq_true inside).1
    omega
  · have least := (of_decide_eq_true inside).1
    omega

end Double

namespace Scientific

/-- The number can be written: it is a plain zero, or its first digit is not zero. -/
def IsWritable (number : Scientific) : Prop :=
  number = ⟨0, 0⟩ ∨ number.digits ≠ 0

theorem IsWritable.normalize {number : Scientific} (writable : number.IsWritable) (fuel : Nat) :
    (number.normalize fuel).IsWritable := by
  induction fuel generalizing number with
  | zero => exact writable
  | succ fuel ih =>
    unfold Scientific.normalize
    split
    · rename_i zeros
      refine ih (Or.inr ?_)
      show number.digits / 10 ≠ 0
      omega
    · exact writable

end Scientific

theorem Double.isWritable_shortest {value : Double} (given : value.mantissa ≠ 0) :
    value.shortest.IsWritable :=
  value.shortest_cases.imp_right (digits_ne_zero_of_isInside given)

end NodeStorage.Decimal
