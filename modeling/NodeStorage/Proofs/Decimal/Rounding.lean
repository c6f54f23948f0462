/-
**Rounding to doubles, to the last place.**

A quotient is rounded in a unit in which it has fifty-three digits (`Double.unitExponent_spec`). So
it grows by half a unit at most, which is one part in 2^53 (`Double.worth_le_of_one_le`), and it has
a double if it is less than half a unit above the largest one (`Double.ofQuotient?_isSome_of_lt`).

A number that is read as a double is rounded three times: its first digits, the power of ten by
which they are scaled, and their product. Up to three units below the largest double nothing goes
wrong on the way (`Double.scaleByTen?_isSome`). What was rounded is in the range of doubles
(`Double.InRange.scaleByTen?`).
-/

import Mathlib.Algebra.Order.Field.Power
import Mathlib.Algebra.Order.Field.Rat
import Mathlib.Data.Nat.Cast.Order.Field
import Mathlib.Tactic.Linarith
import Mathlib.Tactic.NormNum
import Mathlib.Tactic.Positivity
import Mathlib.Tactic.Ring
import NodeStorage.Proofs.Decimal.Shortest

namespace NodeStorage.Decimal.Double

/-- The number that a double stands for, without its sign. -/
def worth (value : Double) : ℚ := value.mantissa * 2 ^ value.exponent

theorem magnitude_spec (value : Double) :
    value.magnitude.2 ≠ 0 ∧ (value.magnitude.1 : ℚ) = value.worth * value.magnitude.2 := by
  rw [magnitude, worth]
  split
  · rename_i whole
    refine ⟨one_ne_zero, ?_⟩
    obtain ⟨places, same⟩ := Int.eq_ofNat_of_zero_le whole
    rw [same]
    simp
  · rename_i small
    refine ⟨(Nat.pow_pos (by decide)).ne', ?_⟩
    obtain ⟨places, same⟩ := Int.eq_ofNat_of_zero_le (show 0 ≤ -value.exponent by omega)
    have exponent : value.exponent = -places := by omega
    rw [same, exponent]
    simp

theorem inUnits_spec (dividend : Nat) {divisor : Nat} (given : divisor ≠ 0) (exponent : Int) :
    (inUnits dividend divisor exponent).2 ≠ 0 ∧
      ((inUnits dividend divisor exponent).1 : ℚ) / (inUnits dividend divisor exponent).2 =
        dividend / divisor / 2 ^ exponent := by
  rw [inUnits]
  split
  · rename_i whole
    obtain ⟨places, same⟩ := Int.eq_ofNat_of_zero_le whole
    refine ⟨Nat.mul_ne_zero given (Nat.pow_pos (by decide)).ne', ?_⟩
    rw [same]
    simp [div_div]
  · rename_i small
    obtain ⟨places, same⟩ := Int.eq_ofNat_of_zero_le (show 0 ≤ -exponent by omega)
    have negated : exponent = -places := by omega
    refine ⟨given, ?_⟩
    rw [same, negated]
    simp [mul_div_right_comm]

theorem worth_nonneg (value : Double) : 0 ≤ value.worth := by
  rw [worth]
  positivity

/-! ### Rounding to a whole number -/

theorem quotient_eq (dividend : Nat) {divisor : Nat} (given : divisor ≠ 0) :
    (dividend : ℚ) / divisor =
      (dividend / divisor : Nat) + (dividend % divisor : Nat) / divisor := by
  have positive : (divisor : ℚ) ≠ 0 := Nat.cast_ne_zero.mpr given
  have parts : (dividend : ℚ) =
      divisor * (dividend / divisor : Nat) + (dividend % divisor : Nat) := by
    exact_mod_cast (Nat.div_add_mod dividend divisor).symm
  rw [parts, add_div, mul_div_cancel_left₀ _ positive]

/-- A quotient grows by a half at most as it is rounded. -/
theorem roundedQuotient_le_half (dividend : Nat) {divisor : Nat} (given : divisor ≠ 0) :
    (roundedQuotient dividend divisor : ℚ) ≤ dividend / divisor + 1 / 2 := by
  have positive : (0 : ℚ) < divisor := by positivity
  have rest : (0 : ℚ) ≤ (dividend % divisor : Nat) / divisor := by positivity
  have up (large : divisor ≤ 2 * (dividend % divisor)) :
      (1 : ℚ) / 2 ≤ (dividend % divisor : Nat) / divisor := by
    have cast : (divisor : ℚ) ≤ 2 * (dividend % divisor : Nat) := by exact_mod_cast large
    rw [le_div_iff₀ positive]
    linarith
  rw [quotient_eq dividend given, roundedQuotient]
  split
  · linarith
  · rename_i notBelow
    have half := up (Nat.le_of_not_lt notBelow)
    split
    · push_cast
      linarith
    · split
      · linarith
      · push_cast
        linarith

/-- A quotient shrinks by a half at most as it is rounded. -/
theorem le_roundedQuotient (dividend : Nat) {divisor : Nat} (given : divisor ≠ 0) :
    (dividend : ℚ) / divisor - 1 / 2 ≤ roundedQuotient dividend divisor := by
  have positive : (0 : ℚ) < divisor := by positivity
  have rest : ((dividend % divisor : Nat) : ℚ) / divisor ≤ 1 := by
    rw [div_le_one positive]
    exact_mod_cast (Nat.mod_lt dividend (Nat.pos_of_ne_zero given)).le
  have down (small : 2 * (dividend % divisor) ≤ divisor) :
      ((dividend % divisor : Nat) : ℚ) / divisor ≤ 1 / 2 := by
    have cast : 2 * ((dividend % divisor : Nat) : ℚ) ≤ divisor := by exact_mod_cast small
    rw [div_le_iff₀ positive]
    linarith
  rw [quotient_eq dividend given, roundedQuotient]
  split
  · rename_i below
    have half := down below.le
    linarith
  · split
    · push_cast
      linarith
    · rename_i notAbove
      have half := down (Nat.le_of_not_lt notAbove)
      split
      · linarith
      · push_cast
        linarith

/-! ### The unit of a quotient -/

/-- A rounded quotient in units of a power of two as a double; `none` beyond the largest double. -/
def ofUnits? (negative : Bool) (mantissa : Nat) (exponent : Int) : Option Double :=
  let parts := if mantissa = mantissaLimit then (mantissaLimit / 2, exponent + 1)
    else (mantissa, exponent)
  if parts.2 > maxExponent then none else some ⟨negative, parts.1, parts.2⟩

theorem worth_of_ofUnits? {negative : Bool} {mantissa : Nat} {exponent : Int} {value : Double}
    (made : ofUnits? negative mantissa exponent = some value) :
    value.worth = mantissa * 2 ^ exponent := by
  rw [ofUnits?, Option.ite_none_left_eq_some] at made
  obtain ⟨-, same⟩ := made
  cases same
  rw [worth]
  split
  · rename_i carried
    rw [carried]
    show ((mantissaLimit / 2 : Nat) : ℚ) * 2 ^ (exponent + 1) = _
    rw [zpow_add_one₀ two_ne_zero]
    norm_num [mantissaLimit]
    ring
  · rfl

theorem ofUnits?_isSome {exponent : Int} (small : exponent ≤ 970) (negative : Bool)
    (mantissa : Nat) : (ofUnits? negative mantissa exponent).isSome = true := by
  rw [ofUnits?, if_neg]
  · rfl
  · simp only [maxExponent]
    split
    · show ¬ exponent + 1 > 971
      omega
    · show ¬ exponent > 971
      omega

/-- The exponent from which a quotient is approached. -/
def estimate (dividend divisor : Nat) : Int :=
  max minExponent ((Nat.log2 dividend : Int) - Nat.log2 divisor - 53)

/-- The exponent in whose unit a quotient is rounded. -/
def unitExponent (dividend divisor : Nat) : Int :=
  if (inUnits dividend divisor (estimate dividend divisor)).1 /
      (inUnits dividend divisor (estimate dividend divisor)).2 ≥ mantissaLimit then
    estimate dividend divisor + 1
  else estimate dividend divisor

/-- **A quotient is rounded in its unit.** -/
theorem ofQuotient?_eq (negative : Bool) {dividend : Nat} (given : dividend ≠ 0) (divisor : Nat) :
    ofQuotient? negative dividend divisor =
      ofUnits? negative
        (roundedQuotient (inUnits dividend divisor (unitExponent dividend divisor)).1
          (inUnits dividend divisor (unitExponent dividend divisor)).2)
        (unitExponent dividend divisor) := by
  rw [ofQuotient?, if_neg given]
  rfl

/-- A quotient is as large as the difference of the logarithms says. -/
theorem quotient_bounds {dividend divisor : Nat} (given : dividend ≠ 0) (whole : divisor ≠ 0) :
    (2 : ℚ) ^ ((dividend.log2 : Int) - divisor.log2 - 1) ≤ dividend / divisor ∧
      (dividend : ℚ) / divisor < 2 ^ ((dividend.log2 : Int) - divisor.log2 + 1) := by
  have positive : (0 : ℚ) < divisor := by positivity
  have least : (2 : ℚ) ^ (dividend.log2 : Int) ≤ dividend := by
    exact_mod_cast Nat.log2_self_le given
  have most : (dividend : ℚ) < 2 ^ ((dividend.log2 : Int) + 1) := by
    exact_mod_cast Nat.lt_log2_self (n := dividend)
  have leastBelow : (2 : ℚ) ^ (divisor.log2 : Int) ≤ divisor := by
    exact_mod_cast Nat.log2_self_le whole
  have mostBelow : (divisor : ℚ) < 2 ^ ((divisor.log2 : Int) + 1) := by
    exact_mod_cast Nat.lt_log2_self (n := divisor)
  constructor
  · rw [le_div_iff₀ positive]
    calc (2 : ℚ) ^ ((dividend.log2 : Int) - divisor.log2 - 1) * divisor
        ≤ 2 ^ ((dividend.log2 : Int) - divisor.log2 - 1) * 2 ^ ((divisor.log2 : Int) + 1) :=
          mul_le_mul_of_nonneg_left mostBelow.le (by positivity)
      _ = 2 ^ (dividend.log2 : Int) := by
          rw [← zpow_add₀ two_ne_zero]
          congr 1
          ring
      _ ≤ dividend := least
  · rw [div_lt_iff₀ positive]
    calc (dividend : ℚ) < 2 ^ ((dividend.log2 : Int) + 1) := most
      _ = 2 ^ ((dividend.log2 : Int) - divisor.log2 + 1) * 2 ^ (divisor.log2 : Int) := by
          rw [← zpow_add₀ two_ne_zero]
          congr 1
          ring
      _ ≤ 2 ^ ((dividend.log2 : Int) - divisor.log2 + 1) * divisor :=
          mul_le_mul_of_nonneg_left leastBelow (by positivity)

/-- The mantissa limit is compared with a quotient of whole numbers by that of their units. -/
theorem limit_le_iff (dividend : Nat) {divisor : Nat} (whole : divisor ≠ 0) (exponent : Int) :
    (inUnits dividend divisor exponent).1 / (inUnits dividend divisor exponent).2 ≥ mantissaLimit ↔
      (2 : ℚ) ^ 53 * 2 ^ exponent ≤ dividend / divisor := by
  obtain ⟨bottom, units⟩ := inUnits_spec dividend whole exponent
  have positive : (0 : ℚ) < (inUnits dividend divisor exponent).2 := by positivity
  have limit : ((2 : ℚ) ^ 53) = mantissaLimit := by norm_num [mantissaLimit]
  rw [ge_iff_le, Nat.le_div_iff_mul_le (Nat.pos_of_ne_zero bottom), limit,
    ← le_div_iff₀ (by positivity), ← units, le_div_iff₀ positive]
  exact_mod_cast Iff.rfl

theorem pow_mul_zpow (few : Nat) (exponent : Int) :
    (2 : ℚ) ^ few * 2 ^ exponent = 2 ^ (few + exponent) := by
  rw [zpow_add₀ two_ne_zero, zpow_natCast]

/-- **A quotient has fifty-three digits in the unit in which it is rounded**, or this is the
smallest unit. -/
theorem unitExponent_spec {dividend divisor : Nat} (given : dividend ≠ 0) (whole : divisor ≠ 0) :
    (unitExponent dividend divisor = minExponent ∨
        (2 : ℚ) ^ 52 * 2 ^ unitExponent dividend divisor ≤ dividend / divisor) ∧
      (dividend : ℚ) / divisor < 2 ^ 53 * 2 ^ unitExponent dividend divisor := by
  obtain ⟨least, most⟩ := quotient_bounds given whole
  rw [unitExponent]
  split
  · rename_i large
    have atLeast := (limit_le_iff dividend whole _).mp large
    rw [pow_mul_zpow] at atLeast
    refine ⟨Or.inr ?_, ?_⟩
    · rw [pow_mul_zpow]
      refine le_trans (le_of_eq ?_) atLeast
      congr 1
      push_cast
      ring
    · rw [pow_mul_zpow]
      refine lt_of_lt_of_le most (zpow_le_zpow_right₀ one_le_two ?_)
      rw [estimate]
      push_cast
      omega
  · rename_i small
    refine ⟨?_, not_le.mp (mt (limit_le_iff dividend whole _).mpr small)⟩
    by_cases smallest : estimate dividend divisor = minExponent
    · exact Or.inl smallest
    · refine Or.inr (le_trans ?_ least)
      rw [pow_mul_zpow]
      refine zpow_le_zpow_right₀ one_le_two ?_
      rw [estimate] at smallest ⊢
      push_cast
      omega

/-! ### What rounding changes -/

section Rounded

variable {negative : Bool} {dividend divisor : Nat} {value : Double}

/-- The mantissa that a quotient is rounded to, in its unit. -/
def roundedMantissa (dividend divisor : Nat) : Nat :=
  roundedQuotient (inUnits dividend divisor (unitExponent dividend divisor)).1
    (inUnits dividend divisor (unitExponent dividend divisor)).2

/-- **A quotient is rounded by half a unit at most.** -/
theorem roundedMantissa_bounds (dividend : Nat) (whole : divisor ≠ 0) :
    (roundedMantissa dividend divisor : ℚ) ≤
        dividend / divisor / 2 ^ unitExponent dividend divisor + 1 / 2 ∧
      (dividend : ℚ) / divisor / 2 ^ unitExponent dividend divisor - 1 / 2 ≤
        roundedMantissa dividend divisor := by
  obtain ⟨bottom, units⟩ := inUnits_spec dividend whole (unitExponent dividend divisor)
  rw [← units]
  exact ⟨roundedQuotient_le_half _ bottom, le_roundedQuotient _ bottom⟩

/-- The mantissa has fifty-three digits, or is the next number. -/
theorem roundedMantissa_le (given : dividend ≠ 0) (whole : divisor ≠ 0) :
    roundedMantissa dividend divisor ≤ mantissaLimit := by
  have positive : (0 : ℚ) < 2 ^ unitExponent dividend divisor := zpow_pos two_pos _
  have below := (div_lt_iff₀ positive).mpr (unitExponent_spec given whole).2
  have rounded := (roundedMantissa_bounds dividend whole).1
  have limit : ((mantissaLimit : Nat) : ℚ) = 2 ^ 53 := by norm_num [mantissaLimit]
  have next : (roundedMantissa dividend divisor : ℚ) < (mantissaLimit + 1 : Nat) := by
    push_cast
    linarith
  exact Nat.lt_succ_iff.mp (Nat.cast_lt.mp next)

theorem worth_bounds (given : dividend ≠ 0) (whole : divisor ≠ 0)
    (made : ofQuotient? negative dividend divisor = some value) :
    value.worth ≤ dividend / divisor + 2 ^ unitExponent dividend divisor / 2 ∧
      (dividend : ℚ) / divisor - 2 ^ unitExponent dividend divisor / 2 ≤ value.worth := by
  rw [ofQuotient?_eq negative given] at made
  rw [worth_of_ofUnits? made]
  have positive : (0 : ℚ) < 2 ^ unitExponent dividend divisor := zpow_pos two_pos _
  obtain ⟨above, below⟩ := roundedMantissa_bounds dividend whole
  have upper := mul_le_mul_of_nonneg_right above positive.le
  have lower := mul_le_mul_of_nonneg_right below positive.le
  rw [add_mul, div_mul_cancel₀ _ positive.ne'] at upper
  rw [sub_mul, div_mul_cancel₀ _ positive.ne'] at lower
  unfold roundedMantissa at upper lower
  constructor <;> linarith

/-- What a quotient is rounded by, relative to itself. -/
def precision : ℚ := 1 / 2 ^ 53

/-- **A quotient that is not small grows by one part in 2^53 at most.** -/
theorem worth_le_of_one_le (whole : divisor ≠ 0) (large : 1 ≤ (dividend : ℚ) / divisor)
    (made : ofQuotient? negative dividend divisor = some value) :
    value.worth ≤ dividend / divisor * (1 + precision) ∧
      (dividend : ℚ) / divisor * (1 - precision) ≤ value.worth := by
  have given : dividend ≠ 0 := by
    rintro rfl
    rw [Nat.cast_zero, zero_div] at large
    linarith
  obtain ⟨exact', below⟩ := unitExponent_spec given whole
  have unit : (2 : ℚ) ^ unitExponent dividend divisor ≤ dividend / divisor / 2 ^ 52 := by
    rcases exact' with smallest | digits
    · rw [smallest] at below
      have tiny : (2 : ℚ) ^ 53 * 2 ^ minExponent ≤ 1 := by
        rw [pow_mul_zpow]
        exact zpow_le_one_of_nonpos₀ one_le_two (by decide)
      linarith
    · rw [le_div_iff₀ (by positivity)]
      linarith
  obtain ⟨upper, lower⟩ := worth_bounds given whole made
  rw [precision]
  constructor <;> linarith

/-- A quotient grows to no more than twice itself, or by less than one. -/
theorem worth_le_double (whole : divisor ≠ 0)
    (made : ofQuotient? negative dividend divisor = some value) :
    value.worth ≤ 2 * (dividend / divisor) + 1 := by
  have positive : (0 : ℚ) ≤ dividend / divisor := by positivity
  by_cases given : dividend = 0
  · rw [ofQuotient?, if_pos given] at made
    cases made
    rw [worth, Nat.cast_zero, zero_mul]
    linarith
  · have upper := (worth_bounds given whole made).1
    have unit : (2 : ℚ) ^ unitExponent dividend divisor ≤ 2 * (dividend / divisor) + 2 := by
      rcases (unitExponent_spec given whole).1 with smallest | digits
      · rw [smallest]
        have tiny : (2 : ℚ) ^ minExponent ≤ 1 := zpow_le_one_of_nonpos₀ one_le_two (by decide)
        linarith
      · have unit : (0 : ℚ) < 2 ^ unitExponent dividend divisor := zpow_pos two_pos _
        linarith
    linarith

/-! ### The range of doubles -/

/-- A double that a machine word has room for. -/
structure InRange (value : Double) : Prop where
  mantissa : value.mantissa < mantissaLimit
  exponent : value.exponent ≤ maxExponent

theorem inRange_of_ofUnits? {mantissa : Nat} {exponent : Int} (small : mantissa ≤ mantissaLimit)
    (made : ofUnits? negative mantissa exponent = some value) : value.InRange := by
  rw [ofUnits?, Option.ite_none_left_eq_some] at made
  obtain ⟨inside, same⟩ := made
  cases same
  refine ⟨?_, not_lt.mp inside⟩
  dsimp only
  split
  · show mantissaLimit / 2 < mantissaLimit
    decide
  · omega

/-- **What was rounded is in the range of doubles.** -/
theorem inRange_of_ofQuotient? (whole : divisor ≠ 0)
    (made : ofQuotient? negative dividend divisor = some value) : value.InRange := by
  by_cases given : dividend = 0
  · rw [ofQuotient?, if_pos given] at made
    cases made
    exact ⟨show 0 < mantissaLimit by decide, show minExponent ≤ maxExponent by decide⟩
  · rw [ofQuotient?_eq negative given] at made
    exact inRange_of_ofUnits? (roundedMantissa_le given whole) made

/-- What the largest double and half its unit come to. -/
def edge : ℚ := (2 ^ 53 - 1 / 2) * 2 ^ maxExponent

/-- **What is less than half a unit above the largest double has a double.** -/
theorem ofQuotient?_isSome_of_lt (negative : Bool) (whole : divisor ≠ 0)
    (small : (dividend : ℚ) / divisor < edge) :
    (ofQuotient? negative dividend divisor).isSome = true := by
  by_cases given : dividend = 0
  · rw [ofQuotient?, if_pos given]
    rfl
  · have fits : unitExponent dividend divisor ≤ maxExponent := by
      rcases (unitExponent_spec given whole).1 with smallest | digits
      · rw [smallest]
        decide
      · by_contra large
        have unit : (2 : ℚ) ^ (maxExponent + 1) ≤ 2 ^ unitExponent dividend divisor :=
          zpow_le_zpow_right₀ one_le_two (by omega)
        have largest : (0 : ℚ) < 2 ^ maxExponent := zpow_pos two_pos _
        rw [zpow_add_one₀ two_ne_zero] at unit
        rw [edge] at small
        linarith
    rw [ofQuotient?_eq negative given]
    rcases Int.lt_or_eq_of_le fits with lower | top
    · exact ofUnits?_isSome (Int.le_of_lt_add_one lower) _ _
    · -- In the largest unit there is no room for a carry, and none is needed.
      have rounded := (roundedMantissa_bounds dividend whole).1
      have below := (div_lt_iff₀ (zpow_pos two_pos maxExponent)).mpr small
      have limit : ((mantissaLimit : Nat) : ℚ) = 2 ^ 53 := by norm_num [mantissaLimit]
      have noCarry : (roundedMantissa dividend divisor : ℚ) < (mantissaLimit : Nat) := by
        rw [top] at rounded
        rw [limit]
        linarith
      have same := (Nat.cast_lt.mp noCarry).ne
      unfold roundedMantissa at same
      rw [ofUnits?, if_neg same, if_neg (not_lt.mpr fits)]
      rfl

end Rounded

/-! ### Products and quotients -/

section Operations

variable {left right value : Double}

theorem product_eq (left right : Double) :
    ((left.magnitude.1 * right.magnitude.1 : Nat) : ℚ) /
        (left.magnitude.2 * right.magnitude.2 : Nat) = left.worth * right.worth := by
  obtain ⟨leftGiven, leftWorth⟩ := magnitude_spec left
  obtain ⟨rightGiven, rightWorth⟩ := magnitude_spec right
  have positive : ((left.magnitude.2 * right.magnitude.2 : Nat) : ℚ) ≠ 0 :=
    Nat.cast_ne_zero.mpr (Nat.mul_ne_zero leftGiven rightGiven)
  rw [div_eq_iff positive, Nat.cast_mul, Nat.cast_mul, leftWorth, rightWorth]
  ring

theorem worth_pos (given : value.mantissa ≠ 0) : 0 < value.worth := by
  rw [worth]
  positivity

theorem quotient_eq_div (left : Double) (given : right.mantissa ≠ 0) :
    ((left.magnitude.1 * right.magnitude.2 : Nat) : ℚ) /
        (left.magnitude.2 * right.magnitude.1 : Nat) = left.worth / right.worth := by
  obtain ⟨leftGiven, leftWorth⟩ := magnitude_spec left
  obtain ⟨rightGiven, rightWorth⟩ := magnitude_spec right
  have top := (magnitude_pos right given).1.ne'
  have positive : ((left.magnitude.2 * right.magnitude.1 : Nat) : ℚ) ≠ 0 :=
    Nat.cast_ne_zero.mpr (Nat.mul_ne_zero leftGiven top)
  rw [div_eq_div_iff positive (worth_pos given).ne', Nat.cast_mul, Nat.cast_mul, leftWorth,
    rightWorth]
  ring

theorem mul?_isSome_of_lt (small : left.worth * right.worth < edge) :
    (left.mul? right).isSome = true := by
  rw [← product_eq] at small
  refine ofQuotient?_isSome_of_lt _ ?_ small
  exact Nat.mul_ne_zero (magnitude_spec left).1 (magnitude_spec right).1

theorem div?_isSome_of_lt (given : right.mantissa ≠ 0) (small : left.worth / right.worth < edge) :
    (left.div? right).isSome = true := by
  rw [← quotient_eq_div left given] at small
  refine ofQuotient?_isSome_of_lt _ ?_ small
  exact Nat.mul_ne_zero (magnitude_spec left).1 (magnitude_pos right given).1.ne'

theorem worth_le_of_div? (given : right.mantissa ≠ 0) (made : left.div? right = some value) :
    value.worth ≤ 2 * (left.worth / right.worth) + 1 := by
  rw [← quotient_eq_div left given]
  refine worth_le_double ?_ made
  exact Nat.mul_ne_zero (magnitude_spec left).1 (magnitude_pos right given).1.ne'

theorem inRange_of_mul? (made : left.mul? right = some value) : value.InRange :=
  inRange_of_ofQuotient? (Nat.mul_ne_zero (magnitude_spec left).1 (magnitude_spec right).1) made

theorem inRange_of_div? (given : right.mantissa ≠ 0) (made : left.div? right = some value) :
    value.InRange :=
  inRange_of_ofQuotient?
    (Nat.mul_ne_zero (magnitude_spec left).1 (magnitude_pos right given).1.ne') made

end Operations

/-! ### Powers of ten -/

/-- A number of up to 10^308 is in the range of doubles. -/
theorem pow_lt_edge {places : Nat} (few : places ≤ 308) : (10 : ℚ) ^ places < edge := by
  have whole : 2 * 10 ^ 308 < 18014398509481983 * 2 ^ 971 := by decide +kernel
  have largest : (10 : ℚ) ^ 308 < edge := by
    have cast : (2 : ℚ) * 10 ^ 308 < 18014398509481983 * 2 ^ 971 := by exact_mod_cast whole
    have unit : (2 : ℚ) ^ maxExponent = 2 ^ 971 := zpow_natCast 2 971
    rw [edge, unit]
    generalize (2 : ℚ) ^ 971 = unit at cast ⊢
    generalize (10 : ℚ) ^ 308 = power at cast ⊢
    linarith
  exact lt_of_le_of_lt (pow_le_pow_right₀ (by norm_num) few) largest

/-- **A power of ten is rounded by one part in 2^53 at most.** -/
theorem powerOfTen_spec {places : Nat} (few : places ≤ 308) :
    (powerOfTen places).worth ≤ 10 ^ places * (1 + precision) ∧
      (10 : ℚ) ^ places * (1 - precision) ≤ (powerOfTen places).worth := by
  have whole : (((10 ^ places : Nat) : ℚ) / (1 : Nat)) = 10 ^ places := by
    push_cast
    rw [div_one]
  have small : ((10 ^ places : Nat) : ℚ) / (1 : Nat) < edge := by
    rw [whole]
    exact pow_lt_edge few
  obtain ⟨scale, made⟩ := Option.isSome_iff_exists.mp
    (ofQuotient?_isSome_of_lt false one_ne_zero small)
  have same : powerOfTen places = scale := by
    show (ofQuotient? false (10 ^ places) 1).getD zero = scale
    rw [made]
    rfl
  have large : (1 : ℚ) ≤ ((10 ^ places : Nat) : ℚ) / (1 : Nat) := by
    rw [whole]
    exact one_le_pow₀ (by norm_num)
  have bounds := worth_le_of_one_le one_ne_zero large made
  rwa [whole, ← same] at bounds

theorem powerOfTen_ge {places : Nat} (few : places ≤ 308) :
    (10 : ℚ) ^ places / 2 ≤ (powerOfTen places).worth := by
  have positive : (0 : ℚ) < 10 ^ places := by positivity
  have lower := (powerOfTen_spec few).2
  have half : (10 : ℚ) ^ places * (1 / 2) ≤ 10 ^ places * (1 - precision) :=
    mul_le_mul_of_nonneg_left (by norm_num [precision]) positive.le
  linarith

theorem powerOfTen_ne_zero {places : Nat} (few : places ≤ 308) :
    (powerOfTen places).mantissa ≠ 0 := by
  intro zero
  have lower := powerOfTen_ge few
  have positive : (0 : ℚ) < 10 ^ places := by positivity
  rw [worth, zero, Nat.cast_zero, zero_mul] at lower
  linarith

/-! ### Scaling -/

/-- A number from which rounding three times does not lead beyond the largest double. -/
def reach : ℚ := (2 ^ 53 - 7 / 2) * 2 ^ maxExponent

theorem reach_lt_edge : reach < edge := by
  have unit : (0 : ℚ) < 2 ^ maxExponent := zpow_pos two_pos _
  rw [reach, edge]
  linarith

theorem reach_lt_pow : reach < 10 ^ 309 := by
  have whole : 18014398509481977 * 2 ^ 971 < 2 * 10 ^ 309 := by decide +kernel
  have cast : (18014398509481977 : ℚ) * 2 ^ 971 < 2 * 10 ^ 309 := by exact_mod_cast whole
  have unit : (2 : ℚ) ^ maxExponent = 2 ^ 971 := zpow_natCast 2 971
  rw [reach, unit]
  generalize (2 : ℚ) ^ 971 = unit at cast ⊢
  generalize (10 : ℚ) ^ 309 = power at cast ⊢
  linarith

theorem places_le_of_le_reach {number places : Nat} (given : number ≠ 0)
    (small : (number : ℚ) * 10 ^ places ≤ reach) : places ≤ 308 := by
  by_contra many
  have one : (1 : ℚ) ≤ number := by exact_mod_cast Nat.one_le_iff_ne_zero.mpr given
  have power : (10 : ℚ) ^ 309 ≤ 10 ^ places := pow_le_pow_right₀ (by norm_num) (by omega)
  have product : (10 : ℚ) ^ places ≤ number * 10 ^ places :=
    le_mul_of_one_le_left (by positivity) one
  exact absurd (power.trans (product.trans small)) (not_le.mpr reach_lt_pow)

/-- **A whole number is rounded by one part in 2^53 at most.** -/
theorem ofNat?_spec {number : Nat} (given : number ≠ 0) (small : (number : ℚ) < edge) :
    ∃ value, ofNat? number = some value ∧ value.worth ≤ number * (1 + precision) := by
  have whole : (number : ℚ) / (1 : Nat) = number := by rw [Nat.cast_one, div_one]
  obtain ⟨value, made⟩ := Option.isSome_iff_exists.mp
    (ofQuotient?_isSome_of_lt false one_ne_zero (whole ▸ small))
  have large : (1 : ℚ) ≤ (number : ℚ) / (1 : Nat) := by
    rw [whole]
    exact_mod_cast Nat.one_le_iff_ne_zero.mpr given
  refine ⟨value, made, ?_⟩
  have upper := (worth_le_of_one_le one_ne_zero large made).1
  rwa [whole] at upper

theorem edge_pos : 0 < edge := by
  have unit : (0 : ℚ) < 2 ^ maxExponent := zpow_pos two_pos _
  rw [edge]
  linarith

/-- Zero stays zero. -/
theorem scaleByTen?_isSome_of_zero {value : Double} (zero : value.mantissa = 0) (fuel : Nat)
    (places : Int) : (value.scaleByTen? fuel places).isSome = true := by
  have nothing : value.worth = 0 := by rw [worth, zero, Nat.cast_zero, zero_mul]
  cases fuel with
  | zero => rfl
  | succ fuel =>
    rw [scaleByTen?]
    split
    · rename_i few
      split
      · refine mul?_isSome_of_lt ?_
        rw [nothing, zero_mul]
        exact edge_pos
      · refine div?_isSome_of_lt (powerOfTen_ne_zero few) ?_
        rw [nothing, zero_div]
        exact edge_pos
    · rfl

/-- **A number times a power of ten has a double**, however often it is rounded on the way. -/
theorem scaleUp_isSome {number places : Nat} (small : (number : ℚ) * 10 ^ places ≤ reach)
    (fuel : Nat) :
    ((ofNat? number).bind fun value => value.scaleByTen? (fuel + 1) places).isSome = true := by
  by_cases zero : number = 0
  · rw [zero]
    exact scaleByTen?_isSome_of_zero rfl _ _
  · have few := places_le_of_le_reach zero small
    have power : (1 : ℚ) ≤ 10 ^ places := one_le_pow₀ (by norm_num)
    have alone : (number : ℚ) ≤ number * 10 ^ places :=
      le_mul_of_one_le_right (Nat.cast_nonneg _) power
    obtain ⟨value, made, valueWorth⟩ :=
      ofNat?_spec zero (lt_of_le_of_lt (alone.trans small) reach_lt_edge)
    have unit : (0 : ℚ) < 2 ^ maxExponent := zpow_pos two_pos _
    -- Two roundings lead from the reach to below the edge; the third is that of the product.
    have product : value.worth * (powerOfTen places).worth < edge := by
      calc value.worth * (powerOfTen places).worth
          ≤ number * (1 + precision) * (10 ^ places * (1 + precision)) :=
            mul_le_mul valueWorth (powerOfTen_spec few).1 (worth_nonneg _)
              (mul_nonneg (Nat.cast_nonneg _) (by norm_num [precision]))
        _ = number * 10 ^ places * (1 + precision) ^ 2 := by ring
        _ ≤ reach * (1 + precision) ^ 2 :=
            mul_le_mul_of_nonneg_right small (by positivity)
        _ < edge := by
            rw [reach, edge, mul_right_comm]
            refine mul_lt_mul_of_pos_right ?_ unit
            norm_num [precision]
    rw [made, Option.bind_some, scaleByTen?, Int.natAbs_natCast, if_pos few,
      if_pos (Int.natCast_nonneg _)]
    exact mul?_isSome_of_lt product

/-- What a number may be worth as it is scaled down. -/
def ceiling : ℚ := 2 ^ 100

theorem ceiling_lt_edge : 2 * ceiling < edge := by
  have unit : (2 : ℚ) ^ 101 ≤ 2 ^ maxExponent := by
    rw [← zpow_natCast]
    exact zpow_le_zpow_right₀ one_le_two (by decide)
  have positive : (0 : ℚ) < 2 ^ maxExponent := zpow_pos two_pos _
  rw [ceiling, edge]
  linarith

/-- **A number divided by a power of ten has a double.** -/
theorem scaleDown_isSome (fuel : Nat) {value : Double} (small : value.worth ≤ ceiling)
    {places : Int} (negative : places < 0) : (value.scaleByTen? fuel places).isSome = true := by
  induction fuel generalizing value places with
  | zero => rfl
  | succ fuel ih =>
    -- Divided by at least a half, the number is not worth more than twice the ceiling.
    have isSome {few : Nat} (inside : few ≤ 308) :
        (value.div? (powerOfTen few)).isSome = true := by
      refine div?_isSome_of_lt (powerOfTen_ne_zero inside) (lt_of_le_of_lt ?_ ceiling_lt_edge)
      have half : (1 : ℚ) / 2 ≤ (powerOfTen few).worth := by
        have power : (1 : ℚ) ≤ 10 ^ few := one_le_pow₀ (by norm_num)
        linarith [powerOfTen_ge inside]
      rw [div_le_iff₀ (worth_pos (powerOfTen_ne_zero inside))]
      calc value.worth ≤ ceiling := small
        _ = 2 * ceiling * (1 / 2) := by ring
        _ ≤ 2 * ceiling * (powerOfTen few).worth :=
            mul_le_mul_of_nonneg_left half (by norm_num [ceiling])
    rw [scaleByTen?]
    split
    · rename_i few
      rw [if_neg (not_le.mpr negative)]
      exact isSome few
    · rename_i many
      split
      · rfl
      · rw [if_neg (not_le.mpr negative)]
        obtain ⟨smaller, made⟩ := Option.isSome_iff_exists.mp (isSome (Nat.le_refl 308))
        rw [made, Option.bind_some]
        refine ih ?_ (by omega)
        have large : (4 : ℚ) ≤ (powerOfTen 308).worth := by
          have power : (10 : ℚ) ^ 1 ≤ 10 ^ 308 := pow_le_pow_right₀ (by norm_num) (by norm_num)
          have lower := powerOfTen_ge (Nat.le_refl 308)
          generalize (10 : ℚ) ^ 308 = power' at power lower
          linarith
        have quotient : value.worth / (powerOfTen 308).worth ≤ value.worth / 4 :=
          div_le_div_of_nonneg_left value.worth_nonneg (by norm_num) large
        have upper := worth_le_of_div? (powerOfTen_ne_zero (Nat.le_refl 308)) made
        have room : (2 : ℚ) ≤ ceiling := by norm_num [ceiling]
        linarith

/-- **A number within reach has a double** after it is scaled by a power of ten. -/
theorem scaleByTen?_isSome {number : Nat} {places : Int} (word : number ≤ 2 ^ 99)
    (small : (number : ℚ) * 10 ^ places ≤ reach) (fuel : Nat) :
    ((ofNat? number).bind fun value => value.scaleByTen? (fuel + 1) places).isSome = true := by
  by_cases negative : places < 0
  · by_cases zero : number = 0
    · rw [zero]
      exact scaleByTen?_isSome_of_zero rfl _ _
    · have cast : (number : ℚ) ≤ 2 ^ 99 := by exact_mod_cast word
      have below : (number : ℚ) < edge := by
        refine lt_of_le_of_lt cast (lt_of_le_of_lt ?_ ceiling_lt_edge)
        norm_num [ceiling]
      obtain ⟨value, made, valueWorth⟩ := ofNat?_spec zero below
      rw [made, Option.bind_some]
      refine scaleDown_isSome _ (valueWorth.trans ?_) negative
      calc (number : ℚ) * (1 + precision) ≤ 2 ^ 99 * (1 + precision) :=
            mul_le_mul_of_nonneg_right cast (by norm_num [precision])
        _ ≤ ceiling := by norm_num [precision, ceiling]
  · obtain ⟨up, rfl⟩ := Int.eq_ofNat_of_zero_le (not_lt.mp negative)
    exact scaleUp_isSome (by exact_mod_cast small) fuel

/-- **What is scaled stays in the range of doubles.** -/
theorem InRange.scaleByTen? (fuel : Nat) {value scaled : Double} (inRange : value.InRange)
    {places : Int} (made : value.scaleByTen? fuel places = some scaled) : scaled.InRange := by
  induction fuel generalizing value places with
  | zero =>
    cases made
    exact ⟨by decide, by decide⟩
  | succ fuel ih =>
    rw [Double.scaleByTen?] at made
    split at made
    · rename_i few
      split at made
      · exact inRange_of_mul? made
      · exact inRange_of_div? (powerOfTen_ne_zero few) made
    · split at made
      · cases made
        exact inRange
      · split at made
        · cases made
        · obtain ⟨smaller, divided, rest⟩ := Option.bind_eq_some_iff.mp made
          exact ih (inRange_of_div? (powerOfTen_ne_zero (Nat.le_refl 308)) divided) rest

end NodeStorage.Decimal.Double
