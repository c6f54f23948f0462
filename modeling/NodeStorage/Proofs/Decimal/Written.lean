/-
**Written doubles are read.**

A decimal that is written for a double lies in its interval, so it is at most half a unit above it
(`Double.worth_shortest_le`). Its numeral is worth the decimal (`Numeral.worth_ofScientific`), and
of a numeral no more is read than it is worth (`Numeral.decimal?_isSome`). So what is written is
within reach, but for the three largest doubles, which are checked one by one. All in all **the
numeral of every double is read** (`Numeral.value?_ofDouble`), if not always as the same double.
-/

import NodeStorage.Proofs.Decimal.Range

namespace NodeStorage.Decimal

/-! ### What a decimal is worth -/

/-- The number that a decimal stands for. -/
def Scientific.worth (number : Scientific) : ℚ := number.digits * 10 ^ number.exponent

/-- Trailing zeros are worth nothing. -/
theorem Scientific.worth_normalize (fuel : Nat) (number : Scientific) :
    (number.normalize fuel).worth = number.worth := by
  induction fuel generalizing number with
  | zero => rfl
  | succ fuel ih =>
    rw [normalize]
    split
    · rename_i zeros
      have parts : (number.digits : ℚ) = (number.digits / 10 : Nat) * 10 := by
        exact_mod_cast (Nat.div_mul_cancel (Nat.dvd_of_mod_eq_zero zeros.2)).symm
      rw [ih, worth, worth, parts, zpow_add_one₀ (by norm_num)]
      ring
    · rfl

namespace Double

theorem worth_quarter (value : Double) : 4 * value.quarter.worth = 2 ^ value.exponent := by
  rw [quarter, worth, zpow_sub₀ two_ne_zero, Nat.cast_one, one_mul]
  norm_num
  ring

theorem inQuarters_spec (value : Double) (exponent : Int) :
    ((value.inQuarters exponent).1 : ℚ) * value.quarter.worth =
      10 ^ exponent * (value.inQuarters exponent).2 := by
  have unit := (magnitude_spec value.quarter).2
  rw [inQuarters]
  split
  · rename_i whole
    obtain ⟨places, same⟩ := Int.eq_ofNat_of_zero_le whole
    rw [same]
    simp [unit]
    ring
  · rename_i small
    obtain ⟨places, same⟩ := Int.eq_ofNat_of_zero_le (show 0 ≤ -exponent by omega)
    have negated : exponent = -places := by omega
    rw [same, negated]
    simp only [zpow_neg, zpow_natCast, Int.toNat_natCast, Nat.cast_mul, Nat.pow_eq, Nat.cast_pow,
      Nat.cast_ofNat, unit]
    rw [mul_comm ((10 : ℚ) ^ places)⁻¹, mul_inv_cancel_right₀ (by positivity), mul_comm]

/-- What lies in the interval of a double is at most half a unit above it. -/
theorem worth_le_of_isInside {value : Double} {number : Scientific}
    (inside : value.isInside number = true) :
    number.worth ≤ (value.mantissa + 1 / 2) * 2 ^ value.exponent := by
  have bottom : (0 : ℚ) < (value.inQuarters number.exponent).2 := by
    exact_mod_cast (inQuarters_pos value number.exponent).2
  have cast : (number.digits : ℚ) * (value.inQuarters number.exponent).1 ≤
      (4 * value.mantissa + 2) * (value.inQuarters number.exponent).2 := by
    exact_mod_cast le_of_isInside inside
  have scaled := mul_le_mul_of_nonneg_right cast value.quarter.worth_nonneg
  rw [mul_assoc, inQuarters_spec] at scaled
  rw [Scientific.worth, ← worth_quarter]
  refine le_of_mul_le_mul_right ?_ bottom
  calc (number.digits : ℚ) * 10 ^ number.exponent * (value.inQuarters number.exponent).2
      = number.digits * (10 ^ number.exponent * (value.inQuarters number.exponent).2) := by ring
    _ ≤ (4 * value.mantissa + 2) * (value.inQuarters number.exponent).2 * value.quarter.worth :=
        scaled
    _ = (value.mantissa + 1 / 2) * (4 * value.quarter.worth) *
          (value.inQuarters number.exponent).2 := by ring

/-- **The decimal that is written for a double is at most half a unit above it.** -/
theorem worth_shortest_le (value : Double) :
    (value.shortest.normalize 20).worth ≤ (value.mantissa + 1 / 2) * 2 ^ value.exponent := by
  rw [Scientific.worth_normalize]
  rcases shortest_cases value with zero | inside
  · rw [zero, Scientific.worth, Nat.cast_zero, zero_mul]
    positivity
  · exact worth_le_of_isInside inside

/-- It is one of the three largest doubles. -/
def IsLargest (value : Double) : Prop :=
  value.exponent = maxExponent ∧ mantissaLimit - 3 ≤ value.mantissa

/-- But for the largest doubles, half a unit above a double is within reach. -/
theorem InRange.le_reach {value : Double} (inRange : value.InRange)
    (smaller : ¬ value.IsLargest) :
    (value.mantissa + 1 / 2) * 2 ^ value.exponent ≤ reach := by
  have unit : (0 : ℚ) < 2 ^ maxExponent := zpow_pos two_pos _
  have mantissa := inRange.mantissa
  rw [reach]
  rcases Int.lt_or_eq_of_le inRange.exponent with lower | top
  · have cast : (value.mantissa : ℚ) + 1 ≤ 2 ^ 53 := by
      exact_mod_cast mantissa
    have half : (2 : ℚ) ^ value.exponent ≤ 2 ^ (maxExponent - 1) :=
      zpow_le_zpow_right₀ one_le_two (by omega)
    rw [zpow_sub_one₀ two_ne_zero] at half
    calc ((value.mantissa : ℚ) + 1 / 2) * 2 ^ value.exponent
        ≤ 2 ^ 53 * (2 ^ maxExponent * 2⁻¹) :=
          mul_le_mul (by linarith) half (by positivity) (by positivity)
      _ ≤ (2 ^ 53 - 7 / 2) * 2 ^ maxExponent := by linarith
  · have few : value.mantissa + 4 ≤ mantissaLimit := by
      have below : ¬ mantissaLimit - 3 ≤ value.mantissa := fun large => smaller ⟨top, large⟩
      omega
    have cast : (value.mantissa : ℚ) + 4 ≤ 2 ^ 53 := by exact_mod_cast few
    rw [top]
    exact mul_le_mul_of_nonneg_right (by linarith) unit.le

end Double

end NodeStorage.Decimal

namespace NodeStorage.Json

open Decimal.Double

namespace Numeral

/-! ### What a numeral is worth -/

/-- What an exponent adds to the places in front of the point. -/
def shift : Option (Bool × List Char) → Int
  | none => 0
  | some (negative, digits) =>
    if negative then -(Nat.ofDigitChars 10 digits 0 : Int) else Nat.ofDigitChars 10 digits 0

/-- The number that a numeral stands for, without its sign. -/
def worth (numeral : Numeral) : ℚ :=
  Nat.ofDigitChars 10 (numeral.whole ++ numeral.fraction.getD []) 0 *
    10 ^ (shift numeral.exponent - (numeral.fraction.getD []).length)

/-- No more digits are read than fit into 64 bits, and they are worth no more than all of them. -/
theorem digitsRead_spec {whole : Nat} (fits : whole ≤ Text.maxUnsigned)
    (fraction : Option (List Char)) :
    (digitsRead whole fraction).1 ≤ Text.maxUnsigned ∧
      ((digitsRead whole fraction).1 : ℚ) * 10 ^ (-(digitsRead whole fraction).2 : ℤ) ≤
        Nat.ofDigitChars 10 (fraction.getD []) whole *
          10 ^ (-(fraction.getD []).length : ℤ) := by
  cases fraction with
  | none => exact ⟨fits, le_refl _⟩
  | some digits =>
    refine ⟨takeDigits_le fits digits, ?_⟩
    obtain ⟨value, rest, taken⟩ : ∃ value rest, takeDigits whole digits = (value, rest) :=
      ⟨_, _, rfl⟩
    obtain ⟨fewer, made⟩ := takeDigits_spec taken
    have part : value * 10 ^ rest.length ≤ Nat.ofDigitChars 10 digits whole :=
      Nat.le_of_add_right_le made.ge
    have cast : (value : ℚ) * 10 ^ rest.length ≤ Nat.ofDigitChars 10 digits whole := by
      exact_mod_cast part
    have places : (10 : ℚ) ^ (-((digits.length - rest.length : Nat) : ℤ)) =
        10 ^ rest.length * 10 ^ (-(digits.length : ℤ)) := by
      rw [← zpow_natCast, ← zpow_add₀ (by norm_num)]
      congr 1
      omega
    rw [digitsRead, taken, Option.getD_some]
    dsimp only
    rw [places, ← mul_assoc]
    exact mul_le_mul_of_nonneg_right cast (by positivity)

/-- **A numeral is read as its first digits, scaled by its exponent and by the digits after the
point**, which is within reach if the numeral is. -/
theorem decimal?_isSome {numeral : Numeral}
    (short : Nat.ofDigitChars 10 numeral.whole 0 ≤ Text.maxUnsigned)
    (small : numeral.worth ≤ reach)
    (modest : ∀ digits, numeral.exponent = some (false, digits) →
      Nat.ofDigitChars 10 digits 0 ≤ 2147483647) :
    numeral.decimal?.isSome = true := by
  obtain ⟨negative, whole, fraction, exponent⟩ := numeral
  obtain ⟨word, worthRead⟩ := digitsRead_spec short fraction
  rw [isSome_decimal? (takeDigits_eq short)]
  dsimp only at short word worthRead modest ⊢
  rw [worth, Nat.ofDigitChars_append, sub_eq_add_neg, zpow_add₀ (by norm_num)] at small
  dsimp only at small
  generalize digitsRead (Nat.ofDigitChars 10 whole 0) fraction = read at word worthRead ⊢
  have scaled : (scaled? read.1 (shift exponent - read.2)).isSome = true := by
    refine scaleByTen?_isSome (le_trans word (by decide)) (le_trans ?_ small) 7
    have scale : (0 : ℚ) ≤ 10 ^ shift exponent := by positivity
    calc (read.1 : ℚ) * 10 ^ (shift exponent - read.2)
        = 10 ^ shift exponent * (read.1 * 10 ^ (-read.2 : ℤ)) := by
          rw [sub_eq_add_neg, zpow_add₀ (by norm_num), mul_left_comm]
      _ ≤ 10 ^ shift exponent * (Nat.ofDigitChars 10 (fraction.getD [])
            (Nat.ofDigitChars 10 whole 0) * 10 ^ (-(fraction.getD []).length : ℤ)) :=
          mul_le_mul_of_nonneg_left worthRead scale
      _ = _ := mul_left_comm _ _ _
  cases exponent with
  | none => exact scaled
  | some given =>
    obtain ⟨negated, digits⟩ := given
    rw [magnitude?]
    split
    · rename_i large
      cases negated with
      | true =>
        rw [if_neg fun both => Bool.false_ne_true both.2]
        rfl
      | false => exact absurd (modest digits rfl) (not_le.mpr large)
    · rw [shift] at scaled
      cases negated with
      | true =>
        rw [if_pos rfl] at scaled ⊢
        rwa [neg_sub_comm, ← zero_sub] at scaled
      | false =>
        rw [if_neg Bool.false_ne_true] at scaled ⊢
        rwa [sub_eq_neg_add, ← zero_sub] at scaled

/-! ### The numeral of a double -/

/-- A numeral is worth a decimal if it has its digits, with some zeros behind them, and its exponent
makes up for these and for the digits after the point. -/
theorem worth_eq (zeros : Nat) {numeral : Numeral} {number : Decimal.Scientific}
    (digits : Nat.ofDigitChars 10 (numeral.whole ++ numeral.fraction.getD []) 0 =
      10 ^ zeros * number.digits)
    (places : shift numeral.exponent - (numeral.fraction.getD []).length + zeros =
      number.exponent) : numeral.worth = number.worth := by
  rw [worth, Decimal.Scientific.worth, digits, ← places, zpow_add₀ (by norm_num), zpow_natCast]
  push_cast
  ring

theorem getD_behindPoint (digits : List Char) : (behindPoint digits).getD [] = digits := by
  cases digits <;> rfl

/-- A written exponent adds itself. -/
theorem shift_written (exponent : Int) :
    shift (some (decide (exponent < 0), Nat.toDigits 10 exponent.natAbs)) = exponent := by
  rw [shift, Nat.ofDigitChars_ten_toDigits]
  by_cases negative : exponent < 0
  · rw [decide_eq_true negative, if_pos rfl]
    omega
  · rw [decide_eq_false negative, if_neg Bool.false_ne_true]
    omega

/-- **The numeral of a decimal is worth the decimal.** -/
theorem worth_ofScientific (negative : Bool) (number : Decimal.Scientific) :
    (ofScientific negative number).worth = number.worth := by
  have made := Nat.ofDigitChars_ten_toDigits (n := number.digits)
  have given : 0 < (Nat.toDigits 10 number.digits).length :=
    List.length_pos_iff.mpr Nat.toDigits_ne_nil
  unfold ofScientific
  generalize Nat.toDigits 10 number.digits = digits at made given ⊢
  dsimp only
  split
  · split
    · rename_i whole
      refine worth_eq (number.exponent.toNat + 1) ?_ ?_
      · rw [Nat.ofDigitChars_append, Nat.ofDigitChars_append, made,
          Nat.ofDigitChars_replicate_zero, pow_succ']
        show 10 * (10 ^ number.exponent.toNat * number.digits) + 0 = _
        ring
      · show (0 : Int) - 1 + _ = _
        omega
    · split
      · rename_i small inside
        refine worth_eq 0 ?_ ?_
        · rw [Option.getD_some, List.take_append_drop, made, pow_zero, one_mul]
        · rw [Option.getD_some, List.length_drop, shift]
          omega
      · rename_i small outside
        refine worth_eq 0 ?_ ?_
        · rw [Option.getD_some, Nat.ofDigitChars_append, Nat.ofDigitChars_append,
            Nat.ofDigitChars_replicate_zero, pow_zero, one_mul]
          exact made
        · rw [Option.getD_some, List.length_append, List.length_replicate, shift]
          omega
  · refine worth_eq 0 ?_ ?_
    · rw [getD_behindPoint, List.take_append_drop, made, pow_zero, one_mul]
    · rw [getD_behindPoint, shift_written, List.length_drop]
      omega

/-- At most sixteen digits stand in front of the point. -/
theorem length_whole_ofScientific (negative : Bool) (number : Decimal.Scientific) :
    (ofScientific negative number).whole.length ≤ 16 := by
  unfold ofScientific
  generalize Nat.toDigits 10 number.digits = digits
  dsimp only
  split
  · rename_i plain
    split
    · rw [List.length_append, List.length_replicate]
      omega
    · split
      · rw [List.length_take]
        omega
      · show 1 ≤ 16
        decide
  · rw [List.length_take]
    omega

theorem short_ofScientific (negative : Bool) {number : Decimal.Scientific}
    (writable : number.IsWritable) :
    Nat.ofDigitChars 10 (ofScientific negative number).whole 0 ≤ Text.maxUnsigned := by
  have below := Text.ofDigitChars_lt (isProper_ofScientific negative writable).whole.2
  have power := Nat.pow_le_pow_right (n := 10) (by decide)
    (length_whole_ofScientific negative number)
  have room : 10 ^ 16 ≤ Text.maxUnsigned := by decide
  omega

/-- A decimal is at least as large as its first digit says. -/
theorem pow_le_worth {number : Decimal.Scientific} (given : number.digits ≠ 0) :
    (10 : ℚ) ^ (number.exponent + (Nat.toDigits 10 number.digits).length - 1) ≤ number.worth := by
  have some : 0 < (Nat.toDigits 10 number.digits).length :=
    List.length_pos_iff.mpr Nat.toDigits_ne_nil
  obtain ⟨more, same⟩ : ∃ more, (Nat.toDigits 10 number.digits).length = more + 1 :=
    ⟨_, (Nat.sub_add_cancel some).symm⟩
  have least : 10 ^ more ≤ number.digits := by
    by_contra below
    rcases Nat.eq_zero_or_pos more with zero | positive
    · rw [zero] at below
      omega
    · have short := (Nat.length_toDigits_le_iff (by decide) positive).mpr (not_le.mp below)
      omega
  have cast : (10 : ℚ) ^ more ≤ number.digits := by exact_mod_cast least
  have power : number.exponent + ((more + 1 : Nat) : ℤ) - 1 = more + number.exponent := by
    push_cast
    ring
  rw [same, power, zpow_add₀ (by norm_num), zpow_natCast, Decimal.Scientific.worth]
  exact mul_le_mul_of_nonneg_right cast (by positivity)

/-- The first digit of a decimal within reach is not far in front of its point. -/
theorem modest_ofScientific {negative : Bool} {number : Decimal.Scientific}
    (writable : number.IsWritable) (small : number.worth ≤ reach) {digits : List Char}
    (positive : (ofScientific negative number).exponent = some (false, digits)) :
    Nat.ofDigitChars 10 digits 0 ≤ 2147483647 := by
  rcases writable with rfl | given
  · cases positive
  · have least := (pow_le_worth given).trans small
    unfold ofScientific at positive
    dsimp only at positive
    split at positive
    · split at positive
      · cases positive
      · split at positive <;> cases positive
    · generalize number.exponent + (Nat.toDigits 10 number.digits).length - 1 = leading
        at positive least
      obtain ⟨sign, rfl⟩ := Prod.mk.inj (Option.some.inj positive)
      rw [Nat.ofDigitChars_ten_toDigits]
      by_contra large
      have far : (10 : ℚ) ^ (309 : ℤ) ≤ 10 ^ leading := by
        refine zpow_le_zpow_right₀ (by norm_num) ?_
        have notNegative := of_decide_eq_false sign
        omega
      rw [show ((309 : ℤ)) = ((309 : ℕ) : ℤ) from rfl, zpow_natCast] at far
      exact absurd (far.trans least) (not_le.mpr reach_lt_pow)

/-- A numeral with a point or an exponent is a decimal. -/
theorem value?_of_marked {numeral : Numeral}
    (marked : numeral.fraction ≠ none ∨ numeral.exponent ≠ none) :
    numeral.value? = numeral.decimal?.map .decimal := by
  rw [value?]
  split
  · rename_i noFraction noExponent _
    exact absurd (And.intro noFraction noExponent) (not_and_or.mpr marked)
  · rfl

theorem marked_ofScientific (negative : Bool) (number : Decimal.Scientific) :
    (ofScientific negative number).fraction ≠ none ∨
      (ofScientific negative number).exponent ≠ none := by
  unfold ofScientific
  dsimp only
  split
  · refine Or.inl ?_
    split
    · nofun
    · split <;> nofun
  · exact Or.inr nofun

/-- One of the three largest doubles. -/
def largest (negative : Bool) (above : Fin 3) : Decimal.Double :=
  ⟨negative, Decimal.Double.mantissaLimit - 3 + above, Decimal.Double.maxExponent⟩

theorem leading_largest (negative : Bool) (above : Fin 3) :
    (largest negative above).leading = 308 := by
  rw [leading, decimalExponent_eq]
  · revert negative above
    decide +kernel
  · revert negative above
    decide +kernel

/-- The three largest doubles are read, with either sign. -/
theorem decimal?_largest (negative : Bool) (above : Fin 3) :
    (ofDouble (largest negative above)).decimal?.isSome = true := by
  rw [ofDouble, shortest_eq, leading_largest]
  revert negative above
  decide +kernel

theorem decimal?_zero : ∀ negative : Bool,
    (decimal? ⟨negative, ['0'], some ['0'], none⟩).isSome = true := by
  decide +kernel

/-- The largest doubles are three with either sign. -/
theorem exists_largest {value : Decimal.Double} (inRange : value.InRange)
    (isLargest : value.IsLargest) : ∃ above, value = largest value.negative above := by
  obtain ⟨negative, mantissa, exponent⟩ := value
  obtain ⟨top, large⟩ := isLargest
  have below := inRange.mantissa
  dsimp only at top large below
  have parts : mantissa =
      Decimal.Double.mantissaLimit - 3 + (mantissa - (Decimal.Double.mantissaLimit - 3)) := by
    omega
  exact ⟨⟨mantissa - (Decimal.Double.mantissaLimit - 3), by omega⟩,
    (Decimal.Double.mk.injEq ..).mpr ⟨rfl, parts, top⟩⟩

/-- **The numeral of a double has a double.** -/
theorem decimal?_ofDouble {value : Decimal.Double} (inRange : value.InRange) :
    (ofDouble value).decimal?.isSome = true := by
  by_cases isLargest : value.IsLargest
  · obtain ⟨above, same⟩ := exists_largest inRange isLargest
    rw [same]
    exact decimal?_largest value.negative above
  · rw [ofDouble]
    split
    · exact decimal?_zero value.negative
    · rename_i given
      have writable := (isWritable_shortest given).normalize 20
      have small := (worth_shortest_le value).trans (inRange.le_reach isLargest)
      refine decimal?_isSome (short_ofScientific _ writable) ?_
        fun digits positive => modest_ofScientific writable small positive
      rw [worth_ofScientific]
      exact small

/-- **The numeral of a double is read as a double**, if not always as the same one. -/
theorem value?_ofDouble {value : Decimal.Double} (inRange : value.InRange) :
    ∃ again, (ofDouble value).value? = some (.decimal again) := by
  obtain ⟨again, known⟩ := Option.isSome_iff_exists.mp (decimal?_ofDouble inRange)
  refine ⟨again, ?_⟩
  rw [value?_of_marked, known]
  · rfl
  · rw [ofDouble]
    split
    · exact Or.inl nofun
    · exact marked_ofScientific _ _

end Numeral

end NodeStorage.Json
