/-
**Numerals in the range of doubles.**

A numeral that is no whole number of 64 bits is read in three steps: the digits in front of the
point and then those behind it are taken as long as they fit into 64 bits, the rest of them and the
exponent tell how far they are moved, and the number is scaled (`Numeral.decimal?_eq`). The digits
that are taken are worth no more than all of them (`takeDigits_spec`), so a whole number has a
double if it is within reach.

* `Numeral.value?_ofInt_ne_none` — **every whole number of up to 250 digits is read.**
* `Numeral.inRange_of_value?` — **a decimal that is read is in the range of doubles.**
-/

import NodeStorage.Proofs.Decimal.Rounding
import NodeStorage.Proofs.Json.Numbers

namespace NodeStorage.Json

open Decimal.Double

/-- The digits that are not taken still count in the number. -/
theorem takeDigits_spec {start value : Nat} {digits rest : List Char}
    (taken : takeDigits start digits = (value, rest)) :
    rest.length ≤ digits.length ∧ Nat.ofDigitChars 10 digits start =
      value * 10 ^ rest.length + Nat.ofDigitChars 10 rest 0 := by
  induction digits generalizing start with
  | nil =>
    cases taken
    exact ⟨Nat.le_refl _, by simp⟩
  | cons c digits ih =>
    rw [takeDigits] at taken
    split at taken
    · obtain ⟨fewer, made⟩ := ih taken
      refine ⟨Nat.le_succ_of_le fewer, ?_⟩
      rw [Nat.ofDigitChars_cons, Nat.mul_comm, made]
    · cases taken
      exact ⟨Nat.le_refl _, by rw [Nat.ofDigitChars_eq_ofDigitChars_zero, Nat.mul_comm]⟩

namespace Numeral

/-! ### Reading a numeral in steps -/

/-- The double of some digits that are moved by some places. -/
def scaled? (digits : Nat) (places : Int) : Option Decimal.Double :=
  (Decimal.Double.ofNat? digits).bind fun value => value.scaleByTen? 8 places

/-- The number with the digits that are taken from behind the point, and how many these are. -/
def digitsRead (whole : Nat) : Option (List Char) → Nat × Nat
  | none => (whole, 0)
  | some digits =>
    ((takeDigits whole digits).1, digits.length - (takeDigits whole digits).2.length)

/-- The magnitude of a numeral from the digits that are taken, the places by which the others move
them, and the exponent. -/
def magnitude? (digits : Nat) (places : Int) : Option (Bool × List Char) → Option Decimal.Double
  | none => scaled? digits places
  | some (negative, exponent) =>
    if Nat.ofDigitChars 10 exponent 0 > 2147483647 then
      if digits ≠ 0 ∧ !negative then none else some .zero
    else if negative then scaled? digits (places - Nat.ofDigitChars 10 exponent 0)
    else scaled? digits (places + Nat.ofDigitChars 10 exponent 0)

/-- Digits that are read one by one are worth what they are worth together. -/
theorem foldl_digits (digits : List Char) (start : Nat) :
    digits.foldl (fun value c => value * 10 + (c.toNat - '0'.toNat)) start =
      Nat.ofDigitChars 10 digits start := by
  induction digits generalizing start with
  | nil => rfl
  | cons c digits ih => rw [List.foldl_cons, ih, Nat.ofDigitChars_cons, Nat.mul_comm]

/-- **How a numeral is read as a double.** -/
theorem decimal?_eq {numeral : Numeral} {whole : Nat} {leftOut : List Char}
    (taken : takeDigits 0 numeral.whole = (whole, leftOut)) :
    numeral.decimal? =
      (magnitude? (digitsRead whole numeral.fraction).1
        (leftOut.length - (digitsRead whole numeral.fraction).2) numeral.exponent).bind
          fun magnitude => some (if numeral.negative then magnitude.neg else magnitude) := by
  obtain ⟨negative, digits, fraction, exponent⟩ := numeral
  unfold decimal?
  dsimp only at taken ⊢
  rw [taken]
  cases exponent with
  | none => cases fraction <;> rfl
  | some given =>
    obtain ⟨negated, digits⟩ := given
    rw [magnitude?]
    dsimp only
    rw [foldl_digits]
    generalize Nat.ofDigitChars 10 digits 0 = exponent
    by_cases large : exponent > 2147483647
    · rw [if_pos large, if_pos large]
      cases fraction <;> (rw [digitsRead]; dsimp only; split <;> rfl)
    · rw [if_neg large, if_neg large]
      cases fraction <;> cases negated <;> rfl

theorem isSome_decimal? {numeral : Numeral} {whole : Nat} {leftOut : List Char}
    (taken : takeDigits 0 numeral.whole = (whole, leftOut)) :
    numeral.decimal?.isSome =
      (magnitude? (digitsRead whole numeral.fraction).1
        (leftOut.length - (digitsRead whole numeral.fraction).2) numeral.exponent).isSome := by
  rw [decimal?_eq taken]
  cases magnitude? _ _ _ <;> rfl

/-! ### Whole numbers -/

/-- A number of up to 250 digits is within reach. -/
theorem pow_le_reach {places : Nat} (few : places ≤ 250) : (10 : ℚ) ^ places ≤ reach := by
  have whole : 10 ^ 250 ≤ 2 ^ 971 := by decide +kernel
  have cast : (10 : ℚ) ^ 250 ≤ 2 ^ 971 := by exact_mod_cast whole
  have unit : (2 : ℚ) ^ Decimal.Double.maxExponent = 2 ^ 971 := zpow_natCast 2 971
  refine le_trans (pow_le_pow_right₀ (by norm_num) few) ?_
  rw [reach, unit]
  have positive : (0 : ℚ) < 2 ^ 971 := by positivity
  generalize (2 : ℚ) ^ 971 = unit at cast positive ⊢
  generalize (10 : ℚ) ^ 250 = power at cast ⊢
  linarith

theorem decimal?_ofInt_isSome {value : Int}
    (few : (Nat.toDigits 10 value.natAbs).length ≤ 250) :
    (Numeral.ofInt value).decimal?.isSome = true := by
  obtain ⟨significand, leftOut, taken⟩ :
      ∃ significand leftOut, takeDigits 0 (Nat.toDigits 10 value.natAbs) = (significand, leftOut) :=
    ⟨_, _, rfl⟩
  have made := (takeDigits_spec taken).2
  rw [Nat.ofDigitChars_ten_toDigits] at made
  have word := takeDigits_le (Nat.zero_le _) (Nat.toDigits 10 value.natAbs)
  rw [taken] at word
  have below : value.natAbs < 10 ^ (Nat.toDigits 10 value.natAbs).length :=
    (Nat.length_toDigits_le_iff (by decide) (List.length_pos_iff.mpr Nat.toDigits_ne_nil)).mp
      (Nat.le_refl _)
  have part : significand * 10 ^ leftOut.length ≤ value.natAbs := Nat.le_of_add_right_le made.ge
  have small : (significand : ℚ) * 10 ^ ((leftOut.length : Int) - (0 : Nat)) ≤ reach := by
    have cast : (significand : ℚ) * 10 ^ leftOut.length ≤
        10 ^ (Nat.toDigits 10 value.natAbs).length := by exact_mod_cast part.trans below.le
    rw [Nat.cast_zero, Int.sub_zero, zpow_natCast]
    exact cast.trans (pow_le_reach few)
  have given : takeDigits 0 (Numeral.ofInt value).whole = (significand, leftOut) := taken
  rw [isSome_decimal? given]
  exact scaleByTen?_isSome (le_trans word (by decide)) small 7

/-- **Every whole number of up to 250 digits is read.** -/
theorem value?_ofInt_ne_none {value : Int}
    (few : (Nat.toDigits 10 value.natAbs).length ≤ 250) :
    (Numeral.ofInt value).value? ≠ none := by
  obtain ⟨decimal, isDecimal⟩ := Option.isSome_iff_exists.mp (decimal?_ofInt_isSome few)
  rw [Numeral.value?, isDecimal]
  split
  · split
    · simp
    · split <;> simp
  · simp

/-! ### What is read -/

theorem inRange_of_scaled? {digits : Nat} {places : Int} {value : Decimal.Double}
    (made : scaled? digits places = some value) : value.InRange := by
  obtain ⟨whole, is, made⟩ := Option.bind_eq_some_iff.mp made
  exact (inRange_of_ofQuotient? one_ne_zero is).scaleByTen? 8 made

theorem inRange_of_magnitude? {digits : Nat} {places : Int} {exponent : Option (Bool × List Char)}
    {value : Decimal.Double} (made : magnitude? digits places exponent = some value) :
    value.InRange := by
  cases exponent with
  | none => exact inRange_of_scaled? made
  | some given =>
    rw [magnitude?] at made
    split at made
    · split at made
      · cases made
      · cases made
        exact ⟨by decide, by decide⟩
    · split at made <;> exact inRange_of_scaled? made

/-- What a numeral is read as is in the range of doubles. -/
theorem inRange_of_decimal? {numeral : Numeral} {value : Decimal.Double}
    (read : numeral.decimal? = some value) : value.InRange := by
  rw [decimal?_eq rfl] at read
  obtain ⟨magnitude, made, signed⟩ := Option.bind_eq_some_iff.mp read
  have inRange := inRange_of_magnitude? made
  split at signed
  · cases signed
    exact ⟨inRange.mantissa, inRange.exponent⟩
  · cases signed
    exact inRange

theorem inRange_of_value? {numeral : Numeral} {value : Decimal.Double}
    (read : numeral.value? = some (.decimal value)) : value.InRange := by
  have decimal (given : numeral.decimal?.map Number.decimal = some (.decimal value)) :
      value.InRange := by
    obtain ⟨_, same, is⟩ := Option.map_eq_some_iff.mp given
    cases is
    exact inRange_of_decimal? same
  rw [value?] at read
  split at read
  · split at read
    · cases read
    · split at read
      · cases read
      · exact decimal read
  · exact decimal read

end Numeral

end NodeStorage.Json
