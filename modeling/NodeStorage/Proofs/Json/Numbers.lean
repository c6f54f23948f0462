/-
**Whole numbers keep their value.**

A whole number that fits into 64 bits, with its sign if it is negative, is written with its digits;
taking these digits one by one never leaves the 64 bits, so the number is read with its value
(`Numeral.value?_ofInt`). Conversely every whole number that is read fits
(`Numeral.fitsWord_of_value?`). In a text, the digits of a number are worth the number if it is a
signed 64-bit number, and nothing else (`signed?_toString`).
-/

import NodeStorage.Proofs.Json.RoundTrip
import NodeStorage.Proofs.Text.Digits

namespace NodeStorage.Json

/-- The number fits into 64 bits, with its sign if it is negative. -/
def FitsWord (value : Int) : Prop :=
  -9223372036854775808 ≤ value ∧ value ≤ Text.maxUnsigned

/-- More digits make no smaller number. -/
theorem le_ofDigitChars (start : Nat) (digits : List Char) :
    start ≤ Nat.ofDigitChars 10 digits start := by
  induction digits generalizing start with
  | nil => exact Nat.le_refl _
  | cons c digits ih =>
    rw [Nat.ofDigitChars_cons]
    exact Nat.le_trans (by omega) (ih _)

/-- All digits are taken if the number that they make fits. -/
theorem takeDigits_eq {start : Nat} {digits : List Char}
    (fits : Nat.ofDigitChars 10 digits start ≤ Text.maxUnsigned) :
    takeDigits start digits = (Nat.ofDigitChars 10 digits start, []) := by
  induction digits generalizing start with
  | nil => rfl
  | cons c digits ih =>
    rw [Nat.ofDigitChars_cons, Nat.mul_comm] at fits ⊢
    rw [takeDigits, if_pos (Nat.le_trans (le_ofDigitChars _ digits) fits)]
    exact ih fits

/-- The digits that are taken make a number that fits. -/
theorem takeDigits_le {start : Nat} (fits : start ≤ Text.maxUnsigned) (digits : List Char) :
    (takeDigits start digits).1 ≤ Text.maxUnsigned := by
  induction digits generalizing start with
  | nil => exact fits
  | cons c digits ih =>
    rw [takeDigits]
    split
    · rename_i grown
      exact ih grown
    · exact fits

/-- **A whole number that fits is read with its value.** -/
theorem Numeral.value?_ofInt {value : Int} (fits : FitsWord value) :
    (Numeral.ofInt value).value? = some (.integer value) := by
  have digits : takeDigits 0 (Nat.toDigits 10 value.natAbs) = (value.natAbs, []) := by
    have made := Nat.ofDigitChars_ten_toDigits (n := value.natAbs)
    rw [takeDigits_eq, made]
    rw [made]
    simp only [FitsWord, Text.maxUnsigned] at fits ⊢
    omega
  simp only [Numeral.ofInt, Numeral.value?, digits]
  by_cases negative : value < 0
  · have range : value.natAbs ≠ 0 ∧ value.natAbs ≤ 9223372036854775808 := by
      simp only [FitsWord] at fits
      omega
    have same : -(value.natAbs : Int) = value := by omega
    simp only [decide_eq_true negative, Bool.not_true, Bool.false_eq_true, if_false, if_pos range,
      same]
  · have same : (value.natAbs : Int) = value := by omega
    simp only [decide_eq_false negative, Bool.not_false, if_true, same]

/-- All digits are taken only if the number that they make is the one that was taken. -/
theorem eq_of_takeDigits {start value : Nat} {digits : List Char}
    (taken : takeDigits start digits = (value, [])) : value = Nat.ofDigitChars 10 digits start := by
  induction digits generalizing start with
  | nil =>
    cases taken
    rfl
  | cons c digits ih =>
    rw [takeDigits] at taken
    split at taken
    · rw [Nat.ofDigitChars_cons, Nat.mul_comm]
      exact ih taken
    · cases taken

theorem Numeral.eq_of_value?_ofInt {value other : Int}
    (read : (Numeral.ofInt value).value? = some (.integer other)) : other = value := by
  rw [Numeral.value?] at read
  split at read
  · rename_i magnitude _ _ taken
    have same : magnitude = value.natAbs := by
      rw [eq_of_takeDigits taken]
      exact Nat.ofDigitChars_ten_toDigits
    by_cases negative : value < 0
    · have sign : (Numeral.ofInt value).negative = true := decide_eq_true negative
      rw [sign] at read
      split at read
      · rename_i positive
        cases positive
      · split at read
        · cases read
          omega
        · obtain ⟨decimal, -, other⟩ := Option.map_eq_some_iff.mp read
          cases other
    · have sign : (Numeral.ofInt value).negative = false := decide_eq_false negative
      rw [sign] at read
      cases read
      omega
  · obtain ⟨decimal, -, other⟩ := Option.map_eq_some_iff.mp read
    cases other

/-- A whole number that is read fits. -/
theorem Numeral.fitsWord_of_value? {numeral : Numeral} {value : Int}
    (read : numeral.value? = some (.integer value)) : FitsWord value := by
  have small := takeDigits_le (Nat.zero_le _) numeral.whole
  rw [Numeral.value?] at read
  split at read
  · rename_i magnitude _ _ same
    rw [same] at small
    simp only [Text.maxUnsigned] at small
    split at read
    · cases read
      simp only [FitsWord, Text.maxUnsigned]
      omega
    · split at read
      · cases read
        simp only [FitsWord, Text.maxUnsigned]
        omega
      · obtain ⟨decimal, -, other⟩ := Option.map_eq_some_iff.mp read
        cases other
  · obtain ⟨decimal, -, other⟩ := Option.map_eq_some_iff.mp read
    cases other

/-- The digits of a whole number are read as the number if it fits into 64 bits with its sign. -/
theorem signed?_toString (value : Int) :
    Text.signed? (toString value) = if Text.fitsSigned value then some value else none := by
  have made := Text.digits?_toDigits value.natAbs
  rw [Text.signed?, toList_toString]
  by_cases negative : value < 0
  · have magnitude : -(value.natAbs : Int) = value := by omega
    rw [if_pos negative, List.singleton_append]
    simp only [made]
    show (some (-(value.natAbs : Int))).filter Text.fitsSigned = _
    rw [magnitude, Option.filter_some]
  · have magnitude : (value.natAbs : Int) = value := by omega
    rw [if_neg negative, List.nil_append]
    cases digits : Nat.toDigits 10 value.natAbs with
    | nil => exact absurd digits Nat.toDigits_ne_nil
    | cons c rest =>
      have isDigit : c.isDigit = true :=
        Text.isDigit_of_mem_toDigits c (digits ▸ List.mem_cons_self)
      rw [digits] at made
      split
      · rename_i same
        cases same
        cases isDigit
      · rename_i same
        cases same
        cases isDigit
      · rw [made]
        show (some (value.natAbs : Int)).filter Text.fitsSigned = _
        rw [magnitude, Option.filter_some]

/-- Minus zero is read as itself. -/
theorem Numeral.value?_minusZero : Numeral.minusZero.value? = some (.decimal Json.minusZero) := by
  decide +kernel

end NodeStorage.Json
