/-
**Written digits are read back.**

A number is the value of its digits (`digitsFrom_eq`), with or without zeros in front of them
(`ofDigitChars_decimalPadded`). A text is a signed number exactly if it consists of digits, behind
a sign or without one, whose value is in range (`signed?_eq_some_iff`).
-/

import Mathlib.Algebra.Group.Int.Defs
import Mathlib.Algebra.Group.Nat.Defs
import NodeStorage.Text.Integer
import NodeStorage.Text.WhiteSpace

namespace NodeStorage.Text

theorem isDigit_iff (c : Char) : c.isDigit = true ↔ '0' ≤ c ∧ c ≤ '9' := by
  rw [Char.isDigit, Bool.and_eq_true, decide_eq_true_iff, decide_eq_true_iff]
  rfl

theorem digit?_of_isDigit {c : Char} (isDigit : c.isDigit = true) :
    digit? c = some (c.toNat - '0'.toNat) := by
  have range : '0' ≤ c ∧ c ≤ '9' := (isDigit_iff c).mp isDigit
  exact if_pos range

/-- **Digits are worth what they are worth together.** -/
theorem digitsFrom_eq {digits : List Char} (all : ∀ c ∈ digits, c.isDigit = true) (start : Nat) :
    digitsFrom start digits = some (Nat.ofDigitChars 10 digits start) := by
  induction digits generalizing start with
  | nil => rfl
  | cons c digits ih =>
    obtain ⟨first, rest⟩ := List.forall_mem_cons.mp all
    rw [digitsFrom, digit?_of_isDigit first, Option.bind_some, ih rest, Nat.ofDigitChars_cons,
      Nat.mul_comm]

theorem digitsFrom_eq_some_iff {chars : List Char} {start value : Nat} :
    digitsFrom start chars = some value ↔
      (∀ c ∈ chars, c.isDigit = true) ∧ value = Nat.ofDigitChars 10 chars start := by
  refine ⟨fun read => ?_, fun ⟨all, is⟩ => is ▸ digitsFrom_eq all start⟩
  have all : ∀ c ∈ chars, c.isDigit = true := by
    induction chars generalizing start with
    | nil => exact List.forall_mem_nil _
    | cons c chars ih =>
      obtain ⟨digit, first, rest⟩ := Option.bind_eq_some_iff.mp read
      refine List.forall_mem_cons.mpr ⟨(isDigit_iff c).mpr ?_, ih rest⟩
      rw [digit?] at first
      split at first
      · assumption
      · cases first
  rw [digitsFrom_eq all] at read
  exact ⟨all, (Option.some.inj read).symm⟩

/-- **The characters are digits**, at least one, and make the number together. -/
def IsDecimal (digits : List Char) (value : Nat) : Prop :=
  digits ≠ [] ∧ (∀ c ∈ digits, c.isDigit = true) ∧ value = Nat.ofDigitChars 10 digits 0

theorem digits?_eq_some_iff {chars : List Char} {value : Nat} :
    digits? chars = some value ↔ IsDecimal chars value := by
  cases chars with
  | nil => simp [digits?, IsDecimal]
  | cons c chars =>
    rw [digits?, digitsFrom_eq_some_iff]
    · simp [IsDecimal]
    · exact List.cons_ne_nil _ _

theorem isDigit_of_mem_toDigits {value : Nat} :
    ∀ c ∈ Nat.toDigits 10 value, c.isDigit = true :=
  fun _ => Nat.isDigit_of_mem_toDigits (by decide) (by decide)

theorem digits?_toDigits (value : Nat) : digits? (Nat.toDigits 10 value) = some value := by
  have digits : digitsFrom 0 (Nat.toDigits 10 value) = some value := by
    rw [digitsFrom_eq isDigit_of_mem_toDigits, Nat.ofDigitChars_ten_toDigits]
  rw [digits?]
  · exact digits
  · exact Nat.toDigits_ne_nil

/-! ### Digits of a given number -/

theorem decimalPadded_eq (width value : Nat) :
    decimalPadded width value =
      List.replicate (width - (Nat.toDigits 10 value).length) '0' ++ Nat.toDigits 10 value := by
  rw [decimalPadded, Nat.toString_eq_repr, Nat.toList_repr]

theorem isDigit_of_mem_decimalPadded {width value : Nat} :
    ∀ c ∈ decimalPadded width value, c.isDigit = true := by
  intro c member
  rw [decimalPadded_eq] at member
  rcases List.mem_append.mp member with zero | digit
  · rw [List.eq_of_mem_replicate zero]
    rfl
  · exact isDigit_of_mem_toDigits c digit

theorem ofDigitChars_decimalPadded (width value : Nat) :
    Nat.ofDigitChars 10 (decimalPadded width value) 0 = value := by
  rw [decimalPadded_eq, Nat.ofDigitChars_append, Nat.ofDigitChars_replicate_zero, Nat.mul_zero,
    Nat.ofDigitChars_ten_toDigits]

theorem length_decimalPadded {width value : Nat} (given : 0 < width) (fits : value < 10 ^ width) :
    (decimalPadded width value).length = width := by
  have short := (Nat.length_toDigits_le_iff (by decide) given).mpr fits
  rw [decimalPadded_eq, List.length_append, List.length_replicate]
  omega

theorem decimalPadded_ne_nil (width value : Nat) : decimalPadded width value ≠ [] := by
  rw [decimalPadded_eq]
  exact List.append_ne_nil_of_right_ne_nil _ Nat.toDigits_ne_nil

/-! ### Signed numbers -/

/-- **The text is a signed 64-bit number in decimal**: digits, and in front of them a sign or
nothing. -/
def IsSigned (text : String) (value : Int) : Prop :=
  ∃ sign digits magnitude, text.toList = sign ++ digits ∧ IsDecimal digits magnitude ∧
    ((sign = [] ∨ sign = ['+']) ∧ value = magnitude ∨ sign = ['-'] ∧ value = -(magnitude : Int)) ∧
    -2 ^ 63 ≤ value ∧ value < 2 ^ 63

theorem fitsSigned_iff {value : Int} :
    fitsSigned value = true ↔ -2 ^ 63 ≤ value ∧ value < 2 ^ 63 := by
  rw [fitsSigned, Bool.and_eq_true, decide_eq_true_iff, decide_eq_true_iff]
  omega

/-- The number that digits make, as a signed one. -/
theorem magnitude_eq_some_iff {chars : List Char} {value : Int} :
    (do let magnitude ← digits? chars; pure (magnitude : Int)) = some value ↔
      ∃ magnitude, IsDecimal chars magnitude ∧ (magnitude : Int) = value := by
  simp [← digits?_eq_some_iff, Option.bind_eq_some_iff]

/-- **The signed numbers that are read are those that are written in decimal.** -/
theorem signed?_eq_some_iff {text : String} {value : Int} :
    signed? text = some value ↔ IsSigned text value := by
  rw [signed?, Option.filter_eq_some_iff, fitsSigned_iff]
  constructor
  · rintro ⟨read, range⟩
    split at read
    · rename_i rest same
      obtain ⟨number, digits, rfl⟩ := Option.map_eq_some_iff.mp read
      obtain ⟨magnitude, decimal, rfl⟩ := magnitude_eq_some_iff.mp digits
      exact ⟨['-'], rest, magnitude, same, decimal, Or.inr ⟨rfl, rfl⟩, range⟩
    · rename_i rest same
      obtain ⟨number, digits, rfl⟩ := Option.map_eq_some_iff.mp read
      obtain ⟨magnitude, decimal, rfl⟩ := magnitude_eq_some_iff.mp digits
      exact ⟨['+'], rest, magnitude, same, decimal, Or.inl ⟨Or.inr rfl, rfl⟩, range⟩
    · obtain ⟨number, digits, rfl⟩ := Option.map_eq_some_iff.mp read
      obtain ⟨magnitude, decimal, rfl⟩ := magnitude_eq_some_iff.mp digits
      exact ⟨[], text.toList, magnitude, rfl, decimal, Or.inl ⟨Or.inl rfl, rfl⟩, range⟩
  · rintro ⟨sign, digits, magnitude, same, decimal, worth, range⟩
    refine ⟨?_, range⟩
    have read := digits?_eq_some_iff.mpr decimal
    rw [same]
    rcases worth with ⟨rfl | rfl, rfl⟩ | ⟨rfl, rfl⟩
    · cases digits with
      | nil => exact absurd rfl decimal.1
      | cons c rest =>
        have isDigit := decimal.2.1 c List.mem_cons_self
        -- A digit is no sign.
        split
        · rename_i sign
          cases sign
          cases isDigit
        · rename_i sign
          cases sign
          cases isDigit
        · rw [List.nil_append, read]
          rfl
    · rw [List.singleton_append]
      simp only [read]
      rfl
    · rw [List.singleton_append]
      simp only [read]
      rfl

/-- A digit is no white space. -/
theorem isWhiteSpace_of_isDigit {c : Char} (isDigit : c.isDigit = true) :
    isWhiteSpace c = false := by
  obtain ⟨least, most⟩ := (isDigit_iff c).mp isDigit
  have range : 48 ≤ c.toNat ∧ c.toNat ≤ 57 := ⟨least, most⟩
  simp only [isWhiteSpace, Bool.or_eq_false_iff, Bool.and_eq_false_iff, decide_eq_false_iff_not,
    beq_eq_false_iff_ne]
  omega

/-- So many digits make less than this power of ten. -/
theorem ofDigitChars_lt {digits : List Char} (all : ∀ c ∈ digits, c.isDigit = true) :
    Nat.ofDigitChars 10 digits 0 < 10 ^ digits.length := by
  induction digits with
  | nil => decide
  | cons c digits ih =>
    obtain ⟨first, rest⟩ := List.forall_mem_cons.mp all
    have below := ih rest
    have small : c.toNat - '0'.toNat ≤ 9 := by
      have most : c.toNat ≤ 57 := ((isDigit_iff c).mp first).2
      show c.toNat - 48 ≤ 9
      omega
    rw [Nat.ofDigitChars_cons, Nat.ofDigitChars_eq_ofDigitChars_zero, List.length_cons,
      Nat.pow_succ, Nat.mul_zero, Nat.zero_add]
    have bound := Nat.mul_le_mul_left (10 ^ digits.length) small
    omega

end NodeStorage.Text
