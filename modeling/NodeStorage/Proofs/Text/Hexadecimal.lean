/-
**What hexadecimal digits say.**

Bytes in hexadecimal are two small digits for every byte, the higher one first, and nothing else
(`toHexadecimal_eq_iff`). Read back they give the bytes (`ofHexadecimal?_of_isHexadecimal`), so
different bytes never look the same.
-/

import Mathlib.Data.List.Basic
import NodeStorage.Text.Hexadecimal

namespace NodeStorage.Text

/-- The digits in the order of their values. -/
def hexDigits : List Char :=
  ['0', '1', '2', '3', '4', '5', '6', '7', '8', '9', 'a', 'b', 'c', 'd', 'e', 'f']

/-- **The characters write the bytes in hexadecimal**, in small digits, two for each byte. -/
inductive IsHexadecimal : List UInt8 → List Char → Prop
  | nothing : IsHexadecimal [] []
  | byte {byte : UInt8} {bytes : List UInt8} {high low : Char} {chars : List Char}
      (isHigh : hexDigits[byte.toNat / 16]? = some high)
      (isLow : hexDigits[byte.toNat % 16]? = some low) :
      IsHexadecimal bytes chars → IsHexadecimal (byte :: bytes) (high :: low :: chars)

theorem getElem?_hexDigits : ∀ value < 16, hexDigits[value]? = some (digitChar value) := by
  decide

theorem hexDigit?_digitChar : ∀ value < 16, hexDigit? (digitChar value) = some value := by
  decide

/-- A byte is written in two digits. -/
theorem hexadecimalPadded_two {value : Nat} (small : value < 256) :
    hexadecimalPadded 2 value = [digitChar (value / 16), digitChar (value % 16)] := by
  unfold hexadecimalPadded hexadecimal
  by_cases one : value < 16
  · have zero : value / 16 = 0 := Nat.div_eq_of_lt one
    rw [digitsReversed, if_pos one, zero, Nat.mod_eq_of_lt one]
    rfl
  · obtain ⟨fuel, rfl⟩ : ∃ fuel, value = fuel + 1 := ⟨value - 1, by omega⟩
    have last : (fuel + 1) / 16 < 16 := by omega
    rw [digitsReversed, if_neg one, digitsReversed, if_pos last]
    rfl

/-- **What is written in hexadecimal are the digits of the bytes.** -/
theorem toHexadecimal_eq_iff {bytes : List UInt8} {text : String} :
    toHexadecimal bytes = text ↔ IsHexadecimal bytes text.toList := by
  have written (bytes : List UInt8) (chars : List Char) :
      (bytes.flatMap fun byte => hexadecimalPadded 2 byte.toNat) = chars ↔
        IsHexadecimal bytes chars := by
    constructor
    · rintro rfl
      induction bytes with
      | nil => exact .nothing
      | cons byte bytes ih =>
        have small := byte.toNat_lt
        rw [List.flatMap_cons, hexadecimalPadded_two small]
        exact .byte (getElem?_hexDigits _ (by omega)) (getElem?_hexDigits _ (by omega)) ih
    · intro digits
      induction digits with
      | nothing => rfl
      | @byte byte bytes high low chars isHigh isLow _ ih =>
        have small := byte.toNat_lt
        rw [getElem?_hexDigits _ (by omega)] at isHigh isLow
        rw [List.flatMap_cons, hexadecimalPadded_two small, ih, Option.some.inj isHigh,
          Option.some.inj isLow]
        rfl
  rw [← written, toHexadecimal, ← String.toList_inj, String.toList_ofList]

theorem isHexadecimal_toHexadecimal (bytes : List UInt8) :
    IsHexadecimal bytes (toHexadecimal bytes).toList :=
  toHexadecimal_eq_iff.mp rfl

/-- **The digits of bytes are read as the bytes.** -/
theorem ofHexadecimal?_of_isHexadecimal {bytes : List UInt8} {chars : List Char}
    (digits : IsHexadecimal bytes chars) : ofHexadecimal? chars = some bytes := by
  induction digits with
  | nothing => rfl
  | @byte byte bytes high low chars isHigh isLow _ ih =>
    have small := byte.toNat_lt
    rw [getElem?_hexDigits _ (by omega)] at isHigh isLow
    cases isHigh
    cases isLow
    have whole : UInt8.ofNat (byte.toNat / 16 * 16 + byte.toNat % 16) = byte := by
      rw [Nat.div_add_mod', UInt8.ofNat_toNat]
    rw [ofHexadecimal?, hexDigit?_digitChar _ (by omega), hexDigit?_digitChar _ (by omega), ih]
    exact congrArg (fun byte => some (byte :: bytes)) whole

/-- Different bytes are written differently. -/
theorem toHexadecimal_inj {first second : List UInt8} :
    toHexadecimal first = toHexadecimal second ↔ first = second := by
  refine ⟨fun same => ?_, congrArg toHexadecimal⟩
  have read := ofHexadecimal?_of_isHexadecimal (isHexadecimal_toHexadecimal first)
  rw [same, ofHexadecimal?_of_isHexadecimal (isHexadecimal_toHexadecimal second)] at read
  exact (Option.some.inj read).symm

theorem utf8Size_of_mem_hexDigits : ∀ digit ∈ hexDigits, digit.utf8Size = 1 :=
  List.forall_iff_forall_mem.mp (by decide)

/-- Each digit takes one byte. -/
theorem utf8ByteSize_toHexadecimal (bytes : List UInt8) :
    (toHexadecimal bytes).utf8ByteSize = 2 * bytes.length := by
  have digits := isHexadecimal_toHexadecimal bytes
  rw [← String.ofList_toList (s := toHexadecimal bytes)]
  generalize (toHexadecimal bytes).toList = chars at digits ⊢
  induction digits with
  | nothing => rfl
  | byte isHigh isLow _ ih =>
    rw [String.ofList_cons, String.ofList_cons, String.utf8ByteSize_append,
      String.utf8ByteSize_append, String.utf8ByteSize_singleton, String.utf8ByteSize_singleton,
      utf8Size_of_mem_hexDigits _ (List.mem_of_getElem? isHigh),
      utf8Size_of_mem_hexDigits _ (List.mem_of_getElem? isLow), ih, List.length_cons]
    omega

end NodeStorage.Text
