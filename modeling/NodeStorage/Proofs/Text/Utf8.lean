/-
**Reading the bytes of a text.**

The bytes of a character take the reader of bytes from between characters to between characters
and give just that character (`utf8Pieces_encodeChar`): what opens a longer character tells which
bytes may follow, and the ranges leave out only what would be a character of fewer bytes, half of a
surrogate pair, or no character. So the bytes of a text are read as the text
(`decodeUtf8?_encodeUtf8`).
-/

import NodeStorage.Text.Utf8

namespace NodeStorage.Text

/-! ### One byte -/

theorem toNat_byte {value : Nat} (small : value < 256) : (UInt8.ofNat value).toNat = value :=
  UInt8.toNat_ofNat_of_lt' small

theorem utf8Pieces_opens {byte : UInt8} {bits low high more : Nat}
    (opens : utf8Lead byte = .opens bits low high more) (rest : List UInt8) :
    utf8Pieces .start (byte :: rest) = utf8Pieces (.inside bits low high more) rest := by
  rw [utf8Pieces, opens]

theorem utf8Pieces_inside {value bits low high : Nat} (small : value < 256)
    (range : low ≤ value ∧ value ≤ high) (left : Nat) (rest : List UInt8) :
    utf8Pieces (.inside bits low high (left + 1)) (UInt8.ofNat value :: rest) =
      utf8Pieces (.inside (bits * 0x40 + (value - 0x80)) 0x80 0xBF left) rest := by
  rw [utf8Pieces]
  simp only [toNat_byte small, if_pos range]

theorem utf8Pieces_last {value bits low high : Nat} (small : value < 256)
    (range : low ≤ value ∧ value ≤ high) (rest : List UInt8) :
    utf8Pieces (.inside bits low high 0) (UInt8.ofNat value :: rest) =
      some (Char.ofNat (bits * 0x40 + (value - 0x80))) :: utf8Pieces .start rest := by
  rw [utf8Pieces]
  simp only [toNat_byte small, if_pos range]

/-! ### What opens a character -/

theorem utf8Lead_whole {code : Nat} (small : code < 0x80) :
    utf8Lead (UInt8.ofNat code) = .whole (Char.ofNat code) := by
  simp [utf8Lead, toNat_byte (show code < 256 by omega), small]

theorem utf8Lead_two (code : Nat) (low : 0x80 ≤ code) (high : code < 0x800) :
    utf8Lead (UInt8.ofNat (0xC0 + code / 0x40)) = .opens (code / 0x40) 0x80 0xBF 0 := by
  have range : ¬ 0xC0 + code / 0x40 < 0x80 ∧ 0xC2 ≤ 0xC0 + code / 0x40 ∧
      0xC0 + code / 0x40 ≤ 0xDF := by omega
  simp only [utf8Lead, toNat_byte (show 0xC0 + code / 0x40 < 256 by omega)]
  rw [if_neg range.1, if_pos range.2, Nat.add_sub_cancel_left]

/-- The first of three bytes leaves out the short characters and the surrogates. -/
theorem utf8Lead_three (code : Nat) (low : 0x800 ≤ code) (high : code < 0x10000)
    (complete : code < 0xD800 ∨ 0xDFFF < code) :
    ∃ least most, utf8Lead (UInt8.ofNat (0xE0 + code / 0x1000)) =
        .opens (code / 0x1000) least most 1 ∧
      least ≤ 0x80 + code / 0x40 % 0x40 ∧ 0x80 + code / 0x40 % 0x40 ≤ most := by
  simp only [utf8Lead, toNat_byte (show 0xE0 + code / 0x1000 < 256 by omega)]
  rw [if_neg (by omega), if_neg (by omega)]
  -- The first byte alone tells whether the range of the second is cut, and on which side.
  by_cases first : code / 0x1000 = 0
  · exact ⟨0xA0, 0xBF, by simp [first], by omega, by omega⟩
  · rw [if_neg (by omega)]
    by_cases surrogates : code / 0x1000 = 0xD
    · exact ⟨0x80, 0x9F, by simp [surrogates], by omega, by omega⟩
    · refine ⟨0x80, 0xBF, ?_, by omega, by omega⟩
      rw [if_neg (by omega), if_pos (by omega), Nat.add_sub_cancel_left]

/-- The first of four bytes leaves out the short characters and what is beyond the last one. -/
theorem utf8Lead_four (code : Nat) (low : 0x10000 ≤ code) (high : code < 0x110000) :
    ∃ least most, utf8Lead (UInt8.ofNat (0xF0 + code / 0x40000)) =
        .opens (code / 0x40000) least most 2 ∧
      least ≤ 0x80 + code / 0x1000 % 0x40 ∧ 0x80 + code / 0x1000 % 0x40 ≤ most := by
  simp only [utf8Lead, toNat_byte (show 0xF0 + code / 0x40000 < 256 by omega)]
  rw [if_neg (by omega), if_neg (by omega), if_neg (by omega), if_neg (by omega),
    if_neg (by omega)]
  by_cases first : code / 0x40000 = 0
  · exact ⟨0x90, 0xBF, by simp [first], by omega, by omega⟩
  · rw [if_neg (by omega)]
    by_cases last : code / 0x40000 = 4
    · exact ⟨0x80, 0x8F, by simp [last], by omega, by omega⟩
    · refine ⟨0x80, 0xBF, ?_, by omega, by omega⟩
      rw [if_pos (by omega), Nat.add_sub_cancel_left]

/-! ### Characters and texts -/

/-- **The bytes of a character are read as the character**, wherever they stand. -/
theorem utf8Pieces_encodeChar (c : Char) (rest : List UInt8) :
    utf8Pieces .start (encodeCharUtf8 c ++ rest) = some c :: utf8Pieces .start rest := by
  have valid : c.toNat < 0xD800 ∨ (0xDFFF < c.toNat ∧ c.toNat < 0x110000) := c.valid
  have same {value : Nat} (is : value = c.toNat) : Char.ofNat value = c := by
    rw [is, Char.ofNat_toNat]
  simp only [encodeCharUtf8]
  split
  · rename_i small
    rw [List.singleton_append, utf8Pieces, utf8Lead_whole small, same rfl]
  · split
    · have lead := utf8Lead_two c.toNat (by omega) (by omega)
      rw [List.cons_append, List.singleton_append, utf8Pieces_opens lead,
        utf8Pieces_last (by omega) (by omega), same (by omega)]
    · split
      · obtain ⟨least, most, lead, range⟩ :=
          utf8Lead_three c.toNat (by omega) (by omega) (by omega)
        rw [List.cons_append, List.cons_append, List.singleton_append, utf8Pieces_opens lead,
          utf8Pieces_inside (by omega) range, utf8Pieces_last (by omega) (by omega),
          same (by omega)]
      · obtain ⟨least, most, lead, range⟩ :=
          utf8Lead_four c.toNat (by omega) (by omega)
        rw [List.cons_append, List.cons_append, List.cons_append, List.singleton_append,
          utf8Pieces_opens lead, utf8Pieces_inside (by omega) range,
          utf8Pieces_inside (by omega) (by omega), utf8Pieces_last (by omega) (by omega),
          same (by omega)]

/-- **The bytes of a text are read as the text.** -/
theorem decodeUtf8?_encodeUtf8 (text : String) : decodeUtf8? (encodeUtf8 text) = some text := by
  suffices ∀ chars : List Char,
      allSome (utf8Pieces .start (chars.flatMap encodeCharUtf8)) = some chars by
    rw [decodeUtf8?, encodeUtf8, this, Option.map_some, String.ofList_toList]
  intro chars
  induction chars with
  | nil => rfl
  | cons c chars ih =>
    rw [List.flatMap_cons, utf8Pieces_encodeChar, allSome, ih]
    rfl

end NodeStorage.Text
