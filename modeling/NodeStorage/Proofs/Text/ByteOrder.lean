/-
**The order of texts is the order of their bytes.**

Texts are compared by code points. In UTF-8 a character of more bytes begins with a greater byte,
and of two characters with as many bytes the first byte in which they differ is greater where the
code point is; so comparing the bytes of two texts comes to the same (`encodeUtf8_le_iff`).
-/

import Mathlib.Data.List.Basic
import NodeStorage.Proofs.Text.Utf8

namespace NodeStorage.Text

theorem bytes_lt_of_head {first second : Nat} (less : first < second) (small : second < 256)
    (left right : List UInt8) : UInt8.ofNat first :: left < UInt8.ofNat second :: right := by
  refine List.cons_lt_cons_iff.mpr (Or.inl (UInt8.lt_iff_toNat_lt.mpr ?_))
  rwa [toNat_byte small, toNat_byte (Nat.lt_trans less small)]

/-- Where the first bytes may be the same, those behind them decide. -/
theorem bytes_lt_of_le {first second : Nat} (notAbove : first ≤ second) (small : second < 256)
    {left right : List UInt8} (rest : first = second → left < right) :
    UInt8.ofNat first :: left < UInt8.ofNat second :: right := by
  rcases Nat.lt_or_eq_of_le notAbove with less | same
  · exact bytes_lt_of_head less small left right
  · exact List.cons_lt_cons_iff.mpr (Or.inr ⟨congrArg UInt8.ofNat same, rest same⟩)

/-- **The bytes of a smaller character come first**, whatever stands behind the characters. -/
theorem encodeCharUtf8_append_lt {c d : Char} (less : c.toNat < d.toNat)
    (left right : List UInt8) : encodeCharUtf8 c ++ left < encodeCharUtf8 d ++ right := by
  have last : d.toNat < 0x110000 := by
    rcases d.valid with low | ⟨-, high⟩
    · exact Nat.lt_trans low (by decide)
    · exact high
  unfold encodeCharUtf8
  generalize c.toNat = first, d.toNat = second at less last
  dsimp only
  -- With as many bytes, the first that differs decides; otherwise the first byte does.
  by_cases one : second < 0x80
  · rw [if_pos one, if_pos (by omega)]
    exact bytes_lt_of_head less (by omega) _ _
  · rw [if_neg one]
    by_cases two : second < 0x800
    · rw [if_pos two]
      split
      · exact bytes_lt_of_head (by omega) (by omega) _ _
      · rw [if_pos (by omega)]
        refine bytes_lt_of_le (by omega) (by omega) fun high => ?_
        exact bytes_lt_of_head (by omega) (by omega) _ _
    · rw [if_neg two]
      by_cases three : second < 0x10000
      · rw [if_pos three]
        split
        · exact bytes_lt_of_head (by omega) (by omega) _ _
        · split
          · exact bytes_lt_of_head (by omega) (by omega) _ _
          · rw [if_pos (by omega)]
            refine bytes_lt_of_le (by omega) (by omega) fun high => ?_
            refine bytes_lt_of_le (by omega) (by omega) fun middle => ?_
            exact bytes_lt_of_head (by omega) (by omega) _ _
      · rw [if_neg three]
        split
        · exact bytes_lt_of_head (by omega) (by omega) _ _
        · split
          · exact bytes_lt_of_head (by omega) (by omega) _ _
          · split
            · exact bytes_lt_of_head (by omega) (by omega) _ _
            · refine bytes_lt_of_le (by omega) (by omega) fun high => ?_
              refine bytes_lt_of_le (by omega) (by omega) fun upper => ?_
              refine bytes_lt_of_le (by omega) (by omega) fun middle => ?_
              exact bytes_lt_of_head (by omega) (by omega) _ _

theorem encodeCharUtf8_ne_nil (c : Char) : encodeCharUtf8 c ≠ [] := by
  unfold encodeCharUtf8
  dsimp only
  split
  · exact List.cons_ne_nil _ _
  · split
    · exact List.cons_ne_nil _ _
    · split <;> exact List.cons_ne_nil _ _

theorem flatMap_encodeCharUtf8_lt {left right : List Char} (less : left < right) :
    left.flatMap encodeCharUtf8 < right.flatMap encodeCharUtf8 := by
  induction left generalizing right with
  | nil =>
    cases right with
    | nil => cases less
    | cons d right =>
      cases bytes : encodeCharUtf8 d with
      | nil => exact absurd bytes (encodeCharUtf8_ne_nil d)
      | cons byte bytes' =>
        rw [List.flatMap_cons, bytes]
        exact List.nil_lt_cons _ _
  | cons c left ih =>
    cases right with
    | nil => cases less
    | cons d right =>
      rw [List.flatMap_cons, List.flatMap_cons]
      rcases List.cons_lt_cons_iff.mp less with first | ⟨rfl, rest⟩
      · exact encodeCharUtf8_append_lt first _ _
      · exact List.append_left_lt (ih rest)

/-- **Texts are ordered as their bytes are.** -/
theorem encodeUtf8_le_iff {left right : String} :
    encodeUtf8 left ≤ encodeUtf8 right ↔ left ≤ right := by
  have before {left right : String} (less : left < right) : encodeUtf8 left < encodeUtf8 right :=
    flatMap_encodeCharUtf8_lt less
  constructor
  · intro order greater
    exact order (before greater)
  · intro order
    by_cases less : left < right
    · exact List.le_of_lt (before less)
    · rw [String.le_antisymm order less]
      exact List.le_refl _

end NodeStorage.Text
