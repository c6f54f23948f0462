/-
**Spellings of ASCII characters.**

A comparison without case takes a capital and its small letter for the same. Only two letters of
ASCII have a further spelling beyond it: the kelvin sign is a k, and the long s is an s. All other
characters have the spellings that ASCII gives them (`mem_caseVariants_iff`), which are those that
ASCII makes small to the same one (`mem_caseVariants_iff_toLower`).
-/

import NodeStorage.Proofs.Text.Case

namespace NodeStorage.Text

/-- The code point of an ASCII character that is no capital, and no letter with a spelling beyond
ASCII. -/
structure IsPlain (code : Nat) : Prop where
  ascii : code < 0x80
  small : ¬ (0x41 ≤ code ∧ code ≤ 0x5A)
  noK : code ≠ 0x6B
  noS : code ≠ 0x73

instance (code : Nat) : Decidable (IsPlain code) :=
  decidable_of_iff
    (code < 0x80 ∧ ¬ (0x41 ≤ code ∧ code ≤ 0x5A) ∧ code ≠ 0x6B ∧ code ≠ 0x73)
    ⟨fun ⟨ascii, small, noK, noS⟩ => ⟨ascii, small, noK, noS⟩,
      fun ⟨ascii, small, noK, noS⟩ => ⟨ascii, small, noK, noS⟩⟩

/-- Apart from the ASCII capitals, ASCII characters are not in the table, and nothing stands for one
but the kelvin sign and the long s. -/
theorem mem_foldRows {row : CaseRow} (member : row ∈ foldRows) :
    row = ⟨0x41, 0x5A, 1, 32⟩ ∨
      0x80 ≤ row.first ∧
        (0x80 ≤ row.low ∨ row.low = row.high ∧ (row.low = 0x6B ∨ row.low = 0x73)) := by
  have others : ∀ row ∈ foldRows.tail,
      0x80 ≤ row.first ∧
        (0x80 ≤ row.low ∨ row.low = row.high ∧ (row.low = 0x6B ∨ row.low = 0x73)) := by
    decide +kernel
  rcases List.mem_cons.mp (show row ∈ ⟨0x41, 0x5A, 1, 32⟩ :: foldRows.tail from member) with
    rfl | later
  · exact Or.inl rfl
  · exact Or.inr (others row later)

section Plain

variable {other : Nat} (plain : IsPlain other)

include plain

/-- No row holds a plain character, as none of them is a capital. -/
theorem image?_of_isPlain {row : CaseRow} (member : row ∈ foldRows) : row.image? other = none := by
  have ascii := plain.ascii
  refine CaseRow.image?_eq_none_iff.mpr ?_
  rintro ⟨first, last, -⟩
  rcases mem_foldRows member with rfl | ⟨above, -⟩
  · exact plain.small ⟨first, last⟩
  · omega

/-- Only its capital stands for a plain character. -/
theorem eq_of_image?_isPlain {row : CaseRow} (member : row ∈ foldRows) {code : Nat}
    (leads : row.image? code = some other) : 0x61 ≤ other ∧ other ≤ 0x7A ∧ code + 32 = other := by
  have ascii := plain.ascii
  have noK := plain.noK
  have noS := plain.noS
  obtain ⟨least, most⟩ := CaseRow.image_mem leads
  rcases mem_foldRows member with rfl | ⟨-, above | ⟨single, strange⟩⟩
  · obtain ⟨⟨first, last, -⟩, same⟩ := CaseRow.image?_eq_some_iff.mp leads
    simp only at first last same
    omega
  · omega
  · omega

theorem caseFold_of_isPlain : caseFold other = other := by
  have unheld : (foldRows.findSome? fun row => row.image? other) = none :=
    List.findSome?_eq_none_iff.mpr fun row member => image?_of_isPlain plain member
  rw [caseFold, unheld]
  rfl

/-- **A plain character has two spellings if it is a letter and one if it is none.** -/
theorem mem_caseVariants_iff {code : Nat} :
    other ∈ caseVariants code ↔
      code = other ∨ 0x61 ≤ other ∧ other ≤ 0x7A ∧ code + 32 = other := by
  rw [caseVariants, List.mem_cons, List.mem_filterMap]
  constructor
  · rintro (folded | ⟨row, member, before⟩)
    · rw [caseFold] at folded
      cases found : foldRows.findSome? fun row => row.image? code with
      | none =>
        rw [found] at folded
        exact Or.inl folded.symm
      | some image =>
        rw [found] at folded
        obtain ⟨row, member, leads⟩ := List.exists_of_findSome?_eq_some found
        rw [← show other = image from folded] at leads
        exact Or.inr (eq_of_image?_isPlain plain member leads)
    · rw [CaseRow.preimage?] at before
      split at before
      · rename_i leads
        rw [Option.some.inj before, image?_of_isPlain plain member] at leads
        cases leads
      · cases before
  · rintro (rfl | ⟨least, most, rfl⟩)
    · exact Or.inl (caseFold_of_isPlain plain).symm
    · have first : 0x41 ≤ code := by omega
      have last : code ≤ 0x5A := by omega
      have held : (CaseRow.mk 0x41 0x5A 1 32).image? code = some (code + 32) :=
        CaseRow.image?_eq_some_iff.mpr ⟨⟨first, last, Nat.mod_one _⟩, rfl⟩
      left
      rw [caseFold, show foldRows = ⟨0x41, 0x5A, 1, 32⟩ :: foldRows.tail from rfl,
        List.findSome?_cons, held]
      rfl

end Plain

/-- **The spellings of a plain character** are those that ASCII makes small to it. -/
theorem mem_caseVariants_iff_toLower {c : Char} (plain : IsPlain c.toNat) (d : Char) :
    c.toNat ∈ caseVariants d.toNat ↔ d.toLower = c := by
  have small := plain.small
  rw [mem_caseVariants_iff plain]
  by_cases capital : 0x41 ≤ d.toNat ∧ d.toNat ≤ 0x5A
  · have valid : (d.toNat + 32).isValidChar := Or.inl (by omega)
    rw [toLower_of_capital capital, ← Char.toNat_inj, toNat_ofNat_of_isValidChar valid]
    omega
  · rw [toLower_of_not_capital capital, ← Char.toNat_inj]
    omega

end NodeStorage.Text
