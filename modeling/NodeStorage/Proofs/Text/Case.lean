/-
**Small letters stay small.**

No letter that another one is made into is itself made into another letter, so a text in small
letters stays as it is, whatever is cut off it (`lowercaseAfter_eq_self`). This is a fact about the
table of letters; it is checked row against row (`misses_lowerRows`), by the least and the greatest
letter that a row leads to, and for rows that take every other letter by their parity.

ASCII is kept apart: what is no small letter is made of nothing but itself
(`mem_of_mem_lowercaseAfter`), and apart from an i and a k at the right place, an ASCII text in
small letters comes of no letters but ASCII ones (`prefix_lowercaseAfter_iff`).
-/

import Mathlib.Data.List.Basic
import NodeStorage.Text.Case

namespace NodeStorage.Text

/-! ### The table of letters -/

namespace CaseRow

/-- The least code point that the row leads to. -/
def low (row : CaseRow) : Nat := ((row.first : Int) + row.offset).toNat

/-- The greatest code point that the row leads to. -/
def high (row : CaseRow) : Nat := ((row.last : Int) + row.offset).toNat

/-- The row leads to nothing that the other row holds: to code points below or above, or to the
ones between those it takes every other of. -/
def misses (row other : CaseRow) : Bool :=
  Nat.blt row.high other.first || Nat.blt other.last row.low ||
    ((row.stride == 2 || row.first == row.last) && other.stride == 2 &&
      (row.low + other.first) % 2 == 1)

/-- **What the row leads to are letters** that are no capitals with a rule of their own. -/
structure LeadsToLetters (row : CaseRow) : Prop where
  small : 0x61 ≤ row.low
  dotted : row.high < 0x130 ∨ 0x130 < row.low
  sigma : row.high < 0x3A3 ∨ 0x3A3 < row.low
  valid : row.high < 0xD800 ∨ 0xDFFF < row.low ∧ row.high < 0x110000

instance (row : CaseRow) : Decidable (LeadsToLetters row) :=
  decidable_of_iff
    (0x61 ≤ row.low ∧ (row.high < 0x130 ∨ 0x130 < row.low) ∧
      (row.high < 0x3A3 ∨ 0x3A3 < row.low) ∧
      (row.high < 0xD800 ∨ 0xDFFF < row.low ∧ row.high < 0x110000))
    ⟨fun ⟨small, dotted, sigma, valid⟩ => ⟨small, dotted, sigma, valid⟩,
      fun ⟨small, dotted, sigma, valid⟩ => ⟨small, dotted, sigma, valid⟩⟩

theorem image?_eq_some_iff {row : CaseRow} {code image : Nat} :
    row.image? code = some image ↔
      (row.first ≤ code ∧ code ≤ row.last ∧ (code - row.first) % row.stride = 0) ∧
        ((code : Int) + row.offset).toNat = image := by
  rw [image?]
  split
  · rename_i held
    rw [and_iff_right held, Option.some.injEq]
  · rename_i out
    exact iff_of_false (fun given => by cases given) fun ⟨held, _⟩ => out held

theorem image?_eq_none_iff {row : CaseRow} {code : Nat} :
    row.image? code = none ↔
      ¬ (row.first ≤ code ∧ code ≤ row.last ∧ (code - row.first) % row.stride = 0) := by
  rw [image?]
  split
  · rename_i held
    exact iff_of_false (fun given => by cases given) fun out => out held
  · rename_i out
    exact iff_of_true rfl out

theorem image_mem {row : CaseRow} {code image : Nat} (leads : row.image? code = some image) :
    row.low ≤ image ∧ image ≤ row.high := by
  obtain ⟨⟨least, most, -⟩, rfl⟩ := image?_eq_some_iff.mp leads
  unfold low high
  omega

theorem image?_of_misses {row other : CaseRow} {code image : Nat} (letters : row.LeadsToLetters)
    (missed : row.misses other = true) (leads : row.image? code = some image) :
    other.image? image = none := by
  obtain ⟨least, most⟩ := image_mem leads
  obtain ⟨⟨first, last, step⟩, rfl⟩ := image?_eq_some_iff.mp leads
  rw [image?_eq_none_iff]
  rintro ⟨otherFirst, otherLast, otherStep⟩
  have small := letters.small
  simp only [misses, Bool.or_eq_true, Bool.and_eq_true, beq_iff_eq, Nat.blt_eq] at missed
  rcases missed with (below | above) | ⟨⟨single | alone, pairs⟩, odd⟩
  · omega
  · omega
  · -- Both rows take every other code point, and not the same ones.
    rw [single] at step
    rw [pairs] at otherStep
    unfold low at odd small
    omega
  · rw [pairs] at otherStep
    unfold low at odd small
    omega

end CaseRow

theorem leadsToLetters_of_mem {row : CaseRow} (member : row ∈ lowerRows) : row.LeadsToLetters := by
  have all : ∀ row ∈ lowerRows, row.LeadsToLetters := by decide +kernel
  exact all row member

theorem misses_lowerRows :
    (lowerRows.all fun row => lowerRows.all fun other => row.misses other) = true := by
  decide +kernel

/-- **What a row leads to, no row holds.** -/
theorem image?_image {row other : CaseRow} (member : row ∈ lowerRows) (another : other ∈ lowerRows)
    {code image : Nat} (leads : row.image? code = some image) : other.image? image = none := by
  have missed := List.all_eq_true.mp (List.all_eq_true.mp misses_lowerRows row member)
  exact CaseRow.image?_of_misses (leadsToLetters_of_mem member) (missed other another) leads

/-! ### Small forms -/

theorem toNat_ofNat_of_isValidChar {code : Nat} (valid : code.isValidChar) :
    (Char.ofNat code).toNat = code := by
  rw [Char.ofNat, dif_pos valid]
  rfl

/-- **How one character comes of another** when this is made small. -/
inductive Lowered (c : Char) : Char → Prop
  | kept (unheld : ∀ row ∈ lowerRows, row.image? c.toNat = none) (plain : c.toNat ≠ 0x130) :
      Lowered c c
  | mapped {d : Char} (row : CaseRow) (member : row ∈ lowerRows)
      (leads : row.image? c.toNat = some d.toNat) : Lowered c d
  | letter (dotted : c.toNat = 0x130) : Lowered c 'i'
  | dot (dotted : c.toNat = 0x130) : Lowered c (Char.ofNat 0x307)

theorem lowered_of_mem_lowerForm {c d : Char} (member : d ∈ lowerForm c) : Lowered c d := by
  rw [lowerForm] at member
  split at member
  · rename_i dotted
    rcases List.mem_pair.mp member with rfl | rfl
    · exact .letter dotted
    · exact .dot dotted
  · rename_i plain
    split at member
    · rename_i code found
      obtain ⟨row, inTable, leads⟩ := List.exists_of_findSome?_eq_some found
      obtain ⟨least, most⟩ := CaseRow.image_mem leads
      have valid : code.isValidChar := by
        rcases (leadsToLetters_of_mem inTable).valid with low | ⟨above, below⟩
        · exact Or.inl (by omega)
        · exact Or.inr ⟨by omega, by omega⟩
      rw [List.mem_singleton.mp member]
      exact .mapped row inTable (by rw [toNat_ofNat_of_isValidChar valid, leads])
    · rename_i unheld
      rw [List.mem_singleton.mp member]
      exact .kept (List.findSome?_eq_none_iff.mp unheld) plain

/-- The character is its own small form, wherever it stands. -/
structure IsSmall (c : Char) : Prop where
  form : lowerForm c = [c]
  sigma : c.toNat ≠ 0x3A3

theorem lowerForm_of_unheld {c : Char} (unheld : ∀ row ∈ lowerRows, row.image? c.toNat = none)
    (plain : c.toNat ≠ 0x130) : lowerForm c = [c] := by
  rw [lowerForm, if_neg plain, List.findSome?_eq_none_iff.mpr unheld]

/-- **What is made small is small.** -/
theorem Lowered.isSmall {c d : Char} (lowered : Lowered c d) : IsSmall d := by
  cases lowered with
  | kept unheld plain =>
    refine ⟨lowerForm_of_unheld unheld plain, fun sigma => ?_⟩
    have held : (lowerRows.findSome? fun row => row.image? 0x3A3) = some 0x3C3 := by decide
    rw [sigma] at unheld
    rw [List.findSome?_eq_none_iff.mpr unheld] at held
    cases held
  | mapped row member leads =>
    obtain ⟨least, most⟩ := CaseRow.image_mem leads
    obtain ⟨-, dotted, sigma, -⟩ := leadsToLetters_of_mem member
    exact ⟨lowerForm_of_unheld (fun other another => image?_image member another leads) (by omega),
      by omega⟩
  | letter => exact ⟨by decide, by decide⟩
  | dot => exact ⟨by decide, by decide⟩

/-- What is no small letter comes of itself. -/
theorem Lowered.eq_of_lt {c d : Char} (lowered : Lowered c d) (below : d.toNat < 0x61) : c = d := by
  cases lowered with
  | kept => rfl
  | mapped row member leads =>
    have least := (CaseRow.image_mem leads).1
    have small := (leadsToLetters_of_mem member).small
    omega
  | letter => exact absurd below (by decide)
  | dot => exact absurd below (by decide)

/-! ### Texts in small letters -/

/-- The small form of a character that stands between others. -/
theorem mem_lowercaseAfter_cons {before rest : List Char} {c d : Char}
    (member : d ∈ lowercaseAfter before (c :: rest)) :
    c.toNat = 0x3A3 ∧ (d = Char.ofNat 0x3C2 ∨ d = Char.ofNat 0x3C3) ∨ Lowered c d ∨
      d ∈ lowercaseAfter (c :: before) rest := by
  rw [lowercaseAfter, List.mem_append] at member
  rcases member with first | later
  · split at first
    · rename_i sigma
      split at first
      · exact Or.inl ⟨sigma, Or.inl (List.mem_singleton.mp first)⟩
      · exact Or.inl ⟨sigma, Or.inr (List.mem_singleton.mp first)⟩
    · exact Or.inr (Or.inl (lowered_of_mem_lowerForm first))
  · exact Or.inr (Or.inr later)

theorem isSmall_of_mem_lowercaseAfter {before chars : List Char} {d : Char}
    (member : d ∈ lowercaseAfter before chars) : IsSmall d := by
  induction chars generalizing before with
  | nil => cases member
  | cons c chars ih =>
    rcases mem_lowercaseAfter_cons member with ⟨-, rfl | rfl⟩ | lowered | later
    · exact ⟨by decide, by decide⟩
    · exact ⟨by decide, by decide⟩
    · exact lowered.isSmall
    · exact ih later

/-- **A text in small letters stays as it is.** -/
theorem lowercaseAfter_eq_self {before chars : List Char} (small : ∀ c ∈ chars, IsSmall c) :
    lowercaseAfter before chars = chars := by
  induction chars generalizing before with
  | nil => rfl
  | cons c chars ih =>
    obtain ⟨first, rest⟩ := List.forall_mem_cons.mp small
    rw [lowercaseAfter, if_neg first.sigma, first.form, ih rest, List.singleton_append]

theorem lowercase_eq_self {text : String} (small : ∀ c ∈ text.toList, IsSmall c) :
    lowercase text = text := by
  rw [lowercase, lowercaseAfter_eq_self small, String.ofList_toList]

theorem isSmall_of_mem_lowercase {text : String} {c : Char}
    (member : c ∈ (lowercase text).toList) : IsSmall c := by
  rw [lowercase, String.toList_ofList] at member
  exact isSmall_of_mem_lowercaseAfter member

/-- What is no small letter stood in the text before. -/
theorem mem_of_mem_lowercaseAfter {before chars : List Char} {d : Char}
    (member : d ∈ lowercaseAfter before chars) (below : d.toNat < 0x61) : d ∈ chars := by
  induction chars generalizing before with
  | nil => cases member
  | cons c chars ih =>
    rcases mem_lowercaseAfter_cons member with ⟨-, rfl | rfl⟩ | lowered | later
    · exact absurd below (by decide)
    · exact absurd below (by decide)
    · rw [lowered.eq_of_lt below]
      exact List.mem_cons_self
    · exact List.mem_cons_of_mem _ (ih later)

/-! ### ASCII letters -/

/-- Apart from the ASCII capitals, ASCII letters are not in the table, and nothing is made into one
but the kelvin sign. -/
theorem mem_lowerRows {row : CaseRow} (member : row ∈ lowerRows) :
    row = ⟨0x41, 0x5A, 1, 32⟩ ∨
      0x80 ≤ row.first ∧ (0x80 ≤ row.low ∨ row.low = 0x6B ∧ row.high = 0x6B) := by
  have others : ∀ row ∈ lowerRows.tail,
      0x80 ≤ row.first ∧ (0x80 ≤ row.low ∨ row.low = 0x6B ∧ row.high = 0x6B) := by
    decide +kernel
  rcases List.mem_cons.mp (show row ∈ ⟨0x41, 0x5A, 1, 32⟩ :: lowerRows.tail from member) with
    rfl | later
  · exact Or.inl rfl
  · exact Or.inr (others row later)

theorem toLower_of_capital {c : Char} (capital : 0x41 ≤ c.toNat ∧ c.toNat ≤ 0x5A) :
    c.toLower = Char.ofNat (c.toNat + 32) := by
  have valid : (c.toNat + 32).isValidChar := Or.inl (by omega)
  have shifted : c.toLower.toNat = (c.toNat + 32) % 2 ^ 32 :=
    congrArg Char.toNat (dif_pos capital)
  rw [← Char.toNat_inj, toNat_ofNat_of_isValidChar valid, shifted]
  exact Nat.mod_eq_of_lt (by omega)

theorem toLower_of_not_capital {c : Char} (other : ¬ (0x41 ≤ c.toNat ∧ c.toNat ≤ 0x5A)) :
    c.toLower = c :=
  dif_neg other

theorem lowerForm_of_ascii {c : Char} (ascii : c.toNat < 0x80) : lowerForm c = [c.toLower] := by
  by_cases capital : 0x41 ≤ c.toNat ∧ c.toNat ≤ 0x5A
  · have held : (CaseRow.mk 0x41 0x5A 1 32).image? c.toNat = some (c.toNat + 32) :=
      CaseRow.image?_eq_some_iff.mpr ⟨⟨capital.1, capital.2, Nat.mod_one _⟩, rfl⟩
    rw [toLower_of_capital capital, lowerForm, if_neg (by omega),
      show lowerRows = ⟨0x41, 0x5A, 1, 32⟩ :: lowerRows.tail from rfl, List.findSome?_cons, held]
  · rw [toLower_of_not_capital capital]
    refine lowerForm_of_unheld (fun row member => CaseRow.image?_eq_none_iff.mpr ?_) (by omega)
    rintro ⟨first, last, -⟩
    rcases mem_lowerRows member with rfl | ⟨above, -⟩
    · exact capital ⟨first, last⟩
    · omega

theorem isSmall_of_ascii {c : Char} (ascii : c.toNat < 0x80) (small : c.toLower = c) :
    IsSmall c :=
  ⟨by rw [lowerForm_of_ascii ascii, small], by omega⟩

/-- An ASCII letter comes of an ASCII letter, unless it is a k or the first part of a dotted i. -/
theorem Lowered.ascii {c d : Char} (lowered : Lowered c d) (ascii : d.toNat < 0x80)
    (other : d ≠ 'k') : c.toNat < 0x80 ∨ c.toNat = 0x130 ∧ d = 'i' := by
  cases lowered with
  | kept => exact Or.inl ascii
  | mapped row member leads =>
    obtain ⟨least, most⟩ := CaseRow.image_mem leads
    rcases mem_lowerRows member with rfl | ⟨-, above | ⟨low, high⟩⟩
    · have last := (CaseRow.image?_eq_some_iff.mp leads).1.2.1
      exact Or.inl (Nat.lt_of_le_of_lt last (by decide))
    · omega
    · exact absurd (Char.toNat_inj.mp (show d.toNat = 'k'.toNat by simp; omega)) other
  | letter dotted => exact Or.inr ⟨dotted, rfl⟩
  | dot => exact absurd ascii (by decide)

/-- A letter beyond ASCII leaves the ASCII text behind, unless it is a kelvin sign or a dotted I. -/
theorem lowercaseAfter_of_beyond {c : Char} (beyond : 0x80 ≤ c.toNat) (before chars : List Char) :
    ∃ d rest, lowercaseAfter before (c :: chars) = d :: rest ∧
      (0x80 ≤ d.toNat ∨ d = 'k' ∨ d = 'i' ∧ ∃ later, rest = Char.ofNat 0x307 :: later) := by
  rw [lowercaseAfter]
  by_cases sigma : c.toNat = 0x3A3
  · rw [if_pos sigma]
    split
    · exact ⟨_, _, rfl, Or.inl (by decide)⟩
    · exact ⟨_, _, rfl, Or.inl (by decide)⟩
  · rw [if_neg sigma]
    by_cases dotted : c.toNat = 0x130
    · rw [lowerForm, if_pos dotted]
      exact ⟨_, _, rfl, Or.inr (Or.inr ⟨rfl, _, rfl⟩)⟩
    · obtain ⟨d, form⟩ : ∃ d, lowerForm c = [d] := by
        rw [lowerForm, if_neg dotted]
        split <;> exact ⟨_, rfl⟩
      refine ⟨d, _, by rw [form]; rfl, ?_⟩
      have lowered : Lowered c d :=
        lowered_of_mem_lowerForm (by rw [form]; exact List.mem_cons_self)
      by_cases ascii : d.toNat < 0x80 ∧ d ≠ 'k'
      · rcases lowered.ascii ascii.1 ascii.2 with plain | ⟨isDotted, -⟩
        · omega
        · exact absurd isDotted dotted
      · rcases not_and_or.mp ascii with beyondAscii | isK
        · exact Or.inl (Nat.le_of_not_lt beyondAscii)
        · exact Or.inr (Or.inl (not_not.mp isK))

/-- **An ASCII text is met whether all capitals are made small or only those of ASCII**, if it has
no k in it and no i at its end. -/
theorem prefix_lowercaseAfter_iff {start before chars : List Char}
    (ascii : ∀ c ∈ start, c.toNat < 0x80 ∧ c ≠ 'k') (last : start.getLast? ≠ some 'i') :
    start <+: lowercaseAfter before chars ↔ start <+: asciiLowercase chars := by
  induction start generalizing before chars with
  | nil => exact iff_of_true List.nil_prefix List.nil_prefix
  | cons d start ih =>
    obtain ⟨⟨small, noK⟩, rest⟩ := List.forall_mem_cons.mp ascii
    cases chars with
    | nil => exact Iff.rfl
    | cons c chars =>
      rw [asciiLowercase, List.map_cons]
      by_cases plain : c.toNat < 0x80
      · have later : start.getLast? ≠ some 'i' := by
          cases start with
          | nil => simp
          | cons next start => rwa [List.getLast?_cons_cons] at last
        rw [lowercaseAfter, if_neg (by omega), lowerForm_of_ascii plain, List.singleton_append,
          List.cons_prefix_cons, List.cons_prefix_cons, ih rest later, asciiLowercase]
      · rw [toLower_of_not_capital (by omega), List.cons_prefix_cons]
        refine iff_of_false (fun starts => ?_) fun ⟨same, _⟩ => plain (same ▸ small)
        obtain ⟨e, others, found, kind⟩ :=
          lowercaseAfter_of_beyond (Nat.le_of_not_lt plain) before chars
        obtain ⟨rfl, starts⟩ := List.cons_prefix_cons.mp (found ▸ starts)
        rcases kind with beyond | rfl | ⟨rfl, after, rfl⟩
        · omega
        · exact noK rfl
        · -- Behind the i stands a dot, which is not ASCII.
          cases start with
          | nil => exact last rfl
          | cons next start =>
            have isDot := (List.cons_prefix_cons.mp starts).1
            exact absurd (rest next List.mem_cons_self).1 (by rw [isDot]; decide)

end NodeStorage.Text
