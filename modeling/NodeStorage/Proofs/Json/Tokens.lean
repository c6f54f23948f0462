/-
**Strings and whole numbers of JSON, read as they were written.**

A string is written character by character: most characters stand for themselves, seven have an
escape of two characters, and the other control characters are written by number. Reading takes the
elements one at a time (`stringUnits_escapeChar`), and since no element is half of a surrogate pair
they join to the characters that were written (`readString_written`).

A whole number is written with its digits and nothing else, without a zero in front, so it is read
to its end when no further digit, point or exponent follows (`readNumber_toString`).
-/

import NodeStorage.Json.Reader
import NodeStorage.Json.Writer

namespace NodeStorage.Json

/-! ### Strings -/

/-- An element in front of the elements that were found. -/
def withUnit (unit : Unit16) (found : List Unit16 × List Char) : List Unit16 × List Char :=
  (unit :: found.1, found.2)

theorem stringUnits_short {c value : Char} (rest : List Char) (other : c ≠ 'u')
    (short : shortEscape? c = some value) :
    stringUnits ('\\' :: c :: rest) = (stringUnits rest).map (withUnit (.char value)) := by
  rw [stringUnits, short]
  · cases stringUnits rest <;> rfl
  · intro a b d e after same
    exact absurd same other

theorem stringUnits_unit {a b c d : Char} {value : Nat} (rest : List Char)
    (digits : unit? a b c d = some value) :
    stringUnits ('\\' :: 'u' :: a :: b :: c :: d :: rest) =
      (stringUnits rest).map (withUnit (.unit value)) := by
  rw [stringUnits, digits]
  cases stringUnits rest <;> rfl

theorem stringUnits_plain {c : Char} (rest : List Char) (quote : c ≠ '"') (escape : c ≠ '\\')
    (printable : ¬ c.toNat < 0x20) :
    stringUnits (c :: rest) = (stringUnits rest).map (withUnit (.char c)) := by
  rw [stringUnits, if_neg printable]
  · cases stringUnits rest <;> rfl
  all_goals simp_all

/-- The characters that have a short escape. -/
def shortEscaped : List Char :=
  ['"', '\\', Char.ofNat 0x08, Char.ofNat 0x0C, '\n', '\r', '\t']

/-- How a character stands in a string that was written. -/
def writtenUnit (c : Char) : Unit16 :=
  if c.toNat < 0x20 ∧ c ∉ shortEscaped then .unit c.toNat else .char c

/-- The number that the digits of a control character denote. -/
def controlUnit? (value : Nat) : Option Nat :=
  match Text.hexadecimalPadded 4 value with
  | [a, b, c, d] => unit? a b c d
  | _ => none

theorem controlUnit?_eq : ∀ value < 0x20, controlUnit? value = some value := by
  decide

theorem stringUnits_control {value : Nat} (small : value < 0x20) (rest : List Char) :
    stringUnits ('\\' :: 'u' :: Text.hexadecimalPadded 4 value ++ rest) =
      (stringUnits rest).map (withUnit (.unit value)) := by
  have known := controlUnit?_eq value small
  unfold controlUnit? at known
  split at known
  · rename_i same
    rw [same]
    exact stringUnits_unit rest known
  · cases known

/-- **What is written for a character is read as that character.** -/
theorem stringUnits_escapeChar (c : Char) (rest : List Char) :
    stringUnits (escapeChar c ++ rest) = (stringUnits rest).map (withUnit (writtenUnit c)) := by
  by_cases short : c ∈ shortEscaped
  · have plain : writtenUnit c = .char c := if_neg fun both => both.2 short
    rw [plain]
    simp only [shortEscaped, List.mem_cons, List.not_mem_nil, or_false] at short
    rcases short with rfl | rfl | rfl | rfl | rfl | rfl | rfl <;>
      exact stringUnits_short rest (by decide) rfl
  · have differs := short
    simp only [shortEscaped, List.mem_cons, List.not_mem_nil, or_false, not_or] at differs
    obtain ⟨quote, escape, backspace, formFeed, lineFeed, carriage, tab⟩ := differs
    have numbered : ∀ value, c ≠ Char.ofNat value → c.toNat ≠ value := by
      rintro value different rfl
      exact different (Char.ofNat_toNat c).symm
    simp only [escapeChar, if_neg quote, if_neg escape, if_neg (numbered _ backspace),
      if_neg (numbered _ formFeed), if_neg lineFeed, if_neg carriage, if_neg tab]
    by_cases small : c.toNat < 0x20
    · rw [if_pos small, writtenUnit, if_pos ⟨small, short⟩]
      exact stringUnits_control small rest
    · rw [if_neg small, writtenUnit, if_neg fun both => small both.1]
      exact stringUnits_plain rest quote escape small

theorem stringUnits_written (chars rest : List Char) :
    stringUnits (chars.flatMap escapeChar ++ '"' :: rest) = some (chars.map writtenUnit, rest) := by
  induction chars with
  | nil => rfl
  | cons c chars ih =>
    rw [List.flatMap_cons, List.append_assoc, stringUnits_escapeChar, ih]
    rfl

theorem joinUnits_char (c : Char) (rest : List Unit16) :
    joinUnits (.char c :: rest) = (joinUnits rest).map (c :: ·) := rfl

theorem joinUnits_small {value : Nat} (small : value < 0x20) (rest : List Unit16) :
    joinUnits (.unit value :: rest) = (joinUnits rest).map (Char.ofNat value :: ·) := by
  have whole : ¬ 0xD800 ≤ value := by omega
  have late : ¬ 0xDC00 ≤ value := by omega
  cases rest with
  | nil => simp [joinUnits, whole]
  | cons unit rest =>
    cases unit with
    | char c => simp [joinUnits, whole]
    | unit low => simp [joinUnits, whole, late]

theorem joinUnits_written (chars : List Char) : joinUnits (chars.map writtenUnit) = some chars := by
  induction chars with
  | nil => rfl
  | cons c chars ih =>
    rw [List.map_cons, writtenUnit]
    split
    · rename_i control
      rw [joinUnits_small control.1, ih, Char.ofNat_toNat]
      rfl
    · rw [joinUnits_char, ih]
      rfl

/-- **A written string is read back**, whatever stands behind it. -/
theorem readString_written (text : String) (rest : List Char) :
    readString (text.toList.flatMap escapeChar ++ '"' :: rest) = some (some text, rest) := by
  rw [readString, stringUnits_written]
  simp only [Option.map_some, joinUnits_written, String.ofList_toList]

/-! ### Whole numbers -/

/-- A number that stands before these characters ends there. -/
def EndsNumber (rest : List Char) : Prop :=
  ∀ c ∈ rest.head?, c.isDigit = false ∧ c ≠ '.' ∧ c ≠ 'e' ∧ c ≠ 'E'

theorem readFraction_ends {rest : List Char} (ends : EndsNumber rest) :
    readFraction rest = some (none, rest) := by
  cases rest with
  | nil => rfl
  | cons c rest =>
    have point := (ends c rfl).2.1
    unfold readFraction
    split
    · rename_i same
      cases same
      exact absurd rfl point
    · rfl

theorem readExponent_ends {rest : List Char} (ends : EndsNumber rest) :
    readExponent rest = some (none, rest) := by
  cases rest with
  | nil => rfl
  | cons c rest =>
    obtain ⟨-, -, lower, upper⟩ := ends c rfl
    simp [readExponent, lower, upper]

/-- No further digit follows. -/
def EndsDigits (rest : List Char) : Prop :=
  ∀ c ∈ rest.head?, c.isDigit = false

theorem EndsNumber.endsDigits {rest : List Char} (ends : EndsNumber rest) : EndsDigits rest :=
  fun c first => (ends c first).1

theorem spanDigits_append {digits rest : List Char} (all : ∀ c ∈ digits, c.isDigit = true)
    (ends : EndsDigits rest) : spanDigits (digits ++ rest) = (digits, rest) := by
  unfold spanDigits
  rw [List.takeWhile_append_of_pos all, List.dropWhile_append_of_pos all]
  cases rest with
  | nil => simp
  | cons c rest =>
    have other : c.isDigit = false := ends c rfl
    simp [other]

/-- Only zero is written with a zero in front. -/
theorem head?_toDigits {value : Nat} (positive : value ≠ 0) :
    ∀ c ∈ (Nat.toDigits 10 value).head?, c ≠ '0' := by
  induction value using Nat.strongRecOn with
  | _ value ih =>
    by_cases small : value < 10
    · have each : ∀ digit < 10, digit ≠ 0 → Nat.digitChar digit ≠ '0' := by decide
      rw [Nat.toDigits_of_lt_base small]
      rintro c ⟨rfl⟩
      exact each value small positive
    · rw [Nat.toDigits_of_base_le (by omega) (by omega)]
      have shorter := ih (value / 10) (by omega) (by omega)
      cases same : Nat.toDigits 10 (value / 10) with
      | nil => exact absurd same Nat.toDigits_ne_nil
      | cons d digits =>
        rw [same] at shorter
        exact shorter

theorem readUnsigned_toDigits (negative : Bool) (value : Nat) {rest : List Char}
    (ends : EndsNumber rest) :
    readUnsigned negative (Nat.toDigits 10 value ++ rest) =
      some (⟨negative, Nat.toDigits 10 value, none, none⟩, rest) := by
  unfold readUnsigned
  by_cases zero : value = 0
  · subst zero
    simp [readFraction_ends ends, readExponent_ends ends]
  · have span : spanDigits (Nat.toDigits 10 value ++ rest) = (Nat.toDigits 10 value, rest) :=
      spanDigits_append
        (fun c member => Nat.isDigit_of_mem_toDigits (by omega) (by omega) member) ends.endsDigits
    have head := head?_toDigits zero
    cases same : Nat.toDigits 10 value with
    | nil => exact absurd same Nat.toDigits_ne_nil
    | cons d digits =>
      rw [same] at span head
      have leading : d ≠ '0' := head d rfl
      split
      · rename_i equal
        cases equal
        exact absurd rfl leading
      · rw [span]
        simp [readFraction_ends ends, readExponent_ends ends]

/-- The numeral of a whole number as it is written. -/
def Numeral.ofInt (value : Int) : Numeral :=
  ⟨decide (value < 0), Nat.toDigits 10 value.natAbs, none, none⟩

theorem toList_toString (value : Int) :
    (toString value).toList =
      (if value < 0 then ['-'] else []) ++ Nat.toDigits 10 value.natAbs := by
  rw [Int.toString_eq_repr, Int.repr_eq_if]
  by_cases negative : value < 0
  · have magnitude : (-value).toNat = value.natAbs := by omega
    rw [if_neg (by omega), if_pos negative, magnitude]
    simp
  · have magnitude : value.toNat = value.natAbs := by omega
    rw [if_pos (by omega), if_neg negative, magnitude]
    simp

/-- A written whole number begins with a digit or a minus sign. -/
theorem toString_eq_cons (value : Int) :
    ∃ c rest, (toString value).toList = c :: rest ∧ (c = '-' ∨ c.isDigit = true) := by
  rw [toList_toString]
  by_cases negative : value < 0
  · exact ⟨'-', Nat.toDigits 10 value.natAbs, by rw [if_pos negative]; rfl, Or.inl rfl⟩
  · rw [if_neg negative, List.nil_append]
    cases same : Nat.toDigits 10 value.natAbs with
    | nil => exact absurd same Nat.toDigits_ne_nil
    | cons d digits =>
      have member : d ∈ Nat.toDigits 10 value.natAbs := by rw [same]; exact List.mem_cons_self
      exact ⟨d, digits, rfl, Or.inr (Nat.isDigit_of_mem_toDigits (by omega) (by omega) member)⟩

/-- **A written whole number is read back** where a number may end. -/
theorem readNumber_toString (value : Int) {rest : List Char} (ends : EndsNumber rest) :
    readNumber ((toString value).toList ++ rest) = some (Numeral.ofInt value, rest) := by
  rw [toList_toString, Numeral.ofInt]
  by_cases negative : value < 0
  · rw [if_pos negative, decide_eq_true negative]
    exact readUnsigned_toDigits true _ ends
  · rw [if_neg negative, decide_eq_false negative, List.nil_append]
    have unsigned := readUnsigned_toDigits false value.natAbs ends
    unfold readNumber
    split
    · rename_i tail same
      have first : '-' ∈ Nat.toDigits 10 value.natAbs := by
        cases digits : Nat.toDigits 10 value.natAbs with
        | nil => exact absurd digits Nat.toDigits_ne_nil
        | cons d digits' =>
          rw [digits] at same
          cases same
          exact List.mem_cons_self
      exact absurd (Nat.isDigit_of_mem_toDigits (by omega) (by omega) first) (by decide)
    · exact unsigned

end NodeStorage.Json
