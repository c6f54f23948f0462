/-
**Decimals are read as they were written.**

A numeral is proper if it has digits wherever it has a part and no zero too many in front; a proper
numeral is read as itself (`readNumber_chars`). The text of a double is that of a proper numeral
(`write_eq_chars`, `isProper_ofDouble`), so it is read as this numeral (`readNumber_decimal`).
-/

import NodeStorage.Proofs.Decimal.Shortest
import NodeStorage.Proofs.Json.Tokens

namespace NodeStorage.Json

namespace Numeral

/-! ### The text of a numeral -/

/-- The characters of a fraction. -/
def fractionChars : Option (List Char) → List Char
  | none => []
  | some digits => '.' :: digits

/-- The characters of an exponent, which always shows its sign. -/
def exponentChars : Option (Bool × List Char) → List Char
  | none => []
  | some (negative, digits) => 'e' :: (if negative then '-' else '+') :: digits

/-- The characters of a numeral. -/
def chars (numeral : Numeral) : List Char :=
  (if numeral.negative then ['-'] else []) ++
    (numeral.whole ++ (fractionChars numeral.fraction ++ exponentChars numeral.exponent))

/-- Some digits, at least one. -/
def AreDigits (digits : List Char) : Prop :=
  digits ≠ [] ∧ ∀ c ∈ digits, c.isDigit = true

/-- Every part of the numeral has digits, and a zero stands in front only by itself. -/
structure IsProper (numeral : Numeral) : Prop where
  whole : AreDigits numeral.whole
  leading : numeral.whole = ['0'] ∨ ∀ c ∈ numeral.whole.head?, c ≠ '0'
  fraction : ∀ digits ∈ numeral.fraction, AreDigits digits
  exponent : ∀ exponent ∈ numeral.exponent, AreDigits exponent.2

/-! ### Reading the parts -/

/-- Digits are found up to where they end. -/
theorem spanDigits_of_areDigits {digits rest : List Char} (areDigits : AreDigits digits)
    (ends : EndsDigits rest) :
    ∃ c more, digits = c :: more ∧ spanDigits (c :: (more ++ rest)) = (c :: more, rest) := by
  have span := spanDigits_append areDigits.2 ends
  cases digits with
  | nil => exact absurd rfl areDigits.1
  | cons c more => exact ⟨c, more, rfl, span⟩

theorem readExponent_chars {exponent : Option (Bool × List Char)}
    (areDigits : ∀ given ∈ exponent, AreDigits given.2) {rest : List Char}
    (ends : EndsNumber rest) :
    readExponent (exponentChars exponent ++ rest) = some (exponent, rest) := by
  cases exponent with
  | none => exact readExponent_ends ends
  | some given =>
    obtain ⟨negative, digits⟩ := given
    obtain ⟨c, more, rfl, span⟩ := spanDigits_of_areDigits (areDigits _ rfl) ends.endsDigits
    cases negative <;> simp [exponentChars, readExponent, span]

theorem readFraction_chars {fraction : Option (List Char)}
    (areDigits : ∀ digits ∈ fraction, AreDigits digits) {rest : List Char}
    (ends : EndsDigits rest) (noPoint : ∀ c ∈ rest.head?, c ≠ '.') :
    readFraction (fractionChars fraction ++ rest) = some (fraction, rest) := by
  cases fraction with
  | none =>
    show readFraction rest = some (none, rest)
    unfold readFraction
    split
    · exact absurd rfl (noPoint '.' rfl)
    · rfl
  | some digits =>
    obtain ⟨c, more, rfl, span⟩ := spanDigits_of_areDigits (areDigits _ rfl) ends
    simp [fractionChars, readFraction, span]

/-- What follows a fraction is no digit and no point. -/
theorem ends_exponentChars (exponent : Option (Bool × List Char)) {rest : List Char}
    (ends : EndsNumber rest) :
    ∀ c ∈ (exponentChars exponent ++ rest).head?, c.isDigit = false ∧ c ≠ '.' := by
  intro c first
  cases exponent with
  | none => exact ⟨(ends c first).1, (ends c first).2.1⟩
  | some given =>
    cases first
    decide

/-- What follows the whole part is no digit. -/
theorem ends_fractionChars (fraction : Option (List Char)) {rest : List Char}
    (ends : EndsDigits rest) : EndsDigits (fractionChars fraction ++ rest) := by
  intro c first
  cases fraction with
  | none => exact ends c first
  | some digits =>
    cases first
    decide

theorem readUnsigned_chars {numeral : Numeral} (proper : numeral.IsProper) {rest : List Char}
    (ends : EndsNumber rest) :
    readUnsigned numeral.negative (numeral.whole ++ (fractionChars numeral.fraction ++
      (exponentChars numeral.exponent ++ rest))) = some (numeral, rest) := by
  obtain ⟨negative, whole, fraction, exponent⟩ := numeral
  have later := ends_exponentChars exponent ends
  have ends' := readExponent_chars proper.exponent ends
  have point := readFraction_chars proper.fraction (fun c first => (later c first).1)
    fun c first => (later c first).2
  obtain ⟨c, more, isWhole, span⟩ := spanDigits_of_areDigits proper.whole
    (ends_fractionChars fraction fun c first => (later c first).1)
  dsimp only at ends' point isWhole ⊢
  subst isWhole
  unfold readUnsigned
  rw [List.cons_append]
  split
  · rename_i tail same
    cases same
    -- A zero in front is the whole part.
    obtain alone | leading := proper.leading
    · cases alone
      simp [point, ends']
    · exact absurd rfl (leading '0' rfl)
  · rw [span]
    simp [point, ends']

/-- **A proper numeral is read as itself** where a number may end. -/
theorem readNumber_chars {numeral : Numeral} (proper : numeral.IsProper) {rest : List Char}
    (ends : EndsNumber rest) : readNumber (numeral.chars ++ rest) = some (numeral, rest) := by
  have unsigned := readUnsigned_chars proper ends
  obtain ⟨negative, whole, fraction, exponent⟩ := numeral
  unfold chars
  dsimp only at unsigned ⊢
  simp only [List.append_assoc]
  cases negative with
  | true => exact unsigned
  | false =>
    have isDigits := proper.whole
    dsimp only at isDigits
    cases whole with
    | nil => exact absurd rfl isDigits.1
    | cons c more =>
      have isDigit := isDigits.2 c List.mem_cons_self
      show readNumber (c :: (more ++ _)) = _
      unfold readNumber
      split
      · rename_i same
        cases same
        cases isDigit
      · exact unsigned

/-! ### The numeral of a decimal -/

/-- Digits behind the point, when there are any. -/
def behindPoint : List Char → Option (List Char)
  | [] => none
  | digits => some digits

/-- The numeral as which a decimal number is written: with a point where its first digit is near
enough to it, otherwise with an exponent. -/
def ofScientific (negative : Bool) (number : Decimal.Scientific) : Numeral :=
  let digits := Nat.toDigits 10 number.digits
  let point := number.exponent + digits.length
  let leading := point - 1
  if -5 ≤ leading ∧ leading ≤ 15 then
    if 0 ≤ number.exponent then
      ⟨negative, digits ++ List.replicate number.exponent.toNat '0', some ['0'], none⟩
    else if 0 < point then
      ⟨negative, digits.take point.toNat, some (digits.drop point.toNat), none⟩
    else ⟨negative, ['0'], some (List.replicate (-point).toNat '0' ++ digits), none⟩
  else
    ⟨negative, digits.take 1, behindPoint (digits.drop 1),
      some (decide (leading < 0), Nat.toDigits 10 leading.natAbs)⟩

/-- The numeral as which a double is written. -/
def ofDouble (value : Decimal.Double) : Numeral :=
  if value.mantissa = 0 then ⟨value.negative, ['0'], some ['0'], none⟩
  else ofScientific value.negative (value.shortest.normalize 20)

theorem toList_toString (value : Nat) : (toString value).toList = Nat.toDigits 10 value := by
  rw [Nat.toString_eq_repr, Nat.toList_repr]

/-- **A double is written as its numeral.** -/
theorem write_eq_chars (value : Decimal.Double) :
    decimalStyle.write value = (ofDouble value).chars := by
  unfold Decimal.DecimalStyle.write ofDouble
  dsimp only
  by_cases zero : value.mantissa = 0
  · rw [if_pos zero, if_pos zero]
    rfl
  · rw [if_neg zero, if_neg zero]
    generalize value.shortest.normalize 20 = number
    unfold ofScientific chars decimalStyle
    simp only [toList_toString]
    generalize Nat.toDigits 10 number.digits = digits
    split
    · split
      · simp [fractionChars, exponentChars]
      · split
        · simp [fractionChars, exponentChars]
        · simp [fractionChars, exponentChars]
    · have exponent (leading : Int) :
          (if leading < 0 then '-' :: Nat.toDigits 10 leading.natAbs
            else '+' :: Nat.toDigits 10 leading.natAbs) =
            (if leading < 0 then '-' else '+') :: Nat.toDigits 10 leading.natAbs := by
        split <;> rfl
      generalize number.exponent + (digits.length : Int) - 1 = leading
      cases digits.drop 1 <;> simp [behindPoint, fractionChars, exponentChars, exponent]

/-! ### The numeral is proper -/

theorem behindPoint_eq_some {digits fraction : List Char}
    (given : fraction ∈ behindPoint digits) : digits ≠ [] ∧ digits = fraction := by
  cases digits with
  | nil => cases given
  | cons c digits =>
    cases given
    exact ⟨List.cons_ne_nil _ _, rfl⟩

theorem areDigits_toDigits (value : Nat) : AreDigits (Nat.toDigits 10 value) :=
  ⟨Nat.toDigits_ne_nil, fun _ member => Nat.isDigit_of_mem_toDigits (by omega) (by omega) member⟩

theorem areDigits_zero : AreDigits ['0'] :=
  ⟨List.cons_ne_nil _ _, List.forall_mem_singleton.mpr rfl⟩

theorem AreDigits.append {digits more : List Char} (areDigits : AreDigits digits)
    (others : ∀ c ∈ more, c.isDigit = true) : AreDigits (digits ++ more) :=
  ⟨List.append_ne_nil_of_left_ne_nil areDigits.1 _,
    List.forall_mem_append.mpr ⟨areDigits.2, others⟩⟩

theorem AreDigits.prepend {digits more : List Char} (areDigits : AreDigits digits)
    (others : ∀ c ∈ more, c.isDigit = true) : AreDigits (more ++ digits) :=
  ⟨List.append_ne_nil_of_right_ne_nil _ areDigits.1,
    List.forall_mem_append.mpr ⟨others, areDigits.2⟩⟩

theorem AreDigits.take {digits : List Char} (areDigits : AreDigits digits) {count : Nat}
    (given : 0 < count) : AreDigits (digits.take count) := by
  refine ⟨?_, fun c member => areDigits.2 c (List.mem_of_mem_take member)⟩
  rw [Ne, List.take_eq_nil_iff, not_or]
  exact ⟨Nat.ne_of_gt given, areDigits.1⟩

theorem AreDigits.drop {digits : List Char} (areDigits : AreDigits digits) {count : Nat}
    (left : count < digits.length) : AreDigits (digits.drop count) := by
  refine ⟨?_, fun c member => areDigits.2 c (List.mem_of_mem_drop member)⟩
  rw [Ne, List.drop_eq_nil_iff]
  omega

theorem isDigit_of_mem_replicate (count : Nat) :
    ∀ c ∈ List.replicate count '0', c.isDigit = true := by
  intro c member
  rw [(List.mem_replicate.mp member).2]
  decide

theorem isProper_zero (negative : Bool) : IsProper ⟨negative, ['0'], some ['0'], none⟩ where
  whole := areDigits_zero
  leading := Or.inl rfl
  fraction := by
    rintro _ ⟨⟩
    exact areDigits_zero
  exponent := nofun

theorem isProper_ofScientific (negative : Bool) {number : Decimal.Scientific}
    (writable : number.IsWritable) : (ofScientific negative number).IsProper := by
  rcases writable with rfl | given
  · exact isProper_zero negative
  · have digits := areDigits_toDigits number.digits
    have leading := head?_toDigits given
    unfold ofScientific
    generalize Nat.toDigits 10 number.digits = written at digits leading ⊢
    -- The digits in front of the point begin as all of them do.
    have leadingPart {count : Nat} (given : 0 < count) :
        ∀ c ∈ (written.take count).head?, c ≠ '0' := by
      rw [List.head?_take, if_neg (Nat.ne_of_gt given)]
      exact leading
    dsimp only
    split
    · split
      · refine ⟨digits.append (isDigit_of_mem_replicate _), Or.inr ?_, ?_, nofun⟩
        · simpa [List.head?_append, List.head?_eq_some_head digits.1] using leading
        · rintro _ ⟨⟩
          exact areDigits_zero
      · split
        · have before : 0 < (number.exponent + written.length).toNat := by omega
          refine ⟨digits.take before, Or.inr (leadingPart before), ?_, nofun⟩
          rintro _ ⟨⟩
          exact digits.drop (by omega)
        · refine ⟨areDigits_zero, Or.inl rfl, ?_, nofun⟩
          rintro _ ⟨⟩
          exact digits.prepend (isDigit_of_mem_replicate _)
    · refine ⟨digits.take Nat.one_pos, Or.inr (leadingPart Nat.one_pos), ?_, ?_⟩
      · intro fraction given
        obtain ⟨left, rfl⟩ := behindPoint_eq_some given
        refine digits.drop (Nat.lt_of_not_le fun short => left ?_)
        exact List.drop_eq_nil_iff.mpr short
      · rintro _ ⟨⟩
        exact areDigits_toDigits _

theorem isProper_ofDouble (value : Decimal.Double) : (ofDouble value).IsProper := by
  unfold ofDouble
  split
  · exact isProper_zero value.negative
  · rename_i given
    exact isProper_ofScientific _ ((Decimal.Double.isWritable_shortest given).normalize 20)

/-- A proper numeral begins with a digit or a minus sign. -/
theorem chars_eq_cons {numeral : Numeral} (proper : numeral.IsProper) :
    ∃ c rest, numeral.chars = c :: rest ∧ (c = '-' ∨ c.isDigit = true) := by
  obtain ⟨negative, whole, fraction, exponent⟩ := numeral
  have digits := proper.whole
  dsimp only at digits
  cases whole with
  | nil => exact absurd rfl digits.1
  | cons c more =>
    cases negative with
    | true => exact ⟨'-', _, rfl, Or.inl rfl⟩
    | false => exact ⟨c, _, rfl, Or.inr (digits.2 c List.mem_cons_self)⟩

/-- A written double begins with a digit or a minus sign. -/
theorem write_eq_cons (value : Decimal.Double) :
    ∃ c rest, decimalStyle.write value = c :: rest ∧ (c = '-' ∨ c.isDigit = true) := by
  rw [write_eq_chars]
  exact chars_eq_cons (isProper_ofDouble value)

/-- **A written double is read as its numeral** where a number may end. -/
theorem readNumber_decimal (value : Decimal.Double) {rest : List Char} (ends : EndsNumber rest) :
    readNumber (decimalStyle.write value ++ rest) = some (ofDouble value, rest) := by
  rw [write_eq_chars]
  exact readNumber_chars (isProper_ofDouble value) ends

end Numeral

end NodeStorage.Json
