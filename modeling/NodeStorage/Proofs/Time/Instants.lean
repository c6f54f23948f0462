/-
**Instants are read back.**

An instant is valid if it is on a day that has a date, and inside a leap second only at the end of a
minute. A valid instant is read back from its text, whatever its year and however many digits its
fraction takes, and only valid instants are read.

* `takeNumber_append`, `takeYear_writeYear`, `takeFraction_fraction` — each part is taken as it was
  written, and what follows is left.
* `parse?_shown` — a day and a time of day are read back.
* `parse?_write` — **an instant is read back.**
* `isValid_of_parse?` — **every instant that is read is valid.**
-/

import NodeStorage.Proofs.Text.Digits
import NodeStorage.Proofs.Text.Trim
import NodeStorage.Proofs.Time.Calendar

namespace NodeStorage.Instant

open Text

/-- The instant is on a day that exists, and inside a leap second only at the end of a minute. -/
structure IsValid (instant : Instant) : Prop where
  inRange : yearInRange (Date.ofDays (instant.seconds / 86400)).year = true
  nanoseconds : instant.nanoseconds < 2000000000
  leap : 1000000000 ≤ instant.nanoseconds → instant.seconds % 60 = 59

/-! ### Taking what was written -/

section Taking

variable {digits rest : List Char}

/-- Digits are taken up to the last one, or up to as many as may be taken. -/
theorem takeNumber_append {least most : Nat} (all : ∀ c ∈ digits, c.isDigit = true)
    (enough : least ≤ digits.length) (few : digits.length ≤ most)
    (ends : digits.length = most ∨ ∀ c ∈ rest.head?, c.isDigit = false) :
    takeNumber least most (digits ++ rest) = some (Nat.ofDigitChars 10 digits 0, rest) := by
  have taken : ((digits ++ rest).takeWhile Char.isDigit).take most = digits := by
    rw [List.takeWhile_append_of_pos all]
    rcases ends with exact | stops
    · exact List.take_left' exact
    · have none : rest.takeWhile Char.isDigit = [] := by
        cases rest with
        | nil => rfl
        | cons c rest => exact List.takeWhile_cons_of_neg (by simp [stops c rfl])
      rw [none, List.append_nil]
      exact List.take_of_length_le few
  rw [takeNumber]
  simp only [taken]
  rw [if_neg (by omega), digitsFrom_eq all, List.drop_left]
  rfl

theorem trimStart_cons {c : Char} (solid : isWhiteSpace c = false) (rest : List Char) :
    trimStart (c :: rest) = c :: rest :=
  trimLeft_eq_self fun first same => by
    cases same
    exact solid

/-- Digits are no white space. -/
theorem trimStart_append (all : ∀ c ∈ digits, c.isDigit = true) (given : digits ≠ [])
    (rest : List Char) : trimStart (digits ++ rest) = digits ++ rest := by
  obtain ⟨c, more, rfl⟩ := List.exists_cons_of_ne_nil given
  exact trimStart_cons (isWhiteSpace_of_isDigit (all c List.mem_cons_self)) _

theorem takePair_padded {value : Nat} (fits : value < 100) (rest : List Char) :
    takePair (decimalPadded 2 value ++ rest) = some (value, rest) := by
  have length : (decimalPadded 2 value).length = 2 := length_decimalPadded (by decide) fits
  rw [takePair, trimStart_append isDigit_of_mem_decimalPadded (decimalPadded_ne_nil _ _),
    takeNumber_append isDigit_of_mem_decimalPadded (by omega) (by omega) (Or.inl length),
    ofDigitChars_decimalPadded]

theorem takeMark_cons {mark : Char} (solid : isWhiteSpace mark = false) (rest : List Char) :
    takeMark mark (mark :: rest) = some rest := by
  rw [takeMark, trimStart_cons solid]
  exact if_pos rfl

/-- Without a sign, a year has four digits. -/
theorem takeYear_append (all : ∀ c ∈ digits, c.isDigit = true) (four : digits.length = 4)
    (rest : List Char) :
    takeYear (digits ++ rest) = some ((Nat.ofDigitChars 10 digits 0 : Int), rest) := by
  have taken : takeNumber 1 4 (digits ++ rest) = some (Nat.ofDigitChars 10 digits 0, rest) :=
    takeNumber_append all (by omega) (by omega) (Or.inl four)
  obtain ⟨c, more, rfl⟩ := List.exists_cons_of_length_pos (l := digits) (by omega)
  have isDigit := all c List.mem_cons_self
  rw [takeYear, taken]
  · rfl
  · rintro _ ⟨⟩
    cases isDigit
  · rintro _ ⟨⟩
    cases isDigit

/-- A year is read up to the dash that follows it. -/
theorem takeYear_writeYear (year : Int) (rest : List Char) :
    takeYear (writeYear year ++ '-' :: rest) = some (year, '-' :: rest) := by
  rw [writeYear]
  split
  · rename_i plain
    have length : (decimalPadded 4 year.toNat).length = 4 :=
      length_decimalPadded (by decide) (by omega)
    rw [takeYear_append isDigit_of_mem_decimalPadded length, ofDigitChars_decimalPadded]
    simp only [Option.some.injEq, Prod.mk.injEq, and_true]
    omega
  · have given := List.length_pos_iff.mpr (decimalPadded_ne_nil 4 year.natAbs)
    have taken : takeNumber 1 (decimalPadded 4 year.natAbs ++ '-' :: rest).length
        (decimalPadded 4 year.natAbs ++ '-' :: rest) = some (year.natAbs, '-' :: rest) := by
      rw [takeNumber_append isDigit_of_mem_decimalPadded given (by simp) (Or.inr (by simp)),
        ofDigitChars_decimalPadded]
    by_cases negative : year < 0
    · rw [if_pos negative, List.cons_append, takeYear, taken]
      simp only [Option.map_some, Option.some.injEq, Prod.mk.injEq, and_true]
      omega
    · rw [if_neg negative, List.cons_append, takeYear, taken]
      simp only [Option.map_some, Option.some.injEq, Prod.mk.injEq, and_true]
      omega

theorem trimStart_writeYear (year : Int) (rest : List Char) :
    trimStart (writeYear year ++ rest) = writeYear year ++ rest := by
  rw [writeYear]
  split
  · exact trimStart_append isDigit_of_mem_decimalPadded (decimalPadded_ne_nil _ _) rest
  · split
    · exact trimStart_cons (by decide) _
    · exact trimStart_cons (by decide) _

end Taking

/-! ### Fractions -/

/-- The written fraction of a second. -/
def fraction (places nanoseconds : Nat) : List Char :=
  if places = 0 then [] else '.' :: (decimalPadded 9 nanoseconds).take places

/-- The digits that are left out are zeros. -/
theorem ofDigitChars_take {nanoseconds places : Nat} (below : nanoseconds < 1000000000)
    (whole : nanoseconds % 10 ^ (9 - places) = 0) :
    Nat.ofDigitChars 10
      ((decimalPadded 9 nanoseconds).take places ++ List.replicate (9 - places) '0') 0 =
        nanoseconds := by
  have all : ∀ c ∈ decimalPadded 9 nanoseconds, c.isDigit = true := isDigit_of_mem_decimalPadded
  have length : (decimalPadded 9 nanoseconds).length = 9 :=
    length_decimalPadded (by decide) below
  have value := ofDigitChars_decimalPadded 9 nanoseconds
  generalize decimalPadded 9 nanoseconds = digits at all length value
  have left : (digits.drop places).length = 9 - places := by
    rw [List.length_drop, length]
  have small : Nat.ofDigitChars 10 (digits.drop places) 0 < 10 ^ (digits.drop places).length :=
    ofDigitChars_lt fun c member => all c (List.mem_of_mem_drop member)
  rw [← List.take_append_drop places digits, Nat.ofDigitChars_append,
    Nat.ofDigitChars_eq_ofDigitChars_zero, left] at value
  rw [left] at small
  rw [Nat.ofDigitChars_append, Nat.ofDigitChars_replicate_zero]
  rw [← value, Nat.mul_add_mod, Nat.mod_eq_of_lt small] at whole
  rw [whole, Nat.add_zero] at value
  exact value

theorem takeFraction_fraction {nanoseconds places : Nat} (below : nanoseconds < 1000000000)
    (few : places ≤ 9) (whole : nanoseconds % 10 ^ (9 - places) = 0) {rest : List Char}
    (ends : ∀ c ∈ rest.head?, c.isDigit = false ∧ c ≠ '.') :
    takeFraction (fraction places nanoseconds ++ rest) = some (nanoseconds, rest) := by
  have stops : rest.takeWhile Char.isDigit = [] := by
    cases rest with
    | nil => rfl
    | cons c rest => exact List.takeWhile_cons_of_neg (by simp [(ends c rfl).1])
  have value := ofDigitChars_take below whole
  rw [fraction]
  split
  · rename_i none
    subst none
    have zero : nanoseconds = 0 := by omega
    rw [zero, List.nil_append]
    cases rest with
    | nil => rfl
    | cons c rest =>
      rw [takeFraction]
      rintro _ ⟨⟩
      exact (ends '.' rfl).2 rfl
  · rename_i some
    have length : ((decimalPadded 9 nanoseconds).take places).length = places := by
      rw [List.length_take, length_decimalPadded (by decide) below]
      omega
    have all : ∀ c ∈ (decimalPadded 9 nanoseconds).take places, c.isDigit = true :=
      fun c member => isDigit_of_mem_decimalPadded c (List.mem_of_mem_take member)
    generalize (decimalPadded 9 nanoseconds).take places = digits at value length all
    have taken : (digits ++ rest).takeWhile Char.isDigit = digits := by
      rw [List.takeWhile_append_of_pos all, stops, List.append_nil]
    have kept : digits.take 9 = digits := List.take_of_length_le (by omega)
    have given : digits.isEmpty = false := by
      cases digits with
      | nil => exact absurd length.symm some
      | cons c digits => rfl
    rw [List.cons_append, takeFraction]
    simp only [taken, kept, given, Bool.false_eq_true, if_false, length]
    rw [digitsFrom_eq, value, Option.map_some, ← length, List.drop_left]
    intro c member
    rcases List.mem_append.mp member with digit | zero
    · exact all c digit
    · rw [List.eq_of_mem_replicate zero]
      rfl

/-- The fewest places hold the fraction. -/
theorem places_spec (instant : Instant) :
    instant.places ≤ 9 ∧
      instant.nanoseconds % 1000000000 % 10 ^ (9 - instant.places) = 0 := by
  rw [places]
  generalize instant.nanoseconds % 1000000000 = nanoseconds
  split
  · rename_i zero
    exact ⟨by decide, by rw [zero, Nat.zero_mod]⟩
  · split
    · rename_i thousands
      exact ⟨by decide, thousands⟩
    · split
      · rename_i thousands
        exact ⟨by decide, thousands⟩
      · exact ⟨by decide, Nat.mod_one _⟩

/-! ### Texts of instants -/

/-- The text of a date and a time of day. -/
def shown (date : Date) (hour minute second places nanoseconds : Nat) : List Char :=
  writeYear date.year ++ '-' :: (decimalPadded 2 date.month ++ '-' :: (decimalPadded 2 date.day ++
    'T' :: (decimalPadded 2 hour ++ ':' :: (decimalPadded 2 minute ++ ':' ::
      (decimalPadded 2 second ++ (fraction places nanoseconds ++ ['Z']))))))

theorem some_bind {α β : Type} {first : Option α} {next : α → Option β} {given : α}
    {result : Option β} (found : first = some given) (rest : next given = result) :
    first >>= next = result := by
  rw [found]
  exact rest

/-- **A day and a time of day are read back.** -/
theorem parse?_shown {days : Int} {hour minute second places nanoseconds : Nat}
    (inRange : yearInRange (Date.ofDays days).year = true) (hours : hour < 24)
    (minutes : minute < 60) (seconds : second ≤ 60) (below : nanoseconds < 1000000000)
    (few : places ≤ 9) (whole : nanoseconds % 10 ^ (9 - places) = 0) :
    parse? (String.ofList (shown (Date.ofDays days) hour minute second places nanoseconds)) =
      some ⟨days * 86400 + (hour * 3600 + minute * 60 + (if second = 60 then 59 else second : Nat)),
        nanoseconds + (if second = 60 then 1000000000 else 0)⟩ := by
  have valid := isValid_ofDays inRange
  have number := toDays_ofDays days
  obtain ⟨months, daysOfMonth⟩ := Date.lt_of_isValid valid
  generalize Date.ofDays days = date at valid number months daysOfMonth ⊢
  have ends : ∀ c ∈ ['Z'].head?, c.isDigit = false ∧ c ≠ '.' := by
    rintro _ ⟨⟩
    decide
  have offset : takeOffset (trimStart ['Z']) = some (0, []) := by decide
  have isDay : (days * 86400 +
      (hour * 3600 + minute * 60 + (if second = 60 then 59 else second : Nat)) : Int).fdiv 86400 =
        days := by
    rw [Int.fdiv_eq_ediv_of_nonneg _ (by decide)]
    split <;> omega
  have dash : isWhiteSpace '-' = false := by decide
  have colon : isWhiteSpace ':' = false := by decide
  rw [parse?, String.toList_ofList, shown, trimStart_writeYear]
  refine some_bind (takeYear_writeYear _ _) <| some_bind (takeMark_cons dash _) <|
    some_bind (takePair_padded months _) <| some_bind (takeMark_cons dash _) <|
    some_bind (takePair_padded daysOfMonth _) <| some_bind rfl <|
    some_bind (takePair_padded (Nat.lt_trans hours (by decide)) _) <|
    some_bind (takeMark_cons colon _) <|
    some_bind (takePair_padded (Nat.lt_trans minutes (by decide)) _) <|
    some_bind (takeMark_cons colon _) <|
    some_bind (takePair_padded (Nat.lt_of_le_of_lt seconds (by decide)) _) <|
    some_bind (takeFraction_fraction below few whole ends) <| some_bind offset ?_
  simp only [number, Int.sub_zero, isDay]
  rw [if_pos ⟨valid, hours, minutes, seconds, by decide, rfl⟩]
  exact if_pos inRange

/-- The seconds of the day that have passed. -/
def ofDay (instant : Instant) : Nat :=
  (instant.seconds % 86400).toNat

/-- The second of the minute as it is written, 60 for a leap second. -/
def writtenSecond (instant : Instant) : Nat :=
  instant.ofDay % 60 + (if 1000000000 ≤ instant.nanoseconds then 1 else 0)

theorem writeWith_eq (instant : Instant) (places : Nat) (below : instant.nanoseconds < 2000000000) :
    instant.writeWith places =
      String.ofList (shown (Date.ofDays (instant.seconds / 86400)) (instant.ofDay / 3600)
        (instant.ofDay / 60 % 60) instant.writtenSecond places
        (instant.nanoseconds % 1000000000)) := by
  have rest : (if 1000000000 ≤ instant.nanoseconds then instant.nanoseconds - 1000000000
      else instant.nanoseconds) = instant.nanoseconds % 1000000000 := by
    split <;> omega
  rw [writeWith, Int.fdiv_eq_ediv_of_nonneg _ (by decide), Int.fmod_eq_emod_of_nonneg _ (by decide)]
  simp only [rest, shown, fraction, writtenSecond, ofDay, List.append_assoc, List.cons_append]

/-- **An instant is read back** from its text. -/
theorem parse?_write {instant : Instant} (valid : instant.IsValid) :
    parse? instant.write = some instant := by
  obtain ⟨few, whole⟩ := instant.places_spec
  have part : instant.ofDay < 86400 := by
    rw [ofDay]
    omega
  have second : instant.writtenSecond ≤ 60 := by
    rw [writtenSecond]
    split <;> omega
  rw [write, writeWith_eq _ _ valid.nanoseconds,
    parse?_shown valid.inRange (by omega) (by omega) second (Nat.mod_lt _ (by decide)) few whole]
  have ofSeconds : (instant.ofDay : Int) = instant.seconds % 86400 := by
    rw [ofDay]
    omega
  have below := valid.nanoseconds
  have leap := valid.leap
  have same {seconds : Int} {nanoseconds : Nat} (first : seconds = instant.seconds)
      (second : nanoseconds = instant.nanoseconds) :
      some (mk seconds nanoseconds) = some instant := by
    rw [first, second]
  by_cases inLeap : 1000000000 ≤ instant.nanoseconds
  · have isSixty : instant.writtenSecond = 60 := by
      rw [writtenSecond, if_pos inLeap]
      omega
    rw [if_pos isSixty, if_pos isSixty]
    exact same (by omega) (by omega)
  · have isSecond : instant.writtenSecond = instant.ofDay % 60 := by
      rw [writtenSecond, if_neg inLeap, Nat.add_zero]
    have other : ¬ instant.writtenSecond = 60 := by omega
    rw [if_neg other, if_neg other, isSecond]
    exact same (by omega) (by omega)

/-! ### What is read -/

theorem nanoseconds_of_takeFraction {chars rest : List Char} {nanoseconds : Nat}
    (taken : takeFraction chars = some (nanoseconds, rest)) : nanoseconds < 1000000000 := by
  rw [takeFraction.eq_def] at taken
  split at taken
  · rename_i after
    dsimp only at taken
    split at taken
    · cases taken
    · obtain ⟨value, digits, same⟩ := Option.map_eq_some_iff.mp taken
      cases same
      have all : ∀ c ∈ (after.takeWhile Char.isDigit).take 9 ++
          List.replicate (9 - ((after.takeWhile Char.isDigit).take 9).length) '0',
          c.isDigit = true := by
        intro c member
        rcases List.mem_append.mp member with digit | zero
        · exact List.all_eq_true.mp List.all_takeWhile c (List.mem_of_mem_take digit)
        · rw [List.eq_of_mem_replicate zero]
          rfl
      have nine : ((after.takeWhile Char.isDigit).take 9 ++
          List.replicate (9 - ((after.takeWhile Char.isDigit).take 9).length) '0').length = 9 := by
        rw [List.length_append, List.length_replicate, List.length_take]
        omega
      rw [digitsFrom_eq all] at digits
      cases digits
      have small := ofDigitChars_lt all
      rwa [nine] at small
  · cases taken
    decide

theorem seconds_of_magnitude {chars rest : List Char} {seconds : Int}
    (taken : takeOffset.magnitude chars = some (seconds, rest)) : seconds % 60 = 0 := by
  simp only [takeOffset.magnitude, Option.bind_eq_bind, Option.bind_eq_some_iff, Prod.exists,
    Option.ite_none_right_eq_some] at taken
  obtain ⟨hours, _, -, minutes, _, -, -, same⟩ := taken
  cases same
  omega

theorem seconds_of_signedOffset {chars rest : List Char} {seconds : Int}
    (taken : takeOffset.signedOffset chars = some (seconds, rest)) : seconds % 60 = 0 := by
  have negated {chars : List Char}
      (taken : (takeOffset.magnitude chars).map (fun found => (-found.1, found.2)) =
        some (seconds, rest)) : seconds % 60 = 0 := by
    obtain ⟨⟨value, after⟩, magnitude, same⟩ := Option.map_eq_some_iff.mp taken
    cases same
    have whole := seconds_of_magnitude magnitude
    omega
  rw [takeOffset.signedOffset.eq_def] at taken
  split at taken
  · cases taken
    rfl
  · cases taken
    rfl
  · exact seconds_of_magnitude taken
  · exact negated taken
  · rw [Option.ite_none_right_eq_some] at taken
    exact negated taken.2
  · cases taken

theorem seconds_of_takeOffset {chars rest : List Char} {seconds : Int}
    (taken : takeOffset chars = some (seconds, rest)) : seconds % 60 = 0 := by
  rw [takeOffset.eq_def] at taken
  split at taken
  · split at taken
    · cases taken
      rfl
    · exact seconds_of_signedOffset taken
  · exact seconds_of_signedOffset taken

/-- What is read after the date. -/
def timeOfDay (date : Date) (chars : List Char) : Option Instant := do
  let (hour, rest) ← takePair chars
  let rest ← takeMark ':' rest
  let (minute, rest) ← takePair rest
  let rest ← takeMark ':' rest
  let (second, rest) ← takePair rest
  let (nanoseconds, rest) ← takeFraction rest
  let (offset, rest) ← takeOffset (Text.trimStart rest)
  if date.isValid ∧ hour < 24 ∧ minute < 60 ∧ second ≤ 60 ∧ offset.natAbs < 86400 ∧
      Text.trimStart rest = [] then
    let leap := second = 60
    let clock : Int := hour * 3600 + minute * 60 + (if leap then 59 else second)
    let total := date.toDays * 86400 + clock - offset
    if yearInRange (Date.ofDays (total.fdiv 86400)).year then
      pure ⟨total, nanoseconds + (if leap then 1000000000 else 0)⟩
    else none
  else none

theorem isValid_of_timeOfDay {date : Date} {chars : List Char} {instant : Instant}
    (read : timeOfDay date chars = some instant) : instant.IsValid := by
  simp only [timeOfDay, Option.bind_eq_bind, Option.bind_eq_some_iff, Prod.exists] at read
  obtain ⟨hour, _, -, _, -, minute, _, -, _, -, second, _, -, nanoseconds, _, fraction, offset,
    rest, shifted, ends⟩ := read
  rw [Option.ite_none_right_eq_some] at ends
  obtain ⟨-, made⟩ := ends
  rw [Option.ite_none_right_eq_some] at made
  obtain ⟨inRange, same⟩ := made
  cases same
  have below := nanoseconds_of_takeFraction fraction
  have whole := seconds_of_takeOffset shifted
  rw [Int.fdiv_eq_ediv_of_nonneg _ (by decide)] at inRange
  refine ⟨inRange, ?_, ?_⟩
  · show nanoseconds + _ < 2000000000
    split <;> omega
  · show 1000000000 ≤ nanoseconds + _ → (_ - _ : Int) % 60 = 59
    split
    · omega
    · omega

/-- **Every instant that is read is on a day that exists**, and inside a leap second only at the end
of a minute. -/
theorem isValid_of_parse? {text : String} {instant : Instant}
    (read : parse? text = some instant) : instant.IsValid := by
  rw [parse?] at read
  obtain ⟨⟨year, _⟩, -, read⟩ := Option.bind_eq_some_iff.mp read
  obtain ⟨_, -, read⟩ := Option.bind_eq_some_iff.mp read
  obtain ⟨⟨month, _⟩, -, read⟩ := Option.bind_eq_some_iff.mp read
  obtain ⟨_, -, read⟩ := Option.bind_eq_some_iff.mp read
  obtain ⟨⟨day, rest⟩, -, read⟩ := Option.bind_eq_some_iff.mp read
  dsimp only at read
  split at read
  iterate 3 exact isValid_of_timeOfDay read
  cases read

end NodeStorage.Instant
