/-
**The calendar counts every day once.**

The day with a number has this number (`toDays_ofDays`), and it is a day that exists if its year has
dates (`isValid_ofDays`). Both are shown on the days of four hundred years, which are counted in
hundreds of years, in fours, in years and in days: `EraDay`. Only the last day of a leap year sticks
out at its end, and of the last years of a hundred only the fourth is a leap year.
-/

import NodeStorage.Time.Instant
namespace NodeStorage.Instant

/-! ### The days of four hundred years -/

/-- Quotients are cut off at three, so that what is left may be as large as the divisor. -/
theorem exists_split {size total : Nat} (positive : 0 < size) (below : total ≤ 4 * size) :
    ∃ parts rest, total = size * parts + rest ∧ parts ≤ 3 ∧ rest ≤ size ∧
      (rest = size → parts = 3) := by
  by_cases cut : total = 4 * size
  · exact ⟨3, size, by omega, by omega, by omega, by omega⟩
  · have less : total % size < size := Nat.mod_lt total positive
    have few : total / size < 4 := Nat.div_lt_of_lt_mul (by omega)
    exact ⟨total / size, total % size, (Nat.div_add_mod total size).symm, by omega, by omega,
      by omega⟩

/-- A day of four hundred years that begin in March: so many hundreds of years, fours of years,
years and days have passed before it. -/
structure EraDay where
  centuries : Nat
  fours : Nat
  years : Nat
  days : Nat
  centuries_le : centuries ≤ 3
  fours_le : fours ≤ 24
  years_le : years ≤ 3
  days_le : days ≤ 365
  /-- The leap day ends the last of four years. -/
  leap_year : days = 365 → years = 3
  /-- The last year of a hundred has a leap day only if it is the last of all. -/
  leap_century : days = 365 → fours = 24 → centuries = 3

namespace EraDay

/-- The number of the day in its four hundred years. -/
def number (day : EraDay) : Nat :=
  36524 * day.centuries + 1461 * day.fours + 365 * day.years + day.days

/-- The year of the day in its four hundred years. -/
def year (day : EraDay) : Nat :=
  100 * day.centuries + 4 * day.fours + day.years

theorem exists_number {number : Nat} (below : number < 146097) :
    ∃ day : EraDay, day.number = number := by
  obtain ⟨centuries, inCentury, whole, few, small, last⟩ :=
    exists_split (show 0 < 36524 by decide) (Nat.le_of_lt_succ below)
  have less : inCentury % 1461 < 1461 := Nat.mod_lt _ (by decide)
  have split : 1461 * (inCentury / 1461) + inCentury % 1461 = inCentury := Nat.div_add_mod _ _
  obtain ⟨years, days, part, yearsFew, daysFew, leap⟩ :=
    exists_split (show 0 < 365 by decide) (Nat.le_of_lt_succ less)
  generalize inCentury / 1461 = fours at split
  generalize inCentury % 1461 = inFours at *
  refine ⟨⟨centuries, fours, years, days, few, by omega, yearsFew, daysFew, leap, ?_⟩, ?_⟩
  · intro isLeap isLast
    have := leap isLeap
    omega
  · simp only [EraDay.number]
    omega

theorem number_lt (day : EraDay) : day.number < 146097 := by
  have centuries := day.centuries_le
  have fours := day.fours_le
  have years := day.years_le
  have days := day.days_le
  have leap := day.leap_year
  have century := day.leap_century
  rw [number]
  omega

theorem year_lt (day : EraDay) : day.year < 400 := by
  have centuries := day.centuries_le
  have fours := day.fours_le
  have years := day.years_le
  rw [year]
  omega

/-- **The year of a day is found by leaving out the leap days.** -/
theorem year_eq (day : EraDay) :
    (day.number - day.number / 1460 + day.number / 36524 - day.number / 146096) / 365 =
      day.year := by
  obtain ⟨centuries, fours, years, days, few, fours_le, years_le, days_le, leap, century⟩ := day
  let number := 36524 * centuries + 1461 * fours + 365 * years + days
  let inFours := 24 * centuries + fours + 365 * years + days
  show (number - number / 1460 + number / 36524 - number / 146096) / 365 =
    100 * centuries + 4 * fours + years
  have hundreds : number / 36524 = centuries ∨ (number / 36524 = centuries + 1 ∧ centuries = 3 ∧
      fours = 24 ∧ years = 3 ∧ days = 365) := by omega
  have all : number / 146096 = 0 ∨ (number / 146096 = 1 ∧ centuries = 3 ∧
      fours = 24 ∧ years = 3 ∧ days = 365) := by omega
  have leapDays : number / 1460 = 25 * centuries + fours + inFours / 1460 := by omega
  have atMost : inFours / 1460 = 0 ∨ inFours / 1460 = 1 := by omega
  omega

theorem leapYears_eq (day : EraDay) :
    day.year / 4 = 25 * day.centuries + day.fours ∧ day.year / 100 = day.centuries := by
  have fours := day.fours_le
  have years := day.years_le
  rw [year]
  omega

/-- The days before the year of a day. -/
theorem days_eq (day : EraDay) :
    day.number - (365 * day.year + day.year / 4 - day.year / 100) = day.days := by
  obtain ⟨quarters, hundreds⟩ := day.leapYears_eq
  rw [quarters, hundreds, number, year]
  omega

end EraDay

/-- Every day is one of four hundred years. -/
theorem exists_eraDay (days : Int) :
    ∃ (era : Int) (day : EraDay), days = era * 146097 + day.number - 719468 := by
  have below : ((days + 719468) % 146097).toNat < 146097 := by omega
  obtain ⟨day, number⟩ := EraDay.exists_number below
  exact ⟨(days + 719468) / 146097, day, by omega⟩

/-! ### The days of a year -/

/-- The month of a day of a year that begins in March, counted from March. -/
def monthFromMarch (days : Nat) : Nat :=
  (5 * days + 2) / 153

/-- The month of a day of a year that begins in March. -/
def monthOf (days : Nat) : Nat :=
  if monthFromMarch days < 10 then monthFromMarch days + 3 else monthFromMarch days - 9

/-- The day of the month of a day of a year that begins in March. -/
def dayOf (days : Nat) : Nat :=
  days - (153 * monthFromMarch days + 2) / 5 + 1

theorem monthFromMarch_spec {days : Nat} (few : days ≤ 365) :
    monthFromMarch days ≤ 11 ∧ (153 * monthFromMarch days + 2) / 5 ≤ days := by
  rw [monthFromMarch]
  omega

theorem monthOf_spec {days : Nat} (few : days ≤ 365) :
    1 ≤ monthOf days ∧ monthOf days ≤ 12 ∧ (monthOf days + 9) % 12 = monthFromMarch days := by
  have least := (monthFromMarch_spec few).1
  rw [monthOf]
  split <;> omega

theorem dayOf_spec {days : Nat} (few : days ≤ 365) :
    1 ≤ dayOf days ∧ (153 * monthFromMarch days + 2) / 5 + dayOf days - 1 = days := by
  have before := (monthFromMarch_spec few).2
  rw [dayOf]
  omega

/-- **The date of a day**, which is counted from the beginning of its four hundred years. -/
theorem ofDays_eq (era : Int) (day : EraDay) :
    Date.ofDays (era * 146097 + day.number - 719468) =
      ⟨day.year + era * 400 + (if monthOf day.days ≤ 2 then 1 else 0), monthOf day.days,
        dayOf day.days⟩ := by
  have below := day.number_lt
  have shifted : era * 146097 + (day.number : Int) - 719468 + 719468 =
      era * 146097 + day.number := by omega
  have isEra : (era * 146097 + (day.number : Int)).fdiv 146097 = era := by
    rw [Int.fdiv_eq_ediv_of_nonneg _ (by decide)]
    omega
  have inEra : (era * 146097 + (day.number : Int) - era * 146097).toNat = day.number := by omega
  rw [Date.ofDays]
  simp only [shifted, isEra, inEra, day.year_eq, day.days_eq]
  rfl

/-- **The day with a number has this number.** -/
theorem toDays_ofDays (days : Int) : (Date.ofDays days).toDays = days := by
  obtain ⟨era, day, rfl⟩ := exists_eraDay days
  obtain ⟨quarters, hundreds⟩ := day.leapYears_eq
  obtain ⟨-, -, isMonth⟩ := monthOf_spec day.days_le
  obtain ⟨-, isDay⟩ := dayOf_spec day.days_le
  have below : day.year < 400 := day.year_lt
  have year : (if monthOf day.days ≤ 2 then
      (day.year : Int) + era * 400 + (if monthOf day.days ≤ 2 then 1 else 0) - 1
      else day.year + era * 400 + (if monthOf day.days ≤ 2 then 1 else 0)) =
        day.year + era * 400 := by
    split <;> omega
  have isEra : ((day.year : Int) + era * 400).fdiv 400 = era := by
    rw [Int.fdiv_eq_ediv_of_nonneg _ (by decide)]
    omega
  rw [ofDays_eq, Date.toDays]
  simp only [year, isEra, isMonth, isDay, EraDay.number]
  rw [EraDay.year] at *
  omega

/-- A month has at least the days that it has in a common year. -/
theorem monthLength_ge (year : Int) (month : Nat) :
    monthLength 1 month ≤ monthLength year month := by
  have common : isLeapYear 1 = false := by decide
  rw [monthLength, monthLength, common]
  split
  · cases isLeapYear year <;> decide
  · exact Nat.le_refl _

theorem monthLength_le (year : Int) (month : Nat) : monthLength year month ≤ 31 := by
  rw [monthLength]
  split
  · split <;> decide
  · split <;> decide

/-- The month and the day of a date that exists have two digits. -/
theorem Date.lt_of_isValid {date : Date} (valid : date.isValid = true) :
    date.month < 100 ∧ date.day < 100 := by
  have few := monthLength_le date.year date.month
  simp only [isValid, Bool.and_eq_true, decide_eq_true_iff] at valid
  omega

theorem dayOf_le {days : Nat} {year : Int} (few : days ≤ 365)
    (leap : days = 365 → isLeapYear year = true) :
    dayOf days ≤ monthLength year (monthOf days) := by
  rcases Nat.lt_or_eq_of_le few with less | rfl
  · have common : ∀ days < 365, dayOf days ≤ monthLength 1 (monthOf days) := by decide +kernel
    exact Nat.le_trans (common days less) (monthLength_ge year _)
  · show 29 ≤ monthLength year 2
    rw [monthLength, leap rfl]
    decide

/-- The year that ends with a leap day is a leap year. -/
theorem isLeapYear_of_days {day : EraDay} (isLast : day.days = 365) (era : Int) :
    isLeapYear (day.year + era * 400 + 1) = true := by
  have years := day.leap_year isLast
  have centuries := day.leap_century isLast
  have fours := day.fours_le
  have few := day.centuries_le
  have byFour : ((day.year : Int) + era * 400 + 1) % 4 = 0 := by
    rw [EraDay.year]
    omega
  have byHundred : ((day.year : Int) + era * 400 + 1) % 100 ≠ 0 ∨
      ((day.year : Int) + era * 400 + 1) % 400 = 0 := by
    rw [EraDay.year]
    omega
  simpa [isLeapYear, byFour] using byHundred

/-- **The day with a number exists** if its year has dates. -/
theorem isValid_ofDays {days : Int} (inRange : yearInRange (Date.ofDays days).year = true) :
    (Date.ofDays days).isValid = true := by
  obtain ⟨era, day, rfl⟩ := exists_eraDay days
  obtain ⟨least, most, -⟩ := monthOf_spec day.days_le
  rw [ofDays_eq] at inRange ⊢
  have isDay : dayOf day.days ≤ monthLength
      (day.year + era * 400 + (if monthOf day.days ≤ 2 then 1 else 0)) (monthOf day.days) := by
    refine dayOf_le day.days_le fun isLast => ?_
    rw [isLast, if_pos (by decide)]
    exact isLeapYear_of_days isLast era
  simp [Date.isValid, inRange, least, most, (dayOf_spec day.days_le).1, isDay]

end NodeStorage.Instant
