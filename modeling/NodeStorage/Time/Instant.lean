/-
**Points in time.**

An instant is a count of seconds from the start of 1970 in UTC and a fraction of a second in
nanoseconds; a fraction of a whole second or more stands for a leap second. Instants are read from
texts with a date, a time and an offset from UTC, and always written in UTC.

Reading is lenient about blanks between the parts and about the letter between date and time, and
strict about everything else: the date must exist, minutes run to 59, and the offset must be less
than a day. Writing gives the fraction in no, three, six or nine digits, as few as hold it.
-/

import NodeStorage.Text.Integer
import NodeStorage.Text.WhiteSpace

namespace NodeStorage

/-- A point in time. -/
structure Instant where
  /-- Seconds since the start of 1970 in UTC. -/
  seconds : Int
  /-- Nanoseconds on top; a thousand million or more inside a leap second. -/
  nanoseconds : Nat
  deriving DecidableEq, Repr, Inhabited

namespace Instant

/-! ### The calendar -/

/-- A day of the calendar. -/
structure Date where
  year : Int
  month : Nat
  day : Nat
  deriving DecidableEq, Repr

/-- The years divisible by four, of the centuries those divisible by four hundred. -/
def isLeapYear (year : Int) : Bool :=
  year % 4 == 0 && (year % 100 != 0 || year % 400 == 0)

/-- The days of a month. -/
def monthLength (year : Int) (month : Nat) : Nat :=
  if month = 2 then (if isLeapYear year then 29 else 28)
  else if month = 4 ∨ month = 6 ∨ month = 9 ∨ month = 11 then 30 else 31

/-- The years that have dates. -/
def yearInRange (year : Int) : Bool :=
  -262143 ≤ year && year ≤ 262142

/-- The date exists. -/
def Date.isValid (date : Date) : Bool :=
  yearInRange date.year && 1 ≤ date.month && date.month ≤ 12 && 1 ≤ date.day &&
    date.day ≤ monthLength date.year date.month

/-- The number of a day, counted from the first of January 1970. Years are taken to begin in March,
so that the leap day ends one. -/
def Date.toDays (date : Date) : Int :=
  let year := if date.month ≤ 2 then date.year - 1 else date.year
  let era := year.fdiv 400
  let yearOfEra := year - era * 400
  let monthFromMarch := (date.month + 9) % 12
  let dayOfYear := (153 * monthFromMarch + 2) / 5 + date.day - 1
  let dayOfEra := yearOfEra * 365 + yearOfEra / 4 - yearOfEra / 100 + dayOfYear
  era * 146097 + dayOfEra - 719468

/-- The day with a number. -/
def Date.ofDays (days : Int) : Date :=
  let shifted := days + 719468
  let era := shifted.fdiv 146097
  let dayOfEra := (shifted - era * 146097).toNat
  let yearOfEra := (dayOfEra - dayOfEra / 1460 + dayOfEra / 36524 - dayOfEra / 146096) / 365
  let dayOfYear := dayOfEra - (365 * yearOfEra + yearOfEra / 4 - yearOfEra / 100)
  let monthFromMarch := (5 * dayOfYear + 2) / 153
  let day := dayOfYear - (153 * monthFromMarch + 2) / 5 + 1
  let month := if monthFromMarch < 10 then monthFromMarch + 3 else monthFromMarch - 9
  ⟨(yearOfEra : Int) + era * 400 + (if month ≤ 2 then 1 else 0), month, day⟩

/-! ### Reading -/

/-- Between `least` and `most` digits at the head, as many as there are, and the rest. -/
def takeNumber (least most : Nat) (chars : List Char) : Option (Nat × List Char) :=
  let digits := (chars.takeWhile Char.isDigit).take most
  if digits.length < least then none
  else (Text.digitsFrom 0 digits).map fun value => (value, chars.drop digits.length)

/-- A year: four digits at most, or any number of digits after a sign. -/
def takeYear (chars : List Char) : Option (Int × List Char) :=
  match chars with
  | '-' :: rest => (takeNumber 1 rest.length rest).map fun (value, after) => (-(value : Int), after)
  | '+' :: rest => (takeNumber 1 rest.length rest).map fun (value, after) => ((value : Int), after)
  | _ => (takeNumber 1 4 chars).map fun (value, after) => ((value : Int), after)

/-- The characters after an expected one, blanks before it passed over. -/
def takeMark (mark : Char) (chars : List Char) : Option (List Char) :=
  match Text.trimStart chars with
  | c :: rest => if c = mark then some rest else none
  | [] => none

/-- Two digits at most, blanks before them passed over. -/
def takePair (chars : List Char) : Option (Nat × List Char) :=
  takeNumber 1 2 (Text.trimStart chars)

/-- The nanoseconds of a fraction; digits after the ninth count for nothing. -/
def takeFraction (chars : List Char) : Option (Nat × List Char) :=
  match chars with
  | '.' :: rest =>
    let digits := rest.takeWhile Char.isDigit
    let kept := digits.take 9
    if kept.isEmpty then none
    else (Text.digitsFrom 0 (kept ++ List.replicate (9 - kept.length) '0')).map fun value =>
      (value, rest.drop digits.length)
  | _ => some (0, chars)

/-- The seconds of an offset from UTC, and the rest: a Z, the letters UTC, or a signed time. -/
def takeOffset (chars : List Char) : Option (Int × List Char) :=
  match chars with
  | u :: t :: c :: rest =>
    if [u, t, c].map Char.toLower = ['u', 't', 'c'] then some (0, rest) else signedOffset chars
  | _ => signedOffset chars
where
  /-- Hours and minutes after a sign. -/
  signedOffset (chars : List Char) : Option (Int × List Char) :=
    match chars with
    | 'Z' :: rest => some (0, rest)
    | 'z' :: rest => some (0, rest)
    | '+' :: rest => magnitude rest
    | '-' :: rest => (magnitude rest).map fun (value, after) => (-value, after)
    | c :: rest =>
      if c.toNat = 0x2212 then (magnitude rest).map fun (value, after) => (-value, after) else none
    | [] => none
  /-- Two digits of hours, colons and blanks, two digits of minutes. -/
  magnitude (chars : List Char) : Option (Int × List Char) := do
    let (hours, rest) ← takeNumber 2 2 chars
    let rest := rest.dropWhile fun c => c == ':' || Text.isWhiteSpace c
    let (minutes, rest) ← takeNumber 2 2 rest
    if minutes < 60 then pure ((hours * 3600 + minutes * 60 : Nat), rest) else none

/-- Reads an instant. -/
def parse? (text : String) : Option Instant := do
  let (year, rest) ← takeYear (Text.trimStart text.toList)
  let rest ← takeMark '-' rest
  let (month, rest) ← takePair rest
  let rest ← takeMark '-' rest
  let (day, rest) ← takePair rest
  let rest ← match rest with
    | 'T' :: after => some after
    | 't' :: after => some after
    | ' ' :: after => some after
    | _ => none
  let (hour, rest) ← takePair rest
  let rest ← takeMark ':' rest
  let (minute, rest) ← takePair rest
  let rest ← takeMark ':' rest
  let (second, rest) ← takePair rest
  let (nanoseconds, rest) ← takeFraction rest
  let (offset, rest) ← takeOffset (Text.trimStart rest)
  let date : Date := ⟨year, month, day⟩
  if date.isValid ∧ hour < 24 ∧ minute < 60 ∧ second ≤ 60 ∧ offset.natAbs < 86400 ∧
      Text.trimStart rest = [] then
    let leap := second = 60
    let clock : Int := hour * 3600 + minute * 60 + (if leap then 59 else second)
    let total := date.toDays * 86400 + clock - offset
    if yearInRange (Date.ofDays (total.fdiv 86400)).year then
      pure ⟨total, nanoseconds + (if leap then 1000000000 else 0)⟩
    else none
  else none

/-! ### Writing -/

/-- A year of four digits, with a sign where four digits do not suffice. -/
def writeYear (year : Int) : List Char :=
  if 0 ≤ year ∧ year ≤ 9999 then Text.decimalPadded 4 year.toNat
  else (if year < 0 then '-' else '+') :: Text.decimalPadded 4 year.natAbs

/-- The instant in UTC with a fraction of `places` digits, cut off. -/
def writeWith (places : Nat) (instant : Instant) : String :=
  let date := Date.ofDays (instant.seconds.fdiv 86400)
  let clock := (instant.seconds.fmod 86400).toNat
  let leap := 1000000000 ≤ instant.nanoseconds
  let second := clock % 60 + (if leap then 1 else 0)
  let nanoseconds := if leap then instant.nanoseconds - 1000000000 else instant.nanoseconds
  let fraction :=
    if places = 0 then []
    else '.' :: (Text.decimalPadded 9 nanoseconds).take places
  String.ofList
    (writeYear date.year ++ '-' :: Text.decimalPadded 2 date.month ++
      '-' :: Text.decimalPadded 2 date.day ++ 'T' :: Text.decimalPadded 2 (clock / 3600) ++
      ':' :: Text.decimalPadded 2 (clock / 60 % 60) ++ ':' :: Text.decimalPadded 2 second ++
      fraction ++ ['Z'])

/-- The fewest of no, three, six and nine digits that hold the fraction. -/
def places (instant : Instant) : Nat :=
  let nanoseconds := instant.nanoseconds % 1000000000
  if nanoseconds = 0 then 0
  else if nanoseconds % 1000000 = 0 then 3
  else if nanoseconds % 1000 = 0 then 6 else 9

/-- The instant in UTC. -/
def write (instant : Instant) : String :=
  instant.writeWith instant.places

/-- The instant in UTC, cut to whole seconds. -/
def writeSeconds (instant : Instant) : String :=
  instant.writeWith 0

/-- The instant in UTC, cut to microseconds. -/
def writeMicroseconds (instant : Instant) : String :=
  instant.writeWith 6

end Instant

end NodeStorage
