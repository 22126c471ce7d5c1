/-
This file is the proleptic Gregorian calendar. Days are counted from 1970-01-01; a date is a year, a
month and a day, and the two are in step for every year, before the common era included. The count
groups years from March to February, so that the leap day is the last of its year, and years in eras of
four centuries, which all have the same number of days.
-/

namespace Community

/-- A day of the proleptic Gregorian calendar; year 0 is the one before year 1. -/
structure Date where
  year : Int
  month : Nat
  day : Nat
  deriving DecidableEq, Repr

namespace Date

/-- The years of which dates are kept; beyond them there is no time of day either. -/
def leastYear : Int := -262143

/-- The last year of which dates are kept. -/
def greatestYear : Int := 262142

/-- Does the year have a leap day? -/
def isLeap (year : Int) : Bool :=
  year % 4 = 0 && (year % 100 ≠ 0 || year % 400 = 0)

/-- The number of days of a month; zero for a month there is not. -/
def daysInMonth (year : Int) (month : Nat) : Nat :=
  if month = 2 then (if isLeap year then 29 else 28)
  else if month = 4 ∨ month = 6 ∨ month = 9 ∨ month = 11 then 30
  else if 1 ≤ month ∧ month ≤ 12 then 31
  else 0

/-- Is there such a day, in a year of which dates are kept? -/
def isValid (date : Date) : Bool :=
  leastYear ≤ date.year && date.year ≤ greatestYear && 1 ≤ date.day &&
    date.day ≤ daysInMonth date.year date.month

/-- Days in four centuries. -/
def daysPerEra : Nat := 146097

/-- Days from the first of March of year 0 to the first of January 1970. -/
def daysToEpoch : Nat := 719468

/-- The number of days from 1970-01-01 to the date. -/
def toDays (date : Date) : Int :=
  let year := if date.month ≤ 2 then date.year - 1 else date.year
  let era := year.fdiv 400
  let yearOfEra := (year - era * 400).toNat
  let monthFromMarch := (date.month + 9) % 12
  let dayOfYear := (153 * monthFromMarch + 2) / 5 + date.day - 1
  let dayOfEra := yearOfEra * 365 + yearOfEra / 4 - yearOfEra / 100 + dayOfYear
  era * daysPerEra + dayOfEra - daysToEpoch

/-- The date that many days after 1970-01-01. -/
def ofDays (days : Int) : Date :=
  let shifted := days + daysToEpoch
  let era := shifted.fdiv daysPerEra
  let dayOfEra := (shifted - era * daysPerEra).toNat
  let yearOfEra := (dayOfEra - dayOfEra / 1460 + dayOfEra / 36524 - dayOfEra / 146096) / 365
  let dayOfYear := dayOfEra - (365 * yearOfEra + yearOfEra / 4 - yearOfEra / 100)
  let monthFromMarch := (5 * dayOfYear + 2) / 153
  let day := dayOfYear - (153 * monthFromMarch + 2) / 5 + 1
  let month := if monthFromMarch < 10 then monthFromMarch + 3 else monthFromMarch - 9
  let year := yearOfEra + era * 400
  ⟨if month ≤ 2 then year + 1 else year, month, day⟩

/-- A number in at least so many digits, padded with zeros. -/
def padded (width value : Nat) : String :=
  let digits := Nat.toDigits 10 value
  String.ofList (List.replicate (width - digits.length) '0' ++ digits)

/-- A year in four digits; a year that four digits cannot write has a sign and at least four digits. -/
def writeYear (year : Int) : String :=
  if 0 ≤ year ∧ year ≤ 9999 then padded 4 year.toNat
  else (if year < 0 then "-" else "+") ++ padded 4 year.natAbs

/-- The date as year, month and day. -/
def write (date : Date) : String :=
  writeYear date.year ++ "-" ++ padded 2 date.month ++ "-" ++ padded 2 date.day

end Date

end Community
