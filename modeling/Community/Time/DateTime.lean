/-
This file reads and writes the date and time of day of records. A date-time is in UTC: a date, a second of
the day and nanoseconds. A leap second is kept as nanoseconds beyond a whole second, so that it stays
apart from the second that follows it.

Reading is lenient about blanks, digits and separators and strict about the range of every part; a
date-time with an offset is moved to UTC. Writing has one form, with the fewest of zero, three, six or
nine digits of a fraction that lose nothing.
-/

import Community.Time.Calendar
import Community.Text.Blank

namespace Community

open Community.Text

/-- A date and time of day in UTC. The nanoseconds are at least a whole second within a leap second. -/
structure DateTime where
  date : Date
  second : Nat
  nanos : Nat
  deriving DecidableEq, Repr

namespace DateTime

/-- Nanoseconds in a second. -/
def nanosPerSecond : Nat := 1000000000

/-! ### Writing -/

/-- The fraction of a second after its point, if it is not zero. -/
def writeFraction (nanos : Nat) : String :=
  if nanos = 0 then ""
  else if nanos % 1000000 = 0 then "." ++ Date.padded 3 (nanos / 1000000)
  else if nanos % 1000 = 0 then "." ++ Date.padded 6 (nanos / 1000)
  else "." ++ Date.padded 9 nanos

/-- The date, the time of day and the mark of UTC. -/
def write (time : DateTime) : String :=
  let leap := time.nanos / nanosPerSecond
  time.date.write ++ "T" ++ Date.padded 2 (time.second / 3600) ++ ":" ++
    Date.padded 2 (time.second / 60 % 60) ++ ":" ++ Date.padded 2 (time.second % 60 + leap) ++
    writeFraction (time.nanos % nanosPerSecond) ++ "Z"

/-! ### Reading -/

/-- The value of a decimal digit. -/
def digitOf? (c : Char) : Option Nat :=
  if '0' ≤ c ∧ c ≤ '9' then some (c.toNat - '0'.toNat) else none

/-- At most so many digits at the front, added to a value, and what follows them. -/
def takeDigits : Nat → Nat → List Char → Nat × List Char
  | 0, value, text => (value, text)
  | _ + 1, value, [] => (value, [])
  | most + 1, value, c :: rest =>
    match digitOf? c with
    | some digit => takeDigits most (10 * value + digit) rest
    | none => (value, c :: rest)

/-- A number of at least one and at most so many digits. -/
def readNumber? (most : Nat) (text : List Char) : Option (Nat × List Char) :=
  match text with
  | [] => none
  | c :: _ => if (digitOf? c).isSome then some (takeDigits most 0 text) else none

/-- A number after any blanks. -/
def readField? (most : Nat) (text : List Char) : Option (Nat × List Char) :=
  readNumber? most (skipBlanks text)

/-- A year: four digits at most, or a sign and any number of digits. -/
def readYear? (text : List Char) : Option (Int × List Char) :=
  match skipBlanks text with
  | '-' :: rest => (readNumber? rest.length rest).map fun (year, rest) => (-(year : Int), rest)
  | '+' :: rest => (readNumber? rest.length rest).map fun (year, rest) => ((year : Int), rest)
  | rest => (readNumber? 4 rest).map fun (year, rest) => ((year : Int), rest)

/-- What follows a mark that must stand at the front, blanks before it aside. -/
def afterMark? (mark : Char) (text : List Char) : Option (List Char) :=
  match skipBlanks text with
  | c :: rest => if c = mark then some rest else none
  | [] => none

/-- A date. -/
def readDate? (text : List Char) : Option (Date × List Char) := do
  let (year, rest) ← readYear? text
  let rest ← afterMark? '-' rest
  let (month, rest) ← readField? 2 rest
  let rest ← afterMark? '-' rest
  let (day, rest) ← readField? 2 rest
  return (⟨year, month, day⟩, rest)

/-- The nanoseconds of a fraction: digits past the ninth count for nothing. -/
def readFraction? (text : List Char) : Option (Nat × List Char) := do
  match text with
  | '.' :: rest =>
    let (_, after) ← readNumber? rest.length rest
    let digits := rest.length - after.length
    let (value, _) := takeDigits 9 0 rest
    return (value * Nat.pow 10 (9 - digits), after)
  | _ => return (0, text)

/-- A time of day as second and nanoseconds. Second 60 is the leap second of its minute. -/
def readTime? (text : List Char) : Option (Nat × Nat × List Char) := do
  let (hour, rest) ← readField? 2 text
  let rest ← afterMark? ':' rest
  let (minute, rest) ← readField? 2 rest
  let rest ← afterMark? ':' rest
  let (second, rest) ← readField? 2 rest
  let (nanos, rest) ← readFraction? rest
  if hour < 24 ∧ minute < 60 ∧ second ≤ 60 then
    if second = 60 then
      return (hour * 3600 + minute * 60 + 59, nanos + nanosPerSecond, rest)
    else
      return (hour * 3600 + minute * 60 + second, nanos, rest)
  else
    none

/-- Two digits. -/
def readPair? : List Char → Option (Nat × List Char)
  | a :: b :: rest => do
    let a ← digitOf? a
    let b ← digitOf? b
    return (10 * a + b, rest)
  | _ => none

/-- The seconds by which local time is ahead of UTC: nothing for the marks of UTC, else a sign, two
digits of hours and two of minutes with colons or blanks between them. -/
def readOffset? (text : List Char) : Option (Int × List Char) :=
  let amount (rest : List Char) : Option (Nat × List Char) := do
    let (hours, rest) ← readPair? rest
    let (minutes, rest) ← readPair? (rest.dropWhile fun c => c = ':' || isBlank c)
    if hours < 24 ∧ minutes < 60 then return (hours * 3600 + minutes * 60, rest) else none
  match text with
  | 'Z' :: rest => some (0, rest)
  | 'z' :: rest => some (0, rest)
  | '+' :: rest => (amount rest).map fun (seconds, rest) => ((seconds : Int), rest)
  | '-' :: rest => (amount rest).map fun (seconds, rest) => (-(seconds : Int), rest)
  | '\u2212' :: rest => (amount rest).map fun (seconds, rest) => (-(seconds : Int), rest)
  | u :: t :: c :: rest =>
    if u.toUpper = 'U' ∧ t.toUpper = 'T' ∧ c.toUpper = 'C' then some (0, rest) else none
  | _ => none

/-- Moves a local date and time by an offset to UTC; none if UTC leaves the calendar. -/
def ofLocal? (date : Date) (second nanos : Nat) (offset : Int) : Option DateTime :=
  let moved : Int := second - offset
  let utcDate := Date.ofDays (date.toDays + moved.fdiv 86400)
  if date.isValid && utcDate.isValid then some ⟨utcDate, (moved.fmod 86400).toNat, nanos⟩ else none

/-- Reads a date-time from all of a text, blanks at its end aside. -/
def ofChars? (text : List Char) : Option DateTime := do
  let (date, rest) ← readDate? text
  let rest ←
    match rest with
    | c :: rest => if c = 'T' ∨ c = 't' ∨ c = ' ' then some rest else none
    | [] => none
  let (second, nanos, rest) ← readTime? rest
  let (offset, rest) ← readOffset? (skipBlanks rest)
  if skipBlanks rest = [] then ofLocal? date second nanos offset else none

/-- Reads a date-time from a text. -/
def ofString? (text : String) : Option DateTime :=
  ofChars? text.toList

end DateTime

end Community
