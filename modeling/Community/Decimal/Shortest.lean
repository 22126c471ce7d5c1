/-
This file finds the shortest decimal that a binary floating-point number has, and writes it. A finite
number other than zero is `significand * 2 ^ exponent`; the reals that round to it form an interval
around it, whose ends belong to it when the significand is even. For one, two, ... digits the file looks
at the two neighbours of the number on the grid of decimals with that many digits: the first grid with a
neighbour in the interval wins, and of two such neighbours the nearer. All of it is exact arithmetic on
natural numbers.

The written form is positional for decimal exponents from -5 to 15 and scientific outside of them. A
whole number in positional form ends in `.0`; a scientific exponent always has its sign, as in `1e+16`
and `1e-6`.
-/

import Community.Decimal.Scientific

namespace Community.Decimal

/-- A positive binary number `significand * 2 ^ exponent`. The flag tells that its lower neighbour is
only half as far away as its upper one, which holds at the powers of two. -/
structure Binary where
  significand : Nat
  exponent : Int
  narrowBelow : Bool
  deriving DecidableEq, Repr

/-- The magnitude of the double with the given bits, the sign bit ignored; `none` for an infinity or
no number at all. Zero has significand zero. -/
def Binary.ofBits? (bits : Nat) : Option Binary :=
  let fraction : Nat := bits % Nat.pow 2 52
  let scale : Nat := bits / Nat.pow 2 52 % Nat.pow 2 11
  if scale = 2047 then none
  else if scale = 0 then some ⟨fraction, -1074, false⟩
  else some ⟨Nat.pow 2 52 + fraction, (scale : Int) - 1075, fraction = 0 ∧ 1 < scale⟩

/-! ### The interval of a number -/

/-- A positive value and the ends of its interval, as numerators over one denominator. -/
structure Interval where
  value : Nat
  low : Nat
  high : Nat
  denominator : Nat
  closed : Bool
  deriving DecidableEq, Repr

/-- The reals that round to a binary number reach half way to its neighbours on either side. -/
def Binary.interval (number : Binary) : Interval :=
  let unit := Nat.pow 2 number.exponent.toNat
  let belowGap := if number.narrowBelow then 1 else 2
  { value := 4 * number.significand * unit
    low := (4 * number.significand - belowGap) * unit
    high := (4 * number.significand + 2) * unit
    denominator := 4 * Nat.pow 2 (-number.exponent).toNat
    closed := number.significand % 2 = 0 }

/-- The interval with `10 ^ exponent` as its unit. -/
def Interval.scale (interval : Interval) (exponent : Int) : Interval :=
  let grow := Nat.pow 10 (-exponent).toNat
  { interval with
    value := interval.value * grow
    low := interval.low * grow
    high := interval.high * grow
    denominator := interval.denominator * Nat.pow 10 exponent.toNat }

/-- Does the whole number lie in the interval? -/
def Interval.holds (interval : Interval) (whole : Nat) : Bool :=
  let numerator := whole * interval.denominator
  if interval.closed then interval.low ≤ numerator && numerator ≤ interval.high
  else interval.low < numerator && numerator < interval.high

/-- The whole number in the interval that is nearest to the value, among the value's two neighbours. An
exact tie goes to the even one. -/
def Interval.nearest? (interval : Interval) : Option Nat :=
  let below := interval.value / interval.denominator
  let gap := interval.value % interval.denominator
  match interval.holds below, interval.holds (below + 1) with
  | false, false => none
  | true, false => some below
  | false, true => some (below + 1)
  | true, true =>
    if 2 * gap < interval.denominator ∨ 2 * gap = interval.denominator ∧ below % 2 = 0 then
      some below
    else
      some (below + 1)

/-- The exponent of the leading decimal digit, sought upwards from one that is not too large: the
largest `e` with `10 ^ e` not above the value. -/
def Interval.leadingExponent (interval : Interval) : Nat → Int → Int
  | 0, exponent => exponent
  | fuel + 1, exponent =>
    let next := interval.scale (exponent + 1)
    if next.denominator ≤ next.value then interval.leadingExponent fuel (exponent + 1)
    else exponent

/-- The first grid, from the unit `10 ^ exponent` down to finer ones, with a decimal in the
interval. -/
def Interval.shortest (interval : Interval) : Nat → Int → Scientific
  | 0, exponent => ⟨(interval.scale exponent).value / (interval.scale exponent).denominator, exponent⟩
  | fuel + 1, exponent =>
    match (interval.scale exponent).nearest? with
    | some digits => ⟨digits, exponent⟩
    | none => interval.shortest fuel (exponent - 1)

/-- The decimal without zeros at its end. -/
def Scientific.strip : Nat → Scientific → Scientific
  | 0, decimal => decimal
  | fuel + 1, decimal =>
    if decimal.significand % 10 = 0 ∧ decimal.significand ≠ 0 then
      Scientific.strip fuel ⟨decimal.significand / 10, decimal.exponent + 1⟩
    else
      decimal

/-- The shortest decimal that rounds to a positive binary number. The search for the leading digit
starts from the position of the leading bit: a bit is worth a little more than 0.30102 digits. -/
def Binary.shortest (number : Binary) : Scientific :=
  let interval := number.interval
  let leadingBit : Int := number.significand.log2 + number.exponent
  let leadingDigit := interval.leadingExponent 4 (leadingBit * 30103 / 100000 - 1)
  (interval.shortest 17 leadingDigit).strip 17

/-! ### The written form -/

/-- Leading digits are written out positionally for decimal exponents in this range. -/
structure Layout where
  leastPositional : Int
  mostPositional : Int

/-- Positional from `0.00001` up to below `10 ^ 16`. -/
def layout : Layout := ⟨-5, 15⟩

/-- A positive decimal in digits. -/
def Scientific.write (decimal : Scientific) : String :=
  let digits := Nat.toDigits 10 decimal.significand
  let count := digits.length
  let leading := decimal.exponent + count - 1
  if layout.leastPositional ≤ leading ∧ leading ≤ layout.mostPositional then
    if 0 ≤ decimal.exponent then
      String.ofList (digits ++ List.replicate decimal.exponent.toNat '0') ++ ".0"
    else if 0 ≤ leading then
      let whole := leading.toNat + 1
      String.ofList (digits.take whole) ++ "." ++ String.ofList (digits.drop whole)
    else
      "0." ++ String.ofList (List.replicate (-leading - 1).toNat '0' ++ digits)
  else
    let mantissa :=
      match digits with
      | first :: second :: rest => String.ofList (first :: '.' :: second :: rest)
      | short => String.ofList short
    mantissa ++ (if leading < 0 then "e-" else "e+") ++ toString leading.natAbs

/-- The shortest text that reads back as the number; `none` when it is not finite. -/
def writeFloat? (number : Float) : Option String :=
  let bits := number.toBits.toNat
  let sign := if bits / Nat.pow 2 63 = 1 then "-" else ""
  (Binary.ofBits? (bits % Nat.pow 2 63)).map fun magnitude =>
    if magnitude.significand = 0 then sign ++ "0.0" else sign ++ magnitude.shortest.write

end Community.Decimal
