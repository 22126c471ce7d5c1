/-
This file turns decimals into binary floating-point numbers. A decimal is a significand times a power of ten,
and its significand is a word of 64 bits. Digits fill it from the left: leading digits are taken as long as
they fit, the whole digits after them only raise the exponent, and the digits of a fraction after them count
for nothing.

The number is the significand, rounded once, with the power of ten applied to it, which rounds again; powers
beyond `10 ^ 308` are applied in steps. A result that would be infinite is none.
-/

namespace Community.Decimal

/-- A decimal `significand * 10 ^ exponent`. -/
structure Scientific where
  significand : Nat
  exponent : Int
  deriving DecidableEq, Repr

/-- The natural number that decimal digits stand for. -/
def naturalOfDigits (digits : List Nat) : Nat :=
  digits.foldl (fun value digit => 10 * value + digit) 0

namespace Scientific

/-! ### Digits -/

/-- One more than the largest significand. -/
def significandBound : Nat := UInt64.size

/-- Takes the digits of a whole part as long as they fit; each of the others is a power of ten. -/
def takeWhole : List Nat → Scientific → Scientific
  | [], decimal => decimal
  | digit :: rest, decimal =>
    let next := 10 * decimal.significand + digit
    if next < significandBound then takeWhole rest ⟨next, decimal.exponent⟩
    else ⟨decimal.significand, decimal.exponent + (digit :: rest).length⟩

/-- Takes the digits of a fraction as long as they fit. -/
def takeFraction : List Nat → Scientific → Scientific
  | [], decimal => decimal
  | digit :: rest, decimal =>
    let next := 10 * decimal.significand + digit
    if next < significandBound then takeFraction rest ⟨next, decimal.exponent - 1⟩
    else decimal

/-- The decimal with the digits of a whole part and a fraction. -/
def ofDigits (whole fraction : List Nat) : Scientific :=
  takeFraction fraction (takeWhole whole ⟨0, 0⟩)

/-! ### Rounding -/

/-- The largest power of ten that is applied in one step. -/
def largestPower : Nat := 308

/-- Ten to a power up to the largest one, correctly rounded. -/
def powerOfTen (exponent : Nat) : Float :=
  Float.ofScientific 1 false exponent

/-- Divides by `10 ^ exponent` step by step; zero needs no step. The count bounds the steps. -/
def divideByPower (number : Float) : Nat → Nat → Float
  | 0, _ => number
  | count + 1, exponent =>
    if exponent ≤ largestPower then number / powerOfTen exponent
    else if number == 0.0 then number
    else divideByPower (number / powerOfTen largestPower) count (exponent - largestPower)

/-- The floating-point number of a decimal; `none` when it is too large. -/
def toFloat? (decimal : Scientific) : Option Float :=
  let number := (UInt64.ofNat decimal.significand).toFloat
  let power := decimal.exponent.natAbs
  if decimal.exponent < 0 then some (divideByPower number (power / largestPower + 1) power)
  else if power ≤ largestPower then
    let product := number * powerOfTen power
    if product.isInf then none else some product
  else if number == 0.0 then some number
  else none

/-- One more than the largest exponent that is still counted. -/
def exponentBound : Nat := Nat.pow 2 31

/-- The floating-point number of a decimal with a written exponent on top of its own. An exponent that is
too large to be counted leads to zero if it is negative or applies to zero, and else out of range. -/
def shifted? (decimal : Scientific) (negative : Bool) (digits : List Nat) : Option Float :=
  let exponent := naturalOfDigits digits
  if exponentBound ≤ exponent then
    if decimal.significand = 0 ∨ negative then some 0.0 else none
  else
    let shift : Int := if negative then -exponent else exponent
    toFloat? ⟨decimal.significand, decimal.exponent + shift⟩

end Scientific

end Community.Decimal
