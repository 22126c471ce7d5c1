/-
This file writes bytes as pairs of lower-case hexadecimal digits and reads them back.
-/

namespace Community.Text

/-- The value of a hexadecimal digit of either case. -/
def hexDigit? (c : Char) : Option Nat :=
  if '0' ≤ c ∧ c ≤ '9' then some (c.toNat - '0'.toNat)
  else if 'a' ≤ c ∧ c ≤ 'f' then some (c.toNat - 'a'.toNat + 10)
  else if 'A' ≤ c ∧ c ≤ 'F' then some (c.toNat - 'A'.toNat + 10)
  else none

/-- The lower-case digit of a value below sixteen. -/
def hexDigit (value : Nat) : Char :=
  if value < 10 then Char.ofNat ('0'.toNat + value) else Char.ofNat ('a'.toNat + (value - 10))

/-- Two digits for a byte. -/
def hexPair (byte : UInt8) : List Char :=
  [hexDigit (byte.toNat / 16), hexDigit (byte.toNat % 16)]

/-- Two digits for every byte, in order. -/
def hexOfBytes (bytes : ByteArray) : String :=
  String.ofList (bytes.toList.flatMap hexPair)

/-- The bytes that pairs of digits stand for; `none` for an odd count or another character. -/
def bytesOfHexDigits? : List Char → Option (List UInt8)
  | [] => some []
  | [_] => none
  | high :: low :: rest => do
    let high ← hexDigit? high
    let low ← hexDigit? low
    let rest ← bytesOfHexDigits? rest
    return UInt8.ofNat (16 * high + low) :: rest

/-- The bytes that a text of hexadecimal pairs stands for. -/
def bytesOfHex? (text : String) : Option ByteArray :=
  (bytesOfHexDigits? text.toList).map fun bytes => ⟨bytes.toArray⟩

end Community.Text
