/-
This file holds JSON values and their compact written form. A string is written with the six short escapes,
control characters by their code unit, and every other character as itself; the members of an object are
written in the order in which they stand.
-/

import Community.Decimal.Shortest
import Community.Text.Hex

namespace Community.Json

open Community.Text
open Community.Decimal

/-- A JSON value. The members of an object stand in the order in which they are written. -/
inductive Value where
  | null
  | bool (value : Bool)
  | integer (value : Int)
  | real (value : Float)
  | text (value : String)
  | list (items : List Value)
  | object (members : List (String × Value))
  deriving Repr

instance : Inhabited Value := ⟨.null⟩

/-! ### Writing -/

/-- Two hexadecimal digits after the escape of a code unit below 256. -/
def escapeControl (c : Char) : List Char :=
  ['\\', 'u', '0', '0', hexDigit (c.toNat / 16), hexDigit (c.toNat % 16)]

/-- How one character is written inside a string. -/
def escapeChar (c : Char) : List Char :=
  if c = '"' then ['\\', '"']
  else if c = '\\' then ['\\', '\\']
  else if c = '\x08' then ['\\', 'b']
  else if c = '\x0c' then ['\\', 'f']
  else if c = '\n' then ['\\', 'n']
  else if c = '\r' then ['\\', 'r']
  else if c = '\t' then ['\\', 't']
  else if c.toNat < 0x20 then escapeControl c
  else [c]

/-- A string between its quotes. -/
def writeString (text : String) : List Char :=
  '"' :: (text.toList.flatMap escapeChar ++ ['"'])

mutual

/-- The compact text of a value. A floating-point number that is not finite is written as null. -/
def Value.write : Value → List Char
  | .null => "null".toList
  | .bool true => "true".toList
  | .bool false => "false".toList
  | .integer value => (toString value).toList
  | .real value => ((writeFloat? value).getD "null").toList
  | .text value => writeString value
  | .list items => '[' :: (Value.writeItems items ++ [']'])
  | .object members => '\x7b' :: (Value.writeMembers members ++ ['\x7d'])

/-- The items of a list, with commas between them. -/
def Value.writeItems : List Value → List Char
  | [] => []
  | [item] => item.write
  | item :: rest => item.write ++ ',' :: Value.writeItems rest

/-- The members of an object, with commas between them. -/
def Value.writeMembers : List (String × Value) → List Char
  | [] => []
  | [(name, value)] => writeString name ++ ':' :: value.write
  | (name, value) :: rest =>
    writeString name ++ ':' :: (value.write ++ ',' :: Value.writeMembers rest)

end

/-- The compact text of a value, as a string. -/
def Value.render (value : Value) : String :=
  String.ofList value.write

end Community.Json
