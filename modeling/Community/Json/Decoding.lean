/-
This file tells what a document means as a JSON value. An integer that needs more than 64 bits, or that is
written with a fraction or an exponent, becomes a floating-point number. Of the members of an object that
share a name the last one counts, and they stand in ascending order of names. A document with too many
levels of lists and objects in one another has no value.
-/

import Community.Decimal.Scientific
import Community.Json.Document
import Community.Json.Value

namespace Community.Json

open Community.Text
open Community.Decimal

/-! ### Numbers -/

/-- The magnitude of a numeral as a floating-point number; `none` when it is too large. -/
def Numeral.magnitude? (numeral : Numeral) : Option Float :=
  let decimal := Scientific.ofDigits numeral.whole numeral.fraction
  match numeral.exponent with
  | none => decimal.toFloat?
  | some (negative, digits) => decimal.shifted? negative digits

/-- The value of a numeral: an integer when it is written as one and 64 bits hold it, else a
floating-point number, else nothing. -/
def Numeral.value? (numeral : Numeral) : Option Value :=
  let real := numeral.magnitude?.map fun magnitude =>
    Value.real (if numeral.negative then -magnitude else magnitude)
  match numeral.integer? with
  | some value => if Int64.minValue.toInt ≤ value ∧ value < UInt64.size then some (.integer value) else real
  | none => real

/-! ### Values -/

/-- The most levels that a value may have. -/
def Value.mostLevels : Nat := 127

/-- Puts a member in ascending order of names, in place of the one with its name. -/
def placeMember (name : String) (value : Value) : List (String × Value) → List (String × Value)
  | [] => [(name, value)]
  | (other, kept) :: rest =>
    if name < other then (name, value) :: (other, kept) :: rest
    else if name = other then (name, value) :: rest
    else (other, kept) :: placeMember name value rest

mutual

/-- The value of a document of any depth; `none` if one of its strings or numbers has none. -/
def Value.ofParts? : Document → Option Value
  | .null => some .null
  | .bool value => some (.bool value)
  | .number numeral => numeral.value?
  | .text raw => (stringOfRaw? raw).map .text
  | .list items => (Value.ofItems? items).map .list
  | .members entries =>
    (Value.ofMembers? entries).map fun members =>
      .object (members.foldl (fun sorted member => placeMember member.1 member.2 sorted) [])

/-- The values of a list's items. -/
def Value.ofItems? : List Document → Option (List Value)
  | [] => some []
  | item :: rest => do
    let value ← Value.ofParts? item
    let values ← Value.ofItems? rest
    return value :: values

/-- The members of an object as they were written. -/
def Value.ofMembers? : List (List Symbol × Document) → Option (List (String × Value))
  | [] => some []
  | (raw, document) :: rest => do
    let name ← stringOfRaw? raw
    let value ← Value.ofParts? document
    let members ← Value.ofMembers? rest
    return (name, value) :: members

end

/-- The value of a document; `none` if it has too many levels, or if one of its strings or numbers has
none. -/
def Value.ofDocument? (document : Document) : Option Value :=
  if document.depth ≤ Value.mostLevels then Value.ofParts? document else none

end Community.Json
