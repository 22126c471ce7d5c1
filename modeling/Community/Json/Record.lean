/-
This file reads records. A record is written as an object with its fields as members, or as a list of its
fields in the order of their declaration. Members of other names are passed over, but their names have to
be readable, and no field may be given twice. A list may be too short for the fields that have a default,
and never too long. Null is a value like any other and stands for no default.
-/

import Community.Json.Document
import Community.Time.DateTime

namespace Community.Json

open Community.Text

/-- The fields that a document gives, by name. -/
structure Record where
  fields : List (String × Document)

namespace Record

/-- The document given for a field. -/
def get? (record : Record) (name : String) : Option Document :=
  (record.fields.find? fun field => field.1 = name).map Prod.snd

/-- The given fields among an object's members. -/
def ofMembers? (names : List String) : List (List Symbol × Document) → Option (List (String × Document))
  | [] => some []
  | (raw, document) :: rest => do
    let name ← stringOfRaw? raw
    let fields ← ofMembers? names rest
    if name ∈ names then
      if name ∈ fields.map Prod.fst then none else return (name, document) :: fields
    else
      return fields

/-- The fields, out of those of the given names, that a document gives. -/
def ofDocument? (names : List String) : Document → Option Record
  | .members entries => (ofMembers? names entries).map Record.mk
  | .list items => if items.length ≤ names.length then some ⟨names.zip items⟩ else none
  | _ => none

/-- The value of a field that must be given. -/
def required {α : Type} (record : Record) (name : String) (decode? : Document → Option α) : Option α :=
  (record.get? name).bind decode?

/-- The value of a field that has a default; what is given must still be readable. -/
def optional {α : Type} (record : Record) (name : String) (decode? : Document → Option α)
    (default : α) : Option α :=
  match record.get? name with
  | some document => decode? document
  | none => some default

end Record

/-! ### Values of fields -/

/-- An unsigned number of 64 bits. -/
def word64? (document : Document) : Option UInt64 := do
  let value ← document.integer?
  if 0 ≤ value ∧ value < UInt64.size then return UInt64.ofNat value.toNat else none

/-- An unsigned number of 32 bits. -/
def word32? (document : Document) : Option UInt32 := do
  let value ← document.integer?
  if 0 ≤ value ∧ value < UInt32.size then return UInt32.ofNat value.toNat else none

/-- A signed number of 64 bits. -/
def signed64? (document : Document) : Option Int64 := do
  let value ← document.integer?
  if Int64.minValue.toInt ≤ value ∧ value ≤ Int64.maxValue.toInt then return Int64.ofInt value else none

/-- A signed number of 32 bits. -/
def signed32? (document : Document) : Option Int32 := do
  let value ← document.integer?
  if Int32.minValue.toInt ≤ value ∧ value ≤ Int32.maxValue.toInt then return Int32.ofInt value else none

/-- A list of values. -/
def listOf? {α : Type} (decode? : Document → Option α) (document : Document) : Option (List α) :=
  document.items?.bind fun items => items.mapM decode?

/-- A pair of values, written as a list of two. -/
def pairOf? {α β : Type} (first? : Document → Option α) (second? : Document → Option β) :
    Document → Option (α × β)
  | .list [first, second] => do
    let first ← first? first
    let second ← second? second
    return (first, second)
  | _ => none

/-- A date-time, written as a string. -/
def dateTime? (document : Document) : Option DateTime :=
  document.text?.bind DateTime.ofString?

end Community.Json
