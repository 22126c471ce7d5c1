/-
This file describes a JSON text as it was written. A document keeps every number by its digits and
every string by the symbols between its quotes, escapes included, because what a number or a string is
worth depends on who asks: a reader of records skips members it does not know without looking inside
their strings, and reads the digits of a number as an integer or not at all.
-/

import Community.Decimal.Scientific
import Community.Text.Hex
import Community.Text.Symbol

namespace Community.Json

open Community.Text

/-- A number by its digits. The fraction has no digits when it is not written; the exponent comes with
its sign, true for a negative one. -/
structure Numeral where
  negative : Bool
  whole : List Nat
  fraction : List Nat
  exponent : Option (Bool × List Nat)
  deriving DecidableEq, Repr

/-- A JSON text as it was written; the members of an object keep their order and their repetitions. -/
inductive Document where
  | null
  | bool (value : Bool)
  | number (numeral : Numeral)
  | text (raw : List Symbol)
  | list (items : List Document)
  | members (entries : List (List Symbol × Document))
  deriving Repr

instance : Inhabited Document := ⟨.null⟩

/-! ### Numbers -/

/-- The integer a numeral stands for. A fraction or an exponent makes it something else than an
integer, whatever its value, and so does the sign of a negative zero. -/
def Numeral.integer? (numeral : Numeral) : Option Int :=
  if numeral.fraction ≠ [] ∨ numeral.exponent.isSome then none
  else
    let magnitude := Decimal.naturalOfDigits numeral.whole
    if numeral.negative then
      if magnitude = 0 then none else some (-(magnitude : Int))
    else
      some magnitude

/-! ### Strings -/

/-- The character that a letter stands for after a backslash. -/
def escapedChar? : Char → Option Char
  | '"' => some '"'
  | '\\' => some '\\'
  | '/' => some '/'
  | 'b' => some '\x08'
  | 'f' => some '\x0c'
  | 'n' => some '\n'
  | 'r' => some '\r'
  | 't' => some '\t'
  | _ => none

/-- The value of four hexadecimal digits. -/
def codeUnit? (a b c d : Symbol) : Option Nat :=
  match a, b, c, d with
  | .char a, .char b, .char c, .char d => do
    let a ← hexDigit? a
    let b ← hexDigit? b
    let c ← hexDigit? c
    let d ← hexDigit? d
    return 4096 * a + 256 * b + 16 * c + d
  | _, _, _, _ => none

/-- The text that a raw string stands for. It has none if a byte in it is stray, or if one half of a
surrogate pair stands alone. -/
def unescape? : List Symbol → Option (List Char)
  | [] => some []
  | .char '\\' :: .char 'u' :: a :: b :: c :: d :: rest =>
    match codeUnit? a b c d with
    | none => none
    | some unit =>
      if 0xD800 ≤ unit ∧ unit < 0xDC00 then
        match rest with
        | .char '\\' :: .char 'u' :: e :: f :: g :: h :: rest =>
          match codeUnit? e f g h with
          | none => none
          | some low =>
            if 0xDC00 ≤ low ∧ low < 0xE000 then
              (unescape? rest).map
                (Char.ofNat (0x10000 + 0x400 * (unit - 0xD800) + (low - 0xDC00)) :: ·)
            else
              none
        | _ => none
      else if 0xDC00 ≤ unit ∧ unit < 0xE000 then none
      else (unescape? rest).map (Char.ofNat unit :: ·)
  | .char '\\' :: .char letter :: rest =>
    match escapedChar? letter with
    | some c => (unescape? rest).map (c :: ·)
    | none => none
  | .char '\\' :: _ => none
  | .char c :: rest => (unescape? rest).map (c :: ·)
  | .stray _ :: _ => none

/-- The text that a raw string stands for, as a string. -/
def stringOfRaw? (raw : List Symbol) : Option String :=
  (unescape? raw).map String.ofList

/-! ### Levels -/

mutual

/-- How many levels of lists and objects stand in one another. -/
def Document.depth : Document → Nat
  | .list items => Document.depthOfItems items + 1
  | .members entries => Document.depthOfMembers entries + 1
  | _ => 0

/-- The greatest depth among the items of a list. -/
def Document.depthOfItems : List Document → Nat
  | [] => 0
  | item :: rest => max item.depth (Document.depthOfItems rest)

/-- The greatest depth among the values of an object's members. -/
def Document.depthOfMembers : List (List Symbol × Document) → Nat
  | [] => 0
  | (_, value) :: rest => max value.depth (Document.depthOfMembers rest)

end

/-! ### Looking into a document -/

/-- The text of a string document. -/
def Document.text? : Document → Option String
  | .text raw => stringOfRaw? raw
  | _ => none

/-- The integer of a number document. -/
def Document.integer? : Document → Option Int
  | .number numeral => numeral.integer?
  | _ => none

/-- The truth value of a document that is one. -/
def Document.bool? : Document → Option Bool
  | .bool value => some value
  | _ => none

/-- The items of a list document. -/
def Document.items? : Document → Option (List Document)
  | .list items => some items
  | _ => none

/-- The last member of an object document under a name. -/
def Document.member? (document : Document) (name : String) : Option Document :=
  match document with
  | .members entries =>
    (entries.reverse.find? fun entry => stringOfRaw? entry.1 = some name).map Prod.snd
  | _ => none

end Community.Json
