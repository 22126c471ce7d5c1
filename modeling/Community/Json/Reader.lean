/-
This file reads a JSON text. The grammar is the strict one: no comments, no commas at an end, no leading
zeros, no control characters inside a string, nothing after the value but blanks. The reader checks that
every string closes and that every escape in it is one of the grammar; what a string is worth is for
the document to tell.
-/

import Community.Json.Document

namespace Community.Json

open Community.Text

/-! ### Words of the grammar -/

/-- Is the symbol one of the four blanks of the grammar? -/
def isSpace (symbol : Symbol) : Bool :=
  symbol = .char ' ' || symbol = .char '\n' || symbol = .char '\r' || symbol = .char '\t'

/-- The symbols from the first that is not blank. -/
def skipSpace (symbols : List Symbol) : List Symbol :=
  symbols.dropWhile isSpace

/-- The symbols after a word, if they begin with it. -/
def afterWord? : List Char → List Symbol → Option (List Symbol)
  | [], symbols => some symbols
  | c :: word, .char d :: rest => if c = d then afterWord? word rest else none
  | _ :: _, _ => none

/-- The value of a decimal digit. -/
def digit? : Symbol → Option Nat
  | .char c => if '0' ≤ c ∧ c ≤ '9' then some (c.toNat - '0'.toNat) else none
  | .stray _ => none

/-- The digits at the front, and what follows them. -/
def readDigits : List Symbol → List Nat × List Symbol
  | [] => ([], [])
  | symbol :: rest =>
    match digit? symbol with
    | some digit => (digit :: (readDigits rest).1, (readDigits rest).2)
    | none => ([], symbol :: rest)

/-- The digits at the front, of which there must be one. -/
def readSomeDigits? (symbols : List Symbol) : Option (List Nat × List Symbol) :=
  match readDigits symbols with
  | ([], _) => none
  | digits => some digits

/-- The digits of a whole part: a single zero, or digits that do not begin with one. -/
def readWhole? (symbols : List Symbol) : Option (List Nat × List Symbol) :=
  match symbols with
  | .char '0' :: rest => some ([0], rest)
  | _ => readSomeDigits? symbols

/-- The digits after a point, if there is a point. -/
def readFraction? : List Symbol → Option (List Nat × List Symbol)
  | .char '.' :: rest => readSomeDigits? rest
  | symbols => some ([], symbols)

/-- The sign and the digits after an exponent's letter, if there is one. -/
def readExponent? (symbols : List Symbol) : Option (Option (Bool × List Nat) × List Symbol) :=
  let signed : List Symbol → Option (Option (Bool × List Nat) × List Symbol)
    | .char '-' :: rest => (readSomeDigits? rest).map fun (digits, rest) => (some (true, digits), rest)
    | .char '+' :: rest => (readSomeDigits? rest).map fun (digits, rest) => (some (false, digits), rest)
    | rest => (readSomeDigits? rest).map fun (digits, rest) => (some (false, digits), rest)
  match symbols with
  | .char 'e' :: rest => signed rest
  | .char 'E' :: rest => signed rest
  | _ => some (none, symbols)

/-- A number, from the sign on. -/
def readNumeral? (symbols : List Symbol) : Option (Numeral × List Symbol) := do
  let (negative, rest) :=
    match symbols with
    | .char '-' :: rest => (true, rest)
    | _ => (false, symbols)
  let (whole, rest) ← readWhole? rest
  let (fraction, rest) ← readFraction? rest
  let (exponent, rest) ← readExponent? rest
  return (⟨negative, whole, fraction, exponent⟩, rest)

/-- The raw symbols of a string whose opening quote has been read, and what follows its closing quote.
A backslash must begin an escape of the grammar. -/
def readRaw? : List Symbol → Option (List Symbol × List Symbol)
  | [] => none
  | .char '"' :: rest => some ([], rest)
  | .char '\\' :: .char 'u' :: a :: b :: c :: d :: rest =>
    if (codeUnit? a b c d).isSome then
      (readRaw? rest).map fun (raw, rest) =>
        (.char '\\' :: .char 'u' :: a :: b :: c :: d :: raw, rest)
    else
      none
  | .char '\\' :: .char letter :: rest =>
    if (escapedChar? letter).isSome then
      (readRaw? rest).map fun (raw, rest) => (.char '\\' :: .char letter :: raw, rest)
    else
      none
  | .char c :: rest =>
    if c = '\\' ∨ c.toNat < 0x20 then none
    else (readRaw? rest).map fun (raw, rest) => (.char c :: raw, rest)
  | .stray byte :: rest => (readRaw? rest).map fun (raw, rest) => (.stray byte :: raw, rest)

/-! ### Values

Every call spends one unit of fuel, and between two calls at the same position there is one symbol read,
so twice the number of symbols is enough for any text. -/

mutual

/-- A value, at its first symbol or at a blank before it. -/
def readValue? : Nat → List Symbol → Option (Document × List Symbol)
  | 0, _ => none
  | fuel + 1, symbols =>
    match skipSpace symbols with
    | .char '\x7b' :: rest =>
      match skipSpace rest with
      | .char '\x7d' :: rest => some (.members [], rest)
      | rest => (readMembers? fuel rest).map fun (entries, rest) => (.members entries, rest)
    | .char '[' :: rest =>
      match skipSpace rest with
      | .char ']' :: rest => some (.list [], rest)
      | rest => (readItems? fuel rest).map fun (items, rest) => (.list items, rest)
    | .char '"' :: rest => (readRaw? rest).map fun (raw, rest) => (.text raw, rest)
    | .char 't' :: rest => (afterWord? "rue".toList rest).map fun rest => (.bool true, rest)
    | .char 'f' :: rest => (afterWord? "alse".toList rest).map fun rest => (.bool false, rest)
    | .char 'n' :: rest => (afterWord? "ull".toList rest).map fun rest => (.null, rest)
    | symbols => (readNumeral? symbols).map fun (numeral, rest) => (.number numeral, rest)

/-- The items of a list, up to its closing bracket. -/
def readItems? : Nat → List Symbol → Option (List Document × List Symbol)
  | 0, _ => none
  | fuel + 1, symbols => do
    let (item, rest) ← readValue? fuel symbols
    match skipSpace rest with
    | .char ',' :: rest =>
      let (items, rest) ← readItems? fuel rest
      return (item :: items, rest)
    | .char ']' :: rest => return ([item], rest)
    | _ => none

/-- The members of an object, up to its closing brace. -/
def readMembers? : Nat → List Symbol → Option (List (List Symbol × Document) × List Symbol)
  | 0, _ => none
  | fuel + 1, symbols =>
    match skipSpace symbols with
    | .char '"' :: rest => do
      let (name, rest) ← readRaw? rest
      match skipSpace rest with
      | .char ':' :: rest =>
        let (value, rest) ← readValue? fuel rest
        match skipSpace rest with
        | .char ',' :: rest =>
          let (entries, rest) ← readMembers? fuel rest
          return ((name, value) :: entries, rest)
        | .char '\x7d' :: rest => return ([(name, value)], rest)
        | _ => none
      | _ => none
    | _ => none

end

/-- The document that symbols stand for, if they are one value and blanks around it. -/
def documentOfSymbols? (symbols : List Symbol) : Option Document := do
  let (document, rest) ← readValue? (2 * symbols.length + 2) symbols
  if skipSpace rest = [] then some document else none

/-- Reads a JSON text from its bytes. -/
def Document.ofBytes? (bytes : ByteArray) : Option Document :=
  documentOfSymbols? (symbolsOfBytes bytes)

/-- Reads a JSON text. -/
def Document.ofString? (text : String) : Option Document :=
  documentOfSymbols? (symbolsOfString text)

end Community.Json
