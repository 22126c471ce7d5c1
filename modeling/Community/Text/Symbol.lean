/-
This file reads bytes as text that may be broken. Bytes that form a character become that character;
a byte that begins no character stays behind as itself. Text that is whole has no such stray byte, and
whoever needs a piece of text asks for it by `wholeText?`, which refuses a piece with a stray byte.
-/

namespace Community.Text

/-- A character, or a byte that belongs to none. -/
inductive Symbol where
  | char (c : Char)
  | stray (byte : UInt8)
  deriving DecidableEq, Repr

/-- The symbols of the bytes from a position on; `fuel` bounds their number. -/
def symbolsFrom (bytes : ByteArray) : Nat → Nat → List Symbol
  | 0, _ => []
  | fuel + 1, position =>
    match bytes.utf8DecodeChar? position with
    | some c => .char c :: symbolsFrom bytes fuel (position + c.utf8Size)
    | none =>
      if inside : position < bytes.size then
        .stray bytes[position] :: symbolsFrom bytes fuel (position + 1)
      else
        []

/-- The symbols that a whole text consists of. -/
def symbolsOfString (text : String) : List Symbol :=
  text.toList.map .char

/-- The symbols that bytes stand for, read from the left. -/
def symbolsOfBytes (bytes : ByteArray) : List Symbol :=
  match String.fromUTF8? bytes with
  | some text => symbolsOfString text
  | none => symbolsFrom bytes bytes.size 0

/-- The characters of symbols without a stray byte. -/
def wholeText? : List Symbol → Option (List Char)
  | [] => some []
  | .char c :: rest => (wholeText? rest).map (c :: ·)
  | .stray _ :: _ => none

end Community.Text
