/-
This file quotes text for a message. The quoted form stands between double quotes and shows every
character: those with a visible form of their own as they are, a few by a letter after a backslash, and
the rest by their code point, so that a reader can tell apart names that would print alike.
-/

import Community.Text.CodeTable

namespace Community.Text

/-- A number in hexadecimal digits, lower case, without padding. -/
def hexadecimal (value : Nat) : String :=
  String.ofList (Nat.toDigits 16 value)

/-- Must the character be shown by its code point? Either it has no visible form, or it would join
the character before it. -/
def needsCodePoint (c : Char) : Bool :=
  within invisibleRanges c || within extendingRanges c

/-- How one character is shown between quotes. -/
def quoteChar (c : Char) : String :=
  if c = '"' then "\\\""
  else if c = '\\' then "\\\\"
  else if c = '\n' then "\\n"
  else if c = '\r' then "\\r"
  else if c = '\t' then "\\t"
  else if c = '\x00' then "\\0"
  else if needsCodePoint c then "\\u\x7b" ++ hexadecimal c.toNat ++ "\x7d"
  else c.toString

/-- The text between double quotes, with every character shown. -/
def quote (text : String) : String :=
  "\"" ++ String.join (text.toList.map quoteChar) ++ "\""

end Community.Text
