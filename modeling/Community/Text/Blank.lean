/-
This file decides which characters are blank, by the Unicode property `White_Space`, and strips them
from text. The property is wider than the blanks of ASCII (it has the no-break space and the ideographic
space) and narrower than "no visible form" (it lacks the zero-width space).
-/

import Community.Text.CodeTable

namespace Community.Text

/-- The ranges of the Unicode property `White_Space`. -/
def blankRanges : List CodeRange :=
  [(0x9, 0xd), (0x20, 0x20), (0x85, 0x85), (0xa0, 0xa0), (0x1680, 0x1680), (0x2000, 0x200a),
    (0x2028, 0x2029), (0x202f, 0x202f), (0x205f, 0x205f), (0x3000, 0x3000)]

/-- Is the character blank? -/
def isBlank (c : Char) : Bool :=
  within blankRanges c

/-- The text from its first character that is not blank. -/
def skipBlanks (text : List Char) : List Char :=
  text.dropWhile isBlank

/-- The text without blanks at either end. -/
def trim (text : List Char) : List Char :=
  (skipBlanks (skipBlanks text).reverse).reverse

theorem skipBlanks_of_not_blank {c : Char} {rest : List Char} (visible : isBlank c = false) :
    skipBlanks (c :: rest) = c :: rest := by
  simp [skipBlanks, visible]

end Community.Text
