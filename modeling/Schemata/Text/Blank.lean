import Schemata.Text.Basic

/-! # Blank code points

A blank is any code point that Unicode counts as white space for splitting words, or that ends a
line or a paragraph: twenty-nine of them. U+200B, U+180E and U+FEFF are not blank.
-/

namespace Schemata

def blankRanges : List (Nat × Nat) :=
  [(0x09, 0x0D), (0x1C, 0x20), (0x85, 0x85), (0xA0, 0xA0), (0x1680, 0x1680), (0x2000, 0x200A),
   (0x2028, 0x2029), (0x202F, 0x202F), (0x205F, 0x205F), (0x3000, 0x3000)]

def CodePoint.isBlank (c : CodePoint) : Bool := c.within blankRanges

namespace Text

def isBlank (t : Text) : Bool := t.all CodePoint.isBlank

/-- Drops the blanks at both ends. -/
def trim (t : Text) : Text := dropRight CodePoint.isBlank (t.dropWhile CodePoint.isBlank)

/-- The last line of a text without the blanks at its ends. Only the line feed ends a line. -/
def lastLine (t : Text) : Text := afterLast '\n' t.trim

end Text

end Schemata
