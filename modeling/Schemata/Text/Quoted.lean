import Schemata.Text.UnprintableRanges
import Schemata.Text.Basic

/-! # Texts quoted for a message

A message shows a foreign text in single quotes, or in double quotes if it holds a single quote and
no double quote. Backslash, the chosen quote and every code point without a printed form are escaped,
so that the message stays on one line.
-/

namespace Schemata

namespace CodePoint

def isPrintable (c : CodePoint) : Bool := !c.within unprintableRanges

/-- Hexadecimal digits in lower case, padded to a width. -/
def hex (width n : Nat) : Text :=
  let digits := (Nat.toDigits 16 n).map CodePoint.ofChar
  List.replicate (width - digits.length) (ofChar '0') ++ digits

def quotedForm (quote c : CodePoint) : Text :=
  if c = '\\' || c = quote then ['\\', c]
  else if c = '\n' then text "\\n"
  else if c = '\r' then text "\\r"
  else if c = '\t' then text "\\t"
  else if c.isPrintable then [c]
  else if c.val < 0x100 then text "\\x" ++ hex 2 c.val
  else if c.val < 0x10000 then text "\\u" ++ hex 4 c.val
  else text "\\U" ++ hex 8 c.val

end CodePoint

namespace Text

def quoteFor (t : Text) : CodePoint :=
  if t.contains (CodePoint.ofChar '\'') && !t.contains (CodePoint.ofChar '"') then '"' else '\''

def quoted (t : Text) : Text :=
  let quote := t.quoteFor
  [quote] ++ t.flatMap (CodePoint.quotedForm quote) ++ [quote]

end Text

end Schemata
