import Schemata.Text.UppercaseTable
import Schemata.Text.Word

/-! # Upper-casing

Words of the grammar are compared by their upper-case forms. A code point may have an upper-case
form of several code points: the ligature U+FB02 becomes `FL`.
-/

namespace Schemata

def CaseRun.upper? (run : CaseRun) (n : Nat) : Option Nat :=
  if run.first ≤ n && n ≤ run.last && (n - run.first) % run.stride = 0 then
    some (run.target + (n - run.first))
  else none

namespace CodePoint

/-- The numbers of the upper-case form of a code point from U+0080 on. -/
def upperNumbers (n : Nat) : List Nat :=
  match uppercaseExpansions.lookup n with
  | some form => form
  | none => [(uppercaseRuns.findSome? (·.upper? n)).getD n]

/-- The upper-case form: never empty, and of more than one code point for a few. -/
def upper (c : CodePoint) : Text :=
  if c.val < 0x80 then
    if c.isAsciiLower then (ofNat? (c.val - 0x20)).toList else [c]
  else (upperNumbers c.val).filterMap ofNat?

/-- The lower-case form as far as ASCII letters are concerned: besides the capital ASCII letters,
only the Kelvin sign has a lower-case form made of ASCII letters alone. -/
def asciiLower (c : CodePoint) : CodePoint :=
  if c.isAsciiUpper then (ofNat? (c.val + 0x20)).getD c
  else if c.val = 0x212A then 'k'
  else c

end CodePoint

def Text.upper (t : Text) : Text := t.flatMap CodePoint.upper

def Text.asciiLower (t : Text) : Text := t.map CodePoint.asciiLower

end Schemata
