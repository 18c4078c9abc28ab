import Schemata.Text.Word

/-! # Escapes in quoted texts

After a backslash stand a letter for a control character, the backslash or a quote itself, `&` for
nothing at all, or the number of a code point: in decimal digits, in hexadecimal digits after `x`, or
in octal digits after `o`. The longest run of digits counts. `&` separates a number from a digit that
follows it.
-/

namespace Schemata

/-- The radix of a numeric escape. -/
inductive Radix where
  | octal
  | decimal
  | hexadecimal
deriving DecidableEq, Repr

namespace Radix

def base : Radix → Nat
  | octal => 8
  | decimal => 10
  | hexadecimal => 16

/-- The value of an ASCII digit below the base. -/
def digit? (radix : Radix) (c : CodePoint) : Option Nat :=
  let value :=
    if c.isAsciiDigit then some (c.val - '0'.toNat)
    else if c.isAsciiLower then some (c.val - 'a'.toNat + 10)
    else if c.isAsciiUpper then some (c.val - 'A'.toNat + 10)
    else none
  value.filter (· < radix.base)

/-- The longest run of digits at the start. -/
def run (radix : Radix) (t : Text) : Text := t.takeWhile fun c => (radix.digit? c).isSome

/-- The number that a run of digits spells. -/
def value (radix : Radix) (digits : Text) : Nat :=
  digits.foldl (fun n c => n * radix.base + (radix.digit? c).getD 0) 0

end Radix

/-- What an escape stands for, and how many code points after the backslash spell it. -/
structure Escape where
  value : Text
  length : Nat
deriving DecidableEq, Repr

namespace Escape

/-- Why no escape can be read: it is malformed at a distance from the backslash, or it is a decimal
number of too many digits. -/
inductive Fault where
  | malformed (distance : Nat)
  | oversized (digits : Nat)
deriving DecidableEq, Repr

/-- Decimal numbers of more digits than this are refused, leading zeros included. -/
def maxDecimalDigits : Nat := 4300

/-- The escapes of one character. -/
def single? (c : CodePoint) : Option Text :=
  if c = 'a' then some ['\x07']
  else if c = 'b' then some ['\x08']
  else if c = 'f' then some ['\x0C']
  else if c = 'n' then some ['\n']
  else if c = 'r' then some ['\r']
  else if c = 't' then some ['\t']
  else if c = 'v' then some ['\x0B']
  else if c = '\\' || c = '\'' || c = '"' then some [c]
  else if c = '&' then some []
  else none

/-- A number whose digits start at a distance from the backslash. -/
def numeric (radix : Radix) (distance : Nat) (t : Text) : Except Fault Escape :=
  let digits := radix.run t
  if digits.isEmpty then .error (.malformed distance)
  else if radix = .decimal ∧ maxDecimalDigits < digits.length then
    .error (.oversized digits.length)
  else
    match CodePoint.ofNat? (radix.value digits) with
    | none => .error (.malformed distance)
    | some c => .ok ⟨[c], distance + digits.length⟩

/-- Reads the escape at the start of the text after a backslash. -/
def read : Text → Except Fault Escape
  | [] => .error (.malformed 0)
  | c :: rest =>
    match single? c with
    | some value => .ok ⟨value, 1⟩
    | none =>
      if c = 'x' then numeric .hexadecimal 1 rest
      else if c = 'o' then numeric .octal 1 rest
      else numeric .decimal 0 (c :: rest)

end Escape

end Schemata
