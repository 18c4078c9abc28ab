import Schemata.Lexeme.Escape

/-! # Faults

A fault is an error in what a reader was asked to do, or a limit that a text exceeds. Unlike a syntax
error it has no place in the text.
-/

namespace Schemata

/-- What stops a reader for good, whatever other choices are left. -/
inductive Fault where
  /-- A decimal escape has more digits than are converted. -/
  | oversizedNumber (digits : Nat)
  /-- A column was to be built without a name. -/
  | emptyColumnName
  /-- A word or a symbol of no characters was asked for. -/
  | emptyToken
  /-- A character before the start of the text was asked for. -/
  | beforeStart
  /-- Calls are nested deeper than the reader follows them. -/
  | tooDeep
  /-- A repetition went on for longer than the text can feed it. -/
  | stalled
deriving DecidableEq, Repr

def Fault.message : Fault → Text
  | oversizedNumber digits =>
    text "Exceeds the limit (" ++ Text.ofNat Escape.maxDecimalDigits
      ++ text " digits) for integer string conversion: value has " ++ Text.ofNat digits
      ++ text " digits; use sys.set_int_max_str_digits() to increase the limit"
  | emptyColumnName => "Column name must not be empty"
  | emptyToken | beforeStart => "string index out of range"
  | tooDeep => "maximum recursion depth exceeded"
  | stalled => "no progress"

end Schemata
