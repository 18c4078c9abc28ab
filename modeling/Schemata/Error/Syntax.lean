import Schemata.Plain.Basic

/-! # Syntax errors

A syntax error tells where a text stops making sense, what was found there and what was expected
instead. Its message fits on one line; `SyntaxError.pretty` also shows the line of the text with a caret
under the place.
-/

namespace Schemata

structure SyntaxError where
  sourceName : Text
  offset : Int
  line : Int
  column : Int
  expected : List Text
  found : Option Text
  sourceLine : Text
  fragment : Option Text
deriving DecidableEq, Repr

/-- The alternatives of a message: `a`, `a or b`, `a, b, or c`. -/
def joinAlternatives : List Text → Text
  | [] => []
  | [a] => a
  | [a, b] => a ++ text " or " ++ b
  | a :: b :: c :: rest =>
    let alternatives := a :: b :: c :: rest
    Text.join ", " alternatives.dropLast ++ text ", or " ++ alternatives.getLast (by simp [alternatives])

namespace SyntaxError

/-- What was found, unless nothing is known of it. -/
def found? (e : SyntaxError) : Option Text := e.found.filter (· ≠ [])

/-- What was found and what was expected, as far as known. -/
def parts (e : SyntaxError) : List Text :=
  (e.found?.map (text "unexpected " ++ ·)).toList
    ++ if e.expected.isEmpty then [] else [text "expecting " ++ joinAlternatives e.expected]

/-- The place, as `name:line:column:`. -/
def heading (e : SyntaxError) : Text :=
  e.sourceName ++ text ":" ++ Text.ofInt e.line ++ text ":" ++ Text.ofInt e.column ++ text ":"

def message (e : SyntaxError) : Text :=
  e.heading ++ text " "
    ++ if e.parts.isEmpty then text "syntax error" else Text.join "; " e.parts

/-- The error with its source line and a caret below the column. -/
def pretty (e : SyntaxError) : Text :=
  let number := Text.ofInt e.line
  let gutter := Text.spaces number.length
  Text.join "\n"
    ([e.heading,
      gutter ++ text " |",
      number ++ text " | " ++ e.sourceLine,
      gutter ++ text " | " ++ Text.spaces (e.column - 1).toNat ++ text "^"] ++ e.parts)

end SyntaxError

end Schemata
