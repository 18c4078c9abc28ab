import Schemata.Reader.Repeat
import Schemata.Schema.Basic

/-! # Expressions

An expression is a name, a call of a name with arguments in parentheses, or a text literal. Calls are
followed down to a nesting limit; a call nested deeper is refused.
-/

namespace Schemata.Reader

/-- The number of nested calls that are followed. -/
def nestingLimit : Nat := 1000

/-- Reads an expression of a nesting below the limit. -/
def expression : (limit : Nat) → Reader Expression
  | 0 => refuse .tooDeep
  | limit + 1 => do
    match ← recover (some <$> identifier) (pure none) with
    | none => return .literal (← stringLiteral)
    | some name =>
      if ← isPresent (symbol "(") then
        if ← isPresent (symbol ")") then
          pure (.call name [])
        else
          let first ← expression limit
          let rest ← others "," (expression limit)
          let _ ← symbol ")"
          pure (.call name (first :: rest))
      else
        pure (.var name)

end Schemata.Reader
