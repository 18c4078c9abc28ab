import Schemata.Text.Blank

/-! # Layout between tokens

Layout is what may stand between two tokens: blanks, line comments from `//` up to the end of the
line, and block comments from `/*` up to the first `*/` after it. `Layout.length?` measures the
longest layout at the start of a text. It has no answer if that layout runs into a block comment that
is never closed.
-/

namespace Schemata.Layout

/-- What the measured piece of layout is part of. -/
inductive Mode where
  | between
  | line
  | block
deriving DecidableEq, Repr

/-- Counts the code points of the layout that goes on at the start of the text. -/
def measure? : Mode → Text → Option Nat
  | .between, [] => some 0
  | .between, [c] => some (if c.isBlank then 1 else 0)
  | .between, c :: d :: rest =>
    if c.isBlank then (measure? .between (d :: rest)).map (· + 1)
    else if c = '/' ∧ d = '/' then (measure? .line rest).map (· + 2)
    else if c = '/' ∧ d = '*' then (measure? .block rest).map (· + 2)
    else some 0
  | .line, [] => some 0
  | .line, c :: rest => (measure? (if c = '\n' then .between else .line) rest).map (· + 1)
  | .block, [] => none
  | .block, [_] => none
  | .block, c :: d :: rest =>
    if c = '*' ∧ d = '/' then (measure? .between rest).map (· + 2)
    else (measure? .block (d :: rest)).map (· + 1)

/-- The length of the longest layout at the start, unless it ends inside a block comment. -/
def length? (t : Text) : Option Nat := measure? .between t

theorem measure?_le {mode : Mode} {t : Text} {n : Nat} (measured : measure? mode t = some n) :
    n ≤ t.length := by
  fun_induction measure? mode t generalizing n <;>
    simp_all only [Option.map_eq_some_iff, Option.some.injEq, reduceCtorEq, List.length_cons,
      List.length_nil] <;> grind

theorem length?_le {t : Text} {n : Nat} (measured : length? t = some n) : n ≤ t.length :=
  measure?_le measured

end Schemata.Layout
