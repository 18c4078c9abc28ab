import Schemata.Source.Span
import Schemata.Text.Blank

/-! # The statement around an offset

A message about a schema shows the statement in which an offset lies. Semicolons alone delimit a window:
`Source.window` reaches from after the last semicolon before the offset to the first one from the
offset on. Where that is blank, the offset lies after the last statement, and the window that ends
with the semicolon before it is taken instead. A splitter then cuts the window into statements. The
fragment is the one that the offset lies in, trimmed, and at most two hundred code points long.
-/

namespace Schemata

namespace Source

/-- The text between the semicolons around an offset, with the closing one. -/
structure Window where
  start : Nat
  content : Text
deriving DecidableEq, Repr

/-- The part of a text up to the first semicolon, with it. -/
def throughSemicolon (t : Text) : Text := t.take ((Text.before ';' t).length + 1)

def window (source : Text) (offset : Nat) : Window :=
  let passed := source.take offset
  let head := Text.afterLast ';' passed
  { start := passed.length - head.length
    content := head ++ throughSemicolon (source.drop offset) }

/-- The window of an offset, or the one before it where that is blank. -/
def filledWindow (source : Text) (offset : Nat) : Window :=
  let here := window source offset
  if Text.isBlank here.content then window source (here.start - 1) else here

/-- The statement of a window in which an offset lies. It is the whole window where the offset lies in none,
or where the splitter gives up. -/
def Window.statement (split : Splitter) (window : Window) (offset : Nat) : Text :=
  let spans := (split.spans? window.content).getD []
  let distance := offset - window.start
  match spans.find? fun span => span.start ≤ distance && distance < span.stop with
  | some span => span.content
  | none => window.content

def maxFragment : Nat := 200

/-- Cuts a long text and marks the cut. -/
def shorten (t : Text) : Text :=
  if maxFragment < t.length then t.take (maxFragment - 3) ++ text "..." else t

/-- The statement around an offset, by a splitter; a blank text has none. -/
def fragmentBy? (split : Splitter) (source : Text) (offset : Nat) : Option Text :=
  if Text.isBlank source then none
  else
    let shown := shorten (Text.trim ((filledWindow source offset).statement split offset))
    if shown.isEmpty then none else some shown

/-- The statement around an offset, as messages show it. The window is taken for one statement: it has no
semicolon but its last code point, and a splitter that cuts only behind semicolons gives it back whole. A
splitter that cuts elsewhere too may find a shorter statement. -/
def fragment? (source : Text) (offset : Nat) : Option Text := fragmentBy? .whole source offset

end Source

end Schemata
