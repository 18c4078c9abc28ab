import Schemata.Text.Basic

/-! # The parts of a text

What splits a text into statements is no part of the library. All that is used of its answer are the texts of
the statements, in order: each is taken to start where the one before it ends.
-/

namespace Schemata

/-- Splits a text into the texts of its statements. It has no answer where it gives up on a text. -/
abbrev Splitter := Text → Option (List Text)

/-- A part of a text and the offset at which it starts. -/
structure Span where
  start : Nat
  content : Text
deriving DecidableEq, Repr

namespace Span

def stop (span : Span) : Nat := span.start + span.content.length

/-- Parts that stand one behind the other, from an offset on. -/
def series (offset : Nat) : List Text → List Span
  | [] => []
  | part :: parts => ⟨offset, part⟩ :: series (offset + part.length) parts

end Span

namespace Splitter

/-- Takes each text for one statement. -/
def whole : Splitter := fun t => some [t]

/-- The statements of a text with their places. -/
def spans? (split : Splitter) (t : Text) : Option (List Span) := (split t).map (Span.series 0)

end Splitter

end Schemata
