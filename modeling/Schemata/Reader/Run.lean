import Schemata.Error.Syntax
import Schemata.Reader.Token
import Schemata.Source.Fragment
import Schemata.Source.Place

/-! # Running a reader on a text

A run starts at the first token of a text. Where the reader fails, the run is rejected with a syntax
error at the frontier of its expectations. Calls nested too deep are a syntax error as well; any other
fault is passed on as it is.
-/

namespace Schemata

/-- Why a text is not accepted. -/
inductive Rejection where
  | unexpected (error : SyntaxError)
  | tooDeep (error : SyntaxError)
  | fault (fault : Fault)
deriving DecidableEq, Repr

/-- The result of a run and the remarks made on the way, in order. -/
structure Run (α : Type) where
  result : Except Rejection α
  remarks : List Text

namespace Reader

variable {α : Type}

/-- Where a failure is found, and where it is reported. -/
def frontierOffsets (s : State) : Nat × Nat :=
  if s.frontier.furthest < 0 then (s.cursor.offset, s.cursor.offset)
  else (s.frontier.furthest.toNat, s.frontier.report)

/-- The syntax error that the expectations so far amount to. -/
def diagnose (sourceName source : Text) (s : State) : SyntaxError :=
  let (furthest, report) := frontierOffsets s
  let place := Source.place source report
  { sourceName := sourceName
    offset := report
    line := place.line
    column := place.column
    expected := s.frontier.expected
    found := some (Source.describe source furthest)
    sourceLine := Source.lineText source report
    fragment := Source.fragment? source report }

def expectShallower : Reader Unit := expectHere (some "less deeply nested expression")

/-- Reads from the first token on. -/
def fromStart (p : Reader α) : Reader α := do
  skipLeading
  p

/-- Reads a whole text. -/
def whole (p : Reader α) : Reader α := do
  let value ← p
  if ← atEnd then pure value else failHere (some "end of input")

def run (p : Reader α) (sourceName source : Text) : Run α :=
  match fromStart p source State.start with
  | (.ok value, s) => ⟨.ok value, s.remarks.reverse⟩
  | (.error (.fault .tooDeep), s) =>
    let error := diagnose sourceName source (expectShallower source s).2
    ⟨.error (.tooDeep error), s.remarks.reverse ++ [text "Nesting too deep: " ++ error.message]⟩
  | (.error (.fault fault), s) => ⟨.error (.fault fault), s.remarks.reverse⟩
  | (.error _, s) =>
    let error := diagnose sourceName source s
    ⟨.error (.unexpected error), s.remarks.reverse ++ [text "Syntax error: " ++ error.message]⟩

end Reader

end Schemata
