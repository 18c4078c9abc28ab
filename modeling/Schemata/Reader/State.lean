import Schemata.Text.Basic

/-! # What a reader keeps track of

A reader moves a cursor over a source text. Besides its offset, the cursor holds the end of the last
token, before the layout that was skipped after it. A reader that gives up a choice moves the cursor
back; what it expected to read stays on record, so that a failure can later be explained by what was
expected farthest into the text.
-/

namespace Schemata

structure Cursor where
  offset : Nat
  tokenEnd : Nat
deriving DecidableEq, Repr

/-- Something was expected at an offset while the reader stood at a cursor. A negative offset lies
before the text, where nothing is found. -/
structure Expectation where
  label : Option Text
  offset : Int
  cursor : Cursor
deriving DecidableEq, Repr

namespace Expectation

/-- Where the expectation is reported: right after the last token if it was met at the cursor, so that
the layout after that token is not blamed. -/
def report (e : Expectation) : Nat :=
  if e.offset = e.cursor.offset then e.cursor.tokenEnd else e.offset.toNat

/-- The label, unless it is missing or empty. -/
def label? (e : Expectation) : Option Text := e.label.filter (· ≠ [])

end Expectation

/-- The cursor, all expectations so far and all remarks so far, both latest first. -/
structure State where
  cursor : Cursor
  expectations : List Expectation
  remarks : List Text
deriving DecidableEq, Repr

def State.start : State := ⟨⟨0, 0⟩, [], []⟩

/-- The expectations met farthest into the text, in the order in which they were first met. The
frontier starts right before the text. -/
structure Frontier where
  furthest : Int
  report : Nat
  expected : List Text
deriving DecidableEq, Repr

namespace Frontier

def start : Frontier := ⟨-1, 0, []⟩

/-- A farther expectation opens a new frontier; an earlier one does not count. -/
def advance (f : Frontier) (e : Expectation) : Frontier :=
  if f.furthest < e.offset then ⟨e.offset, e.report, []⟩ else f

def addLabel (f : Frontier) (t : Text) : Frontier :=
  if t ∈ f.expected then f else { f with expected := f.expected ++ [t] }

def add (f : Frontier) (e : Expectation) : Frontier :=
  let f := f.advance e
  match e.label? with
  | some t => if f.furthest = e.offset then f.addLabel t else f
  | none => f

/-- The frontier of expectations given latest first. -/
def of (expectations : List Expectation) : Frontier :=
  expectations.foldr (fun e f => f.add e) start

@[simp] theorem of_nil : of [] = start := rfl

@[simp] theorem of_cons (e : Expectation) (earlier : List Expectation) :
    of (e :: earlier) = (of earlier).add e := rfl

end Frontier

def State.frontier (s : State) : Frontier := Frontier.of s.expectations

end Schemata
