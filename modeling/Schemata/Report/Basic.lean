import Schemata.Schema.Plain

/-! # Reports

A report tells what tool made it, when and from which source; how many statements there are, in all and
of each kind; and the statements themselves, in their order.
-/

namespace Schemata

/-- What a report says of the tool that made it. A configuration may set any data for either. -/
structure Tool where
  name : Plain
  version : Plain
deriving DecidableEq, Repr

def libraryVersion : Text := "1.0.0"

def Tool.standard : Tool := ⟨.string "PostgreSQL Schema Parser", .string libraryVersion⟩

/-- What a report names as its source. -/
inductive ReportSource where
  | unknown
  /-- A source was asked for, but its name was taken away. -/
  | withheld
  | named (name : Text)
deriving DecidableEq, Repr

namespace ReportSource

def ofName? : Option Text → ReportSource
  | none => unknown
  | some name => named name

def toPlain : ReportSource → Plain
  | unknown => .null
  | withheld => .list []
  | named name => .string name

/-- The source as text and Markdown show it. -/
def title : ReportSource → Text
  | unknown | withheld | named [] => "N/A"
  | named name => name

end ReportSource

structure Report where
  timestamp : Text
  tool : Tool
  source : ReportSource
  statements : List Statement
deriving DecidableEq, Repr

namespace Report

/-- Counts one more of a kind; kinds keep the order in which they were first seen. -/
def tally (counts : List (Text × Nat)) (kind : Text) : List (Text × Nat) :=
  match counts with
  | [] => [(kind, 1)]
  | (seen, n) :: rest => if seen = kind then (seen, n + 1) :: rest else (seen, n) :: tally rest kind

/-- How many statements there are of each kind. -/
def counts (report : Report) : List (Text × Nat) :=
  (report.statements.map Statement.kind).foldl tally []

def toPlain (report : Report) : Plain :=
  .record
    [(text "metadata", .record
      [(text "timestamp", .string report.timestamp),
       (text "tool", report.tool.name),
       (text "version", report.tool.version),
       (text "source", report.source.toPlain)]),
     (text "summary", .record
      [(text "total_statements", .ofNat report.statements.length),
       (text "by_kind", .record (report.counts.map fun (kind, n) => (kind, .ofNat n)))]),
     (text "statements", .list (report.statements.map Statement.toPlain))]

/-- Statements with their numbers, counted from one. -/
def numbered (report : Report) : List (Nat × Statement) :=
  (List.range' 1 report.statements.length).zip report.statements

end Report

end Schemata
