import Schemata.CommandLine.Arguments

/-! # Running the program

A run reads a schema file and reports on it, to standard output or to a file. A schema that cannot be
read or is rejected ends the run with a message and exit code 1. What goes wrong later, when the report
is written, is passed on as it is. Log lines are shown only if they are asked for.
-/

namespace Schemata.CommandLine

/-- What a run leaves behind besides files. -/
structure Output where
  exitCode : Nat
  out : Text
  err : Text
deriving DecidableEq, Repr

/-- What ends a run without an exit code of its own. -/
inductive Breakdown where
  | invalidPath
  | fault (fault : Fault)
  | report (error : ReportError)
  | write (error : WriteError)
deriving DecidableEq, Repr

/-- Writes a report to a file if one is named; otherwise the report itself is the answer. -/
def deliver (tree : FileTree) (file : Option Text) (report : Text) :
    Except WriteError (Text × FileTree) :=
  match file.filter (· ≠ []) with
  | none => .ok (report, tree)
  | some path => (tree.save (.ofText path) report).map ([], ·)

/-- What a report names as its source: the path as it was given. -/
def Settings.source (settings : Settings) : ReportSource :=
  match settings.schema with
  | some path => .named path
  | none => .withheld

/-- Text as a program prints it, with the end of the line. -/
def printed (t : Text) : Text := t ++ text "\n"

def showLog (settings : Settings) (log : List LogLine) : Text :=
  if settings.verbose then log.flatMap fun line => printed line.toText else []

def execute (settings : Settings) (timestamp : Text) (tree : FileTree) :
    Except Breakdown (Output × FileTree) :=
  let loaded := loadSchema tree (some defaultSchemaPath) settings.schema
  let stop (message : Text) : Except Breakdown (Output × FileTree) :=
    .ok (⟨1, [], showLog settings loaded.log ++ printed message⟩, tree)
  match loaded.result with
  | .error (.read .invalidPath) => .error .invalidPath
  | .error (.read (.unread error)) => stop error.message
  | .error (.rejected (.unexpected error)) => stop error.pretty
  | .error (.rejected (.tooDeep error)) => stop error.pretty
  | .error (.rejected (.fault fault)) => .error (.fault fault)
  | .ok statements => do
    let report : Report := ⟨timestamp, .standard, settings.source, statements⟩
    let content ← (report.write settings.format).mapError Breakdown.report
    let (shown, written) ← (deliver tree settings.out content).mapError Breakdown.write
    let closing : LogLine :=
      ⟨.info, "schema_sql", text "Parsed " ++ Text.ofNat statements.length ++ text " statements"⟩
    return (⟨0, if shown.isEmpty then [] else printed shown,
      showLog settings (loaded.log ++ [closing])⟩, written)

end Schemata.CommandLine
