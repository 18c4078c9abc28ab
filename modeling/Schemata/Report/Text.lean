import Schemata.Report.Basic
import Schemata.Report.Format

/-! # Reports as text

A heading with the source and the number of statements, then a numbered line for each statement; the
columns of a table follow it, indented.
-/

namespace Schemata.Report

/-- A numbered line for a statement, and below it a line for each column of a table. -/
def textLines (number : Nat) (statement : Statement) : Except ReportError (List Text) := do
  let heading := Text.ofNat number ++ text ". " ++ statement.describe
  match statement with
  | .createTable _ columns => do
    let shown ← columns.mapM Column.describe
    return heading :: shown.map (text "     - " ++ ·)
  | _ => return [heading]

def asText (report : Report) : Except ReportError Text := do
  let rule := List.replicate 70 (CodePoint.ofChar '=')
  let body ← report.numbered.mapM fun (number, statement) => textLines number statement
  return Text.join "\n"
    ([rule, text "СХЕМА: " ++ report.source.title, rule,
      text "Операторов: " ++ Text.ofNat report.statements.length, []] ++ body.flatten)

end Schemata.Report
