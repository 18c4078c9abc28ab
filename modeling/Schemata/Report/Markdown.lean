import Schemata.Report.Basic
import Schemata.Report.Format

/-! # Reports as Markdown

A table with a row for each statement, then a section for each table of the schema, with a row for each
of its columns. Vertical bars are escaped in descriptions of statements, and nowhere else.
-/

namespace Schemata.Report

/-- A row of a Markdown table. -/
def row (cells : List Text) : Text :=
  text "| " ++ Text.join " | " cells ++ text " |"

def checkMark (flag : Bool) : Text := if flag then "✓" else []

/-- A row of the statement table. A vertical bar in the description is escaped. -/
def statementRow (number : Nat) (statement : Statement) : Text :=
  row [Text.ofNat number, statement.kind, Text.replace '|' "\\|" statement.describe]

/-- A row of a column table; its cells are shown as they are. -/
def columnRow (column : Column) : Except ReportError Text := do
  let default? ← column.formatDefault?
  return row [column.name, column.type.format, default?.getD [], checkMark column.primaryKey,
    checkMark column.notNull, checkMark column.unique]

/-- The section of a table: its name, and a table of its columns if it has any. -/
def tableLines (name : Text) (columns : List Column) : Except ReportError (List Text) := do
  let rows ← columns.mapM columnRow
  let body :=
    if columns.isEmpty then [text "_нет колонок_"]
    else
      [row ["Колонка", "Тип", "DEFAULT", "PK", "NOT NULL", "UNIQUE"],
       text "|---------|-----|---------|----|----------|--------|"] ++ rows
  return [[], text "## " ++ name, []] ++ body

/-- The section of a statement that creates a table. -/
def sectionLines : Statement → Except ReportError (List Text)
  | .createTable name columns => tableLines name columns
  | _ => .ok []

def asMarkdown (report : Report) : Except ReportError Text := do
  let rows := report.numbered.map fun (number, statement) => statementRow number statement
  let sections ← report.statements.mapM sectionLines
  return Text.join "\n"
    ([text "# Схема \x60" ++ report.source.title ++ text "\x60", [],
      row ["#", "Оператор", "Описание"], text "|---|----------|----------|"]
      ++ rows ++ sections.flatten)

end Schemata.Report
