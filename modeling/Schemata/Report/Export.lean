import Schemata.Plain.Json
import Schemata.Report.Markdown
import Schemata.Report.Text
import Schemata.Text.Blank
import Schemata.Text.Uppercase

/-! # Report formats

A report is written as JSON, as text or as Markdown. The name of a format is read regardless of case
and of blanks around it.
-/

namespace Schemata

/-- The formats in which a report is written. -/
inductive OutputFormat where
  | json
  | text
  | markdown
deriving DecidableEq, Repr

namespace OutputFormat

def all : List OutputFormat := [json, text, markdown]

def name : OutputFormat → Text
  | json => "json"
  | text => "text"
  | markdown => "markdown"

/-- The format of a name, whatever its case and the blanks around it. -/
def ofName? (t : Text) : Option OutputFormat :=
  all.find? (·.name = Text.trim (Text.asciiLower t))

theorem ofName?_name (format : OutputFormat) : ofName? format.name = some format := by
  cases format <;> decide

/-- The format of a name that may be missing or empty; JSON is meant then. -/
def resolve (given : Option Text) : Except ReportError OutputFormat :=
  match given.filter (· ≠ []) with
  | none => .ok json
  | some t =>
    match ofName? t with
    | some format => .ok format
    | none => .error (.unknownFormat t)

end OutputFormat

namespace Report

/-- JSON text of all that the report holds. -/
def asJson (report : Report) : Except ReportError Text :=
  match report.toPlain.unwritable? with
  | some typeName => .error (.unwritable typeName)
  | none => .ok report.toPlain.json

def write (report : Report) : OutputFormat → Except ReportError Text
  | .json => report.asJson
  | .text => report.asText
  | .markdown => report.asMarkdown

/-- Writes a report in a format given by name. -/
def writeAs (report : Report) (format : Option Text) : Except ReportError Text := do
  report.write (← OutputFormat.resolve format)

end Report

namespace ReportError

def message : ReportError → Text
  | unknownExpression value => text "Unknown expression: " ++ value.display
  | unknownFormat name =>
    text "Неподдерживаемый формат: " ++ name ++ text ". Доступные: "
      ++ Text.join ", " (OutputFormat.all.map OutputFormat.name)
  | unwritable typeName =>
    text "Object of type " ++ typeName ++ text " is not JSON serializable"

end ReportError

end Schemata
