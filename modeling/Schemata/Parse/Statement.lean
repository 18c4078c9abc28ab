import Schemata.Parse.ColumnType
import Schemata.Parse.Expression

/-! # Statements

The first two words of a statement settle its kind; after them a failure is final. A comment is
settled by its two dashes and runs to the end of the line.
-/

namespace Schemata.Reader

/-- Reads `DEFAULT` and an expression. -/
def defaultValue : Reader Expression := do
  let _ ← keyword "DEFAULT"
  expression nestingLimit

/-- Reads a column: a name, a type, and in this order an optional default value and optional clauses. -/
def column : Reader Column := do
  let name ← identifier
  let type ← columnType
  let default? ← optional defaultValue
  let primaryKey ← isPresent (keywords ["PRIMARY", "KEY"])
  let notNull ← isPresent (keywords ["NOT", "NULL"])
  let unique ← isPresent (keyword "UNIQUE")
  match Column.named? name type default? primaryKey notNull unique with
  | some column => pure column
  | none => refuse .emptyColumnName

/-- Reads `ON DELETE` and one of the actions of a table. -/
def onDeleteFrom (table : List (List Text × OnDelete)) : Reader OnDelete := do
  let _ ← keywords ["ON", "DELETE"]
  choice (table.map fun (words, action) => do
    let _ ← keywordsAs false words
    pure action)

def onDelete : Reader OnDelete := onDeleteFrom OnDelete.spellings

def foreignKey : Reader ForeignKey := do
  let _ ← keywords ["FOREIGN", "KEY"]
  let column ← between "(" ")" identifier
  let _ ← keyword "REFERENCES"
  let referencedTable ← identifier
  let referencedColumn ← optional (between "(" ")" identifier)
  let action ← optional onDelete
  pure ⟨column, referencedTable, referencedColumn, action⟩

/-- Reads `CREATE EXTENSION`. An extension always counts as created only if it is missing, whether the
text says so or not. -/
def createExtension : Reader Statement := do
  let _ ← keywords ["CREATE", "EXTENSION"]
  commit do
    let guarded ← isPresent (keywords ["IF", "NOT", "EXISTS"])
    let name ← quoted "\"" "extension name"
    let _ ← symbol ";"
    if !guarded then
      remark (text "CREATE EXTENSION " ++ name ++ text " without IF NOT EXISTS")
    pure (.createExtension name true)

/-- Reads the schema name that may stand before the name of a table. -/
def publicSchema : Reader Unit := do
  let _ ← keyword "public"
  let _ ← symbol "."

def createTable : Reader Statement := do
  let _ ← keywords ["CREATE", "TABLE"]
  commit do
    let _ ← optional publicSchema
    let name ← identifier
    let columns ← between "(" ")" (sepBy column ",")
    let _ ← symbol ";"
    pure (.createTable name columns)

def createEnum : Reader Statement := do
  let _ ← keywords ["CREATE", "TYPE"]
  commit do
    let name ← identifier
    let _ ← keywords ["AS", "ENUM"]
    let values ← between "(" ")" (sepBy stringLiteral ",")
    let _ ← symbol ";"
    pure (.createEnum name values)

def addConstraint : Reader Statement := do
  let _ ← keywords ["ALTER", "TABLE"]
  commit do
    let table ← identifier
    let _ ← keywords ["ADD", "CONSTRAINT"]
    let name ← identifier
    let key ← foreignKey
    let _ ← symbol ";"
    pure (.addConstraint table name (.foreignKey key))

def comment : Reader Statement := do
  let _ ← token "--" false false "line comment"
  return .comment (← restOfLine)

/-- The kinds of statements that are read. -/
def statementKinds : List (Reader Statement) :=
  [createExtension, createTable, createEnum, addConstraint, comment]

/-- Reads statements of the given kinds up to the end of the text, for at most a number of rounds. -/
def statementsWithin (kinds : List (Reader Statement)) : (rounds : Nat) → Reader (List Statement)
  | 0 => refuse .stalled
  | rounds + 1 => do
    if ← atEnd then pure []
    else
      expectHere (some "end of input")
      let statement ← choice kinds
      remark (text "Parsed " ++ statement.kind)
      let others ← statementsWithin kinds rounds
      pure (statement :: others)

/-- Reads all statements of a text. Each takes at least one code point. -/
def statementsFrom (kinds : List (Reader Statement)) : Reader (List Statement) := do
  statementsWithin kinds ((← source).length + 1)

def statements : Reader (List Statement) := statementsFrom statementKinds

end Schemata.Reader
