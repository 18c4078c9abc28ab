import Schemata.Error.Basic
import Schemata.File.Tree
import Schemata.Parse.Basic

/-! # Reading schema files

A schema file is UTF-8 text with line ends of any kind. A file that is missing is told apart from one
that cannot be read. Messages about its content name the file by its reduced path.
-/

namespace Schemata

def defaultSchemaPath : Text := "Application/Schema.sql"

/-- How much a line of the log matters. -/
inductive LogLevel where
  | debug
  | info
deriving DecidableEq, Repr

structure LogLine where
  level : LogLevel
  topic : Text
  message : Text
deriving DecidableEq, Repr

namespace LogLine

def toText (line : LogLine) : Text :=
  (match line.level with
    | .debug => text "DEBUG "
    | .info => text "INFO ")
    ++ line.topic ++ text ": " ++ line.message

/-- A remark of a reader. -/
def ofRemark (remark : Text) : LogLine := ⟨.debug, "schema_sql.parser.sql_parser", remark⟩

end LogLine

/-- Why a schema file cannot be read. -/
inductive ReadError where
  | invalidPath
  | unread (error : SchemaError)
deriving DecidableEq, Repr

/-- The text of a schema file. -/
def readSchemaFile (tree : FileTree) (path : Path) : Except ReadError Text :=
  let unreadable (reason : Text) : ReadError :=
    .unread (.file (text "Не удалось прочитать файл " ++ path.toText ++ text ": " ++ reason)
      (some path.toText) (some "read"))
  if !path.isValid then .error .invalidPath
  else
    match tree.read path with
    | .error ⟨.missing, _⟩ => .error (.unread (.missingFile path.toText))
    | .error error => .error (unreadable error.message)
    | .ok bytes =>
      match Utf8.decode bytes with
      | .error error => .error (unreadable error.message)
      | .ok content => .ok (Utf8.unifyLineEnds content)

/-- Why a schema file gives no statements. -/
inductive LoadError where
  | read (error : ReadError)
  | rejected (rejection : Rejection)
deriving DecidableEq, Repr

/-- The statements of a schema file, and what is logged on the way. -/
structure Loaded where
  result : Except LoadError (List Statement)
  log : List LogLine

/-- The path of a call that gives one or none, by a configuration that sets one or none. -/
def resolveSchemaPath (configured given : Option Text) : Path :=
  .ofText (((given.filter (· ≠ [])).or configured).getD defaultSchemaPath)

def loadSchema (tree : FileTree) (configured given : Option Text) : Loaded :=
  let path := resolveSchemaPath configured given
  let opening : LogLine :=
    ⟨.info, "schema_sql.loader", text "Reading schema from " ++ path.toText⟩
  match readSchemaFile tree path with
  | .error error => ⟨.error (.read error), [opening]⟩
  | .ok source =>
    let run := parse path.toText source
    { result := run.result.mapError LoadError.rejected
      log := opening :: run.remarks.map LogLine.ofRemark }

end Schemata
