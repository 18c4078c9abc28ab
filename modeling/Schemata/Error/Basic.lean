import Schemata.Error.Syntax

/-! # Errors about schemas

Every error has a message, a code and details as plain data; its description is the code in brackets
and the message. Details that are missing or empty are left out. An error from outside the library is
known by the name of its kind and by its text alone.
-/

namespace Schemata

inductive SchemaError where
  | general (message code : Text) (details : List (Text × Plain))
  /-- A text that cannot be read, in general. -/
  | unreadable (message : Text) (fragment : Option Text) (position : Option Int)
  /-- A text that a reader rejects. -/
  | rejected (error : SyntaxError)
  | file (message : Text) (path operation : Option Text)
  | missingFile (path : Text)
deriving DecidableEq, Repr

namespace SchemaError

def message : SchemaError → Text
  | general message _ _ => message
  | unreadable message _ _ => message
  | rejected error => error.message
  | file message _ _ => message
  | missingFile path => text "Файл схемы не найден: " ++ path

def code : SchemaError → Text
  | general _ code _ => code
  | unreadable .. => "PARSING_ERROR"
  | rejected _ => "SYNTAX_ERROR"
  | file .. => "FILESYSTEM_ERROR"
  | missingFile _ => "FILE_NOT_FOUND"

/-- A detail that is left out if it is missing or empty. -/
def textDetail (key : Text) (value : Option Text) : List (Text × Plain) :=
  match value.filter (· ≠ []) with
  | some t => [(key, .string t)]
  | none => []

def readingDetails (fragment : Option Text) (position : Option Int) : List (Text × Plain) :=
  textDetail "sql_fragment" fragment
    ++ match position with
      | some n => [(text "position", .number n)]
      | none => []

def fileDetails (path operation : Option Text) : List (Text × Plain) :=
  textDetail "file_path" path ++ textDetail "operation" operation

def details : SchemaError → List (Text × Plain)
  | general _ _ details => details
  | unreadable _ fragment position => readingDetails fragment position
  | rejected e =>
    readingDetails e.fragment (some e.offset)
      ++ [(text "source_name", .string e.sourceName), (text "line", .number e.line),
          (text "column", .number e.column), (text "expected", .ofStrings e.expected)]
      ++ textDetail "found" e.found
  | file _ path operation => fileDetails path operation
  | missingFile path => fileDetails (some path) (some "read")

/-- The code in brackets and the message. -/
def description (e : SchemaError) : Text := text "[" ++ e.code ++ text "] " ++ e.message

/-- The error as plain data. -/
def toPlain (e : SchemaError) : Plain :=
  .record [(text "error", .string e.message), (text "code", .string e.code),
    (text "details", .record e.details)]

end SchemaError

/-- An error that does not come from this library. -/
structure OutsideError where
  kind : Text
  message : Text
deriving DecidableEq, Repr

namespace OutsideError

/-- The message of a failed look-up quotes the key that was looked up. -/
def ofKey (kind : Text) (key : Option Text) : OutsideError where
  kind := kind
  message := (key.map Text.quoted).getD []

def toPlain (e : OutsideError) : Plain :=
  .record [(text "error", .string e.message), (text "code", .string "UNKNOWN_ERROR"),
    (text "details", .record [(text "exception_type", .string e.kind)])]

end OutsideError

end Schemata
