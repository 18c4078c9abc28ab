import Schemata.Parse.Statement
import Schemata.Reader.Run

/-! # Reading texts

The three ways to read a text: as a list of statements, as one expression, or as one column type. A
source name for messages is taken from the call, unless it is empty, and else from the configuration.
-/

namespace Schemata

def defaultSourceName : Text := "<input>"

/-- The source name of a call that gives one or none, by a configuration that sets one or none. -/
def resolveSourceName (configured given : Option Text) : Text :=
  ((given.filter (· ≠ [])).or configured).getD defaultSourceName

def parse (sourceName source : Text) : Run (List Statement) :=
  let run := Reader.statements.run sourceName source
  match run.result with
  | .ok statements =>
    { run with
      remarks := run.remarks ++
        [text "Parsed " ++ Text.ofNat statements.length ++ text " statements from " ++ sourceName] }
  | .error _ => run

def parseExpression (sourceName source : Text) : Run Expression :=
  (Reader.whole (Reader.expression Reader.nestingLimit)).run sourceName source

def parseColumnType (sourceName source : Text) : Run ColumnType :=
  (Reader.whole Reader.columnType).run sourceName source

end Schemata
