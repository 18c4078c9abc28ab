import Schemata.Parse.ColumnType
import Schemata.Parse.Expression
import Schemata.Reader.Run

/-! # Scripts

A script describes a reader: tokens, choices, repetitions, and the operations on the cursor and on the
record of expectations, in any nesting. `Script.read` is the reader it describes. A session runs
scripts one after another on one text; a script that fails does not end it, and the next one goes on
from the state that the failure left.
-/

namespace Schemata

inductive Script where
  | keyword (ignoreCase : Bool) (word : Text)
  | keywords (ignoreCase : Bool) (words : List Text)
  | symbol (withLayout : Bool) (label : Option Text) (sign : Text)
  | word (label : Text)
  | identifier
  | quoted (quote label : Text)
  | stringLiteral
  | restOfLine
  | skip
  | skipLeading
  | expression
  | columnType
  | attempt (script : Script)
  | optional (script : Script)
  | choice (scripts : List Script)
  | between (opening closing : Text) (script : Script)
  | sepBy (script : Script) (separator : Text)
  | commit (script : Script)
  | sequence (scripts : List Script)
  | expect (label : Option Text) (offset : Option Int)
  | fail (label : Option Text) (offset : Option Int)
  | cursor
  | moveTo (cursor : Cursor)
  | atEnd
  | describe (offset : Int)
  | place (offset : Int)
  | lineText (offset : Int)
  | diagnose
deriving Repr

/-- What a script answers with. -/
inductive Answer where
  | nothing
  | flag (value : Bool)
  | text (value : Text)
  | list (answers : List Answer)
  | cursor (cursor : Cursor)
  | place (line : Nat) (column : Int)
  | expression (expression : Expression)
  | columnType (type : ColumnType)
  | error (error : SyntaxError)
deriving Repr

namespace Script

open Reader

/-- The label of a symbol that is given none or an empty one. -/
def symbolLabel (label : Option Text) (sign : Text) : Text :=
  (label.filter (· ≠ [])).getD (inQuotes sign)

mutual

/-- The reader that a script describes; error messages in its answers name a source. -/
def read (sourceName : Text) : Script → Reader Answer
  | .keyword ignoreCase expected => .text <$> keywordAs ignoreCase expected
  | .keywords ignoreCase expected =>
    (fun spelt => .list (spelt.map .text)) <$> keywordsAs ignoreCase expected
  | .symbol withLayout label sign =>
    .text <$> token sign false withLayout (symbolLabel label sign)
  | .word label => .text <$> Reader.word label
  | .identifier => .text <$> Reader.identifier
  | .quoted quote label => .text <$> Reader.quoted quote label
  | .stringLiteral => .text <$> Reader.stringLiteral
  | .restOfLine => .text <$> Reader.restOfLine
  | .skip => (fun _ => .nothing) <$> Reader.skip
  | .skipLeading => (fun _ => .nothing) <$> Reader.skipLeading
  | .expression => .expression <$> Reader.expression nestingLimit
  | .columnType => .columnType <$> Reader.columnType
  | .attempt script => Reader.attempt (script.read sourceName)
  | .optional script => (·.getD .nothing) <$> Reader.optional (script.read sourceName)
  | .choice scripts => Reader.choice (readEach sourceName scripts)
  | .between opening closing script => Reader.between opening closing (script.read sourceName)
  | .sepBy script separator => .list <$> Reader.sepBy (script.read sourceName) separator
  | .commit script => Reader.commit (script.read sourceName)
  | .sequence scripts => .list <$> readAll sourceName scripts
  | .expect label (some offset) => (fun _ => .nothing) <$> expectAt label offset
  | .expect label none => (fun _ => .nothing) <$> expectHere label
  | .fail label (some offset) => failAt label offset
  | .fail label none => failHere label
  | .cursor => .cursor <$> Reader.cursor
  | .moveTo target => (fun _ => .nothing) <$> Reader.moveTo target
  | .atEnd => .flag <$> Reader.atEnd
  | .describe offset => do
    match Source.describeSigned? (← Reader.source) offset with
    | some name => return .text name
    | none => refuse .beforeStart
  | .place offset => do
    let (line, column) := Source.signedPlace (← Reader.source) offset
    return .place line column
  | .lineText offset => do
    let source ← Reader.source
    return .text (Source.lineText source (Source.resolve source offset))
  | .diagnose => do
    return .error (Reader.diagnose sourceName (← Reader.source) (← Reader.state))

/-- The readers that scripts describe, each on its own. -/
def readEach (sourceName : Text) : List Script → List (Reader Answer)
  | [] => []
  | script :: scripts => script.read sourceName :: readEach sourceName scripts

/-- One reader for scripts that are run in turn. -/
def readAll (sourceName : Text) : List Script → Reader (List Answer)
  | [] => pure []
  | script :: scripts => do
    let answer ← script.read sourceName
    let answers ← readAll sourceName scripts
    pure (answer :: answers)

end

/-- What came of one script of a session, and the state after it. -/
structure Step where
  result : Except Failure Answer
  state : State

/-- Runs scripts one after another; a fault ends the session. -/
def session (sourceName source : Text) : State → List Script → Except Fault (List Step)
  | _, [] => .ok []
  | s, script :: scripts =>
    match script.read sourceName source s with
    | (.error (.fault fault), _) => .error fault
    | (result, t) => (session sourceName source t scripts).map (⟨result, t⟩ :: ·)

end Script

end Schemata
