import Schemata.Lexeme.Layout
import Schemata.Lexeme.Literal
import Schemata.Lexeme.Name
import Schemata.Reader.Basic
import Schemata.Text.Uppercase

/-! # Tokens

Every token is read together with the layout after it. A word of the grammar is compared, by default
regardless of case, with as many code points as it has itself; it must not be followed by a character
that would go on with the word. At the end of the text fewer code points may be left, and they still
match if their upper-case form is that of the word; the cursor then moves past the end.
-/

namespace Schemata.Reader

variable {α : Type}

def inQuotes (t : Text) : Text := text "\"" ++ t ++ text "\""

/-- Marks the end of the last token and skips the layout after it. -/
def skip : Reader Unit := do
  let here := (← cursor).offset
  moveTo ⟨here, here⟩
  match Layout.length? (← remaining) with
  | some length => moveTo ⟨here + length, here⟩
  | none => failAt (some (inQuotes "*/")) (← source).length

/-- Skips the layout before the first token. -/
def skipLeading : Reader Unit := do
  skip
  let here := (← cursor).offset
  moveTo ⟨here, here⟩

/-- Whether a word or symbol stands at the start of a text and ends there. -/
def stands (expected : Text) (ignoreCase : Bool) (t : Text) : Bool :=
  let chunk := t.take expected.length
  let same := if ignoreCase then Text.upper chunk = Text.upper expected else chunk = expected
  same && !(Text.endsInWord expected && Text.startsInWord (t.drop expected.length))

/-- Moves on by a number of code points, and over the layout after them. -/
def advance (length : Nat) (withLayout : Bool) : Reader Text := do
  let passed := (← remaining).take length
  let here ← cursor
  moveTo { here with offset := here.offset + length }
  if withLayout then skip
  pure passed

/-- Reads a word or a symbol that is given in advance, and answers with its spelling in the text. -/
def token (expected : Text) (ignoreCase withLayout : Bool) (label : Text) : Reader Text := do
  if expected.isEmpty then refuse .emptyToken
  else if stands expected ignoreCase (← remaining) then advance expected.length withLayout
  else failHere (some label)

def keywordAs (ignoreCase : Bool) (word : Text) : Reader Text :=
  token word ignoreCase true (inQuotes word)

def keyword (word : Text) : Reader Text := keywordAs true word

def keywordsAs (ignoreCase : Bool) (words : List Text) : Reader (List Text) :=
  words.mapM (keywordAs ignoreCase)

def keywords (words : List Text) : Reader (List Text) := keywordsAs true words

def symbol (t : Text) : Reader Text := token t false true (inQuotes t)

/-- Reads the longest run of word characters. -/
def word (label : Text) : Reader Text := do
  let run := Text.word (← remaining)
  if run.isEmpty then failHere (some label) else advance run.length true

/-- Reads a name, bare or in double quotes. -/
def identifier : Reader Text := do
  match QuotedName.read? (← remaining) with
  | some name => do
    let here ← cursor
    moveTo { here with offset := here.offset + name.length + 2 }
    skip
    pure name
  | none => word "identifier"

/-- Whether a quote stands at an offset of a text. -/
def opens (quote source : Text) (offset : Nat) : Bool :=
  offset ≤ source.length && quote.isPrefixOf (source.drop offset)

/-- Reads a text with escapes between two quotes. -/
def quoted (quote label : Text) : Reader Text := do
  let here ← cursor
  if opens quote (← source) here.offset then
    match Literal.read quote ((← remaining).drop 1) with
    | .ok content => do
      moveTo { here with offset := here.offset + 1 + content.length }
      skip
      pure content.value
    | .error .unclosed => do
      failAt (some (text "closing " ++ inQuotes quote)) (← source).length
    | .error (.malformed distance) =>
      failAt (some "escape code") (here.offset + 1 + distance : Nat)
    | .error (.oversized digits) => refuse (.oversizedNumber digits)
  else failHere (some label)

def stringLiteral : Reader Text := quoted "'" "string literal"

/-- Reads the rest of the line, without the spaces and tabs before it and the carriage returns at its
end. -/
def restOfLine : Reader Text := do
  let here ← cursor
  let rest ← remaining
  let gap := rest.takeWhile fun (c : CodePoint) => c = ' ' || c = '\t'
  let line := Text.before '\n' (rest.drop gap.length)
  let start := min here.offset (← source).length
  moveTo { here with offset := start + gap.length + line.length }
  skip
  pure (Text.dropRight (· = '\r') line)

end Schemata.Reader
