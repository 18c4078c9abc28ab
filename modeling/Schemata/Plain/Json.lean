import Schemata.Plain.Basic

/-! # Plain data as JSON text

Lists and records are written over several lines, indented by two spaces for each level; empty ones
stay on one line. Only what JSON demands is escaped: quotes, backslashes and the control characters
below U+0020.
-/

namespace Schemata

namespace CodePoint

/-- A code point inside a JSON string. -/
def jsonForm (c : CodePoint) : Text :=
  if c = '"' then text "\\\""
  else if c = '\\' then text "\\\\"
  else if c = '\n' then text "\\n"
  else if c = '\r' then text "\\r"
  else if c = '\t' then text "\\t"
  else if c = '\x08' then text "\\b"
  else if c = '\x0C' then text "\\f"
  else if c.val < 0x20 then text "\\u" ++ hex 4 c.val
  else [c]

end CodePoint

namespace Text

def jsonString (t : Text) : Text := text "\"" ++ t.flatMap CodePoint.jsonForm ++ text "\""

end Text

namespace Plain

/-- The line end and the indentation before an item at a level. -/
def lineBreak (level : Nat) : Text := text "\n" ++ Text.spaces (2 * level)

mutual

/-- JSON text of a value whose lines after the first are indented to `level`. A value without a written
form leaves nothing behind. -/
def jsonAt (level : Nat) : Plain → Text
  | null => text "null"
  | flag true => text "true"
  | flag false => text "false"
  | number n => Text.ofInt n
  | string t => t.jsonString
  | list [] => text "[]"
  | list (item :: items) =>
    text "[" ++ lineBreak (level + 1) ++ jsonAt (level + 1) item
      ++ jsonItems (level + 1) items ++ lineBreak level ++ text "]"
  | record [] => text "\x7b\x7d"
  | record ((key, value) :: fields) =>
    text "\x7b" ++ lineBreak (level + 1) ++ key.jsonString ++ text ": "
      ++ jsonAt (level + 1) value ++ jsonFields (level + 1) fields ++ lineBreak level
      ++ text "\x7d"
  | unknown _ => []

/-- The items after the first one of a list. -/
def jsonItems (level : Nat) : List Plain → Text
  | [] => []
  | item :: items =>
    text "," ++ lineBreak level ++ jsonAt level item ++ jsonItems level items

/-- The fields after the first one of a record. -/
def jsonFields (level : Nat) : List (Text × Plain) → Text
  | [] => []
  | (key, value) :: fields =>
    text "," ++ lineBreak level ++ key.jsonString ++ text ": "
      ++ jsonAt level value ++ jsonFields level fields

end

def json (value : Plain) : Text := jsonAt 0 value

end Plain

end Schemata
