import Schemata.Reader.Choice
import Schemata.Reader.Token
import Schemata.Schema.Spelling

/-! # Column types

A column type is the first known type of a table of spellings that can be read, or else a type with a
name of its own, which is a single word.
-/

namespace Schemata.Reader

/-- The readers of all spellings in a table, in order. -/
def knownTypes (table : List (KnownType × List (List Text))) : List (Reader KnownType) :=
  table.flatMap fun (type, spellings) => spellings.map fun words => do
    let _ ← keywords words
    pure type

/-- Reads a column type by a table of spellings. -/
def columnTypeFrom (table : List (KnownType × List (List Text))) : Reader ColumnType :=
  recover (.known <$> choice (knownTypes table)) (.custom <$> word "custom type")

def columnType : Reader ColumnType := columnTypeFrom KnownType.spellings

end Schemata.Reader
