import Schemata.Reader.Choice
import Schemata.Reader.Token

/-! # Brackets and separated items

Each separator takes at least one code point, so a repetition of more rounds than the text is long
does not move on; it is refused as stalled.
-/

namespace Schemata.Reader

variable {α : Type}

def between (opening closing : Text) (item : Reader α) : Reader α := do
  let _ ← symbol opening
  let value ← item
  let _ ← symbol closing
  pure value

/-- Reads an item after each separator, for at most a number of rounds. -/
def afterEach (separator : Text) (item : Reader α) : (rounds : Nat) → Reader (List α)
  | 0 => refuse .stalled
  | rounds + 1 => do
    if ← isPresent (symbol separator) then
      let value ← item
      let values ← afterEach separator item rounds
      pure (value :: values)
    else
      pure []

/-- Reads the items that follow the first one. -/
def others (separator : Text) (item : Reader α) : Reader (List α) := do
  afterEach separator item ((← source).length + 1)

/-- Reads any number of items. A first item that backtracks makes none; a later one is demanded by the
separator before it. -/
def sepBy (item : Reader α) (separator : Text) : Reader (List α) := do
  match ← optional item with
  | none => pure []
  | some value => do
    let values ← others separator item
    pure (value :: values)

end Schemata.Reader
