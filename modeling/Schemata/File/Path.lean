import Schemata.Text.Basic

/-! # Paths

A path is a sequence of names, each to be looked up in the directory that the names before it lead to.
Written paths are reduced: empty names and names of a single dot are dropped, and the path of no names
is written as a dot. Two dots stay, as only a look-up can tell where they lead.
-/

namespace Schemata

/-- The parts of a text between the occurrences of a code point. -/
def Text.split (c : CodePoint) : Text → List Text
  | [] => [[]]
  | d :: rest =>
    if d = c then [] :: Text.split c rest
    else
      match Text.split c rest with
      | [] => [[d]]
      | part :: parts => (d :: part) :: parts

structure Path where
  absolute : Bool
  names : List Text
deriving DecidableEq, Repr

namespace Path

def ofText (t : Text) : Path where
  absolute := t.head? = some (CodePoint.ofChar '/')
  names := (t.split '/').filter fun name => name ≠ [] ∧ name ≠ text "."

/-- Whether the path can be looked up at all: no name holds a null character. -/
def isValid (path : Path) : Bool :=
  path.names.all fun name => !name.contains (CodePoint.ofChar '\x00')

/-- What is said of a path that cannot be looked up. -/
def invalidMessage : Text := "embedded null byte"

def toText (path : Path) : Text :=
  let joined := Text.join "/" path.names
  if path.absolute then text "/" ++ joined
  else if path.names.isEmpty then text "."
  else joined

end Path

end Schemata
