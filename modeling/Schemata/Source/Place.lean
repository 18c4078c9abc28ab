import Schemata.Text.Word

/-! # Places in a source text

Offsets count code points from zero, lines and columns count from one. An offset may lie past the end
of the text; its column then counts on beyond the end of the last line. Only the line feed ends a
line; a carriage return before it does not belong to the text that is shown for the line. A signed
offset counts from the end of the text if it is negative.
-/

namespace Schemata

/-- A line and a column, both counted from one. -/
structure Place where
  line : Nat
  column : Nat
deriving DecidableEq, Repr

namespace Source

/-- Where the line of an offset starts. -/
def lineStart (source : Text) (offset : Nat) : Nat :=
  let passed := source.take offset
  passed.length - (Text.afterLast '\n' passed).length

def place (source : Text) (offset : Nat) : Place where
  line := (source.take offset).count (CodePoint.ofChar '\n') + 1
  column := offset - lineStart source offset + 1

/-- The line of an offset, without the carriage returns at its end. -/
def lineText (source : Text) (offset : Nat) : Text :=
  Text.dropRight (· = '\r')
    (Text.afterLast '\n' (source.take offset) ++ Text.before '\n' (source.drop offset))

/-- What a message calls a character and the word that is shown in its place, if there is one. -/
def describeAs (c : CodePoint) (word : Text) : Text :=
  if c = '\n' then text "newline"
  else text "\"" ++ (if word = [] then [c] else word) ++ text "\""

/-- What a message calls the text at an offset: a whole word or a single character in quotes. -/
def describe (source : Text) (offset : Nat) : Text :=
  match source.drop offset with
  | [] => text "end of input"
  | c :: rest => describeAs c (Text.word (c :: rest))

/-- The offset that a signed one stands for; no offset lies before the start. -/
def resolve (source : Text) (offset : Int) : Nat :=
  if offset < 0 then (source.length + offset).toNat else offset.toNat

/-- The line and the column of a signed offset. The column counts from where the line starts, so that a
negative offset may have a negative column. -/
def signedPlace (source : Text) (offset : Int) : Nat × Int :=
  let resolved := resolve source offset
  ((place source resolved).line, offset - lineStart source resolved + 1)

/-- What a message calls the text at a signed offset. A negative offset before the start of the text has
no name; for another one the word at the start of the text is shown. -/
def describeSigned? (source : Text) : Int → Option Text
  | .ofNat offset => some (describe source offset)
  | .negSucc offset =>
    (source.reverse[offset]?).map fun c => describeAs c (Text.word source)

theorem describeAs_ne_nil (c : CodePoint) (word : Text) : describeAs c word ≠ [] := by
  unfold describeAs
  split
  · decide
  · simp [text]

theorem describe_ne_nil (source : Text) (offset : Nat) : describe source offset ≠ [] := by
  unfold describe
  split
  · decide
  · exact describeAs_ne_nil _ _

end Source

end Schemata
