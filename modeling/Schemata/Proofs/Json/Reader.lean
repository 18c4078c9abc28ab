import Schemata.Plain.Json

/-! # Reading JSON text

A reader of JSON texts, with whatever blanks between their parts. Numbers are whole ones. In a string, two
escapes that make up a surrogate pair stand for one code point, and any other escaped or unescaped code point
for itself. Of several fields of one name the last one counts, in the place of the first.
-/

namespace Schemata

namespace Json

variable {α : Type}

def isBlank (c : CodePoint) : Bool := c = ' ' || c = '\n' || c = '\r' || c = '\t'

def skip (t : Text) : Text := t.dropWhile isBlank

/-! ## Strings -/

/-- A code point of a string, and whether it is written by its number. -/
structure Piece where
  code : CodePoint
  numbered : Bool
deriving DecidableEq, Repr

/-- The code point that a surrogate pair stands for. -/
def unite? (high low : CodePoint) : Option CodePoint :=
  if 0xD800 ≤ high.val ∧ high.val < 0xDC00 ∧ 0xDC00 ≤ low.val ∧ low.val < 0xE000 then
    CodePoint.ofNat? (0x10000 + (high.val - 0xD800) * 0x400 + (low.val - 0xDC00))
  else none

def decode : List Piece → Text
  | [] => []
  | [p] => [p.code]
  | p :: q :: rest =>
    match if p.numbered && q.numbered then unite? p.code q.code else none with
    | some c => c :: decode rest
    | none => p.code :: decode (q :: rest)

/-- What stands after the backslash of a short escape, and what it stands for. -/
def shortEscapes : List (CodePoint × CodePoint) :=
  [('"', '"'), ('\\', '\\'), ('/', '/'), ('b', '\x08'), ('f', '\x0C'), ('n', '\n'), ('r', '\r'), ('t', '\t')]

def hexDigit? (c : CodePoint) : Option Nat :=
  if 0x30 ≤ c.val ∧ c.val ≤ 0x39 then some (c.val - 0x30)
  else if 0x61 ≤ c.val ∧ c.val ≤ 0x66 then some (c.val - 0x61 + 10)
  else if 0x41 ≤ c.val ∧ c.val ≤ 0x46 then some (c.val - 0x41 + 10)
  else none

/-- The code point of a hexadecimal number. -/
def hexCode? (digits : Text) : Option CodePoint := do
  CodePoint.ofNat? (← digits.foldlM (fun n c => (hexDigit? c).map (16 * n + ·)) 0)

/-- One more piece before those that were found. -/
def Piece.before (p : Piece) (found : List Piece × Text) : List Piece × Text := (p :: found.1, found.2)

/-- The pieces of a string up to its closing quote, and what follows it. -/
def pieces? : Text → Option (List Piece × Text)
  | [] => none
  | c :: t =>
    if c = '"' then some ([], t)
    else if c = '\\' then
      match t with
      | [] => none
      | d :: t =>
        if d = 'u' then
          match t with
          | h₁ :: h₂ :: h₃ :: h₄ :: t => do
            let code ← hexCode? [h₁, h₂, h₃, h₄]
            (pieces? t).map (Piece.before ⟨code, true⟩)
          | _ => none
        else do
          let code ← shortEscapes.lookup d
          (pieces? t).map (Piece.before ⟨code, false⟩)
    else if c.val < 0x20 then none
    else (pieces? t).map (Piece.before ⟨c, false⟩)

/-- A string after its opening quote. -/
def string? (t : Text) : Option (Text × Text) := (pieces? t).map fun (pieces, rest) => (decode pieces, rest)

/-! ## Numbers and words -/

def isDecimal (c : CodePoint) : Bool := 0x30 ≤ c.val && c.val ≤ 0x39

/-- Whether a number that goes on like this is not a whole one. -/
def breaksNumber (c : CodePoint) : Bool := c = '.' || c = 'e' || c = 'E'

def decimal (digits : Text) : Nat := digits.foldl (fun n c => 10 * n + (c.val - 0x30)) 0

/-- Digits without a leading zero, and what follows them. -/
def natural? (t : Text) : Option (Nat × Text) :=
  let digits := t.takeWhile isDecimal
  let rest := t.drop digits.length
  if digits = [] || (1 < digits.length && digits.head? = some (CodePoint.ofChar '0')) || rest.head?.any breaksNumber
  then none
  else some (decimal digits, rest)

def number? (t : Text) : Option (Plain × Text) :=
  if t.head? = some (CodePoint.ofChar '-') then
    (natural? (t.drop 1)).map fun (n, rest) => (.number (-n), rest)
  else (natural? t).map fun (n, rest) => (.number n, rest)

def word? (word : Text) (value : Plain) (t : Text) : Option (Plain × Text) :=
  if word.isPrefixOf t then some (value, t.drop word.length) else none

def scalar? (t : Text) : Option (Plain × Text) :=
  number? t <|> word? "null" .null t <|> word? "true" (.flag true) t <|> word? "false" (.flag false) t

/-! ## Lists and records -/

/-- One element or more, with commas between them, up to a closing bracket. -/
def several? (element? : Text → Option (α × Text)) (closing : CodePoint) : (rounds : Nat) → Text →
    Option (List α × Text)
  | 0, _ => none
  | rounds + 1, t => do
    let (first, rest) ← element? t
    match skip rest with
    | [] => none
    | c :: rest =>
      if c = closing then some ([first], rest)
      else if c = ',' then do
        let (others, rest) ← several? element? closing rounds (skip rest)
        some (first :: others, rest)
      else none

/-- Any number of elements after an opening bracket. -/
def bracketed? (element? : Text → Option (α × Text)) (closing : CodePoint) (t : Text) : Option (List α × Text) :=
  match skip t with
  | [] => none
  | c :: rest => if c = closing then some ([], rest) else several? element? closing t.length (c :: rest)

def field? (value? : Text → Option (Plain × Text)) : Text → Option ((Text × Plain) × Text)
  | [] => none
  | c :: t =>
    if c = '"' then do
      let (key, rest) ← string? t
      match skip rest with
      | [] => none
      | c :: rest =>
        if c = ':' then do
          let (value, rest) ← value? (skip rest)
          some ((key, value), rest)
        else none
    else none

/-- Sets a field, in its old place if there is one. -/
def setField (fields : List (Text × Plain)) (field : Text × Plain) : List (Text × Plain) :=
  match fields with
  | [] => [field]
  | (key, value) :: rest => if key = field.1 then field :: rest else (key, value) :: setField rest field

def value? : (depth : Nat) → Text → Option (Plain × Text)
  | 0, _ => none
  | _ + 1, [] => none
  | depth + 1, c :: t =>
    if c = '"' then (string? t).map fun (content, rest) => (.string content, rest)
    else if c = '[' then (bracketed? (value? depth) ']' t).map fun (items, rest) => (.list items, rest)
    else if c = '\x7b' then
      (bracketed? (field? (value? depth)) '\x7d' t).map fun (fields, rest) =>
        (.record (fields.foldl setField []), rest)
    else scalar? (c :: t)

/-- The value of a whole JSON text. Each bracket takes a code point, so no text is nested deeper than it is
long. -/
def read? (t : Text) : Option Plain := do
  let (value, rest) ← value? (t.length + 1) (skip t)
  if skip rest = [] then some value else none

end Json

end Schemata
