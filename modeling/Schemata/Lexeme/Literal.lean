import Schemata.Lexeme.Escape

/-! # Quoted texts with escapes

A literal runs from a quote to the next quote that is not part of an escape. `Literal.read` reads what
follows the first code point of the opening quote and answers with the value and the number of code
points up to and including the closing quote. Only a quote of a single code point can close a literal.
-/

namespace Schemata.Literal

/-- Why a literal cannot be read; distances count from where reading starts. -/
inductive Fault where
  | unclosed
  | malformed (distance : Nat)
  | oversized (digits : Nat)
deriving DecidableEq, Repr

/-- The value of a literal and the length of what was read for it. -/
structure Content where
  value : Text
  length : Nat
deriving DecidableEq, Repr

/-- Puts what a piece of a literal stands for before the rest of it. -/
def Content.precededBy (piece : Text) (content : Content) : Content :=
  ⟨piece ++ content.value, content.length⟩

/-- Reads on after `distance` code points; the next `pending` ones belong to an escape that is already
read. -/
def readFrom (quote : Text) : (pending distance : Nat) → Text → Except Fault Content
  | _, _, [] => .error .unclosed
  | pending + 1, distance, _ :: rest => readFrom quote pending (distance + 1) rest
  | 0, distance, c :: rest =>
    if [c] = quote then .ok ⟨[], distance + 1⟩
    else if c = '\\' then
      match Escape.read rest with
      | .error (.malformed further) => .error (.malformed (distance + 1 + further))
      | .error (.oversized digits) => .error (.oversized digits)
      | .ok escape =>
        (readFrom quote escape.length (distance + 1) rest).map (·.precededBy escape.value)
    else (readFrom quote 0 (distance + 1) rest).map (·.precededBy [c])

/-- Reads a literal from after the first code point of its opening quote. -/
def read (quote t : Text) : Except Fault Content := readFrom quote 0 0 t

theorem map_precededBy_eq_ok {piece : Text} {result : Except Fault Content} {content : Content} :
    result.map (·.precededBy piece) = .ok content ↔
      ∃ inner, result = .ok inner ∧ inner.precededBy piece = content := by
  cases result <;> simp [Except.map]

theorem readFrom_length {quote t : Text} {pending distance : Nat} {content : Content}
    (success : readFrom quote pending distance t = .ok content) :
    distance < content.length ∧ content.length ≤ distance + t.length := by
  fun_induction readFrom quote pending distance t generalizing content with
  | case1 => simp at success
  | case2 pending distance c rest ih =>
    have := ih success
    simp only [List.length_cons]
    omega
  | case3 =>
    cases success
    simp
  | case4 => simp at success
  | case5 => simp at success
  | case6 distance rest escape readable unquoted ih =>
    obtain ⟨inner, ahead, rfl⟩ := map_precededBy_eq_ok.1 success
    have := ih ahead
    simp only [Content.precededBy, List.length_cons]
    omega
  | case7 distance c rest unquoted plain ih =>
    obtain ⟨inner, ahead, rfl⟩ := map_precededBy_eq_ok.1 success
    have := ih ahead
    simp only [Content.precededBy, List.length_cons]
    omega

theorem read_length {quote t : Text} {content : Content}
    (success : read quote t = .ok content) : 0 < content.length ∧ content.length ≤ t.length := by
  simpa using readFrom_length success

end Schemata.Literal
