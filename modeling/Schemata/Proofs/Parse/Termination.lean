import Mathlib
import Schemata.Proofs.Loop.Calls
import Schemata.Proofs.Loop.Lexeme
import Schemata.Proofs.Loop.Reading
import Schemata.Proofs.Parse.Faults

/-! # Every run moves on and ends

All loops of a run and all its nested calls, from whatever state they are started in, start each round and
each call farther on in the text than the one before. No loop has more rounds than the text is long and one
more, no call is nested deeper than that, and so each run ends, whatever the text.
-/

namespace Schemata

open Reader

/-- The loops and the nested calls of a run on a text move on and end. -/
structure MovesOn (source : Text) : Prop where
  statements : ∀ s, (itemLoop statementRound source).Ends (·.cursor.offset) (source.length + 1) s
    (Reader.statements source s)
  columns : ∀ s, (itemLoop (separatedRound "," column) source).Ends (·.cursor.offset) (source.length + 1) s
    (others "," column source s)
  enumValues : ∀ s, (itemLoop (separatedRound "," stringLiteral) source).Ends (·.cursor.offset)
    (source.length + 1) s (others "," stringLiteral source s)
  arguments : ∀ limit s, (itemLoop (separatedRound "," (expression limit)) source).Ends (·.cursor.offset)
    (source.length + 1) s (others "," (expression limit) source s)
  layout : ∀ offset, (Layout.loop source).Ends id (source.length + 1) offset
    ((Layout.length? (source.drop offset)).map (offset + ·))
  literals : ∀ quote start, (Literal.loop quote (source.drop start)).Ends (start + ·) (source.length + 1) 0
    (Literal.read quote (source.drop start))
  calls : ∀ limit s, ((Reader.calls limit 0 source s).map Call.offset).Pairwise (· < ·)
  depth : ∀ limit s, ∀ call ∈ Reader.calls limit 0 source s, call.level + 1 ≤ source.length + 1
  /-- No other calls are made: only a call as deep as the limit is left to another reader. -/
  allCalls : ∀ limit s deeper, (∀ call ∈ Reader.calls limit 0 source s, call.level < limit) →
    expressionOver deeper limit source s = expression limit source s
  /-- A limit beyond the length of the text is never reached, so nothing depends on what is done there. -/
  unlimited : ∀ limit s deeper, source.length < limit →
    expressionOver deeper limit source s = expression limit source s

theorem movesOn (source : Text) : MovesOn source where
  statements := statements_ends source
  columns := others_ends (by decide) column_tracks.forward source
  enumValues := others_ends (by decide) stringLiteral_tracks.forward source
  arguments limit := others_ends (by decide) (expression_forward limit) source
  layout := Layout.length?_ends source
  literals quote := Literal.read_ends quote source
  calls limit s := calls_ordered limit 0 source s
  depth limit s call member := Nat.succ_le_succ (level_le_of_mem_calls member)
  allCalls limit s deeper shallow := expressionOver_eq_expression deeper limit 0 (by simpa using shallow)
  unlimited limit s deeper enough := by
    refine expressionOver_eq_expression deeper limit 0 fun call member => ?_
    have shallow := level_le_of_mem_calls member
    omega

/-- Every run moves on and ends, with statements, a syntax error, or the fault of a number of too many digits. -/
theorem parse_moves_on_and_ends (name source : Text) :
    MovesOn source ∧ Accounted source (parse name source).result := by
  refine ⟨movesOn source, ?_⟩
  rw [parse_result]
  exact walks_statements.accounted name source

end Schemata
