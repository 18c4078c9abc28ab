import Schemata.Proofs.Reading.AcceptPhrase
import Schemata.Proofs.Reading.Progress

/-! # Texts that are one expression

An expression ends within its text, since its last token is a name, a literal or a bracket. So a text that is
read as an expression as a whole is layout followed by the tokens of the expression.
-/

namespace Schemata

open Layout

namespace Reader

/-! ## Where expressions end -/

/-- A chunk that is part of the text ends within it. -/
theorem offset_add_le {source : Text} {offset length : Nat} (filled : 0 < length)
    (inside : length ≤ (source.drop offset).length) : offset + length ≤ source.length := by
  rw [List.length_drop] at inside
  omega

theorem lands_identifier : Lands identifier := by
  intro source s a t success
  have run := identifier_apply source s
  rw [success] at run
  cases read : QuotedName.read? (source.drop s.cursor.offset) with
  | some name =>
    rw [read] at run
    exact lands_of_lexeme run.symm (offset_add_le (Nat.succ_pos _) (spells_quotedName read).1)
  | none =>
    simp only [read, word_apply] at run
    split at run
    · cases run
    · next filled =>
      have inside := (List.takeWhile_prefix CodePoint.isWord (l := source.drop s.cursor.offset)).length_le
      exact lands_of_lexeme run.symm (offset_add_le (List.length_pos_iff.2 filled) inside)

theorem lands_quoted (quote : CodePoint) (label : Text) : Lands (quoted [quote] label) := by
  intro source s a t success
  have run := quoted_apply quote label source s
  rw [success] at run
  cases ahead : source.drop s.cursor.offset with
  | nil =>
    rw [ahead] at run
    cases run
  | cons c rest =>
    simp only [ahead] at run
    split at run
    · split at run
      · next content read =>
        obtain ⟨skipped, body, after, split, unskipped, _, width⟩ := Literal.pieces_of_readFrom read
        refine lands_of_lexeme run.symm (offset_add_le (by omega) ?_)
        rw [ahead, split]
        simp only [List.length_cons, List.length_append]
        omega
      all_goals cases run
    · cases run

/-- The last token of an expression is a name, a literal or a closing bracket. -/
theorem lands_expression (limit : Nat) : Lands (expression limit) := by
  intro source s e t success
  cases limit with
  | zero => cases success
  | succ limit =>
    obtain ⟨name?, u, named, rest⟩ := of_bind_eq_ok success
    cases name? with
    | none =>
      obtain ⟨_, _, read, rest⟩ := of_bind_eq_ok rest
      cases rest
      exact lands_quoted '\'' _ source u _ t read
    | some name =>
      have landed : u.cursor.offset ≤ source.length := by
        simp only [recover, map_eq_pure_bind, bind_apply] at named
        cases run : identifier source s with
        | mk result v =>
          rw [run] at named
          cases result with
          | ok found =>
            cases named
            exact lands_identifier source s _ u run
          | error failure => cases failure <;> cases named
      obtain ⟨opened, v, opening, rest⟩ := of_bind_eq_ok rest
      cases opened with
      | false =>
        cases rest
        rw [cursor_of_not_isPresent opening]
        exact landed
      | true =>
        obtain ⟨closed, w, closing, rest⟩ := of_bind_eq_ok rest
        cases closed with
        | true =>
          cases rest
          exact (separator_moves (by decide) closing).2
        | false =>
          obtain ⟨first, x, _, rest⟩ := of_bind_eq_ok rest
          obtain ⟨others, y, _, rest⟩ := of_bind_eq_ok rest
          obtain ⟨_, _, closing, rest⟩ := of_bind_eq_ok rest
          cases rest
          exact (lands_symbol (by decide) : Lands (symbol ")")) source y _ t closing

/-! ## Whole texts -/

theorem ne_nil_of_expression {limit : Nat} {e : Expression} {tokens : List Token}
    (phrase : Grammar.expression limit e tokens) : tokens ≠ [] := by
  cases limit with
  | zero => cases phrase
  | succ limit =>
    cases e with
    | var name => simp [phrase.2]
    | call function args =>
      obtain ⟨_, _, _, rfl⟩ := phrase
      simp
    | literal value => simp [show tokens = [.literal '\'' value] from phrase]
    | other value => cases phrase

/-- A text that is read as an expression is derived from the grammar as that expression. -/
theorem exists_laid_of_parseExpression {name source : Text} {e : Expression}
    (read : (parseExpression name source).result = .ok e) :
    ∃ gap body tokens, source = gap ++ body ∧ Gap gap body ∧ Grammar.expression nestingLimit e tokens ∧
      Laid tokens body [] := by
  obtain ⟨gap, body, rfl, between, settled⟩ := exists_gap_of_run read
  obtain ⟨t, run, ended⟩ := (run_whole_eq_ok_iff between settled).1 read
  obtain ⟨tokens, phrase, covers⟩ := ((expression_tracks (nestingLimit - 1)).each _ _).reads e t run
  have laid := covers.laid (lands_expression _ _ _ e t run)
  rw [List.drop_of_length_le ended] at laid
  exact ⟨gap, body, tokens, rfl, between, phrase, by simpa [begun] using laid⟩

end Reader

end Schemata
