import Mathlib
import Schemata.Proofs.Reading.WholeExpression
import Schemata.Proofs.Report.ReadBack

/-! # Literals in reports

A report shows a text literal with each quote escaped and nothing else. Whatever a literal stands for, each of
its quotes and each of its backslashes takes two code points at least between the quotes. So what a report
shows is wide enough to be read as the same literal exactly where there is no backslash.
-/

namespace Schemata

open Layout Reader

namespace Literal

variable {quote : CodePoint}

/-- An escape stands for one code point at most. -/
theorem length_of_spells {piece code following : Text} (spelt : Escape.Spells piece code following) :
    piece.length ≤ 1 ∧ 1 ≤ code.length := by
  cases spelt with
  | single known =>
    refine ⟨?_, Nat.le_refl _⟩
    unfold Escape.single? at known
    repeat' split at known
    all_goals cases known
    all_goals simp
  | numeric filled _ _ _ _ =>
    refine ⟨Nat.le_refl _, ?_⟩
    rw [List.length_append]
    exact Nat.le_add_left_of_le (List.length_pos_iff.2 filled)

/-- No code point is both the quote and the backslash. -/
theorem count_add_count_le (proper : IsQuote quote) (t : Text) :
    t.count quote + t.count (CodePoint.ofChar '\\') ≤ t.length := by
  have differ := proper.ne_backslash
  induction t with
  | nil => exact Nat.le_refl _
  | cons c t ih =>
    rw [List.count_cons, List.count_cons, List.length_cons]
    split <;> split <;> simp_all <;> omega

/-- Each quote and each backslash of the value takes two code points of the body. -/
theorem Pieces.length_le (proper : IsQuote quote) {value body : Text} (pieces : Pieces quote value body) :
    value.length + value.count quote + value.count (CodePoint.ofChar '\\') ≤ body.length := by
  induction pieces with
  | nil => simp
  | @plain c value body other plain _ ih =>
    rw [List.count_cons_of_ne other, List.count_cons_of_ne plain, List.length_cons, List.length_cons]
    omega
  | @escape piece code value body spelt _ ih =>
    obtain ⟨short, filled⟩ := length_of_spells spelt
    have either := count_add_count_le proper piece
    simp only [List.length_append, List.count_append, List.length_cons]
    omega

end Literal

/-- In a report each quote takes one code point more. -/
theorem Text.length_replace (quote : CodePoint) (value : Text) :
    (Text.replace quote ['\\', quote] value).length = value.length + value.count quote := by
  induction value with
  | nil => rfl
  | cons c value ih =>
    rw [replace] at ih
    rw [replace, List.flatMap_cons, List.length_append, ih, List.length_cons, List.count_cons]
    by_cases same : c = quote
    · simp only [same, if_true, beq_self_eq_true, List.length_cons, List.length_nil]
      omega
    · simp only [same, if_false, beq_iff_eq, List.length_singleton]
      omega

/-- A text that is read as a literal is as long as the value, with two code points for each of its quotes and
backslashes, and two quotes around them. -/
theorem length_of_parseExpression_literal {name source value : Text}
    (read : (parseExpression name source).result = .ok (.literal value)) :
    value.length + value.count (CodePoint.ofChar '\'') + value.count (CodePoint.ofChar '\\') + 2 ≤
      source.length := by
  obtain ⟨gap, body, tokens, rfl, _, phrase, laid⟩ := exists_laid_of_parseExpression read
  obtain rfl : tokens = [.literal '\'' value] := phrase
  cases laid with
  | cons spelt _ _ =>
    cases spelt with
    | literal proper pieces =>
      have inside := pieces.length_le proper
      simp only [List.length_append, List.length_cons, List.length_nil]
      omega

/-- What lays out the tokens of an expression is read as that expression. -/
theorem Expression.WrittenAs.parseExpression_eq {e : Expression} {t : Text} (written : WrittenAs nestingLimit e t)
    (name : Text) : (parseExpression name t).result = .ok e := by
  obtain ⟨tokens, phrase, laid⟩ := written
  have laid : Laid tokens t [] := by simpa using laid [] rfl
  have passes := accepts_expression phrase (Nat.le_refl _) [] t [] laid ⟨settled_nil, Nat.le_refl _⟩ (by simp)
  exact run_of_passes (Closed.nil.gap t) (laid.settled settled_nil) passes name

/-- What a report shows of a text literal is read as that literal exactly where it has no backslash in it. -/
theorem reported_literals_read_back_iff (name value : Text) :
    ∃ shown, (Expression.literal value).format = .ok shown ∧
      ((parseExpression name shown).result = .ok (.literal value) ↔ CodePoint.ofChar '\\' ∉ value) := by
  refine ⟨_, by rw [Expression.format], fun read => ?_, fun plain => ?_⟩
  · have needed := length_of_parseExpression_literal read
    have width : (Text.replace '\'' "\\'" value).length = value.length + value.count (CodePoint.ofChar '\'') :=
      Text.length_replace '\'' value
    have quotes : (text "'").length = 1 := rfl
    rw [List.length_append, List.length_append, width, quotes] at needed
    rw [← List.count_eq_zero]
    omega
  · exact (writtenAs_literal (nestingLimit - 1) plain).parseExpression_eq name

/-- A lone backslash is shown as a literal that is not closed. -/
theorem reported_backslash_is_not_closed :
    (parseExpression "example" "'\\\\'").result = .ok (.literal "\\") ∧
      (Expression.literal "\\").format = .ok "'\\'" ∧
      (parseExpression "example" "'\\'").result = .error (.unexpected
        ⟨"example", 3, 1, 4, ["closing \"'\""], some "end of input", "'\\'", some "'\\'"⟩) :=
  ⟨by cbv, by cbv, by cbv⟩

end Schemata
