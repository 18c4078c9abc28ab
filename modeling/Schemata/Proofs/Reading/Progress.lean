import Schemata.Proofs.Reading.Schema
import Schemata.Proofs.Reading.Statement

/-! # Readers that move on

A reader that keeps to a language does not move back where it succeeds. A separator and a statement move on
within the text, which is why a repetition never uses up its rounds.
-/

namespace Schemata

namespace Reader

variable {α : Type} {L : Language α} {p : Reader α} {source : Text} {s t : State}

/-- Where the reader succeeds, it has not moved back. -/
def Forward (p : Reader α) : Prop :=
  ∀ source s a t, p source s = (.ok a, t) → s.cursor.offset ≤ t.cursor.offset

theorem Tracks.forward (tracks : Tracks p L) : Forward p := by
  intro source s a t run
  obtain ⟨_, _, covers⟩ := (tracks.each source s).reads a t run
  exact covers.forward

/-- Tokens inside the text take at least one code point. -/
theorem Tracks.offset_lt (tracks : Tracks p L) (filled : ∀ a, ¬ L a []) (lands : Lands p) {a : α}
    (run : p source s = (.ok a, t)) : s.cursor.offset < t.cursor.offset := by
  obtain ⟨tokens, phrase, covers⟩ := (tracks.each source s).reads a t run
  have nonempty : tokens ≠ [] := by
    rintro rfl
    exact filled a phrase
  have shorter := (covers.laid (lands source s a t run)).length_lt nonempty
  rw [List.length_drop, List.length_drop] at shorter
  omega

theorem exists_of_isPresent (present : isPresent p source s = (.ok true, t)) :
    ∃ a, p source s = (.ok a, t) := by
  simp only [isPresent, optional, map_eq_pure_bind, bind_apply, recover, attempt] at present
  cases run : p source s with
  | mk result u =>
    rw [run] at present
    cases result with
    | ok a =>
      cases present
      exact ⟨a, rfl⟩
    | error failure => cases failure <;> cases present

/-- Where an optional part is missing, the cursor is moved back. -/
theorem cursor_of_not_isPresent (absent : isPresent p source s = (.ok false, t)) : t.cursor = s.cursor := by
  simp only [isPresent, optional, map_eq_pure_bind, bind_apply, recover, attempt] at absent
  cases run : p source s with
  | mk result u =>
    rw [run] at absent
    cases result with
    | ok a => cases absent
    | error failure =>
      cases failure <;> cases absent
      rfl

/-- A separator is read inside the text, and takes at least one code point of it. -/
theorem separator_moves {separator : Text} (proper : separator.isSign = true)
    (present : isPresent (symbol separator) source s = (.ok true, t)) :
    s.cursor.offset < t.cursor.offset ∧ t.cursor.offset ≤ source.length := by
  obtain ⟨a, read⟩ := exists_of_isPresent present
  have lands := lands_symbol (Text.ne_nil_of_isSign proper)
  exact ⟨(symbol_tracks proper).offset_lt (by simp) lands read, lands source s a t read⟩

theorem expression_forward (limit : Nat) : Forward (expression limit) := by
  cases limit with
  | zero =>
    intro source s a t run
    cases run
  | succ limit => exact (expression_tracks limit).forward

/-- A statement is read inside the text, and takes at least one code point of it. -/
theorem choice_moves {statement : Statement} (run : choice statementKinds source s = (.ok statement, t)) :
    s.cursor.offset < t.cursor.offset ∧ t.cursor.offset ≤ source.length := by
  have lands := Lands.choice lands_statement
  have tracks := Tracks.choice (viable_statement _) statement_tracks
  refine ⟨tracks.offset_lt (fun a phrase => ?_) lands run, lands source s statement t run⟩
  exact ne_nil_of_statement phrase (Nat.le_refl _) rfl

end Reader

end Schemata
