import Mathlib
import Schemata.Proofs.Reading.Outcome
import Schemata.Proofs.Reading.RelocateStatement

/-! # Layout in front of a text

Closed layout in front of a text changes nothing but the places of errors: they lie farther on by the length
of the layout and by its lines, and on the first line of the text also by what stands in the last line of the
layout.
-/

namespace Schemata

open Layout Reader

/-! ## Places -/

/-- After the last occurrence stands what follows it in the second text, if there is one. -/
theorem Text.afterLast_append (c : CodePoint) (t u : Text) :
    afterLast c (t ++ u) = if c ∈ u then afterLast c u else afterLast c t ++ u := by
  rw [afterLast, List.reverse_append, List.takeWhile_append]
  by_cases member : c ∈ u
  · have shorter : ¬ (u.reverse.takeWhile fun d => decide (d ≠ c)).length = u.reverse.length := by
      intro same
      have whole := (List.takeWhile_prefix fun d => decide (d ≠ c)).eq_of_length same
      have present : c ∈ u.reverse.takeWhile fun d => decide (d ≠ c) := by
        rw [whole]
        exact List.mem_reverse.2 member
      simpa using List.all_eq_true.1 List.all_takeWhile c present
    rw [if_pos member, if_neg shorter, afterLast]
  · have whole : u.reverse.takeWhile (fun d => decide (d ≠ c)) = u.reverse := by
      rw [List.takeWhile_eq_self_iff]
      intro d present
      rw [decide_eq_true_eq]
      rintro rfl
      exact member (List.mem_reverse.1 present)
    rw [if_neg member, whole, if_pos rfl, List.reverse_append, List.reverse_reverse, afterLast]

theorem Source.place_append_line (front source : Text) (offset : Nat) :
    (place (front ++ source) (offset + front.length)).line =
      (place source offset).line + front.count (CodePoint.ofChar '\n') := by
  simp only [place]
  rw [Nat.add_comm offset, List.take_length_add_append, List.count_append]
  omega

/-- Only on the first line of the text does a column change. -/
theorem Source.place_append_column (front source : Text) (offset : Nat) :
    (place (front ++ source) (offset + front.length)).column =
      if (place source offset).line = 1 then
        (place source offset).column + (Text.afterLast '\n' front).length
      else (place source offset).column := by
  have first : (place source offset).line = 1 ↔ CodePoint.ofChar '\n' ∉ source.take offset := by
    rw [← List.count_eq_zero]
    simp only [place]
    omega
  have inFront := Text.length_afterLast_le '\n' front
  have inText := Text.length_afterLast_le '\n' (source.take offset)
  have passed := @List.length_take _ offset source
  by_cases here : CodePoint.ofChar '\n' ∈ source.take offset
  · rw [if_neg (mt first.1 (not_not_intro here))]
    simp only [place, lineStart]
    rw [Nat.add_comm offset, List.take_length_add_append, Text.afterLast_append, if_pos here,
      List.length_append]
    omega
  · have own : Text.afterLast '\n' (source.take offset) = source.take offset := by
      have alone := Text.afterLast_append '\n' [] (source.take offset)
      rwa [if_neg here] at alone
    rw [if_pos (first.2 here)]
    simp only [place, lineStart]
    rw [Nat.add_comm offset, List.take_length_add_append, Text.afterLast_append, if_neg here, own,
      List.length_append, List.length_append]
    omega

/-! ## Results -/

/-- The same syntax error behind other text. -/
structure SyntaxError.Farther (front : Text) (error error' : SyntaxError) : Prop where
  sourceName : error'.sourceName = error.sourceName
  offset : error'.offset = error.offset + front.length
  line : error'.line = error.line + front.count (CodePoint.ofChar '\n')
  column : error'.column =
    if error.line = 1 then error.column + (Text.afterLast '\n' front).length else error.column
  expected : error'.expected = error.expected
  found : error'.found = error.found

/-- The same result behind other text. -/
inductive Translated {α : Type} (front : Text) : Except Rejection α → Except Rejection α → Prop
  | read (a : α) : Translated front (.ok a) (.ok a)
  | unexpected {error error' : SyntaxError} : error.Farther front error' →
      Translated front (.error (.unexpected error)) (.error (.unexpected error'))
  | tooDeep {error error' : SyntaxError} : error.Farther front error' →
      Translated front (.error (.tooDeep error)) (.error (.tooDeep error'))
  | fault (fault : Fault) : Translated front (.error (.fault fault)) (.error (.fault fault))

theorem Translated.exists_of_unexpected {α : Type} {front : Text} {error : SyntaxError}
    {result : Except Rejection α} (translated : Translated front (.error (.unexpected error)) result) :
    ∃ error', result = .error (.unexpected error') ∧ error.Farther front error' := by
  cases translated with
  | unexpected farther => exact ⟨_, rfl, farther⟩

/-- The second place lies that many code points behind the first one. -/
def Behind (width place place' : Nat) : Prop := place' = place + width

section Runs

variable {α : Type} {p : Reader α} {front source : Text}

/-- Where the frontier lies behind the text in front, so does the error. -/
theorem diagnose_farther {s s' : State}
    (moved : Frontier.Moved front.length (Behind front.length) s.frontier s'.frontier)
    (met : 0 ≤ s.frontier.furthest) (name : Text) :
    (diagnose name source s).Farther front (diagnose name (front ++ source) s') := by
  obtain ⟨expected, found, behind⟩ := @diagnose_of_ends front source _ _ _ moved met name
  have behind : (frontierOffsets s').2 = (frontierOffsets s).2 + front.length := behind
  refine ⟨rfl, ?_, ?_, ?_, expected, found⟩
  · simp only [diagnose, behind]
    omega
  · simp only [diagnose, behind, Source.place_append_line]
    omega
  · have line : (diagnose name source s).line = (Source.place source (frontierOffsets s).2).line := rfl
    have column : (diagnose name (front ++ source) s').column =
        (Source.place (front ++ source) (frontierOffsets s').2).column := rfl
    rw [column, behind, Source.place_append_column]
    by_cases first : (Source.place source (frontierOffsets s).2).line = 1
    · rw [if_pos first, if_pos (by omega)]
      rfl
    · rw [if_neg first, if_neg (by omega)]
      rfl

/-- A run starts behind closed layout as it starts without it. -/
theorem moved_of_closed (front : Text) (gap : Nat) :
    State.Moved front.length (Behind front.length) (begun gap) (begun (gap + front.length)) := by
  have before : (-1 : Int) < 0 := by decide
  exact ⟨fun _ => rfl, rfl, rfl, .inl ⟨before, Int.lt_of_lt_of_le before (Int.natCast_nonneg front.length)⟩⟩

/-- An open block comment hides all of a text, wherever it stands. -/
theorem translated_of_open (closed : Closed front) (unmeasured : length? source = none) (name : Text) :
    Translated front (p.run name source).result (p.run name (front ++ source)).result := by
  have total := measure_closed_append closed source
  rw [unmeasured] at total
  have alone := fromStart_of_open (p := p) unmeasured
  have behind := fromStart_of_open (p := p) total
  rw [run_eq_unexpected_iff.2 ⟨_, _, alone, by simp, rfl⟩,
    run_eq_unexpected_iff.2 ⟨_, _, behind, by simp, rfl⟩]
  have report (text : Text) (hidden : length? text = none) :
      Expectation.report ⟨some (inQuotes "*/"), text.length, ⟨0, 0⟩⟩ = text.length := by
    have filled : text.length ≠ 0 := by
      intro empty
      rw [List.length_eq_zero_iff.1 empty] at hidden
      simp [length?, measure?] at hidden
    rw [Expectation.report, if_neg (by simp only; omega), Int.toNat_natCast]
  have moved : Frontier.Moved front.length (Behind front.length)
      (State.start.expecting (some (inQuotes "*/")) source.length).frontier
      (State.start.expecting (some (inQuotes "*/")) (front ++ source).length).frontier := by
    have nothing : Frontier.Moved front.length (Behind front.length) Frontier.start Frontier.start :=
      .inl ⟨by decide, Int.lt_of_lt_of_le (by decide) (Int.natCast_nonneg front.length)⟩
    show Frontier.Moved _ _ (Frontier.start.add ⟨some (inQuotes "*/"), source.length, ⟨0, 0⟩⟩)
      (Frontier.start.add ⟨some (inQuotes "*/"), (front ++ source).length, ⟨0, 0⟩⟩)
    refine nothing.add rfl ?_ (Int.natCast_nonneg _) ?_
    · simp only [List.length_append]
      omega
    · refine (report _ total).trans ?_
      rw [List.length_append, Nat.add_comm]
      exact congrArg (· + front.length) (report _ unmeasured).symm
  refine .unexpected (diagnose_farther moved ?_ name)
  exact Int.le_trans (Int.natCast_nonneg source.length) (Frontier.le_furthest List.mem_cons_self)

/-- A reader that does the same wherever it starts has the same result behind closed layout. -/
theorem Reader.Relocates.translated (relocates : Relocates p) (walks : Walks p) (closed : Closed front)
    (name source : Text) :
    Translated front (p.run name source).result (p.run name (front ++ source)).result := by
  cases measured : length? source with
  | none => exact translated_of_open closed measured name
  | some gap =>
    have total := measure_closed_append closed source
    rw [measured] at total
    have alone := fromStart_of_gap (p := p) measured
    have behind := fromStart_of_gap (p := p) total
    rcases (relocates front source _ _ _ (moved_of_closed front gap)).cases with
      ⟨a, t, t', run, run', _⟩ | ⟨failure, t, t', run, run', moved⟩
    · rw [run_eq_ok_iff.2 ⟨t, alone.trans run⟩, run_eq_ok_iff.2 ⟨t', behind.trans run'⟩]
      exact .read a
    · have ended := walks.ended (alone.trans run)
      have rejected (proper : ∀ fault, failure ≠ .fault fault)
          (proper' : ∀ fault, failure.moved front.length ≠ .fault fault) :
          Translated front (p.run name source).result (p.run name (front ++ source)).result := by
        rw [run_eq_unexpected_iff.2 ⟨_, t, alone.trans run, proper, rfl⟩,
          run_eq_unexpected_iff.2 ⟨_, t', behind.trans run', proper', rfl⟩]
        exact .unexpected (diagnose_farther moved.frontier (ended.furthest_nonneg (ended.filled proper)) name)
      cases failure with
      | backtrack offset => exact rejected (by simp) (by simp [Failure.moved])
      | cut offset => exact rejected (by simp) (by simp [Failure.moved])
      | fault fault =>
        by_cases deep : fault = .tooDeep
        · subst deep
          rw [run_eq_tooDeep_iff.2 ⟨t, alone.trans run, rfl⟩, run_eq_tooDeep_iff.2 ⟨t', behind.trans run', rfl⟩]
          have expecting := moved.expecting (some "less deeply nested expression") moved.offset
          refine .tooDeep (diagnose_farther expecting.frontier ?_ name)
          exact ended.shallower.furthest_nonneg (List.cons_ne_nil _ _)
        · rw [run_eq_fault_iff.2 ⟨deep, t, alone.trans run⟩, run_eq_fault_iff.2 ⟨deep, t', behind.trans run'⟩]
          exact .fault fault

end Runs

/-- Closed layout in front of a text changes only where its errors lie. -/
theorem results_translate {front : Text} (closed : Closed front) (name source : Text) :
    Translated front (parse name source).result (parse name (front ++ source)).result ∧
      Translated front (parseExpression name source).result (parseExpression name (front ++ source)).result ∧
      Translated front (parseColumnType name source).result
        (parseColumnType name (front ++ source)).result := by
  refine ⟨?_, ?_, ?_⟩
  · rw [parse_result, parse_result]
    exact relocates_statements.translated walks_statements closed name source
  · exact (relocates_whole (relocates_expression _)).translated (walks_whole (walks_expression _)) closed
      name source
  · exact (relocates_whole relocates_columnType).translated (walks_whole walks_columnType) closed name source

/-- A comment and a space put an error one line lower and one column farther on. -/
theorem results_translate_comment :
    Closed (text "// a\n ") ∧
      (parse "example" "ALTER TABLE t\n 9").result = .error (.unexpected
        ⟨"example", 13, 1, 14, ["\"ADD\""], some "\"9\"", "ALTER TABLE t", some "ALTER TABLE t\n 9"⟩) ∧
      ∃ e, (parse "example" (text "// a\n " ++ text "ALTER TABLE t\n 9")).result = .error (.unexpected e) ∧
        e.offset = 19 ∧ e.line = 2 ∧ e.column = 15 ∧ e.expected = [text "\"ADD\""] ∧ e.found = some "\"9\"" := by
  have closed : Closed (text "// a\n ") :=
    @Closed.line (text " a") (text " ") (by decide) (.blank (by decide) .nil)
  have rejected : (parse "example" "ALTER TABLE t\n 9").result = .error (.unexpected
      ⟨"example", 13, 1, 14, ["\"ADD\""], some "\"9\"", "ALTER TABLE t", some "ALTER TABLE t\n 9"⟩) := by cbv
  obtain ⟨translated, _⟩ := results_translate closed "example" "ALTER TABLE t\n 9"
  rw [rejected] at translated
  obtain ⟨e, behind, farther⟩ := translated.exists_of_unexpected
  refine ⟨closed, rejected, e, behind, farther.offset.trans ?_, farther.line.trans ?_, farther.column.trans ?_,
    farther.expected, farther.found⟩ <;> decide

end Schemata
