import Mathlib
import Schemata.Proofs.Reading.Outcome

/-! # Errors stand right after a token

An error is found at the farthest of all expectations on record. It is reported there, or right after the
last token before that place: between the two stands nothing but layout.
-/

namespace Schemata

open Layout Source Reader

/-- Where a run on a text ends. -/
def Reader.finalState {α : Type} (p : Reader α) (source : Text) : State := (fromStart p source State.start).2

/-- An error is found at the farthest expectation, and only layout stands between its report and that place. -/
def SyntaxError.Explained (source : Text) (s : State) (error : SyntaxError) : Prop :=
  ∃ e ∈ s.expectations, ∃ place report : Nat,
    (∀ other ∈ s.expectations, other.offset ≤ e.offset) ∧ e.offset = place ∧
    error.found = some (describe source place) ∧ error.offset = report ∧ LayoutBetween source report place ∧
    (report = place ∨ report = e.cursor.tokenEnd ∧ TokenEnds source report)

/-- A run puts nothing on record away from its last token, and reports an error right after one. -/
structure PlacesErrors {α : Type} (p : Reader α) (source : Text) (result : Except Rejection α) : Prop where
  /-- Wherever something is expected, only layout stands between the last token and the cursor. -/
  recorded : ∀ e ∈ (p.finalState source).expectations,
    LayoutBetween source e.cursor.tokenEnd e.cursor.offset
  stopped : LayoutBetween source (p.finalState source).cursor.tokenEnd (p.finalState source).cursor.offset
  unexpected : ∀ error, result = .error (.unexpected error) → error.Explained source (p.finalState source)
  tooDeep : ∀ error, result = .error (.tooDeep error) →
    error.Explained source (expectShallower source (p.finalState source)).2

/-- What a run has on record explains the error that it ends with. -/
theorem Reader.Ended.explains {α : Type} {source : Text} {result : Except Failure α} {t : State}
    (ended : Ended source result t) (filled : t.expectations ≠ []) (name : Text) :
    (diagnose name source t).Explained source t := by
  obtain ⟨e, member, place, report⟩ := ended.exists_frontier filled
  have recorded := ended.recorded e member
  have nonneg := recorded.offset_nonneg
  have here : (frontierOffsets t).1 = e.offset.toNat := by omega
  refine ⟨e, member, e.offset.toNat, e.report, fun other among => ?_, by omega, ?_, ?_,
    recorded.layoutBetween_report, recorded.report_eq⟩
  · have last := Frontier.le_furthest among
    have met := ended.furthest_nonneg filled
    rw [State.frontier] at met
    rw [frontierOffsets, State.frontier, if_neg (by omega)] at place
    simp only at place
    omega
  · rw [← here]
    rfl
  · rw [← report]
    rfl

/-- A reader that walks from token to token places its errors after tokens. -/
theorem Reader.Walks.placesErrors {α : Type} {p : Reader α} (walks : Walks p) (name source : Text) :
    PlacesErrors p source (p.run name source).result := by
  cases run : fromStart p source State.start with
  | mk result t =>
    have final : p.finalState source = t := by rw [finalState, run]
    have ended := walks.ended run
    refine ⟨fun e member => ?_, ?_, fun error rejected => ?_, fun error rejected => ?_⟩
    · rw [final] at member
      exact (ended.recorded e member).reached.sound.layout
    · rw [final]
      exact ended.cursor.sound.layout
    · obtain ⟨failure, u, stopped, proper, rfl⟩ := run_eq_unexpected_iff.1 rejected
      cases run.symm.trans stopped
      rw [final]
      exact ended.explains (ended.filled proper) name
    · obtain ⟨u, stopped, rfl⟩ := run_eq_tooDeep_iff.1 rejected
      cases run.symm.trans stopped
      rw [final]
      exact ended.shallower.explains (List.cons_ne_nil _ _) name

/-- Every syntax error stands where it is found, or right after the last token before that place. -/
theorem errors_stand_after_tokens (name source : Text) :
    PlacesErrors statements source (parse name source).result ∧
      PlacesErrors (whole (expression nestingLimit)) source (parseExpression name source).result ∧
      PlacesErrors (whole columnType) source (parseColumnType name source).result := by
  refine ⟨?_, ?_, ?_⟩
  · rw [parse_result]
    exact walks_statements.placesErrors name source
  · exact (walks_whole (walks_expression _)).placesErrors name source
  · exact (walks_whole walks_columnType).placesErrors name source

/-- What is found stands on the next line, and the error right after the last token before it. -/
theorem errors_stand_after_tokens_comment :
    (parse "example" "ALTER TABLE a  // b\nc").result = .error (.unexpected
        ⟨"example", 13, 1, 14, ["\"ADD\""], some "\"c\"", "ALTER TABLE a  // b",
          some "ALTER TABLE a  // b\nc"⟩) ∧
      ∃ place, describe "ALTER TABLE a  // b\nc" place = "\"c\"" ∧
        LayoutBetween "ALTER TABLE a  // b\nc" 13 place ∧ TokenEnds "ALTER TABLE a  // b\nc" 13 := by
  have rejected : (parse "example" "ALTER TABLE a  // b\nc").result = .error (.unexpected
      ⟨"example", 13, 1, 14, ["\"ADD\""], some "\"c\"", "ALTER TABLE a  // b",
        some "ALTER TABLE a  // b\nc"⟩) := by cbv
  obtain ⟨_, _, place, report, _, _, found, offset, layout, ends⟩ :=
    (errors_stand_after_tokens "example" "ALTER TABLE a  // b\nc").1.unexpected _ rejected
  obtain rfl : report = 13 := Int.ofNat_inj.1 offset.symm
  refine ⟨rejected, place, (Option.some.inj found).symm, layout, ?_⟩
  rcases ends with rfl | ⟨_, ends⟩
  · exact absurd found (by decide)
  · exact ends

end Schemata
