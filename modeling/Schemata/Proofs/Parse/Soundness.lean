import Mathlib
import Schemata.Proofs.Reading.Run
import Schemata.Proofs.Reading.Statement

/-! # What is accepted is derived

A text that is read as statements is derived from the grammar with exactly these statements: no character
is left outside of a token or of the layout.
-/

namespace Schemata

open Layout Reader

/-- A run that succeeds has a derivation. -/
theorem derives_of_fromStart {source : Text} {found : List Statement} {t : State}
    (success : fromStart statements source State.start = (.ok found, t)) :
    Grammar.Derives nestingLimit found source := by
  cases measured : length? source with
  | none =>
    rw [fromStart_of_open measured] at success
    cases success
  | some gap =>
    rw [fromStart_of_gap measured] at success
    obtain ⟨layout, body, split, width, between, _⟩ := gap_of_length? measured
    obtain ⟨tokens, phrase, covers⟩ := (statements_tracks.each source (begun gap)).reads found t success
    have inside : (begun gap).cursor.offset ≤ source.length := length?_le measured
    have stop : t.cursor.offset = source.length := statementsWithin_ends inside success
    have laid := covers.laid (Nat.le_of_eq stop)
    have start : source.drop gap = body := by rw [split, ← width, List.drop_left]
    rw [stop, List.drop_length] at laid
    exact ⟨tokens, layout, body, phrase, split, between, start ▸ laid⟩

theorem derives_of_parse {name source : Text} {found : List Statement}
    (success : (parse name source).result = .ok found) :
    Grammar.Derives nestingLimit found source := by
  obtain ⟨t, success⟩ := parse_eq_ok_iff.1 success
  exact derives_of_fromStart success

theorem derives_of_parse_enum :
    Grammar.Derives nestingLimit [.createEnum "mood" ["ok"]] "CREATE TYPE mood AS ENUM ('ok');" :=
  @derives_of_parse "example" _ _ (by cbv)

end Schemata
