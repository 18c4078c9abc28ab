import Mathlib
import Schemata.Proofs.Parse.Placement

/-! # How far a run may leave its text

A keyword is passed over by its own length. At the end of a text it can stand for one code point less, where
the upper-case form of a code point has two letters; the cursor is then left one code point beyond the end.
No run leaves its text farther than that, and none does where every upper-case form is a single letter.
-/

namespace Schemata

open Layout Source Reader

namespace Source

/-- How far beyond its end a text may be left. -/
def slack (source : Text) : Nat := if source.any CodePoint.expands then 1 else 0

/-- The line of an offset, up to its line end. -/
def ownLine (source : Text) (offset : Nat) : Text :=
  Text.afterLast '\n' (source.take offset) ++ Text.before '\n' (source.drop offset)

variable {source : Text} {offset : Nat}

theorem Within.le (within : Within source offset) : offset ≤ source.length + slack source := by
  rcases within with inside | ⟨beyond, c, member, expands⟩
  · exact Nat.le_trans inside (Nat.le_add_right _ _)
  · have found : source.any CodePoint.expands = true := List.any_eq_true.2 ⟨c, member, expands⟩
    rw [slack, if_pos found]
    exact Nat.le_of_eq beyond

/-- A column counts from one, and at most as far beyond its line as the offset lies beyond the text. -/
theorem column_le {excess : Nat} (near : offset ≤ source.length + excess) :
    1 ≤ (place source offset).column ∧
      (place source offset).column ≤ (ownLine source offset).length + 1 + excess := by
  have last := Text.length_afterLast_le '\n' (source.take offset)
  have passed := @List.length_take _ offset source
  simp only [place, lineStart, ownLine, List.length_append]
  omega

end Source

/-- The place of a syntax error, as far beyond the text and beyond its line as the text may be left. -/
structure SyntaxError.Near (source : Text) (error : SyntaxError) : Prop where
  offset : 0 ≤ error.offset ∧ error.offset ≤ source.length + slack source
  column : 1 ≤ error.column ∧
    error.column ≤ (ownLine source error.offset.toNat).length + 1 + slack source

/-- The run of a reader arrives at a cursor: it stops there, or it expects something there. -/
def Reader.ArrivesAt {α : Type} (p : Reader α) (source : Text) (c : Cursor) : Prop :=
  c = (p.finalState source).cursor ∨ ∃ e ∈ (p.finalState source).expectations, c = e.cursor

/-- The run of a reader comes by a cursor: at the start of the text, or token by token on a way from the first
token to a cursor at which it arrives. -/
inductive Reader.ComesBy {α : Type} (p : Reader α) (source : Text) : Cursor → Prop
  | atStart : ComesBy p source ⟨0, 0⟩
  | onWay {lead : Nat} {c d : Cursor} : length? source = some lead → Route source ⟨lead, lead⟩ c →
      Route source c d → p.ArrivesAt source d → ComesBy p source c

/-- A run stays near its text wherever it comes by, and so do its syntax errors. -/
structure StaysNear {α : Type} (p : Reader α) (source : Text) (result : Except Rejection α) : Prop where
  near : ∀ c, p.ComesBy source c → c.tokenEnd ≤ c.offset ∧ c.offset ≤ source.length + slack source
  arrives : ∀ c, p.ArrivesAt source c → p.ComesBy source c
  unexpected : ∀ error, result = .error (.unexpected error) → error.Near source
  tooDeep : ∀ error, result = .error (.tooDeep error) → error.Near source

theorem Cursor.Reached.near {source : Text} {c : Cursor} (reached : c.Reached source) :
    c.tokenEnd ≤ c.offset ∧ c.offset ≤ source.length + slack source :=
  ⟨reached.sound.layout.forward, reached.sound.within.le⟩

theorem Reader.ComesBy.reached {α : Type} {p : Reader α} {source : Text} {c : Cursor}
    (comes : p.ComesBy source c) : c.Reached source := by
  cases comes with
  | atStart => exact .atStart
  | onWay measured way _ _ => exact .onRoute measured way

theorem Cursor.Reached.comesBy {α : Type} {p : Reader α} {source : Text} {c : Cursor}
    (reached : c.Reached source) (arrives : p.ArrivesAt source c) : p.ComesBy source c := by
  cases reached with
  | atStart => exact .atStart
  | onRoute measured route => exact .onWay measured route .refl arrives

/-- Where something was expected, the error that a run ends with stands near the text. -/
theorem Reader.Ended.near {α : Type} {source : Text} {result : Except Failure α} {t : State}
    (ended : Ended source result t) (filled : t.expectations ≠ []) (name : Text) :
    (diagnose name source t).Near source := by
  obtain ⟨e, member, _, report⟩ := ended.exists_frontier filled
  have near := (ended.recorded e member).within_report.le
  rw [← report] at near
  have column := column_le near
  exact ⟨⟨Int.natCast_nonneg _, Int.ofNat_le.2 near⟩, Int.ofNat_le.2 column.1, Int.ofNat_le.2 column.2⟩

/-- A reader that walks from token to token stays near the text. -/
theorem Reader.Walks.staysNear {α : Type} {p : Reader α} (walks : Walks p) (name source : Text) :
    StaysNear p source (p.run name source).result := by
  cases run : fromStart p source State.start with
  | mk result t =>
    have final : p.finalState source = t := by rw [finalState, run]
    have ended := walks.ended run
    refine ⟨fun c comes => comes.reached.near, fun c arrives => ?_, fun error rejected => ?_,
      fun error rejected => ?_⟩
    · have reached : c.Reached source := by
        rcases arrives with rfl | ⟨e, member, rfl⟩
        · rw [final]
          exact ended.cursor
        · rw [final] at member
          exact (ended.recorded e member).reached
      exact reached.comesBy arrives
    · obtain ⟨failure, u, stopped, proper, rfl⟩ := run_eq_unexpected_iff.1 rejected
      cases run.symm.trans stopped
      exact ended.near (ended.filled proper) name
    · obtain ⟨u, stopped, rfl⟩ := run_eq_tooDeep_iff.1 rejected
      cases run.symm.trans stopped
      exact ended.shallower.near (List.cons_ne_nil _ _) name

/-- No run leaves its text by more than one code point, and none does where no code point has a longer
upper-case form. -/
theorem runs_stay_near (name source : Text) :
    StaysNear statements source (parse name source).result ∧
      StaysNear (whole (expression nestingLimit)) source (parseExpression name source).result ∧
      StaysNear (whole columnType) source (parseColumnType name source).result := by
  refine ⟨?_, ?_, ?_⟩
  · rw [parse_result]
    exact walks_statements.staysNear name source
  · exact (walks_whole (walks_expression _)).staysNear name source
  · exact (walks_whole walks_columnType).staysNear name source

/-- At the end of this text one code point stands for the `ST` of `CONSTRAINT`, and the error is reported one
code point beyond the end. -/
theorem parse_leaves_text :
    (parse "<input>" "ALTER TABLE a ADD CONﬆRAINT").result = .error (.unexpected
        ⟨"<input>", 28, 1, 29, ["identifier"], some "end of input", "ALTER TABLE a ADD CONﬆRAINT",
          some "ALTER TABLE a ADD CONﬆRAINT"⟩) ∧
      (text "ALTER TABLE a ADD CONﬆRAINT").length = 27 := by
  have rejected : (parse "<input>" "ALTER TABLE a ADD CONﬆRAINT").result = .error (.unexpected
      ⟨"<input>", 28, 1, 29, ["identifier"], some "end of input", "ALTER TABLE a ADD CONﬆRAINT",
        some "ALTER TABLE a ADD CONﬆRAINT"⟩) := by cbv
  exact ⟨rejected, by decide⟩

end Schemata
