import Mathlib
import Schemata.Proofs.Loop.Lexeme
import Schemata.Proofs.Loop.Reading
import Schemata.Proofs.Parse.Completeness
import Schemata.Proofs.Reading.Outcome
import Schemata.Proofs.Source.Window

/-! # Statements in syntax errors

A syntax error shows the piece between semicolons around the place of its report. There always is one, since
only a text that is not blank is rejected. It is cut out of the text without regard to literals, names and
comments, and so it holds the statement that failed, from its beginning up to the report, exactly where no
semicolon stands between the two, unless that one ends the text.
-/

namespace Schemata

open Layout Source Reader

/-! ## The last round -/

section LastRound

variable {α : Type} {source : Text} {s t u : State}

/-- A loop over items fails where its last round fails. -/
theorem Reader.exists_last_of_error {round : Reader (Option α)} {rounds : Nat} {failure : Failure}
    (ended : (itemLoop round source).outcome? rounds s = some (.error failure, t)) :
    ∃ u, ((itemLoop round source).starts rounds s).getLast? = some u ∧ round source u = (.error failure, t) := by
  induction rounds generalizing s with
  | zero => cases ended
  | succ rounds ih =>
    cases run : round source s with
    | mk result v =>
      cases result with
      | error other =>
        have stops : itemLoop round source s = .last (.error other, v) := by rw [itemLoop, run]
        rw [Loop.outcome?, stops] at ended
        cases ended
        exact ⟨s, by rw [Loop.starts_of_last stops]; rfl, run⟩
      | ok item =>
        cases item with
        | none =>
          have stops : itemLoop round source s = .last (.ok [], v) := by rw [itemLoop, run]
          rw [Loop.outcome?, stops] at ended
          cases ended
        | some a =>
          have moves : itemLoop round source s = .next v fun later => (later.1.map (a :: ·), later.2) := by
            rw [itemLoop, run]
          rw [Loop.outcome?, moves] at ended
          obtain ⟨⟨rest, w⟩, later, same⟩ := Option.map_eq_some_iff.1 ended
          obtain ⟨stopped, rfl⟩ := Prod.mk.inj same
          cases rest with
          | ok items => cases stopped
          | error other =>
            cases stopped
            obtain ⟨u, last, failed⟩ := ih later
            exact ⟨u, by rw [Loop.starts_of_next moves, List.getLast?_cons, last]; rfl, failed⟩

/-- A round on a text that is laid out as a statement reads it, and the layout after it, if that is closed. -/
theorem Reader.statementRound_of_laid {statement : Statement} {front : List Token} {last : Token}
    {chunk after body : Text} (phrase : Grammar.statement nestingLimit statement (front ++ [last]))
    (spelt : last.Spells chunk after) (laid : Laid front body (chunk ++ after)) (here : At source s body) :
    (∀ gap, length? after = some gap → ∃ u, statementRound source s = (.ok (some statement), u) ∧
        source.drop u.cursor.offset = after.drop gap) ∧
      (length? after = none → ∃ failure u, statementRound source s = (.error failure, u)) := by
  obtain ⟨front', last', same, reads⟩ := reaches_statement phrase (Nat.le_refl _)
  obtain ⟨rfl, equal⟩ := List.append_inj' same rfl
  cases equal
  obtain ⟨final, reaches⟩ := reads chunk after body spelt laid
  have filled : 0 < body.length := by
    refine Nat.lt_of_lt_of_le ?_ laid.length_le
    rw [List.length_append, Nat.add_pos_iff_pos_or_pos]
    exact .inl (List.length_pos_iff.2 (Text.ne_nil_of_isSign spelt.isSign))
  have unfinished : s.cursor.offset < source.length := by
    have := here.inside
    omega
  obtain ⟨s₁, there, _, ends⟩ :=
    reaches source (s.expecting (some "end of input") s.cursor.offset) (here.of_cursor rfl)
  have stop : source.drop (s₁.cursor.offset + chunk.length) = after := by
    rw [← List.drop_drop, there.rest, List.drop_left]
  rw [statementRound_of_unfinished unfinished, bind_apply]
  constructor
  · intro gap measured
    obtain ⟨u, read, _, cursor⟩ := ends.closed gap (by rw [stop, measured])
    rw [read]
    refine ⟨_, rfl, ?_⟩
    show source.drop u.cursor.offset = _
    rw [cursor, ← List.drop_drop, stop]
  · intro unmeasured
    obtain ⟨offset, u, stopped, _⟩ := ends.opened (by rw [stop, unmeasured])
    rw [stopped]
    exact ⟨_, _, rfl⟩

/-- After a statement all of the layout is skipped. -/
theorem Reader.settled_of_statementRound {statement : Statement}
    (read : statementRound source s = (.ok (some statement), t)) : Settled (source.drop t.cursor.offset) := by
  obtain ⟨unfinished, u, same, chosen⟩ := exists_of_statementRound read
  have tracks := Tracks.choice (viable_statement _) statement_tracks
  obtain ⟨tokens, phrase, covers⟩ := (tracks.each source _).reads _ u chosen
  obtain ⟨front, last, rfl⟩ := exists_last_of_ne_nil (ne_nil_of_statement phrase (Nat.le_refl _))
  obtain ⟨w, laid, single⟩ := (covers.laid (Lands.choice lands_statement source _ _ u chosen)).split
  have here : At source s (source.drop s.cursor.offset) := ⟨rfl, by rw [List.length_drop]; omega⟩
  cases single with
  | @cons _ _ chunk gap _ _ spelt _ _ =>
    obtain ⟨closed, opened⟩ := statementRound_of_laid phrase spelt laid here
    cases measured : length? (gap ++ _) with
    | none =>
      obtain ⟨_, _, stopped⟩ := opened measured
      cases read.symm.trans stopped
    | some width =>
      obtain ⟨_, again, stop⟩ := closed width measured
      cases read.symm.trans again
      rw [stop]
      exact settled_drop measured

end LastRound

/-! ## The report of a syntax error -/

/-- A run ends with a syntax error. -/
inductive RejectedWith {α : Type} : Except Rejection α → SyntaxError → Prop
  | unexpected (error : SyntaxError) : RejectedWith (.error (.unexpected error)) error
  | tooDeep (error : SyntaxError) : RejectedWith (.error (.tooDeep error)) error

theorem RejectedWith.of_eq {α : Type} {result : Except Rejection α} {error : SyntaxError}
    (ended : result = .error (.unexpected error)) : RejectedWith result error := by
  rw [ended]
  exact .unexpected error

/-- A syntax error shows what is found at the place of its report. -/
theorem RejectedWith.exists_report {α : Type} {p : Reader α} {name source : Text} {error : SyntaxError}
    (rejected : RejectedWith (p.run name source).result error) :
    ∃ failure t, ∃ r : Nat, fromStart p source State.start = (.error failure, t) ∧ error.offset = r ∧
      error.fragment = fragment? source r := by
  generalize ended : (p.run name source).result = result at rejected
  cases rejected with
  | unexpected =>
    obtain ⟨failure, t, run, _, rfl⟩ := run_eq_unexpected_iff.1 ended
    exact ⟨failure, t, _, run, rfl, rfl⟩
  | tooDeep =>
    obtain ⟨t, run, rfl⟩ := run_eq_tooDeep_iff.1 ended
    exact ⟨_, t, _, run, rfl, rfl⟩

theorem Layout.closed_of_isBlank {t : Text} (blank : t.isBlank = true) : Closed t := by
  induction t with
  | nil => exact .nil
  | cons c t ih =>
    rw [Text.isBlank, List.all_cons, Bool.and_eq_true] at blank
    exact .blank blank.1 (ih blank.2)

/-- A blank text has no statements, and is not rejected. -/
theorem Reader.fromStart_of_isBlank {source : Text} (blank : source.isBlank = true) :
    ∃ t, fromStart statements source State.start = (.ok [], t) := by
  have derives : Grammar.Derives 0 [] source :=
    ⟨[], source, [], rfl, (List.append_nil source).symm, (closed_of_isBlank blank).gap [], .nil⟩
  exact fromStart_of_derives derives (Nat.zero_le _)

/-- For every offset of a text that is not blank there is a piece to be shown, and so every syntax error
shows one. -/
theorem fragments_are_found (name source : Text) :
    (∀ offset, FindsFragment source offset) ∧
      ∀ error, RejectedWith (parse name source).result error → ∃ shown, error.fragment = some shown := by
  refine ⟨findsFragment source, fun error rejected => ?_⟩
  rw [parse_result] at rejected
  obtain ⟨failure, t, r, run, _, fragment⟩ := rejected.exists_report
  have filled : source.isBlank = false := by
    refine Bool.eq_false_iff.2 fun blank => ?_
    obtain ⟨u, accepted⟩ := fromStart_of_isBlank blank
    cases run.symm.trans accepted
  obtain ⟨_, _, shown, found, _⟩ := (findsFragment source r).found filled
  exact ⟨shown, fragment.trans found⟩

/-- Past the end of a text that ends in blanks its last statement is shown; a statement without a name is
shown where it fails. -/
theorem fragments_are_found_past_end :
    (∃ start stop, Piece "CREATE TYPE a AS ENUM ();\n\n" start stop ∧
        Shows (slice "CREATE TYPE a AS ENUM ();\n\n" start stop) "CREATE TYPE a AS ENUM ();") ∧
      ∃ error shown, (parse "example" "ALTER TABLE;\n").result = .error (.unexpected error) ∧
        error.fragment = some shown := by
  constructor
  · have shows : fragment? "CREATE TYPE a AS ENUM ();\n\n" 40 = some "CREATE TYPE a AS ENUM ();" := by cbv
    obtain ⟨start, stop, shown, found, piece, _, holds⟩ :=
      ((fragments_are_found "example" "CREATE TYPE a AS ENUM ();\n\n").1 40).found (by decide)
    obtain rfl := Option.some.inj (found.symm.trans shows)
    exact ⟨start, stop, piece, holds⟩
  · have rejected : (parse "example" "ALTER TABLE;\n").result = .error (.unexpected ⟨"example", 11, 1, 12,
        ["identifier"], some "\";\"", "ALTER TABLE;", some "ALTER TABLE;"⟩) := by cbv
    obtain ⟨shown, fragment⟩ := (fragments_are_found "example" "ALTER TABLE;\n").2 _ (.of_eq rejected)
    exact ⟨_, shown, rejected, fragment⟩

/-! ## The statement that fails -/

/-- Where the last statement of a run begins; there is none behind an open block comment. -/
def lastStatement? (source : Text) : Option Nat := do
  let lead ← length? source
  let last ← ((itemLoop statementRound source).starts (source.length + 1) (begun lead)).getLast?
  pure last.cursor.offset

/-- A statement begins at `b`, and the semicolon at `i` closes it. -/
def ClosesStatement (source : Text) (b i : Nat) : Prop :=
  source[i]? = some (';' : CodePoint) ∧ ∃ statement front,
    Grammar.statement nestingLimit statement (front ++ [.sign ";"]) ∧ Laid front (source.drop b) (source.drop i)

/-- How much a syntax error shows of a statement that begins at `b`. -/
structure ShowsStatement (source : Text) (error : SyntaxError) (b : Nat) : Prop where
  /-- The piece around the report is cut at semicolons; it holds the statement up to the report unless one
  stands in between. -/
  shown : ∃ (r start stop : Nat) (shown : Text), error.offset = r ∧ error.fragment = some shown ∧
    Chosen source r start stop ∧ Shows (slice source start stop) shown ∧
    (Holds source start stop b r ↔ Uninterrupted source b r)
  /-- No semicolon closes the statement, unless an open block comment follows it. -/
  unclosed : ∀ i, ClosesStatement source b i → length? (source.drop (i + 1)) = none

/-- Where the last statement of a failing run begins: at something that is not layout, with a round that
fails. -/
theorem Reader.exists_of_lastStatement? {source : Text} {failure : Failure} {t : State} {b : Nat}
    (run : fromStart statements source State.start = (.error failure, t))
    (begins : lastStatement? source = some b) :
    ∃ u : State, u.cursor.offset = b ∧ b < source.length ∧ Settled (source.drop b) ∧
      statementRound source u = (.error failure, t) := by
  obtain ⟨lead, measured, rest⟩ := Option.bind_eq_some_iff.1 begins
  obtain ⟨u, last, same⟩ := Option.bind_eq_some_iff.1 rest
  obtain rfl := Option.some.inj same
  rw [fromStart_of_gap measured] at run
  have ended := (statements_ends source (begun lead)).finished _ (Nat.le_refl _)
  rw [run] at ended
  obtain ⟨v, again, stopped⟩ := exists_last_of_error ended
  cases last.symm.trans again
  have settled : Settled (source.drop u.cursor.offset) := by
    refine Loop.of_mem_starts (P := fun s => Settled (source.drop s.cursor.offset)) (settled_drop measured) ?_
      (List.mem_of_getLast? last)
    intro s v complete moves
    obtain ⟨statement, read⟩ := exists_of_itemLoop_eq_next moves
    exact settled_of_statementRound read
  refine ⟨u, rfl, Nat.lt_of_not_le fun ended => ?_, settled, stopped⟩
  rw [statementRound_of_ended ended] at stopped
  cases stopped

/-- Settled text does not begin with a blank. -/
theorem Layout.exists_of_settled {source : Text} {b : Nat} (inside : b < source.length)
    (settled : Settled (source.drop b)) : ∃ c, source[b]? = some c ∧ c.isBlank = false := by
  refine ⟨source[b], List.getElem?_eq_getElem inside, Bool.eq_false_iff.2 fun blank => ?_⟩
  rw [Settled, List.drop_eq_getElem_cons inside, length?_cons_blank blank] at settled
  obtain ⟨_, _, same⟩ := Option.map_eq_some_iff.1 settled
  cases same

/-- A syntax error shows the statement that failed exactly as far as no semicolon cuts the text. -/
theorem fragments_are_cut_at_semicolons {name source : Text} {error : SyntaxError} {b : Nat}
    (rejected : RejectedWith (parse name source).result error) (begins : lastStatement? source = some b) :
    ShowsStatement source error b := by
  rw [parse_result] at rejected
  obtain ⟨failure, t, r, run, offset, fragment⟩ := rejected.exists_report
  obtain ⟨u, rfl, inside, settled, stopped⟩ := exists_of_lastStatement? run begins
  obtain ⟨c, place, filled⟩ := exists_of_settled inside settled
  constructor
  · have inked : source.isBlank = false := isBlank_false_of_getElem? place filled
    obtain ⟨chosen, _⟩ := filledWindow_chosen inked r
    exact ⟨r, _, _, _, offset, fragment.trans (fragment?_eq_some inked r), chosen,
      filledWindow_content source r ▸ shows_shorten _, filledWindow_holds_iff place filled r⟩
  · rintro i ⟨semicolon, statement, front, phrase, laid⟩
    have within := (List.getElem?_eq_some_iff.1 semicolon).1
    have split : source.drop i = text ";" ++ source.drop (i + 1) := by
      rw [List.drop_eq_getElem_cons within, (List.getElem?_eq_some_iff.1 semicolon).2]
      rfl
    rw [split] at laid
    have spelt : (Token.sign ";").Spells (text ";") (source.drop (i + 1)) := .sign (by decide) rfl
    have here : At source u (source.drop u.cursor.offset) := ⟨rfl, by rw [List.length_drop]; omega⟩
    cases measured : length? (source.drop (i + 1)) with
    | none => rfl
    | some gap =>
      obtain ⟨v, read, _⟩ := (statementRound_of_laid phrase spelt laid here).1 gap measured
      cases stopped.symm.trans read

/-- A semicolon in the layout before the statement that fails leaves all of the statement in the piece. -/
theorem fragments_are_cut_at_semicolons_layout :
    ∃ error, (parse "example" "/* a; */ ALTER TABLE;").result = .error (.unexpected error) ∧
      error.fragment = some "*/ ALTER TABLE;" ∧ ShowsStatement "/* a; */ ALTER TABLE;" error 9 := by
  have rejected : (parse "example" "/* a; */ ALTER TABLE;").result = .error (.unexpected ⟨"example", 20, 1, 21,
      ["identifier"], some "\";\"", "/* a; */ ALTER TABLE;", some "*/ ALTER TABLE;"⟩) := by cbv
  exact ⟨_, rejected, rfl, fragments_are_cut_at_semicolons (.of_eq rejected) (by cbv)⟩

/-- A semicolon in a literal hides the beginning of the only statement of a text. -/
theorem semicolon_in_literal_hides_statement :
    lastStatement? "CREATE TYPE t AS ENUM ('a;b' 'c');" = some 0 ∧
      (parse "example" "CREATE TYPE t AS ENUM ('a;b' 'c');").result = .error (.unexpected
        ⟨"example", 28, 1, 29, ["\",\"", "\")\""], some "\"'\"", "CREATE TYPE t AS ENUM ('a;b' 'c');",
          some "b' 'c');"⟩) ∧
      filledWindow "CREATE TYPE t AS ENUM ('a;b' 'c');" 28 = ⟨26, "b' 'c');"⟩ ∧
      ¬ Holds "CREATE TYPE t AS ENUM ('a;b' 'c');" 26 34 0 28 :=
  ⟨by cbv, by cbv, by cbv, fun holds => absurd holds.starts (by decide)⟩

end Schemata
