import Mathlib
import Schemata.Proofs.Json.RoundTrip
import Schemata.Proofs.Text.Line
import Schemata.Reader.Run

/-! # Lines and carets

The place of an offset tells its line and how far into that line it stands. A syntax error shows the line and,
in the row below it, a caret: the rows start with the number of the line and with blanks of the same width, so
that the caret stands right below the code point at the offset.
-/

namespace Schemata

open Text Reader

/-- A row with a caret at its end and none before stands right below another row. That one starts with `front`
and goes on with a line, and the caret stands below the line's code point at the column. -/
def Text.CaretBelow (shown front line : Text) (column : Nat) : Prop :=
  ∃ above start below, lines shown = above ++ (front ++ line) :: (start ++ text "^") :: below ∧
    CodePoint.ofChar '^' ∉ start ∧ start.length = front.length + column

namespace SyntaxError

/-- What stands before the line that is shown. -/
def lineFront (e : SyntaxError) : Text := Text.ofInt e.line ++ text " | "

/-- What stands before the caret. -/
def caretFront (e : SyntaxError) : Text :=
  spaces (Text.ofInt e.line).length ++ text " | " ++ spaces (e.column - 1).toNat

theorem not_mem_lineFront {e : SyntaxError} {line : Nat} (numbered : e.line = line) :
    CodePoint.ofChar '\n' ∉ e.lineFront := by
  have digits : CodePoint.ofChar '\n' ∉ Text.ofNat line := fun member =>
    absurd (Json.isDecimal_of_mem_ofNat member) (by decide)
  have number : Text.ofInt e.line = Text.ofNat line := by rw [numbered]; rfl
  rw [lineFront, number, List.mem_append, not_or]
  exact ⟨digits, by decide⟩

theorem eq_of_mem_caretFront {e : SyntaxError} {c : CodePoint} (member : c ∈ e.caretFront) :
    c = CodePoint.ofChar ' ' ∨ c = CodePoint.ofChar '|' := by
  simp only [caretFront, spaces, List.mem_append, List.mem_replicate] at member
  rcases member with (⟨_, rfl⟩ | inside) | ⟨_, rfl⟩
  · exact .inl rfl
  · have among : ∀ c ∈ text " | ", c = CodePoint.ofChar ' ' ∨ c = CodePoint.ofChar '|' := by decide
    exact among c inside
  · exact .inl rfl

/-- The rows of an error that is shown, if its line is a single one. -/
theorem lines_pretty {e : SyntaxError} {line : Nat} (numbered : e.line = line)
    (single : CodePoint.ofChar '\n' ∉ e.sourceLine) :
    ∃ above below, lines e.pretty = above ++ (e.lineFront ++ e.sourceLine) :: (e.caretFront ++ text "^") :: below := by
  have row : lines (e.lineFront ++ e.sourceLine) = [e.lineFront ++ e.sourceLine] := by
    apply lines_of_not_mem
    rw [List.mem_append, not_or]
    exact ⟨not_mem_lineFront numbered, single⟩
  have mark : lines (e.caretFront ++ text "^") = [e.caretFront ++ text "^"] := by
    apply lines_of_not_mem
    rw [List.mem_append, not_or]
    refine ⟨fun member => ?_, by decide⟩
    rcases eq_of_mem_caretFront member with same | same <;> exact absurd same (by decide)
  refine ⟨lines e.heading ++ lines (spaces (Text.ofInt e.line).length ++ text " |"), e.parts.flatMap lines, ?_⟩
  have rows : e.pretty = join (text "\n") ([e.heading, spaces (Text.ofInt e.line).length ++ text " |",
      e.lineFront ++ e.sourceLine, e.caretFront ++ text "^"] ++ e.parts) := rfl
  rw [rows, lines_join (by simp)]
  simp only [List.cons_append, List.nil_append, List.flatMap_cons, row, mark, List.append_assoc]

end SyntaxError

namespace Source

/-- How the place of an offset is told, and shown in a syntax error that is reported there. -/
structure Told (source : Text) (offset line column : Nat) (content : Text) : Prop where
  stands : source.Stands offset line column content
  unique : ∀ line' column' content', source.Stands offset line' column' content' → line' = line ∧ column' = column
  place : place source offset = ⟨line + 1, column + 1⟩
  signedPlace : signedPlace source offset = (line + 1, (column : Int) + 1)
  /-- The line is shown without the carriage returns at its end. -/
  shown : ∃ returns, content = lineText source offset ++ returns ∧ ∀ c ∈ returns, c = CodePoint.ofChar '\r'
  trimmed : ∀ c, (lineText source offset).getLast? = some c → c ≠ CodePoint.ofChar '\r'
  /-- The caret stands below the code point, unless that is a line end or one of these carriage returns. -/
  caret : ∀ name s, (frontierOffsets s).2 = offset → (∃ c ∈ content.drop column, c ≠ CodePoint.ofChar '\r') →
    (∃ c, source[offset]? = some c ∧ (lineText source offset)[column]? = some c) ∧
      CaretBelow (diagnose name source s).pretty (Text.ofNat (line + 1) ++ text " | ") (lineText source offset) column

theorem caretBelow_diagnose {name source : Text} {s : State} {line column : Nat}
    (place : place source (frontierOffsets s).2 = ⟨line + 1, column + 1⟩)
    (single : CodePoint.ofChar '\n' ∉ lineText source (frontierOffsets s).2) :
    CaretBelow (diagnose name source s).pretty (Text.ofNat (line + 1) ++ text " | ")
      (lineText source (frontierOffsets s).2) column := by
  have numbered : (diagnose name source s).line = (line + 1 : Nat) := by
    simp only [diagnose, place]
  have counted : (diagnose name source s).column = (column + 1 : Nat) := by
    simp only [diagnose, place]
  obtain ⟨above, below, rows⟩ := SyntaxError.lines_pretty numbered single
  have front : (diagnose name source s).lineFront = Text.ofNat (line + 1) ++ text " | " := by
    rw [SyntaxError.lineFront, numbered]
    rfl
  refine ⟨above, (diagnose name source s).caretFront, below, ?_, fun member => ?_, ?_⟩
  · rw [rows, front]
    rfl
  · rcases SyntaxError.eq_of_mem_caretFront member with same | same <;> exact absurd same (by decide)
  · rw [← front, SyntaxError.caretFront, SyntaxError.lineFront, counted]
    simp [spaces, Nat.add_assoc]

theorem lineStart_append (front back : Text) :
    lineStart (front ++ back) front.length + (front.afterLast '\n').length = front.length := by
  have := length_afterLast_le '\n' front
  simp only [lineStart, List.take_left]
  omega

theorem place_append (front back : Text) : place (front ++ back) front.length =
    ⟨front.count (CodePoint.ofChar '\n') + 1, (front.afterLast '\n').length + 1⟩ := by
  have start := lineStart_append front back
  simp only [place, List.take_left, Place.mk.injEq, true_and]
  omega

theorem signedPlace_append (front back : Text) : signedPlace (front ++ back) front.length =
    (front.count (CodePoint.ofChar '\n') + 1, ((front.afterLast '\n').length : Int) + 1) := by
  have start := lineStart_append front back
  have nonneg : ¬ (front.length : Int) < 0 := by omega
  simp only [signedPlace, resolve, if_neg nonneg, Int.toNat_natCast, place_append, Prod.mk.injEq, true_and]
  omega

theorem lineText_append (front back : Text) : lineText (front ++ back) front.length =
    dropRight (· = '\r') (front.afterLast '\n' ++ back.before '\n') := by
  simp only [lineText, List.take_left, List.drop_left]

/-- What is left of a line at a column is not shown only if all of it is dropped. -/
theorem lt_length_of_visible {shown returns : Text} {column : Nat}
    (dropped : ∀ c ∈ returns, c = CodePoint.ofChar '\r')
    (visible : ∃ c ∈ (shown ++ returns).drop column, c ≠ CodePoint.ofChar '\r') : column < shown.length := by
  obtain ⟨c, after, proper⟩ := visible
  refine Nat.lt_of_not_le fun late => proper (dropped c ?_)
  rw [List.drop_append, List.drop_of_length_le late, List.nil_append] at after
  exact List.mem_of_mem_drop after

/-- Lines, columns, the line that is shown and the caret below it all point at the code point of an offset. -/
theorem places_point_at_code_points (source : Text) {offset : Nat} (inside : offset ≤ source.length) :
    ∃ line column content, Told source offset line column content := by
  obtain ⟨front, back, rfl, rfl⟩ : ∃ front back : Text, source = front ++ back ∧ front.length = offset :=
    ⟨source.take offset, source.drop offset, (List.take_append_drop offset source).symm,
      List.length_take_of_le inside⟩
  have stands := stands_append front back
  have absent : CodePoint.ofChar '\n' ∉ front.afterLast '\n' ++ back.before '\n' := by
    rw [List.mem_append, not_or]
    exact ⟨not_mem_afterLast _ _, not_mem_before _ _⟩
  obtain ⟨returns, content, dropped, trimmed⟩ := dropRight_split (· = '\r')
    (front.afterLast '\n' ++ back.before '\n')
  rw [← lineText_append] at content trimmed
  refine ⟨_, _, _, stands, fun _ _ _ => stands.unique, place_append front back, signedPlace_append front back,
    ⟨returns, content, fun c member => by simpa using dropped c member⟩,
    fun c last => by simpa using trimmed c last, fun name s here visible => ⟨?_, ?_⟩⟩
  · rw [content] at visible
    have early := lt_length_of_visible (fun c member => by simpa using dropped c member) visible
    have reads := getElem?_of_stands_append front back
    rw [content, List.getElem?_append_left early, List.getElem?_eq_getElem early] at reads
    refine ⟨_, (reads ?_).symm, List.getElem?_eq_getElem early⟩
    rw [List.length_append]
    omega
  · rw [← here]
    rw [← here] at content
    refine caretBelow_diagnose ?_ ?_
    · rw [here, place_append]
    · intro member
      exact absent (content ▸ List.mem_append_left _ member)

/-- The offset stands in the second line, before a carriage return that is not shown. -/
theorem places_point_at_code_points_return : 3 ≤ List.length ("a\nbc\r\n" : Text) ∧
    Told "a\nbc\r\n" 3 1 1 "bc\r" := by
  have inside : 3 ≤ List.length ("a\nbc\r\n" : Text) := by decide
  obtain ⟨line, column, content, told⟩ := places_point_at_code_points "a\nbc\r\n" inside
  have here : Source.place "a\nbc\r\n" 3 = ⟨2, 2⟩ := by decide
  obtain ⟨rfl, rfl⟩ : line = 1 ∧ column = 1 := by simpa [here] using told.place.symm
  have listed : (lines "a\nbc\r\n")[1]? = some (text "bc\r") := by cbv
  obtain rfl : content = text "bc\r" := Option.some.inj (told.stands.listed.symm.trans listed)
  exact ⟨inside, told⟩

end Source

end Schemata
