import Mathlib
import Schemata.Proofs.Text.Line
import Schemata.Report.Markdown
import Schemata.Text.Word

/-! # The shape of Markdown tables

A row of a table is one line as long as no cell has a line feed in it, and the vertical bars of the row stand
between its cells as long as each bar inside a cell has a backslash right before it. A table is in shape exactly
where all its cells are such.
-/

namespace Schemata

namespace Text

variable {t u : Text}

/-- The vertical bars without a backslash right before them, in a text that stands after a backslash or not. -/
def barsAfter : (backslash : Bool) → Text → Nat
  | _, [] => 0
  | backslash, c :: t => (if c = '|' ∧ backslash = false then 1 else 0) + barsAfter (c = '\\') t

/-- How many vertical bars have no backslash right before them. -/
def bars (t : Text) : Nat := barsAfter false t

/-- A text that keeps to a single cell of a table. -/
structure Fits (cell : Text) : Prop where
  line : CodePoint.ofChar '\n' ∉ cell
  bars : cell.bars = 0

instance (cell : Text) : Decidable cell.Fits :=
  decidable_of_iff (CodePoint.ofChar '\n' ∉ cell ∧ cell.bars = 0)
    ⟨fun fits => ⟨fits.1, fits.2⟩, fun fits => ⟨fits.line, fits.bars⟩⟩

theorem bars_bar (t : Text) : bars (('|' : CodePoint) :: t) = 1 + bars t := rfl

theorem bars_space (t : Text) : bars ((' ' : CodePoint) :: t) = bars t := Nat.zero_add _

/-- A space keeps what stands before it apart from what stands after it. -/
theorem bars_append_space (t u : Text) : bars (t ++ (' ' : CodePoint) :: u) = bars t + bars u := by
  have after (backslash : Bool) :
      barsAfter backslash (t ++ (' ' : CodePoint) :: u) = barsAfter backslash t + bars u := by
    induction t generalizing backslash with
    | nil => exact congrArg (· + bars u) (if_neg fun bar => absurd bar.1 (by decide))
    | cons c t ih => rw [List.cons_append, barsAfter, barsAfter, ih, Nat.add_assoc]
  exact after false

theorem bars_of_not_mem (absent : CodePoint.ofChar '|' ∉ t) : bars t = 0 := by
  have after (backslash : Bool) : barsAfter backslash t = 0 := by
    induction t generalizing backslash with
    | nil => rfl
    | cons c t ih =>
      rw [List.mem_cons, not_or] at absent
      rw [barsAfter, ih absent.2, if_neg fun bar => absent.1 bar.1.symm]
  exact after false

/-- A text of words fits into a cell. -/
theorem fits_of_words (words : ∀ c ∈ t, CodePoint.isWord c = true) : t.Fits where
  line member := absurd (words _ member) (by decide)
  bars := bars_of_not_mem fun member => absurd (words _ member) (by decide)

/-! ## Escaped bars -/

theorem replace_cons (target : CodePoint) (replacement : Text) (c : CodePoint) (t : Text) :
    replace target replacement (c :: t) = (if c = target then replacement else [c]) ++ replace target replacement t :=
  List.flatMap_cons

/-- Where each bar is replaced by a backslash and a bar, no bar is without a backslash. -/
theorem bars_replace (t : Text) : bars (replace '|' "\\|" t) = 0 := by
  have after (backslash : Bool) : barsAfter backslash (replace '|' "\\|" t) = 0 := by
    induction t generalizing backslash with
    | nil => rfl
    | cons c t ih =>
      rw [replace_cons]
      by_cases bar : c = CodePoint.ofChar '|'
      · rw [if_pos bar]
        show barsAfter backslash (('\\' : CodePoint) :: ('|' : CodePoint) :: replace '|' "\\|" t) = 0
        rw [barsAfter, barsAfter, ih, if_neg fun same => absurd same.1 (by decide),
          if_neg fun same => absurd same.2 (by decide)]
      · rw [if_neg bar, List.singleton_append, barsAfter, ih, if_neg fun same => bar same.1]
  exact after false

theorem newline_mem_replace_iff (t : Text) :
    CodePoint.ofChar '\n' ∈ replace '|' "\\|" t ↔ CodePoint.ofChar '\n' ∈ t := by
  induction t with
  | nil => rfl
  | cons c t ih =>
    rw [replace_cons, List.mem_append, ih, List.mem_cons]
    apply or_congr_left
    by_cases bar : c = CodePoint.ofChar '|'
    · rw [if_pos bar, bar]
      decide
    · rw [if_neg bar, List.mem_singleton]

theorem fits_replace_iff (t : Text) : Fits (replace '|' "\\|" t) ↔ CodePoint.ofChar '\n' ∉ t := by
  rw [← newline_mem_replace_iff]
  exact ⟨Fits.line, fun line => ⟨line, bars_replace t⟩⟩

end Text

namespace Report

open Text

/-! ## Rows -/

theorem row_cons (first second : Text) (others : List Text) :
    row (first :: second :: others) =
      ('|' : CodePoint) :: (' ' : CodePoint) :: (first ++ (' ' : CodePoint) :: row (second :: others)) := by
  simp [row, join_cons, text]

/-- One bar more than there are cells, and the bars inside the cells. -/
theorem bars_row {cells : List Text} (filled : cells ≠ []) :
    bars (row cells) = cells.length + 1 + (cells.map bars).sum := by
  induction cells with
  | nil => contradiction
  | cons first others ih =>
    cases others with
    | nil =>
      have whole : row [first] =
          ('|' : CodePoint) :: (' ' : CodePoint) :: (first ++ (' ' : CodePoint) :: text "|") := by
        simp [row, join, text]
      rw [whole, bars_bar, bars_space, bars_append_space, show bars (text "|") = 1 from rfl]
      simp only [List.map_cons, List.map_nil, List.sum_cons, List.sum_nil, List.length_cons, List.length_nil]
      omega
    | cons second others =>
      rw [row_cons, bars_bar, bars_space, bars_append_space, ih (by simp)]
      simp only [List.map_cons, List.sum_cons, List.length_cons]
      omega

theorem newline_mem_row_iff (cells : List Text) :
    CodePoint.ofChar '\n' ∈ row cells ↔ ∃ cell ∈ cells, CodePoint.ofChar '\n' ∈ cell := by
  have opening : CodePoint.ofChar '\n' ∉ text "| " := by decide
  have closing : CodePoint.ofChar '\n' ∉ text " |" := by decide
  simp [row, mem_join_iff, opening, closing, show CodePoint.ofChar '\n' ∉ text " | " by decide]

/-! ## Tables -/

/-- A table as a report shows it: a header, a rule below it, and rows of as many cells as the header has. -/
structure Table where
  header : List Text
  rule : Text
  rows : List (List Text)
  filled : header ≠ []
  header_fits : ∀ cell ∈ header, cell.Fits
  rule_line : CodePoint.ofChar '\n' ∉ rule
  even : ∀ cells ∈ rows, cells.length = header.length

namespace Table

variable (table : Table)

/-- The texts that a report puts one below the other to show the table. -/
def parts : List Text := row table.header :: table.rule :: table.rows.map row

/-- The lines of the table in the report. -/
def lines : List Text := table.parts.flatMap Text.lines

/-- Header and rule are followed by one line for each row, with as many bars as the header has. -/
def InShape : Prop :=
  ∃ body, table.lines = row table.header :: table.rule :: body ∧ body.length = table.rows.length ∧
    ∀ line ∈ body, bars line = bars (row table.header)

theorem lines_eq : table.lines = row table.header :: table.rule :: (table.rows.map row).flatMap Text.lines := by
  have header : CodePoint.ofChar '\n' ∉ row table.header := by
    rw [newline_mem_row_iff]
    rintro ⟨cell, member, inside⟩
    exact (table.header_fits cell member).line inside
  rw [lines, parts, List.flatMap_cons, List.flatMap_cons, lines_of_not_mem header, lines_of_not_mem table.rule_line]
  rfl

theorem bars_header : bars (row table.header) = table.header.length + 1 := by
  have plain : (table.header.map bars).sum = 0 := by
    rw [List.sum_eq_zero_iff]
    exact List.forall_mem_map.2 fun cell member => (table.header_fits cell member).bars
  rw [bars_row table.filled, plain, Nat.add_zero]

/-- A row has as many bars as the header exactly where each bar inside its cells has a backslash. -/
theorem bars_row_eq_iff {cells : List Text} (member : cells ∈ table.rows) :
    bars (row cells) = bars (row table.header) ↔ ∀ cell ∈ cells, cell.bars = 0 := by
  have filled : cells ≠ [] := by
    rintro rfl
    exact table.filled (List.length_eq_zero_iff.1 (table.even [] member).symm)
  rw [bars_row filled, bars_header, table.even cells member, Nat.add_eq_left, List.sum_eq_zero_iff]
  exact List.forall_mem_map

/-- A table is in shape exactly where all its cells fit. -/
theorem inShape_iff : table.InShape ↔ ∀ cells ∈ table.rows, ∀ cell ∈ cells, cell.Fits := by
  rw [InShape, lines_eq]
  constructor
  · rintro ⟨body, same, length, even⟩
    obtain rfl : (table.rows.map row).flatMap Text.lines = body := by simpa using same
    have absent := not_mem_of_length_flatMap_lines (length.trans (List.length_map row).symm)
    rw [flatMap_lines_of_not_mem absent] at even
    intro cells member cell inside
    have here : row cells ∈ table.rows.map row := List.mem_map_of_mem member
    have line := absent _ here
    rw [newline_mem_row_iff] at line
    exact ⟨fun newline => line ⟨cell, inside, newline⟩, (table.bars_row_eq_iff member).1 (even _ here) cell inside⟩
  · intro fits
    refine ⟨table.rows.map row, ?_, List.length_map row, ?_⟩
    · rw [flatMap_lines_of_not_mem]
      refine List.forall_mem_map.2 fun cells member => ?_
      rw [newline_mem_row_iff]
      rintro ⟨cell, inside, newline⟩
      exact (fits cells member cell inside).line newline
    · refine List.forall_mem_map.2 fun cells member => ?_
      exact (table.bars_row_eq_iff member).2 fun cell inside => (fits cells member cell inside).bars

end Table

end Report

end Schemata
