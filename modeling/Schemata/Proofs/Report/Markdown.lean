import Mathlib
import Schemata.Proofs.Json.RoundTrip
import Schemata.Proofs.Parse.Soundness
import Schemata.Proofs.Report.Injective
import Schemata.Proofs.Report.ReadBack
import Schemata.Proofs.Report.Table
import Schemata.Report.Export

/-! # Tables of accepted texts

The statements of an accepted text can be shown as Markdown: a table of the statements, and a table of the columns
for each table of the schema that has any. The text leaves comments without line feeds and types of words, so only
quoted names and literals bring a line feed or a bar along. In the statement table a bar does no harm, since it
is escaped there; in the column tables it stands as it is.
-/

namespace Schemata

open Layout Reader Report

/-! ## What an accepted text tells of its statements -/

namespace Grammar

variable {limit : Nat}

/-- Tokens that some text spells are a phrase for the value. -/
def Written {α : Type} (L : Language α) (a : α) : Prop :=
  ∃ tokens, L a tokens ∧ ∀ token ∈ tokens, ∃ chunk after, token.Spells chunk after

theorem written_of_derives {statements : List Statement} {source : Text} (derives : Derives limit statements source) :
    ∀ statement ∈ statements, Written (Grammar.statement limit) statement := by
  intro statement member
  obtain ⟨tokens, _, _, phrase, _, _, laid⟩ := derives
  obtain ⟨part, inside, found⟩ := exists_phrase_of_schema phrase member
  exact ⟨part, found, fun token present => laid.spelt token (inside present)⟩

theorem written_column {name : Text} {columns : List Column}
    (written : Written (statement limit) (.createTable name columns)) :
    ∀ c ∈ columns, Written (column limit) c := by
  intro c member
  obtain ⟨tokens, ⟨_, _, inner, phrase, rfl⟩, spelt⟩ := written
  obtain ⟨part, inside, found⟩ := exists_phrase_of_separated phrase member
  exact ⟨part, found, fun token present => spelt token (by simp [inside present])⟩

/-- The name of a type of its own is a word. -/
theorem fits_type {c : Column} (written : Written (column limit) c) : c.type.format.Fits := by
  obtain ⟨tokens, ⟨type, default, phrase, _, rfl⟩, spelt⟩ := written
  cases named : c.type with
  | known type => cases type <;> decide
  | custom name =>
    rw [named] at phrase
    obtain ⟨_, _, rfl⟩ := phrase
    obtain ⟨_, _, spelling⟩ := spelt (.typeName name) (by simp)
    cases spelling with
    | typeName _ words _ => exact Text.fits_of_words words

theorem line_comment {content : Text} (written : Written (statement limit) (.comment content)) :
    CodePoint.ofChar '\n' ∉ content := by
  obtain ⟨_, rfl, spelt⟩ := written
  obtain ⟨_, _, spelling⟩ := spelt (.comment content) (by simp)
  cases spelling with
  | comment line _ => exact line.content_line

theorem wellFormed_expression {e : Expression} {tokens : List Token} (phrase : expression limit e tokens) :
    e.WellFormed := by
  induction limit generalizing e tokens with
  | zero => cases phrase
  | succ limit ih =>
    cases e with
    | var name => exact .var name
    | literal value => exact .literal value
    | other value => cases phrase
    | call function args =>
      obtain ⟨_, inner, items, _⟩ := phrase
      refine .call function fun arg member => ?_
      obtain ⟨part, _, found⟩ := exists_phrase_of_separated items member
      exact ih found

theorem wellFormed_column {c : Column} (written : Written (column limit) c) : c.WellFormed := by
  obtain ⟨tokens, ⟨_, default, _, phrase, _⟩, _⟩ := written
  intro e given
  rw [Option.mem_def] at given
  rw [given] at phrase
  obtain ⟨inner, found, _⟩ := phrase
  exact wellFormed_expression found

end Grammar

/-! ## Descriptions of statements -/

/-- The names and values that the description of a statement shows. -/
def Statement.shownNames : Statement → List Text
  | createExtension name _ | createTable name _ => [name]
  | createEnum name values => name :: values
  | addConstraint table name (.foreignKey key) =>
    [name, table, key.column, key.referencedTable] ++ key.referencedColumn.toList
  | addConstraint table name (.other _) => [name, table]
  | comment _ | other _ => []

/-- Digits fit into a cell. -/
theorem Text.fits_ofNat (n : Nat) : (Text.ofNat n).Fits where
  line member := absurd (Json.isDecimal_of_mem_ofNat member) (by decide)
  bars := Text.bars_of_not_mem fun member => absurd (Json.isDecimal_of_mem_ofNat member) (by decide)

theorem ForeignKey.newline_mem_target_iff (key : ForeignKey) : CodePoint.ofChar '\n' ∈ key.target ↔
    CodePoint.ofChar '\n' ∈ key.referencedTable ∨ ∃ column ∈ key.referencedColumn, CodePoint.ofChar '\n' ∈ column := by
  have dot : CodePoint.ofChar '\n' ∉ text "." := by decide
  cases given : key.referencedColumn with
  | none => simp [target, given]
  | some column =>
    by_cases empty : column = []
    · simp [target, given, empty, Option.filter]
    · simp [target, given, empty, dot, Option.filter]

theorem ForeignKey.newline_mem_describe_iff (key : ForeignKey) : CodePoint.ofChar '\n' ∈ key.describe ↔
    CodePoint.ofChar '\n' ∈ key.column ∨ CodePoint.ofChar '\n' ∈ key.referencedTable ∨
      ∃ column ∈ key.referencedColumn, CodePoint.ofChar '\n' ∈ column := by
  have arrow : CodePoint.ofChar '\n' ∉ text " -> " := by decide
  cases deleted : key.onDelete with
  | none => simp [describe, deleted, arrow, key.newline_mem_target_iff]
  | some action =>
    have clause : CodePoint.ofChar '\n' ∉ text " ON DELETE " ++ action.name := by cases action <;> decide
    rw [List.mem_append, not_or] at clause
    simp [describe, deleted, arrow, clause, key.newline_mem_target_iff]

/-- The description of a statement is one line exactly where its names and values are. -/
theorem Statement.newline_mem_describe_iff {limit : Nat} {s : Statement}
    (written : Grammar.Written (Grammar.statement limit) s) :
    CodePoint.ofChar '\n' ∈ s.describe ↔ ∃ name ∈ s.shownNames, CodePoint.ofChar '\n' ∈ name := by
  cases s with
  | createExtension name ifNotExists =>
    have words : CodePoint.ofChar '\n' ∉ text "extension " := by decide
    simp [describe, shownNames, words]
  | createTable name columns =>
    have words : CodePoint.ofChar '\n' ∉ text "table " := by decide
    have opening : CodePoint.ofChar '\n' ∉ text " (" := by decide
    have closing : CodePoint.ofChar '\n' ∉ text " columns)" := by decide
    simp [describe, shownNames, words, opening, closing, (Text.fits_ofNat _).line]
  | createEnum name values =>
    have words : CodePoint.ofChar '\n' ∉ text "enum " := by decide
    have colon : CodePoint.ofChar '\n' ∉ text ": " := by decide
    have comma : CodePoint.ofChar '\n' ∉ text ", " := by decide
    simp [describe, shownNames, words, colon, Text.mem_join_iff comma]
  | addConstraint table name constraint =>
    have words : CodePoint.ofChar '\n' ∉ text "constraint " := by decide
    have on : CodePoint.ofChar '\n' ∉ text " on " := by decide
    have colon : CodePoint.ofChar '\n' ∉ text ": " := by decide
    cases constraint with
    | foreignKey key =>
      simp [describe, shownNames, Constraint.describe, words, on, colon, key.newline_mem_describe_iff]
    | other value => exact written.elim fun _ phrase => phrase.1.elim
  | comment content =>
    have dashes : CodePoint.ofChar '\n' ∉ text "-- " := by decide
    simp [describe, shownNames, dashes, Grammar.line_comment written]
  | other value => exact written.elim fun _ phrase => phrase.1.elim

theorem Statement.fits_kind {limit : Nat} {s : Statement} (written : Grammar.Written (Grammar.statement limit) s) :
    s.kind.Fits := by
  cases s with
  | createExtension => exact (by decide : Text.Fits "CreateExtension")
  | createTable => exact (by decide : Text.Fits "CreateTable")
  | createEnum => exact (by decide : Text.Fits "CreateEnumType")
  | addConstraint => exact (by decide : Text.Fits "AddConstraint")
  | comment => exact (by decide : Text.Fits "Comment")
  | other value => exact written.elim fun _ phrase => phrase.1.elim

/-! ## Default values -/

theorem Expression.WellFormed.exists_format {e : Expression} (well : e.WellFormed) : ∃ t, e.format = .ok t := by
  induction well with
  | var name => exact ⟨name, by rw [Expression.format]⟩
  | literal value => exact ⟨_, by rw [Expression.format]⟩
  | call function _ ih =>
    obtain ⟨shown, written, _⟩ := formatAll_of_forall fun arg member =>
      (ih arg member).imp fun t formatted => ⟨formatted, trivial⟩
    exact ⟨_, by rw [Expression.format, written]; rfl⟩

/-- The default value of a column in words, if there are words for it. -/
def Column.shownDefault? (column : Column) : Option Text := column.formatDefault?.toOption.join

theorem Column.WellFormed.formatDefault? {column : Column} (well : column.WellFormed) :
    column.formatDefault? = .ok column.shownDefault? := by
  cases given : column.default? with
  | none => simp [Column.shownDefault?, Column.formatDefault?, given, Except.toOption]
  | some e =>
    obtain ⟨t, formatted⟩ := (well e given).exists_format
    simp [Column.shownDefault?, Column.formatDefault?, given, formatted, Except.toOption]

namespace Report

/-! ## The tables of a report -/

/-- The table of all statements, with a bar in a description escaped. -/
def statementTable (report : Report) : Table where
  header := ["#", "Оператор", "Описание"]
  rule := "|---|----------|----------|"
  rows := report.numbered.map fun (number, statement) =>
    [Text.ofNat number, statement.kind, Text.replace '|' "\\|" statement.describe]
  filled := by simp
  header_fits := by decide
  rule_line := by decide
  even := List.forall_mem_map.2 fun _ _ => rfl

def columnCells (column : Column) : List Text :=
  [column.name, column.type.format, column.shownDefault?.getD [], checkMark column.primaryKey,
    checkMark column.notNull, checkMark column.unique]

/-- The table of the columns of a table. -/
def columnTable (columns : List Column) : Table where
  header := ["Колонка", "Тип", "DEFAULT", "PK", "NOT NULL", "UNIQUE"]
  rule := "|---------|-----|---------|----|----------|--------|"
  rows := columns.map columnCells
  filled := by simp
  header_fits := by decide
  rule_line := by decide
  even := List.forall_mem_map.2 fun _ _ => rfl

/-- The texts that show a statement below the statement table. -/
def sectionParts : Statement → List Text
  | .createTable name columns =>
    [[], text "## " ++ name, []] ++ if columns.isEmpty then [text "_нет колонок_"] else (columnTable columns).parts
  | _ => []

theorem mapM_eq_ok {α β ε : Type} {f : α → Except ε β} {g : α → β} {values : List α}
    (each : ∀ a ∈ values, f a = .ok (g a)) : values.mapM f = .ok (values.map g) := by
  induction values with
  | nil => rfl
  | cons a values ih =>
    obtain ⟨first, others⟩ := List.forall_mem_cons.1 each
    rw [List.mapM_cons, first, ih others]
    rfl

theorem columnRow_eq {column : Column} (well : column.WellFormed) :
    columnRow column = .ok (row (columnCells column)) := by
  rw [columnRow, well.formatDefault?]
  rfl

theorem sectionLines_eq {limit : Nat} {s : Statement} (written : Grammar.Written (Grammar.statement limit) s) :
    sectionLines s = .ok (sectionParts s) := by
  cases s with
  | createTable name columns =>
    have rows : columns.mapM columnRow = .ok (columns.map fun column => row (columnCells column)) :=
      mapM_eq_ok fun column member =>
        columnRow_eq (Grammar.wellFormed_column (Grammar.written_column written column member))
    rw [sectionLines, tableLines, rows]
    simp [sectionParts, Table.parts, columnTable, Function.comp_def]
  | _ => rfl

/-- The parts of a report in Markdown: a title, the statement table, and a section for each table of the schema. -/
def markdownParts (report : Report) : List Text :=
  [text "# Схема \x60" ++ report.source.title ++ text "\x60", []] ++ report.statementTable.parts
    ++ report.statements.flatMap sectionParts

theorem asMarkdown_eq {report : Report} {limit : Nat}
    (written : ∀ s ∈ report.statements, Grammar.Written (Grammar.statement limit) s) :
    report.asMarkdown = .ok (Text.join "\n" report.markdownParts) := by
  have sections : report.statements.mapM sectionLines = .ok (report.statements.map sectionParts) :=
    mapM_eq_ok fun s member => sectionLines_eq (written s member)
  rw [asMarkdown, sections]
  simp [markdownParts, statementTable, Table.parts, statementRow, List.flatMap_def, Function.comp_def]

/-! ## Which cells fit -/

theorem map_snd_numbered (report : Report) : report.numbered.map Prod.snd = report.statements := by
  rw [numbered, List.map_snd_zip]
  simp

theorem forall_mem_numbered_iff {report : Report} {P : Statement → Prop} :
    (∀ entry ∈ report.numbered, P entry.2) ↔ ∀ s ∈ report.statements, P s := by
  rw [← List.forall_mem_map, map_snd_numbered]

/-- The statement table is in shape exactly where no name and no value in a description has a line feed. -/
theorem statementTable_inShape_iff {report : Report} {limit : Nat}
    (written : ∀ s ∈ report.statements, Grammar.Written (Grammar.statement limit) s) :
    report.statementTable.InShape ↔
      ∀ s ∈ report.statements, ∀ name ∈ s.shownNames, CodePoint.ofChar '\n' ∉ name := by
  have row (number : Nat) {s : Statement} (here : Grammar.Written (Grammar.statement limit) s) :
      (∀ cell ∈ [Text.ofNat number, s.kind, Text.replace '|' "\\|" s.describe], cell.Fits) ↔
        ∀ name ∈ s.shownNames, CodePoint.ofChar '\n' ∉ name := by
    simp only [List.forall_mem_cons, Text.fits_ofNat, Statement.fits_kind here, Text.fits_replace_iff, true_and,
      Statement.newline_mem_describe_iff here]
    simp
  rw [Table.inShape_iff, ← forall_mem_numbered_iff]
  refine List.forall_mem_map.trans (forall₂_congr fun entry member => row entry.1 (written entry.2 ?_))
  exact report.map_snd_numbered ▸ List.mem_map_of_mem member

theorem fits_checkMark (flag : Bool) : (checkMark flag).Fits := by cases flag <;> decide

/-- A column table is in shape exactly where the names of the columns and their default values in words fit. -/
theorem columnTable_inShape_iff {columns : List Column} {limit : Nat}
    (written : ∀ c ∈ columns, Grammar.Written (Grammar.column limit) c) :
    (columnTable columns).InShape ↔ ∀ c ∈ columns, c.name.Fits ∧ ∀ shown ∈ c.shownDefault?, shown.Fits := by
  rw [Table.inShape_iff]
  refine List.forall_mem_map.trans (forall₂_congr fun c member => ?_)
  have default : (c.shownDefault?.getD []).Fits ↔ ∀ shown ∈ c.shownDefault?, shown.Fits := by
    cases c.shownDefault? with
    | none => simpa using (by decide : Text.Fits [])
    | some shown => simp
  simp [columnCells, Grammar.fits_type (written c member), fits_checkMark, default]

/-! ## The lines of a report -/

/-- The lines below the statement table that show a statement: a heading and the columns, if it creates a table. -/
def shownSection : Statement → List Text
  | .createTable name columns =>
    [] :: (Text.lines (text "## " ++ name) ++
      [] :: if columns.isEmpty then [text "_нет колонок_"] else (columnTable columns).lines)
  | _ => []

theorem lines_sectionParts (s : Statement) : (sectionParts s).flatMap Text.lines = shownSection s := by
  cases s with
  | createTable name columns =>
    have body : (if columns.isEmpty then [text "_нет колонок_"] else (columnTable columns).parts).flatMap Text.lines =
        if columns.isEmpty then [text "_нет колонок_"] else (columnTable columns).lines := by
      split
      · exact Text.flatMap_lines_of_not_mem (by decide)
      · rfl
    rw [sectionParts, List.flatMap_append, body]
    simp [shownSection, show Text.lines [] = [[]] from rfl]
  | _ => rfl

/-- What the text shows of the report. -/
structure ShownAs (report : Report) (output : Text) : Prop where
  written : report.writeAs (some "markdown") = .ok output
  /-- The lines are those of the title, an empty one, those of the statement table, and those of the sections. -/
  lines : Text.lines output = Text.lines (text "# Схема \x60" ++ report.source.title ++ text "\x60") ++
    [] :: (report.statementTable.lines ++ report.statements.flatMap shownSection)
  rows : report.statementTable.rows.length = report.statements.length
  /-- Bars are escaped in the statement table, so only a line feed does harm there. -/
  statements : report.statementTable.InShape ↔
    ∀ s ∈ report.statements, ∀ name ∈ s.shownNames, CodePoint.ofChar '\n' ∉ name
  /-- In a column table, bars and line feeds of a name or a default value stand as they are. -/
  columns : ∀ name columns, .createTable name columns ∈ report.statements →
    (∀ c ∈ columns, c.formatDefault? = .ok c.shownDefault?) ∧
      ((columnTable columns).InShape ↔ ∀ c ∈ columns, c.name.Fits ∧ ∀ shown ∈ c.shownDefault?, shown.Fits)

/-- The statements of an accepted text are shown as Markdown. All its tables are in shape except where a name or a
value has a line feed, or the name or the default value of a column has a bar without a backslash. -/
theorem tables_are_in_shape_where_cells_fit {name source : Text} {report : Report}
    (accepted : (parse name source).result = .ok report.statements) : ∃ output, report.ShownAs output := by
  obtain ⟨_, success⟩ := parse_eq_ok_iff.1 accepted
  have written := Grammar.written_of_derives (derives_of_fromStart success)
  have format : OutputFormat.resolve (some "markdown") = .ok .markdown := by decide
  refine ⟨Text.join "\n" report.markdownParts, ?_, ?_, ?_, statementTable_inShape_iff written, ?_⟩
  · rw [writeAs, format]
    exact asMarkdown_eq written
  · rw [Text.lines_join (by simp [markdownParts]), markdownParts, List.flatMap_append, List.flatMap_append,
      List.flatMap_assoc]
    simp [lines_sectionParts, Table.lines, show Text.lines [] = [[]] from rfl]
  · rw [statementTable, List.length_map, ← List.length_map Prod.snd, map_snd_numbered]
  · intro table columns member
    have each := Grammar.written_column (written _ member)
    exact ⟨fun c inside => (Grammar.wellFormed_column (each c inside)).formatDefault?, columnTable_inShape_iff each⟩

/-- A bar in the name of a type, in a value and in a comment is escaped, one in a default value has a backslash in
the text already; so both tables are in shape. -/
theorem tables_are_in_shape_where_cells_fit_escaped :
    let id : Column := ⟨"id", .known .int, some (.literal "\\|"), false, false, false, by decide⟩
    let report : Report :=
      ⟨"now", .standard, .unknown, [.createEnum "a|b" ["|"], .createTable "t" [id], .comment "|"]⟩
    (parse "example" "CREATE TYPE \"a|b\" AS ENUM ('|'); CREATE TABLE t (id INT DEFAULT '\\\\|'); -- |").result =
        .ok report.statements ∧
      (∃ output, report.ShownAs output) ∧ report.statementTable.InShape ∧ (columnTable [id]).InShape := by
  intro id report
  have accepted : (parse "example"
      "CREATE TYPE \"a|b\" AS ENUM ('|'); CREATE TABLE t (id INT DEFAULT '\\\\|'); -- |").result =
      .ok report.statements := by cbv
  obtain ⟨output, shown⟩ := tables_are_in_shape_where_cells_fit accepted
  refine ⟨accepted, ⟨output, shown⟩, shown.statements.2 (by decide), ?_⟩
  refine (shown.columns "t" [id] (by decide)).2.2 (List.forall_mem_singleton.2 ⟨by decide, ?_⟩)
  have words : id.shownDefault? = some (text "'\\|'") := by cbv
  rw [words]
  decide

/-- A bar in the name of a column stands in its row as it is: the row has eight bars below a header of seven. -/
theorem bar_in_column_name_adds_cell :
    let column : Column := ⟨"a|b", .known .text, none, false, false, false, by decide⟩
    let report : Report := ⟨"now", .standard, .unknown, [.createTable "t" [column]]⟩
    let header := text "| Колонка | Тип | DEFAULT | PK | NOT NULL | UNIQUE |"
    let line := text "| a|b | TEXT |  |  |  |  |"
    (parse "example" "CREATE TABLE t (\"a|b\" TEXT);").result = .ok report.statements ∧
      (∃ output, report.writeAs (some "markdown") = .ok output ∧
        (Text.lines output).drop 8 = [header, text "|---------|-----|---------|----|----------|--------|", line]) ∧
      Text.bars header = 7 ∧ Text.bars line = 8 := by
  intro column report header line
  refine ⟨by cbv, ⟨Text.join "\n" report.markdownParts, by cbv, ?_⟩, by decide, by decide⟩
  have single : ∀ part ∈ report.markdownParts, CodePoint.ofChar '\n' ∉ part := by decide
  rw [Text.lines_join (by simp [markdownParts]), Text.flatMap_lines_of_not_mem single]
  cbv

end Report

end Schemata
