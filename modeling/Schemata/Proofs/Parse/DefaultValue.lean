import Mathlib
import Schemata.Proofs.Parse.Completeness
import Schemata.Proofs.Parse.TrailingLayout
import Schemata.Proofs.Reading.WholeExpression

/-! # Default values

After `DEFAULT`, an expression is read just as it is read by itself: put into the definition of a column, with
whatever layout it brings along and a line end after it, it becomes the default value. The clauses that follow
keep their meaning, also behind a variable that is named like one of them or behind a line comment.
-/

namespace Schemata

open Layout Reader

variable {tokens front back : List Token} {t u x rest : Text}

/-! ## Renderings -/

/-- The text lays out the tokens before whatever does not go on with a word. -/
def Renders (tokens : List Token) (t : Text) : Prop :=
  ∀ rest : Text, rest.startsInWord = false → Laid tokens (t ++ rest) rest

theorem renders_of_spells {token : Token} {chunk : Text}
    (spelt : ∀ after : Text, after.startsInWord = false → token.Spells chunk after) : Renders [token] chunk :=
  fun rest ended => @Laid.single rest token chunk [] (spelt rest ended) (Closed.nil.gap rest)

theorem renders_keyword {word chunk : Text} (proper : word.isKeyword = true) (width : chunk.length = word.length)
    (form : Text.upper chunk = Text.upper word) : Renders [.keyword word] chunk :=
  renders_of_spells fun _ ended => .keyword proper width form ended

theorem renders_bareName {name : Text} (filled : name ≠ []) (words : ∀ c ∈ name, c.isWord = true) :
    Renders [.name name] name :=
  renders_of_spells fun _ ended => .bareName filled words ended

theorem renders_quotedName {name : Text} (filled : name ≠ []) (unquoted : CodePoint.ofChar '"' ∉ name) :
    Renders [.name name] ('"' :: (name ++ [('"' : CodePoint)])) :=
  renders_of_spells fun _ _ => .quotedName filled unquoted

/-- Behind a space and more layout, tokens may go on. -/
theorem Renders.space {more : Text} (renders : Renders front t) (filled : front ≠ []) (layout : Closed more)
    (laid : Laid back u rest) : Laid (front ++ back) (t ++ ((' ' : CodePoint) :: (more ++ u))) rest := by
  have closed : Closed ((' ' : CodePoint) :: more) := .blank (by decide) layout
  exact ((renders ((' ' : CodePoint) :: (more ++ u)) rfl).extend filled closed).append laid

theorem Renders.append (first : Renders front t) (filled : front ≠ []) (second : Renders back u) :
    Renders (front ++ back) (t ++ (text " " ++ u)) := by
  intro rest ended
  simpa [text] using first.space filled .nil (second rest ended)

/-- Words with spaces between them. -/
theorem renders_keywords {words : List Text} (proper : ∀ word ∈ words, word.isKeyword = true) :
    Renders (Grammar.keywords words) (Text.join " " words) := by
  induction words with
  | nil => exact fun rest _ => .nil
  | cons first others ih =>
    obtain ⟨firstProper, othersProper⟩ := List.forall_mem_cons.1 proper
    have single := renders_keyword firstProper rfl rfl
    cases others with
    | nil => simpa [Text.join, Grammar.keywords] using single
    | cons second others =>
      have split : Text.join " " (first :: second :: others) =
          first ++ (text " " ++ Text.join " " (second :: others)) := by
        simp [Text.join, List.intercalate]
      rw [split]
      exact single.append (by simp) (ih othersProper)

/-! ## A table with one column -/

/-- The words of the clauses of a column, in the order of the grammar. -/
def clauseWords (primaryKey notNull unique : Bool) : List Text :=
  (if primaryKey then [text "PRIMARY", text "KEY"] else []) ++
    ((if notNull then [text "NOT", text "NULL"] else []) ++ if unique then [text "UNIQUE"] else [])

theorem keywords_clauseWords (primaryKey notNull unique : Bool) :
    Grammar.keywords (clauseWords primaryKey notNull unique) =
      Grammar.clause primaryKey ["PRIMARY", "KEY"] ++
        (Grammar.clause notNull ["NOT", "NULL"] ++ Grammar.clause unique ["UNIQUE"]) := by
  cases primaryKey <;> cases notNull <;> cases unique <;> rfl

theorem isKeyword_of_mem_clauseWords : ∀ primaryKey notNull unique : Bool,
    ∀ word ∈ clauseWords primaryKey notNull unique, word.isKeyword = true := by decide

/-- How a table and its only column are written, apart from the default value and the clauses. -/
structure Written (table : Text) (column : Column) (tableText nameText typeText : Text) : Prop where
  table : Renders [.name table] tableText
  name : Renders [.name column.name] nameText
  type : ∃ tokens, Grammar.columnType column.type tokens ∧ Renders tokens typeText

/-- The statement for a table with one column, from the texts of the names, the type and the default value. -/
def tableStatement (column : Column) (table name type value : Text) : Text :=
  text "CREATE TABLE " ++ table ++ text " (" ++ name ++ text " " ++ type ++ text " DEFAULT " ++ value ++
    text "\n" ++ Text.join " " (clauseWords column.primaryKey column.notNull column.unique) ++ text ");"

/-- A default value and the clauses after it, up to the end of the statement. The line end after the value
closes a line comment behind it. -/
theorem laid_default {body gap : Text} {value : List Token} {words : List Text} (between : Gap gap body)
    (laid : Laid value body []) (filled : value ≠ []) (proper : ∀ word ∈ words, word.isKeyword = true) :
    Laid (.keyword "DEFAULT" :: (value ++ (Grammar.keywords words ++ [.sign ")", .sign ";"])))
      (text "DEFAULT " ++ (gap ++ body) ++ text "\n" ++ Text.join " " words ++ text ");") [] := by
  have ending : Laid [.sign ")", .sign ";"] (text ")" ++ ([] ++ (text ";" ++ ([] ++ [])))) [] :=
    laid_sign ")" (by decide) (by decide) (Closed.nil.gap _)
      (laid_sign ";" (by decide) (by decide) (Closed.nil.gap []) .nil)
  have clauses := (renders_keywords proper _ rfl).append ending
  have closed : Closed gap := by
    rcases between with closed | ⟨rfl, _⟩
    · exact closed
    · have shorter := laid.length_lt filled
      simp at shorter
  have broken : Laid value (body ++ []) [] := by rwa [List.append_nil]
  have keyword : Renders [.keyword "DEFAULT"] "DEFAULT" := renders_keyword (by decide) rfl rfl
  have default := keyword.space (by simp) closed ((broken.newline_rest filled .nil _).append clauses)
  simpa [text] using default

/-- The whole statement, with the tokens of the type and of the default value. -/
theorem laid_tableStatement {table gap body t c y : Text} {column : Column} {type value : List Token}
    (tableWritten : Renders [.name table] t) (nameWritten : Renders [.name column.name] c)
    (typeWritten : Renders type y) (typed : type ≠ []) (between : Gap gap body) (laid : Laid value body [])
    (filled : value ≠ []) :
    Laid (Grammar.keywords ["CREATE", "TABLE"] ++ (.name table :: .sign "(" :: (.name column.name :: (type ++
        (.keyword "DEFAULT" :: (value ++ (Grammar.keywords
          (clauseWords column.primaryKey column.notNull column.unique) ++ [.sign ")", .sign ";"])))))))
      (tableStatement column t c y (gap ++ body)) [] := by
  have default := laid_default between laid filled
    (isKeyword_of_mem_clauseWords column.primaryKey column.notNull column.unique)
  have definition := nameWritten.space (by simp) .nil (typeWritten.space typed .nil default)
  have bracketed := laid_sign "(" (by decide) (by decide) (Closed.nil.gap _) definition
  have named := tableWritten.space (by simp) .nil bracketed
  have verb : Renders (Grammar.keywords ["CREATE", "TABLE"]) (Text.join " " [text "CREATE", text "TABLE"]) :=
    renders_keywords (by decide)
  have create := verb.space (by simp [Grammar.keywords]) .nil named
  simpa [tableStatement, text, Text.join, List.intercalate] using create

/-- What a text is read as by itself is the default value that it is read as in a column. -/
theorem expressions_become_default_values {name name' x t c y : Text} {e : Expression} {table : Text}
    {column : Column} (read : (parseExpression name x).result = .ok e) (given : column.default? = some e)
    (written : Written table column t c y) :
    (parse name' (tableStatement column t c y x)).result = .ok [.createTable table [column]] := by
  obtain ⟨gap, body, value, rfl, between, phrase, laid⟩ := exists_laid_of_parseExpression read
  obtain ⟨type, typed, typeWritten⟩ := written.type
  have whole := laid_tableStatement written.table written.name typeWritten (tokens_ne_nil_of_columnType typed)
    between laid (ne_nil_of_expression phrase)
  rw [keywords_clauseWords] at whole
  have single : Grammar.separated (.sign ",") (Grammar.column nestingLimit) [column]
      (.name column.name :: (type ++ ((.keyword "DEFAULT" :: value) ++
        (Grammar.clause column.primaryKey ["PRIMARY", "KEY"] ++
          (Grammar.clause column.notNull ["NOT", "NULL"] ++ Grammar.clause column.unique ["UNIQUE"])))) ++ []) :=
    ⟨_, [], ⟨type, .keyword "DEFAULT" :: value, typed, by rw [given]; exact ⟨value, phrase, rfl⟩, rfl⟩, rfl, rfl⟩
  have statement : Grammar.statement nestingLimit (.createTable table [column]) _ :=
    ⟨[], List.mem_cons_self, _, single, rfl⟩
  have derives : Grammar.Derives nestingLimit [.createTable table [column]]
      (tableStatement column t c y (gap ++ body)) := by
    refine ⟨_, [], tableStatement column t c y (gap ++ body), ⟨_, [], statement, rfl, rfl⟩,
      (List.nil_append _).symm, Closed.nil.gap _, ?_⟩
    simpa using whole
  exact parse_eq_ok_iff.2 (fromStart_of_derives derives (Nat.le_refl _))

/-- A variable that is named like a clause, with a line comment behind it and clauses on the next line. -/
theorem expressions_become_default_values_not :
    ∃ column : Column, column.default? = some (.var "NOT") ∧ column.notNull = true ∧ column.unique = true ∧
      tableStatement column "\"my table\"" "id" "Double Precision" " NOT // UNIQUE" =
        "CREATE TABLE \"my table\" (id Double Precision DEFAULT  NOT // UNIQUE\nNOT NULL UNIQUE);" ∧
      (parse "example"
          "CREATE TABLE \"my table\" (id Double Precision DEFAULT  NOT // UNIQUE\nNOT NULL UNIQUE);").result =
        .ok [.createTable "my table" [column]] := by
  let column : Column := ⟨"id", .known .double, some (.var "NOT"), false, true, true, by decide⟩
  have type : Renders (Grammar.keywords [text "DOUBLE", text "PRECISION"]) "Double Precision" := by
    have first : Renders [.keyword "DOUBLE"] "Double" := renders_keyword (by decide) (by decide) (by decide +kernel)
    have second : Renders [.keyword "PRECISION"] "Precision" := renders_keyword (by decide) (by decide) (by decide +kernel)
    exact first.append (by simp) second
  have known : Grammar.columnType (.known .double) (Grammar.keywords [text "DOUBLE", text "PRECISION"]) :=
    ⟨_, _, List.mem_of_getElem? (i := 7) rfl, List.mem_cons_self, rfl⟩
  have written : Written "my table" column "\"my table\"" "id" "Double Precision" :=
    ⟨@renders_quotedName "my table" (by decide) (by decide), renders_bareName (by decide) (by decide),
      _, known, type⟩
  have whole : tableStatement column "\"my table\"" "id" "Double Precision" " NOT // UNIQUE" =
      "CREATE TABLE \"my table\" (id Double Precision DEFAULT  NOT // UNIQUE\nNOT NULL UNIQUE);" := by cbv
  refine ⟨column, rfl, rfl, rfl, whole, ?_⟩
  have alone : (parseExpression "example" " NOT // UNIQUE").result = .ok (.var "NOT") := by cbv
  rw [← whole]
  exact expressions_become_default_values alone rfl written

end Schemata
