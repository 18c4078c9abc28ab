import Schemata.Proofs.Reading.Phrase
import Schemata.Proofs.Reading.Run

/-! # Readers of statements

The readers of columns, keys and statements keep to the grammar, and so does the reader of a whole schema.
The words that settle the kind of a statement make its failures final, which changes neither what is read
nor what is expected.
-/

namespace Schemata

namespace Reader

theorem defaultValue_tracks :
    Tracks defaultValue fun value tokens => Grammar.defaultClause nestingLimit (some value) tokens := by
  apply (keyword_tracks (by decide)).bind
  rintro _ _ rfl
  exact (expression_tracks (nestingLimit - 1)).mono fun value inner phrase => ⟨inner, phrase, rfl⟩

theorem column_tracks : Tracks column (Grammar.column nestingLimit) := by
  apply identifier_tracks.bind
  rintro name _ ⟨filled, rfl⟩
  refine columnType_tracks.bind fun type typeTokens typed => ?_
  refine defaultValue_tracks.optional.bind fun default? defaultTokens default => ?_
  apply (clause_tracks (by decide)).bind
  rintro primaryKey _ rfl
  apply (clause_tracks (by decide)).bind
  rintro notNull _ rfl
  refine (keyword_tracks (by decide)).isPresent.bind fun unique uniqueTokens clause => ?_
  obtain rfl : uniqueTokens = Grammar.clause unique ["UNIQUE"] := by
    cases unique with
    | false => exact clause
    | true =>
      obtain ⟨_, rfl⟩ := clause
      rfl
  simp only [Column.named?, dif_pos filled]
  refine .pure ⟨typeTokens, defaultTokens, typed, ?_, by simp⟩
  cases default? with
  | none => exact default
  | some value => exact default

theorem onDelete_tracks :
    Tracks onDelete fun action tokens => Grammar.deleteClause (some action) tokens := by
  have proper : ∀ entry ∈ OnDelete.spellings, ∀ word ∈ entry.1, word.isSign = true := by decide
  apply (keywords_tracks (by decide)).bind
  rintro _ _ rfl
  refine .choice ⟨.restrict, [.sign "RESTRICT"], ⟨["RESTRICT"], by decide, rfl⟩, ?_⟩ fun reader member => ?_
  · intro token member
    obtain rfl := List.mem_singleton.1 member
    exact ⟨_, .sign (by decide) (Bool.and_false _)⟩
  · obtain ⟨⟨words, action⟩, listed, rfl⟩ := List.mem_map.1 member
    have read : Tracks (keywordsAs false words) fun _ tokens => tokens = words.map .sign :=
      tracks_mapM fun word inside => sign_tracks (proper _ listed word inside) _
    apply read.bind
    rintro _ _ rfl
    exact .pure ⟨words, listed, by simp⟩

theorem name_tracks_between : Tracks (between "(" ")" identifier) fun name tokens =>
    tokens = [.sign "(", .name name, .sign ")"] := by
  apply (between_tracks (by decide) (by decide) identifier_tracks).mono
  rintro name _ ⟨_, ⟨_, rfl⟩, rfl⟩
  rfl

theorem foreignKey_tracks : Tracks foreignKey Grammar.foreignKey := by
  apply (keywords_tracks (by decide)).bind
  rintro _ _ rfl
  apply name_tracks_between.bind
  rintro column _ rfl
  apply (keyword_tracks (by decide)).bind
  rintro _ _ rfl
  apply identifier_tracks.bind
  rintro table _ ⟨_, rfl⟩
  refine name_tracks_between.optional.bind fun referenced front phrase => ?_
  obtain rfl : front = Grammar.referencedColumn referenced := by cases referenced <;> exact phrase
  refine onDelete_tracks.optional.bind fun action back delete => ?_
  refine .pure ⟨back, ?_, by simp⟩
  cases action <;> exact delete

/-! ## Statements -/

theorem createExtension_tracks : Tracks createExtension (Grammar.statement nestingLimit) := by
  apply (keywords_tracks (by decide)).bind
  rintro _ _ rfl
  refine .commit ?_
  apply (clause_tracks (by decide)).bind
  rintro guarded _ rfl
  apply (quoted_tracks (.inr rfl) _).bind
  rintro name _ rfl
  apply (symbol_tracks (by decide)).bind
  rintro _ _ rfl
  have phrase : Grammar.statement nestingLimit (.createExtension name true)
      (Grammar.keywords ["CREATE", "EXTENSION"] ++ (Grammar.clause guarded ["IF", "NOT", "EXISTS"] ++
        ([.literal '"' name] ++ ([.sign ";"] ++ [])))) := by
    refine ⟨rfl, Grammar.clause guarded ["IF", "NOT", "EXISTS"], ?_, by simp⟩
    cases guarded <;> simp [Grammar.clause]
  cases guarded with
  | true => exact .pure phrase
  | false =>
    apply (Tracks.remark _).bind
    rintro _ _ rfl
    exact .pure phrase

theorem publicSchema_tracks :
    Tracks publicSchema fun _ tokens => tokens = [.keyword "public", .sign "."] := by
  apply (keyword_tracks (by decide)).bind
  rintro _ _ rfl
  apply (symbol_tracks (by decide)).bind
  rintro _ _ rfl
  exact .pure rfl

theorem createTable_tracks : Tracks createTable (Grammar.statement nestingLimit) := by
  apply (keywords_tracks (by decide)).bind
  rintro _ _ rfl
  refine .commit ?_
  refine publicSchema_tracks.optional.bind fun schema schemaTokens qualified => ?_
  apply identifier_tracks.bind
  rintro name _ ⟨_, rfl⟩
  apply (between_tracks (by decide) (by decide) (sepBy_tracks (by decide) column_tracks)).bind
  rintro columns _ ⟨inner, phrase, rfl⟩
  apply (symbol_tracks (by decide)).bind
  rintro _ _ rfl
  refine .pure ⟨schemaTokens, ?_, inner, phrase, by simp⟩
  cases schema with
  | none =>
    obtain rfl : schemaTokens = [] := qualified
    simp
  | some _ =>
    obtain rfl : schemaTokens = [.keyword "public", .sign "."] := qualified
    simp

theorem createEnum_tracks : Tracks createEnum (Grammar.statement nestingLimit) := by
  apply (keywords_tracks (by decide)).bind
  rintro _ _ rfl
  refine .commit ?_
  apply identifier_tracks.bind
  rintro name _ ⟨_, rfl⟩
  apply (keywords_tracks (by decide)).bind
  rintro _ _ rfl
  refine (between_tracks (by decide) (by decide)
    (sepBy_tracks (by decide) stringLiteral_tracks)).bind ?_
  rintro values _ ⟨inner, phrase, rfl⟩
  apply (symbol_tracks (by decide)).bind
  rintro _ _ rfl
  exact .pure ⟨inner, phrase, by simp⟩

theorem addConstraint_tracks : Tracks addConstraint (Grammar.statement nestingLimit) := by
  apply (keywords_tracks (by decide)).bind
  rintro _ _ rfl
  refine .commit ?_
  apply identifier_tracks.bind
  rintro table _ ⟨_, rfl⟩
  apply (keywords_tracks (by decide)).bind
  rintro _ _ rfl
  apply identifier_tracks.bind
  rintro name _ ⟨_, rfl⟩
  refine foreignKey_tracks.bind fun key inner phrase => ?_
  apply (symbol_tracks (by decide)).bind
  rintro _ _ rfl
  exact .pure ⟨inner, phrase, by simp⟩

theorem statement_tracks : ∀ kind ∈ statementKinds, Tracks kind (Grammar.statement nestingLimit) := by
  intro kind member
  simp only [statementKinds, List.mem_cons, List.not_mem_nil, or_false] at member
  rcases member with rfl | rfl | rfl | rfl | rfl
  · exact createExtension_tracks
  · exact createTable_tracks
  · exact createEnum_tracks
  · exact addConstraint_tracks
  · apply comment_tracks.mono
    rintro _ _ ⟨content, rfl, rfl⟩
    rfl

theorem viable_statement (limit : Nat) : (Grammar.statement limit).Viable [] := by
  have line : Token.CommentLine [] [] [] := by constructor <;> simp
  refine ⟨.comment [], [.comment []], rfl, fun token member => ?_⟩
  obtain rfl := List.mem_singleton.1 member
  exact ⟨_, .comment line rfl⟩

theorem statementThen_of_tracks {rounds : Nat}
    (others : Tracks (statementsWithin statementKinds rounds) (Grammar.schema nestingLimit)) :
    Tracks (statementThen statementKinds rounds) (Grammar.schema nestingLimit) := by
  refine (Tracks.choice (viable_statement _) statement_tracks).bind fun first front phrase => ?_
  apply (Tracks.remark _).bind
  rintro _ _ rfl
  refine others.bind fun rest back more => ?_
  exact .pure ⟨front, back, phrase, more, by simp⟩

theorem statementsWithin_tracks (rounds : Nat) :
    Tracks (statementsWithin statementKinds rounds) (Grammar.schema nestingLimit) := by
  induction rounds with
  | zero => exact .refuse _ (.of_phrase (a := []) rfl)
  | succ rounds ih =>
    apply Tracks.atEnd.bind
    rintro ended _ rfl
    cases ended with
    | true => exact .pure rfl
    | false =>
      apply (Tracks.expectHere _).bind
      rintro _ _ rfl
      exact statementThen_of_tracks ih

theorem statements_tracks : Tracks statements (Grammar.schema nestingLimit) := by
  apply Tracks.wholeSource.bind
  rintro source _ rfl
  exact statementsWithin_tracks _

/-- Statements fail only before the end of the text, where the end is one of the things expected. -/
theorem expectations_of_statements {source : Text} {s t : State} {failure : Failure}
    (stopped : statements source s = (.error failure, t)) :
    s.cursor.offset < source.length ∧ ∃ new, t.expectations =
      new ++ ⟨some "end of input", s.cursor.offset, s.cursor⟩ :: s.expectations := by
  have whole : statements source s = statementsWithin statementKinds (source.length + 1) source s := rfl
  rw [whole, statementsWithin_succ] at stopped
  split at stopped
  · cases stopped
  · refine ⟨by omega, ?_⟩
    have tracks := statementThen_of_tracks (statementsWithin_tracks source.length)
    obtain ⟨new, added, _⟩ :=
      (tracks.each source (s.expecting (some "end of input") s.cursor.offset)).records
    rw [stopped] at added
    exact ⟨new, added⟩

end Reader

end Schemata
