import Schemata.Proofs.Reading.AcceptPhrase

/-! # Reading statements back

Columns, keys and statements are read from every layout of their tokens. For a statement the layout after
its last token is left open: what it is decides whether the statement is read or refused.
-/

namespace Schemata

open Layout

namespace Reader

variable {α β : Type} {h t u v rest : Text} {p : Reader α} {a : α}
  {outcome : Text → State → Except Failure β × State → Prop} {tokens : List Token}

/-! ## Columns -/

theorem accepts_defaultValue {limit : Nat} {value : Expression} {tokens : List Token}
    (phrase : Grammar.defaultClause limit (some value) tokens) (deep : limit ≤ nestingLimit) :
    Accepts defaultValue value tokens fun u => u.head? ≠ some (CodePoint.ofChar '(') := by
  obtain ⟨inner, phrase, rfl⟩ := phrase
  intro h t u laid ahead followed
  refine keyword_then laid ahead fun _ w laid => ?_
  exact accepts_expression phrase deep h w u laid ahead followed

theorem accepts_column {limit : Nat} {column : Column} {tokens : List Token}
    (phrase : Grammar.column limit column tokens) (deep : limit ≤ nestingLimit) :
    Accepts Reader.column column tokens Delimited := by
  obtain ⟨type, default, typed, defaulted, rfl⟩ := phrase
  intro h t u laid ahead delimited
  replace laid : Laid (.name column.name :: (type ++ (default ++
      (Grammar.clause column.primaryKey ["PRIMARY", "KEY"] ++
        (Grammar.clause column.notNull ["NOT", "NULL"] ++
          (Grammar.clause column.unique ["UNIQUE"] ++ [])))))) t u := by simpa using laid
  -- which keywords may stand before each of the clauses
  have beforeUnique : ∀ w, Laid (Grammar.clause column.unique ["UNIQUE"] ++ []) w u →
      FollowedBy ["UNIQUE"] w :=
    fun w laid => .clause laid fun x past => past.eq_of_nil ▸ .inl delimited
  have beforeNotNull := fun w (laid : Laid (Grammar.clause column.notNull ["NOT", "NULL"] ++ _) w u) =>
    FollowedBy.clause laid beforeUnique
  have beforeKey := fun w (laid : Laid (Grammar.clause column.primaryKey ["PRIMARY", "KEY"] ++ _) w u) =>
    FollowedBy.clause laid beforeNotNull
  have beforeDefault := fun w (laid : Laid (default ++ _) w u) =>
    FollowedBy.optional defaulted (fun _ empty => empty)
      (fun _ ⟨inner, _, led⟩ => ⟨inner, led⟩) laid beforeKey
  refine name_then laid ahead fun w laid => ?_
  refine phrase_then (accepts_columnType typed) laid ahead beforeDefault fun w laid => ?_
  obtain ⟨x, defaultLaid, clauses⟩ := laid.split
  have atClauses := beforeKey x clauses
  have read : Passes h (optional defaultValue) column.default? w x := by
    apply passes_optional defaulted (fun _ empty => empty) defaultLaid
    · have absent : stands "DEFAULT" true x = false := atClauses.not_stands (by decide) (by decide)
      exact ((misses_keyword (by decide) absent).halts (ahead.of_laid clauses).within).bind
    · intro value phrase
      exact accepts_defaultValue phrase deep h w x defaultLaid (ahead.of_laid clauses) atClauses.head?_ne
  apply read.bind
  refine clause_then clauses ahead (by decide)
    (fun laid => (beforeNotNull x laid).not_stands (by decide) (by decide)) fun w laid => ?_
  refine clause_then laid ahead (by decide)
    (fun laid => (beforeUnique w laid).not_stands (by decide) (by decide)) fun w laid => ?_
  have named : Column.named? column.name column.type column.default? column.primaryKey column.notNull
      column.unique = some column := by simp [Column.named?, column.name_ne]
  have unique : Passes h (isPresent (keyword "UNIQUE")) column.unique w u := by
    cases given : column.unique with
    | false =>
      rw [given] at laid
      obtain rfl : w = u := laid.eq_of_nil
      have absent := not_stands_of_not_startsInWord (by decide : Text.isKeyword "UNIQUE" = true)
        delimited.startsInWord
      exact ((misses_keyword (by decide) absent).halts ahead.within).isPresent
    | true =>
      rw [given] at laid
      obtain ⟨_, x, _, past, read⟩ := (keyword_serves "UNIQUE").passes laid ahead
      rw [past.eq_of_nil] at read
      exact read.isPresent
  apply unique.bind
  rw [named]
  exact Passes.pure h column u

/-! ## Keys -/

theorem isSign_of_mem_spellings : ∀ entry ∈ OnDelete.spellings, ∀ word ∈ entry.1,
    word.isSign = true := by decide

/-- The first code point of an action tells which action it is. -/
theorem action_of_head : ∀ entry ∈ OnDelete.spellings, ∀ other ∈ OnDelete.spellings,
    entry.1.head?.map List.head? = other.1.head?.map List.head? → entry = other := by decide

theorem accepts_onDelete {action : OnDelete} {tokens : List Token}
    (phrase : Grammar.deleteClause (some action) tokens) : Accepts onDelete action tokens fun _ => True := by
  obtain ⟨words, listed, rfl⟩ := phrase
  intro h t u laid ahead _
  refine keywords_then laid ahead fun _ w laid => ?_
  replace laid : Laid (words.map .sign ++ []) w u := by simpa using laid
  obtain ⟨answers, x, past, read⟩ := passes_mapM
    (fun word _ => sign_serves word (inQuotes word)) laid ahead
  rw [past.eq_of_nil] at read
  have passes : Passes h (do let _ ← keywordsAs false words; pure action) action w u :=
    read.bind (Passes.pure h action u)
  refine passes_choice (List.mem_map.2 ⟨_, listed, rfl⟩) ?_ passes
  intro reader member
  obtain ⟨⟨others, other⟩, otherListed, rfl⟩ := List.mem_map.1 member
  by_cases same : words.head?.map List.head? = others.head?.map List.head?
  · obtain ⟨⟩ := action_of_head _ listed _ otherListed same
    exact .inr passes
  · refine .inl (Halts.bind ?_)
    have filled : ∀ entry ∈ OnDelete.spellings, entry.1 ≠ [] := by decide
    obtain ⟨word, words, rfl⟩ := List.exists_cons_of_ne_nil (filled _ listed)
    obtain ⟨other, others, rfl⟩ := List.exists_cons_of_ne_nil (filled _ otherListed)
    have otherFilled : other ≠ [] := by
      rintro rfl
      exact absurd (isSign_of_mem_spellings _ otherListed [] List.mem_cons_self) (by decide)
    have differ : w.head? ≠ other.head? := by
      rw [(leads_of_laid laid).sign]
      exact fun equal => same (congrArg some equal)
    rw [keywordsAs, List.mapM_cons]
    exact ((misses_sign otherFilled differ _).halts (ahead.of_laid laid).within).bind

theorem accepts_bracketedName (name : Text) : Accepts (between "(" ")" identifier) name
    [.sign "(", .name name, .sign ")"] fun _ => True :=
  accepts_between ((accepts_token (name_serves name)).mono fun _ _ => trivial)

theorem accepts_foreignKey {key : ForeignKey} {tokens : List Token} (phrase : Grammar.foreignKey key tokens) :
    Accepts foreignKey key tokens fun u => u.head? = some (CodePoint.ofChar ';') := by
  obtain ⟨action, delete, rfl⟩ := phrase
  intro h t u laid ahead closed
  have delimited : Delimited u := ⟨';', by decide, closed⟩
  replace laid : Laid (Grammar.keywords ["FOREIGN", "KEY"] ++ ([.sign "(", .name key.column, .sign ")"] ++
      (.keyword "REFERENCES" :: .name key.referencedTable ::
        (Grammar.referencedColumn key.referencedColumn ++ action)))) t u := by simpa using laid
  refine keywords_then laid ahead fun _ w laid => ?_
  refine phrase_then (accepts_bracketedName key.column) laid ahead (fun _ _ => trivial) fun w laid => ?_
  refine keyword_then laid ahead fun _ w laid => ?_
  refine name_then laid ahead fun w laid => ?_
  obtain ⟨x, columnLaid, actionLaid⟩ := laid.split
  have closes : ∀ w, Laid [] w u → FollowedBy [] w := fun w past => past.eq_of_nil ▸ .inl delimited
  have beforeAction : FollowedBy ["ON"] x := by
    apply FollowedBy.optional delete (fun _ empty => empty) _ _ closes
    · rintro _ ⟨words, _, rfl⟩
      exact ⟨_, rfl⟩
    · simpa using actionLaid
  have readColumn : Passes h (optional (between "(" ")" identifier)) key.referencedColumn w x := by
    apply passes_optional (L := fun value tokens => tokens = Grammar.referencedColumn value) rfl
      (fun _ empty => empty) columnLaid
    · exact ((misses_symbol beforeAction.head?_ne).halts (ahead.of_laid actionLaid).within).bind
    · intro name same
      rw [same] at columnLaid
      exact accepts_bracketedName name h w x columnLaid (ahead.of_laid actionLaid) trivial
  have readAction : Passes h (optional onDelete) key.onDelete x u := by
    apply passes_optional delete (fun _ empty => empty) actionLaid
    · have absent := not_stands_of_not_startsInWord (by decide : Text.isKeyword "ON" = true)
        delimited.startsInWord
      exact (halts_keywords (by decide) absent ahead.within).bind
    · intro chosen phrase
      exact accepts_onDelete phrase h x u actionLaid ahead trivial
  exact readColumn.bind (readAction.bind (Passes.pure h key u))

/-! ## Statements -/

/-- How a reader fails whose choice is final or not. -/
def failure (final : Bool) (offset : Int) : Failure := if final then .cut offset else .backtrack offset

/-- What is expected where an open block comment follows the token that ends at `stop`. -/
def openComment (source : Text) (stop : Nat) : Expectation :=
  ⟨some (inQuotes "*/"), source.length, ⟨stop, stop⟩⟩

/-- The last chunk of a phrase is read from the state on, and the layout after it is skipped, unless it
runs into an open block comment. -/
structure Finishes (final : Bool) (length : Nat) (b : β) (source : Text) (s : State)
    (result : Except Failure β × State) : Prop where
  closed : ∀ gap, length? (source.drop (s.cursor.offset + length)) = some gap →
    ∃ t, result = (.ok b, t) ∧ t.expectations = s.expectations ∧
      t.cursor = ⟨s.cursor.offset + length + gap, s.cursor.offset + length⟩
  opened : length? (source.drop (s.cursor.offset + length)) = none →
    ∃ offset t, result = (.error (failure final offset), t) ∧
      t.expectations = openComment source (s.cursor.offset + length) :: s.expectations

theorem finishes_of_lexeme {source : Text} {s : State} {length : Nat} {f : α → Reader β} {b : β}
    (run : p source s = lexeme length a source s)
    (rest : ∀ s, ∃ s', f a source s = (.ok b, s') ∧ s'.expectations = s.expectations ∧ s'.cursor = s.cursor) :
    Finishes false length b source s ((p >>= f) source s) := by
  constructor
  · intro gap measured
    obtain ⟨s', ends, expectations, cursor⟩ :=
      rest (s.at ⟨s.cursor.offset + length + gap, s.cursor.offset + length⟩)
    refine ⟨s', ?_, expectations, cursor⟩
    rw [bind_apply, run, lexeme_of_gap measured]
    exact ends
  · intro unmeasured
    rw [bind_apply, run, lexeme_of_open unmeasured]
    exact ⟨source.length, _, rfl, rfl⟩

/-- A sign ends the statement. -/
theorem finishes_symbol {sign chunk after : Text} {f : Text → Reader β} {b : β}
    (spelt : (Token.sign sign).Spells chunk after)
    (rest : ∀ a source s, ∃ s', f a source s = (.ok b, s') ∧ s'.expectations = s.expectations ∧
      s'.cursor = s.cursor) :
    Reaches (chunk ++ after) (symbol sign >>= f) (chunk ++ after) (chunk ++ after)
      (Finishes false chunk.length b) := by
  intro source s here
  refine ⟨s, here, .refl _ source s, ?_⟩
  exact finishes_of_lexeme (takes_sign spelt _ source s here) fun s => rest chunk source s

/-- A reader that succeeds as another one does and otherwise fails with the same expectations. -/
theorem Reaches.finish {final final' : Bool} {length : Nat} {b : β} {q r : Reader β}
    (reaches : Reaches h q t u (Finishes final length b))
    (reads : ∀ source s t, q source s = (.ok b, t) → r source s = (.ok b, t))
    (fails : ∀ source s offset t, q source s = (.error (failure final offset), t) →
      ∃ offset' t', r source s = (.error (failure final' offset'), t') ∧
        t'.expectations = t.expectations) :
    Reaches h r t u (Finishes final' length b) := by
  intro source s here
  obtain ⟨s', there, grows, ends⟩ := reaches source s here
  refine ⟨s', there, grows, fun gap measured => ?_, fun unmeasured => ?_⟩
  · obtain ⟨w, run, facts⟩ := ends.closed gap measured
    exact ⟨w, reads source s w run, facts⟩
  · obtain ⟨offset, w, run, expectations⟩ := ends.opened unmeasured
    obtain ⟨offset', w', run', same⟩ := fails source s offset w run
    exact ⟨offset', w', run', same.trans expectations⟩

theorem Reaches.commit {length : Nat} {b : β} {q : Reader β}
    (reaches : Reaches h q t u (Finishes false length b)) :
    Reaches h (commit q) t u (Finishes true length b) := by
  refine reaches.finish (fun source s w run => ?_) fun source s offset w run => ⟨offset, w, ?_, rfl⟩
  · simp only [Reader.commit, run]
  · simp [Reader.commit, run, failure]

/-- A reader that does not give up settles a choice. -/
theorem Reaches.choice_head {length : Nat} {b : β} {q : Reader β} {others : List (Reader β)}
    (reaches : Reaches h q t u (Finishes true length b)) :
    Reaches h (Reader.choice (q :: others)) t u (Finishes true length b) := by
  refine reaches.finish (fun source s w run => ?_) fun source s offset w run => ⟨offset, w, ?_, rfl⟩
  · simp only [Reader.choice, Reader.recover, Reader.attempt, run]
  · simp [Reader.choice, Reader.recover, Reader.attempt, run, failure]

/-- The last reader of a choice may give up, and so does the choice then. -/
theorem Reaches.choice_last {length : Nat} {b : β} {q : Reader β}
    (reaches : Reaches h q t u (Finishes false length b)) :
    Reaches h (Reader.choice [q]) t u (Finishes false length b) := by
  refine reaches.finish (fun source s w run => ?_) fun source s offset w run =>
    ⟨s.cursor.offset, { w with cursor := s.cursor }, ?_, rfl⟩
  · simp only [Reader.choice, Reader.recover, Reader.attempt, run]
  · simp [Reader.choice, Reader.recover, Reader.attempt, run, failure, bind_apply]

/-- A kind of statements is settled by its first two words. -/
theorem halts_kind {first second other another : Text} {f : List Text → Reader β}
    (laid : Laid (.keyword first :: .keyword second :: tokens) t rest) (ahead : Ahead h rest)
    (proper : other.isKeyword = true ∧ another.isKeyword = true)
    (differ : Text.upper first ≠ Text.upper other ∨ first = other ∧ Text.upper second ≠ Text.upper another) :
    Halts h (keywords [other, another] >>= f) t := by
  have filled := Text.isKeyword_ne_nil proper.1
  apply Halts.bind
  rcases differ with differ | ⟨rfl, differ⟩
  · exact halts_keywords filled ((leads_of_laid laid).not_stands proper.1 differ) (ahead.of_laid laid).within
  · obtain ⟨_, w, _, laid, read⟩ := (keyword_serves first).passes laid ahead
    rw [keywords_cons]
    refine Halts.bind_after read (Halts.bind ?_)
    exact halts_keywords (Text.isKeyword_ne_nil proper.2) ((leads_of_laid laid).not_stands proper.2 differ)
      (ahead.of_laid laid).within

section Kinds

variable {chunk after : Text} {name : Text}

theorem ahead_of_spells {token : Token} (spelt : token.Spells chunk after) :
    Ahead (chunk ++ after) (chunk ++ after) :=
  ⟨Token.settled_of_isSign spelt.isSign _, Nat.le_refl _⟩

/-- The name of a table may be spelt like the name of its schema; the dot decides. -/
theorem halts_publicSchema (laid : Laid (.name name :: .sign "(" :: tokens) t rest) (ahead : Ahead h rest) :
    Halts h publicSchema t := by
  have within := (ahead.of_laid laid).within
  cases standing : stands "public" true t with
  | false => exact ((misses_keyword (by decide) standing).halts within).bind
  | true =>
    cases laid with
    | @cons _ _ _ gap u _ spelt between laid =>
      have proper : Text.isKeyword "public" = true := by decide
      have head : u.head? = some '(' := (leads_of_laid laid).sign
      cases spelt with
      | quotedName _ _ =>
        have absent := not_stands_of_not_startsInWord proper
          (rfl : Text.startsInWord (CodePoint.ofChar '"' :: (name ++ [CodePoint.ofChar '"']) ++ (gap ++ u)) = false)
        rw [absent] at standing
        contradiction
      | bareName filled words ended =>
        obtain ⟨form, width | ⟨_, past⟩⟩ := (stands_keyword_iff proper words ended).1 standing
        · have read : Passes h (keyword "public") name (name ++ (gap ++ u)) u :=
            (takes_keyword (.keyword proper width form ended)).passes between
              (laid.settled ahead.settled)
          have other : u.head? ≠ some '.' := by
            rw [head]
            decide
          exact Halts.bind_after read ((misses_symbol other).halts (ahead.of_laid laid).within).bind
        · rw [(List.append_eq_nil_iff.1 past).2] at head
          cases head

theorem reaches_createExtension {guard : List Token}
    (listed : guard ∈ [[], Grammar.keywords ["IF", "NOT", "EXISTS"]])
    (spelt : (Token.sign ";").Spells chunk after)
    (laid : Laid (Grammar.keywords ["CREATE", "EXTENSION"] ++ (guard ++ [.literal '"' name])) t
      (chunk ++ after)) :
    Reaches (chunk ++ after) createExtension t (chunk ++ after)
      (Finishes true chunk.length (.createExtension name true)) := by
  obtain ⟨guarded, rfl⟩ : ∃ b, guard = Grammar.clause b ["IF", "NOT", "EXISTS"] := by
    simp only [List.mem_cons, List.not_mem_nil, or_false] at listed
    rcases listed with rfl | rfl
    · exact ⟨false, rfl⟩
    · exact ⟨true, rfl⟩
  have ahead := ahead_of_spells spelt
  refine keywords_then laid ahead fun _ u laid => Reaches.commit ?_
  have absent (laid : Laid [.literal '"' name] u (chunk ++ after)) : stands "IF" true u = false := by
    apply not_stands_of_not_startsInWord (by decide)
    rw [startsInWord_of_head? (leads_of_laid laid).literal]
    decide
  refine clause_then laid ahead (by decide) absent fun u laid => ?_
  refine literal_then laid ahead fun u past => ?_
  rw [past.eq_of_nil]
  refine finishes_symbol spelt fun _ source s => ?_
  cases guarded with
  | true => exact ⟨s, rfl, rfl, rfl⟩
  | false => exact ⟨_, rfl, rfl, rfl⟩

theorem reaches_createTable {limit : Nat} {columns : List Column} {schema inner : List Token}
    (deep : limit ≤ nestingLimit) (listed : schema ∈ [[], [.keyword "public", .sign "."]])
    (phrase : Grammar.separated (.sign ",") (Grammar.column limit) columns inner)
    (spelt : (Token.sign ";").Spells chunk after)
    (laid : Laid (Grammar.keywords ["CREATE", "TABLE"] ++ (schema ++ (.name name :: .sign "(" ::
      (inner ++ [.sign ")"])))) t (chunk ++ after)) :
    Reaches (chunk ++ after) createTable t (chunk ++ after)
      (Finishes true chunk.length (.createTable name columns)) := by
  have ahead := ahead_of_spells spelt
  refine keywords_then laid ahead fun _ u laid => Reaches.commit ?_
  have qualified : ∃ schema w, Laid (.name name :: .sign "(" :: (inner ++ [.sign ")"])) w (chunk ++ after) ∧
      Passes (chunk ++ after) (optional publicSchema) schema u w := by
    simp only [List.mem_cons, List.not_mem_nil, or_false] at listed
    rcases listed with rfl | rfl
    · exact ⟨none, u, laid, (halts_publicSchema laid ahead).optional⟩
    · obtain ⟨_, x, _, laid, first⟩ := (keyword_serves "public").passes laid ahead
      obtain ⟨_, y, _, laid, second⟩ := (symbol_serves ".").passes laid ahead
      have read : Passes (chunk ++ after) publicSchema () u y :=
        first.bind (second.bind (Passes.pure _ () y))
      exact ⟨some (), y, laid, read.optional⟩
  obtain ⟨_, w, laid, read⟩ := qualified
  apply read.bind
  refine name_then laid ahead fun x laid => ?_
  have misses (t : Text) (head : t.head? = some (CodePoint.ofChar ')')) : Misses column t :=
    (misses_identifier_of_closing head).bind
  have listing := accepts_between
    (accepts_sepBy (fun column tokens phrase => accepts_column phrase deep) misses phrase)
  replace laid : Laid ((.sign "(" :: (inner ++ [.sign ")"])) ++ []) x (chunk ++ after) := by
    simpa using laid
  refine phrase_then listing laid ahead (fun _ _ => trivial) fun y past => ?_
  rw [past.eq_of_nil]
  exact finishes_symbol spelt fun _ source s => ⟨s, rfl, rfl, rfl⟩

theorem reaches_createEnum {values : List Text} {inner : List Token}
    (phrase : Grammar.separated (.sign ",") (fun value tokens => tokens = [.literal '\'' value]) values inner)
    (spelt : (Token.sign ";").Spells chunk after)
    (laid : Laid (Grammar.keywords ["CREATE", "TYPE"] ++ (.name name :: (Grammar.keywords ["AS", "ENUM"] ++
      (.sign "(" :: (inner ++ [.sign ")"]))))) t (chunk ++ after)) :
    Reaches (chunk ++ after) createEnum t (chunk ++ after)
      (Finishes true chunk.length (.createEnum name values)) := by
  have ahead := ahead_of_spells spelt
  refine keywords_then laid ahead fun _ u laid => Reaches.commit ?_
  refine name_then laid ahead fun u laid => ?_
  refine keywords_then laid ahead fun _ u laid => ?_
  have item (value : Text) (tokens : List Token) (phrase : tokens = [.literal '\'' value]) :
      Accepts stringLiteral value tokens Delimited := by
    subst phrase
    exact (accepts_token (literal_serves '\'' value _)).mono fun _ _ => trivial
  have misses (t : Text) (head : t.head? = some (CodePoint.ofChar ')')) : Misses stringLiteral t := by
    apply misses_quoted _
    rw [head]
    decide
  have listing := accepts_between (accepts_sepBy item misses phrase)
  replace laid : Laid ((.sign "(" :: (inner ++ [.sign ")"])) ++ []) u (chunk ++ after) := by
    simpa using laid
  refine phrase_then listing laid ahead (fun _ _ => trivial) fun y past => ?_
  rw [past.eq_of_nil]
  exact finishes_symbol spelt fun _ source s => ⟨s, rfl, rfl, rfl⟩

theorem reaches_addConstraint {table : Text} {key : ForeignKey} {inner : List Token}
    (phrase : Grammar.foreignKey key inner) (spelt : (Token.sign ";").Spells chunk after)
    (laid : Laid (Grammar.keywords ["ALTER", "TABLE"] ++ (.name table ::
      (Grammar.keywords ["ADD", "CONSTRAINT"] ++ (.name name :: inner)))) t (chunk ++ after)) :
    Reaches (chunk ++ after) addConstraint t (chunk ++ after)
      (Finishes true chunk.length (.addConstraint table name (.foreignKey key))) := by
  have ahead := ahead_of_spells spelt
  refine keywords_then laid ahead fun _ u laid => Reaches.commit ?_
  refine name_then laid ahead fun u laid => ?_
  refine keywords_then laid ahead fun _ u laid => ?_
  refine name_then laid ahead fun u laid => ?_
  replace laid : Laid (inner ++ []) u (chunk ++ after) := by simpa using laid
  refine phrase_then (accepts_foreignKey phrase) laid ahead (fun w past => ?_) fun y past => ?_
  · have leads : Leads (.sign ";") (chunk ++ after) := ⟨chunk, after, rfl, spelt⟩
    rw [past.eq_of_nil]
    exact leads.sign
  · rw [past.eq_of_nil]
    exact finishes_symbol spelt fun _ source s => ⟨s, rfl, rfl, rfl⟩

theorem reaches_comment {content : Text} (spelt : (Token.comment content).Spells chunk after) :
    Reaches (chunk ++ after) comment (chunk ++ after) (chunk ++ after)
      (Finishes false chunk.length (.comment content)) := by
  intro source s here
  refine ⟨s, here, .refl _ source s, ?_⟩
  have ends : Finishes false chunk.length (.comment content) source s ((comment >>= pure) source s) :=
    finishes_of_lexeme (takes_comment spelt source s here) fun s => ⟨s, rfl, rfl, rfl⟩
  rwa [bind_pure] at ends

end Kinds

end Reader

end Schemata
