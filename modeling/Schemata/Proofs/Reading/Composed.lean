import Schemata.Proofs.Reading.Lexeme
import Schemata.Reader.Run

/-! # Readers composed of tokens

Every reader of the grammar is composed of readers of tokens by a few combinators. A reader of a token takes
a lexeme, or misses something that has a name, or is stopped by a fault; which of these it does depends on
the text and on the cursor alone. So does what a composed reader does: it answers, moves and expects the same
whatever was expected before, and everything that it expects has a name.
-/

namespace Schemata

/-- The state that is left where a run with an empty record ends in `u`, but `s` was on record before. -/
def State.followedBy (s u : State) : State :=
  ⟨u.cursor, u.expectations ++ s.expectations, u.remarks ++ s.remarks⟩

@[simp] theorem State.followedBy_cursor (s u : State) : (s.followedBy u).cursor = u.cursor := rfl

theorem State.followedBy_assoc (s u v : State) :
    (s.followedBy u).followedBy v = s.followedBy (u.followedBy v) := by
  simp only [followedBy, List.append_assoc]

/-- A cursor without a record. -/
def Cursor.fresh (c : Cursor) : State := ⟨c, [], []⟩

theorem State.followedBy_fresh (s : State) : s.followedBy s.cursor.fresh = s := rfl

theorem Cursor.fresh_followedBy (c : Cursor) (u : State) : c.fresh.followedBy u = u := by
  simp only [State.followedBy, fresh, List.append_nil]

/-- Something with a name is expected. -/
def Expectation.Named (e : Expectation) : Prop := ∃ label, label ≠ [] ∧ e.label = some label

theorem Expectation.Named.label? {e : Expectation} (named : e.Named) : ∃ label, e.label? = some label := by
  obtain ⟨label, filled, given⟩ := named
  exact ⟨label, by simp [Expectation.label?, given, Option.filter, filled]⟩

namespace Reader

variable {α β : Type} {p q : Reader α} {f : α → Reader β} {source : Text} {c : Cursor}

theorem inQuotes_ne_nil (t : Text) : inQuotes t ≠ [] := by simp [inQuotes, text]

/-! ## Composition -/

/-- What a reader of a token does at a cursor, whatever was expected before. -/
inductive Acts (p : Reader α) (source : Text) (c : Cursor) : Prop
  | sees (a : α) : (∀ s, s.cursor = c → p source s = (.ok a, s)) → Acts p source c
  | takes (length : Nat) (a : α) :
      (∀ s, s.cursor = c → p source s = lexeme length a source s) → Acts p source c
  | misses (label : Text) (offset : Nat) : label ≠ [] →
      (∀ s, s.cursor = c → p source s = failAt (some label) offset source s) → Acts p source c
  | stops (fault : Fault) : (∀ s, s.cursor = c → p source s = refuse fault source s) → Acts p source c

/-- The reader is composed of readers of tokens. -/
inductive Composed : {α : Type} → Reader α → Prop
  | token {α : Type} {p : Reader α} : (∀ source c, Acts p source c) → Composed p
  | expectHere {label : Text} : label ≠ [] → Composed (expectHere (some label))
  | remark (t : Text) : Composed (remark t)
  | exhausted {α : Type} : Composed (choice ([] : List (Reader α)))
  | bind {α β : Type} {p : Reader α} {f : α → Reader β} :
      Composed p → (∀ a, Composed (f a)) → Composed (p >>= f)
  | attempt {α : Type} {p : Reader α} : Composed p → Composed (attempt p)
  | commit {α : Type} {p : Reader α} : Composed p → Composed (commit p)
  | recover {α : Type} {p q : Reader α} : Composed p → Composed q → Composed (recover p q)

namespace Composed

theorem pure (a : α) : Composed (pure a : Reader α) := .token fun _ _ => .sees a fun _ _ => rfl

theorem refuse (fault : Fault) : Composed (refuse fault : Reader α) :=
  .token fun _ _ => .stops fault fun _ _ => rfl

theorem wholeSource : Composed Reader.source := .token fun source _ => .sees source fun _ _ => rfl

theorem atEnd : Composed atEnd := by
  refine .token fun source c => .sees (decide (source.length ≤ c.offset)) ?_
  rintro s rfl
  rfl

theorem failHere {label : Text} (filled : label ≠ []) : Composed (failHere (some label) : Reader α) := by
  refine .token fun _ c => .misses label c.offset filled ?_
  rintro s rfl
  rfl

theorem map (g : α → β) (composed : Composed p) : Composed (g <$> p) := by
  rw [map_eq_pure_bind]
  exact composed.bind fun _ => .pure _

theorem optional (composed : Composed p) : Composed (optional p) :=
  (composed.attempt.map some).recover (.pure none)

theorem isPresent (composed : Composed p) : Composed (isPresent p) := composed.optional.map _

theorem choice {ps : List (Reader α)} (each : ∀ p ∈ ps, Composed p) : Composed (choice ps) := by
  induction ps with
  | nil => exact .exhausted
  | cons p others ih =>
    exact (each p List.mem_cons_self).attempt.recover (ih fun q member => each q (List.mem_cons_of_mem _ member))

theorem mapM {g : β → Reader α} {values : List β} (each : ∀ b ∈ values, Composed (g b)) :
    Composed (values.mapM g) := by
  induction values with
  | nil => exact .pure []
  | cons b rest ih =>
    rw [List.mapM_cons]
    refine (each b List.mem_cons_self).bind fun _ => ?_
    exact (ih fun c member => each c (List.mem_cons_of_mem _ member)).bind fun _ => .pure _

end Composed

/-! ## What a composed reader does -/

/-- From a cursor the reader ends with a result and in a state, whatever was expected before; it puts on
record only what has a name. -/
structure Traces (p : Reader α) (source : Text) (c : Cursor) (result : Except Failure α) (u : State) :
    Prop where
  run : ∀ s, s.cursor = c → p source s = (result, s.followedBy u)
  named : ∀ e ∈ u.expectations, e.Named

theorem named_open (source : Text) (c : Cursor) :
    (⟨some (inQuotes "*/"), source.length, c⟩ : Expectation).Named := ⟨_, inQuotes_ne_nil _, rfl⟩

theorem Acts.traces (acts : Acts p source c) : ∃ result u, Traces p source c result u := by
  cases acts with
  | sees a run =>
    refine ⟨.ok a, c.fresh, fun s here => ?_, by simp [Cursor.fresh]⟩
    rw [run s here, ← here, State.followedBy_fresh]
  | takes length a run =>
    cases measured : Layout.length? (source.drop (c.offset + length)) with
    | some gap =>
      refine ⟨.ok a, c.fresh.at ⟨c.offset + length + gap, c.offset + length⟩, fun s here => ?_,
        by simp [State.at, Cursor.fresh]⟩
      subst here
      rw [run s rfl, lexeme_of_gap measured]
      rfl
    | none =>
      refine ⟨.error (.backtrack source.length), (c.fresh.at ⟨c.offset + length, c.offset + length⟩).expecting
        (some (inQuotes "*/")) source.length, fun s here => ?_, fun e member => ?_⟩
      · subst here
        rw [run s rfl, lexeme_of_open measured]
        rfl
      · obtain rfl := List.mem_singleton.1 member
        exact named_open source _
  | misses label offset filled run =>
    refine ⟨.error (.backtrack offset), c.fresh.expecting (some label) offset, fun s here => ?_,
      fun e member => ?_⟩
    · subst here
      rw [run s rfl]
      rfl
    · obtain rfl := List.mem_singleton.1 member
      exact ⟨label, filled, rfl⟩
  | stops fault run =>
    refine ⟨.error (.fault fault), c.fresh, fun s here => ?_, by simp [Cursor.fresh]⟩
    rw [run s here, ← here, State.followedBy_fresh]
    rfl

namespace Traces

variable {result : Except Failure α} {u : State}

/-- After the first reader the second one starts with the record of the first one. -/
theorem bind {a : α} {b : Except Failure β} {v : State} (first : Traces p source c (.ok a) u)
    (second : Traces (f a) source u.cursor b v) : Traces (p >>= f) source c b (u.followedBy v) := by
  refine ⟨fun s here => ?_, fun e member => ?_⟩
  · rw [bind_apply, first.run s here, ← State.followedBy_assoc]
    exact second.run (s.followedBy u) rfl
  · rcases List.mem_append.1 member with member | member
    · exact second.named e member
    · exact first.named e member

theorem bind_error {failure : Failure} (first : Traces p source c (.error failure) u) :
    Traces (p >>= f) source c (.error failure) u :=
  ⟨fun s here => by rw [bind_apply, first.run s here], first.named⟩

/-- Only the cursor is moved back by an attempt; the record stays. -/
theorem attempt (traces : Traces p source c result u) :
    ∃ v, Traces (Reader.attempt p) source c result v := by
  have kept (same : ∀ s, s.cursor = c → Reader.attempt p source s = p source s) :
      ∃ v, Traces (Reader.attempt p) source c result v :=
    ⟨u, fun s here => (same s here).trans (traces.run s here), traces.named⟩
  cases result with
  | ok a => exact kept fun s here => by simp only [Reader.attempt, traces.run s here]
  | error failure =>
    cases failure with
    | backtrack offset =>
      refine ⟨{ u with cursor := c }, fun s here => ?_, traces.named⟩
      simp only [Reader.attempt, traces.run s here, here]
      rfl
    | cut offset => exact kept fun s here => by simp only [Reader.attempt, traces.run s here]
    | fault fault => exact kept fun s here => by simp only [Reader.attempt, traces.run s here]

theorem commit (traces : Traces p source c result u) :
    ∃ final, Traces (Reader.commit p) source c final u := by
  cases result with
  | ok a => exact ⟨.ok a, fun s here => by simp only [Reader.commit, traces.run s here], traces.named⟩
  | error failure =>
    cases failure with
    | backtrack offset =>
      exact ⟨.error (.cut offset), fun s here => by simp only [Reader.commit, traces.run s here], traces.named⟩
    | cut offset =>
      exact ⟨.error (.cut offset), fun s here => by simp only [Reader.commit, traces.run s here], traces.named⟩
    | fault fault =>
      exact ⟨.error (.fault fault), fun s here => by simp only [Reader.commit, traces.run s here], traces.named⟩

/-- The second reader starts where the first one stopped, with the record of the first one. -/
theorem recover {q : Reader α} {later : Except Failure α} {v : State} (first : Traces p source c result u)
    (second : Traces q source u.cursor later v) :
    ∃ final w, Traces (Reader.recover p q) source c final w := by
  have kept (same : ∀ s, s.cursor = c → Reader.recover p q source s = p source s) :
      ∃ final w, Traces (Reader.recover p q) source c final w :=
    ⟨result, u, fun s here => (same s here).trans (first.run s here), first.named⟩
  cases result with
  | ok a => exact kept fun s here => by simp only [Reader.recover, first.run s here]
  | error failure =>
    cases failure with
    | backtrack offset =>
      refine ⟨later, u.followedBy v, fun s here => ?_, fun e member => ?_⟩
      · simp only [Reader.recover, first.run s here, ← State.followedBy_assoc]
        exact second.run (s.followedBy u) rfl
      · rcases List.mem_append.1 member with member | member
        · exact second.named e member
        · exact first.named e member
    | cut offset => exact kept fun s here => by simp only [Reader.recover, first.run s here]
    | fault fault => exact kept fun s here => by simp only [Reader.recover, first.run s here]

end Traces

theorem Composed.traces {p : Reader α} (composed : Composed p) (source : Text) (c : Cursor) :
    ∃ result u, Traces p source c result u := by
  induction composed generalizing c with
  | token acts => exact (acts source c).traces
  | @expectHere label filled =>
    refine ⟨.ok (), c.fresh.expecting (some label) c.offset, fun s here => ?_, fun e member => ?_⟩
    · subst here
      rfl
    · obtain rfl := List.mem_singleton.1 member
      exact ⟨label, filled, rfl⟩
  | remark t =>
    refine ⟨.ok (), ⟨c, [], [t]⟩, fun s here => ?_, by simp⟩
    subst here
    rfl
  | exhausted =>
    refine ⟨.error (.backtrack c.offset), c.fresh, fun s here => ?_, by simp [Cursor.fresh]⟩
    subst here
    rfl
  | bind _ _ first second =>
    obtain ⟨result, u, traces⟩ := first c
    cases result with
    | ok a =>
      obtain ⟨result, v, later⟩ := second a u.cursor
      exact ⟨result, _, traces.bind later⟩
    | error failure => exact ⟨_, u, traces.bind_error⟩
  | attempt _ ih =>
    obtain ⟨result, u, traces⟩ := ih c
    exact ⟨result, traces.attempt⟩
  | commit _ ih =>
    obtain ⟨result, u, traces⟩ := ih c
    obtain ⟨final, traces⟩ := traces.commit
    exact ⟨final, u, traces⟩
  | recover _ _ first second =>
    obtain ⟨result, u, traces⟩ := first c
    obtain ⟨later, v, more⟩ := second u.cursor
    exact traces.recover more

/-- What the reader does from a cursor without a record. -/
def outcome (p : Reader α) (source : Text) (c : Cursor) : Except Failure α × State := p source c.fresh

/-- What was expected before stays on record, and changes nothing else. -/
theorem Composed.apply (composed : Composed p) (source : Text) (s : State) :
    p source s = ((outcome p source s.cursor).1, s.followedBy (outcome p source s.cursor).2) := by
  obtain ⟨result, u, run, _⟩ := composed.traces source s.cursor
  have alone : outcome p source s.cursor = (result, s.cursor.fresh.followedBy u) := run _ rfl
  rw [run s rfl, alone, Cursor.fresh_followedBy]

theorem Composed.named (composed : Composed p) (source : Text) (c : Cursor) :
    ∀ e ∈ (outcome p source c).2.expectations, e.Named := by
  obtain ⟨result, u, run, named⟩ := composed.traces source c
  have alone : outcome p source c = (result, c.fresh.followedBy u) := run _ rfl
  rw [alone, Cursor.fresh_followedBy]
  exact named

/-! ## Tokens -/

theorem composed_token {expected label : Text} (filled : expected ≠ []) (ignoreCase : Bool) (named : label ≠ []) :
    Composed (token expected ignoreCase true label) := by
  refine .token fun source c => ?_
  by_cases standing : stands expected ignoreCase (source.drop c.offset) = true
  · refine .takes expected.length ((source.drop c.offset).take expected.length) ?_
    rintro s rfl
    rw [token_apply filled, if_pos standing]
  · refine .misses label c.offset named ?_
    rintro s rfl
    rw [token_apply filled, if_neg standing]

theorem composed_symbol {t : Text} (filled : t ≠ []) : Composed (symbol t) :=
  composed_token filled false (inQuotes_ne_nil t)

theorem composed_keyword {t : Text} (filled : t ≠ []) : Composed (keyword t) :=
  composed_token filled true (inQuotes_ne_nil t)

theorem composed_keywordsAs (ignoreCase : Bool) {words : List Text} (filled : ∀ word ∈ words, word ≠ []) :
    Composed (keywordsAs ignoreCase words) :=
  .mapM fun word member => composed_token (filled word member) ignoreCase (inQuotes_ne_nil word)

theorem composed_keywords {words : List Text} (filled : ∀ word ∈ words, word ≠ []) :
    Composed (keywords words) := composed_keywordsAs true filled

theorem acts_word {label : Text} (named : label ≠ []) (source : Text) (c : Cursor) :
    Acts (word label) source c := by
  by_cases empty : Text.word (source.drop c.offset) = []
  · refine .misses label c.offset named ?_
    rintro s rfl
    rw [word_apply, if_pos empty]
  · refine .takes (Text.word (source.drop c.offset)).length (Text.word (source.drop c.offset)) ?_
    rintro s rfl
    rw [word_apply, if_neg empty]

theorem composed_word {label : Text} (named : label ≠ []) : Composed (word label) := .token (acts_word named)

theorem composed_identifier : Composed identifier := by
  refine .token fun source c => ?_
  cases read : QuotedName.read? (source.drop c.offset) with
  | some name =>
    refine .takes (name.length + 2) name ?_
    rintro s rfl
    simp only [identifier_apply, read]
  | none =>
    have same (s : State) (here : s.cursor = c) : identifier source s = word "identifier" source s := by
      subst here
      simp only [identifier_apply, read]
    rcases acts_word (by decide : text "identifier" ≠ []) source c with
      ⟨a, run⟩ | ⟨length, a, run⟩ | ⟨label, offset, named, run⟩ | ⟨fault, run⟩
    · exact .sees a fun s here => (same s here).trans (run s here)
    · exact .takes length a fun s here => (same s here).trans (run s here)
    · exact .misses label offset named fun s here => (same s here).trans (run s here)
    · exact .stops fault fun s here => (same s here).trans (run s here)

theorem composed_quoted (quote : CodePoint) {label : Text} (named : label ≠ []) :
    Composed (quoted [quote] label) := by
  refine .token fun source c => ?_
  cases split : source.drop c.offset with
  | nil =>
    refine .misses label c.offset named ?_
    rintro s rfl
    simp only [quoted_apply, split]
  | cons d rest =>
    by_cases same : d = quote
    · subst same
      cases read : Literal.read [d] rest with
      | ok content =>
        refine .takes (1 + content.length) content.value ?_
        rintro s rfl
        simp only [quoted_apply, split, if_true, read]
      | error fault =>
        cases fault with
        | unclosed =>
          refine .misses (text "closing " ++ inQuotes [d]) source.length (by simp [text]) ?_
          rintro s rfl
          simp only [quoted_apply, split, if_true, read]
        | malformed distance =>
          refine .misses "escape code" (c.offset + (1 + distance)) (by decide) ?_
          rintro s rfl
          simp only [quoted_apply, split, if_true, read]
        | oversized digits =>
          refine .stops (.oversizedNumber digits) ?_
          rintro s rfl
          simp only [quoted_apply, split, if_true, read]
    · refine .misses label c.offset named ?_
      rintro s rfl
      simp only [quoted_apply, split, if_neg same]

theorem composed_stringLiteral : Composed stringLiteral := composed_quoted _ (by decide)

theorem composed_comment : Composed comment := by
  refine .token fun source c => ?_
  by_cases standing : stands "--" false (source.drop c.offset) = true
  · let rest := source.drop (c.offset + 2)
    refine .takes (2 + ((commentGap rest).length + (commentLine rest).length))
      (.comment (Text.dropRight (· = '\r') (commentLine rest))) ?_
    rintro s rfl
    rw [comment_apply, if_pos standing]
  · refine .misses "line comment" c.offset (by decide) ?_
    rintro s rfl
    rw [comment_apply, if_neg standing]

/-! ## Phrases -/

theorem composed_between {opening closing : Text} (opened : opening ≠ []) (closed : closing ≠ [])
    (item : Composed p) : Composed (between opening closing p) := by
  refine (composed_symbol opened).bind fun _ => ?_
  refine item.bind fun value => ?_
  exact (composed_symbol closed).bind fun _ => .pure value

theorem composed_afterEach {separator : Text} (filled : separator ≠ []) (item : Composed p) (rounds : Nat) :
    Composed (afterEach separator p rounds) := by
  induction rounds with
  | zero => exact .refuse _
  | succ rounds ih =>
    rw [afterEach]
    refine (composed_symbol filled).isPresent.bind fun present => ?_
    cases present with
    | false => exact .pure []
    | true => exact item.bind fun _ => ih.bind fun _ => .pure _

theorem composed_others {separator : Text} (filled : separator ≠ []) (item : Composed p) :
    Composed (others separator p) :=
  Composed.wholeSource.bind fun _ => composed_afterEach filled item _

theorem composed_sepBy {separator : Text} (filled : separator ≠ []) (item : Composed p) :
    Composed (sepBy p separator) := by
  refine item.optional.bind fun first => ?_
  cases first with
  | none => exact .pure []
  | some value => exact (composed_others filled item).bind fun _ => .pure _

theorem composed_columnType : Composed columnType := by
  have filled : ∀ entry ∈ KnownType.spellings, ∀ words ∈ entry.2, ∀ word ∈ words, word ≠ [] := by decide
  refine .recover (.map _ (.choice fun reader member => ?_)) (.map _ (composed_word (by decide)))
  simp only [knownTypes, List.mem_flatMap, List.mem_map] at member
  obtain ⟨entry, listed, words, spelling, rfl⟩ := member
  exact (composed_keywords (filled entry listed words spelling)).bind fun _ => .pure _

theorem composed_expression (limit : Nat) : Composed (expression limit) := by
  induction limit with
  | zero => exact .refuse _
  | succ limit ih =>
    rw [expression]
    refine .bind (.recover (composed_identifier.map some) (.pure none)) fun name? => ?_
    cases name? with
    | none => exact composed_stringLiteral.bind fun _ => .pure _
    | some name =>
      refine (composed_symbol (by decide)).isPresent.bind fun opened => ?_
      cases opened with
      | false => exact .pure _
      | true =>
        refine (composed_symbol (by decide)).isPresent.bind fun closed => ?_
        cases closed with
        | true => exact .pure _
        | false =>
          refine ih.bind fun first => ?_
          refine (composed_others (by decide) ih).bind fun rest => ?_
          exact (composed_symbol (by decide)).bind fun _ => .pure _

theorem composed_column : Composed column := by
  have default : Composed defaultValue :=
    (composed_keyword (by decide)).bind fun _ => composed_expression _
  refine composed_identifier.bind fun name => ?_
  refine composed_columnType.bind fun type => ?_
  refine default.optional.bind fun default? => ?_
  refine (composed_keywords (by decide)).isPresent.bind fun primaryKey => ?_
  refine (composed_keywords (by decide)).isPresent.bind fun notNull => ?_
  refine (composed_keyword (by decide)).isPresent.bind fun unique => ?_
  cases Column.named? name type default? primaryKey notNull unique with
  | some column => exact .pure column
  | none => exact .refuse _

theorem composed_onDelete : Composed onDelete := by
  have filled : ∀ entry ∈ OnDelete.spellings, ∀ word ∈ entry.1, word ≠ [] := by decide
  refine (composed_keywords (by decide)).bind fun _ => .choice fun reader member => ?_
  obtain ⟨entry, listed, rfl⟩ := List.mem_map.1 member
  exact (composed_keywordsAs false (filled entry listed)).bind fun _ => .pure _

theorem composed_foreignKey : Composed foreignKey := by
  have name : Composed (between "(" ")" identifier) :=
    composed_between (by decide) (by decide) composed_identifier
  refine (composed_keywords (by decide)).bind fun _ => ?_
  refine name.bind fun column => ?_
  refine (composed_keyword (by decide)).bind fun _ => ?_
  refine composed_identifier.bind fun table => ?_
  refine name.optional.bind fun referenced => ?_
  exact composed_onDelete.optional.bind fun action => .pure _

/-! ## Statements -/

theorem composed_createExtension : Composed createExtension := by
  refine (composed_keywords (by decide)).bind fun _ => .commit ?_
  refine (composed_keywords (by decide)).isPresent.bind fun guarded => ?_
  refine (composed_quoted _ (by decide)).bind fun name => ?_
  refine (composed_symbol (by decide)).bind fun _ => ?_
  cases guarded with
  | true => exact .pure _
  | false => exact (Composed.remark _).bind fun _ => .pure _

theorem composed_createTable : Composed createTable := by
  have schema : Composed publicSchema :=
    (composed_keyword (by decide)).bind fun _ => (composed_symbol (by decide)).bind fun _ => .pure _
  have columns : Composed (between "(" ")" (sepBy column ",")) :=
    composed_between (by decide) (by decide) (composed_sepBy (by decide) composed_column)
  refine (composed_keywords (by decide)).bind fun _ => .commit ?_
  refine schema.optional.bind fun _ => ?_
  refine composed_identifier.bind fun name => ?_
  refine columns.bind fun columns => ?_
  exact (composed_symbol (by decide)).bind fun _ => .pure _

theorem composed_createEnum : Composed createEnum := by
  have values : Composed (between "(" ")" (sepBy stringLiteral ",")) :=
    composed_between (by decide) (by decide) (composed_sepBy (by decide) composed_stringLiteral)
  refine (composed_keywords (by decide)).bind fun _ => .commit ?_
  refine composed_identifier.bind fun name => ?_
  refine (composed_keywords (by decide)).bind fun _ => ?_
  refine values.bind fun values => ?_
  exact (composed_symbol (by decide)).bind fun _ => .pure _

theorem composed_addConstraint : Composed addConstraint := by
  refine (composed_keywords (by decide)).bind fun _ => .commit ?_
  refine composed_identifier.bind fun table => ?_
  refine (composed_keywords (by decide)).bind fun _ => ?_
  refine composed_identifier.bind fun name => ?_
  refine composed_foreignKey.bind fun key => ?_
  exact (composed_symbol (by decide)).bind fun _ => .pure _

theorem composed_statement : ∀ kind ∈ statementKinds, Composed kind := by
  intro kind member
  simp only [statementKinds, List.mem_cons, List.not_mem_nil, or_false] at member
  rcases member with rfl | rfl | rfl | rfl | rfl
  · exact composed_createExtension
  · exact composed_createTable
  · exact composed_createEnum
  · exact composed_addConstraint
  · exact composed_comment

theorem composed_statementsWithin {kinds : List (Reader Statement)} (each : ∀ kind ∈ kinds, Composed kind)
    (rounds : Nat) : Composed (statementsWithin kinds rounds) := by
  induction rounds with
  | zero => exact .refuse _
  | succ rounds ih =>
    rw [statementsWithin]
    refine Composed.atEnd.bind fun ended => ?_
    split
    · exact .pure []
    · refine (Composed.expectHere (by decide)).bind fun _ => ?_
      refine (Composed.choice each).bind fun statement => ?_
      refine (Composed.remark _).bind fun _ => ?_
      exact ih.bind fun _ => .pure _

theorem composed_statements : Composed statements :=
  Composed.wholeSource.bind fun _ => composed_statementsWithin composed_statement _

theorem composed_whole (composed : Composed p) : Composed (whole p) := by
  refine composed.bind fun value => ?_
  refine Composed.atEnd.bind fun ended => ?_
  split
  · exact .pure value
  · exact .failHere (by decide)

end Reader

end Schemata
