import Schemata.Proofs.Reading.Progress
import Schemata.Proofs.Reading.Walk

/-! # Statements walk from token to token

Every token moves the cursor over its own chunk. A keyword alone may move it one code point beyond the end
of the text, since no keyword of the grammar has two pairs of letters that stem from one code point each.
-/

namespace Schemata

open Layout Source

namespace Reader

variable {α : Type} {p : Reader α} {source : Text} {s : State}

/-! ## Tokens -/

/-- A keyword in which at most one code point of a text can stand for two letters. -/
def isCompact (word : Text) : Bool := word.isKeyword && Text.ligatures (Text.upper word) ≤ 1

theorem chunk_of_keyword {word : Text} {offset : Nat} (compact : isCompact word = true)
    (standing : stands word true (source.drop offset) = true) : Chunk source offset (offset + word.length) := by
  obtain ⟨proper, pairs⟩ := Bool.and_eq_true_iff.1 compact
  replace pairs := of_decide_eq_true pairs
  have filled := List.length_pos_iff.2 (Text.isKeyword_ne_nil proper)
  refine ⟨by omega, fun inside => ⟨.keyword word, ?_⟩, ?_⟩
  · rw [slice_add, ← List.drop_drop]
    exact spells_keyword proper standing (by rw [List.length_drop]; omega)
  · have width := @List.length_drop _ offset source
    rcases length_le_of_stands proper standing with enough | ⟨nearly, c, member, expands⟩
    · exact .inl (by omega)
    · by_cases inside : offset + word.length ≤ source.length
      · exact .inl inside
      · have positive := List.length_pos_of_mem member
        exact .inr ⟨by omega, c, List.mem_of_mem_drop member, expands⟩

theorem walks_keyword {word : Text} (compact : isCompact word = true) : Walks (keyword word) := by
  intro source s
  have filled := Text.isKeyword_ne_nil (Bool.and_eq_true_iff.1 compact).1
  have run := token_apply filled true (inQuotes word) source s
  by_cases standing : stands word true (source.drop s.cursor.offset) = true
  · rw [if_pos standing] at run
    exact .of_lexeme run (chunk_of_keyword compact standing)
  · rw [if_neg standing] at run
    exact .of_failAt run (.inl rfl)

theorem walks_keywords {words : List Text} (compact : ∀ word ∈ words, isCompact word = true) :
    Walks (keywords words) := .mapM fun word member => walks_keyword (compact word member)

theorem walks_sign {t : Text} (proper : t.isSign = true) (label : Text) : Walks (token t false true label) := by
  intro source s
  have run := token_apply (Text.ne_nil_of_isSign proper) false label source s
  by_cases standing : stands t false (source.drop s.cursor.offset) = true
  · rw [if_pos standing] at run
    obtain ⟨inside, spelt⟩ := spells_sign proper standing
    exact .of_lexeme run (.of_spells inside spelt)
  · rw [if_neg standing] at run
    exact .of_failAt run (.inl rfl)

theorem walks_symbol {t : Text} (proper : t.isSign = true) : Walks (symbol t) := walks_sign proper _

theorem walks_word (label : Text) : Walks (word label) := by
  intro source s
  have run := word_apply label source s
  by_cases empty : Text.word (source.drop s.cursor.offset) = []
  · rw [if_pos empty] at run
    exact .of_failAt run (.inl rfl)
  · rw [if_neg empty] at run
    exact .of_lexeme run (.of_spells (List.takeWhile_prefix _).length_le (spells_word empty).1)

theorem walks_identifier : Walks identifier := by
  intro source s
  have run := identifier_apply source s
  cases read : QuotedName.read? (source.drop s.cursor.offset) with
  | some name =>
    simp only [read] at run
    obtain ⟨inside, spelt⟩ := spells_quotedName read
    exact .of_lexeme run (.of_spells inside spelt)
  | none =>
    simp only [read] at run
    exact (walks_word _ source s).congr run

/-- A literal fails at its end, at the end of the text or at an escape; a number of too many digits is a
fault. -/
theorem walks_quoted {quote : CodePoint} (proper : Literal.IsQuote quote) (label : Text) :
    Walks (quoted [quote] label) := by
  intro source s
  have run := quoted_apply quote label source s
  cases split : source.drop s.cursor.offset with
  | nil =>
    simp only [split] at run
    exact .of_failAt run (.inl rfl)
  | cons c rest =>
    simp only [split] at run
    by_cases same : c = quote
    · subst same
      have width := congrArg List.length split
      rw [List.length_drop, List.length_cons] at width
      rw [if_pos rfl] at run
      cases read : Literal.read [c] rest with
      | ok content =>
        simp only [read] at run
        have spelt := spells_literal proper read
        rw [← split] at spelt
        have inside := (Literal.read_length read).2
        exact .of_lexeme run (.of_spells (by rw [List.length_drop]; omega) spelt)
      | error fault =>
        cases fault with
        | unclosed =>
          simp only [read] at run
          exact .of_failAt run (.inr ⟨by omega, Nat.le_refl _⟩)
        | malformed distance =>
          obtain ⟨k, rfl, _, inside, _⟩ := Literal.completes_of_malformed proper read
          simp only [read] at run
          exact .of_failAt run (.inr ⟨by omega, by omega⟩)
        | oversized digits =>
          simp only [read] at run
          have holds := (Literal.holdsOversized_of_read read).append_left (source.take s.cursor.offset ++ [c])
          rw [List.append_assoc, List.singleton_append, ← split, List.take_append_drop] at holds
          exact .of_fault run (.oversizedNumber holds)
    · rw [if_neg same] at run
      exact .of_failAt run (.inl rfl)

theorem walks_stringLiteral : Walks stringLiteral := walks_quoted (.inl rfl) _

theorem walks_comment : Walks comment := by
  intro source s
  have run := comment_apply source s
  by_cases standing : stands "--" false (source.drop s.cursor.offset) = true
  · rw [if_pos standing] at run
    obtain ⟨inside, spelt⟩ := spells_comment standing
    rw [List.drop_drop] at inside spelt
    exact .of_lexeme run (.of_spells inside spelt)
  · rw [if_neg standing] at run
    exact .of_failAt run (.inl rfl)

/-! ## Lists -/

theorem walks_between {opening closing : Text} (opened : opening.isSign = true)
    (closed : closing.isSign = true) (item : Walks p) : Walks (between opening closing p) := by
  refine (walks_symbol opened).bind fun _ => ?_
  refine item.bind fun value => ?_
  exact (walks_symbol closed).bind fun _ => .pure value

/-- A repetition does not use up its rounds, since each separator is read inside the text. -/
theorem walksFrom_afterEach {separator : Text} (proper : separator.isSign = true) (item : Walks p)
    {rounds : Nat} (enough : source.length - s.cursor.offset < rounds) :
    WalksFrom (afterEach separator p rounds) source s := by
  induction rounds generalizing s with
  | zero => omega
  | succ rounds ih =>
    rw [afterEach]
    refine ((walks_symbol proper).isPresent source s).bind fun present t run => ?_
    cases present with
    | false => exact Walks.pure [] source t
    | true =>
      have moves := separator_moves proper run
      refine (item source t).bind fun value u run => ?_
      have later : t.cursor.offset ≤ u.cursor.offset := by
        simpa only [run] using (item source t).route.forward
      exact (ih (by omega)).bind fun _ v _ => Walks.pure _ source v

theorem walks_others {separator : Text} (proper : separator.isSign = true) (item : Walks p) :
    Walks (others separator p) := by
  intro source s
  refine (Walks.wholeSource source s).bind fun whole t run => ?_
  cases run
  exact walksFrom_afterEach proper item (by omega)

theorem walks_sepBy {separator : Text} (proper : separator.isSign = true) (item : Walks p) :
    Walks (sepBy p separator) := by
  refine item.optional.bind fun first => ?_
  cases first with
  | none => exact .pure []
  | some value => exact (walks_others proper item).bind fun _ => .pure _

/-! ## Phrases -/

theorem walks_columnType : Walks columnType := by
  have compact : ∀ entry ∈ KnownType.spellings, ∀ words ∈ entry.2, ∀ word ∈ words,
      isCompact word = true := by decide
  refine Walks.recover (.map _ (.choice (by decide) fun reader member => ?_)) (.map _ (walks_word _))
  simp only [knownTypes, List.mem_flatMap, List.mem_map] at member
  obtain ⟨entry, listed, words, spelling, rfl⟩ := member
  exact (walks_keywords (compact entry listed words spelling)).bind fun _ => .pure _

theorem walks_expression (limit : Nat) : Walks (expression limit) := by
  induction limit with
  | zero => exact .refuse_tooDeep
  | succ limit ih =>
    rw [expression]
    refine Walks.bind (.recover (walks_identifier.map some) (.pure none)) fun name? => ?_
    cases name? with
    | none => exact walks_stringLiteral.bind fun _ => .pure _
    | some name =>
      refine (walks_symbol (by decide)).isPresent.bind fun opened => ?_
      cases opened with
      | false => exact .pure _
      | true =>
        refine (walks_symbol (by decide)).isPresent.bind fun closed => ?_
        cases closed with
        | true => exact .pure _
        | false =>
          refine ih.bind fun first => ?_
          refine (walks_others (by decide) ih).bind fun rest => ?_
          exact (walks_symbol (by decide)).bind fun _ => .pure _

theorem walks_defaultValue : Walks defaultValue :=
  (walks_keyword (by decide)).bind fun _ => walks_expression _

/-- Every name that is read has a code point, so no column is refused for want of one. -/
theorem walks_column : Walks column := by
  intro source s
  refine (walks_identifier source s).bind fun name t run => ?_
  obtain ⟨_, ⟨filled, _⟩, _⟩ := (identifier_tracks.each source s).reads name t run
  simp only [Column.named?, dif_pos filled]
  refine Walks.bind walks_columnType (fun type => ?_) source t
  refine walks_defaultValue.optional.bind fun default? => ?_
  refine (walks_keywords (by decide)).isPresent.bind fun primaryKey => ?_
  refine (walks_keywords (by decide)).isPresent.bind fun notNull => ?_
  exact (walks_keyword (by decide)).isPresent.bind fun unique => .pure _

theorem walks_onDelete : Walks onDelete := by
  refine (walks_keywords (by decide)).bind fun _ => .choice (by decide) fun reader member => ?_
  obtain ⟨entry, listed, rfl⟩ := List.mem_map.1 member
  have proper : ∀ entry ∈ OnDelete.spellings, ∀ word ∈ entry.1, word.isSign = true := by decide
  refine Walks.bind (.mapM fun word inside => ?_) fun _ => .pure _
  exact walks_sign (proper entry listed word inside) _

theorem walks_foreignKey : Walks foreignKey := by
  have name : Walks (between "(" ")" identifier) := walks_between (by decide) (by decide) walks_identifier
  refine (walks_keywords (by decide)).bind fun _ => ?_
  refine name.bind fun column => ?_
  refine (walks_keyword (by decide)).bind fun _ => ?_
  refine walks_identifier.bind fun table => ?_
  refine name.optional.bind fun referenced => ?_
  exact walks_onDelete.optional.bind fun action => .pure _

/-! ## Statements -/

/-- The reader is committed after its first two words, and then walks on. -/
def Committed (first second : Text) (kind : Reader Statement) : Prop :=
  ∃ body, kind = (keywords [first, second] >>= fun _ => commit body) ∧ Walks body

theorem Committed.walks {first second : Text} {kind : Reader Statement} (committed : Committed first second kind)
    (compact : ∀ word ∈ [first, second], isCompact word = true) : Walks kind := by
  obtain ⟨body, rfl, walks⟩ := committed
  exact (walks_keywords compact).bind fun _ => walks.commit

theorem committed_createExtension : Committed "CREATE" "EXTENSION" createExtension := by
  refine ⟨_, rfl, ?_⟩
  refine (walks_keywords (by decide)).isPresent.bind fun guarded => ?_
  refine (walks_quoted (.inr rfl) _).bind fun name => ?_
  refine (walks_symbol (by decide)).bind fun _ => ?_
  cases guarded with
  | true => exact .pure _
  | false => exact (Walks.remark _).bind fun _ => .pure _

theorem committed_createTable : Committed "CREATE" "TABLE" createTable := by
  have schema : Walks publicSchema :=
    (walks_keyword (by decide)).bind fun _ => (walks_symbol (by decide)).bind fun _ => .pure _
  have columns : Walks (between "(" ")" (sepBy column ",")) :=
    walks_between (by decide) (by decide) (walks_sepBy (by decide) walks_column)
  refine ⟨_, rfl, ?_⟩
  refine schema.optional.bind fun _ => ?_
  refine walks_identifier.bind fun name => ?_
  refine columns.bind fun columns => ?_
  exact (walks_symbol (by decide)).bind fun _ => .pure _

theorem committed_createEnum : Committed "CREATE" "TYPE" createEnum := by
  have values : Walks (between "(" ")" (sepBy stringLiteral ",")) :=
    walks_between (by decide) (by decide) (walks_sepBy (by decide) walks_stringLiteral)
  refine ⟨_, rfl, ?_⟩
  refine walks_identifier.bind fun name => ?_
  refine (walks_keywords (by decide)).bind fun _ => ?_
  refine values.bind fun values => ?_
  exact (walks_symbol (by decide)).bind fun _ => .pure _

theorem committed_addConstraint : Committed "ALTER" "TABLE" addConstraint := by
  refine ⟨_, rfl, ?_⟩
  refine walks_identifier.bind fun table => ?_
  refine (walks_keywords (by decide)).bind fun _ => ?_
  refine walks_identifier.bind fun name => ?_
  refine walks_foreignKey.bind fun key => ?_
  exact (walks_symbol (by decide)).bind fun _ => .pure _

theorem walks_statement : ∀ kind ∈ statementKinds, Walks kind := by
  intro kind member
  simp only [statementKinds, List.mem_cons, List.not_mem_nil, or_false] at member
  rcases member with rfl | rfl | rfl | rfl | rfl
  · exact committed_createExtension.walks (by decide)
  · exact committed_createTable.walks (by decide)
  · exact committed_createEnum.walks (by decide)
  · exact committed_addConstraint.walks (by decide)
  · exact walks_comment

/-- Statements do not use up their rounds, since each one is read inside the text. -/
theorem walksFrom_statementsWithin {rounds : Nat} (enough : source.length - s.cursor.offset < rounds) :
    WalksFrom (statementsWithin statementKinds rounds) source s := by
  induction rounds generalizing s with
  | zero => omega
  | succ rounds ih =>
    rw [statementsWithin]
    refine (Walks.atEnd source s).bind fun ended t run => ?_
    cases run
    split
    · exact Walks.pure [] source s
    · refine (Walks.expectHere _ source s).bind fun _ t run => ?_
      cases run
      have kinds := Walks.choice (List.cons_ne_nil _ _) walks_statement
      refine (kinds source _).bind fun statement u run => ?_
      have moves := choice_moves run
      refine (Walks.remark _ source u).bind fun _ v run => ?_
      cases run
      refine (ih ?_).bind fun _ w _ => Walks.pure _ source w
      simp only at moves ⊢
      omega

theorem walks_statements : Walks statements := by
  intro source s
  refine (Walks.wholeSource source s).bind fun whole t run => ?_
  cases run
  exact walksFrom_statementsWithin (by omega)

/-- A reader of a whole text expects the end of the text. -/
theorem walks_whole (walks : Walks p) : Walks (whole p) := by
  refine walks.bind fun value => ?_
  refine Walks.atEnd.bind fun ended => ?_
  split
  · exact .pure value
  · exact .failHere _

end Reader

end Schemata
