import Schemata.Proofs.Reading.Reach
import Schemata.Proofs.Reading.Token

/-! # Reading tokens back

A reader of a token reads every chunk that spells it, whatever follows. At the tokens that the grammar
allows in place of an optional part, the readers of that part give up on the spot.
-/

namespace Schemata

open Layout

namespace Reader

variable {α β : Type} {h t u v rest : Text} {p : Reader α} {f : α → Reader β}
  {outcome : Text → State → Except Failure β × State → Prop} {tokens : List Token}

/-- The reader reads the chunk, if `after` follows it. -/
def Takes (p : Reader α) (a : α) (chunk after : Text) : Prop :=
  ∀ source s, At source s (chunk ++ after) → p source s = lexeme chunk.length a source s

theorem Takes.passes {a : α} {chunk gap : Text} (takes : Takes p a chunk (gap ++ u))
    (between : Gap gap u) (settled : Settled u) : Passes h p a (chunk ++ (gap ++ u)) u := by
  intro source s here
  have stop : source.drop (s.cursor.offset + chunk.length) = gap ++ u := by
    rw [← List.drop_drop, here.rest, List.drop_left]
  have measured : length? (source.drop (s.cursor.offset + chunk.length)) = some gap.length := by
    rw [stop, length?_gap_append between settled]
  refine ⟨s.at ⟨s.cursor.offset + chunk.length + gap.length, s.cursor.offset + chunk.length⟩, ?_, ?_, ?_⟩
  · constructor
    · simp only [State.at]
      rw [← List.drop_drop, stop, List.drop_left]
    · have inside := here.inside
      simp only [List.length_append] at inside
      simp only [State.at]
      omega
  · exact ⟨[], rfl, by simp⟩
  · rw [takes source s here, lexeme_of_gap measured]

/-! ## Tokens -/

theorem takes_token {expected chunk after : Text} {ignoreCase : Bool} (label : Text)
    (width : chunk.length = expected.length) (filled : expected ≠ [])
    (standing : stands expected ignoreCase (chunk ++ after) = true) :
    Takes (token expected ignoreCase true label) chunk chunk after := by
  intro source s here
  rw [token_apply filled, here.rest, if_pos standing, ← width, List.take_left]

theorem takes_keyword {word chunk after : Text} (spelt : (Token.keyword word).Spells chunk after) :
    Takes (keyword word) chunk chunk after := by
  cases spelt with
  | keyword proper width form ended =>
    apply takes_token _ width (Text.isKeyword_ne_nil proper)
    have words : ∀ c ∈ chunk, c.isWord = true := fun c => Text.isWord_of_upper_eq proper form
    exact (stands_keyword_iff proper words ended).2 ⟨form, .inl width⟩

theorem takes_sign {sign chunk after : Text} (spelt : (Token.sign sign).Spells chunk after) (label : Text) :
    Takes (token sign false true label) chunk chunk after := by
  cases spelt with
  | sign proper ended =>
    apply takes_token label rfl (Text.ne_nil_of_isSign proper)
    simp only [stands, List.take_left, List.drop_left, ended]
    simp

theorem word_append {chunk after : Text} (words : ∀ c ∈ chunk, c.isWord = true)
    (ended : after.startsInWord = false) : Text.word (chunk ++ after) = chunk := by
  have stop : after.takeWhile CodePoint.isWord = [] := Text.word_eq_nil_iff.2 ended
  rw [Text.word, List.takeWhile_append_of_pos words, stop, List.append_nil]

theorem takes_word {name after : Text} (filled : name ≠ []) (words : ∀ c ∈ name, c.isWord = true)
    (ended : after.startsInWord = false) (label : Text) : Takes (word label) name name after := by
  intro source s here
  rw [word_apply, here.rest, word_append words ended, if_neg filled]

theorem takes_typeName {name chunk after : Text} (spelt : (Token.typeName name).Spells chunk after)
    (label : Text) : Takes (word label) name chunk after := by
  cases spelt with
  | typeName filled words ended => exact takes_word filled words ended label

theorem takes_name {name chunk after : Text} (spelt : (Token.name name).Spells chunk after) :
    Takes identifier name chunk after := by
  intro source s here
  cases spelt with
  | bareName filled words ended =>
    have unquoted : QuotedName.read? (name ++ after) = none := by
      obtain ⟨c, tail, rfl⟩ := List.exists_cons_of_ne_nil filled
      have other : c ≠ CodePoint.ofChar '"' := by
        rintro rfl
        exact absurd (words _ List.mem_cons_self) (by decide)
      simp [QuotedName.read?, other]
    rw [identifier_apply, here.rest]
    simp only [unquoted]
    exact takes_word filled words ended _ source s here
  | quotedName filled unquoted =>
    have read : QuotedName.read? ((CodePoint.ofChar '"' :: (name ++ [CodePoint.ofChar '"'])) ++ after) =
        some name :=
      QuotedName.read?_eq_some_iff.2 ⟨filled, unquoted, after, by simp⟩
    have width : List.length (CodePoint.ofChar '"' :: (name ++ [CodePoint.ofChar '"'])) =
        name.length + 2 := by simp
    rw [identifier_apply, here.rest, width]
    simp only [read]

theorem takes_literal {quote : CodePoint} {value chunk after : Text}
    (spelt : (Token.literal quote value).Spells chunk after) (label : Text) :
    Takes (quoted [quote] label) value chunk after := by
  intro source s here
  cases spelt with
  | @literal _ _ body _ proper pieces =>
    have read : Literal.read [quote] (body ++ quote :: after) = .ok ⟨value, 0 + body.length + 1⟩ :=
      Literal.readFrom_of_pieces proper pieces 0 after
    have whole : (quote :: (body ++ [quote])) ++ after = quote :: (body ++ quote :: after) := by simp
    have width : List.length (quote :: (body ++ [quote])) = 1 + (0 + body.length + 1) := by
      simp only [List.length_cons, List.length_append, List.length_nil]
      omega
    rw [quoted_apply, here.rest, whole, width]
    simp only [if_true, read]

theorem takes_comment {content chunk after : Text} (spelt : (Token.comment content).Spells chunk after) :
    Takes comment (.comment content) chunk after := by
  intro source s here
  cases spelt with
  | @comment gap _ ending _ line ended =>
    have here' : source.drop s.cursor.offset = CodePoint.ofChar '-' :: CodePoint.ofChar '-' ::
        (gap ++ (content ++ ending ++ after)) := by
      rw [here.rest]
      simp
    have dropped : source.drop (s.cursor.offset + 2) = gap ++ (content ++ ending ++ after) := by
      rw [← List.drop_drop, here']
      rfl
    have standing : stands "--" false (source.drop s.cursor.offset) = true :=
      stands_dashes_iff.2 ⟨_, here'⟩
    rw [comment_apply, if_pos standing]
    simp only [dropped, commentGap_of_line line ended, commentLine_of_line line ended,
      dropRight_of_line line]
    congr 1
    simp only [List.length_cons, List.length_append]
    omega

/-! ## Giving up on the spot -/

/-- The reader expects something at `t` and does not move. -/
def Misses (p : Reader α) (t : Text) : Prop :=
  ∀ source s, At source s t → ∃ label, p source s = failAt label s.cursor.offset source s

theorem Misses.halts (misses : Misses p t) (within : h.length ≤ t.length) : Halts h p t := by
  intro source s here
  obtain ⟨label, run⟩ := misses source s here
  refine ⟨s.cursor.offset, _, run, ⟨[_], rfl, fun e member => ?_⟩⟩
  obtain rfl := List.mem_singleton.1 member
  have inside := here.inside
  simp only
  omega

theorem Misses.bind (misses : Misses p t) : Misses (p >>= f) t := by
  intro source s here
  obtain ⟨label, run⟩ := misses source s here
  refine ⟨label, ?_⟩
  rw [bind_apply, run]
  rfl

theorem misses_token {expected : Text} {ignoreCase : Bool} (label : Text) (filled : expected ≠ [])
    (absent : stands expected ignoreCase t = false) : Misses (token expected ignoreCase true label) t := by
  intro source s here
  refine ⟨some label, ?_⟩
  rw [token_apply filled, here.rest, if_neg (by simp [absent])]

theorem misses_keyword {word : Text} (filled : word ≠ []) (absent : stands word true t = false) :
    Misses (keyword word) t := misses_token _ filled absent

/-- A sign is missed by its first code point. -/
theorem misses_sign {sign : Text} (filled : sign ≠ []) (other : t.head? ≠ sign.head?) (label : Text) :
    Misses (token sign false true label) t := by
  refine misses_token _ filled (Bool.eq_false_iff.2 fun standing => other ?_)
  simp only [stands, Bool.false_eq_true, if_false, Bool.and_eq_true, decide_eq_true_eq] at standing
  obtain ⟨c, tail, rfl⟩ := List.exists_cons_of_ne_nil filled
  cases t with
  | nil => cases standing.1
  | cons d rest =>
    have same := standing.1
    rw [List.length_cons, List.take_succ_cons, List.cons.injEq] at same
    exact congrArg some same.1

theorem misses_symbol {c : CodePoint} (other : t.head? ≠ some c) : Misses (symbol [c]) t :=
  misses_sign (by simp) other _

theorem misses_word (ended : t.startsInWord = false) (label : Text) : Misses (word label) t := by
  intro source s here
  refine ⟨some label, ?_⟩
  rw [word_apply, here.rest, if_pos (Text.word_eq_nil_iff.2 ended)]

theorem misses_identifier (ended : t.startsInWord = false) (unquoted : t.head? ≠ some '"') :
    Misses identifier t := by
  intro source s here
  have notQuoted : QuotedName.read? t = none := by
    cases t with
    | nil => rfl
    | cons c rest =>
      have other : c ≠ CodePoint.ofChar '"' := fun same => unquoted (congrArg some same)
      simp [QuotedName.read?, other]
  obtain ⟨label, run⟩ := misses_word ended "identifier" source s here
  refine ⟨label, ?_⟩
  rw [identifier_apply, here.rest]
  simp only [notQuoted]
  exact run

theorem misses_quoted {quote : CodePoint} (label : Text) (other : t.head? ≠ some quote) :
    Misses (quoted [quote] label) t := by
  intro source s here
  refine ⟨some label, ?_⟩
  rw [quoted_apply, here.rest]
  cases t with
  | nil => rfl
  | cons c rest =>
    have differ : c ≠ quote := fun same => other (congrArg some same)
    simp only [if_neg differ]

/-! ## The first token -/

/-- The text starts with a chunk of the token. -/
def Leads (token : Token) (t : Text) : Prop := ∃ chunk after, t = chunk ++ after ∧ token.Spells chunk after

theorem leads_of_laid {token : Token} (laid : Laid (token :: tokens) t rest) : Leads token t := by
  cases laid with
  | cons spelt _ _ => exact ⟨_, _, rfl, spelt⟩

theorem Leads.sign {sign : Text} (leads : Leads (.sign sign) t) : t.head? = sign.head? := by
  obtain ⟨_, after, rfl, spelt⟩ := leads
  cases spelt with
  | sign proper _ =>
    cases sign with
    | nil => simp [Text.isSign] at proper
    | cons c tail => rfl

theorem Leads.literal {quote : CodePoint} {value : Text} (leads : Leads (.literal quote value) t) :
    t.head? = some quote := by
  obtain ⟨_, after, rfl, spelt⟩ := leads
  cases spelt
  rfl

theorem Leads.keyword {word : Text} (leads : Leads (.keyword word) t) : t.startsInWord = true := by
  obtain ⟨chunk, after, rfl, spelt⟩ := leads
  cases spelt with
  | keyword proper width form _ =>
    cases chunk with
    | nil => exact absurd form.symm (Text.upper_ne_nil_of_isKeyword proper)
    | cons c tail => exact Text.isWord_of_upper_eq proper form List.mem_cons_self

theorem Leads.name {name : Text} (leads : Leads (.name name) t) :
    t.startsInWord = true ∨ t.head? = some '"' := by
  obtain ⟨_, after, rfl, spelt⟩ := leads
  cases spelt with
  | quotedName _ _ => exact .inr rfl
  | bareName filled words _ =>
    obtain ⟨c, tail, rfl⟩ := List.exists_cons_of_ne_nil filled
    exact .inl (words c List.mem_cons_self)

theorem head?_ne_of_startsInWord {c : CodePoint} (starts : t.startsInWord = true) (other : c.isWord = false) :
    t.head? ≠ some c := by
  cases t with
  | nil => simp
  | cons d tail =>
    rintro ⟨⟩
    rw [Text.startsInWord, other] at starts
    contradiction

theorem startsInWord_of_head? {c : CodePoint} (head : t.head? = some c) :
    t.startsInWord = c.isWord := by
  cases t with
  | nil => cases head
  | cons d tail =>
    cases head
    rfl

/-- Where another keyword stands, this one does not. -/
theorem Leads.not_stands {word other : Text} (leads : Leads (.keyword word) t)
    (proper : other.isKeyword = true) (differ : Text.upper word ≠ Text.upper other) :
    stands other true t = false := by
  obtain ⟨chunk, after, rfl, spelt⟩ := leads
  cases spelt with
  | keyword proper' width form ended =>
    rw [Bool.eq_false_iff]
    intro standing
    have words : ∀ c ∈ chunk, c.isWord = true := fun c => Text.isWord_of_upper_eq proper' form
    exact differ (form.symm.trans ((stands_keyword_iff proper words ended).1 standing).1)

end Reader

end Schemata
