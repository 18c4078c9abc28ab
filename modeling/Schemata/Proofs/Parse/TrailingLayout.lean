import Mathlib
import Schemata.Proofs.Reading.ColumnType

/-! # Layout after a type

A line end and more layout after a column type leave the type as it is, with one exception. A keyword is
compared with as many code points as it has itself, and at the end of the text with those that are left. A word
that is shorter than a spelling, but has its upper-case form, is therefore a known type only where the text ends
right after it; as soon as anything follows, it is the name of a type of its own.
-/

namespace Schemata

open Layout Reader

/-- The text is layout and a word that stands for a longer spelling of a known type. -/
structure CutShort (x word : Text) (type : KnownType) : Prop where
  split : ∃ gap, x = gap ++ word ∧ Closed gap
  spelling : ∃ longer, (type, [longer]) ∈ spelledTypes ∧ word.length < longer.length ∧
    Text.upper word = Text.upper longer

namespace Reader

variable {source : Text} {c d : Cursor} {entry : KnownType × List Text}

/-! ## Spellings that reach beyond the text -/

/-- A keyword that ends beyond the text stands for what is left of it, with a pair of letters from one code
point. -/
theorem short_of_keyword_step {keyword : Text} {filled : keyword ≠ []} (proper : keyword.isKeyword = true)
    (passed : (Opener.keyword keyword filled).step source c = .ok d) (beyond : source.length < d.offset) :
    Text.upper (source.drop c.offset) = Text.upper keyword ∧ (source.drop c.offset).length < keyword.length ∧
      Text.ligatures (Text.upper keyword) ≠ 0 := by
  rcases Opener.keyword_step_cases filled source c with ⟨_, missed⟩ | ⟨stood, ⟨gap, measured, step⟩ | ⟨_, missed⟩⟩
  · cases missed.symm.trans passed
  · cases step.symm.trans passed
    have short : (source.drop c.offset).length < keyword.length := by
      have layout := length?_le measured
      have := List.length_pos_iff.2 filled
      rw [List.length_drop] at layout ⊢
      simp only at beyond
      omega
    refine ⟨?_, short, ?_⟩
    · have same := stood
      simp only [stands, if_true, Bool.and_eq_true, decide_eq_true_eq] at same
      rw [← same.1, List.take_of_length_le (Nat.le_of_lt short)]
    · rcases length_le_of_stands proper stood with long | ⟨near, _⟩ <;> omega
  · cases missed.symm.trans passed

/-- Words without such pairs end inside the text. -/
theorem opening_lands {words : List Text} {filled : ∀ word ∈ words, word ≠ []}
    (proper : ∀ word ∈ words, word.isKeyword = true)
    (plain : ∀ word ∈ words, Text.ligatures (Text.upper word) = 0)
    (passed : opening (words.pmap Opener.keyword filled) source c = .ok d) :
    words = [] ∨ d.offset ≤ source.length := by
  induction words generalizing c with
  | nil => exact .inl rfl
  | cons word words ih =>
    right
    rw [List.pmap] at passed
    obtain ⟨b, first, rest⟩ := exists_of_opening_cons passed
    obtain ⟨properWord, proper⟩ := List.forall_mem_cons.1 proper
    obtain ⟨plainWord, plain⟩ := List.forall_mem_cons.1 plain
    rcases ih proper plain rest with rfl | inside
    · cases rest
      exact Nat.le_of_not_lt fun beyond => (short_of_keyword_step properWord first beyond).2.2 plainWord
    · exact inside

theorem ligatures_of_later_words : ∀ entry ∈ spelledTypes, ∀ word ∈ entry.2.tail,
    Text.ligatures (Text.upper word) = 0 := by decide +kernel

/-- A spelling that ends beyond the text is one word, and stands for what is left of the text. -/
theorem short_of_opening (listed : entry ∈ spelledTypes)
    (passed : opening (spellingOpeners listed) source c = .ok d) (beyond : source.length < d.offset) :
    ∃ longer, entry.2 = [longer] ∧ (source.drop c.offset).length < longer.length ∧
      Text.upper (source.drop c.offset) = Text.upper longer := by
  obtain ⟨type, words⟩ := entry
  have proper := isKeyword_of_spelledTypes _ listed
  have plain := ligatures_of_later_words _ listed
  rw [spellingOpeners] at passed
  cases words with
  | nil => exact absurd rfl (spelledTypes_filled _ listed)
  | cons word words =>
    rw [List.pmap] at passed
    obtain ⟨b, first, rest⟩ := exists_of_opening_cons passed
    obtain ⟨properWord, proper⟩ := List.forall_mem_cons.1 proper
    rcases opening_lands proper plain rest with rfl | inside
    · cases rest
      obtain ⟨form, short, _⟩ := short_of_keyword_step properWord first beyond
      exact ⟨word, rfl, short, form⟩
    · omega

theorem lands_word (label : Text) : Lands (word label) := by
  intro source s a t success
  rw [word_apply] at success
  split at success
  · cases success
  · next filled =>
    have inside : (Text.word (source.drop s.cursor.offset)).length ≤ (source.drop s.cursor.offset).length :=
      (List.takeWhile_prefix _).length_le
    have := List.length_pos_iff.2 filled
    rw [List.length_drop] at inside
    exact lands_of_lexeme success (by omega)

/-- A column type that is read ends inside the text, or it is a word that is cut short. -/
theorem columnType_lands {gap body : Text} {type : ColumnType} {t : State} (between : Gap gap body)
    (run : columnType (gap ++ body) (begun gap.length) = (.ok type, t)) :
    t.cursor.offset ≤ (gap ++ body).length ∨ ∃ known, CutShort (gap ++ body) body known := by
  rcases columnType_cases (gap ++ body) (begun gap.length) with
    ⟨⟨known, words⟩, listed, u, passed, read⟩ | ⟨_, u, _, read⟩
  · cases run.symm.trans read
    refine Classical.or_iff_not_imp_left.2 fun outside => ?_
    obtain ⟨longer, single, short, form⟩ := short_of_opening listed passed (Nat.lt_of_not_le outside)
    cases single
    have here : (gap ++ body).drop (begun gap.length).cursor.offset = body := List.drop_left
    rw [here] at short form
    rcases between with closed | ⟨rfl, _⟩
    · exact ⟨known, ⟨gap, rfl, closed⟩, longer, listed, short, form⟩
    · exact absurd form.symm (Text.upper_ne_nil_of_isKeyword (isKeyword_of_spelledTypes _ listed longer (by simp)))
  · left
    rw [read, map_eq_pure_bind] at run
    exact (lands_word _).bind_stays (fun _ => stays_pure _) _ _ _ _ run

end Reader

/-! ## Types before layout -/

namespace Reader

variable {body w : Text} {type : ColumnType} {tokens : List Token}

theorem not_second_at_end : ∀ second ∈ secondWords, stands second true [] = false :=
  fun second member => not_stands_of_not_startsInWord (secondWords_proper second member) rfl

/-- A column type is read from a text with a line end after it. -/
theorem passes_columnType_newline (phrase : Grammar.columnType type tokens)
    (laid : Laid tokens (body ++ ('\n' : CodePoint) :: w) []) :
    Passes [] columnType type (body ++ ('\n' : CodePoint) :: w) [] := by
  have ahead : Ahead [] [] := ⟨settled_nil, Nat.le_refl _⟩
  cases type with
  | known known =>
    obtain ⟨spellings, words, listed, spelling, rfl⟩ := phrase
    exact accepts_knownType listed spelling _ _ _ laid ahead trivial
  | custom name =>
    obtain ⟨_, unknown, rfl⟩ := phrase
    generalize whole : body ++ ('\n' : CodePoint) :: w = t at laid
    cases laid with
    | @cons _ _ chunk gap _ _ spelt between past =>
      obtain rfl := past.eq_of_nil
      refine passes_typeName unknown spelt between ahead (fun noGap => ?_) not_second_at_end
      -- The line end is not part of the word, so it is part of the layout.
      rw [noGap, List.append_nil] at whole
      have member : CodePoint.ofChar '\n' ∈ chunk := by
        rw [← whole]
        simp
      cases spelt with
      | typeName _ words _ => exact absurd (words _ member) (by decide)

theorem parse_of_laid_newline {gap : Text} (closed : Closed gap) (phrase : Grammar.columnType type tokens)
    (laid : Laid tokens (body ++ ('\n' : CodePoint) :: w) []) (name : Text) :
    (parseColumnType name (gap ++ body ++ ('\n' : CodePoint) :: w)).result = .ok type := by
  rw [List.append_assoc]
  exact run_of_passes (closed.gap _) (laid.settled settled_nil) (passes_columnType_newline phrase laid) name

theorem tokens_ne_nil_of_columnType (phrase : Grammar.columnType type tokens) : tokens ≠ [] := by
  rintro rfl
  cases type with
  | known known =>
    obtain ⟨spellings, words, listed, spelling, same⟩ := phrase
    refine spelledTypes_filled _ (mem_spelledTypes.2 ⟨spellings, listed, spelling⟩) ?_
    exact List.map_eq_nil_iff.1 same.symm
  | custom name =>
    obtain ⟨_, _, same⟩ := phrase
    cases same

end Reader

/-! ## Words cut short -/

namespace CutShort

variable {x word : Text} {type : KnownType}

theorem isWord (cut : CutShort x word type) : ∀ c ∈ word, c.isWord = true := by
  obtain ⟨_, longer, listed, _, form⟩ := cut
  exact fun c => Text.isWord_of_upper_eq (isKeyword_of_spelledTypes _ listed longer List.mem_cons_self) form

theorem ne_nil (cut : CutShort x word type) : word ≠ [] := by
  obtain ⟨_, longer, listed, _, form⟩ := cut
  rintro rfl
  exact Text.upper_ne_nil_of_isKeyword (isKeyword_of_spelledTypes _ listed longer List.mem_cons_self) form.symm

theorem exists_expands (cut : CutShort x word type) : ∃ c ∈ word, c.expands = true := by
  obtain ⟨_, longer, listed, short, form⟩ := cut
  have proper := isKeyword_of_spelledTypes _ listed longer List.mem_cons_self
  have width := (Text.upper_isKeyword fun c => Text.isAsciiWord_of_mem proper).1
  exact Text.exists_expands (by rw [form, width]; exact short)

/-- No spelling has both the length and the upper-case form of the word. -/
theorem unknown (cut : CutShort x word type) : ¬ Grammar.NamesKnownType word := by
  rintro ⟨⟨other, spellings⟩, row, spelling, member, length, form'⟩
  obtain ⟨_, longer, listed, short, form⟩ := cut
  have listed' : (other, [spelling]) ∈ spelledTypes := mem_spelledTypes.2 ⟨spellings, row, member⟩
  have same : Text.upper longer = Text.upper spelling := form.symm.trans form'
  have one := eq_of_first_word listed listed' (congrArg some same)
  cases one
  omega

/-- At the end of the text, the word is read as the longer spelling, and the reader ends beyond the text. -/
theorem columnType_read (cut : CutShort x word type) (gap : Text) :
    ∃ t, columnType (gap ++ word) (begun gap.length) = (.ok (.known type), t) ∧
      (gap ++ word).length ≤ t.cursor.offset := by
  have words := cut.isWord
  obtain ⟨_, longer, listed, short, form⟩ := cut
  have proper := isKeyword_of_spelledTypes _ listed longer List.mem_cons_self
  have here : (gap ++ word).drop gap.length = word := List.drop_left
  have standing : stands longer true ((gap ++ word).drop gap.length) = true := by
    rw [here, ← List.append_nil word]
    exact (stands_keyword_iff proper words rfl).2 ⟨form, .inr ⟨short, rfl⟩⟩
  have past : (gap ++ word).drop (gap.length + longer.length) = [] := by
    rw [← List.drop_drop, here, List.drop_of_length_le (Nat.le_of_lt short)]
  rcases Opener.keyword_step_cases (Text.isKeyword_ne_nil proper) (gap ++ word) (begun gap.length).cursor
    with ⟨absent, _⟩ | ⟨_, ⟨more, _, passed⟩ | ⟨unmeasured, _⟩⟩
  · cases standing.symm.trans absent
  · have opened : opening (spellingOpeners listed) (gap ++ word) (begun gap.length).cursor =
        .ok ⟨gap.length + longer.length + more, gap.length + longer.length⟩ := by
      rw [spellingOpeners, List.pmap, opening, passed]
      rfl
    obtain ⟨t, run, there⟩ := columnType_of_opening listed opened
    refine ⟨t, run, ?_⟩
    rw [there, List.length_append]
    simp only
    omega
  · simp only [begun, past] at unmeasured
    cases unmeasured

theorem parse_alone (cut : CutShort x word type) (name : Text) :
    (parseColumnType name x).result = .ok (.known type) := by
  have spelt : (Token.typeName word).Spells word [] := .typeName cut.ne_nil cut.isWord rfl
  have settled := Token.settled_of_isSign spelt.isSign []
  rw [List.append_nil] at settled
  obtain ⟨gap, rfl, closed⟩ := cut.split
  obtain ⟨t, run, beyond⟩ := cut.columnType_read gap
  exact (run_whole_eq_ok_iff (closed.gap word) settled).2 ⟨t, run, beyond⟩

/-- Before a line end, the word is the name of a type of its own. -/
theorem parse_before_newline {w : Text} (cut : CutShort x word type) (layout : Closed w) (name : Text) :
    (parseColumnType name (x ++ ('\n' : CodePoint) :: w)).result = .ok (.custom word) := by
  have spelt : (Token.typeName word).Spells word ((('\n' : CodePoint) :: w) ++ []) :=
    .typeName cut.ne_nil cut.isWord rfl
  have phrase : Grammar.columnType (.custom word) [.typeName word] := ⟨cut.ne_nil, cut.unknown, rfl⟩
  have laid := Laid.single spelt ((closed_newline.append layout).gap [])
  rw [List.append_nil] at laid
  obtain ⟨gap, rfl, closed⟩ := cut.split
  exact parse_of_laid_newline closed phrase laid name

end CutShort

/-- What a line end and more layout do to a text that is read as a type. -/
structure KeepsType (name x w : Text) (type : ColumnType) : Prop where
  /-- The type stays, unless the text ends in a word that is cut short. -/
  kept : (∀ word known, ¬ CutShort x word known) →
    (parseColumnType name (x ++ ('\n' : CodePoint) :: w)).result = .ok type
  /-- Such a word holds a code point with a longer upper-case form. The known type is lost, and the word is
  the name of another type. -/
  lost : ∀ word known, CutShort x word known → type = .known known ∧ (∃ c ∈ word, c.expands = true) ∧
    (parseColumnType name (x ++ ('\n' : CodePoint) :: w)).result = .ok (.custom word)

/-- Layout after a line end changes a type only where the text ended in a word that is cut short. -/
theorem trailing_layout_keeps_types {name x w : Text} {type : ColumnType}
    (read : (parseColumnType name x).result = .ok type) (layout : Closed w) : KeepsType name x w type := by
  constructor
  · intro whole
    obtain ⟨gap, body, rfl, between, settled⟩ := exists_gap_of_run read
    obtain ⟨t, run, ended⟩ := (run_whole_eq_ok_iff between settled).1 read
    have inside : t.cursor.offset ≤ (gap ++ body).length := by
      rcases columnType_lands between run with inside | ⟨known, cut⟩
      · exact inside
      · exact absurd cut (whole body known)
    obtain ⟨tokens, phrase, covers⟩ := (columnType_tracks.each _ _).reads type t run
    have filled := tokens_ne_nil_of_columnType phrase
    have laid : Laid tokens (body ++ []) [] := by
      have laid := covers.laid inside
      rw [List.drop_of_length_le ended] at laid
      simpa [begun] using laid
    have closed : Closed gap := by
      rcases between with closed | ⟨rfl, _⟩
      · exact closed
      · have := laid.length_lt filled
        simp at this
    have longer := laid.newline_rest filled layout []
    rw [List.append_nil] at longer
    exact parse_of_laid_newline closed phrase longer name
  · intro word known cut
    cases read.symm.trans (cut.parse_alone name)
    exact ⟨rfl, cut.exists_expands, cut.parse_before_newline layout name⟩

/-- A spelling of several words stays a known type; the line comment after it is closed by the line end. -/
theorem trailing_layout_keeps_types_comment :
    (parseColumnType "example" (text "double precision // p" ++ ('\n' : CodePoint) :: text "/* q */")).result =
      .ok (.known .double) := by
  have layout : Closed "/* q */" := @Closed.block " q " [] (by decide) .nil
  refine (trailing_layout_keeps_types (by cbv) layout).kept fun word known cut => ?_
  obtain ⟨gap, split, _⟩ := cut.split
  obtain ⟨c, member, expands⟩ := cut.exists_expands
  have plain : ∀ c ∈ text "double precision // p", c.expands = false := by decide
  rw [plain c (split ▸ List.mem_append_right gap member)] at expands
  cases expands

/-- The first letter stands for two, so the word is shorter than `FLOAT4`. -/
theorem trailing_newline_changes_type :
    (parseColumnType "example" "ﬂoat4").result = .ok (.known .real) ∧
      (parseColumnType "example" "ﬂoat4\n").result = .ok (.custom "ﬂoat4") := by
  have cut : CutShort "ﬂoat4" "ﬂoat4" .real :=
    ⟨⟨[], rfl, .nil⟩, "FLOAT4", by decide, by decide, by decide +kernel⟩
  exact ⟨cut.parse_alone "example", cut.parse_before_newline .nil "example"⟩

end Schemata
