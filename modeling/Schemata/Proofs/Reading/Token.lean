import Schemata.Proofs.Reading.Comment
import Schemata.Proofs.Reading.Tracking

/-! # Readers of tokens

A reader of tokens either reads a chunk that spells a token, with the layout after it, or it fails inside
a chunk that can still be completed to one, or it is refused by a fault. Each such reader keeps to the
phrases of a single token.
-/

namespace Schemata

open Layout

namespace Reader

variable {α : Type} {L : Language α} {p : Reader α}

/-- What a reader of tokens does on a text from a state. -/
inductive Lexes (L : Language α) (p : Reader α) (source : Text) (s : State) : Prop
  | chunk {length : Nat} {a : α} {token : Token} : p source s = lexeme length a source s →
      L a [token] →
      (s.cursor.offset + length ≤ source.length →
        token.Spells ((source.drop s.cursor.offset).take length)
          (source.drop (s.cursor.offset + length))) →
      Lexes L p source s
  | missing {label : Option Text} {length : Nat} :
      p source s = failAt label (s.cursor.offset + length : Nat) source s →
      (s.cursor.offset + length ≤ source.length → ∃ a token suffix, L a [token] ∧
        ∀ rest, token.Spells ((source.drop s.cursor.offset).take length ++ suffix) ('\n' :: rest)) →
      Lexes L p source s
  | fault {fault : Fault} : p source s = refuse fault source s → Lexes L p source s

theorem drop_eq_take_append (source : Text) (offset length : Nat) :
    source.drop offset = (source.drop offset).take length ++ source.drop (offset + length) := by
  rw [← List.drop_drop, List.take_append_drop]

/-- A lexeme of a token covers its chunk and the layout after it. -/
theorem covers_of_spells {token : Token} {source : Text} {offset length gap : Nat}
    (spelt : offset + length ≤ source.length →
      token.Spells ((source.drop offset).take length) (source.drop (offset + length)))
    (measured : length? (source.drop (offset + length)) = some gap) :
    Covers [token] source offset (offset + length + gap) := by
  refine ⟨by omega, fun inside => ?_⟩
  obtain ⟨layout, rest, split, width, between, _⟩ := gap_of_length? measured
  have chunk := spelt (by omega)
  have after : source.drop (offset + length + gap) = rest := by
    rw [← List.drop_drop, split, ← width, List.drop_left]
  rw [split] at chunk
  rw [drop_eq_take_append source offset length, split, after]
  exact Laid.single chunk between

/-- An open block comment after a token is expected to be closed at the end of the text. -/
theorem expected_of_open {token : Token} {a : α} {source : Text} {offset length : Nat}
    (phrase : L a [token])
    (spelt : offset + length ≤ source.length →
      token.Spells ((source.drop offset).take length) (source.drop (offset + length)))
    (unmeasured : length? (source.drop (offset + length)) = none) (label : Option Text)
    (cursor : Cursor) : Expected L source offset ⟨label, source.length, cursor⟩ := by
  have inside : offset + length ≤ source.length := by
    refine Nat.le_of_not_lt fun beyond => ?_
    rw [List.drop_of_length_le (by omega)] at unmeasured
    simp [length?, measure?] at unmeasured
  refine ⟨source.length, rfl, by omega, fun _ => ⟨[token], .of_phrase phrase, ?_⟩⟩
  have whole : (source.drop offset).take (source.length - offset) = source.drop offset :=
    List.take_of_length_le (by simp)
  rw [whole, drop_eq_take_append source offset length]
  exact Completable.of_open_comment (spelt inside) unmeasured

/-- A lexeme that runs into an open block comment only expects the end of the comment. -/
theorem tracksFrom_of_open {token : Token} {a b : α} {source : Text} {s : State} {length : Nat}
    (run : p source s = lexeme length a source s) (phrase : L b [token])
    (spelt : s.cursor.offset + length ≤ source.length →
      token.Spells ((source.drop s.cursor.offset).take length)
        (source.drop (s.cursor.offset + length)))
    (unmeasured : length? (source.drop (s.cursor.offset + length)) = none) :
    TracksFrom p L source s := by
  refine .of_error (run.trans (lexeme_of_open unmeasured)) ⟨[_], rfl, fun e member => ?_⟩
  obtain rfl := List.mem_singleton.1 member
  exact expected_of_open phrase spelt unmeasured _ _

theorem Lexes.tracksFrom {source : Text} {s : State} (lexes : Lexes L p source s) :
    TracksFrom p L source s := by
  cases lexes with
  | @chunk length a token run phrase spelt =>
    cases measured : length? (source.drop (s.cursor.offset + length)) with
    | none => exact tracksFrom_of_open run phrase spelt measured
    | some gap =>
      rw [lexeme_of_gap measured] at run
      refine ⟨by rw [run]; exact Records.refl L source _ s, fun b t success => ?_⟩
      rw [run] at success
      cases success
      exact ⟨[token], phrase, covers_of_spells spelt measured⟩
  | @missing label length run completes =>
    refine .of_error run ⟨[_], rfl, fun e member => ?_⟩
    obtain rfl := List.mem_singleton.1 member
    refine ⟨s.cursor.offset + length, rfl, by omega, fun inside => ?_⟩
    obtain ⟨a, token, suffix, phrase, spelt⟩ := completes inside
    rw [Nat.add_sub_cancel_left]
    exact ⟨[token], .of_phrase phrase, Completable.of_spells spelt⟩
  | fault run => exact .of_error run (Records.refl L source _ s)

theorem Tracks.of_lexes (viable : L.Viable []) (lexes : ∀ source s, Lexes L p source s) :
    Tracks p L := ⟨viable, fun source s => (lexes source s).tracksFrom⟩

/-! ## The readers of tokens -/

/-- Where a token is expected and nothing of it is read yet. -/
theorem Lexes.nothing {source : Text} {s : State} {label : Option Text} {a : α} {token : Token}
    (run : p source s = failAt label s.cursor.offset source s) (phrase : L a [token])
    (writable : ∃ chunk, ∀ rest, token.Spells chunk ('\n' :: rest)) : Lexes L p source s := by
  obtain ⟨chunk, spelt⟩ := writable
  have here : p source s = failAt label (s.cursor.offset + 0 : Nat) source s := run
  refine .missing here fun _ => ⟨a, token, chunk, phrase, ?_⟩
  simpa using spelt

private theorem stands_facts {expected t : Text} {ignoreCase : Bool}
    (standing : stands expected ignoreCase t = true) :
    (if ignoreCase then Text.upper (t.take expected.length) = Text.upper expected
      else t.take expected.length = expected) ∧
      (expected.endsInWord && Text.startsInWord (t.drop expected.length)) = false := by
  simp only [stands, Bool.and_eq_true, Bool.not_eq_true'] at standing
  obtain ⟨same, ended⟩ := standing
  refine ⟨?_, ended⟩
  cases ignoreCase <;> simpa using same

/-- A keyword that stands in a text is spelt there, unless the text is too short for it. -/
theorem spells_keyword {word t : Text} (proper : word.isKeyword = true) (standing : stands word true t = true)
    (inside : word.length ≤ t.length) :
    (Token.keyword word).Spells (t.take word.length) (t.drop word.length) := by
  obtain ⟨form, ended⟩ := stands_facts standing
  rw [Text.endsInWord_of_isKeyword proper, Bool.true_and] at ended
  refine .keyword proper ?_ form ended
  rw [List.length_take]
  omega

/-- A keyword is read in any case. -/
theorem keyword_tracks {word : Text} (proper : word.isKeyword = true) :
    Tracks (keyword word) fun _ tokens => tokens = [.keyword word] := by
  refine .of_lexes ⟨[], [.keyword word], rfl, ?_⟩ fun source s => ?_
  · intro token member
    obtain rfl := List.mem_singleton.1 member
    exact ⟨word, .keyword proper rfl rfl rfl⟩
  · have run := token_apply (Text.isKeyword_ne_nil proper) true (inQuotes word) source s
    by_cases standing : stands word true (source.drop s.cursor.offset) = true
    · rw [if_pos standing] at run
      refine .chunk run rfl fun inside => ?_
      have spelt := spells_keyword proper standing (by rw [List.length_drop]; omega)
      rwa [List.drop_drop] at spelt
    · rw [if_neg standing] at run
      exact .nothing (a := []) run rfl ⟨word, fun rest => .keyword proper rfl rfl rfl⟩

/-- A sign that stands in a text is spelt there. -/
theorem spells_sign {t u : Text} (proper : t.isSign = true) (standing : stands t false u = true) :
    t.length ≤ u.length ∧ (Token.sign t).Spells (u.take t.length) (u.drop t.length) := by
  obtain ⟨same, ended⟩ := stands_facts standing
  rw [if_neg (by decide)] at same
  have width := congrArg List.length same
  rw [List.length_take] at width
  rw [same]
  exact ⟨by omega, .sign proper ended⟩

/-- A sign is read as it stands. -/
theorem sign_tracks {t : Text} (proper : t.isSign = true) (label : Text) :
    Tracks (token t false true label) fun _ tokens => tokens = [.sign t] := by
  have alone (rest : Text) : (Token.sign t).Spells t ('\n' :: rest) := by
    have boundary : Text.startsInWord ('\n' :: rest) = false := rfl
    exact .sign proper (by rw [boundary, Bool.and_false])
  refine .of_lexes ⟨[], [.sign t], rfl, ?_⟩ fun source s => ?_
  · intro token member
    obtain rfl := List.mem_singleton.1 member
    exact ⟨t, .sign proper (Bool.and_false _)⟩
  · have run := token_apply (Text.ne_nil_of_isSign proper) false label source s
    by_cases standing : stands t false (source.drop s.cursor.offset) = true
    · rw [if_pos standing] at run
      refine .chunk run rfl fun _ => ?_
      obtain ⟨_, spelt⟩ := spells_sign proper standing
      rwa [List.drop_drop] at spelt
    · rw [if_neg standing] at run
      exact .nothing (a := []) run rfl ⟨t, alone⟩

theorem symbol_tracks {t : Text} (proper : t.isSign = true) :
    Tracks (symbol t) fun _ tokens => tokens = [.sign t] := sign_tracks proper _

/-- The longest word at the start of a text, and what follows it. -/
theorem word_split (t : Text) :
    t = Text.word t ++ t.drop (Text.word t).length ∧ t.take (Text.word t).length = Text.word t ∧
      Text.startsInWord (t.drop (Text.word t).length) = false := by
  have whole : Text.word t ++ t.dropWhile CodePoint.isWord = t := List.takeWhile_append_dropWhile
  have gap : Text.word t ++ t.drop (Text.word t).length = t :=
    List.prefix_iff_eq_append.1 (List.takeWhile_prefix _)
  have rest : t.drop (Text.word t).length = t.dropWhile CodePoint.isWord :=
    List.append_cancel_left (gap.trans whole.symm)
  refine ⟨gap.symm, List.prefix_iff_eq_take.1 (List.takeWhile_prefix _) |>.symm, ?_⟩
  rw [rest]
  cases split : t.dropWhile CodePoint.isWord with
  | nil => rfl
  | cons c tail =>
    have stop := List.head?_dropWhile_not CodePoint.isWord t
    rw [split] at stop
    simpa [Text.startsInWord] using stop

private theorem isWord_of_mem_letter : ∀ c ∈ text "x", c.isWord = true := by decide

/-- A name in double quotes is spelt with them. -/
theorem spells_quotedName {name t : Text} (read : QuotedName.read? t = some name) :
    name.length + 2 ≤ t.length ∧ (Token.name name).Spells (t.take (name.length + 2)) (t.drop (name.length + 2)) := by
  obtain ⟨filled, unquoted, rest, rfl⟩ := QuotedName.read?_eq_some_iff.1 read
  have chunk : (CodePoint.ofChar '"' :: (name ++ CodePoint.ofChar '"' :: rest)).take (name.length + 2) =
      CodePoint.ofChar '"' :: (name ++ [CodePoint.ofChar '"']) := by
    rw [List.take_succ_cons, List.take_length_add_append]
    rfl
  rw [chunk]
  exact ⟨by simp only [List.length_cons, List.length_append]; omega, .quotedName filled unquoted⟩

/-- The longest word at the start of a text is spelt there, as a name and as the name of a type. -/
theorem spells_word {t : Text} (filled : Text.word t ≠ []) :
    (Token.name (Text.word t)).Spells (t.take (Text.word t).length) (t.drop (Text.word t).length) ∧
      (Token.typeName (Text.word t)).Spells (t.take (Text.word t).length) (t.drop (Text.word t).length) := by
  obtain ⟨_, chunk, ended⟩ := word_split t
  rw [chunk]
  exact ⟨.bareName filled (fun c => Text.isWord_of_mem_word) ended,
    .typeName filled (fun c => Text.isWord_of_mem_word) ended⟩

/-- A name is read bare or in double quotes. -/
theorem identifier_lexes (source : Text) (s : State) :
    Lexes (fun name tokens => name ≠ [] ∧ tokens = [.name name]) identifier source s := by
  have run := identifier_apply source s
  cases read : QuotedName.read? (source.drop s.cursor.offset) with
  | some name =>
    simp only [read] at run
    obtain ⟨filled, _⟩ := QuotedName.read?_eq_some_iff.1 read
    refine .chunk run ⟨filled, rfl⟩ fun _ => ?_
    obtain ⟨_, spelt⟩ := spells_quotedName read
    rwa [List.drop_drop] at spelt
  | none =>
    simp only [read, word_apply] at run
    by_cases empty : Text.word (source.drop s.cursor.offset) = []
    · rw [if_pos empty] at run
      exact .nothing run ⟨by decide, rfl⟩
        ⟨"x", fun rest => .bareName (by decide) isWord_of_mem_letter rfl⟩
    · rw [if_neg empty] at run
      refine .chunk run ⟨empty, rfl⟩ fun _ => ?_
      obtain ⟨spelt, _⟩ := spells_word empty
      rwa [List.drop_drop] at spelt

theorem identifier_tracks :
    Tracks identifier fun name tokens => name ≠ [] ∧ tokens = [.name name] := by
  refine .of_lexes ⟨text "x", [.name "x"], ⟨by decide, rfl⟩, ?_⟩ identifier_lexes
  intro token member
  obtain rfl := List.mem_singleton.1 member
  exact ⟨"x", .bareName (by decide) isWord_of_mem_letter rfl⟩

/-- A literal that is read is spelt with its quotes. -/
theorem spells_literal {quote : CodePoint} {rest : Text} {content : Literal.Content}
    (proper : Literal.IsQuote quote) (read : Literal.read [quote] rest = .ok content) :
    (Token.literal quote content.value).Spells ((quote :: rest).take (1 + content.length))
      ((quote :: rest).drop (1 + content.length)) := by
  obtain ⟨skipped, body, after, whole, unskipped, pieces, length⟩ := Literal.pieces_of_readFrom read
  obtain rfl := List.length_eq_zero_iff.1 unskipped
  have chunk : (quote :: rest).take (1 + content.length) = quote :: (body ++ [quote]) := by
    have width : 1 + content.length = body.length + 1 + 1 := by omega
    rw [width, List.take_succ_cons, whole, List.nil_append, List.take_length_add_append]
    rfl
  rw [chunk]
  exact .literal proper pieces

/-- A literal is read with its escapes; where it breaks off, it can be completed. -/
theorem quoted_tracks {quote : CodePoint} (proper : Literal.IsQuote quote) (label : Text) :
    Tracks (quoted [quote] label) fun value tokens => tokens = [.literal quote value] := by
  have alone (after : Text) : (Token.literal quote []).Spells [quote, quote] after := .literal proper .nil
  refine .of_lexes ⟨[], [.literal quote []], rfl, ?_⟩ fun source s => ?_
  · intro token member
    obtain rfl := List.mem_singleton.1 member
    exact ⟨_, alone []⟩
  have run := quoted_apply quote label source s
  cases split : source.drop s.cursor.offset with
  | nil =>
    simp only [split] at run
    exact .nothing run rfl ⟨_, fun rest => alone _⟩
  | cons c rest =>
    simp only [split] at run
    by_cases same : c = quote
    · subst same
      rw [if_pos rfl] at run
      have inside := congrArg List.length split
      simp only [List.length_drop, List.length_cons] at inside
      cases read : Literal.read [c] rest with
      | ok content =>
        simp only [read] at run
        refine .chunk run rfl fun _ => ?_
        rw [← List.drop_drop, split]
        exact spells_literal proper read
      | error fault =>
        cases fault with
        | unclosed =>
          obtain ⟨value, pieces⟩ := Literal.pieces_of_unclosed proper read
          have stop : source.length = s.cursor.offset + (rest.length + 1) := by omega
          simp only [read] at run
          rw [stop] at run
          refine .missing run fun _ => ⟨value, .literal c value, [c], rfl, fun _ => ?_⟩
          rw [split, List.take_of_length_le (by simp)]
          exact .literal proper pieces
        | malformed distance =>
          obtain ⟨k, rfl, _, _, value, suffix, pieces⟩ := Literal.completes_of_malformed proper read
          simp only [read] at run
          refine .missing run fun _ => ⟨value, .literal c value, suffix ++ [c], rfl, fun _ => ?_⟩
          have chunk : (source.drop s.cursor.offset).take (1 + (0 + k)) ++ (suffix ++ [c]) =
              c :: (((rest.take k).drop 0 ++ suffix) ++ [c]) := by
            have width : 1 + (0 + k) = k + 1 := by omega
            rw [split, width]
            simp
          rw [chunk]
          exact .literal proper pieces
        | oversized digits =>
          simp only [read] at run
          exact .fault run
    · rw [if_neg same] at run
      exact .nothing run rfl ⟨_, fun rest => alone _⟩

/-- A comment is spelt by its dashes and the rest of its line. -/
theorem spells_comment {t : Text} (standing : stands "--" false t = true) :
    2 + ((commentGap (t.drop 2)).length + (commentLine (t.drop 2)).length) ≤ t.length ∧
      (Token.comment (Text.dropRight (· = '\r') (commentLine (t.drop 2)))).Spells
        (t.take (2 + ((commentGap (t.drop 2)).length + (commentLine (t.drop 2)).length)))
        (t.drop (2 + ((commentGap (t.drop 2)).length + (commentLine (t.drop 2)).length))) := by
  obtain ⟨rest, rfl⟩ := stands_dashes_iff.1 standing
  obtain ⟨ending, after, line, content, whole, ended⟩ := commentLine_pieces rest
  have front : rest.take (commentGap rest ++ commentLine rest).length =
      commentGap rest ++ commentLine rest := by
    have taken := @List.take_left _ (commentGap rest ++ commentLine rest) after
    rwa [List.append_assoc, ← whole] at taken
  have back : rest.drop (commentGap rest ++ commentLine rest).length = after := by
    have left := @List.drop_left _ (commentGap rest ++ commentLine rest) after
    rwa [List.append_assoc, ← whole] at left
  have width : 2 + ((commentGap rest).length + (commentLine rest).length) =
      (commentGap rest ++ commentLine rest).length + 2 := by
    rw [List.length_append]
    omega
  have spelt := Token.Spells.comment line ended
  rw [← content] at spelt
  have inside := congrArg List.length whole
  simp only [List.length_append] at inside
  rw [List.drop_succ_cons, List.drop_succ_cons, List.drop_zero, width, List.take_succ_cons,
    List.take_succ_cons, front, List.drop_succ_cons, List.drop_succ_cons, back]
  refine ⟨?_, spelt⟩
  simp only [List.length_cons, List.length_append]
  omega

/-- A comment is read to the end of its line. -/
theorem comment_tracks : Tracks comment fun statement tokens =>
    ∃ content, statement = .comment content ∧ tokens = [.comment content] := by
  have alone {after : Text} (ended : after.head?.all (· = CodePoint.ofChar '\n') = true) :
      (Token.comment []).Spells "--" after := by
    have line : Token.CommentLine [] [] [] := by constructor <;> simp
    exact .comment line ended
  refine .of_lexes ⟨.comment [], [.comment []], ⟨[], rfl, rfl⟩, ?_⟩ fun source s => ?_
  · intro token member
    obtain rfl := List.mem_singleton.1 member
    exact ⟨_, alone rfl⟩
  have run := comment_apply source s
  by_cases standing : stands "--" false (source.drop s.cursor.offset) = true
  · rw [if_pos standing] at run
    obtain ⟨_, spelt⟩ := spells_comment standing
    rw [List.drop_drop, List.drop_drop] at spelt
    exact .chunk run ⟨_, rfl, rfl⟩ fun _ => spelt
  · rw [if_neg standing] at run
    exact .nothing run ⟨[], rfl, rfl⟩ ⟨_, fun rest => alone rfl⟩

end Reader

end Schemata
