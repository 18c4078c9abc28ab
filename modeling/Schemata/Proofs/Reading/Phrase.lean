import Schemata.Parse.Statement
import Schemata.Proofs.Reading.Token

/-! # Readers of phrases

The readers of lists, column types and expressions keep to the languages of the grammar.
-/

namespace Schemata

open Layout

namespace Reader

variable {α β : Type} {L : Language α} {p : Reader α}

/-! ## Lists -/

/-- Readers of single tokens, one after another. -/
theorem tracks_mapM {f : α → Reader β} {token : α → Token} {values : List α}
    (each : ∀ a ∈ values, Tracks (f a) fun _ tokens => tokens = [token a]) :
    Tracks (values.mapM f) fun _ tokens => tokens = values.map token := by
  induction values with
  | nil => exact .pure rfl
  | cons a rest ih =>
    rw [List.mapM_cons]
    apply (each a List.mem_cons_self).bind
    rintro _ _ rfl
    apply (ih fun b member => each b (List.mem_cons_of_mem _ member)).bind
    rintro _ _ rfl
    exact .pure (by simp)

theorem keywords_tracks {words : List Text} (proper : ∀ word ∈ words, word.isKeyword = true) :
    Tracks (keywords words) fun _ tokens => tokens = Grammar.keywords words :=
  tracks_mapM fun word member => keyword_tracks (proper word member)

/-- A clause of keywords is there or not. -/
theorem clause_tracks {words : List Text} (proper : ∀ word ∈ words, word.isKeyword = true) :
    Tracks (isPresent (keywords words)) fun present tokens => tokens = Grammar.clause present words := by
  refine (keywords_tracks proper).isPresent.mono fun present tokens phrase => ?_
  cases present with
  | false => exact phrase
  | true =>
    obtain ⟨_, rfl⟩ := phrase
    rfl

theorem between_tracks {opening closing : Text} (opened : opening.isSign = true)
    (closed : closing.isSign = true) (item : Tracks p L) :
    Tracks (between opening closing p) fun a tokens =>
      ∃ inner, L a inner ∧ tokens = .sign opening :: (inner ++ [.sign closing]) := by
  apply (symbol_tracks opened).bind
  rintro _ _ rfl
  refine item.bind fun a inner phrase => ?_
  apply (symbol_tracks closed).bind
  rintro _ _ rfl
  exact .pure ⟨inner, phrase, by simp⟩

theorem afterEach_tracks {separator : Text} (proper : separator.isSign = true) (item : Tracks p L)
    (rounds : Nat) :
    Tracks (afterEach separator p rounds) (Grammar.following (.sign separator) L) := by
  induction rounds with
  | zero => exact .refuse _ (.of_phrase (a := []) rfl)
  | succ rounds ih =>
    refine (symbol_tracks proper).isPresent.bind fun present front phrase => ?_
    cases present with
    | false =>
      obtain rfl : front = [] := phrase
      exact .pure rfl
    | true =>
      obtain ⟨_, rfl⟩ := phrase
      refine item.bind fun a inner phrase => ?_
      refine ih.bind fun rest back more => ?_
      exact .pure ⟨inner, back, phrase, more, by simp⟩

theorem others_tracks {separator : Text} (proper : separator.isSign = true) (item : Tracks p L) :
    Tracks (others separator p) (Grammar.following (.sign separator) L) := by
  apply Tracks.wholeSource.bind
  rintro source _ rfl
  exact afterEach_tracks proper item _

theorem sepBy_tracks {separator : Text} (proper : separator.isSign = true) (item : Tracks p L) :
    Tracks (sepBy p separator) (Grammar.separated (.sign separator) L) := by
  refine item.optional.bind fun first front phrase => ?_
  cases first with
  | none =>
    obtain rfl : front = [] := phrase
    exact .pure rfl
  | some a =>
    refine (others_tracks proper item).bind fun rest back more => ?_
    exact .pure ⟨front, back, phrase, more, by simp⟩

/-! ## Column types -/

theorem knownType_tracks {reader : Reader KnownType} (member : reader ∈ knownTypes KnownType.spellings) :
    Tracks reader fun type tokens => Grammar.columnType (.known type) tokens := by
  simp only [knownTypes, List.mem_flatMap, List.mem_map] at member
  obtain ⟨⟨type, spellings⟩, listed, words, spelling, rfl⟩ := member
  apply (keywords_tracks (isKeyword_of_mem_spellings _ listed words spelling)).bind
  rintro _ _ rfl
  exact .pure ⟨spellings, words, listed, spelling, by simp⟩

theorem not_namesKnownType_letter : ¬ Grammar.NamesKnownType "x" := by
  rintro ⟨entry, listed, word, spelling, length, _⟩
  have longer : ∀ entry ∈ KnownType.spellings, ∀ words ∈ entry.2, ∀ word ∈ words,
      List.length (text "x") < word.length := by decide
  have := longer entry listed [word] spelling word List.mem_cons_self
  omega

/-- Where no known type can be read although one of a single word stands there, an open block comment
follows it. -/
theorem unmeasured_of_stands {source : Text} {s t : State} {offset : Int}
    (stopped : choice (knownTypes KnownType.spellings) source s = (.error (.backtrack offset), t))
    {type : KnownType} {spellings : List (List Text)} {word : Text}
    (listed : (type, spellings) ∈ KnownType.spellings) (spelling : [word] ∈ spellings)
    (standing : stands word true (source.drop s.cursor.offset) = true) :
    length? (source.drop (s.cursor.offset + word.length)) = none := by
  have member : (do let _ ← keywords [word]; pure type) ∈ knownTypes KnownType.spellings := by
    simp only [knownTypes, List.mem_flatMap, List.mem_map]
    exact ⟨_, listed, [word], spelling, rfl⟩
  obtain ⟨s', offset', t', same, inner⟩ := backtrack_of_choice stopped member
  have proper := isKeyword_of_mem_spellings _ listed _ spelling word List.mem_cons_self
  have run := token_apply (Text.isKeyword_ne_nil proper) true (inQuotes word) source s'
  rw [same, if_pos standing] at run
  cases measured : length? (source.drop (s.cursor.offset + word.length)) with
  | none => rfl
  | some gap =>
    rw [← same] at measured
    rw [lexeme_of_gap measured] at run
    have whole : keywordAs true word source s' = _ := run
    simp only [keywords, keywordsAs, List.mapM_cons, List.mapM_nil, bind_apply, whole, pure_apply] at inner
    cases inner

/-- The name of a type of its own is read only if no known type is spelt there. -/
theorem typeName_tracksFrom {source : Text} {s t : State} {offset : Int}
    (stopped : choice (knownTypes KnownType.spellings) source s = (.error (.backtrack offset), t))
    (rewound : t.cursor = s.cursor) :
    TracksFrom (.custom <$> word "custom type") Grammar.columnType source t := by
  have run := word_apply "custom type" source t
  by_cases empty : Text.word (source.drop t.cursor.offset) = []
  · rw [if_pos empty] at run
    have letter : ∀ c ∈ text "x", c.isWord = true := by decide
    have phrase : Grammar.columnType (.custom "x") [.typeName "x"] :=
      ⟨by decide, not_namesKnownType_letter, rfl⟩
    refine (Lexes.nothing (map_of_failAt run) phrase ⟨"x", fun rest => ?_⟩).tracksFrom
    exact .typeName (by decide) letter rfl
  · rw [if_neg empty] at run
    obtain ⟨split, chunk, ended⟩ := word_split (source.drop t.cursor.offset)
    have words : ∀ c ∈ Text.word (source.drop t.cursor.offset), c.isWord = true :=
      fun c => Text.isWord_of_mem_word
    by_cases known : Grammar.NamesKnownType (Text.word (source.drop t.cursor.offset))
    · obtain ⟨⟨type, spellings⟩, listed, word, spelling, length, form⟩ := known
      have proper := isKeyword_of_mem_spellings _ listed _ spelling word List.mem_cons_self
      have standing : stands word true (source.drop s.cursor.offset) = true := by
        rw [← rewound, split]
        exact (stands_keyword_iff proper words ended).2 ⟨form, .inl length⟩
      have unmeasured := unmeasured_of_stands stopped listed spelling standing
      rw [← rewound, ← length] at unmeasured
      have phrase : Grammar.columnType (.known type) [.keyword word] :=
        ⟨spellings, [word], listed, spelling, rfl⟩
      refine tracksFrom_of_open (map_of_lexeme run) phrase (fun _ => ?_) unmeasured
      rw [List.drop_drop] at ended
      rw [chunk]
      exact .keyword proper length form ended
    · refine Lexes.tracksFrom (.chunk (map_of_lexeme run) ⟨empty, known, rfl⟩ fun _ => ?_)
      rw [List.drop_drop] at ended
      rw [chunk]
      exact .typeName empty words ended

theorem columnType_tracks : Tracks columnType Grammar.columnType := by
  have known : Tracks (choice (knownTypes KnownType.spellings))
      fun type tokens => Grammar.columnType (.known type) tokens := by
    refine .choice ⟨.date, [.keyword "DATE"], ?_, ?_⟩ fun reader => knownType_tracks
    · exact ⟨[["DATE"]], ["DATE"], by decide, by decide, rfl⟩
    · intro token member
      obtain rfl := List.mem_singleton.1 member
      exact ⟨"DATE", .keyword (by decide) rfl rfl rfl⟩
  have first : Tracks (ColumnType.known <$> choice (knownTypes KnownType.spellings))
      Grammar.columnType := known.map fun _ _ phrase => phrase
  have rewinds := choice_rewinds (knownTypes KnownType.spellings)
  refine ⟨first.viable, fun source s => (first.each source s).recover rewinds.map ?_⟩
  intro offset t stopped
  rw [map_eq_pure_bind, bind_apply] at stopped
  cases run : choice (knownTypes KnownType.spellings) source s with
  | mk result u =>
    rw [run] at stopped
    cases result with
    | ok type => cases stopped
    | error failure =>
      cases stopped
      exact typeName_tracksFrom run (rewinds source s offset _ run)

/-! ## Expressions -/

theorem recover_none_bind_apply (p : Reader α) (f : Option α → Reader β) (source : Text) (s : State) :
    (recover (some <$> p) (pure none) >>= f) source s =
      match p source s with
      | (.ok a, t) => f (some a) source t
      | (.error (.backtrack _), t) => f none source t
      | (.error failure, t) => (.error failure, t) := by
  simp only [bind_apply, recover, map_eq_pure_bind, pure_apply]
  cases p source s with
  | mk result t =>
    cases result with
    | ok a => rfl
    | error failure => cases failure <;> rfl

/-- A reader that goes on after an optional token, also where the token was read up to an open comment. -/
theorem tracks_bind_recover {f : Option α → Reader β} {M : Language β}
    (viable : ∀ tokens, L.Viable tokens → M.Viable tokens) (lexes : ∀ source s, Lexes L p source s)
    (present : ∀ a front, L a front → Tracks (f (some a)) fun b back => M b (front ++ back))
    (absent : Tracks (f none) M)
    (stuck : ∀ source s, length? (source.drop s.cursor.offset) = none →
      ∃ label, f none source s = failAt label s.cursor.offset source s) :
    Tracks (recover (some <$> p) (pure none) >>= f) M := by
  refine ⟨absent.viable, fun source s => ?_⟩
  have split := recover_none_bind_apply p f source s
  have first := (lexes source s).tracksFrom
  cases lexes source s with
  | @chunk length a token run phrase spelt =>
    cases measured : length? (source.drop (s.cursor.offset + length)) with
    | some gap =>
      have whole : TracksFrom (p >>= fun a => f (some a)) M source s :=
        first.bind viable fun a t front _ phrase => (present a front phrase).each source t
      apply whole.congr
      rw [split, bind_apply, run, lexeme_of_gap measured]
    | none =>
      -- the reader that goes on stands before the open comment and expects something there
      have stopped := run.trans (lexeme_of_open measured)
      let stop := s.cursor.offset + length
      obtain ⟨label, next⟩ :=
        stuck source ((s.at ⟨stop, stop⟩).expecting (some (inQuotes "*/")) source.length) measured
      rw [stopped] at split
      have earlier := first.records
      rw [stopped] at earlier
      refine .of_error (split.trans next) ((earlier.mono viable).trans ⟨[_], rfl, fun e member => ?_⟩)
      obtain rfl := List.mem_singleton.1 member
      refine ⟨s.cursor.offset + length, rfl, by omega, fun inside => ?_⟩
      refine ⟨[token], viable _ (.of_phrase phrase), ?_⟩
      rw [Nat.add_sub_cancel_left]
      exact @Completable.of_spells token _ [] fun rest => by simpa using (spelt inside).before_newline rest
  | @missing label length run completes =>
    have later := absent.each source (s.expecting label (s.cursor.offset + length : Nat))
    have earlier := first.records
    rw [run, failAt_apply] at split
    rw [run, failAt_apply] at earlier
    refine ⟨?_, fun b t success => later.reads b t (split.symm.trans success)⟩
    rw [split]
    exact (earlier.mono viable).trans later.records
  | fault run =>
    rw [run, refuse_apply] at split
    exact .of_error split (Records.refl M source _ s)

/-- No literal starts with layout. -/
theorem stringLiteral_of_unmeasured {source : Text} {s : State}
    (unmeasured : length? (source.drop s.cursor.offset) = none) :
    stringLiteral source s = failAt (some "string literal") s.cursor.offset source s := by
  have run : stringLiteral source s = _ := quoted_apply '\'' "string literal" source s
  cases split : source.drop s.cursor.offset with
  | nil => simpa only [split] using run
  | cons c rest =>
    have other : c ≠ CodePoint.ofChar '\'' := by
      rintro rfl
      have settled : Settled (CodePoint.ofChar '\'' :: rest) := settled_cons (by decide) (by decide)
      rw [split, settled] at unmeasured
      cases unmeasured
    simpa only [split, if_neg other] using run

theorem stringLiteral_tracks :
    Tracks stringLiteral fun value tokens => tokens = [.literal '\'' value] :=
  quoted_tracks (.inl rfl) _

/-- The rest of a call that has arguments. -/
def arguments (limit : Nat) (name : Text) : Reader Expression := do
  let first ← expression limit
  let rest ← others "," (expression limit)
  let _ ← symbol ")"
  pure (.call name (first :: rest))

theorem expression_tracks_of_arguments {limit : Nat}
    (inside : ∀ name, name ≠ [] → Tracks (arguments limit name) fun value back =>
      Grammar.expression (limit + 1) value (.name name :: .sign "(" :: back)) :
    Tracks (expression (limit + 1)) (Grammar.expression (limit + 1)) := by
  rw [expression]
  refine tracks_bind_recover ?_ identifier_lexes ?_ ?_ ?_
  · rintro tokens ⟨name, more, ⟨filled, phrase⟩, writable⟩
    exact ⟨.var name, more, ⟨filled, phrase⟩, writable⟩
  · rintro name _ ⟨filled, rfl⟩
    refine (symbol_tracks (by decide)).isPresent.bind fun opened front phrase => ?_
    cases opened with
    | false =>
      obtain rfl : front = [] := phrase
      exact .pure ⟨filled, rfl⟩
    | true =>
      obtain ⟨_, rfl⟩ := phrase
      refine (symbol_tracks (by decide)).isPresent.bind fun closed front phrase => ?_
      cases closed with
      | false =>
        obtain rfl : front = [] := phrase
        exact inside name filled
      | true =>
        obtain ⟨_, rfl⟩ := phrase
        exact .pure ⟨filled, [], rfl, rfl⟩
  · apply stringLiteral_tracks.bind
    rintro value _ rfl
    exact .pure rfl
  · intro source s unmeasured
    refine ⟨some "string literal", ?_⟩
    simp only [bind_apply, stringLiteral_of_unmeasured unmeasured, failAt_apply]

theorem expression_tracks (limit : Nat) :
    Tracks (expression (limit + 1)) (Grammar.expression (limit + 1)) := by
  induction limit with
  | zero =>
    refine expression_tracks_of_arguments fun name filled => ?_
    have closes : Grammar.expression 1 (.call name []) [.name name, .sign "(", .sign ")"] :=
      ⟨filled, [], rfl, rfl⟩
    refine ⟨⟨.call name [], [.sign ")"], closes, ?_⟩, fun source s => ?_⟩
    · intro token member
      obtain rfl := List.mem_singleton.1 member
      exact ⟨_, .sign (by decide) (Bool.and_false _)⟩
    · exact .of_error rfl (Records.refl _ source _ s)
  | succ limit ih =>
    refine expression_tracks_of_arguments fun name filled => ?_
    refine ih.bind fun first front phrase => ?_
    refine (others_tracks (by decide) ih).bind fun rest back more => ?_
    apply (symbol_tracks (by decide)).bind
    rintro _ _ rfl
    exact .pure ⟨filled, front ++ back, ⟨front, back, phrase, more, rfl⟩, by simp⟩

end Reader

end Schemata
