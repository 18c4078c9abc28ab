import Schemata.Proofs.Reading.Progress
import Schemata.Proofs.Reading.Relocate

/-! # Statements on moved texts

Statements are read in the same way wherever they stand in a text. A repetition is given more rounds in a
longer text, but it never uses them up: every round moves on within the text.
-/

namespace Schemata

namespace Reader

variable {α : Type} {p : Reader α} {source : Text} {s : State}

/-! ## Lists -/

/-- More rounds than code points are left are enough. -/
theorem echoes_afterEach {separator : Text} (proper : separator.isSign = true) (item : Relocates p)
    (forward : Forward p) {front : Text} {ends : Nat → Nat → Prop} {rounds rounds' : Nat} {s' : State}
    (moved : State.Moved front.length ends s s') (enough : source.length - s.cursor.offset < rounds)
    (enough' : source.length - s.cursor.offset < rounds') :
    Echoes front.length ends (afterEach separator p rounds source s)
      (afterEach separator p rounds' (front ++ source) s') := by
  induction rounds generalizing rounds' s s' with
  | zero => omega
  | succ rounds ih =>
    obtain ⟨rounds', rfl⟩ : ∃ n, rounds' = n + 1 := ⟨rounds' - 1, by omega⟩
    rw [afterEach, afterEach]
    have separated := (relocates_symbol (Text.ne_nil_of_isSign proper)).isPresent
    apply Echoes.bind (separated front source ends s s' moved)
    intro present t t' run moved
    cases present with
    | false => exact relocates_pure [] front source ends t t' moved
    | true =>
      have moves := separator_moves proper run
      refine Echoes.bind (item front source ends t t' moved) fun value u u' run moved => ?_
      have := forward source t value u run
      refine Echoes.bind (ih moved (by omega) (by omega)) fun values v v' _ moved => ?_
      exact relocates_pure (value :: values) front source ends v v' moved

theorem relocates_others {separator : Text} (proper : separator.isSign = true) (item : Relocates p)
    (forward : Forward p) : Relocates (others separator p) := by
  intro front source ends s s' moved
  apply echoes_afterEach proper item forward moved (by omega)
  rw [List.length_append]
  omega

theorem relocates_sepBy {separator : Text} (proper : separator.isSign = true) (item : Relocates p)
    (forward : Forward p) : Relocates (sepBy p separator) := by
  refine item.optional.bind fun first => ?_
  cases first with
  | none => exact relocates_pure []
  | some value =>
    exact (relocates_others proper item forward).bind fun _ => relocates_pure _

theorem relocates_between {opening closing : Text} (opened : opening ≠ []) (closed : closing ≠ [])
    (item : Relocates p) : Relocates (between opening closing p) := by
  refine (relocates_symbol opened).bind fun _ => ?_
  refine item.bind fun value => ?_
  exact (relocates_symbol closed).bind fun _ => relocates_pure value

/-! ## Phrases -/

theorem relocates_keywords {words : List Text} (filled : ∀ word ∈ words, word ≠ []) :
    Relocates (keywords words) := relocates_keywordsAs true filled

theorem relocates_columnType : Relocates columnType := by
  have filled : ∀ entry ∈ KnownType.spellings, ∀ words ∈ entry.2, ∀ word ∈ words, word ≠ [] := by decide
  refine Relocates.recover (Relocates.map (.choice fun reader member => ?_)) (relocates_word _).map
  simp only [knownTypes, List.mem_flatMap, List.mem_map] at member
  obtain ⟨entry, listed, words, spelling, rfl⟩ := member
  exact (relocates_keywords (filled entry listed words spelling)).bind fun _ => relocates_pure _

theorem relocates_stringLiteral : Relocates stringLiteral := relocates_quoted _ _

theorem relocates_expression (limit : Nat) : Relocates (expression limit) := by
  induction limit with
  | zero => exact relocates_refuse _
  | succ limit ih =>
    rw [expression]
    refine Relocates.bind (.recover relocates_identifier.map (relocates_pure none)) fun name? => ?_
    cases name? with
    | none => exact relocates_stringLiteral.bind fun _ => relocates_pure _
    | some name =>
      refine (relocates_symbol (by decide)).isPresent.bind fun opened => ?_
      cases opened with
      | false => exact relocates_pure _
      | true =>
        refine (relocates_symbol (by decide)).isPresent.bind fun closed => ?_
        cases closed with
        | true => exact relocates_pure _
        | false =>
          refine ih.bind fun first => ?_
          refine (relocates_others (by decide) ih (expression_forward limit)).bind fun rest => ?_
          exact (relocates_symbol (by decide)).bind fun _ => relocates_pure _

theorem relocates_column : Relocates column := by
  have default : Relocates defaultValue :=
    (relocates_keyword (by decide)).bind fun _ => relocates_expression _
  refine relocates_identifier.bind fun name => ?_
  refine relocates_columnType.bind fun type => ?_
  refine default.optional.bind fun default? => ?_
  refine (relocates_keywords (by decide)).isPresent.bind fun primaryKey => ?_
  refine (relocates_keywords (by decide)).isPresent.bind fun notNull => ?_
  refine (relocates_keyword (by decide)).isPresent.bind fun unique => ?_
  cases Column.named? name type default? primaryKey notNull unique with
  | some column => exact relocates_pure column
  | none => exact relocates_refuse _

theorem relocates_onDelete : Relocates onDelete := by
  have filled : ∀ entry ∈ OnDelete.spellings, ∀ word ∈ entry.1, word ≠ [] := by decide
  refine (relocates_keywords (by decide)).bind fun _ => .choice fun reader member => ?_
  obtain ⟨entry, listed, rfl⟩ := List.mem_map.1 member
  exact (relocates_keywordsAs false (filled entry listed)).bind fun _ => relocates_pure _

theorem relocates_foreignKey : Relocates foreignKey := by
  have name : Relocates (between "(" ")" identifier) :=
    relocates_between (by decide) (by decide) relocates_identifier
  refine (relocates_keywords (by decide)).bind fun _ => ?_
  refine name.bind fun column => ?_
  refine (relocates_keyword (by decide)).bind fun _ => ?_
  refine relocates_identifier.bind fun table => ?_
  refine name.optional.bind fun referenced => ?_
  exact relocates_onDelete.optional.bind fun action => relocates_pure _

/-! ## Statements -/

theorem relocates_createExtension : Relocates createExtension := by
  refine (relocates_keywords (by decide)).bind fun _ => .commit ?_
  refine (relocates_keywords (by decide)).isPresent.bind fun guarded => ?_
  refine (relocates_quoted _ _).bind fun name => ?_
  refine (relocates_symbol (by decide)).bind fun _ => ?_
  cases guarded with
  | true => exact relocates_pure _
  | false => exact (relocates_remark _).bind fun _ => relocates_pure _

theorem relocates_createTable : Relocates createTable := by
  have schema : Relocates publicSchema :=
    (relocates_keyword (by decide)).bind fun _ => (relocates_symbol (by decide)).bind fun _ => relocates_pure _
  have columns : Relocates (between "(" ")" (sepBy column ",")) := relocates_between (by decide) (by decide)
    (relocates_sepBy (by decide) relocates_column column_tracks.forward)
  refine (relocates_keywords (by decide)).bind fun _ => .commit ?_
  refine schema.optional.bind fun _ => ?_
  refine relocates_identifier.bind fun name => ?_
  refine columns.bind fun columns => ?_
  exact (relocates_symbol (by decide)).bind fun _ => relocates_pure _

theorem relocates_createEnum : Relocates createEnum := by
  have values : Relocates (between "(" ")" (sepBy stringLiteral ",")) := relocates_between (by decide) (by decide)
    (relocates_sepBy (by decide) relocates_stringLiteral stringLiteral_tracks.forward)
  refine (relocates_keywords (by decide)).bind fun _ => .commit ?_
  refine relocates_identifier.bind fun name => ?_
  refine (relocates_keywords (by decide)).bind fun _ => ?_
  refine values.bind fun values => ?_
  exact (relocates_symbol (by decide)).bind fun _ => relocates_pure _

theorem relocates_addConstraint : Relocates addConstraint := by
  refine (relocates_keywords (by decide)).bind fun _ => .commit ?_
  refine relocates_identifier.bind fun table => ?_
  refine (relocates_keywords (by decide)).bind fun _ => ?_
  refine relocates_identifier.bind fun name => ?_
  refine relocates_foreignKey.bind fun key => ?_
  exact (relocates_symbol (by decide)).bind fun _ => relocates_pure _

theorem relocates_statement : ∀ kind ∈ statementKinds, Relocates kind := by
  intro kind member
  simp only [statementKinds, List.mem_cons, List.not_mem_nil, or_false] at member
  rcases member with rfl | rfl | rfl | rfl | rfl
  · exact relocates_createExtension
  · exact relocates_createTable
  · exact relocates_createEnum
  · exact relocates_addConstraint
  · exact relocates_comment

theorem echoes_statementsWithin {front : Text} {ends : Nat → Nat → Prop} {rounds rounds' : Nat} {s' : State}
    (moved : State.Moved front.length ends s s') (enough : source.length - s.cursor.offset < rounds)
    (enough' : source.length - s.cursor.offset < rounds') :
    Echoes front.length ends (statementsWithin statementKinds rounds source s)
      (statementsWithin statementKinds rounds' (front ++ source) s') := by
  induction rounds generalizing rounds' s s' with
  | zero => omega
  | succ rounds ih =>
    obtain ⟨rounds', rfl⟩ : ∃ n, rounds' = n + 1 := ⟨rounds' - 1, by omega⟩
    have offset := moved.offset
    rw [statementsWithin_succ, statementsWithin_succ, List.length_append]
    by_cases ended : source.length ≤ s.cursor.offset
    · rw [if_pos ended, if_pos (by omega)]
      exact relocates_pure [] front source ends s s' moved
    · rw [if_neg ended, if_neg (by omega)]
      have begins := moved.expecting (some "end of input") offset
      apply Echoes.bind (Relocates.choice relocates_statement front source ends _ _ begins)
      intro statement t t' run moved
      have moves := choice_moves run
      refine Echoes.bind (relocates_remark _ front source ends t t' moved) fun _ u u' run moved => ?_
      have stays := stays_remark _ source t _ u run
      refine Echoes.bind (ih moved ?_ ?_) fun found v v' _ moved => ?_
      · rw [stays]
        simp only [State.expecting] at moves
        omega
      · rw [stays]
        simp only [State.expecting] at moves
        omega
      · exact relocates_pure (statement :: found) front source ends v v' moved

theorem relocates_statements : Relocates statements := by
  intro front source ends s s' moved
  have whole (text : Text) (u : State) :
      statements text u = statementsWithin statementKinds (text.length + 1) text u := rfl
  rw [whole, whole]
  apply echoes_statementsWithin moved (by omega)
  rw [List.length_append]
  omega

/-- The end of a text is where it was, that many code points farther on. -/
theorem relocates_whole (relocates : Relocates p) : Relocates (whole p) := by
  refine relocates.bind fun value front source ends s s' moved => ?_
  have offset := moved.offset
  rw [bind_apply, bind_apply, atEnd_apply, atEnd_apply, List.length_append]
  by_cases ended : source.length ≤ s.cursor.offset
  · rw [decide_eq_true ended, decide_eq_true (by omega)]
    exact relocates_pure value front source ends s s' moved
  · rw [decide_eq_false ended, decide_eq_false (by omega)]
    exact @echoes_failAt _ _ front source s s' moved _ _ _ offset

end Reader

end Schemata
