import Schemata.Parse.Statement

/-! # Lexemes

Every reader of a token either moves over the chunk that spells the token and the layout after it, or
fails at an offset without moving. A lexeme is the first of these; it fails only where the layout runs
into an open block comment, and then it stays at the end of the chunk.
-/

namespace Schemata

/-- The state with one more expectation. -/
def State.expecting (s : State) (label : Option Text) (offset : Int) : State :=
  { s with expectations := ⟨label, offset, s.cursor⟩ :: s.expectations }

/-- The state with the cursor elsewhere. -/
def State.at (s : State) (cursor : Cursor) : State := { s with cursor := cursor }

namespace Reader

variable {α β : Type}

@[simp] theorem fail_apply (failure : Failure) (source : Text) (s : State) :
    (fail failure : Reader α) source s = (.error failure, s) := rfl

@[simp] theorem refuse_apply (fault : Fault) (source : Text) (s : State) :
    (refuse fault : Reader α) source s = (.error (.fault fault), s) := rfl

@[simp] theorem source_apply (source : Text) (s : State) : Reader.source source s = (.ok source, s) := rfl

@[simp] theorem cursor_apply (source : Text) (s : State) : cursor source s = (.ok s.cursor, s) := rfl

@[simp] theorem moveTo_apply (target : Cursor) (source : Text) (s : State) :
    moveTo target source s = (.ok (), s.at target) := rfl

@[simp] theorem remaining_apply (source : Text) (s : State) :
    remaining source s = (.ok (source.drop s.cursor.offset), s) := rfl

@[simp] theorem atEnd_apply (source : Text) (s : State) :
    atEnd source s = (.ok (decide (source.length ≤ s.cursor.offset)), s) := rfl

@[simp] theorem failAt_apply (label : Option Text) (offset : Int) (source : Text) (s : State) :
    (failAt label offset : Reader α) source s = (.error (.backtrack offset), s.expecting label offset) := rfl

theorem failHere_eq_failAt (label : Option Text) (source : Text) (s : State) :
    (failHere label : Reader α) source s = failAt label s.cursor.offset source s := rfl

/-- Moves over a chunk and the layout after it, and answers with a value. -/
def lexeme (length : Nat) (a : α) : Reader α := fun source s =>
  let stop := s.cursor.offset + length
  match Layout.length? (source.drop stop) with
  | some gap => (.ok a, s.at ⟨stop + gap, stop⟩)
  | none => (.error (.backtrack source.length),
      (s.at ⟨stop, stop⟩).expecting (some (inQuotes "*/")) source.length)

theorem lexeme_of_gap {length gap : Nat} {a : α} {source : Text} {s : State}
    (measured : Layout.length? (source.drop (s.cursor.offset + length)) = some gap) :
    lexeme length a source s =
      (.ok a, s.at ⟨s.cursor.offset + length + gap, s.cursor.offset + length⟩) := by
  simp only [lexeme, measured]

theorem lexeme_of_open {length : Nat} {a : α} {source : Text} {s : State}
    (unmeasured : Layout.length? (source.drop (s.cursor.offset + length)) = none) :
    lexeme length a source s = (.error (.backtrack source.length),
      (s.at ⟨s.cursor.offset + length, s.cursor.offset + length⟩).expecting
        (some (inQuotes "*/")) source.length) := by
  simp only [lexeme, unmeasured]

theorem map_of_lexeme {p : Reader α} {g : α → β} {length : Nat} {a : α} {source : Text} {s : State}
    (run : p source s = lexeme length a source s) :
    (g <$> p) source s = lexeme length (g a) source s := by
  rw [map_eq_pure_bind, bind_apply, run]
  cases measured : Layout.length? (source.drop (s.cursor.offset + length)) with
  | some gap =>
    rw [lexeme_of_gap measured, lexeme_of_gap measured]
    rfl
  | none => rw [lexeme_of_open measured, lexeme_of_open measured]

theorem map_of_failAt {p : Reader α} {g : α → β} {label : Option Text} {offset : Int} {source : Text}
    {s : State} (run : p source s = failAt label offset source s) :
    (g <$> p) source s = failAt label offset source s := by
  rw [map_eq_pure_bind, bind_apply, run]
  rfl

theorem skip_apply (source : Text) (s : State) : skip source s = lexeme 0 () source s := by
  simp only [skip, bind_apply, cursor_apply, moveTo_apply, remaining_apply, lexeme, State.at, Nat.add_zero]
  cases Layout.length? (source.drop s.cursor.offset) <;> rfl

/-- Moving over a chunk and skipping is a lexeme. -/
theorem move_skip_apply (length : Nat) (a : α) (source : Text) (s : State) :
    (do skip; pure a : Reader α) source (s.at { s.cursor with offset := s.cursor.offset + length }) =
      lexeme length a source s := by
  simp only [bind_apply, skip_apply, lexeme, State.at, Nat.add_zero]
  cases Layout.length? (source.drop (s.cursor.offset + length)) <;> rfl

/-- A word or symbol is a lexeme where it stands, and is expected where it does not. -/
theorem token_apply {expected : Text} (filled : expected ≠ []) (ignoreCase : Bool) (label source : Text)
    (s : State) :
    token expected ignoreCase true label source s =
      if stands expected ignoreCase (source.drop s.cursor.offset) then
        lexeme expected.length ((source.drop s.cursor.offset).take expected.length) source s
      else failAt (some label) s.cursor.offset source s := by
  have written : expected.isEmpty = false := by simpa using filled
  simp only [token, written, Bool.false_eq_true, if_false, bind_apply, remaining_apply]
  split
  · simp only [advance, bind_apply, remaining_apply, cursor_apply, moveTo_apply, if_true]
    exact move_skip_apply _ _ _ _
  · exact failHere_eq_failAt _ _ _

theorem word_apply (label source : Text) (s : State) :
    word label source s =
      if Text.word (source.drop s.cursor.offset) = [] then failAt (some label) s.cursor.offset source s
      else lexeme (Text.word (source.drop s.cursor.offset)).length
        (Text.word (source.drop s.cursor.offset)) source s := by
  simp only [word, bind_apply, remaining_apply, List.isEmpty_iff]
  split
  · exact failHere_eq_failAt _ _ _
  · have run : (source.drop s.cursor.offset).take (Text.word (source.drop s.cursor.offset)).length =
        Text.word (source.drop s.cursor.offset) :=
      List.prefix_iff_eq_take.1 (List.takeWhile_prefix _) |>.symm
    simp only [advance, bind_apply, remaining_apply, cursor_apply, moveTo_apply, if_true, run]
    exact move_skip_apply _ _ _ _

theorem identifier_apply (source : Text) (s : State) :
    identifier source s =
      match QuotedName.read? (source.drop s.cursor.offset) with
      | some name => lexeme (name.length + 2) name source s
      | none => word "identifier" source s := by
  simp only [identifier, bind_apply, remaining_apply]
  cases QuotedName.read? (source.drop s.cursor.offset) with
  | none => rfl
  | some name =>
    simp only [bind_apply, cursor_apply, moveTo_apply, Nat.add_assoc]
    exact move_skip_apply (name.length + 2) name source s

theorem opens_iff {quote : CodePoint} {source : Text} {offset : Nat} :
    opens [quote] source offset = true ↔ ∃ rest, source.drop offset = quote :: rest := by
  simp only [opens, Bool.and_eq_true, decide_eq_true_eq, List.isPrefixOf_iff_prefix]
  constructor
  · rintro ⟨_, rest, split⟩
    exact ⟨rest, split.symm⟩
  · rintro ⟨rest, split⟩
    have inside := congrArg List.length split
    simp only [List.length_drop, List.length_cons] at inside
    exact ⟨by omega, rest, split.symm⟩

/-- A quoted text is a lexeme if it can be read after its opening quote. -/
theorem quoted_apply (quote : CodePoint) (label source : Text) (s : State) :
    quoted [quote] label source s =
      match source.drop s.cursor.offset with
      | [] => failAt (some label) s.cursor.offset source s
      | c :: rest =>
        if c = quote then
          match Literal.read [quote] rest with
          | .ok content => lexeme (1 + content.length) content.value source s
          | .error .unclosed =>
            failAt (some (text "closing " ++ inQuotes [quote])) source.length source s
          | .error (.malformed distance) =>
            failAt (some "escape code") (s.cursor.offset + (1 + distance) : Nat) source s
          | .error (.oversized digits) => refuse (.oversizedNumber digits) source s
        else failAt (some label) s.cursor.offset source s := by
  simp only [quoted, bind_apply, cursor_apply, source_apply]
  cases split : source.drop s.cursor.offset with
  | nil =>
    have closed : opens [quote] source s.cursor.offset = false := by
      rw [Bool.eq_false_iff]
      intro opened
      obtain ⟨rest, same⟩ := opens_iff.1 opened
      rw [split] at same
      contradiction
    simp only [closed, Bool.false_eq_true, if_false]
    exact failHere_eq_failAt _ _ _
  | cons c rest =>
    by_cases same : c = quote
    · subst same
      have opened : opens [c] source s.cursor.offset = true := opens_iff.2 ⟨rest, split⟩
      simp only [opened, if_true, bind_apply, remaining_apply, split, List.drop_one, List.tail_cons]
      cases Literal.read [c] rest with
      | ok content =>
        simp only [bind_apply, moveTo_apply, Nat.add_assoc]
        exact move_skip_apply (1 + content.length) content.value source s
      | error fault =>
        cases fault with
        | unclosed => simp only [bind_apply, source_apply]
        | malformed distance => simp only [Nat.add_assoc]
        | oversized digits => rfl
    · have closed : opens [quote] source s.cursor.offset = false := by
        rw [Bool.eq_false_iff]
        intro opened
        obtain ⟨tail, split'⟩ := opens_iff.1 opened
        rw [split] at split'
        injection split' with head _
        exact same head
      simp only [closed, Bool.false_eq_true, if_false, same]
      exact failHere_eq_failAt _ _ _

/-- The spaces and tabs after the dashes of a comment. -/
def commentGap (t : Text) : Text := t.takeWhile fun (c : CodePoint) => c = ' ' || c = '\t'

/-- What is left of the line after them. -/
def commentLine (t : Text) : Text := Text.before '\n' (t.drop (commentGap t).length)

theorem stands_dashes_iff {t : Text} :
    stands "--" false t = true ↔ ∃ rest, t = CodePoint.ofChar '-' :: CodePoint.ofChar '-' :: rest := by
  have boundary : Text.endsInWord "--" = false := by decide
  simp only [stands, Bool.false_eq_true, if_false, boundary, Bool.false_and, Bool.not_false, Bool.and_true,
    decide_eq_true_eq]
  constructor
  · intro same
    have whole := congrArg (· ++ t.drop 2) same
    exact ⟨t.drop 2, (List.take_append_drop 2 t).symm.trans whole⟩
  · rintro ⟨rest, rfl⟩
    rfl

/-- A comment is a lexeme that reaches to the end of its line. -/
theorem comment_apply (source : Text) (s : State) :
    comment source s =
      if stands "--" false (source.drop s.cursor.offset) then
        let rest := source.drop (s.cursor.offset + 2)
        lexeme (2 + ((commentGap rest).length + (commentLine rest).length))
          (.comment (Text.dropRight (· = '\r') (commentLine rest))) source s
      else failAt (some "line comment") s.cursor.offset source s := by
  have written : List.isEmpty ("--" : Text) = false := rfl
  simp only [comment, bind_apply, token, written, Bool.false_eq_true, if_false, remaining_apply]
  by_cases standing : stands "--" false (source.drop s.cursor.offset) = true
  · obtain ⟨rest, split⟩ := stands_dashes_iff.1 standing
    have inside := congrArg List.length split
    simp only [List.length_drop, List.length_cons] at inside
    have width : List.length ("--" : Text) = 2 := rfl
    have within : min (s.cursor.offset + 2) source.length = s.cursor.offset + 2 := by omega
    simp only [standing, if_true, advance, bind_apply, remaining_apply, cursor_apply, moveTo_apply, width,
      Bool.false_eq_true, if_false, pure_apply, restOfLine, source_apply, State.at, within, Nat.add_assoc]
    rw [skip_apply]
    simp only [lexeme, State.at, commentLine, commentGap, Nat.add_zero]
    generalize Layout.length? (source.drop (s.cursor.offset + (2 + _))) = measured
    cases measured <;> rfl
  · simp only [standing, Bool.false_eq_true, if_false]
    rfl

end Reader

end Schemata
