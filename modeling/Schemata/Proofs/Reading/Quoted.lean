import Schemata.Proofs.Reading.Lookahead

/-! # Quoted texts piece by piece

What stands between the quotes of a literal is a list of pieces: code points that stand for themselves,
backslashes with one character after them, and backslashes with the number of a code point. A number takes all
digits that follow it, so no digit may follow a number; the piece `\&`, which stands for nothing, keeps the two
apart. A quoted text is read exactly if such pieces and a closing quote follow its opening quote, and it is read
as what its pieces stand for. Hence every text can be written in a literal, whatever piece is chosen for each of
its code points.
-/

namespace Schemata

open Layout

namespace Literal

/-- What a single character after a backslash stands for. -/
def shortEscapes : List (CodePoint × Text) :=
  [('a', ['\x07']), ('b', ['\x08']), ('f', ['\x0C']), ('n', ['\n']), ('r', ['\r']), ('t', ['\t']),
   ('v', ['\x0B']), ('\\', ['\\']), ('\'', ['\'']), ('"', ['"']), ('&', [])]

theorem single?_eq_lookup (c : CodePoint) : Escape.single? c = shortEscapes.lookup c := by
  by_cases known : c ∈ shortEscapes.map Prod.fst
  · exact (by decide : ∀ d ∈ shortEscapes.map Prod.fst, Escape.single? d = shortEscapes.lookup d) c known
  · have absent : shortEscapes.lookup c = none := by
      rw [List.lookup_eq_none_iff]
      rintro entry listed
      rw [bne_iff_ne]
      rintro rfl
      exact known (List.mem_map_of_mem listed)
    rw [absent]
    simp only [shortEscapes, List.map_cons, List.map_nil, List.mem_cons, List.not_mem_nil, or_false,
      not_or] at known
    simp [Escape.single?, known]

/-- A piece of what stands between two quotes. -/
inductive Piece where
  | plain (c : CodePoint)
  | short (c : CodePoint)
  | number (radix : Radix) (digits : Text)
deriving DecidableEq, Repr

namespace Piece

/-- How a piece is written. -/
def code : Piece → Text
  | plain c => [c]
  | short c => ['\\', c]
  | number radix digits => '\\' :: (radix.mark ++ digits)

/-- What a piece stands for between two quotes, if it may stand there at all. -/
def value? (quote : CodePoint) : Piece → Option Text
  | plain c => if c = quote ∨ c = '\\' then none else some [c]
  | short c => shortEscapes.lookup c
  | number radix digits =>
    if digits ≠ [] ∧ (∀ d ∈ digits, (radix.digit? d).isSome = true) ∧
        (radix = .decimal → digits.length ≤ Escape.maxDecimalDigits) then
      (CodePoint.ofNat? (radix.value digits)).map ([·])
    else none

/-- The text starts with a digit that would be read as part of the piece. -/
def absorbs : Piece → Text → Bool
  | number radix _, c :: _ => (radix.digit? c).isSome
  | _, _ => false

end Piece

/-- How several pieces are written. -/
def written (pieces : List Piece) : Text := pieces.flatMap Piece.code

/-- What several pieces stand for, if none of them takes up the beginning of the next one. -/
def valueOf? (quote : CodePoint) : List Piece → Option Text
  | [] => some []
  | piece :: more =>
    if piece.absorbs (written more) then none
    else do return (← piece.value? quote) ++ (← valueOf? quote more)

/-- The pieces with `\&` after each number that would take up the beginning of the next piece. -/
def separate : List Piece → List Piece
  | [] => []
  | piece :: more =>
    if piece.absorbs (written (separate more)) then piece :: .short '&' :: separate more
    else piece :: separate more

variable {quote : CodePoint}

theorem written_cons (piece : Piece) (more : List Piece) : written (piece :: more) = piece.code ++ written more :=
  List.flatMap_cons

theorem valueOf?_cons_eq_some_iff {piece : Piece} {more : List Piece} {value : Text} :
    valueOf? quote (piece :: more) = some value ↔ piece.absorbs (written more) = false ∧
      ∃ first rest, piece.value? quote = some first ∧ valueOf? quote more = some rest ∧ value = first ++ rest := by
  rw [valueOf?]
  cases piece.absorbs (written more) with
  | true => simp
  | false =>
    simp only [Bool.false_eq_true, if_false, true_and]
    cases piece.value? quote with
    | none => simp
    | some first => cases valueOf? quote more <;> simp [eq_comm]

/-- A number takes up no digit exactly where its run of digits ends before the closing quote. -/
theorem Piece.absorbs_number_eq_false_iff (proper : IsQuote quote) {radix : Radix} {digits t : Text} :
    (number radix digits).absorbs t = false ↔ radix.EndsBefore (t ++ [quote]) := by
  cases t with
  | nil => exact iff_of_true rfl (proper.endsBefore radix [])
  | cons c rest => simp [absorbs, Radix.EndsBefore]

theorem Piece.value?_number_eq_some_iff {radix : Radix} {digits value : Text} :
    (number radix digits).value? quote = some value ↔ digits ≠ [] ∧
      (∀ d ∈ digits, (radix.digit? d).isSome = true) ∧
      (radix = .decimal → digits.length ≤ Escape.maxDecimalDigits) ∧
      ∃ c : CodePoint, c.val = radix.value digits ∧ [c] = value := by
  simp only [value?, Option.ite_none_right_eq_some, Option.map_eq_some_iff, CodePoint.ofNat?_eq_some_iff,
    and_assoc]

/-- Pieces with a value are what a literal may hold. -/
theorem pieces_of_valueOf? (proper : IsQuote quote) {pieces : List Piece} {value : Text}
    (known : valueOf? quote pieces = some value) : Pieces quote value (written pieces) := by
  induction pieces generalizing value with
  | nil =>
    cases known
    exact .nil
  | cons piece more ih =>
    obtain ⟨apart, first, rest, here, there, rfl⟩ := valueOf?_cons_eq_some_iff.1 known
    cases piece with
    | plain c =>
      rw [Piece.value?, Option.ite_none_left_eq_some, not_or, Option.some.injEq] at here
      obtain ⟨⟨unquoted, noEscape⟩, rfl⟩ := here
      exact .plain unquoted noEscape (ih there)
    | short c =>
      rw [Piece.value?, ← single?_eq_lookup] at here
      exact .escape (.single here) (ih there)
    | number radix digits =>
      obtain ⟨filled, numerals, bound, c, image, rfl⟩ := Piece.value?_number_eq_some_iff.1 here
      have ended := (Piece.absorbs_number_eq_false_iff proper).1 apart
      exact .escape (.numeric filled numerals ended bound image) (ih there)

/-- What a literal holds is made of pieces with a value. -/
theorem exists_valueOf? (proper : IsQuote quote) {value body : Text} (pieces : Pieces quote value body) :
    ∃ list, written list = body ∧ valueOf? quote list = some value := by
  induction pieces with
  | nil => exact ⟨[], rfl, rfl⟩
  | @plain c value body unquoted noEscape _ ih =>
    obtain ⟨list, rfl, known⟩ := ih
    refine ⟨.plain c :: list, rfl, valueOf?_cons_eq_some_iff.2 ⟨rfl, [c], value, ?_, known, rfl⟩⟩
    rw [Piece.value?, if_neg (not_or.2 ⟨unquoted, noEscape⟩)]
  | @escape piece code value body spelt _ ih =>
    obtain ⟨list, rfl, known⟩ := ih
    cases spelt with
    | @single c _ _ found =>
      refine ⟨.short c :: list, rfl, valueOf?_cons_eq_some_iff.2 ⟨rfl, piece, value, ?_, known, rfl⟩⟩
      rw [Piece.value?, ← single?_eq_lookup, found]
    | @numeric radix digits _ c filled numerals ended bound image =>
      refine ⟨.number radix digits :: list, written_cons _ _, valueOf?_cons_eq_some_iff.2
        ⟨(Piece.absorbs_number_eq_false_iff proper).2 ended, [c], value, ?_, known, rfl⟩⟩
      exact Piece.value?_number_eq_some_iff.2 ⟨filled, numerals, bound, c, image, rfl⟩

/-- A literal is read exactly if pieces with a value and a closing quote stand there. -/
theorem read_eq_ok_iff (proper : IsQuote quote) {t : Text} {content : Content} :
    read [quote] t = .ok content ↔ ∃ pieces after, t = written pieces ++ quote :: after ∧
      valueOf? quote pieces = some content.value ∧ content.length = (written pieces).length + 1 := by
  constructor
  · intro success
    obtain ⟨skipped, body, after, whole, unskipped, pieces, length⟩ := pieces_of_readFrom success
    obtain rfl := List.length_eq_zero_iff.1 unskipped
    obtain ⟨list, rfl, known⟩ := exists_valueOf? proper pieces
    exact ⟨list, after, whole, known, by omega⟩
  · rintro ⟨pieces, after, rfl, known, length⟩
    have success := readFrom_of_pieces proper (pieces_of_valueOf? proper known) 0 after
    rw [read, success, Nat.zero_add, ← length]

/-! ## Writing a text in a literal -/

theorem absorbs_escape (piece : Piece) (t : Text) : piece.absorbs ('\\' :: t) = false := by
  cases piece with
  | number radix digits => cases radix <;> rfl
  | _ => rfl

/-- Whatever pieces are chosen for the code points of a text, they stand for it once they are kept apart. -/
theorem valueOf?_separate {spelling : List (CodePoint × Piece)}
    (chosen : ∀ choice ∈ spelling, choice.2.value? quote = some [choice.1]) :
    valueOf? quote (separate (spelling.map Prod.snd)) = some (spelling.map Prod.fst) := by
  induction spelling with
  | nil => rfl
  | cons choice more ih =>
    obtain ⟨c, piece⟩ := choice
    obtain ⟨here, others⟩ := List.forall_mem_cons.1 chosen
    have there := ih others
    rw [List.map_cons, List.map_cons, separate]
    split
    · have nothing : valueOf? quote (.short '&' :: separate (more.map Prod.snd)) = some (more.map Prod.fst) :=
        valueOf?_cons_eq_some_iff.2 ⟨rfl, [], _, rfl, there, rfl⟩
      exact valueOf?_cons_eq_some_iff.2 ⟨absorbs_escape piece _, [c], _, here, nothing, rfl⟩
    · next apart =>
      exact valueOf?_cons_eq_some_iff.2 ⟨by simpa using apart, [c], _, here, there, rfl⟩

end Literal

open Literal

namespace Reader

variable {quote : CodePoint} {label source rest : Text} {s : State}

/-- Where pieces and a closing quote follow the opening quote, the quoted text is a lexeme. -/
theorem quoted_of_pieces (proper : IsQuote quote) (opened : source.drop s.cursor.offset = quote :: rest)
    {pieces : List Piece} {after value : Text} (split : rest = written pieces ++ quote :: after)
    (known : valueOf? quote pieces = some value) :
    quoted [quote] label source s = lexeme ((written pieces).length + 2) value source s := by
  have read : Literal.read [quote] rest = .ok ⟨value, (written pieces).length + 1⟩ :=
    (read_eq_ok_iff proper).2 ⟨pieces, after, split, known, rfl⟩
  rw [quoted_apply, opened]
  simp only [if_true, read]
  rw [Nat.add_comm 1]

/-- Where no pieces with a closing quote follow, the reader fails and does not move. -/
theorem quoted_of_no_pieces (proper : IsQuote quote) (label : Text)
    (opened : source.drop s.cursor.offset = quote :: rest)
    (valueless : ∀ pieces after, rest = written pieces ++ quote :: after → valueOf? quote pieces = none) :
    ∃ failure t, quoted [quote] label source s = (.error failure, t) ∧ t.cursor = s.cursor := by
  rw [quoted_apply, opened]
  simp only [if_true]
  cases read : Literal.read [quote] rest with
  | ok content =>
    obtain ⟨pieces, after, split, known, _⟩ := (read_eq_ok_iff proper).1 read
    cases (valueless pieces after split).symm.trans known
  | error fault => cases fault <;> exact ⟨_, _, rfl, rfl⟩

/-- How a quoted text is read where its opening quote stands before `rest`. -/
structure ReadsPieces (quote : CodePoint) (label source rest : Text) (s : State) : Prop where
  /-- It is read exactly if pieces, a closing quote and layout that ends are found there. The value is that of the
  pieces, and the token ends right after the closing quote. -/
  reads_iff : ∀ value t, quoted [quote] label source s = (.ok value, t) ↔
    ∃ pieces after gap, rest = written pieces ++ quote :: after ∧ valueOf? quote pieces = some value ∧
      length? after = some gap ∧ t = s.at
        ⟨s.cursor.offset + ((written pieces).length + 2) + gap, s.cursor.offset + ((written pieces).length + 2)⟩
  /-- Whatever follows the closing quote, only the layout there is left to skip. -/
  token : ∀ pieces after value, rest = written pieces ++ quote :: after → valueOf? quote pieces = some value →
    quoted [quote] label source s = lexeme ((written pieces).length + 2) value source s
  /-- Whichever piece is chosen for each code point of a text, the text is read. -/
  spelled : ∀ (spelling : List (CodePoint × Piece)) (after : Text),
    (∀ choice ∈ spelling, choice.2.value? quote = some [choice.1]) →
    rest = written (separate (spelling.map Prod.snd)) ++ quote :: after →
    quoted [quote] label source s =
      lexeme ((written (separate (spelling.map Prod.snd))).length + 2) (spelling.map Prod.fst) source s

theorem drop_after_quote {pieces : List Piece} {after : Text}
    (opened : source.drop s.cursor.offset = quote :: rest) (split : rest = written pieces ++ quote :: after) :
    source.drop (s.cursor.offset + ((written pieces).length + 2)) = after := by
  rw [← List.drop_drop, opened, split, List.drop_succ_cons, List.drop_length_add_append]
  rfl

/-- A quoted text is what its pieces stand for, and nothing but pieces is read as one. -/
theorem quoted_texts_are_their_pieces (proper : IsQuote quote) (label : Text)
    (opened : source.drop s.cursor.offset = quote :: rest) : ReadsPieces quote label source rest s := by
  have token (pieces : List Piece) (after value : Text) (split : rest = written pieces ++ quote :: after)
      (known : valueOf? quote pieces = some value) :
      quoted [quote] label source s = lexeme ((written pieces).length + 2) value source s :=
    quoted_of_pieces proper opened split known
  refine ⟨fun value t => ⟨fun success => ?_, ?_⟩, token, fun spelling after chosen split => ?_⟩
  · by_cases found : ∃ pieces after, rest = written pieces ++ quote :: after ∧ (valueOf? quote pieces).isSome
    · obtain ⟨pieces, after, split, given⟩ := found
      obtain ⟨v, known⟩ := Option.isSome_iff_exists.1 given
      have run := token pieces after v split known
      have next := drop_after_quote opened split
      cases measured : length? after with
      | none =>
        rw [lexeme_of_open (by rw [next, measured])] at run
        cases success.symm.trans run
      | some gap =>
        rw [lexeme_of_gap (by rw [next, measured])] at run
        cases success.symm.trans run
        exact ⟨pieces, after, gap, split, known, measured, rfl⟩
    · have valueless (pieces : List Piece) (after : Text) (split : rest = written pieces ++ quote :: after) :
          valueOf? quote pieces = none := by
        rw [← Option.not_isSome_iff_eq_none]
        exact fun given => found ⟨pieces, after, split, given⟩
      obtain ⟨failure, u, stopped, _⟩ := quoted_of_no_pieces proper label opened valueless
      cases success.symm.trans stopped
  · rintro ⟨pieces, after, gap, split, known, measured, rfl⟩
    rw [token pieces after value split known, lexeme_of_gap (by rw [drop_after_quote opened split, measured])]
  · exact token _ after _ split (valueOf?_separate chosen)

/-- In `'\65\&5\''` the digit after the number is kept apart from it, and the quote is escaped. -/
theorem quoted_texts_are_their_pieces_digit :
    quoted "'" "string literal" "'\\65\\&5\\'' " State.start =
      (.ok "A5'", State.start.at ⟨11, 10⟩) := by
  have chosen : ∀ choice ∈ [(('A' : CodePoint), Piece.number .decimal "65"), ('5', .plain '5'), ('\'', .short '\'')],
      choice.2.value? '\'' = some [choice.1] := by decide
  have pieces : ReadsPieces '\'' "string literal" "'\\65\\&5\\'' " "\\65\\&5\\'' " State.start :=
    quoted_texts_are_their_pieces (.inl rfl) "string literal" rfl
  exact pieces.spelled _ " " chosen rfl

end Reader

end Schemata
