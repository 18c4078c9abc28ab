import Schemata.Lexeme.Literal

/-! # Literals as a grammar

Between its quotes a literal is a sequence of pieces: a code point that is neither the quote nor a
backslash, or a backslash with an escape. A numeric escape takes the longest run of digits, so what
follows it must not go on with that run. `Literal.read` reads exactly the sequences of pieces that a
quote follows, and what stops it can be completed to one.
-/

namespace Schemata

namespace Radix

/-- What stands between the backslash and the digits of a numeric escape. -/
def mark : Radix → Text
  | octal => ['o']
  | decimal => []
  | hexadecimal => ['x']

/-- The text does not start with a digit. -/
def EndsBefore (radix : Radix) (following : Text) : Prop :=
  ∀ c, following.head? = some c → radix.digit? c = none

theorem run_append {radix : Radix} {digits following : Text}
    (numerals : ∀ c ∈ digits, (radix.digit? c).isSome = true) (ended : radix.EndsBefore following) :
    radix.run (digits ++ following) = digits := by
  have stop : following.takeWhile (fun c => (radix.digit? c).isSome) = [] := by
    cases following with
    | nil => rfl
    | cons c rest => simp [ended c rfl]
  rw [run, List.takeWhile_append_of_pos numerals, stop, List.append_nil]

theorem run_numerals {radix : Radix} {t : Text} {c : CodePoint} (member : c ∈ radix.run t) :
    (radix.digit? c).isSome = true :=
  List.all_eq_true.1 List.all_takeWhile c member

/-- The longest run of digits ends before what follows it. -/
theorem run_split (radix : Radix) (t : Text) :
    ∃ following, t = radix.run t ++ following ∧ radix.EndsBefore following := by
  refine ⟨t.dropWhile fun c => (radix.digit? c).isSome, List.takeWhile_append_dropWhile.symm, ?_⟩
  intro c head
  have stop := List.head?_dropWhile_not (fun c => (radix.digit? c).isSome) t
  rw [head] at stop
  simpa using stop

theorem decimal_of_isAsciiDigit {c : CodePoint} (digit : c.isAsciiDigit = true) :
    (decimal.digit? c).isSome = true := by
  simp only [digit?, digit, if_true, Option.isSome_filter, Option.any_some]
  simp only [CodePoint.isAsciiDigit, Bool.and_eq_true, decide_eq_true_eq] at digit
  have bounds : 48 ≤ c.val ∧ c.val ≤ 57 := digit
  show decide (c.val - 48 < 10) = true
  simpa using (by omega : c.val - 48 < 10)

theorem isAsciiDigit_of_decimal {c : CodePoint} (numeral : (decimal.digit? c).isSome = true) :
    c.isAsciiDigit = true := by
  cases digit : c.isAsciiDigit with
  | true => rfl
  | false =>
    obtain ⟨n, found⟩ := Option.isSome_iff_exists.1 numeral
    simp only [digit?, digit, Bool.false_eq_true, if_false, Option.filter_eq_some_iff] at found
    obtain ⟨letter, small⟩ := found
    replace small : n < 10 := of_decide_eq_true small
    -- the value of a letter is ten at least
    split at letter
    · cases letter; omega
    · split at letter
      · cases letter; omega
      · contradiction

end Radix

namespace Escape

/-- An escape for `value`: its code after the backslash, and what follows the code. -/
inductive Spells : (value code following : Text) → Prop
  | single {c : CodePoint} {value following : Text} :
      single? c = some value → Spells value [c] following
  | numeric {radix : Radix} {digits following : Text} {c : CodePoint} :
      digits ≠ [] → (∀ d ∈ digits, (radix.digit? d).isSome = true) → radix.EndsBefore following →
      (radix = .decimal → digits.length ≤ maxDecimalDigits) →
      c.val = radix.value digits → Spells [c] (radix.mark ++ digits) following

theorem Spells.of_head?_eq {value code following other : Text} (spelt : Spells value code following)
    (same : other.head? = following.head?) : Spells value code other := by
  cases spelt with
  | single known => exact .single known
  | numeric filled numerals ended bound image =>
    exact .numeric filled numerals (fun c head => ended c (same ▸ head)) bound image

theorem numeric_eq_ok_iff {radix : Radix} {distance : Nat} {t : Text} {escape : Escape} :
    numeric radix distance t = .ok escape ↔
      ∃ digits following c, t = digits ++ following ∧ digits ≠ [] ∧
        (∀ d ∈ digits, (radix.digit? d).isSome = true) ∧ radix.EndsBefore following ∧
        (radix = .decimal → digits.length ≤ maxDecimalDigits) ∧
        c.val = radix.value digits ∧ escape = ⟨[c], distance + digits.length⟩ := by
  constructor
  · intro success
    obtain ⟨following, split, ended⟩ := radix.run_split t
    rw [numeric] at success
    split at success
    · contradiction
    · next filled =>
      split at success
      · contradiction
      · next bound =>
        split at success
        · contradiction
        · next c image =>
          cases success
          refine ⟨radix.run t, following, c, split, by simpa using filled,
            fun d => Radix.run_numerals, ended, ?_, CodePoint.ofNat?_eq_some_iff.1 image, rfl⟩
          intro decimal
          exact Nat.le_of_not_lt fun more => bound ⟨decimal, more⟩
  · rintro ⟨digits, following, c, rfl, filled, numerals, ended, bound, image, rfl⟩
    rw [numeric, Radix.run_append numerals ended, if_neg (by simpa using filled), if_neg, ← image,
      CodePoint.ofNat?_eq_some_iff.2 rfl]
    rintro ⟨decimal, more⟩
    exact absurd (bound decimal) (Nat.not_le.2 more)

/-- A number that an escape spells is that of a code point. -/
theorem value_le_of_numeric {radix : Radix} {distance : Nat} {t : Text} {escape : Escape}
    (success : numeric radix distance t = .ok escape) : radix.value (radix.run t) ≤ 0x10FFFF := by
  obtain ⟨digits, following, c, rfl, _, numerals, ended, _, image, _⟩ := numeric_eq_ok_iff.1 success
  rw [Radix.run_append numerals ended, ← image]
  exact Nat.le_of_lt_succ c.val_lt

/-- No escape of one character, nor the mark of a number, is a decimal digit. -/
theorem plain_of_isAsciiDigit {c : CodePoint} (digit : c.isAsciiDigit = true) :
    single? c = none ∧ c ≠ CodePoint.ofChar 'x' ∧ c ≠ CodePoint.ofChar 'o' := by
  have other : ∀ letter : Char, (CodePoint.ofChar letter).isAsciiDigit = false →
      c ≠ CodePoint.ofChar letter := by
    rintro letter noDigit rfl
    rw [digit] at noDigit
    contradiction
  have := other 'a' (by decide)
  have := other 'b' (by decide)
  have := other 'f' (by decide)
  have := other 'n' (by decide)
  have := other 'r' (by decide)
  have := other 't' (by decide)
  have := other 'v' (by decide)
  have := other '\\' (by decide)
  have := other '\'' (by decide)
  have := other '"' (by decide)
  have := other '&' (by decide)
  exact ⟨by simp_all [single?], other 'x' (by decide), other 'o' (by decide)⟩

/-- An escape is read exactly where it is spelt, up to the end of its code. -/
theorem read_eq_ok_iff {t : Text} {escape : Escape} :
    read t = .ok escape ↔
      ∃ code following, t = code ++ following ∧ escape.length = code.length ∧
        Spells escape.value code following := by
  constructor
  · intro success
    cases t with
    | nil => simp [read] at success
    | cons c rest =>
      rw [read] at success
      split at success
      · next value known =>
        cases success
        exact ⟨[c], rest, rfl, rfl, .single known⟩
      · split at success
        · next marked =>
          obtain ⟨digits, following, d, rfl, filled, numerals, ended, bound, image, rfl⟩ :=
            numeric_eq_ok_iff.1 success
          exact ⟨c :: digits, following, rfl, Nat.add_comm .., by
            rw [marked]; exact @Spells.numeric .hexadecimal _ _ _ filled numerals ended bound image⟩
        · split at success
          · next marked =>
            obtain ⟨digits, following, d, rfl, filled, numerals, ended, bound, image, rfl⟩ :=
              numeric_eq_ok_iff.1 success
            exact ⟨c :: digits, following, rfl, Nat.add_comm .., by
              rw [marked]; exact @Spells.numeric .octal _ _ _ filled numerals ended bound image⟩
          · obtain ⟨digits, following, d, split, filled, numerals, ended, bound, image, rfl⟩ :=
              numeric_eq_ok_iff.1 success
            exact ⟨digits, following, split, Nat.zero_add _,
              @Spells.numeric .decimal _ _ _ filled numerals ended bound image⟩
  · rintro ⟨code, following, rfl, length, spelt⟩
    obtain ⟨value, size⟩ := escape
    dsimp only at length spelt
    subst length
    cases spelt with
    | @single c _ _ known => simp [read, known]
    | @numeric radix digits _ c filled numerals ended bound image =>
      have number (distance : Nat) : numeric radix distance (digits ++ following) =
          .ok ⟨[c], distance + digits.length⟩ :=
        numeric_eq_ok_iff.2 ⟨digits, following, c, rfl, filled, numerals, ended, bound, image, rfl⟩
      cases radix with
      | hexadecimal =>
        have opening : read (('x' : CodePoint) :: (digits ++ following)) = numeric .hexadecimal 1 (digits ++ following) :=
          rfl
        rw [show Radix.hexadecimal.mark ++ digits ++ following = ('x' : CodePoint) :: (digits ++ following) from rfl,
          opening, number, Nat.add_comm]
        rfl
      | octal =>
        have opening : read (('o' : CodePoint) :: (digits ++ following)) = numeric .octal 1 (digits ++ following) := rfl
        rw [show Radix.octal.mark ++ digits ++ following = ('o' : CodePoint) :: (digits ++ following) from rfl,
          opening, number, Nat.add_comm]
        rfl
      | decimal =>
        obtain ⟨d, tail, rfl⟩ := List.exists_cons_of_ne_nil filled
        have digit := Radix.isAsciiDigit_of_decimal (numerals d List.mem_cons_self)
        obtain ⟨plain, noHex, noOctal⟩ := plain_of_isAsciiDigit digit
        have opening : read (d :: (tail ++ following)) = numeric .decimal 0 (d :: (tail ++ following)) := by
          simp only [read, plain, if_neg noHex, if_neg noOctal]
        have whole := number 0
        rw [Nat.zero_add] at whole
        exact opening.trans whole

/-- Where no escape can be read, the code up to there can be completed to one. -/
theorem completes_of_malformed {t : Text} {distance : Nat}
    (failure : read t = .error (.malformed distance)) :
    distance ≤ t.length ∧ ∃ value suffix, ∀ following, Radix.EndsBefore .hexadecimal following →
      Radix.EndsBefore .octal following → Spells value (t.take distance ++ suffix) following := by
  have unmarked (radix : Radix) (start : Nat) (rest : Text)
      (stopped : numeric radix start rest = .error (.malformed distance)) : distance = start := by
    rw [numeric] at stopped
    split at stopped
    · cases stopped; rfl
    · split at stopped
      · simp at stopped
      · split at stopped
        · cases stopped; rfl
        · contradiction
  have zero (radix : Radix) (following : Text) (ended : radix.EndsBefore following) :
      Spells ['\x00'] (radix.mark ++ [('0' : CodePoint)]) following :=
    .numeric (by simp) (by cases radix <;> decide) ended (fun _ => by decide) (by cases radix <;> rfl)
  cases t with
  | nil =>
    cases failure
    exact ⟨Nat.le_refl _, ['\n'], ['n'], fun following _ _ => .single rfl⟩
  | cons c rest =>
    rw [read] at failure
    split at failure
    · contradiction
    · split at failure
      · next marked =>
        obtain rfl := unmarked _ _ _ failure
        refine ⟨by simp, ['\x00'], ['0'], fun following hexadecimal _ => ?_⟩
        rw [marked]
        exact zero .hexadecimal following hexadecimal
      · split at failure
        · next marked =>
          obtain rfl := unmarked _ _ _ failure
          refine ⟨by simp, ['\x00'], ['0'], fun following _ octal => ?_⟩
          rw [marked]
          exact zero .octal following octal
        · obtain rfl := unmarked _ _ _ failure
          exact ⟨by simp, ['\n'], ['n'], fun following _ _ => .single rfl⟩

end Escape

/-! ## Numbers of too many digits -/

/-- A backslash with a decimal number of so many digits right after it, more than are converted. -/
def Text.HoldsOversized (t : Text) (count : Nat) : Prop :=
  ∃ front digits rest : Text, t = front ++ ('\\' : CodePoint) :: (digits ++ rest) ∧
    (∀ c ∈ digits, c.isAsciiDigit = true) ∧ (∀ c, rest.head? = some c → c.isAsciiDigit = false) ∧
    digits.length = count ∧ Escape.maxDecimalDigits < count

theorem Text.HoldsOversized.append_left {t : Text} {count : Nat} (holds : t.HoldsOversized count)
    (u : Text) : (u ++ t).HoldsOversized count := by
  obtain ⟨front, digits, rest, rfl, facts⟩ := holds
  exact ⟨u ++ front, digits, rest, by simp, facts⟩

theorem Escape.numeric_eq_oversized {radix : Radix} {distance count : Nat} {t : Text}
    (failure : numeric radix distance t = .error (.oversized count)) :
    radix = .decimal ∧ count = (radix.run t).length ∧ maxDecimalDigits < count := by
  rw [numeric] at failure
  split at failure
  · cases failure
  · split at failure
    · next facts =>
      cases failure
      exact ⟨facts.1, rfl, facts.2⟩
    · split at failure <;> cases failure

/-- Only a decimal number right after the backslash can have too many digits. -/
theorem Escape.holdsOversized_of_read {t : Text} {count : Nat}
    (failure : read t = .error (.oversized count)) :
    Text.HoldsOversized (('\\' : CodePoint) :: t) count := by
  have decimal : count = (Radix.run .decimal t).length ∧ maxDecimalDigits < count := by
    cases t with
    | nil => cases failure
    | cons c rest =>
      rw [read] at failure
      split at failure
      · cases failure
      · split at failure
        · exact absurd (numeric_eq_oversized failure).1 (by decide)
        · split at failure
          · exact absurd (numeric_eq_oversized failure).1 (by decide)
          · exact (numeric_eq_oversized failure).2
  obtain ⟨rest, split, ended⟩ := Radix.run_split .decimal t
  refine ⟨[], Radix.run .decimal t, rest, congrArg _ split, fun c member => ?_, fun c head => ?_,
    decimal.1.symm, decimal.2⟩
  · exact Radix.isAsciiDigit_of_decimal (Radix.run_numerals member)
  · rw [Bool.eq_false_iff]
    intro digit
    have numeral := Radix.decimal_of_isAsciiDigit digit
    rw [ended c head] at numeral
    contradiction

namespace Literal

/-- The two quotes of literals. -/
def IsQuote (quote : CodePoint) : Prop :=
  quote = CodePoint.ofChar '\'' ∨ quote = CodePoint.ofChar '"'

/-- What stands between the quotes of a literal: its value and its body. -/
inductive Pieces (quote : CodePoint) : (value body : Text) → Prop
  | nil : Pieces quote [] []
  | plain {c : CodePoint} {value body : Text} : c ≠ quote → c ≠ CodePoint.ofChar '\\' →
      Pieces quote value body → Pieces quote (c :: value) (c :: body)
  | escape {piece code value body : Text} : Escape.Spells piece code (body ++ [quote]) →
      Pieces quote value body → Pieces quote (piece ++ value) ('\\' :: (code ++ body))

variable {quote : CodePoint}

theorem IsQuote.endsBefore (proper : IsQuote quote) (radix : Radix) (rest : Text) :
    radix.EndsBefore (quote :: rest) := by
  intro c head
  cases head
  rcases proper with rfl | rfl <;> cases radix <;> decide

theorem IsQuote.ne_backslash (proper : IsQuote quote) : CodePoint.ofChar '\\' ≠ quote := by
  rcases proper with rfl | rfl <;> decide

theorem spells_before_quote (proper : IsQuote quote) {value code following : Text}
    (spelt : Escape.Spells value code following) : Escape.Spells value code (following ++ [quote]) := by
  cases spelt with
  | single known => exact .single known
  | @numeric radix _ _ _ filled numerals ended bound image =>
    refine .numeric filled numerals ?_ bound image
    intro c head
    cases following with
    | nil => exact proper.endsBefore radix [] c head
    | cons d rest => exact ended c head

theorem map_precededBy_eq_error {piece : Text} {result : Except Fault Content} {fault : Fault} :
    result.map (·.precededBy piece) = .error fault ↔ result = .error fault := by
  cases result <;> simp [Except.map]

theorem readFrom_skip {quote : Text} (pending distance : Nat) (skipped t : Text)
    (length : skipped.length = pending) :
    readFrom quote pending distance (skipped ++ t) = readFrom quote 0 (distance + pending) t := by
  induction skipped generalizing pending distance with
  | nil => subst length; rfl
  | cons c skipped ih =>
    subst length
    rw [List.cons_append, List.length_cons, readFrom, ih _ _ rfl, Nat.add_right_comm, Nat.add_assoc]

/-- A sequence of pieces is read up to the quote that follows it. -/
theorem readFrom_of_pieces (proper : IsQuote quote) {value body : Text}
    (pieces : Pieces quote value body) (distance : Nat) (rest : Text) :
    readFrom [quote] 0 distance (body ++ quote :: rest) = .ok ⟨value, distance + body.length + 1⟩ := by
  induction pieces generalizing distance with
  | nil => rw [List.nil_append, readFrom, if_pos rfl]; rfl
  | @plain c value body unquoted noEscape _ ih =>
    rw [List.cons_append, readFrom, if_neg (by simpa using unquoted), if_neg noEscape, ih]
    simp only [Except.map, Content.precededBy, List.singleton_append, List.length_cons]
    congr 2
    omega
  | @escape piece code value body spelt _ ih =>
    have following : Escape.Spells piece code (body ++ quote :: rest) :=
      spelt.of_head?_eq (by cases body <;> rfl)
    have readable : Escape.read (code ++ (body ++ quote :: rest)) = .ok ⟨piece, code.length⟩ :=
      Escape.read_eq_ok_iff.2 ⟨code, _, rfl, rfl, following⟩
    rw [List.cons_append, List.append_assoc, readFrom, if_neg (by simpa using proper.ne_backslash),
      if_pos rfl, readable]
    dsimp only
    rw [readFrom_skip _ _ _ _ rfl, ih]
    simp only [Except.map, Content.precededBy, List.length_cons, List.length_append]
    congr 2
    omega

/-- What is read from after the opening quote is a sequence of pieces with a quote after it. -/
theorem pieces_of_readFrom {pending distance : Nat} {t : Text} {content : Content}
    (success : readFrom [quote] pending distance t = .ok content) :
    ∃ skipped body rest : Text, t = skipped ++ (body ++ quote :: rest) ∧ skipped.length = pending ∧
      Pieces quote content.value body ∧ content.length = distance + pending + body.length + 1 := by
  generalize same : ([quote] : Text) = opening at success
  fun_induction readFrom opening pending distance t generalizing content with
  | case1 => simp at success
  | case2 pending distance c rest ih =>
    obtain ⟨skipped, body, after, rfl, rfl, pieces, length⟩ := ih success
    exact ⟨c :: skipped, body, after, rfl, rfl, pieces, by rw [length]; omega⟩
  | case3 distance c rest closed =>
    cases success
    rw [← same] at closed
    injection closed with here
    subst here
    exact ⟨[], [], rest, rfl, rfl, .nil, rfl⟩
  | case4 => simp at success
  | case5 => simp at success
  | case6 distance rest escape readable unquoted ih =>
    obtain ⟨inner, ahead, rfl⟩ := map_precededBy_eq_ok.1 success
    obtain ⟨code, body, after, rfl, length, pieces, total⟩ := ih ahead
    obtain ⟨spelling, following, split, size, spelt⟩ := Escape.read_eq_ok_iff.1 readable
    obtain ⟨rfl, rfl⟩ := List.append_inj split (length.trans size)
    refine ⟨[], '\\' :: (code ++ body), after, by simp, rfl, .escape ?_ pieces, ?_⟩
    · exact spelt.of_head?_eq (by cases body <;> rfl)
    · simp only [Content.precededBy, total, List.length_cons, List.length_append, ← length]
      omega
  | case7 distance c rest unquoted noEscape ih =>
    obtain ⟨inner, ahead, rfl⟩ := map_precededBy_eq_ok.1 success
    obtain ⟨skipped, body, after, rfl, empty, pieces, total⟩ := ih ahead
    obtain rfl := List.length_eq_zero_iff.1 empty
    refine ⟨[], c :: body, after, rfl, rfl, .plain ?_ noEscape pieces, ?_⟩
    · rintro rfl
      exact unquoted same
    · simp only [Content.precededBy, total, List.length_cons]
      omega

/-- A text without a closing quote is a sequence of pieces. -/
theorem pieces_of_unclosed (proper : IsQuote quote) {pending distance : Nat} {t : Text}
    (failure : readFrom [quote] pending distance t = .error .unclosed) :
    ∃ value, Pieces quote value (t.drop pending) := by
  generalize same : ([quote] : Text) = opening at failure
  fun_induction readFrom opening pending distance t with
  | case1 => exact ⟨[], by simpa using Pieces.nil⟩
  | case2 pending distance c rest ih => exact ih failure
  | case3 => simp at failure
  | case4 => simp at failure
  | case5 => simp at failure
  | case6 distance rest escape readable unquoted ih =>
    have ahead := map_precededBy_eq_error.1 failure
    obtain ⟨value, pieces⟩ := ih ahead
    obtain ⟨code, following, rfl, length, spelt⟩ := Escape.read_eq_ok_iff.1 readable
    rw [length, List.drop_left] at pieces
    exact ⟨escape.value ++ value, .escape (spells_before_quote proper spelt) pieces⟩
  | case7 distance c rest unquoted noEscape ih =>
    have ahead := map_precededBy_eq_error.1 failure
    obtain ⟨value, pieces⟩ := ih ahead
    refine ⟨c :: value, .plain ?_ noEscape pieces⟩
    rintro rfl
    exact unquoted same

theorem holdsOversized_of_read {quote t : Text} {pending distance count : Nat}
    (failure : readFrom quote pending distance t = .error (.oversized count)) : t.HoldsOversized count := by
  fun_induction readFrom quote pending distance t with
  | case1 => simp at failure
  | case2 pending distance c rest ih => exact (ih failure).append_left [c]
  | case3 => simp at failure
  | case4 => simp at failure
  | case5 distance rest digits unreadable unquoted =>
    cases failure
    exact Escape.holdsOversized_of_read unreadable
  | case6 distance rest escape readable unquoted ih =>
    exact (ih (map_precededBy_eq_error.1 failure)).append_left ['\\']
  | case7 distance c rest unquoted noEscape ih =>
    exact (ih (map_precededBy_eq_error.1 failure)).append_left [c]

/-- What stands before a malformed escape, and its code so far, can be completed to pieces. -/
theorem completes_of_malformed (proper : IsQuote quote) {pending distance position : Nat} {t : Text}
    (failure : readFrom [quote] pending distance t = .error (.malformed position)) :
    ∃ k, position = distance + k ∧ pending < k ∧ k ≤ t.length ∧
      ∃ value suffix, Pieces quote value ((t.take k).drop pending ++ suffix) := by
  generalize same : ([quote] : Text) = opening at failure
  fun_induction readFrom opening pending distance t with
  | case1 => simp at failure
  | case2 pending distance c rest ih =>
    obtain ⟨k, rfl, beyond, within, value, suffix, pieces⟩ := ih failure
    exact ⟨k + 1, by omega, by omega, by simpa using within, value, suffix, pieces⟩
  | case3 => simp at failure
  | case4 distance rest further unreadable unquoted =>
    cases failure
    obtain ⟨within, value, suffix, spelt⟩ := Escape.completes_of_malformed unreadable
    refine ⟨1 + further, by omega, by omega, by simp only [List.length_cons]; omega,
      value ++ [], suffix, ?_⟩
    have ended : Escape.Spells value (rest.take further ++ suffix) ([] ++ [quote]) :=
      spelt [quote] (proper.endsBefore _ _) (proper.endsBefore _ _)
    have pieces := Pieces.escape ended .nil
    rw [Nat.add_comm 1 further]
    simpa using pieces
  | case5 => simp at failure
  | case6 distance rest escape readable unquoted ih =>
    have ahead := map_precededBy_eq_error.1 failure
    obtain ⟨k, rfl, beyond, within, value, suffix, pieces⟩ := ih ahead
    obtain ⟨code, following, rfl, length, spelt⟩ := Escape.read_eq_ok_iff.1 readable
    rw [length] at beyond pieces
    obtain ⟨more, rfl⟩ : ∃ more, k = code.length + (more + 1) := ⟨k - code.length - 1, by omega⟩
    rw [List.take_length_add_append, List.drop_left] at pieces
    refine ⟨code.length + (more + 1) + 1, by omega, by omega, by simpa using within,
      escape.value ++ value, suffix, ?_⟩
    have filled : following ≠ [] := by
      rintro rfl
      simp only [List.append_nil] at within
      omega
    obtain ⟨c, after, rfl⟩ := List.exists_cons_of_ne_nil filled
    have continued : Escape.Spells escape.value code ((c :: after).take (more + 1) ++ suffix ++ [quote]) :=
      spelt.of_head?_eq (by simp)
    have body := Pieces.escape continued pieces
    simpa [List.take_length_add_append] using body
  | case7 distance c rest unquoted noEscape ih =>
    have ahead := map_precededBy_eq_error.1 failure
    obtain ⟨k, rfl, beyond, within, value, suffix, pieces⟩ := ih ahead
    refine ⟨k + 1, by omega, by omega, by simpa using within, c :: value, suffix, ?_⟩
    refine .plain ?_ noEscape pieces
    rintro rfl
    exact unquoted same

end Literal

end Schemata
