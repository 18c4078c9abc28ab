import Schemata.Proofs.Reading.Composed
import Schemata.Proofs.Reading.WalkStatement

/-! # What opens a statement

A kind of statements is told from the others by what it opens with: two words, or two dashes. Two kinds may
share their first word, but then they part at the second one. Where one kind gets past its opening, all others
have missed theirs before that place; and where two of them miss theirs at one place, they blame the same one.
-/

namespace Schemata

namespace Reader

variable {α β : Type} {source : Text} {c d : Cursor} {e : Expectation}

/-! ## Openings -/

/-- A token that opens something: how long it is where it stands. -/
structure Opener where
  label : Text
  length? : Text → Option Nat
  positive : ∀ {t length}, length? t = some length → 0 < length

/-- Where an opener and the layout after it end, or else what is expected. -/
def Opener.step (o : Opener) (source : Text) (c : Cursor) : Except Expectation Cursor :=
  match o.length? (source.drop c.offset) with
  | none => .error ⟨some o.label, c.offset, c⟩
  | some length =>
    let stop := c.offset + length
    match Layout.length? (source.drop stop) with
    | some gap => .ok ⟨stop + gap, stop⟩
    | none => .error ⟨some (inQuotes "*/"), source.length, ⟨stop, stop⟩⟩

/-- Where several openers in turn end, or else what is expected first. -/
def opening : List Opener → Text → Cursor → Except Expectation Cursor
  | [], _, c => .ok c
  | o :: os, source, c => o.step source c >>= opening os source

theorem opening_append (os os' : List Opener) (source : Text) (c : Cursor) :
    opening (os ++ os') source c = opening os source c >>= opening os' source := by
  induction os generalizing c with
  | nil => rfl
  | cons o os ih =>
    rw [List.cons_append, opening, opening]
    cases o.step source c with
    | error e => rfl
    | ok d => exact ih d

theorem exists_of_opening_cons {o : Opener} {os : List Opener} (passed : opening (o :: os) source c = .ok d) :
    ∃ b, o.step source c = .ok b ∧ opening os source b = .ok d := by
  rw [opening] at passed
  cases first : o.step source c with
  | error e =>
    rw [first] at passed
    cases passed
  | ok b =>
    rw [first] at passed
    exact ⟨b, rfl, passed⟩

/-- An opener does not stand, or it stands and is followed by layout, or by layout that does not end. -/
theorem Opener.step_cases (o : Opener) (source : Text) (c : Cursor) :
    (o.length? (source.drop c.offset) = none ∧ o.step source c = .error ⟨some o.label, c.offset, c⟩) ∨
    ∃ length, o.length? (source.drop c.offset) = some length ∧
      ((∃ gap, Layout.length? (source.drop (c.offset + length)) = some gap ∧
        o.step source c = .ok ⟨c.offset + length + gap, c.offset + length⟩) ∨
      (Layout.length? (source.drop (c.offset + length)) = none ∧ o.step source c =
        .error ⟨some (inQuotes "*/"), source.length, ⟨c.offset + length, c.offset + length⟩⟩)) := by
  cases standing : o.length? (source.drop c.offset) with
  | none => exact .inl ⟨rfl, by simp only [step, standing]⟩
  | some length =>
    refine .inr ⟨length, rfl, ?_⟩
    cases measured : Layout.length? (source.drop (c.offset + length)) with
    | some gap => exact .inl ⟨gap, rfl, by simp only [step, standing, measured]⟩
    | none => exact .inr ⟨rfl, by simp only [step, standing, measured]⟩

theorem Opener.forward {o : Opener} (passed : o.step source c = .ok d) : c.offset < d.offset := by
  obtain ⟨_, missed⟩ | ⟨length, standing, ⟨gap, _, step⟩ | ⟨_, missed⟩⟩ := o.step_cases source c
  · cases missed.symm.trans passed
  · have filled := o.positive standing
    cases step.symm.trans passed
    simp only
    omega
  · cases missed.symm.trans passed

/-- What is missed lies at the cursor, or farther on. -/
structure Beyond (c : Cursor) (e : Expectation) : Prop where
  forward : (c.offset : Int) ≤ e.offset
  here : e.offset = c.offset → e.cursor = c

theorem Opener.beyond {o : Opener} (missed : o.step source c = .error e) : Beyond c e := by
  obtain ⟨_, absent⟩ | ⟨length, standing, ⟨_, _, passed⟩ | ⟨measured, step⟩⟩ := o.step_cases source c
  · cases absent.symm.trans missed
    exact ⟨Int.le_refl _, fun _ => rfl⟩
  · cases passed.symm.trans missed
  · have filled := o.positive standing
    have inside : c.offset + length < source.length := by
      refine Nat.lt_of_not_le fun beyond => ?_
      rw [List.drop_of_length_le beyond] at measured
      simp [Layout.length?, Layout.measure?] at measured
    cases step.symm.trans missed
    exact ⟨by simp only; omega, fun here => by simp only at here; omega⟩

/-- Both openers never stand at one place. -/
def Opener.Clash (o o' : Opener) : Prop := ∀ t, o.length? t = none ∨ o'.length? t = none

theorem Opener.Clash.symm {o o' : Opener} (clash : o.Clash o') : o'.Clash o := fun t => (clash t).symm

/-- The openings part at some opener. -/
inductive Apart : List Opener → List Opener → Prop
  | here {o o' : Opener} {os os' : List Opener} : o.Clash o' → Apart (o :: os) (o' :: os')
  | later {o : Opener} {os os' : List Opener} : Apart os os' → Apart (o :: os) (o :: os')

theorem Apart.symm {os os' : List Opener} (apart : Apart os os') : Apart os' os := by
  induction apart with
  | here clash => exact .here clash.symm
  | later _ ih => exact .later ih

theorem opening_forward {os : List Opener} (passed : opening os source c = .ok d) : c.offset ≤ d.offset := by
  induction os generalizing c with
  | nil =>
    cases passed
    exact Nat.le_refl _
  | cons o os ih =>
    obtain ⟨b, first, rest⟩ := exists_of_opening_cons passed
    exact Nat.le_trans (Nat.le_of_lt (Opener.forward first)) (ih rest)

theorem opening_beyond {os : List Opener} (missed : opening os source c = .error e) : Beyond c e := by
  induction os generalizing c with
  | nil => cases missed
  | cons o os ih =>
    rw [opening] at missed
    cases first : o.step source c with
    | error f =>
      rw [first] at missed
      cases missed
      exact Opener.beyond first
    | ok b =>
      rw [first] at missed
      have moved := Opener.forward first
      have rest := (ih missed).forward
      exact ⟨by omega, fun here => by omega⟩

/-- What comes of two openings that part: one of them misses before the other one ends, or both miss, and
where they do so at one offset they blame the same place. -/
inductive Parted : Except Expectation Cursor → Except Expectation Cursor → Prop
  | left {e : Expectation} {d : Cursor} : e.offset < d.offset → Parted (.error e) (.ok d)
  | right {e : Expectation} {d : Cursor} : e.offset < d.offset → Parted (.ok d) (.error e)
  | both {e e' : Expectation} : (e.offset = e'.offset → e.report = e'.report) → Parted (.error e) (.error e')

theorem Parted.symm {r r' : Except Expectation Cursor} (parted : Parted r r') : Parted r' r := by
  cases parted with
  | left short => exact .right short
  | right short => exact .left short
  | both same => exact .both fun here => (same here.symm).symm

/-- Where the first opener of one opening does not stand, the other one either misses it there as well or gets
farther. -/
theorem parted_of_none {o o' : Opener} {os os' : List Opener}
    (absent : o.length? (source.drop c.offset) = none) :
    Parted (opening (o :: os) source c) (opening (o' :: os') source c) := by
  have missed : opening (o :: os) source c = .error ⟨some o.label, c.offset, c⟩ := by
    obtain ⟨_, step⟩ | ⟨length, standing, _⟩ := o.step_cases source c
    · rw [opening, step]
      rfl
    · cases absent.symm.trans standing
  rw [missed]
  cases other : opening (o' :: os') source c with
  | error e =>
    refine .both fun here => ?_
    have same := (opening_beyond other).here here.symm
    simp only [Expectation.report, ← here, same, if_true]
  | ok d =>
    obtain ⟨b, first, others⟩ := exists_of_opening_cons other
    have moved := Opener.forward first
    have rest := opening_forward others
    exact .left (by simp only; omega)

theorem Apart.parted {os os' : List Opener} (apart : Apart os os') (source : Text) (c : Cursor) :
    Parted (opening os source c) (opening os' source c) := by
  induction apart generalizing c with
  | here clash =>
    rcases clash (source.drop c.offset) with absent | absent
    · exact parted_of_none absent
    · exact (parted_of_none absent).symm
  | @later o os os' _ ih =>
    rw [opening, opening]
    cases o.step source c with
    | error e => exact .both fun _ => rfl
    | ok b => exact ih b

/-! ## Readers of openings -/

/-- The reader reads the opening and no more. -/
structure Follows (p : Reader α) (os : List Opener) : Prop where
  passes : ∀ {source s d}, opening os source s.cursor = .ok d →
    ∃ a t, p source s = (.ok a, t) ∧ t.cursor = d ∧ t.expectations = s.expectations
  misses : ∀ {source s e}, opening os source s.cursor = .error e →
    ∃ t, p source s = (.error (.backtrack e.offset), t) ∧ t.expectations = e :: s.expectations

theorem Follows.pure (a : α) : Follows (pure a : Reader α) [] := by
  refine ⟨fun {source s d} passed => ?_, fun missed => by cases missed⟩
  cases passed
  exact ⟨a, s, rfl, rfl, rfl⟩

theorem Follows.bind {p : Reader α} {f : α → Reader β} {os os' : List Opener} (first : Follows p os)
    (second : ∀ a, Follows (f a) os') : Follows (p >>= f) (os ++ os') := by
  constructor
  · intro source s d passed
    rw [opening_append] at passed
    cases front : opening os source s.cursor with
    | error e =>
      rw [front] at passed
      cases passed
    | ok b =>
      rw [front] at passed
      obtain ⟨a, t, run, rfl, kept⟩ := first.passes front
      obtain ⟨b, u, more, there, same⟩ := (second a).passes passed
      exact ⟨b, u, by rw [bind_apply, run]; exact more, there, same.trans kept⟩
  · intro source s e missed
    rw [opening_append] at missed
    cases front : opening os source s.cursor with
    | error f =>
      rw [front] at missed
      cases missed
      obtain ⟨t, run, added⟩ := first.misses front
      exact ⟨t, by rw [bind_apply, run], added⟩
    | ok b =>
      rw [front] at missed
      obtain ⟨a, t, run, rfl, kept⟩ := first.passes front
      obtain ⟨u, more, added⟩ := (second a).misses missed
      exact ⟨u, by rw [bind_apply, run]; exact more, by rw [added, kept]⟩

/-- A reader that takes a lexeme where the opener stands, and expects it where it does not. -/
theorem follows_of_lexeme {p : Reader α} {o : Opener}
    (absent : ∀ {source s}, o.length? (source.drop s.cursor.offset) = none →
      p source s = failAt (some o.label) s.cursor.offset source s)
    (standing : ∀ {source s length}, o.length? (source.drop s.cursor.offset) = some length →
      ∃ a, p source s = lexeme length a source s) : Follows p [o] := by
  have single (source : Text) (c : Cursor) : opening [o] source c = o.step source c := by
    rw [opening]
    cases o.step source c <;> rfl
  constructor
  · intro source s d passed
    rw [single] at passed
    obtain ⟨_, step⟩ | ⟨length, found, ⟨gap, measured, step⟩ | ⟨_, step⟩⟩ := o.step_cases source s.cursor
    · cases step.symm.trans passed
    · cases step.symm.trans passed
      obtain ⟨a, run⟩ := standing found
      exact ⟨a, _, run.trans (lexeme_of_gap measured), rfl, rfl⟩
    · cases step.symm.trans passed
  · intro source s e missed
    rw [single] at missed
    obtain ⟨notFound, step⟩ | ⟨length, found, ⟨_, _, step⟩ | ⟨measured, step⟩⟩ := o.step_cases source s.cursor
    · cases step.symm.trans missed
      exact ⟨_, absent notFound, rfl⟩
    · cases step.symm.trans missed
    · cases step.symm.trans missed
      obtain ⟨a, run⟩ := standing found
      exact ⟨_, run.trans (lexeme_of_open measured), rfl⟩

/-! ## The openers of statements -/

/-- A word, whatever its case. -/
def Opener.keyword (word : Text) (filled : word ≠ []) : Opener where
  label := inQuotes word
  length? t := if stands word true t then some word.length else none
  positive {t length} standing := by
    split at standing
    · cases standing
      exact List.length_pos_iff.2 filled
    · cases standing

/-- A word does not stand, or it stands and is followed by layout, or by layout that does not end. -/
theorem Opener.keyword_step_cases {word : Text} (filled : word ≠ []) (source : Text) (c : Cursor) :
    (stands word true (source.drop c.offset) = false ∧
      (Opener.keyword word filled).step source c = .error ⟨some (inQuotes word), c.offset, c⟩) ∨
    stands word true (source.drop c.offset) = true ∧
      ((∃ gap, Layout.length? (source.drop (c.offset + word.length)) = some gap ∧
        (Opener.keyword word filled).step source c = .ok ⟨c.offset + word.length + gap, c.offset + word.length⟩) ∨
      (Layout.length? (source.drop (c.offset + word.length)) = none ∧ (Opener.keyword word filled).step source c =
        .error ⟨some (inQuotes "*/"), source.length, ⟨c.offset + word.length, c.offset + word.length⟩⟩)) := by
  rcases (Opener.keyword word filled).step_cases source c with ⟨absent, missed⟩ | ⟨length, standing, after⟩
  · exact .inl ⟨by simpa [Opener.keyword] using absent, missed⟩
  · simp only [Opener.keyword, Option.ite_none_right_eq_some, Option.some.injEq] at standing
    obtain ⟨stood, rfl⟩ := standing
    exact .inr ⟨stood, after⟩

/-- A whole comment to the end of its line. -/
def Opener.comment : Opener where
  label := "line comment"
  length? t :=
    if stands "--" false t then
      some (2 + ((commentGap (t.drop 2)).length + (commentLine (t.drop 2)).length))
    else none
  positive {t length} standing := by
    split at standing
    · cases standing
      omega
    · cases standing

/-- Something that never stands. -/
def Opener.nowhere (label : Text) : Opener := ⟨label, fun _ => none, fun standing => by cases standing⟩

theorem follows_keyword {word : Text} (filled : word ≠ []) : Follows (keyword word) [.keyword word filled] := by
  refine follows_of_lexeme (fun {source s} absent => ?_) fun {source s length} standing => ?_
  · have notStanding : ¬ stands word true (source.drop s.cursor.offset) = true := by
      simpa [Opener.keyword] using absent
    exact (token_apply filled true _ source s).trans (if_neg notStanding)
  · simp only [Opener.keyword, Option.ite_none_right_eq_some, Option.some.injEq] at standing
    obtain ⟨stood, rfl⟩ := standing
    exact ⟨_, (token_apply filled true _ source s).trans (if_pos stood)⟩

theorem follows_comment : Follows comment [.comment] := by
  refine follows_of_lexeme (fun {source s} absent => ?_) fun {source s length} standing => ?_
  · have notStanding : ¬ stands "--" false (source.drop s.cursor.offset) = true := by
      simpa [Opener.comment] using absent
    exact (comment_apply source s).trans (if_neg notStanding)
  · simp only [Opener.comment, Option.ite_none_right_eq_some, Option.some.injEq, List.drop_drop] at standing
    obtain ⟨stood, rfl⟩ := standing
    exact ⟨_, (comment_apply source s).trans (if_pos stood)⟩

theorem follows_nowhere (label : Text) : Follows (failHere (some label) : Reader α) [.nowhere label] :=
  follows_of_lexeme (fun _ => rfl) fun standing => by cases standing

theorem follows_keywords {words : List Text} (filled : ∀ word ∈ words, word ≠ []) :
    Follows (keywords words) (words.pmap Opener.keyword filled) := by
  induction words with
  | nil => exact .pure []
  | cons word words ih =>
    rw [keywords_cons, List.pmap, ← List.append_nil (List.pmap _ words _)]
    exact (follows_keyword _).bind fun _ => (ih _).bind fun _ => .pure _

/-- At most one word stands at one place, whatever its case. -/
theorem clash_keyword {word other : Text} {filled : word ≠ []} {filled' : other ≠ []}
    (proper : word.isKeyword = true) (proper' : other.isKeyword = true)
    (differ : Text.upper word ≠ Text.upper other) :
    (Opener.keyword word filled).Clash (.keyword other filled') := by
  intro t
  obtain ⟨split, _, ended⟩ := word_split t
  have words : ∀ c ∈ Text.word t, c.isWord = true := fun c => Text.isWord_of_mem_word
  cases standing : stands word true t with
  | false => exact .inl (if_neg (by simp [standing]))
  | true =>
    refine .inr (if_neg fun standing' => ?_)
    rw [split] at standing standing'
    obtain ⟨form, _⟩ := (stands_keyword_iff proper words ended).1 standing
    obtain ⟨form', _⟩ := (stands_keyword_iff proper' words ended).1 standing'
    exact differ (form.symm.trans form')

theorem clash_comment {word : Text} {filled : word ≠ []} (proper : word.isKeyword = true) :
    (Opener.keyword word filled).Clash .comment := by
  intro t
  cases standing : stands "--" false t with
  | false => exact .inr (if_neg (by simp [standing]))
  | true =>
    obtain ⟨rest, rfl⟩ := stands_dashes_iff.1 standing
    have absent := not_stands_of_not_startsInWord proper
      (rfl : Text.startsInWord (CodePoint.ofChar '-' :: CodePoint.ofChar '-' :: rest) = false)
    exact .inl (if_neg (by simp [absent]))

theorem clash_nowhere (label : Text) (o : Opener) : (Opener.nowhere label).Clash o := fun _ => .inl rfl

end Reader

end Schemata
