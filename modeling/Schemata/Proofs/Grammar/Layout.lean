import Schemata.Lexeme.Layout

/-! # Layout as a grammar

Closed layout is a sequence of blanks, of line comments with their line ends, and of block comments,
each closed by the first `*/` after its opening. At the end of a text the last line comment may lack its
line end. `Layout.length?` measures exactly the layout before a text that does not start with layout
itself, and has no answer exactly where a block comment is left open.
-/

namespace Schemata.Layout

/-- The end of a block comment. -/
def closing : Text := ['*', '/']

/-- A sequence of blanks and closed comments. -/
inductive Closed : Text → Prop
  | nil : Closed []
  | blank {c : CodePoint} {t : Text} : c.isBlank = true → Closed t → Closed (c :: t)
  | line {body t : Text} : CodePoint.ofChar '\n' ∉ body → Closed t →
      Closed ('/' :: '/' :: (body ++ ('\n' : CodePoint) :: t))
  | block {body t : Text} : ¬ closing <:+: body ++ [('*' : CodePoint)] → Closed t →
      Closed ('/' :: '*' :: (body ++ ('*' : CodePoint) :: '/' :: t))

/-- A line comment at the end of a text, without a line end. -/
structure OpenLine (t : Text) : Prop where
  split : ∃ front line : Text, t = front ++ ('/' : CodePoint) :: '/' :: line ∧ Closed front ∧
    CodePoint.ofChar '\n' ∉ line

/-- Layout that is followed by `rest`. -/
def Gap (gap rest : Text) : Prop := Closed gap ∨ rest = [] ∧ OpenLine gap

/-- No layout stands at the start. -/
def Settled (t : Text) : Prop := length? t = some 0

theorem Closed.append {t u : Text} (first : Closed t) (second : Closed u) : Closed (t ++ u) := by
  induction first with
  | nil => exact second
  | blank blank _ ih => exact .blank blank ih
  | line absent _ ih => simpa using Closed.line absent ih
  | block unclosed _ ih => simpa using Closed.block unclosed ih

theorem Closed.gap {t : Text} (closed : Closed t) (rest : Text) : Gap t rest := .inl closed

theorem closed_newline : Closed ['\n'] := .blank (by decide) .nil

theorem settled_nil : Settled [] := rfl

/-- A code point that is neither blank nor a slash starts no layout. -/
theorem settled_cons {c : CodePoint} {t : Text} (filled : c.isBlank = false)
    (noSlash : c ≠ CodePoint.ofChar '/') : Settled (c :: t) := by
  cases t <;> simp [Settled, length?, measure?, filled, noSlash]

/-! ## Measuring layout -/

private theorem measure_blank {c : CodePoint} (blank : c.isBlank = true) (t : Text) :
    measure? .between (c :: t) = (measure? .between t).map (· + 1) := by
  cases t <;> simp [measure?, blank]

private theorem measure_line {body : Text} (absent : CodePoint.ofChar '\n' ∉ body) (t : Text) :
    measure? .line (body ++ ('\n' : CodePoint) :: t) = (measure? .between t).map (· + (body.length + 1)) := by
  induction body with
  | nil => simp [measure?]
  | cons c body ih =>
    rw [List.mem_cons, not_or] at absent
    have other : c ≠ CodePoint.ofChar '\n' := fun same => absent.1 same.symm
    rw [List.cons_append, measure?, if_neg other, ih absent.2, Option.map_map]
    rfl

private theorem measure_open_line {line : Text} (absent : CodePoint.ofChar '\n' ∉ line) :
    measure? .line line = some line.length := by
  induction line with
  | nil => rfl
  | cons c line ih =>
    rw [List.mem_cons, not_or] at absent
    have other : c ≠ CodePoint.ofChar '\n' := fun same => absent.1 same.symm
    rw [measure?, if_neg other, ih absent.2]
    rfl

private theorem not_closing_tail {c : CodePoint} {t : Text} (unclosed : ¬ closing <:+: c :: t) :
    ¬ closing <:+: t := fun inside => unclosed (inside.trans (List.suffix_cons c t).isInfix)

private theorem not_closing_head {c d : CodePoint} {t : Text} (unclosed : ¬ closing <:+: c :: d :: t) :
    ¬ (c = CodePoint.ofChar '*' ∧ d = CodePoint.ofChar '/') := by
  rintro ⟨rfl, rfl⟩
  exact unclosed ⟨[], t, rfl⟩

/-- A comment that is not closed from its second code point on, nor by its first two, is not closed. -/
private theorem not_closing_cons {c d : CodePoint} {t u : Text}
    (head : ¬ (c = CodePoint.ofChar '*' ∧ d = CodePoint.ofChar '/')) (tail : ¬ closing <:+: t)
    (next : t = d :: u) : ¬ closing <:+: c :: t := by
  intro inside
  rcases List.infix_cons_iff.1 inside with ⟨rest, split⟩ | inside
  · rw [next] at split
    injection split with first remaining
    injection remaining with second _
    exact head ⟨first.symm, second.symm⟩
  · exact tail inside

private theorem measure_block {body : Text} (unclosed : ¬ closing <:+: body ++ [('*' : CodePoint)]) (t : Text) :
    measure? .block (body ++ ('*' : CodePoint) :: '/' :: t) = (measure? .between t).map (· + (body.length + 2)) := by
  induction body with
  | nil => simp [measure?]
  | cons c body ih =>
    have tail := ih (not_closing_tail unclosed)
    obtain ⟨d, rest, split⟩ : ∃ d rest, body ++ [('*' : CodePoint)] = d :: rest :=
      List.exists_cons_of_ne_nil (by simp)
    rw [List.cons_append, split] at unclosed
    have front : body ++ ('*' : CodePoint) :: '/' :: t = d :: (rest ++ ('/' : CodePoint) :: t) := by
      rw [← List.cons_append, ← split]
      simp
    rw [front] at tail
    rw [List.cons_append, front, measure?, if_neg (not_closing_head unclosed), tail, Option.map_map]
    rfl

/-- Closed layout adds its length to what is measured after it. -/
theorem measure_closed_append {gap : Text} (closed : Closed gap) (t : Text) :
    length? (gap ++ t) = (length? t).map (· + gap.length) := by
  unfold length?
  induction closed with
  | nil => simp
  | @blank c gap blank _ ih =>
    rw [List.cons_append, measure_blank blank, ih, Option.map_map]
    congr 1
  | @line body gap absent _ ih =>
    have opening : measure? .between ('/' :: '/' :: (body ++ ('\n' : CodePoint) :: (gap ++ t))) =
        (measure? .line (body ++ ('\n' : CodePoint) :: (gap ++ t))).map (· + 2) := by
      rw [measure?, if_neg (by decide), if_pos ⟨rfl, rfl⟩]
    simp only [List.cons_append, List.append_assoc]
    rw [opening, measure_line absent, ih, Option.map_map, Option.map_map]
    congr 1
    funext n
    simp only [Function.comp_apply, List.length_cons, List.length_append]
    omega
  | @block body gap unclosed _ ih =>
    have opening : measure? .between ('/' :: '*' :: (body ++ ('*' : CodePoint) :: '/' :: (gap ++ t))) =
        (measure? .block (body ++ ('*' : CodePoint) :: '/' :: (gap ++ t))).map (· + 2) := by
      rw [measure?, if_neg (by decide), if_neg (by decide), if_pos ⟨rfl, rfl⟩]
    simp only [List.cons_append, List.append_assoc]
    rw [opening, measure_block unclosed, ih, Option.map_map, Option.map_map]
    congr 1
    funext n
    simp only [Function.comp_apply, List.length_cons, List.length_append]
    omega

private theorem measure_openLine {gap : Text} (openLine : OpenLine gap) :
    length? gap = some gap.length := by
  obtain ⟨front, line, rfl, closed, absent⟩ := openLine.split
  have opening : length? ('/' :: '/' :: line) = some (line.length + 2) := by
    rw [length?, measure?, if_neg (by decide), if_pos ⟨rfl, rfl⟩, measure_open_line absent]
    rfl
  rw [measure_closed_append closed, opening]
  simp only [Option.map_some, List.length_append, List.length_cons, Option.some.injEq]
  omega

/-- Layout before a text that starts with none is measured in full. -/
theorem length?_gap_append {gap rest : Text} (between : Gap gap rest) (settled : Settled rest) :
    length? (gap ++ rest) = some gap.length := by
  rcases between with closed | ⟨rfl, openLine⟩
  · rw [measure_closed_append closed, settled]
    simp
  · rw [List.append_nil, measure_openLine openLine]

/-- What the rest of a measured piece of layout looks like, for each kind of piece. -/
private def Measured : Mode → Text → Nat → Prop
  | .between, t, n => ∃ gap rest, t = gap ++ rest ∧ gap.length = n ∧ Gap gap rest ∧ Settled rest
  | .line, t, n => (CodePoint.ofChar '\n' ∉ t ∧ t.length = n) ∨
      ∃ body gap rest : Text, t = body ++ ('\n' : CodePoint) :: (gap ++ rest) ∧
        CodePoint.ofChar '\n' ∉ body ∧ body.length + 1 + gap.length = n ∧ Gap gap rest ∧ Settled rest
  | .block, t, n => ∃ body gap rest : Text, t = body ++ ('*' : CodePoint) :: '/' :: (gap ++ rest) ∧
      ¬ closing <:+: body ++ [('*' : CodePoint)] ∧ body.length + 2 + gap.length = n ∧
        Gap gap rest ∧ Settled rest

private theorem Gap.blank {c : CodePoint} {gap rest : Text} (blank : c.isBlank = true)
    (between : Gap gap rest) : Gap (c :: gap) rest := by
  rcases between with closed | ⟨finished, ⟨front, line, rfl, closed, absent⟩⟩
  · exact .inl (.blank blank closed)
  · exact .inr ⟨finished, ⟨c :: front, line, rfl, .blank blank closed, absent⟩⟩

/-- Closed layout may be put before any layout. -/
theorem Gap.closed_append {front gap rest : Text} (closed : Closed front) (between : Gap gap rest) :
    Gap (front ++ gap) rest := by
  rcases between with inner | ⟨finished, ⟨middle, line, rfl, inner, absent⟩⟩
  · exact .inl (closed.append inner)
  · exact .inr ⟨finished, ⟨front ++ middle, line, by simp, closed.append inner, absent⟩⟩

private theorem measured_of_measure? {mode : Mode} {t : Text} {n : Nat} (success : measure? mode t = some n) :
    Measured mode t n := by
  fun_induction measure? mode t generalizing n with
  | case1 => cases success; exact ⟨[], [], rfl, rfl, .inl .nil, settled_nil⟩
  | case2 c =>
    cases success
    split
    · next blank => exact ⟨[c], [], rfl, rfl, .inl (.blank blank .nil), settled_nil⟩
    · next filled => exact ⟨[], [c], rfl, rfl, .inl .nil, by simp [Settled, length?, measure?, filled]⟩
  | case3 c d rest blank ih =>
    obtain ⟨m, measured, rfl⟩ := Option.map_eq_some_iff.1 success
    obtain ⟨gap, after, split, rfl, between, settled⟩ := ih measured
    exact ⟨c :: gap, after, by rw [split]; rfl, rfl, between.blank blank, settled⟩
  | case4 c d rest filled slashes ih =>
    obtain ⟨rfl, rfl⟩ := slashes
    obtain ⟨m, measured, rfl⟩ := Option.map_eq_some_iff.1 success
    rcases ih measured with ⟨absent, rfl⟩ | ⟨body, gap, after, rfl, absent, rfl, between, settled⟩
    · refine ⟨'/' :: '/' :: rest, [], by simp, rfl, .inr ⟨rfl, ⟨[], rest, rfl, .nil, absent⟩⟩, settled_nil⟩
    · refine ⟨'/' :: '/' :: (body ++ ('\n' : CodePoint) :: gap), after, by simp, ?_, ?_, settled⟩
      · simp only [List.length_cons, List.length_append]
        omega
      · have comment : Closed ('/' :: '/' :: (body ++ ('\n' : CodePoint) :: [])) := .line absent .nil
        simpa using between.closed_append comment
  | case5 c d rest filled noLine opening ih =>
    obtain ⟨rfl, rfl⟩ := opening
    obtain ⟨m, measured, rfl⟩ := Option.map_eq_some_iff.1 success
    obtain ⟨body, gap, after, rfl, unclosed, rfl, between, settled⟩ := ih measured
    refine ⟨'/' :: '*' :: (body ++ ('*' : CodePoint) :: '/' :: gap), after, by simp, ?_, ?_, settled⟩
    · simp only [List.length_cons, List.length_append]
      omega
    · have comment : Closed ('/' :: '*' :: (body ++ ('*' : CodePoint) :: '/' :: [])) :=
        .block unclosed .nil
      simpa using between.closed_append comment
  | case6 c d rest filled noLine noBlock =>
    cases success
    exact ⟨[], c :: d :: rest, rfl, rfl, .inl .nil,
      by simp [Settled, length?, measure?, filled, noLine, noBlock]⟩
  | case7 => cases success; exact .inl ⟨by simp, rfl⟩
  | case8 c rest ih =>
    obtain ⟨m, measured, rfl⟩ := Option.map_eq_some_iff.1 success
    by_cases ended : c = CodePoint.ofChar '\n'
    · subst ended
      simp only [if_true] at ih measured
      obtain ⟨gap, after, rfl, rfl, between, settled⟩ := ih measured
      exact .inr ⟨[], gap, after, rfl, by simp, by simp; omega, between, settled⟩
    · rw [if_neg ended] at ih measured
      have other : CodePoint.ofChar '\n' ≠ c := fun same => ended same.symm
      rcases ih measured with ⟨absent, rfl⟩ | ⟨body, gap, after, rfl, absent, rfl, between, settled⟩
      · exact .inl ⟨by simp [other, absent], rfl⟩
      · exact .inr ⟨c :: body, gap, after, rfl, by simp [other, absent],
          by simp only [List.length_cons]; omega, between, settled⟩
  | case9 => simp at success
  | case10 => simp at success
  | case11 c d rest close ih =>
    obtain ⟨rfl, rfl⟩ := close
    obtain ⟨m, measured, rfl⟩ := Option.map_eq_some_iff.1 success
    obtain ⟨gap, after, rfl, rfl, between, settled⟩ := ih measured
    exact ⟨[], gap, after, rfl, by decide, by simp; omega, between, settled⟩
  | case12 c d rest noClose ih =>
    obtain ⟨m, measured, rfl⟩ := Option.map_eq_some_iff.1 success
    obtain ⟨body, gap, after, split, unclosed, rfl, between, settled⟩ := ih measured
    refine ⟨c :: body, gap, after, by rw [split]; rfl, ?_, by simp only [List.length_cons]; omega,
      between, settled⟩
    obtain ⟨e, tail, next⟩ : ∃ e tail, body ++ [('*' : CodePoint)] = e :: tail :=
      List.exists_cons_of_ne_nil (by simp)
    have same : d = e := by
      have heads := congrArg List.head? split
      have inner := congrArg List.head? next
      cases body <;> simp_all
    exact not_closing_cons (same ▸ noClose) unclosed next

/-- What is measured is layout, and no more layout follows it. -/
theorem gap_of_length? {t : Text} {n : Nat} (success : length? t = some n) :
    ∃ gap rest, t = gap ++ rest ∧ gap.length = n ∧ Gap gap rest ∧ Settled rest :=
  measured_of_measure? success

theorem settled_drop {t : Text} {n : Nat} (success : length? t = some n) : Settled (t.drop n) := by
  obtain ⟨gap, rest, rfl, rfl, _, settled⟩ := gap_of_length? success
  rwa [List.drop_left]

/-! ## Open block comments -/

/-- What closes the rest of a piece of layout that cannot be measured. -/
private def Unmeasured : Mode → Text → Prop
  | .between, t => Closed (t ++ closing)
  | .line, t => ∃ body gap : Text, t ++ closing = body ++ ('\n' : CodePoint) :: gap ∧
      CodePoint.ofChar '\n' ∉ body ∧ Closed gap
  | .block, t => ∃ body gap : Text, t ++ closing = body ++ ('*' : CodePoint) :: '/' :: gap ∧
      ¬ closing <:+: body ++ [('*' : CodePoint)] ∧ Closed gap

private theorem unmeasured_of_measure? {mode : Mode} {t : Text} (failure : measure? mode t = none) :
    Unmeasured mode t := by
  fun_induction measure? mode t with
  | case1 => simp at failure
  | case2 => simp at failure
  | case3 c d rest blank ih => exact .blank blank (ih (Option.map_eq_none_iff.1 failure))
  | case4 c d rest filled slashes ih =>
    obtain ⟨rfl, rfl⟩ := slashes
    obtain ⟨body, gap, split, absent, closed⟩ := ih (Option.map_eq_none_iff.1 failure)
    have comment := Closed.line absent closed
    rw [← split] at comment
    exact comment
  | case5 c d rest filled noLine opening ih =>
    obtain ⟨rfl, rfl⟩ := opening
    obtain ⟨body, gap, split, unclosed, closed⟩ := ih (Option.map_eq_none_iff.1 failure)
    have comment := Closed.block unclosed closed
    rw [← split] at comment
    exact comment
  | case6 => simp at failure
  | case7 => simp at failure
  | case8 c rest ih =>
    have inner := ih (Option.map_eq_none_iff.1 failure)
    split at inner
    · next ended => exact ⟨[], rest ++ closing, by rw [ended]; rfl, by simp, inner⟩
    · next other =>
      obtain ⟨body, gap, split, absent, closed⟩ := inner
      refine ⟨c :: body, gap, by rw [List.cons_append, split]; rfl, ?_, closed⟩
      rw [List.mem_cons, not_or]
      exact ⟨fun same => other same.symm, absent⟩
  | case9 => exact ⟨[], [], rfl, by decide, .nil⟩
  | case10 c =>
    refine ⟨[c], [], rfl, ?_, .nil⟩
    rintro ⟨front, back, split⟩
    have length := congrArg List.length split
    obtain ⟨rfl, rfl⟩ : front = [] ∧ back = [] := by
      constructor <;> apply List.length_eq_zero_iff.1 <;>
        simp only [closing, List.length_append, List.length_cons, List.length_nil] at length <;> omega
    injection split with _ second
    exact absurd second (by decide)
  | case11 c d rest close ih =>
    obtain ⟨rfl, rfl⟩ := close
    exact ⟨[], rest ++ closing, rfl, by decide, ih (Option.map_eq_none_iff.1 failure)⟩
  | case12 c d rest noClose ih =>
    obtain ⟨body, gap, split, unclosed, closed⟩ := ih (Option.map_eq_none_iff.1 failure)
    refine ⟨c :: body, gap, by rw [List.cons_append, split]; rfl, ?_, closed⟩
    obtain ⟨e, tail, next⟩ : ∃ e tail, body ++ [('*' : CodePoint)] = e :: tail :=
      List.exists_cons_of_ne_nil (by simp)
    have same : d = e := by
      have heads := congrArg List.head? split
      have inner := congrArg List.head? next
      cases body <;> simp_all
    exact not_closing_cons (same ▸ noClose) unclosed next

/-- A text that cannot be measured ends in an open block comment: closing it makes layout of it all. -/
theorem closed_of_length?_eq_none {t : Text} (failure : length? t = none) : Closed (t ++ closing) :=
  unmeasured_of_measure? failure

/-- An open line comment is closed by a line end. -/
theorem Gap.closed_newline {gap rest : Text} (between : Gap gap rest) : Closed (gap ++ [('\n' : CodePoint)]) := by
  rcases between with closed | ⟨_, ⟨front, line, rfl, closed, absent⟩⟩
  · exact closed.append Layout.closed_newline
  · have comment : Closed ('/' :: '/' :: (line ++ ('\n' : CodePoint) :: [])) := .line absent .nil
    simpa using closed.append comment

end Schemata.Layout
