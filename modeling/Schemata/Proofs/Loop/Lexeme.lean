import Schemata.Lexeme.Layout
import Schemata.Proofs.Grammar.Literal
import Schemata.Proofs.Loop.Basic

/-! # Layout and literals piece by piece

Layout is skipped in pieces: all blanks that stand together, a line comment up to its line end, or a block
comment. A literal is read in pieces: one code point, or a backslash with its escape. Either way a piece takes
at least one code point of the text, and the pieces add up to what `Layout.length?` measures and
`Literal.read` reads.
-/

namespace Schemata

namespace Layout

/-- The distance to the end of a block comment, from after its opening. -/
def blockLength? : Text → Option Nat
  | [] => none
  | [_] => none
  | c :: d :: rest =>
    if c = '*' ∧ d = '/' then some 2 else (blockLength? (d :: rest)).map (· + 1)

/-- The length of the blanks or of the comment at the start, zero if there is neither. A block comment that
is never closed has none. -/
def piece? : Text → Option Nat
  | [] => some 0
  | c :: rest =>
    if c.isBlank then some ((c :: rest).takeWhile CodePoint.isBlank).length
    else if c = '/' ∧ rest.head? = some (CodePoint.ofChar '/') then some ((Text.before '\n' rest).length + 1)
    else if c = '/' ∧ rest.head? = some (CodePoint.ofChar '*') then
      (blockLength? (rest.drop 1)).map (· + 2)
    else some 0

/-- Skips layout from an offset of a text; the outcome is the offset behind it. -/
def loop (source : Text) : Loop Nat (Option Nat) := fun offset =>
  match piece? (source.drop offset) with
  | none => .last none
  | some 0 => .last (some offset)
  | some (length + 1) => .next (offset + (length + 1)) id

theorem length?_cons_blank {c : CodePoint} (blank : c.isBlank = true) (t : Text) :
    length? (c :: t) = (length? t).map (· + 1) := by
  cases t <;> simp [length?, measure?, blank]

theorem length?_blanks (t : Text) :
    length? t = (length? (t.drop (t.takeWhile CodePoint.isBlank).length)).map
      (· + (t.takeWhile CodePoint.isBlank).length) := by
  induction t with
  | nil => rfl
  | cons c t ih =>
    by_cases blank : c.isBlank = true
    · rw [List.takeWhile_cons_of_pos blank, List.length_cons, List.drop_succ_cons,
        length?_cons_blank blank, ih, Option.map_map]
      rfl
    · simp [List.takeWhile_cons_of_neg blank]

/-- A line comment goes on up to the line end, which is a blank. -/
theorem measure?_line (t : Text) :
    measure? .line t = (length? (t.drop (Text.before '\n' t).length)).map (· + (Text.before '\n' t).length) := by
  induction t with
  | nil => rfl
  | cons c t ih =>
    by_cases ended : c = CodePoint.ofChar '\n'
    · subst ended
      have empty : Text.before '\n' ('\n' :: t) = [] := by simp [Text.before]
      rw [measure?, if_pos rfl, empty, List.length_nil, List.drop_zero, length?_cons_blank (by decide),
        Option.map_map]
      rfl
    · have split : Text.before '\n' (c :: t) = c :: Text.before '\n' t :=
        List.takeWhile_cons_of_pos (by simpa using ended)
      rw [measure?, if_neg ended, ih, split, List.length_cons, List.drop_succ_cons, Option.map_map]
      rfl

theorem measure?_block (t : Text) :
    measure? .block t = (blockLength? t).bind fun length => (length? (t.drop length)).map (· + length) := by
  fun_induction blockLength? t with
  | case1 => rfl
  | case2 => rfl
  | case3 c d rest closes => simp [measure?, closes, length?]
  | case4 c d rest unclosed ih =>
    rw [measure?, if_neg unclosed, ih]
    cases blockLength? (d :: rest) with
    | none => rfl
    | some length =>
      simp only [Option.bind_some, Option.map_some, List.drop_succ_cons, Option.map_map]
      rfl

/-- Layout is its first piece and the layout after it. -/
theorem length?_eq_bind_piece? (t : Text) :
    length? t = (piece? t).bind fun length =>
      if length = 0 then some 0 else (length? (t.drop length)).map (· + length) := by
  cases t with
  | nil => rfl
  | cons c rest =>
    by_cases blank : c.isBlank = true
    · rw [piece?, if_pos blank, Option.bind_some, ← length?_blanks, if_neg]
      simp [List.takeWhile_cons_of_pos blank]
    · cases rest with
      | nil => simp [piece?, length?, measure?, blank]
      | cons d rest =>
        by_cases line : c = '/' ∧ d = '/'
        · obtain ⟨rfl, rfl⟩ := line
          have opening : length? ('/' :: '/' :: rest) = (measure? .line rest).map (· + 2) := by
            rw [length?, measure?, if_neg blank, if_pos ⟨rfl, rfl⟩]
          have first : piece? ('/' :: '/' :: rest) = some ((Text.before '\n' rest).length + 2) := by
            rw [piece?, if_neg blank, if_pos ⟨rfl, rfl⟩]
            rfl
          rw [opening, first, measure?_line, Option.bind_some, if_neg (by omega), Option.map_map]
          rfl
        · by_cases block : c = '/' ∧ d = '*'
          · obtain ⟨rfl, rfl⟩ := block
            have opening : length? ('/' :: '*' :: rest) = (measure? .block rest).map (· + 2) := by
              rw [length?, measure?, if_neg blank, if_neg line, if_pos ⟨rfl, rfl⟩]
            have first : piece? ('/' :: '*' :: rest) = (blockLength? rest).map (· + 2) := by
              rw [piece?, if_neg blank, if_neg (by simpa using line), if_pos ⟨rfl, rfl⟩]
              rfl
            rw [opening, first, measure?_block]
            cases blockLength? rest with
            | none => rfl
            | some length =>
              rw [Option.bind_some, Option.map_some, Option.bind_some, if_neg (by omega), Option.map_map]
              rfl
          · simp [piece?, length?, measure?, blank, line, block]

theorem loop_advances (source : Text) : (loop source).Advances id source.length := by
  intro offset next complete moves
  have inside : offset < source.length := by
    refine Nat.lt_of_not_le fun beyond => ?_
    simp [loop, List.drop_of_length_le beyond, piece?] at moves
  simp only [loop] at moves
  split at moves
  · cases moves
  · cases moves
  · cases moves
    exact ⟨Nat.lt_add_of_pos_right (Nat.succ_pos _), inside⟩

/-- Measured from an offset, layout goes round the loop. -/
theorem loop_unfolds (source : Text) (offset : Nat) :
    (length? (source.drop offset)).map (offset + ·) =
      (loop source offset).outcome fun next => (length? (source.drop next)).map (next + ·) := by
  rw [length?_eq_bind_piece?]
  simp only [loop]
  split
  · next piece => simp [piece, Round.outcome]
  · next piece => simp [piece, Round.outcome]
  · next length piece =>
    simp only [piece, Option.bind_some, Nat.succ_ne_zero, if_false, Option.map_map, List.drop_drop,
      Round.outcome, id]
    congr 1
    funext n
    simp only [Function.comp_apply]
    omega

/-- Layout is skipped to the end by the loop that skips one piece in each round. -/
theorem length?_ends (source : Text) (offset : Nat) :
    (loop source).Ends id (source.length + 1) offset ((length? (source.drop offset)).map (offset + ·)) :=
  (loop_advances source).ends (f := fun _ offset => (length? (source.drop offset)).map (offset + ·))
    (fun _ => loop_unfolds source) offset

end Layout

namespace Literal

/-- Reads a literal piece by piece, from a distance on. -/
def loop (quote t : Text) : Loop Nat (Except Fault Content) := fun distance =>
  match t.drop distance with
  | [] => .last (.error .unclosed)
  | c :: rest =>
    if [c] = quote then .last (.ok ⟨[], distance + 1⟩)
    else if c = '\\' then
      match Escape.read rest with
      | .error (.malformed further) => .last (.error (.malformed (distance + 1 + further)))
      | .error (.oversized digits) => .last (.error (.oversized digits))
      | .ok escape => .next (distance + 1 + escape.length) (·.map (·.precededBy escape.value))
    else .next (distance + 1) (·.map (·.precededBy [c]))

theorem loop_advances (quote source : Text) (start : Nat) :
    (loop quote (source.drop start)).Advances (start + ·) source.length := by
  intro distance next complete moves
  simp only [loop, List.drop_drop] at moves
  split at moves
  · cases moves
  · next c rest split =>
    have inside : start + distance < source.length := by
      refine Nat.lt_of_not_le fun beyond => ?_
      rw [List.drop_of_length_le beyond] at split
      cases split
    have moved : distance < next := by
      split at moves
      · cases moves
      · split at moves
        · split at moves <;> cases moves
          omega
        · cases moves
          omega
    exact ⟨Nat.add_lt_add_left moved start, inside⟩

theorem loop_unfolds (quote t : Text) (distance : Nat) :
    readFrom quote 0 distance (t.drop distance) =
      (loop quote t distance).outcome fun next => readFrom quote 0 next (t.drop next) := by
  simp only [loop]
  cases split : t.drop distance with
  | nil => rfl
  | cons c rest =>
    have after (length : Nat) : t.drop (distance + 1 + length) = rest.drop length := by
      rw [← List.drop_drop, ← List.drop_drop, split]
      rfl
    rw [readFrom]
    dsimp only
    split
    · rfl
    · split
      · cases readable : Escape.read rest with
        | error fault => cases fault <;> rfl
        | ok escape =>
          obtain ⟨code, following, rfl, length, -⟩ := Escape.read_eq_ok_iff.1 readable
          dsimp only [Round.outcome]
          rw [readFrom_skip _ _ code following length.symm, after, length, List.drop_left]
      · dsimp only [Round.outcome]
        rw [after 0]
        rfl

/-- A literal is read to the end by the loop that reads one piece in each round. -/
theorem read_ends (quote source : Text) (start : Nat) :
    (loop quote (source.drop start)).Ends (start + ·) (source.length + 1) 0
      (read quote (source.drop start)) :=
  (loop_advances quote source start).ends
    (f := fun _ distance => readFrom quote 0 distance ((source.drop start).drop distance))
    (fun _ => loop_unfolds quote (source.drop start)) 0

end Literal

end Schemata
