import Mathlib
import Schemata.Proofs.Grammar.Layout
import Schemata.Proofs.Loop.Lexeme
import Schemata.Proofs.Reading.Lexeme
import Schemata.Proofs.Text.Part

/-! # Skipping layout

Skipped layout is a stretch of pieces: single blanks, line comments up to the line end, and block comments,
each up to the first `*/` after its opening. Every text is such a stretch and a rest that either starts no
layout or opens a block comment that is never closed. The stretch is skipped in the first case, and nothing is
skipped in the second one.
-/

namespace Schemata

namespace Layout

/-- A blank or a comment, and what follows it. A line comment reaches to a line end or to the end of the text,
a block comment to the first `*/` after its opening. -/
inductive Piece : (piece rest : Text) → Prop
  | blank {c : CodePoint} {rest : Text} : c.isBlank = true → Piece [c] rest
  | line {body rest : Text} : CodePoint.ofChar '\n' ∉ body →
      rest.head?.all (· = CodePoint.ofChar '\n') = true → Piece ('/' :: '/' :: body) rest
  | block {body rest : Text} : ¬ closing <:+: body ++ [('*' : CodePoint)] →
      Piece ('/' :: '*' :: (body ++ closing)) rest

/-- Pieces of layout one after another, and what follows the last one. -/
inductive Stretch : (gap rest : Text) → Prop
  | nil {rest : Text} : Stretch [] rest
  | cons {piece gap rest : Text} : Piece piece (gap ++ rest) → Stretch gap rest → Stretch (piece ++ gap) rest

/-- A blank or the opening of a comment stands at the start. -/
def Starts (t : Text) : Prop :=
  (∃ c rest, t = c :: rest ∧ c.isBlank = true) ∨ text "//" <+: t ∨ text "/*" <+: t

/-- A block comment is opened at the start and never closed. -/
def Unclosed (t : Text) : Prop := ∃ body, t = text "/*" ++ body ∧ ¬ closing <:+: body

/-! ## Every text is a stretch and a rest -/

theorem exists_first_closing {t : Text} (inside : closing <:+: t) :
    ∃ body rest, t = body ++ closing ++ rest ∧ ¬ closing <:+: body ++ [('*' : CodePoint)] := by
  induction t with
  | nil => exact absurd inside (by decide)
  | cons c t ih =>
    by_cases here : closing <+: c :: t
    · obtain ⟨rest, split⟩ := here
      exact ⟨[], rest, split.symm, by decide⟩
    · have later := (List.infix_cons_iff.1 inside).resolve_left here
      obtain ⟨body, rest, rfl, open_⟩ := ih later
      refine ⟨c :: body, rest, rfl, fun early => ?_⟩
      rcases List.infix_cons_iff.1 early with start | early
      · refine here (start.trans ⟨('/' : CodePoint) :: rest, ?_⟩)
        simp [closing]
      · exact open_ early

theorem exists_piece {t : Text} (starts : Starts t) :
    (∃ piece rest, t = piece ++ rest ∧ piece ≠ [] ∧ Piece piece rest) ∨ Unclosed t := by
  rcases starts with ⟨c, rest, rfl, blank⟩ | ⟨u, rfl⟩ | ⟨u, rfl⟩
  · exact .inl ⟨[c], rest, rfl, by simp, .blank blank⟩
  · obtain ⟨after, split, ended⟩ := Text.before_split '\n' u
    refine .inl ⟨text "//" ++ Text.before '\n' u, after, ?_, by simp [text], .line (Text.not_mem_before _ _) ended⟩
    rw [List.append_assoc, ← split]
  · by_cases closed : closing <:+: u
    · obtain ⟨body, rest, rfl, first⟩ := exists_first_closing closed
      exact .inl ⟨text "/*" ++ (body ++ closing), rest, by simp, by simp [text], .block first⟩
    · exact .inr ⟨u, rfl, closed⟩

theorem exists_stretch (t : Text) :
    ∃ gap rest, t = gap ++ rest ∧ Stretch gap rest ∧ (¬ Starts rest ∨ Unclosed rest) := by
  induction shorter : t.length using Nat.strong_induction_on generalizing t with
  | _ n ih =>
    by_cases starts : Starts t
    · rcases exists_piece starts with ⟨piece, rest, rfl, filled, first⟩ | unclosed
      · have less : rest.length < n := by
          have := List.length_pos_iff.2 filled
          rw [List.length_append] at shorter
          omega
        obtain ⟨gap, after, rfl, stretch, ended⟩ := ih rest.length less rest rfl
        exact ⟨piece ++ gap, after, by simp, .cons first stretch, ended⟩
      · exact ⟨[], t, rfl, .nil, .inr unclosed⟩
    · exact ⟨[], t, rfl, .nil, .inl starts⟩

/-! ## Stretches are measured in full -/

theorem Piece.length?_append {piece rest : Text} (first : Piece piece rest) :
    length? (piece ++ rest) = (length? rest).map (· + piece.length) := by
  cases first with
  | blank blank => exact measure_closed_append (.blank blank .nil) rest
  | @line body _ absent ended =>
    have opening : length? (('/' : CodePoint) :: '/' :: body ++ rest) =
        (measure? .line (body ++ rest)).map (· + 2) := by
      rw [length?, List.cons_append, List.cons_append, measure?, if_neg (by decide), if_pos ⟨rfl, rfl⟩]
    rw [opening, measure?_line, Text.before_append absent ended, List.drop_left, Option.map_map]
    rfl
  | @block body _ first =>
    have comment : Closed ('/' :: '*' :: (body ++ ('*' : CodePoint) :: '/' :: [])) := .block first .nil
    exact measure_closed_append comment rest

theorem Stretch.length?_append {gap rest : Text} (stretch : Stretch gap rest) :
    length? (gap ++ rest) = (length? rest).map (· + gap.length) := by
  induction stretch with
  | nil => simp
  | cons first _ ih =>
    rw [List.append_assoc, first.length?_append, ih, Option.map_map, List.length_append]
    congr 1
    funext n
    simp only [Function.comp_apply]
    omega

theorem length?_of_not_starts {t : Text} (other : ¬ Starts t) : length? t = some 0 := by
  match t with
  | [] => rfl
  | [c] =>
    have filled : ¬ c.isBlank = true := fun blank => other (.inl ⟨c, [], rfl, blank⟩)
    simp [length?, measure?, filled]
  | c :: d :: rest =>
    have filled : ¬ c.isBlank = true := fun blank => other (.inl ⟨c, d :: rest, rfl, blank⟩)
    have noLine : ¬ (c = '/' ∧ d = '/') := by
      rintro ⟨rfl, rfl⟩
      exact other (.inr (.inl ⟨rest, rfl⟩))
    have noBlock : ¬ (c = '/' ∧ d = '*') := by
      rintro ⟨rfl, rfl⟩
      exact other (.inr (.inr ⟨rest, rfl⟩))
    rw [length?, measure?, if_neg filled, if_neg noLine, if_neg noBlock]

theorem measure?_block_of_open {t : Text} (unclosed : ¬ closing <:+: t) : measure? .block t = none := by
  induction t with
  | nil => rfl
  | cons c t ih =>
    have later : ¬ closing <:+: t := fun inside => unclosed (List.infix_cons_iff.2 (.inr inside))
    cases t with
    | nil => rfl
    | cons d rest =>
      have here : ¬ (c = '*' ∧ d = '/') := by
        rintro ⟨rfl, rfl⟩
        exact unclosed ⟨[], rest, rfl⟩
      rw [measure?, if_neg here, ih later]
      rfl

theorem Unclosed.length? {t : Text} (unclosed : Unclosed t) : Layout.length? t = none := by
  obtain ⟨body, rfl, endless⟩ := unclosed
  show measure? .between ('/' :: '*' :: body) = none
  rw [measure?, if_neg (by decide), if_neg (by decide), if_pos ⟨rfl, rfl⟩, measure?_block_of_open endless]
  rfl

end Layout

namespace Reader

open Layout

/-- Skipping moves over that many code points, and once more over none. -/
structure SkipsOver (source : Text) (s : State) (length : Nat) : Prop where
  moves : skip source s = (.ok (), s.at ⟨s.cursor.offset + length, s.cursor.offset⟩)
  settles : skip source (s.at ⟨s.cursor.offset + length, s.cursor.offset⟩) =
    (.ok (), s.at ⟨s.cursor.offset + length, s.cursor.offset + length⟩)

/-- Skipping fails at the end of the text for want of the end of a comment, and moves nowhere. -/
def MissesClosing (source : Text) (s : State) : Prop :=
  skip source s = (.error (.backtrack source.length),
    (s.at ⟨s.cursor.offset, s.cursor.offset⟩).expecting (some (inQuotes "*/")) source.length)

theorem skip_of_measured {source : Text} {s : State} {gap : Nat}
    (measured : length? (source.drop s.cursor.offset) = some gap) :
    skip source s = (.ok (), s.at ⟨s.cursor.offset + gap, s.cursor.offset⟩) := by
  simp only [skip_apply, lexeme, Nat.add_zero, measured]

theorem missesClosing_iff {source : Text} {s : State} :
    MissesClosing source s ↔ length? (source.drop s.cursor.offset) = none := by
  constructor
  · intro misses
    cases measured : length? (source.drop s.cursor.offset) with
    | none => rfl
    | some gap => cases (skip_of_measured measured).symm.trans misses
  · intro unmeasured
    simp only [MissesClosing, skip_apply, lexeme, Nat.add_zero, unmeasured]

theorem skipsOver_of_stretch {source gap rest : Text} {s : State}
    (split : source.drop s.cursor.offset = gap ++ rest) (stretch : Stretch gap rest) (ended : ¬ Starts rest) :
    SkipsOver source s gap.length := by
  have settled : length? rest = some 0 := length?_of_not_starts ended
  have whole : length? (source.drop s.cursor.offset) = some gap.length := by
    rw [split, stretch.length?_append, settled, Option.map_some, Nat.zero_add]
  have nothing : length? (source.drop (s.at ⟨s.cursor.offset + gap.length, s.cursor.offset⟩).cursor.offset) =
      some 0 := by
    rw [State.at, ← List.drop_drop, split, List.drop_left, settled]
  exact ⟨skip_of_measured whole, skip_of_measured nothing⟩

/-- Skipping moves over the longest layout and leaves nothing more to skip, or it fails. It fails exactly where
layout runs into a block comment that is never closed. -/
theorem skip_takes_longest_layout (source : Text) (s : State) :
    ((∃ gap rest, source.drop s.cursor.offset = gap ++ rest ∧ Stretch gap rest ∧ ¬ Starts rest ∧
        SkipsOver source s gap.length) ∨ MissesClosing source s) ∧
      (MissesClosing source s ↔
        ∃ gap rest, source.drop s.cursor.offset = gap ++ rest ∧ Stretch gap rest ∧ Unclosed rest) := by
  have misses {gap rest : Text} (split : source.drop s.cursor.offset = gap ++ rest) (stretch : Stretch gap rest)
      (unclosed : Unclosed rest) : MissesClosing source s := by
    rw [missesClosing_iff, split, stretch.length?_append, unclosed.length?]
    rfl
  obtain ⟨gap, rest, split, stretch, ended | unclosed⟩ := exists_stretch (source.drop s.cursor.offset)
  · have skips := skipsOver_of_stretch split stretch ended
    refine ⟨.inl ⟨gap, rest, split, stretch, ended, skips⟩, fun fails => ?_, ?_⟩
    · cases skips.moves.symm.trans fails
    · rintro ⟨gap, rest, split, stretch, unclosed⟩
      exact misses split stretch unclosed
  · refine ⟨.inr (misses split stretch unclosed), fun _ => ⟨gap, rest, split, stretch, unclosed⟩, ?_⟩
    rintro ⟨gap, rest, split, stretch, unclosed⟩
    exact misses split stretch unclosed

end Reader

end Schemata
