import Mathlib
import Schemata.Proofs.Text.Part

/-! # Lines

The line feeds of a text cut it up into lines and belong to none of them. An offset stands in one line, behind
so many of its code points: there is one such line and one such number.
-/

namespace Schemata.Text

variable {t : Text}

def lines (t : Text) : List Text := t.splitOn (CodePoint.ofChar '\n')

theorem lines_append_newline (front t : Text) : lines (front ++ ('\n' : CodePoint) :: t) = lines front ++ lines t :=
  List.splitOn_append_cons_self front t

theorem lines_of_not_mem (absent : CodePoint.ofChar '\n' ∉ t) : lines t = [t] := List.splitOn_eq_singleton absent

theorem lines_cons (c : CodePoint) (t : Text) :
    lines (c :: t) = if c = '\n' then [] :: lines t else (lines t).modifyHead (List.cons c) := by
  simp only [lines, List.splitOn_eq_splitOnP, List.splitOnP_cons_eq_if_modifyHead, beq_iff_eq]

theorem exists_lines_eq (t : Text) : ∃ first others, lines t = first :: others :=
  List.exists_cons_of_ne_nil (List.splitOn_ne_nil _ t)

/-- There is one line more than there are line feeds. -/
theorem length_lines (t : Text) : (lines t).length = t.count (CodePoint.ofChar '\n') + 1 := by
  induction t with
  | nil => rfl
  | cons c t ih =>
    rw [lines_cons, List.count_cons]
    by_cases ended : c = CodePoint.ofChar '\n'
    · simp [ended, ih]
    · simp [ended, ih]

/-- Every code point stands in a line or ends one. -/
theorem sum_lines (t : Text) : ((lines t).map (·.length + 1)).sum = t.length + 1 := by
  induction t with
  | nil => rfl
  | cons c t ih =>
    obtain ⟨first, others, split⟩ := exists_lines_eq t
    rw [split, List.map_cons, List.sum_cons] at ih
    rw [lines_cons, split]
    by_cases ended : c = CodePoint.ofChar '\n'
    · simp only [ended, if_true, List.map_cons, List.sum_cons, List.length_nil, List.length_cons]
      omega
    · simp only [ended, if_false, List.modifyHead_cons, List.map_cons, List.sum_cons, List.length_cons]
      omega

/-- The first line reaches up to the first line feed. -/
theorem lines_eq_before_cons (t : Text) : ∃ others, lines t = before '\n' t :: others := by
  obtain ⟨after, split, ended⟩ := before_split '\n' t
  have absent := not_mem_before '\n' t
  generalize before '\n' t = first at split absent ⊢
  subst split
  cases after with
  | nil => exact ⟨[], by rw [List.append_nil, lines_of_not_mem absent]⟩
  | cons c after =>
    obtain rfl : c = CodePoint.ofChar '\n' := by simpa using ended
    exact ⟨lines after, by rw [lines_append_newline, lines_of_not_mem absent]; rfl⟩

/-- The lines of several texts, one below the other. -/
theorem lines_join {parts : List Text} (filled : parts ≠ []) :
    lines (join (text "\n") parts) = parts.flatMap lines := by
  induction parts with
  | nil => contradiction
  | cons first parts ih =>
    cases parts with
    | nil => simp [join, List.intercalate]
    | cons second parts =>
      have joined : join (text "\n") (first :: second :: parts) =
          first ++ ('\n' : CodePoint) :: join (text "\n") (second :: parts) := by
        simp [join, List.intercalate, text]
      rw [joined, lines_append_newline, ih (by simp)]
      exact List.flatMap_cons.symm

theorem flatMap_lines_of_not_mem {parts : List Text} (absent : ∀ part ∈ parts, CodePoint.ofChar '\n' ∉ part) :
    parts.flatMap lines = parts := by
  induction parts with
  | nil => rfl
  | cons part parts ih =>
    obtain ⟨first, others⟩ := List.forall_mem_cons.1 absent
    rw [List.flatMap_cons, lines_of_not_mem first, ih others]
    rfl

/-- There are as many lines as texts only where each text is one line. -/
theorem not_mem_of_length_flatMap_lines {parts : List Text} (length : (parts.flatMap lines).length = parts.length) :
    ∀ part ∈ parts, CodePoint.ofChar '\n' ∉ part := by
  have more (parts : List Text) :
      (parts.flatMap lines).length = parts.length + (parts.map (List.count (CodePoint.ofChar '\n'))).sum := by
    induction parts with
    | nil => rfl
    | cons part parts ih =>
      rw [List.flatMap_cons, List.length_append, length_lines, ih, List.length_cons, List.map_cons, List.sum_cons]
      omega
  rw [more, Nat.add_eq_left, List.sum_eq_zero_iff, List.forall_mem_map] at length
  exact fun part member => List.count_eq_zero.1 (length part member)

/-! ## Offsets in lines -/

/-- Where a line starts. -/
def offsetOfLine (t : Text) (line : Nat) : Nat := (((lines t).take line).map (·.length + 1)).sum

/-- The offset stands in a line, behind so many of its code points. -/
structure Stands (t : Text) (offset line column : Nat) (content : Text) : Prop where
  listed : (lines t)[line]? = some content
  inside : column ≤ content.length
  offset_eq : offset = offsetOfLine t line + column

theorem offsetOfLine_succ {line : Nat} {content : Text} (listed : (lines t)[line]? = some content) :
    offsetOfLine t (line + 1) = offsetOfLine t line + (content.length + 1) := by
  rw [offsetOfLine, offsetOfLine, List.take_add_one, listed]
  simp

theorem offsetOfLine_mono {line line' : Nat} (before : line ≤ line') :
    offsetOfLine t line ≤ offsetOfLine t line' := by
  obtain ⟨n, rfl⟩ := Nat.exists_eq_add_of_le before
  rw [offsetOfLine, offsetOfLine, List.take_add, List.map_append, List.sum_append]
  exact Nat.le_add_right _ _

/-- Offsets in an earlier line are smaller. -/
theorem Stands.lt {offset offset' line line' column column' : Nat} {content content' : Text}
    (stands : Stands t offset line column content) (stands' : Stands t offset' line' column' content')
    (before : line < line') : offset < offset' := by
  have next := offsetOfLine_succ stands.listed
  have later := offsetOfLine_mono (t := t) (show line + 1 ≤ line' from before)
  have := stands.inside
  have := stands.offset_eq
  have := stands'.offset_eq
  omega

/-- An offset stands in one line and at one column. -/
theorem Stands.unique {offset line line' column column' : Nat} {content content' : Text}
    (stands : Stands t offset line column content) (stands' : Stands t offset line' column' content') :
    line' = line ∧ column' = column := by
  obtain earlier | rfl | later := Nat.lt_trichotomy line line'
  · exact absurd (stands.lt stands' earlier) (Nat.lt_irrefl _)
  · have := stands.offset_eq
    have := stands'.offset_eq
    omega
  · exact absurd (stands'.lt stands later) (Nat.lt_irrefl _)

/-- Between two parts of a text stands the line that ends the first part and starts the second one. -/
theorem stands_append (front back : Text) :
    Stands (front ++ back) front.length (front.count (CodePoint.ofChar '\n')) (front.afterLast '\n').length
      (front.afterLast '\n' ++ back.before '\n') := by
  obtain ⟨above, split, opened⟩ := exists_append_afterLast '\n' front
  have absent := not_mem_afterLast '\n' front
  generalize front.afterLast '\n' = start at split absent ⊢
  subst split
  obtain ⟨others, first⟩ := lines_eq_before_cons (start ++ back)
  rw [before_append_of_not_mem absent] at first
  rcases opened with rfl | ended
  · refine ⟨?_, by simp, ?_⟩
    · simp [first, List.count_eq_zero_of_not_mem absent]
    · simp [offsetOfLine, List.count_eq_zero_of_not_mem absent]
  · obtain ⟨above, rfl⟩ := List.getLast?_eq_some_iff.1 ended
    have split : lines (above ++ [('\n' : CodePoint)] ++ start ++ back) = lines above ++ lines (start ++ back) := by
      rw [← lines_append_newline]
      simp
    have earlier : (above ++ [('\n' : CodePoint)] ++ start).count (CodePoint.ofChar '\n') = (lines above).length := by
      rw [length_lines]
      simp [List.count_append, List.count_eq_zero_of_not_mem absent]
    refine ⟨?_, by simp, ?_⟩
    · rw [split, earlier, List.getElem?_append_right (Nat.le_refl _), Nat.sub_self, first]
      rfl
    · rw [offsetOfLine, split, earlier, List.take_left, sum_lines, List.length_append, List.length_append]
      rfl

/-- What follows the first part goes on with the line, unless the line ends there. -/
theorem getElem?_of_stands_append (front back : Text)
    (inside : (front.afterLast '\n').length < (front.afterLast '\n' ++ back.before '\n').length) :
    (front.afterLast '\n' ++ back.before '\n')[(front.afterLast '\n').length]? = (front ++ back)[front.length]? := by
  rw [List.getElem?_append_right (Nat.le_refl _), List.getElem?_append_right (Nat.le_refl _), Nat.sub_self,
    Nat.sub_self]
  rw [List.length_append] at inside
  cases back with
  | nil => rfl
  | cons c back =>
    by_cases ended : c = CodePoint.ofChar '\n'
    · simp [before, ended] at inside
    · simp [before, ended]

end Schemata.Text
