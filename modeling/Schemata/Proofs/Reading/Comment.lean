import Schemata.Proofs.Grammar.Token
import Schemata.Proofs.Reading.Lexeme
import Schemata.Proofs.Text.Part

/-! # Comment lines

The pieces into which a comment is cut up after its dashes, the spaces and tabs, the content and the
carriage returns, are those of the grammar, and the grammar leaves no choice between such pieces.
-/

namespace Schemata

namespace Reader

open Token

private theorem isBlankOfLine_iff {c : CodePoint} :
    (c = CodePoint.ofChar ' ' || c = CodePoint.ofChar '\t') = true ↔
      c = CodePoint.ofChar ' ' ∨ c = CodePoint.ofChar '\t' := by simp

/-- The pieces of a comment that is read are pieces of the grammar. -/
theorem commentLine_pieces (t : Text) : ∃ ending after,
    CommentLine (commentGap t) (Text.dropRight (· = '\r') (commentLine t)) ending ∧
      commentLine t = Text.dropRight (· = '\r') (commentLine t) ++ ending ∧
      t = commentGap t ++ (commentLine t ++ after) ∧
      after.head?.all (· = CodePoint.ofChar '\n') = true := by
  obtain ⟨ending, split, returns, last⟩ := Text.dropRight_split (· = '\r') (commentLine t)
  obtain ⟨after, whole, ended⟩ := Text.before_split '\n' (t.drop (commentGap t).length)
  have gap : t = commentGap t ++ t.drop (commentGap t).length :=
    List.prefix_iff_eq_append.1 (List.takeWhile_prefix _) |>.symm
  have rest : t.drop (commentGap t).length =
      t.dropWhile fun (c : CodePoint) => c = ' ' || c = '\t' := by
    have whole : commentGap t ++ t.dropWhile (fun (c : CodePoint) => c = ' ' || c = '\t') = t :=
      List.takeWhile_append_dropWhile
    exact List.append_cancel_left (gap.symm.trans whole.symm)
  refine ⟨ending, after, ?_, split, ?_, ended⟩
  · constructor
    · intro c member
      exact isBlankOfLine_iff.1 (List.all_eq_true.1 List.all_takeWhile c member)
    · intro c head
      have first : (t.drop (commentGap t).length).head? = some c := by
        rw [whole, ← commentLine, split]
        simp [head]
      have stop := List.head?_dropWhile_not (fun (c : CodePoint) => c = ' ' || c = '\t') t
      rw [← rest, first] at stop
      simpa using stop
    · intro member
      apply Text.not_mem_before '\n' (t.drop (commentGap t).length)
      rw [← commentLine, split]
      exact List.mem_append_left _ member
    · intro same
      simpa using last _ same
    · intro c member
      simpa using returns c member
  · exact gap.trans (congrArg _ whole)

/-- The pieces of the grammar are the ones that are read. -/
theorem commentGap_of_line {gap content ending after : Text} (line : CommentLine gap content ending)
    (ended : after.head?.all (· = CodePoint.ofChar '\n') = true) :
    commentGap (gap ++ (content ++ ending ++ after)) = gap := by
  have all : ∀ c ∈ gap, (c = CodePoint.ofChar ' ' || c = CodePoint.ofChar '\t') = true :=
    fun c member => isBlankOfLine_iff.2 (line.gap_blank c member)
  have stop : (content ++ ending ++ after).takeWhile
      (fun (c : CodePoint) => c = ' ' || c = '\t') = [] := by
    cases split : content ++ ending ++ after with
    | nil => rfl
    | cons c rest =>
      have other : c ≠ CodePoint.ofChar ' ' ∧ c ≠ CodePoint.ofChar '\t' := by
        cases content with
        | cons d content =>
          cases split
          exact line.content_head c rfl
        | nil =>
          cases ending with
          | cons d ending =>
            cases split
            obtain rfl := line.ending_returns c List.mem_cons_self
            decide
          | nil =>
            simp only [List.nil_append] at split
            subst split
            obtain rfl : c = CodePoint.ofChar '\n' := by simpa using ended
            decide
      simp [other]
  rw [commentGap, List.takeWhile_append_of_pos all, stop, List.append_nil]

theorem commentLine_of_line {gap content ending after : Text} (line : CommentLine gap content ending)
    (ended : after.head?.all (· = CodePoint.ofChar '\n') = true) :
    commentLine (gap ++ (content ++ ending ++ after)) = content ++ ending := by
  rw [commentLine, commentGap_of_line line ended, List.drop_left]
  refine Text.before_append ?_ ended
  intro member
  rcases List.mem_append.1 member with member | member
  · exact line.content_line member
  · exact absurd (line.ending_returns _ member) (by decide)

theorem dropRight_of_line {gap content ending : Text} (line : CommentLine gap content ending) :
    Text.dropRight (· = '\r') (content ++ ending) = content := by
  apply Text.dropRight_append (fun c member => by simpa using line.ending_returns c member)
  intro c last
  rw [decide_eq_false_iff_not]
  rintro rfl
  exact line.content_last last

end Reader

end Schemata
