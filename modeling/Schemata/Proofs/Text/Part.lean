import Schemata.Text.Basic

/-! # Parts of texts

What stands before the first occurrence of a code point, what stands after the last one, and what is left of a
text without some code points at its end; and what stands in texts that are put together.
-/

namespace Schemata.Text

variable {p : CodePoint → Bool} {t u : Text}

theorem dropRight_split (p : CodePoint → Bool) (t : Text) : ∃ ending, t = dropRight p t ++ ending ∧
    (∀ c ∈ ending, p c = true) ∧ ∀ c, (dropRight p t).getLast? = some c → p c = false := by
  refine ⟨(t.reverse.takeWhile p).reverse, ?_, ?_, ?_⟩
  · rw [dropRight, ← List.reverse_append, List.takeWhile_append_dropWhile, List.reverse_reverse]
  · intro c member
    exact List.all_eq_true.1 List.all_takeWhile c (List.mem_reverse.1 member)
  · intro c last
    rw [dropRight, List.getLast?_reverse] at last
    have stop := List.head?_dropWhile_not p t.reverse
    rw [last] at stop
    simpa using stop

theorem dropRight_append (dropped : ∀ c ∈ u, p c = true) (kept : ∀ c, t.getLast? = some c → p c = false) :
    dropRight p (t ++ u) = t := by
  have all : ∀ c ∈ u.reverse, p c = true := fun c member => dropped c (List.mem_reverse.1 member)
  have stop : t.reverse.dropWhile p = t.reverse := by
    cases split : t.reverse with
    | nil => rfl
    | cons c rest =>
      have last : t.getLast? = some c := by rw [List.getLast?_eq_head?_reverse, split, List.head?_cons]
      rw [List.dropWhile_cons_of_neg (by simp [kept c last])]
  rw [dropRight, List.reverse_append, List.dropWhile_append_of_pos all, stop, List.reverse_reverse]

/-- What stands before the first `c` is followed by a `c` or by nothing. -/
theorem before_split (c : CodePoint) (t : Text) :
    ∃ after, t = before c t ++ after ∧ after.head?.all (· = c) = true := by
  refine ⟨t.dropWhile (· ≠ c), List.takeWhile_append_dropWhile.symm, ?_⟩
  have stop := List.head?_dropWhile_not (fun d => decide (d ≠ c)) t
  cases head : (t.dropWhile fun d => decide (d ≠ c)).head? with
  | none => rfl
  | some d =>
    rw [head] at stop
    simpa using stop

theorem before_append_of_not_mem {c : CodePoint} (absent : c ∉ t) (u : Text) :
    before c (t ++ u) = t ++ before c u := by
  have other : ∀ d ∈ t, decide (d ≠ c) = true := by
    intro d member
    rw [decide_eq_true_eq]
    rintro rfl
    exact absent member
  rw [before, List.takeWhile_append_of_pos other]
  rfl

theorem before_append {c : CodePoint} (absent : c ∉ t) (ended : u.head?.all (· = c) = true) :
    before c (t ++ u) = t := by
  rw [before_append_of_not_mem absent]
  cases u with
  | nil => exact List.append_nil t
  | cons d rest =>
    obtain rfl : d = c := by simpa using ended
    simp [before]

/-- No `c` stands in the part after the last `c`, and a `c` stands right before it unless it is all. -/
theorem exists_append_afterLast (c : CodePoint) (t : Text) :
    ∃ front, t = front ++ t.afterLast c ∧ (front = [] ∨ front.getLast? = some c) := by
  refine ⟨(t.reverse.dropWhile (· ≠ c)).reverse, ?_, ?_⟩
  · rw [afterLast, ← List.reverse_append, List.takeWhile_append_dropWhile, List.reverse_reverse]
  · rw [List.getLast?_reverse, List.reverse_eq_nil_iff]
    have stopped := List.head?_dropWhile_not (· ≠ c) t.reverse
    cases rest : t.reverse.dropWhile (· ≠ c) with
    | nil => exact .inl rfl
    | cons d _ =>
      rw [rest] at stopped
      exact .inr (by simpa using stopped)

/-! ## Texts put together -/

theorem join_cons (separator first : Text) (others : List Text) :
    join separator (first :: others) = first ++ others.flatMap (separator ++ ·) := by
  induction others generalizing first with
  | nil => simp [join, List.intercalate]
  | cons second others ih =>
    rw [List.flatMap_cons, List.append_assoc, ← ih second]
    simp [join, List.intercalate]

/-- A code point of several texts put together stands in one of them, unless it stands in what separates them. -/
theorem mem_join_iff {c : CodePoint} {separator : Text} (apart : c ∉ separator) (parts : List Text) :
    c ∈ join separator parts ↔ ∃ part ∈ parts, c ∈ part := by
  cases parts with
  | nil => simp [join, List.intercalate]
  | cons first others => simp [join_cons, apart]

end Schemata.Text
