import Mathlib
import Schemata.Proofs.Reading.Frontier

/-! # The frontier of a whole record

The frontier is worked out from a record entry by entry. It is what the record as a whole tells: the farthest
offset, the report of the first entry that lies there, and the labels of all entries that lie there, each once
and in their order.
-/

namespace Schemata

namespace Frontier

variable {f : Frontier} {e : Expectation} {calls : List Expectation}

/-- The labels of the entries that lie at an offset. -/
def labelsAt (offset : Int) (calls : List Expectation) : List Text :=
  (calls.filter (·.offset = offset)).filterMap Expectation.label?

/-- What the entries of a record, first to last, come to. -/
structure SumsUp (f : Frontier) (calls : List Expectation) : Prop where
  empty : calls = [] → f = start
  farthest : ∀ e ∈ calls, e.offset ≤ f.furthest
  /-- The frontier lies where the first of the farthest entries lies, and is reported as that one is. -/
  first : calls ≠ [] → ∃ before e after, calls = before ++ e :: after ∧ (∀ d ∈ before, d.offset < e.offset) ∧
    f.furthest = e.offset ∧ f.report = if e.offset = e.cursor.offset then e.cursor.tokenEnd else e.offset.toNat
  /-- Each label of the farthest entries, in the order in which they come first. -/
  expected : f.expected = (labelsAt f.furthest calls).eraseDups

theorem sumsUp_start : SumsUp start [] := ⟨fun _ => rfl, by simp, fun filled => absurd rfl filled, rfl⟩

theorem labelsAt_append (offset : Int) (calls more : List Expectation) :
    labelsAt offset (calls ++ more) = labelsAt offset calls ++ labelsAt offset more := by
  rw [labelsAt, List.filter_append, List.filterMap_append, labelsAt, labelsAt]

theorem labelsAt_here (e : Expectation) : labelsAt e.offset [e] = e.label?.toList := by
  cases given : e.label? <;> simp [labelsAt, given]

theorem labelsAt_elsewhere {offset : Int} (elsewhere : ∀ e ∈ calls, e.offset ≠ offset) :
    labelsAt offset calls = [] := by
  have unmatched : calls.filter (·.offset = offset) = [] := by
    rw [List.filter_eq_nil_iff]
    intro e member
    simpa using elsewhere e member
  rw [labelsAt, unmatched, List.filterMap_nil]

theorem eraseDups_append_singleton (labels : List Text) (t : Text) :
    (labels ++ [t]).eraseDups = if t ∈ labels then labels.eraseDups else labels.eraseDups ++ [t] := by
  rw [List.eraseDups_append]
  by_cases known : t ∈ labels
  · simp [known, List.removeAll]
  · simp only [known, List.removeAll, List.filter_cons, List.filter_nil, List.elem_eq_mem, decide_false,
      Bool.not_false, if_true, if_false]
    rfl

/-- An entry farther than all before it is the first of the farthest ones. -/
theorem SumsUp.add_farther (sums : SumsUp f calls) (farther : f.furthest < e.offset) :
    SumsUp (f.add e) (calls ++ [e]) := by
  have moved : (f.add e).furthest = e.offset := by rw [furthest_add, if_pos farther]
  have earlier : ∀ d ∈ calls, d.offset < e.offset := fun d member =>
    Int.lt_of_le_of_lt (sums.farthest d member) farther
  have labels : (f.add e).expected = e.label?.toList := by
    cases given : e.label? <;> simp [add, advance, farther, addLabel, given]
  refine ⟨by simp, fun d member => ?_, fun _ => ⟨calls, e, [], rfl, earlier, moved, ?_⟩, ?_⟩
  · rw [moved]
    rcases List.mem_append.1 member with member | member
    · exact Int.le_of_lt (earlier d member)
    · rw [List.mem_singleton.1 member]
  · rw [report_add, if_pos farther]
    rfl
  · rw [labels, moved, labelsAt_append, labelsAt_here,
      labelsAt_elsewhere fun d member => Int.ne_of_lt (earlier d member)]
    cases e.label? <;> rfl

/-- An entry that is not farther leaves the frontier where it is, and may add its label there. -/
theorem SumsUp.add_near (sums : SumsUp f calls) (filled : calls ≠ []) (near : e.offset ≤ f.furthest) :
    SumsUp (f.add e) (calls ++ [e]) := by
  have kept : (f.add e).furthest = f.furthest := by rw [furthest_add, if_neg (Int.not_lt.2 near)]
  obtain ⟨before, d, after, split, earlier, here, report⟩ := sums.first filled
  refine ⟨by simp, fun c member => ?_, fun _ => ⟨before, d, after ++ [e], by simp [split], earlier,
    kept.trans here, ?_⟩, ?_⟩
  · rw [kept]
    rcases List.mem_append.1 member with member | member
    · exact sums.farthest c member
    · rwa [List.mem_singleton.1 member]
  · rw [report_add, if_neg (Int.not_lt.2 near), report]
  · have still : f.advance e = f := by rw [advance, if_neg (Int.not_lt.2 near)]
    rw [kept, labelsAt_append]
    rcases Int.lt_or_eq_of_le near with nearer | same
    · have other : f.furthest ≠ e.offset := Int.ne_of_gt nearer
      rw [labelsAt_elsewhere (List.forall_mem_singleton.2 other.symm), List.append_nil, ← sums.expected]
      cases given : e.label? <;> simp [add, still, given, other]
    · rw [← same, labelsAt_here, same]
      cases given : e.label? with
      | none => simp [add, still, given, sums.expected]
      | some t =>
        have known : t ∈ f.expected ↔ t ∈ labelsAt f.furthest calls := by rw [sums.expected, List.mem_eraseDups]
        rw [Option.toList_some, eraseDups_append_singleton, ← sums.expected]
        simp only [add, still, given, same, if_true, addLabel, known]
        split <;> rfl

/-- The frontier is what all entries come to, if none of them lies before the text. -/
theorem sumsUp_of {expectations : List Expectation} (within : ∀ e ∈ expectations, 0 ≤ e.offset) :
    SumsUp (of expectations) expectations.reverse := by
  induction expectations with
  | nil => exact sumsUp_start
  | cons e earlier ih =>
    have sums := ih fun d member => within d (List.mem_cons_of_mem _ member)
    have inside := within e List.mem_cons_self
    rw [of_cons, List.reverse_cons]
    rcases Int.lt_or_le (of earlier).furthest e.offset with farther | near
    · exact sums.add_farther farther
    · refine sums.add_near (fun empty => ?_) near
      have before : (of earlier).furthest = -1 := by rw [sums.empty empty]; rfl
      omega

/-- Later entries never move the frontier back. -/
theorem furthest_le_append (new old : List Expectation) : (of old).furthest ≤ (of (new ++ old)).furthest := by
  rcases of_append_cases new old with ⟨same, _⟩ | ⟨e, _, farther, moved, _⟩ <;> omega

end Frontier

end Schemata
