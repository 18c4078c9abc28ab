import Schemata.Reader.Run

/-! # The frontier

The frontier of a list of expectations lies where the farthest of them lies. Expectations that lie before
all later ones leave no trace in it, and so a frontier can be moved past a text that was read before.
-/

namespace Schemata

namespace Frontier

variable {f : Frontier} {e : Expectation}

theorem furthest_add (f : Frontier) (e : Expectation) :
    (f.add e).furthest = if f.furthest < e.offset then e.offset else f.furthest := by
  unfold add
  cases e.label? with
  | none => simp only [advance]; split <;> rfl
  | some t =>
    simp only [advance, addLabel]
    split <;> split <;> (try split) <;> rfl

/-- The report changes only where the frontier moves on. -/
theorem report_add (f : Frontier) (e : Expectation) :
    (f.add e).report = if f.furthest < e.offset then e.report else f.report := by
  unfold add
  cases e.label? with
  | none => simp only [advance]; split <;> rfl
  | some t =>
    simp only [advance, addLabel]
    split <;> split <;> (try split) <;> rfl

theorem le_furthest {expectations : List Expectation} (member : e ∈ expectations) :
    e.offset ≤ (Frontier.of expectations).furthest := by
  induction expectations with
  | nil => contradiction
  | cons d earlier ih =>
    rw [of_cons, furthest_add]
    rcases List.mem_cons.1 member with rfl | member
    · split <;> omega
    · have := ih member
      split <;> omega

/-- Later expectations leave the frontier where it was, or one of them lies farther and moves it there. -/
theorem of_append_cases (new old : List Expectation) :
    ((Frontier.of (new ++ old)).furthest = (Frontier.of old).furthest ∧
      (Frontier.of (new ++ old)).report = (Frontier.of old).report) ∨
    ∃ e ∈ new, (Frontier.of old).furthest < e.offset ∧
      (Frontier.of (new ++ old)).furthest = e.offset ∧ (Frontier.of (new ++ old)).report = e.report := by
  induction new with
  | nil => exact .inl ⟨rfl, rfl⟩
  | cons e earlier ih =>
    rw [List.cons_append, of_cons, furthest_add, report_add]
    by_cases farther : (Frontier.of (earlier ++ old)).furthest < e.offset
    · rw [if_pos farther, if_pos farther]
      refine .inr ⟨e, List.mem_cons_self, ?_, rfl, rfl⟩
      rcases ih with ⟨same, _⟩ | ⟨d, _, beyond, same, _⟩ <;> omega
    · rw [if_neg farther, if_neg farther]
      rcases ih with kept | ⟨d, member, moved⟩
      · exact .inl kept
      · exact .inr ⟨d, List.mem_cons_of_mem _ member, moved⟩

/-- The frontier lies at an expectation and is reported where that one is, if none lies before the text. -/
theorem exists_furthest {expectations : List Expectation} (filled : expectations ≠ [])
    (within : ∀ e ∈ expectations, 0 ≤ e.offset) :
    ∃ e ∈ expectations, (Frontier.of expectations).furthest = e.offset ∧
      (Frontier.of expectations).report = e.report := by
  have cases := of_append_cases expectations []
  rw [List.append_nil] at cases
  rcases cases with ⟨before, _⟩ | ⟨e, member, _, moved⟩
  · obtain ⟨e, member⟩ := List.exists_mem_of_ne_nil _ filled
    have inside := within e member
    have near := le_furthest member
    simp only [of_nil, start] at before
    omega
  · exact ⟨e, member, moved⟩

theorem furthest_lt {expectations : List Expectation} {bound : Nat}
    (short : ∀ e ∈ expectations, e.offset < bound) : (Frontier.of expectations).furthest < bound := by
  induction expectations with
  | nil =>
    simp only [of_nil, start]
    omega
  | cons d earlier ih =>
    have later := ih fun e member => short e (List.mem_cons_of_mem _ member)
    have := short d List.mem_cons_self
    rw [of_cons, furthest_add]
    split <;> omega

/-- A farther expectation opens the same new frontier, whatever the old one was. -/
theorem add_of_lt {f' : Frontier} (farther : f.furthest < e.offset) (farther' : f'.furthest < e.offset) :
    f.add e = f'.add e := by
  simp only [add, advance, if_pos farther, if_pos farther']

/-- Expectations that all lie before the later ones leave no trace. -/
theorem of_append {new old : List Expectation} (filled : new ≠ []) (within : ∀ e ∈ new, 0 ≤ e.offset)
    (short : ∀ d ∈ old, ∀ e ∈ new, d.offset < e.offset) : Frontier.of (new ++ old) = Frontier.of new := by
  induction new with
  | nil => contradiction
  | cons e earlier ih =>
    rw [List.cons_append, of_cons, of_cons]
    cases earlier with
    | nil =>
      obtain ⟨offset, here⟩ := Int.eq_ofNat_of_zero_le (within e List.mem_cons_self)
      have before : (Frontier.of old).furthest < offset :=
        furthest_lt fun d member => here ▸ short d member e List.mem_cons_self
      refine add_of_lt (here ▸ before) ?_
      simp only [of_nil, start]
      omega
    | cons f earlier =>
      rw [ih (List.cons_ne_nil _ _) (fun e member => within e (List.mem_cons_of_mem _ member))
        fun d old e member => short d old e (List.mem_cons_of_mem _ member)]

/-! ## What is expected at a frontier -/

/-- A farther expectation leaves none of the earlier labels, and one at the frontier adds its own. -/
theorem mem_expected_add {label : Text} : label ∈ (f.add e).expected ↔
    ¬ f.furthest < e.offset ∧ label ∈ f.expected ∨ f.furthest ≤ e.offset ∧ e.label? = some label := by
  unfold add
  rcases Int.lt_trichotomy f.furthest e.offset with farther | here | nearer
  · rw [advance, if_pos farther]
    cases e.label? with
    | none => simp [farther]
    | some t => simp [addLabel, farther, Int.le_of_lt farther, eq_comm]
  · rw [advance, if_neg (by omega)]
    cases e.label? with
    | none => simp [here]
    | some t =>
      by_cases known : t ∈ f.expected
      · have same : t = label → label ∈ f.expected := fun same => same ▸ known
        simpa [addLabel, here, known] using same
      · simp [addLabel, here, known, eq_comm]
  · rw [advance, if_neg (by omega)]
    have differ : ¬ f.furthest = e.offset := by omega
    cases e.label? with
    | none => simp [Int.not_lt.2 (Int.le_of_lt nearer)]
    | some t => simp [differ, Int.not_lt.2 (Int.le_of_lt nearer), Int.not_le.2 nearer]

/-- The labels of a frontier are those of the expectations that lie there. -/
theorem mem_expected_iff {expectations : List Expectation} {label : Text} :
    label ∈ (Frontier.of expectations).expected ↔
      ∃ e ∈ expectations, e.offset = (Frontier.of expectations).furthest ∧ e.label? = some label := by
  induction expectations with
  | nil => simp [start]
  | cons e earlier ih =>
    rw [of_cons, mem_expected_add, furthest_add, ih]
    constructor
    · rintro (⟨kept, d, member, here, given⟩ | ⟨beyond, given⟩)
      · exact ⟨d, List.mem_cons_of_mem _ member, by rw [if_neg kept, here], given⟩
      · exact ⟨e, List.mem_cons_self, by split <;> omega, given⟩
    · rintro ⟨d, member, here, given⟩
      rcases List.mem_cons.1 member with rfl | member
      · exact .inr ⟨by split at here <;> omega, given⟩
      · have near := le_furthest member
        have kept : ¬ (Frontier.of earlier).furthest < e.offset := by split at here <;> omega
        rw [if_neg kept] at here
        exact .inl ⟨kept, d, member, here, given⟩

theorem nodup_expected (expectations : List Expectation) : (Frontier.of expectations).expected.Nodup := by
  induction expectations with
  | nil => exact List.nodup_nil
  | cons e earlier ih =>
    have advanced : ((Frontier.of earlier).advance e).expected.Nodup := by
      rw [advance]
      split
      · exact List.nodup_nil
      · exact ih
    rw [of_cons, add]
    cases e.label? with
    | none => exact advanced
    | some t =>
      simp only
      split
      · rw [addLabel]
        split
        · exact advanced
        · next unknown =>
          refine List.nodup_append.2 ⟨advanced, List.pairwise_singleton _ t, fun label known other same => ?_⟩
          rw [List.mem_singleton.1 same]
          rintro rfl
          exact unknown known
      · exact advanced

/-! ## Moved frontiers -/

/-- The second frontier is the first one that many code points farther, and `ends` relates the places where
they are reported. As long as the first one lies before its text, the second one may lie anywhere before the
moved text. -/
def Moved (width : Nat) (ends : Nat → Nat → Prop) (f f' : Frontier) : Prop :=
  (f.furthest < 0 ∧ f'.furthest < width) ∨
    (f'.furthest = f.furthest + width ∧ f'.expected = f.expected ∧ ends f.report f'.report)

theorem addLabel_expected_congr {f' : Frontier} (same : f'.expected = f.expected) (t : Text) :
    (f'.addLabel t).expected = (f.addLabel t).expected := by
  simp only [addLabel, same]
  split
  · exact same
  · rfl

theorem addLabel_furthest (f : Frontier) (t : Text) : (f.addLabel t).furthest = f.furthest := by
  unfold addLabel
  split <;> rfl

theorem addLabel_report (f : Frontier) (t : Text) : (f.addLabel t).report = f.report := by
  unfold addLabel
  split <;> rfl

/-- A moved expectation keeps a frontier moved. -/
theorem Moved.add {width : Nat} {ends : Nat → Nat → Prop} {f' : Frontier} {e' : Expectation}
    (moved : Moved width ends f f') (label : e'.label = e.label) (offset : e'.offset = e.offset + width)
    (inside : 0 ≤ e.offset) (report : ends e.report e'.report) : Moved width ends (f.add e) (f'.add e') := by
  right
  have advanced : (f'.advance e').furthest = (f.advance e).furthest + width ∧
      (f'.advance e').expected = (f.advance e).expected ∧
      ends (f.advance e).report (f'.advance e').report := by
    rcases moved with ⟨before, short⟩ | ⟨furthest, expected, reported⟩
    · rw [advance, advance, if_pos (by omega), if_pos (by omega)]
      exact ⟨offset, rfl, report⟩
    · rw [advance, advance]
      by_cases farther : f.furthest < e.offset
      · rw [if_pos farther, if_pos (by omega)]
        exact ⟨offset, rfl, report⟩
      · rw [if_neg farther, if_neg (by omega)]
        exact ⟨furthest, expected, reported⟩
  obtain ⟨furthest, expected, reported⟩ := advanced
  have same : e'.label? = e.label? := by rw [Expectation.label?, Expectation.label?, label]
  simp only [Frontier.add, same]
  cases e.label? with
  | none => exact ⟨furthest, expected, reported⟩
  | some t =>
    by_cases met : (f.advance e).furthest = e.offset
    · have met' : (f'.advance e').furthest = e'.offset := by omega
      simp only [met, met', if_true, addLabel_furthest, addLabel_report]
      exact ⟨offset, addLabel_expected_congr expected t, reported⟩
    · have unmet : ¬ (f'.advance e').furthest = e'.offset := by omega
      simp only [met, unmet, if_false]
      exact ⟨furthest, expected, reported⟩

end Frontier

/-- A failure is found where one of the expectations lies, and it is reported where that one is. -/
theorem Reader.exists_frontierOffset {s : State} (filled : s.expectations ≠ [])
    (within : ∀ e ∈ s.expectations, 0 ≤ e.offset) :
    ∃ e ∈ s.expectations, ((frontierOffsets s).1 : Int) = e.offset ∧ (frontierOffsets s).2 = e.report := by
  obtain ⟨e, member, here, reported⟩ := Frontier.exists_furthest filled within
  have := within e member
  refine ⟨e, member, ?_⟩
  rw [frontierOffsets, State.frontier, here, reported, if_neg (by omega)]
  exact ⟨by simp only; omega, rfl⟩

theorem Source.describe_append (front source : Text) (offset : Nat) :
    Source.describe (front ++ source) (offset + front.length) = Source.describe source offset := by
  rw [Source.describe, Source.describe, Nat.add_comm, List.drop_length_add_append]

/-- What is said about a failure does not depend on what stands before the text. -/
theorem Reader.diagnose_of_ends {front source : Text} {ends : Nat → Nat → Prop} {s s' : State}
    (moved : Frontier.Moved front.length ends s.frontier s'.frontier) (met : 0 ≤ s.frontier.furthest)
    (name : Text) :
    (diagnose name (front ++ source) s').expected = (diagnose name source s).expected ∧
      (diagnose name (front ++ source) s').found = (diagnose name source s).found ∧
      ends (frontierOffsets s).2 (frontierOffsets s').2 := by
  rcases moved with ⟨before, _⟩ | ⟨furthest, expected, reported⟩
  · omega
  · have there : (s.frontier.furthest + front.length).toNat = s.frontier.furthest.toNat + front.length := by
      omega
    simp only [diagnose, frontierOffsets, furthest, if_neg (by omega : ¬ s.frontier.furthest < 0),
      if_neg (by omega : ¬ s.frontier.furthest + front.length < 0), there, Source.describe_append]
    exact ⟨expected, trivial, reported⟩

end Schemata
