import Mathlib
import Schemata.Proofs.Reading.Exclusive
import Schemata.Proofs.Reading.Frontier
import Schemata.Proofs.Reading.Run

/-! # The order of the kinds of statements

The kinds of statements exclude each other, so it does not matter in which order they are tried. The same
texts are accepted with the same statements; and a text that is not accepted is rejected at the same place,
for the same token found there and the same things expected, which may be listed in another order.
-/

namespace Schemata

open Reader

/-! ## Failures that are told alike -/

/-- The frontiers differ at most in the order of what is expected. -/
structure Frontier.Alike (f f' : Frontier) : Prop where
  furthest : f.furthest = f'.furthest
  report : f.report = f'.report
  expected : f.expected.Perm f'.expected

theorem Frontier.Alike.refl (f : Frontier) : f.Alike f := ⟨rfl, rfl, .refl _⟩

/-- The frontier depends only on which expectations are new, if those at one offset blame one place. -/
theorem Frontier.alike_of_mem_iff {new new' old : List Expectation} (same : ∀ e, e ∈ new ↔ e ∈ new')
    (placed : ∀ e ∈ new, ∀ d ∈ new, e.offset = d.offset → e.report = d.report) :
    (Frontier.of (new ++ old)).Alike (Frontier.of (new' ++ old)) := by
  have near {e : Expectation} (member : e ∈ new) : e.offset ≤ (Frontier.of (new ++ old)).furthest :=
    le_furthest (List.mem_append_left _ member)
  have near' {e : Expectation} (member : e ∈ new) : e.offset ≤ (Frontier.of (new' ++ old)).furthest :=
    le_furthest (List.mem_append_left _ ((same e).1 member))
  have places : (Frontier.of (new ++ old)).furthest = (Frontier.of (new' ++ old)).furthest ∧
      (Frontier.of (new ++ old)).report = (Frontier.of (new' ++ old)).report := by
    rcases of_append_cases new old with ⟨kept, report⟩ | ⟨e, member, beyond, here, report⟩ <;>
      rcases of_append_cases new' old with ⟨kept', report'⟩ | ⟨d, member', beyond', here', report'⟩
    · exact ⟨kept.trans kept'.symm, report.trans report'.symm⟩
    · have := near ((same d).2 member')
      omega
    · have := near' member
      omega
    · have listed := (same d).2 member'
      have offset : e.offset = d.offset := by
        have := near listed
        have := near' member
        omega
      exact ⟨by omega, by rw [report, report', placed e member d listed offset]⟩
  refine ⟨places.1, places.2, ?_⟩
  refine (List.perm_ext_iff_of_nodup (nodup_expected _) (nodup_expected _)).2 fun label => ?_
  simp only [mem_expected_iff, List.mem_append, same, places.1]

/-- The states tell the same failure, except for the order of what is expected. -/
structure State.Alike (s s' : State) : Prop where
  cursor : s.cursor = s'.cursor
  frontier : s.frontier.Alike s'.frontier

/-- The errors differ at most in the order of what is expected. -/
structure SyntaxError.Alike (error error' : SyntaxError) : Prop where
  same : error = { error' with expected := error.expected }
  expected : error.expected.Perm error'.expected

theorem State.Alike.diagnose {s s' : State} (alike : s.Alike s') (name source : Text) :
    (diagnose name source s).Alike (diagnose name source s') := by
  obtain ⟨cursor, furthest, report, expected⟩ := alike
  have places : frontierOffsets s = frontierOffsets s' := by
    rw [frontierOffsets, frontierOffsets, cursor, furthest, report]
  exact ⟨by simp only [Reader.diagnose, places], expected⟩

/-! ## Runs that agree -/

/-- The state after calls that are nested too deep, with what is expected then. -/
def State.tooDeep (s : State) : State := s.expecting (some "less deeply nested expression") s.cursor.offset

/-- The runs have the same result, and where they fail they tell the same failure. -/
structure Agree {α : Type} (o o' : Except Failure α × State) : Prop where
  result : o.1 = o'.1
  proper : ∀ failure, o.1 = .error failure → (∀ fault, failure ≠ .fault fault) → o.2.Alike o'.2
  tooDeep : o.1 = .error (.fault .tooDeep) → o.2.tooDeep.Alike o'.2.tooDeep

section Runs

variable {α β : Type} {source : Text} {s s' : State}

theorem Agree.ok (a : α) (s s' : State) : Agree (.ok a, s) (.ok a, s') :=
  ⟨rfl, fun _ => by simp, by simp⟩

theorem Agree.bind {p p' : Reader α} {f f' : α → Reader β} (first : Agree (p source s) (p' source s'))
    (second : ∀ a t t', p source s = (.ok a, t) → p' source s' = (.ok a, t') →
      Agree (f a source t) (f' a source t')) :
    Agree ((p >>= f) source s) ((p' >>= f') source s') := by
  rw [bind_apply, bind_apply]
  cases run : p source s with
  | mk result t =>
    cases run' : p' source s' with
    | mk result' t' =>
      rw [run, run'] at first
      obtain rfl : result = result' := first.result
      cases result with
      | ok a => exact second a t t' run run'
      | error failure =>
        refine ⟨rfl, fun other failed proper => ?_, fun failed => ?_⟩
        · cases failed
          exact first.proper failure rfl proper
        · cases failed
          exact first.tooDeep rfl

end Runs

/-! ## One statement -/

namespace State

variable {t u : State} {offset : Int} {earlier : List Expectation}

/-- What lies before all of a state is not seen in its frontier. -/
theorem Past.frontier_eq (inside : u.Past (-1)) (filled : u.expectations ≠ [])
    (added : t.expectations = u.expectations ++ earlier) (past : ∀ e ∈ earlier, u.Past e.offset) :
    t.frontier = u.frontier := by
  have within : ∀ e ∈ u.expectations, 0 ≤ e.offset := fun e member => by
    have := inside.expectations e member
    omega
  rw [frontier, frontier, added]
  exact Frontier.of_append filled within fun e old => (past e old).expectations

theorem Past.tooDeep (past : u.Past offset) : u.tooDeep.Past offset :=
  ⟨past.cursor, List.forall_mem_cons.2 ⟨past.cursor, past.expectations⟩⟩

theorem tooDeep_append (cursor : t.cursor = u.cursor) (added : t.expectations = u.expectations ++ earlier) :
    t.tooDeep.expectations = u.tooDeep.expectations ++ earlier := by
  rw [tooDeep, tooDeep, expecting, expecting, added, cursor]
  rfl

end State

/-- Everything on record lies before the cursor. -/
def State.Behind (s : State) : Prop := ∀ e ∈ s.expectations, e.offset < s.cursor.offset

namespace Reader

variable {source : Text} {s s' t : State} {p : Reader Statement} {c : Cursor} {e : Expectation}
  {o o' : Except Failure Statement × State}

/-- Where a statement is read, everything that was expected lies before the next one. -/
theorem behind_of_statement {statement : Statement} (near : ∀ e ∈ s.expectations, e.offset ≤ s.cursor.offset)
    (run : choice statementKinds source s = (.ok statement, t)) : t.Behind := by
  have tracks := Tracks.choice (viable_statement _) statement_tracks
  obtain ⟨tokens, phrase, covers⟩ := (tracks.each source s).reads statement t run
  obtain ⟨moved, inside⟩ := choice_moves run
  obtain ⟨front, last, rfl, reaches⟩ := reaches_statement phrase (Nat.le_refl _)
  obtain ⟨w, before, single⟩ := (covers.laid inside).split
  cases single with
  | @cons _ _ chunk gap u _ spelt between past =>
    have here : At source s (source.drop s.cursor.offset) := ⟨rfl, by rw [List.length_drop]; omega⟩
    obtain ⟨final, reads⟩ := reaches chunk (gap ++ u) _ spelt before
    obtain ⟨s₁, there, ⟨new, added, short⟩, ends⟩ := reads source s here
    cases measured : Layout.length? (source.drop (s₁.cursor.offset + chunk.length)) with
    | none =>
      obtain ⟨offset, s₂, stopped, _⟩ := ends.opened measured
      cases run.symm.trans stopped
    | some gap' =>
      obtain ⟨s₂, read, expectations, cursor⟩ := ends.closed gap' measured
      cases run.symm.trans read
      have filled : 0 < chunk.length := List.length_pos_iff.2 (Text.ne_nil_of_isSign spelt.isSign)
      have width := there.inside
      rw [List.length_append] at width
      intro e member
      rw [expectations, added] at member
      rw [cursor]
      simp only
      rcases List.mem_append.1 member with member | member
      · have := short e member
        rw [List.length_append] at this
        omega
      · have := near e member
        rw [cursor] at moved
        simp only at moved
        omega

/-- A reader that walks expects and ends no earlier than where it starts. -/
theorem past_of_walks (walks : Walks p) {offset : Int} (short : offset < c.offset) :
    (outcome p source c).2.Past offset := by
  obtain ⟨route, ⟨new, added, met⟩, _, _⟩ := walks source c.fresh
  have fresh : (outcome p source c).2.expectations = new := by
    rw [outcome, added]
    exact List.append_nil new
  refine ⟨?_, fun e member => ?_⟩
  · have forward : c.offset ≤ (outcome p source c).2.cursor.offset := route.forward
    omega
  · rw [fresh] at member
    have forward : c.offset ≤ e.cursor.offset := (met e member).route.forward
    rcases (met e member).place with here | ⟨beyond, _⟩ <;> omega

/-- All that was on record before is overshadowed by the reader that decides a choice. -/
theorem Chosen.exists_earlier (chosen : Chosen p source s o) (walks : Walks p) (behind : s.Behind) :
    ∃ earlier, o.2.expectations = (outcome p source s.cursor).2.expectations ++ earlier ∧
      ∀ e ∈ earlier, (outcome p source s.cursor).2.Past e.offset := by
  obtain ⟨earlier, expectations, past⟩ := chosen.expectations
  refine ⟨earlier ++ s.expectations, expectations, fun e member => ?_⟩
  rcases List.mem_append.1 member with member | member
  · exact past e member
  · exact past_of_walks walks (behind e member)

theorem agree_of_chosen (chosen : Chosen p source s o) (chosen' : Chosen p source s' o') (walks : Walks p)
    (here : s.cursor = s'.cursor) (behind : s.Behind) (behind' : s'.Behind) : Agree o o' := by
  obtain ⟨earlier, added, past⟩ := chosen.exists_earlier walks behind
  obtain ⟨earlier', added', past'⟩ := chosen'.exists_earlier walks behind'
  obtain ⟨_, result, cursor, _⟩ := chosen
  obtain ⟨_, result', cursor', _⟩ := chosen'
  rw [← here] at added' past' result' cursor'
  have inside : (outcome p source s.cursor).2.Past (-1) := past_of_walks walks (by omega)
  refine ⟨result.trans result'.symm, fun failure failed proper => ⟨cursor.trans cursor'.symm, ?_⟩,
    fun _ => ⟨cursor.trans cursor'.symm, ?_⟩⟩
  · have stopped : outcome p source s.cursor = (.error failure, (outcome p source s.cursor).2) :=
      Prod.ext (result.symm.trans failed) rfl
    have filled : (outcome p source s.cursor).2.expectations ≠ [] := by
      rcases (walks source s.cursor.fresh).expects failure _ stopped with ⟨fault, same⟩ | filled
      · exact absurd same (proper fault)
      · exact filled
    rw [inside.frontier_eq filled added past, inside.frontier_eq filled added' past']
    exact .refl _
  · have filled : (outcome p source s.cursor).2.tooDeep.expectations ≠ [] := List.cons_ne_nil _ _
    rw [inside.tooDeep.frontier_eq filled (State.tooDeep_append cursor added) fun e old => (past e old).tooDeep,
      inside.tooDeep.frontier_eq filled (State.tooDeep_append cursor' added') fun e old => (past' e old).tooDeep]
    exact .refl _

section Alternatives

variable {kinds : List (Reader Statement)}

theorem walks_alternatives : ∀ p ∈ alternatives statementKinds, Walks p :=
  List.forall_mem_cons.2 ⟨.failHere _, walks_statement⟩

theorem exclusive_alternatives : (alternatives statementKinds).Pairwise Exclusive :=
  pairwise_exclusive opensWith_alternatives pairwise_apart

/-- Readers that all give up miss the same things in any order. -/
theorem agree_of_abandoned {ps : List (Reader Statement)} (abandoned : Abandoned ps source s o)
    (abandoned' : Abandoned (alternatives statementKinds) source s' o')
    (same : ps.Perm (alternatives statementKinds)) (here : s.cursor = s'.cursor) (behind : s.Behind)
    (behind' : s'.Behind) : Agree o o' := by
  obtain ⟨givesUp, result, cursor, missed, added, exactly⟩ := abandoned
  obtain ⟨_, result', cursor', missed', added', exactly'⟩ := abandoned'
  rw [← here] at result' cursor' exactly'
  have member (e : Expectation) : e ∈ missed ↔ e ∈ missed' := by
    simp only [exactly, exactly', same.mem_iff]
  have nonempty : missed ≠ [] := by
    have first := same.mem_iff.2 (List.mem_cons_self (l := statementKinds))
    obtain ⟨e, gives⟩ := givesUp _ first
    exact List.ne_nil_of_mem ((exactly e).2 ⟨_, first, gives⟩)
  -- What a reader misses lies no earlier than where it starts.
  have beyond {offset : Int} (short : offset < s.cursor.offset) (e : Expectation) (inside : e ∈ missed) :
      offset < e.offset := by
    obtain ⟨p, listed, _, u, run, added⟩ := (exactly e).1 inside
    have past : (outcome p source s.cursor).2.Past offset :=
      past_of_walks (walks_alternatives p (same.mem_iff.1 listed)) short
    rw [run] at past
    exact past.expectations e (added ▸ List.mem_singleton_self e)
  have within : ∀ e ∈ missed, 0 ≤ e.offset := fun e inside => by
    have := beyond (by omega : (-1 : Int) < s.cursor.offset) e inside
    omega
  have placed : ∀ e ∈ missed, ∀ d ∈ missed, e.offset = d.offset → e.report = d.report := by
    intro e inside d inside' offset
    obtain ⟨p, listed, gives⟩ := (exactly e).1 inside
    obtain ⟨q, listed', gives'⟩ := (exactly d).1 inside'
    by_cases differ : p = q
    · subst differ
      rw [gives.unique gives']
    · exact (exclusive_of_ne exclusive_alternatives (same.mem_iff.1 listed) (same.mem_iff.1 listed')
        differ).report_eq gives gives' offset
  refine ⟨result.trans result'.symm, fun _ _ _ => ⟨cursor.trans cursor'.symm, ?_⟩, fun failed => ?_⟩
  · have front : o.2.frontier = Frontier.of missed := by
      rw [State.frontier, added]
      exact Frontier.of_append nonempty within fun d old e inside => beyond (behind d old) e inside
    have front' : o'.2.frontier = Frontier.of missed' := by
      rw [State.frontier, added']
      refine Frontier.of_append (fun nothing => ?_) (fun e inside => within e ((member e).2 inside)) ?_
      · subst nothing
        exact nonempty (List.eq_nil_iff_forall_not_mem.2 fun e inside => by simpa using (member e).1 inside)
      · intro d old e inside
        exact beyond (here ▸ behind' d old) e ((member e).2 inside)
    rw [front, front', ← List.append_nil missed, ← List.append_nil missed']
    exact Frontier.alike_of_mem_iff member placed
  · cases result.symm.trans failed

/-- Wherever a kind of statements stands among the others, it decides the choice or gives up. -/
theorem chosen_or_abandoned (same : kinds.Perm statementKinds) (here : s.cursor = s'.cursor) (source : Text) :
    (∃ p ∈ alternatives statementKinds, Chosen p source s (choice (alternatives kinds) source s) ∧
      Chosen p source s' (choice (alternatives statementKinds) source s')) ∨
    Abandoned (alternatives kinds) source s (choice (alternatives kinds) source s) ∧
      Abandoned (alternatives statementKinds) source s' (choice (alternatives statementKinds) source s') := by
  refine choice_cases_of_perm (same.cons _) (fun p member => ?_) exclusive_alternatives here source
  obtain ⟨os, _, opens⟩ := exists_opening opensWith_alternatives member
  have composed : ∀ p ∈ alternatives statementKinds, Composed p :=
    List.forall_mem_cons.2 ⟨.failHere (by decide), composed_statement⟩
  exact ⟨composed p member, os, opens⟩

theorem agree_choice (same : kinds.Perm statementKinds) (here : s.cursor = s'.cursor) (behind : s.Behind)
    (behind' : s'.Behind) :
    Agree (choice (alternatives kinds) source s) (choice (alternatives statementKinds) source s') := by
  rcases chosen_or_abandoned same here source with ⟨p, member, chosen, chosen'⟩ | ⟨abandoned, abandoned'⟩
  · exact agree_of_chosen chosen chosen' (walks_alternatives p member) here behind behind'
  · exact agree_of_abandoned abandoned abandoned' (same.cons _) here behind behind'

/-- After a statement, everything on record is left behind again. -/
theorem behind_of_choice {statement : Statement} {t' : State} (same : kinds.Perm statementKinds)
    (here : s.cursor = s'.cursor) (behind : s.Behind) (behind' : s'.Behind)
    (run : choice (alternatives kinds) source s = (.ok statement, t))
    (run' : choice (alternatives statementKinds) source s' = (.ok statement, t')) :
    t.cursor = t'.cursor ∧ t.Behind ∧ t'.Behind := by
  have near : ∀ e ∈ (s'.expecting (some "end of input") s'.cursor.offset).expectations,
      e.offset ≤ s'.cursor.offset :=
    List.forall_mem_cons.2 ⟨Int.le_refl _, fun e member => Int.le_of_lt (behind' e member)⟩
  have after' : t'.Behind := behind_of_statement near run'
  rcases chosen_or_abandoned same here source with ⟨p, member, chosen, chosen'⟩ | ⟨abandoned, _⟩
  · obtain ⟨earlier, added, past⟩ := chosen.exists_earlier (walks_alternatives p member) behind
    obtain ⟨earlier', added', _⟩ := chosen'.expectations
    obtain ⟨_, _, cursor, _⟩ := chosen
    obtain ⟨_, _, cursor', _⟩ := chosen'
    rw [run] at cursor added
    rw [run', ← here] at cursor' added'
    have there : t.cursor = t'.cursor := cursor.trans cursor'.symm
    refine ⟨there, fun e inside => ?_, after'⟩
    rw [added] at inside
    rcases List.mem_append.1 inside with inside | inside
    · rw [there]
      exact after' e (added' ▸ List.mem_append_left _ inside)
    · rw [cursor]
      exact (past e inside).cursor
  · have failed := abandoned.result
    rw [run] at failed
    cases failed

end Alternatives

/-! ## Statements -/

theorem agree_statementsWithin {kinds : List (Reader Statement)} (same : kinds.Perm statementKinds) (rounds : Nat)
    (here : s.cursor = s'.cursor) (behind : s.Behind) (behind' : s'.Behind) :
    Agree (statementsWithin kinds rounds source s) (statementsWithin statementKinds rounds source s') := by
  induction rounds generalizing s s' with
  | zero =>
    refine ⟨rfl, fun failure failed proper => ?_, fun failed => by cases failed⟩
    cases failed
    exact absurd rfl (proper .stalled)
  | succ rounds ih =>
    rw [statementsWithin_succ, statementsWithin_succ]
    by_cases ended : source.length ≤ s.cursor.offset
    · rw [if_pos ended, if_pos (here ▸ ended)]
      exact .ok [] s s'
    · rw [if_neg ended, if_neg (here ▸ ended), statementThen, statementThen]
      refine Agree.bind ?_ fun statement t t' run run' => ?_
      · rw [choice_alternatives, choice_alternatives]
        exact agree_choice same here behind behind'
      · rw [choice_alternatives] at run run'
        obtain ⟨there, after, after'⟩ := behind_of_choice same here behind behind' run run'
        refine Agree.bind (.ok () _ _) fun _ u u' noted noted' => ?_
        cases noted
        cases noted'
        refine Agree.bind (ih there after after') fun others v v' _ _ => ?_
        exact .ok (statement :: others) v v'

end Reader

/-- The results differ at most in the order of what an error says was expected. -/
inductive SameOutcome {α : Type} : Except Rejection α → Except Rejection α → Prop
  | ok (a : α) : SameOutcome (.ok a) (.ok a)
  | unexpected {error error' : SyntaxError} : error.Alike error' →
      SameOutcome (.error (.unexpected error)) (.error (.unexpected error'))
  | tooDeep {error error' : SyntaxError} : error.Alike error' →
      SameOutcome (.error (.tooDeep error)) (.error (.tooDeep error'))
  | fault (fault : Fault) : SameOutcome (.error (.fault fault)) (.error (.fault fault))

theorem Agree.sameOutcome {α : Type} {p p' : Reader α} {source : Text}
    (agree : Agree (fromStart p source State.start) (fromStart p' source State.start)) (name : Text) :
    SameOutcome (p.run name source).result (p'.run name source).result := by
  rw [run, run]
  cases first : fromStart p source State.start with
  | mk result t =>
    cases second : fromStart p' source State.start with
    | mk result' t' =>
      rw [first, second] at agree
      obtain rfl : result = result' := agree.result
      cases result with
      | ok a => exact .ok a
      | error failure =>
        cases failure with
        | backtrack offset => exact .unexpected ((agree.proper _ rfl (by simp)).diagnose name source)
        | cut offset => exact .unexpected ((agree.proper _ rfl (by simp)).diagnose name source)
        | fault fault =>
          cases fault with
          | tooDeep => exact .tooDeep ((agree.tooDeep rfl).diagnose name source)
          | _ => exact .fault _

/-- In whatever order the kinds of statements are tried, a text is read alike. -/
theorem parse_of_perm {kinds : List (Reader Statement)} (same : kinds.Perm statementKinds) (name source : Text) :
    SameOutcome ((statementsFrom kinds).run name source).result (parse name source).result := by
  rw [parse_result]
  refine Agree.sameOutcome ?_ name
  cases measured : Layout.length? source with
  | none =>
    rw [fromStart_of_open measured, fromStart_of_open measured]
    exact ⟨rfl, fun _ _ _ => ⟨rfl, .refl _⟩, by simp⟩
  | some gap =>
    rw [fromStart_of_gap measured, fromStart_of_gap measured]
    have fresh : (begun gap).Behind := fun e member => by cases member
    exact agree_statementsWithin same _ rfl fresh fresh

/-- What may follow `CREATE` is expected in the order in which the kinds are tried. -/
theorem parse_of_perm_create :
    SameOutcome
        ((statementsFrom [createEnum, createTable, createExtension, addConstraint, comment]).run "example"
          "CREATE").result
        (parse "example" "CREATE").result ∧
      ((statementsFrom [createEnum, createTable, createExtension, addConstraint, comment]).run "example"
          "CREATE").result =
        .error (.unexpected ⟨"example", 6, 1, 7, ["\"TYPE\"", "\"TABLE\"", "\"EXTENSION\""],
          some "end of input", "CREATE", some "CREATE"⟩) := by
  have same : [createEnum, createTable, createExtension, addConstraint, comment].Perm statementKinds :=
    (List.reverse_perm [createExtension, createTable, createEnum]).append_right [addConstraint, comment]
  exact ⟨parse_of_perm same "example" "CREATE", by cbv⟩

end Schemata
