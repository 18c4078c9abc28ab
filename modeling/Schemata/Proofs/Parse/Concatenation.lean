import Mathlib
import Schemata.Proofs.Parse.Soundness
import Schemata.Proofs.Reading.RelocateStatement

/-! # Schemas one after another

A text that is accepted may be followed by any other text on a new line: the run goes on with the second
text as it does on that text alone. It reads the same statements, and it finds and expects the same where
it fails. Nothing of the first text is left in the error.
-/

namespace Schemata

open Layout Reader

variable {source after : Text} {found : List Statement}

/-- Where the last token of an accepted text ends. -/
def lastTokenEnd (source : Text) : Nat := (fromStart statements source State.start).2.cursor.tokenEnd

/-- A text that ends in a token: layout, other tokens, the chunk of the last token, and a gap after it. -/
structure EndsIn (found : List Statement) (lead x chunk gap : Text) : Prop where
  closed : Closed lead
  tokens : ∃ front last, Grammar.schema nestingLimit found (front ++ [last]) ∧ last.Spells chunk gap ∧
    Laid front (x ++ (chunk ++ gap)) (chunk ++ gap)
  gap : Gap gap []

/-- An accepted text with a statement ends in a token. -/
theorem exists_endsIn (derives : Grammar.Derives nestingLimit found source) (filled : found ≠ []) :
    ∃ lead x chunk gap, source = lead ++ (x ++ (chunk ++ gap)) ∧ EndsIn found lead x chunk gap := by
  obtain ⟨tokens, lead, body, phrase, rfl, leading, laid⟩ := derives
  obtain ⟨first, rest, rfl⟩ := List.exists_cons_of_ne_nil filled
  have nonempty : tokens ≠ [] := by
    obtain ⟨front, back, statement, _, rfl⟩ := phrase
    simp [ne_nil_of_statement statement (Nat.le_refl _)]
  have closed : Closed lead := by
    rcases leading with closed | ⟨rfl, _⟩
    · exact closed
    · have := laid.length_lt nonempty
      contradiction
  obtain ⟨front, last, rfl⟩ := exists_last_of_ne_nil nonempty
  obtain ⟨w, frontLaid, single⟩ := laid.split
  obtain ⟨x, rfl, _⟩ := frontLaid.exists_prefix
  cases single with
  | @cons _ _ chunk gap _ _ spelt between past =>
    rw [past.eq_of_nil] at spelt between frontLaid ⊢
    rw [List.append_nil] at spelt frontLaid ⊢
    exact ⟨lead, x, chunk, gap, rfl, closed, ⟨front, last, phrase, spelt, frontLaid⟩, between⟩

namespace EndsIn

variable {lead x chunk gap : Text}

/-- The run on a text that ends in a token, up to that token. A new line may follow the text. -/
theorem leaves (ends : EndsIn found lead x chunk gap) (fits : after = [] ∨ ∃ t : Text, after = ('\n' : CodePoint) :: t)
    (whole : source = lead ++ (x ++ (chunk ++ (gap ++ after)))) :
    ∃ s stop new rounds, s.expectations = [] ∧ stop + (gap ++ after).length = source.length ∧
      fromStart statements source State.start = statementsWithin statementKinds rounds source s ∧
      Leaves found rounds (gap ++ after) source s stop new := by
  obtain ⟨front, last, phrase, spelt, laid⟩ := ends.tokens
  have next : last.Spells chunk (gap ++ after) := by
    rcases fits with rfl | ⟨t, rfl⟩
    · simpa using spelt
    · rw [← List.append_nil gap] at spelt
      exact spelt.newline_rest t
  have filled : chunk ++ gap ≠ [] := by
    intro nothing
    obtain ⟨rfl, _⟩ := List.append_eq_nil_iff.1 nothing
    exact absurd spelt.isSign (by decide)
  have same : (chunk ++ (gap ++ after)).head? = (chunk ++ gap).head? := by
    obtain ⟨c, tail, split⟩ := List.exists_cons_of_ne_nil filled
    rw [← List.append_assoc, split]
    rfl
  have laid := laid.replace_rest filled same
  have settled := laid.settled (Token.settled_of_isSign next.isSign _)
  have measured : length? source = some lead.length := by
    rw [whole]
    exact length?_gap_append (ends.closed.gap _) settled
  have here : At source (begun lead.length) (x ++ (chunk ++ (gap ++ after))) := by
    constructor
    · rw [whole]
      exact List.drop_left
    · rw [whole]
      exact List.length_append.symm
  have enough : (x ++ (chunk ++ (gap ++ after))).length < source.length + 1 := by
    have := here.inside
    omega
  obtain ⟨stop, new, leaves⟩ := schema_leaves phrase (Nat.le_refl _) next laid here enough
  exact ⟨_, stop, new, _, rfl, leaves.inside, fromStart_of_gap measured, leaves⟩

/-- The gap after the last token is all that follows the end of that token. -/
theorem lastTokenEnd_add (ends : EndsIn found lead x chunk gap)
    (whole : source = lead ++ (x ++ (chunk ++ gap))) :
    lastTokenEnd source + gap.length = source.length := by
  have alone : source = lead ++ (x ++ (chunk ++ (gap ++ []))) := by simpa using whole
  obtain ⟨s, stop, new, rounds, _, inside, run, leaves⟩ := ends.leaves (.inl rfl) alone
  rw [List.append_nil] at inside leaves
  have measured : length? gap = some gap.length := by
    simpa using length?_gap_append ends.gap settled_nil
  obtain ⟨s', rounds', cursor, _, enough, rest⟩ := leaves.closed _ measured
  obtain ⟨rounds', rfl⟩ : ∃ n, rounds' = n + 1 := ⟨rounds' - 1, by omega⟩
  have ended : source.length ≤ s'.cursor.offset := by
    rw [cursor]
    simp only
    omega
  have final : fromStart statements source State.start = (.ok (found ++ []), s') := by
    rw [run, rest, map_eq_pure_bind, bind_apply, statementsWithin_succ, if_pos ended]
    rfl
  rw [lastTokenEnd, final, cursor]
  exact inside

end EndsIn

/-! ## The run on the second text -/

/-- Whatever the first place is, the second one is no earlier than `floor`. -/
def From (floor : Nat) (_ place : Nat) : Prop := floor ≤ place

/-- What a run on a text becomes where other statements are read before it: their frontier leaves no trace. -/
structure Continues (before : List Statement) (width floor : Nat)
    (run run' : Except Failure (List Statement) × State) : Prop where
  ok : ∀ found t, run = (.ok found, t) → ∃ t', run' = (.ok (before ++ found), t')
  error : ∀ failure t, run = (.error failure, t) → ∃ failure' t', run' = (.error failure', t') ∧
    ((∀ fault, failure ≠ .fault fault) → ∀ fault, failure' ≠ .fault fault) ∧
      Frontier.Moved width (From floor) t.frontier t'.frontier

/-- The run on both texts succeeds exactly if the run on the second one does. -/
theorem Continues.ok_iff {before found : List Statement} {width floor : Nat}
    {run run' : Except Failure (List Statement) × State} (continues : Continues before width floor run run') :
    (∃ t', run' = (.ok found, t')) ↔ ∃ later, (∃ t, run = (.ok later, t)) ∧ found = before ++ later := by
  constructor
  · rintro ⟨t', whole⟩
    obtain ⟨result, t⟩ := run
    cases result with
    | ok later =>
      obtain ⟨_, same⟩ := continues.ok later t rfl
      cases whole.symm.trans same
      exact ⟨later, ⟨t, rfl⟩, rfl⟩
    | error failure =>
      obtain ⟨_, _, stopped, _⟩ := continues.error failure t rfl
      cases whole.symm.trans stopped
  · rintro ⟨later, ⟨t, alone⟩, rfl⟩
    exact continues.ok later t alone

section Continuation

variable {before : List Statement} {front : Text} {floor : Nat} {s : State}

/-- A run that has left everything before the second text behind. -/
theorem moved_begun {gap : Nat} (within : floor ≤ front.length) (offset : s.cursor.offset = gap + front.length)
    (tokenEnd : floor ≤ s.cursor.tokenEnd) (short : ∀ e ∈ s.expectations, e.offset < front.length) :
    State.Moved front.length (From floor) (begun gap) s := by
  refine ⟨fun place => ?_, offset, tokenEnd, .inl ⟨?_, Frontier.furthest_lt short⟩⟩
  · exact Nat.le_trans within (Nat.le_add_left _ _)
  · simp [begun, State.frontier, Frontier.start]

/-- The run reaches the first token of the second text. -/
theorem continues_of_gap {gap n : Nat} (measured : length? source = some gap)
    (moved : State.Moved front.length (From floor) (begun gap) s) (enough : source.length - gap < n)
    (run : fromStart statements (front ++ source) State.start =
      ((before ++ ·) <$> statementsWithin statementKinds n) (front ++ source) s) :
    Continues before front.length floor (fromStart statements source State.start)
      (fromStart statements (front ++ source) State.start) := by
  have own : source.length - (begun gap).cursor.offset < source.length + 1 := by omega
  have echoes := echoes_statementsWithin moved own enough
  have alone : fromStart statements source State.start =
      statementsWithin statementKinds (source.length + 1) source (begun gap) := fromStart_of_gap measured
  constructor
  · intro found t success
    rw [← alone, success] at echoes
    obtain ⟨t', success', _⟩ := echoes.exists_of_ok
    refine ⟨t', ?_⟩
    rw [run, map_eq_pure_bind, bind_apply, success']
    rfl
  · intro failure t stopped
    rw [← alone, stopped] at echoes
    obtain ⟨t', stopped', final⟩ := echoes.exists_of_error
    refine ⟨_, t', run.trans (map_apply_error _ stopped'), fun proper => ?_, final.frontier⟩
    cases failure with
    | backtrack offset => simp [Failure.moved]
    | cut offset => simp [Failure.moved]
    | fault fault => exact absurd rfl (proper fault)

/-- An open block comment hides all of the second text. -/
theorem continues_of_open {cursor : Cursor} {earlier : List Expectation} {failure : Failure}
    (unmeasured : length? source = none) (proper : ∀ fault, failure ≠ .fault fault)
    (run : fromStart statements (front ++ source) State.start = (.error failure, s))
    (expectations : s.expectations =
      ⟨some (inQuotes "*/"), (front ++ source).length, cursor⟩ :: earlier)
    (short : ∀ e ∈ earlier, e.offset < front.length)
    (report : floor ≤ Expectation.report ⟨some (inQuotes "*/"), (front ++ source).length, cursor⟩) :
    Continues before front.length floor (fromStart statements source State.start)
      (fromStart statements (front ++ source) State.start) := by
  rw [fromStart_of_open unmeasured]
  constructor
  · intro found t success
    cases success
  · intro _ _ stopped
    cases stopped
    refine ⟨failure, s, run, fun _ => proper, ?_⟩
    have hidden : Frontier.Moved front.length (From floor) Frontier.start (Frontier.of earlier) :=
      .inl ⟨by decide, Frontier.furthest_lt short⟩
    rw [State.frontier, State.frontier, expectations, Frontier.of_cons]
    refine hidden.add (e := ⟨some (inQuotes "*/"), source.length, ⟨0, 0⟩⟩) ?_ ?_ (Int.natCast_nonneg _) report
    · rfl
    · rw [List.length_append]
      simp only
      omega

end Continuation

/-- Layout alone is followed by another text. -/
theorem continues_of_layout {lead : Text} (layout : Gap lead []) (source : Text) :
    Continues [] (lead ++ [('\n' : CodePoint)]).length (lastTokenEnd lead)
      (fromStart statements source State.start)
      (fromStart statements ((lead ++ [('\n' : CodePoint)]) ++ source) State.start) := by
  have closed := layout.closed_newline
  have alone : length? lead = some lead.length := by
    simpa using length?_gap_append layout settled_nil
  have stop : lastTokenEnd lead = lead.length := by
    have run : fromStart statements lead State.start = (.ok [], begun lead.length) := by
      rw [fromStart_of_gap alone]
      exact (statementsWithin_succ _ _ _ _).trans (if_pos (Nat.le_refl _))
    rw [lastTokenEnd, run]
    rfl
  have width : (lead ++ [('\n' : CodePoint)]).length = lead.length + 1 := by simp
  have total := measure_closed_append closed source
  rw [stop]
  cases measured : length? source with
  | some gap =>
    rw [measured] at total
    have short : ∀ e ∈ (begun (gap + (lead ++ [('\n' : CodePoint)]).length)).expectations,
        e.offset < (lead ++ [('\n' : CodePoint)]).length := by simp [begun]
    have within : lead.length ≤ (lead ++ [('\n' : CodePoint)]).length := by omega
    have moved := moved_begun within rfl (Nat.le_trans within (Nat.le_add_left _ gap)) short
    refine continues_of_gap (n := ((lead ++ [('\n' : CodePoint)]) ++ source).length + 1) measured moved ?_
      ((fromStart_of_gap total).trans ?_)
    · rw [List.length_append]
      omega
    · simp only [List.nil_append, id_map']
      rfl
  | none =>
    rw [measured] at total
    refine continues_of_open measured ?_ (fromStart_of_open total) rfl ?_ ?_
    · simp
    · simp [State.start]
    · simp only [Expectation.report, State.start, List.length_append, width]
      split <;> omega

/-- A text that ends in a token is followed by another text. -/
theorem EndsIn.continues {before : List Statement} {lead x chunk gap : Text}
    (ends : EndsIn before lead x chunk gap) (whole : source = lead ++ (x ++ (chunk ++ gap))) (second : Text) :
    Continues before (source ++ [('\n' : CodePoint)]).length (lastTokenEnd source)
      (fromStart statements second State.start)
      (fromStart statements ((source ++ [('\n' : CodePoint)]) ++ second) State.start) := by
  have stop := ends.lastTokenEnd_add whole
  have joined : (source ++ [('\n' : CodePoint)]) ++ second =
      lead ++ (x ++ (chunk ++ (gap ++ ('\n' : CodePoint) :: second))) := by
    rw [whole]
    simp
  obtain ⟨s, stop', new, rounds, fresh, inside, run, leaves⟩ := ends.leaves (.inr ⟨second, rfl⟩) joined
  have total := measure_closed_append ends.gap.closed_newline second
  have same : (gap ++ [('\n' : CodePoint)]) ++ second = gap ++ ('\n' : CodePoint) :: second := by simp
  rw [same] at total
  have place : stop' = lastTokenEnd source := by
    simp only [List.length_append, List.length_cons, List.length_nil] at inside
    omega
  subst place
  have width : (source ++ [('\n' : CodePoint)]).length = source.length + 1 := by simp
  have added : (gap ++ [('\n' : CodePoint)]).length = gap.length + 1 := by simp
  have short : ∀ e ∈ new ++ s.expectations, e.offset < (source ++ [('\n' : CodePoint)]).length := by
    intro e member
    rw [fresh, List.append_nil] at member
    have := leaves.short e member
    omega
  cases measured : length? second with
  | some further =>
    rw [measured] at total
    obtain ⟨s', rounds', cursor, expectations, enough, rest⟩ := leaves.closed _ total
    have short' := length?_le measured
    have moved : State.Moved (source ++ [('\n' : CodePoint)]).length (From (lastTokenEnd source))
        (begun further) s' := by
      have offset := congrArg Cursor.offset cursor
      have tokenEnd := congrArg Cursor.tokenEnd cursor
      simp only at offset tokenEnd
      exact moved_begun (by omega) (by omega) (by omega) (expectations ▸ short)
    refine continues_of_gap measured moved ?_ (run.trans rest)
    simp only [List.length_append, List.length_cons, List.length_nil] at enough
    omega
  | none =>
    rw [measured] at total
    obtain ⟨failure, s', proper, stopped, expectations⟩ := leaves.opened total
    apply continues_of_open measured proper (run.trans stopped) expectations short
    simp only [Expectation.report]
    split
    · exact Nat.le_refl _
    · simp only [List.length_append]
      omega

theorem continues_of_fromStart {before : List Statement} {t : State}
    (success : fromStart statements source State.start = (.ok before, t)) (second : Text) :
    Continues before (source ++ [('\n' : CodePoint)]).length (lastTokenEnd source)
      (fromStart statements second State.start)
      (fromStart statements ((source ++ [('\n' : CodePoint)]) ++ second) State.start) := by
  have derives := derives_of_fromStart success
  cases before with
  | nil =>
    obtain ⟨tokens, lead, body, phrase, rfl, leading, laid⟩ := derives
    obtain rfl : tokens = [] := phrase
    obtain rfl := laid.eq_of_nil
    rw [List.append_nil]
    exact continues_of_layout leading second
  | cons statement before =>
    obtain ⟨lead, x, chunk, gap, whole, ends⟩ := exists_endsIn derives (by simp)
    exact ends.continues whole second

/-- A run that fails has expected something. -/
theorem furthest_nonneg_of_error {failure : Failure} {t : State}
    (stopped : fromStart statements source State.start = (.error failure, t)) : 0 ≤ t.frontier.furthest := by
  cases measured : length? source with
  | none =>
    rw [fromStart_of_open measured] at stopped
    cases stopped
    exact Int.le_trans (Int.natCast_nonneg source.length) (Frontier.le_furthest List.mem_cons_self)
  | some gap =>
    rw [fromStart_of_gap measured] at stopped
    obtain ⟨_, new, added⟩ := expectations_of_statements stopped
    have met : ⟨some "end of input", gap, ⟨gap, gap⟩⟩ ∈ t.expectations := by
      rw [added]
      exact List.mem_append_right _ List.mem_cons_self
    exact Int.le_trans (Int.natCast_nonneg gap) (Frontier.le_furthest met)

/-- A moved failure says the same and is reported no earlier than `floor`. -/
theorem diagnose_of_moved {front : Text} {floor : Nat} {s s' : State}
    (moved : Frontier.Moved front.length (From floor) s.frontier s'.frontier)
    (met : 0 ≤ s.frontier.furthest) (name : Text) :
    (diagnose name (front ++ source) s').expected = (diagnose name source s).expected ∧
      (diagnose name (front ++ source) s').found = (diagnose name source s).found ∧
      (floor : Int) ≤ (diagnose name (front ++ source) s').offset := by
  obtain ⟨expected, described, reported⟩ := diagnose_of_ends moved met name
  exact ⟨expected, described, Int.ofNat_le.2 reported⟩

/-- Another text on a new line is read as it is alone, and it fails as it does alone, after the last token of
the first text. -/
theorem parse_append_newline {name first second : Text} {before : List Statement}
    (accepted : (parse name first).result = .ok before) :
    (∀ found, (parse name (first ++ text "\n" ++ second)).result = .ok found ↔
        ∃ after, (parse name second).result = .ok after ∧ found = before ++ after) ∧
      ∀ e, (parse name second).result = .error (.unexpected e) →
        ∃ e', (parse name (first ++ text "\n" ++ second)).result = .error (.unexpected e') ∧
          e'.expected = e.expected ∧ e'.found = e.found ∧ lastTokenEnd first ≤ e'.offset := by
  obtain ⟨t, success⟩ := parse_eq_ok_iff.1 accepted
  have continues := continues_of_fromStart success second
  have lineEnd : text "\n" = [('\n' : CodePoint)] := rfl
  rw [lineEnd]
  constructor
  · intro found
    simp only [parse_eq_ok_iff]
    exact continues.ok_iff
  · intro e rejected
    obtain ⟨failure, u, alone, proper, rfl⟩ := parse_eq_unexpected_iff.1 rejected
    obtain ⟨failure', u', whole, kept, moved⟩ := continues.error failure u alone
    obtain ⟨expected, described, reported⟩ := diagnose_of_moved moved (furthest_nonneg_of_error alone) name
    exact ⟨_, parse_eq_unexpected_iff.2 ⟨failure', u', whole, kept proper, rfl⟩, expected, described, reported⟩

/-- A comment runs to the end of its line, and an open comment after it is reported there. -/
theorem parse_append_newline_comments :
    (parse "example" "-- a // b").result = .ok [.comment "a // b"] ∧
      (parse "example" (text "-- a // b" ++ text "\n" ++ text "-- c")).result =
        .ok [.comment "a // b", .comment "c"] ∧
      ∃ e, (parse "example" (text "-- a // b" ++ text "\n" ++ text "/* c")).result = .error (.unexpected e) ∧
        e.expected = [text "\"*/\""] ∧ e.found = some "end of input" ∧ 9 ≤ e.offset := by
  have accepted : (parse "example" "-- a // b").result = .ok [.comment "a // b"] := by cbv
  have second : (parse "example" "-- c").result = .ok [.comment "c"] := by cbv
  have rejected : (parse "example" "/* c").result = .error (.unexpected
      ⟨"example", 4, 1, 5, ["\"*/\""], some "end of input", "/* c", some "/* c"⟩) := by cbv
  have place : lastTokenEnd "-- a // b" = 9 := by cbv
  refine ⟨accepted, ((parse_append_newline accepted).1 _).2 ⟨_, second, rfl⟩, ?_⟩
  obtain ⟨e, whole, expected, described, reported⟩ := (parse_append_newline accepted).2 _ rejected
  rw [place] at reported
  exact ⟨e, whole, expected, described, reported⟩

end Schemata
