import Schemata.Proofs.Reading.AcceptStatement
import Schemata.Proofs.Reading.Run

/-! # Reading schemas back

Statements that are laid out one after another are read one after another, whatever follows the last of
them.
-/

namespace Schemata

open Layout

namespace Reader

variable {h t u v rest : Text} {tokens : List Token} {limit : Nat}

/-- What a statement does up to its last token, and what the layout after that decides. -/
theorem reaches_statement {statement : Statement} (phrase : Grammar.statement limit statement tokens)
    (deep : limit ≤ nestingLimit) :
    ∃ front last, tokens = front ++ [last] ∧ ∀ chunk after t, last.Spells chunk after →
      Laid front t (chunk ++ after) → ∃ final, Reaches (chunk ++ after) (choice statementKinds) t
        (chunk ++ after) (Finishes final chunk.length statement) := by
  cases statement with
  | createExtension name ifNotExists =>
    obtain ⟨rfl, guard, listed, rfl⟩ := phrase
    refine ⟨Grammar.keywords ["CREATE", "EXTENSION"] ++ (guard ++ [.literal '"' name]), .sign ";",
      by simp, fun chunk after t spelt laid => ⟨true, ?_⟩⟩
    exact (reaches_createExtension listed spelt laid).choice_head
  | createTable name columns =>
    obtain ⟨schema, listed, inner, phrase, rfl⟩ := phrase
    refine ⟨Grammar.keywords ["CREATE", "TABLE"] ++ (schema ++ (.name name :: .sign "(" ::
      (inner ++ [.sign ")"]))), .sign ";", by simp, fun chunk after t spelt laid => ⟨true, ?_⟩⟩
    have ahead := ahead_of_spells spelt
    apply Reaches.choice (halts_kind laid ahead (by decide) (by decide))
    exact (reaches_createTable deep listed phrase spelt laid).choice_head
  | createEnum name values =>
    obtain ⟨inner, phrase, rfl⟩ := phrase
    refine ⟨Grammar.keywords ["CREATE", "TYPE"] ++ (.name name :: (Grammar.keywords ["AS", "ENUM"] ++
      (.sign "(" :: (inner ++ [.sign ")"])))), .sign ";", by simp, fun chunk after t spelt laid => ⟨true, ?_⟩⟩
    have ahead := ahead_of_spells spelt
    apply Reaches.choice (halts_kind laid ahead (by decide) (by decide))
    apply Reaches.choice (halts_kind laid ahead (by decide) (by decide))
    exact (reaches_createEnum phrase spelt laid).choice_head
  | addConstraint table name constraint =>
    cases constraint with
    | other value => cases phrase
    | foreignKey key =>
      obtain ⟨inner, phrase, rfl⟩ := phrase
      refine ⟨Grammar.keywords ["ALTER", "TABLE"] ++ (.name table ::
        (Grammar.keywords ["ADD", "CONSTRAINT"] ++ (.name name :: inner))), .sign ";", by simp,
        fun chunk after t spelt laid => ⟨true, ?_⟩⟩
      have ahead := ahead_of_spells spelt
      apply Reaches.choice (halts_kind laid ahead (by decide) (by decide))
      apply Reaches.choice (halts_kind laid ahead (by decide) (by decide))
      apply Reaches.choice (halts_kind laid ahead (by decide) (by decide))
      exact (reaches_addConstraint phrase spelt laid).choice_head
  | comment content =>
    obtain rfl : tokens = [.comment content] := phrase
    refine ⟨[], .comment content, rfl, fun chunk after t spelt laid => ⟨false, ?_⟩⟩
    rw [laid.eq_of_nil]
    have unworded : (chunk ++ after).startsInWord = false := by
      cases spelt
      rfl
    have halts {first second : Text} {f : List Text → Reader Statement} (proper : first.isKeyword = true) :
        Halts (chunk ++ after) (keywords [first, second] >>= f) (chunk ++ after) :=
      (halts_keywords (Text.isKeyword_ne_nil proper) (not_stands_of_not_startsInWord proper unworded)
        (Nat.le_refl _)).bind
    apply Reaches.choice (halts (by decide))
    apply Reaches.choice (halts (by decide))
    apply Reaches.choice (halts (by decide))
    apply Reaches.choice (halts (by decide))
    exact (reaches_comment spelt).choice_last
  | other value => cases phrase

/-! ## Statements one after another -/

section Sequences

variable {source : Text} {s : State}

/-- What becomes of a run that reads statements up to a last token, with `after` following that token. The
layout after the token is skipped, and the run goes on with what is left; or an open block comment ends
the run. -/
structure Leaves (found : List Statement) (rounds : Nat) (after source : Text) (s : State) (stop : Nat)
    (new : List Expectation) : Prop where
  inside : stop + after.length = source.length
  short : ∀ e ∈ new, e.offset < stop
  closed : ∀ gap, length? after = some gap → ∃ s' rounds', s'.cursor = ⟨stop + gap, stop⟩ ∧
    s'.expectations = new ++ s.expectations ∧ after.length < rounds' + gap ∧
    statementsWithin statementKinds rounds source s =
      ((found ++ ·) <$> statementsWithin statementKinds rounds') source s'
  opened : length? after = none → ∃ failure s', (∀ fault, failure ≠ .fault fault) ∧
    statementsWithin statementKinds rounds source s = (.error failure, s') ∧
    s'.expectations = openComment source stop :: (new ++ s.expectations)

theorem failure_ne_fault (final : Bool) (offset : Int) (fault : Fault) :
    failure final offset ≠ .fault fault := by
  cases final <;> simp [failure]

theorem map_apply_congr {α β : Type} {p q : Reader α} {source : Text} {s s' : State} (g : α → β)
    (same : p source s = q source s') : (g <$> p) source s = (g <$> q) source s' := by
  simp only [map_eq_pure_bind, bind_apply, same]

theorem map_apply_error {α β : Type} {p : Reader α} {source : Text} {s s' : State} {failure : Failure}
    (g : α → β) (stopped : p source s = (.error failure, s')) :
    (g <$> p) source s = (.error failure, s') := by
  rw [map_eq_pure_bind, bind_apply, stopped]

theorem statement_leaves {statement : Statement} {front : List Token} {last : Token} {chunk after : Text}
    (phrase : Grammar.statement limit statement (front ++ [last])) (deep : limit ≤ nestingLimit)
    (spelt : last.Spells chunk after) (laid : Laid front t (chunk ++ after)) (here : At source s t)
    {rounds : Nat} (enough : t.length < rounds) :
    ∃ stop new, Leaves [statement] rounds after source s stop new := by
  obtain ⟨front', last', same, reads⟩ := reaches_statement phrase deep
  obtain ⟨rfl, equal⟩ := List.append_inj' same rfl
  cases equal
  obtain ⟨final, reaches⟩ := reads chunk after t spelt laid
  have filled : 0 < chunk.length := by
    apply List.length_pos_iff.2
    rintro rfl
    exact absurd spelt.isSign (by decide)
  have width := laid.length_le
  rw [List.length_append] at width
  have more : s.cursor.offset < source.length := by
    have := here.inside
    omega
  obtain ⟨rounds, rfl⟩ : ∃ n, rounds = n + 1 := ⟨rounds - 1, by omega⟩
  have step := statementsWithin_succ statementKinds rounds source s
  rw [if_neg (by omega), statementThen] at step
  obtain ⟨s₁, there, ⟨new, added, short⟩, ends⟩ :=
    reaches source (s.expecting (some "end of input") s.cursor.offset) (here.of_cursor rfl)
  have stop : source.drop (s₁.cursor.offset + chunk.length) = after := by
    rw [← List.drop_drop, there.rest, List.drop_left]
  have whole := there.inside
  rw [List.length_append] at whole
  refine ⟨s₁.cursor.offset + chunk.length,
    new ++ [⟨some "end of input", s.cursor.offset, s.cursor⟩], by omega, ?_, ?_, ?_⟩
  · intro e member
    rcases List.mem_append.1 member with member | member
    · have := short e member
      rw [List.length_append] at this
      omega
    · obtain rfl := List.mem_singleton.1 member
      have := here.inside
      simp only
      omega
  · intro gap measured
    obtain ⟨s₂, read, expectations, cursor⟩ := ends.closed gap (by rw [stop, measured])
    refine ⟨{ s₂ with remarks := (text "Parsed " ++ statement.kind) :: s₂.remarks }, rounds, cursor, ?_, ?_, ?_⟩
    · rw [expectations, added]
      simp [State.expecting]
    · omega
    · rw [step, bind_apply, read]
      rfl
  · intro unmeasured
    obtain ⟨offset, s₂, stopped, expectations⟩ := ends.opened (by rw [stop, unmeasured])
    refine ⟨_, s₂, failure_ne_fault final offset, ?_, ?_⟩
    · rw [step, bind_apply, stopped]
    · rw [expectations, added]
      simp [State.expecting]

theorem ne_nil_of_statement {statement : Statement} (phrase : Grammar.statement limit statement tokens)
    (deep : limit ≤ nestingLimit) : tokens ≠ [] := by
  obtain ⟨front, last, rfl, _⟩ := reaches_statement phrase deep
  simp

theorem exists_last_of_ne_nil (filled : tokens ≠ []) : ∃ front last, tokens = front ++ [last] :=
  ⟨_, _, (List.dropLast_concat_getLast filled).symm⟩

theorem At.of_suffix {s' : State} {x : Text} (here : At source s (x ++ u))
    (inside : s'.cursor.offset + u.length = source.length) : At source s' u := by
  refine ⟨?_, inside⟩
  have before := here.inside
  rw [List.length_append] at before
  have moved : s'.cursor.offset = s.cursor.offset + x.length := by omega
  rw [moved, ← List.drop_drop, here.rest, List.drop_left]

theorem Leaves.append {first found : List Statement} {after : Text} {rounds rounds' : Nat} {s' : State}
    {stop stop' : Nat} {new new' : List Expectation} (inside : stop ≤ stop')
    (short : ∀ e ∈ new, e.offset < stop) (expectations : s'.expectations = new ++ s.expectations)
    (run : statementsWithin statementKinds rounds source s =
      ((first ++ ·) <$> statementsWithin statementKinds rounds') source s')
    (rest : Leaves found rounds' after source s' stop' new') :
    Leaves (first ++ found) rounds after source s stop' (new' ++ new) := by
  refine ⟨rest.inside, fun e member => ?_, fun gap measured => ?_, fun unmeasured => ?_⟩
  · rcases List.mem_append.1 member with member | member
    · exact rest.short e member
    · have := short e member
      omega
  · obtain ⟨s₂, rounds₂, cursor, added, enough, more⟩ := rest.closed gap measured
    refine ⟨s₂, rounds₂, cursor, by rw [added, expectations, List.append_assoc], enough, ?_⟩
    rw [run, map_apply_congr _ more]
    simp only [map_eq_pure_bind, Reader.bind_assoc, pure_bind, List.append_assoc]
  · obtain ⟨failure, s₂, proper, stopped, added⟩ := rest.opened unmeasured
    refine ⟨failure, s₂, proper, run.trans (map_apply_error _ stopped), ?_⟩
    rw [added, expectations, List.append_assoc]

theorem schema_leaves {found : List Statement} {front : List Token} {last : Token} {chunk after : Text}
    (phrase : Grammar.schema limit found (front ++ [last])) (deep : limit ≤ nestingLimit)
    (spelt : last.Spells chunk after) (laid : Laid front t (chunk ++ after)) (here : At source s t)
    {rounds : Nat} (enough : t.length < rounds) :
    ∃ stop new, Leaves found rounds after source s stop new := by
  induction found generalizing front t s rounds with
  | nil =>
    have empty : front ++ [last] = [] := phrase
    simp at empty
  | cons statement found ih =>
    obtain ⟨first, others, statementPhrase, more, same⟩ := phrase
    cases found with
    | nil =>
      obtain rfl : others = [] := more
      rw [List.append_nil] at same
      exact statement_leaves (same ▸ statementPhrase) deep spelt laid here enough
    | cons second found =>
      have filled : others ≠ [] := by
        obtain ⟨next, back, secondPhrase, _, rfl⟩ := more
        simp [ne_nil_of_statement secondPhrase deep]
      obtain ⟨others, final, rfl⟩ := exists_last_of_ne_nil filled
      rw [← List.append_assoc] at same
      obtain ⟨rfl, equal⟩ := List.append_inj' same rfl
      cases equal
      -- the first statement is followed by the layout before the second one
      obtain ⟨first, middle, rfl⟩ := exists_last_of_ne_nil (ne_nil_of_statement statementPhrase deep)
      obtain ⟨w, firstLaid, othersLaid⟩ := laid.split
      obtain ⟨x, split, _⟩ := firstLaid.exists_prefix
      obtain ⟨y, firstFront, single⟩ := firstLaid.split
      cases single with
      | @cons _ _ middleChunk gap w' _ middleSpelt between past =>
        rw [past.eq_of_nil] at middleSpelt between firstFront
        have settled : Settled w := othersLaid.settled (Token.settled_of_isSign spelt.isSign _)
        have measured := length?_gap_append between settled
        obtain ⟨stop, new, leaves⟩ :=
          statement_leaves statementPhrase deep middleSpelt firstFront here enough
        obtain ⟨s', rounds', cursor, expectations, left, run⟩ := leaves.closed _ measured
        have width := leaves.inside
        rw [List.length_append] at left width
        have inside : s'.cursor.offset + w.length = source.length := by
          rw [cursor]
          simp only
          omega
        have there : At source s' w := (split ▸ here).of_suffix inside
        obtain ⟨stop', new', rest⟩ := ih more othersLaid there (show w.length < rounds' by omega)
        refine ⟨stop', new' ++ new, rest.append ?_ leaves.short expectations run⟩
        have := othersLaid.length_le
        have := rest.inside
        rw [List.length_append] at *
        omega

end Sequences

end Reader

end Schemata
