import Mathlib.Data.List.Pairwise
import Mathlib.Logic.Basic
import Schemata.Proofs.Reading.Opening

/-! # Choices among readers that exclude each other

If all readers of a choice open differently, at most one of them gets past its opening. It decides the choice
wherever it stands among the others, and all that the others expect lies before what it does. If none gets
that far, each of them has expected one thing.
-/

namespace Schemata

/-- The state lies beyond an offset, and so does all that is on record. -/
structure State.Past (offset : Int) (u : State) : Prop where
  cursor : offset < u.cursor.offset
  expectations : ∀ e ∈ u.expectations, offset < e.offset

namespace Reader

variable {α β : Type} {p q : Reader α} {source : Text} {c d : Cursor} {s : State} {e : Expectation}
  {os : List Opener} {ps : List (Reader α)}

/-! ## Readers with an opening -/

/-- The reader gives up for want of one thing. -/
def GivesUp (p : Reader α) (source : Text) (c : Cursor) (e : Expectation) : Prop :=
  ∃ offset u, outcome p source c = (.error (.backtrack offset), u) ∧ u.expectations = [e]

/-- The reader does not give up. -/
def Decides (p : Reader α) (source : Text) (c : Cursor) : Prop :=
  ∀ offset, (outcome p source c).1 ≠ .error (.backtrack offset)

theorem GivesUp.not_decides (gives : GivesUp p source c e) : ¬ Decides p source c := by
  obtain ⟨offset, u, run, _⟩ := gives
  exact fun decides => decides offset (by rw [run])

theorem GivesUp.unique {e' : Expectation} (gives : GivesUp p source c e) (gives' : GivesUp p source c e') :
    e = e' := by
  obtain ⟨_, u, run, added⟩ := gives
  obtain ⟨_, v, run', added'⟩ := gives'
  cases run.symm.trans run'
  cases added.symm.trans added'
  rfl

/-- The reader gives up where it misses its opening, and nowhere after it. -/
structure OpensWith (p : Reader α) (os : List Opener) : Prop where
  misses : ∀ {source c e}, opening os source c = .error e → GivesUp p source c e
  decides : ∀ {source c d}, opening os source c = .ok d → Decides p source c ∧
    ∀ offset : Int, offset < d.offset → (outcome p source c).2.Past offset

theorem Follows.opensWith (follows : Follows p os) : OpensWith p os := by
  constructor
  · intro source c e missed
    obtain ⟨t, run, added⟩ := follows.misses (s := c.fresh) missed
    exact ⟨_, t, run, added⟩
  · intro source c d passed
    obtain ⟨a, t, run, rfl, kept⟩ := follows.passes (s := c.fresh) passed
    rw [Decides, outcome, run]
    refine ⟨fun offset => by simp, fun offset short => ⟨short, ?_⟩⟩
    simp [kept, Cursor.fresh]

/-- After its opening, the reader is committed. -/
theorem Follows.commit {body : α → Reader β} (follows : Follows p os) (walks : ∀ a, Walks (body a)) :
    OpensWith (p >>= fun a => Reader.commit (body a)) os := by
  constructor
  · intro source c e missed
    obtain ⟨t, run, added⟩ := follows.misses (s := c.fresh) missed
    exact ⟨_, t, by rw [outcome, bind_apply, run], added⟩
  · intro source c d passed
    obtain ⟨a, t, run, rfl, kept⟩ := follows.passes (s := c.fresh) passed
    have whole : outcome (p >>= fun a => Reader.commit (body a)) source c = Reader.commit (body a) source t := by
      rw [outcome, bind_apply, run]
    have final (offset : Int) : (Reader.commit (body a) source t).1 ≠ .error (.backtrack offset) := by
      rw [Reader.commit]
      split
      · simp
      · next other _ => exact fun same => other offset (by simpa using same)
    rw [Decides, whole]
    refine ⟨final, fun offset short => ⟨?_, fun e member => ?_⟩⟩
    · have forward := ((walks a).commit source t).route.forward
      omega
    · obtain ⟨new, added, met⟩ := ((walks a).commit source t).met
      have fresh : t.expectations = [] := kept
      rw [added, fresh, List.append_nil] at member
      have forward := (met e member).route.forward
      rcases (met e member).place with here | ⟨beyond, _⟩ <;> omega

/-- The readers never both get past their openings. -/
def Exclusive (p q : Reader α) : Prop := ∃ os os', OpensWith p os ∧ OpensWith q os' ∧ Apart os os'

theorem Exclusive.symm (exclusive : Exclusive p q) : Exclusive q p := by
  obtain ⟨os, os', first, second, apart⟩ := exclusive
  exact ⟨os', os, second, first, apart.symm⟩

theorem OpensWith.of_givesUp (opens : OpensWith p os) (gives : GivesUp p source c e) :
    opening os source c = .error e := by
  cases opened : opening os source c with
  | ok d => exact absurd (opens.decides opened).1 gives.not_decides
  | error f => rw [gives.unique (opens.misses opened)]

theorem OpensWith.of_decides (opens : OpensWith p os) (decides : Decides p source c) :
    ∃ d, opening os source c = .ok d := by
  cases opened : opening os source c with
  | ok d => exact ⟨d, rfl⟩
  | error e => exact absurd decides (opens.misses opened).not_decides

namespace Exclusive

theorem not_both (exclusive : Exclusive p q) (first : Decides p source c) : ¬ Decides q source c := by
  intro second
  obtain ⟨os, os', opens, opens', apart⟩ := exclusive
  obtain ⟨d, passed⟩ := opens.of_decides first
  obtain ⟨d', passed'⟩ := opens'.of_decides second
  have parted := apart.parted source c
  rw [passed, passed'] at parted
  cases parted

/-- What is missed lies before all that the other reader does. -/
theorem past (exclusive : Exclusive p q) (gives : GivesUp p source c e) (decides : Decides q source c) :
    (outcome q source c).2.Past e.offset := by
  obtain ⟨os, os', opens, opens', apart⟩ := exclusive
  obtain ⟨d, passed⟩ := opens'.of_decides decides
  have parted := apart.parted source c
  rw [opens.of_givesUp gives, passed] at parted
  cases parted with
  | left short => exact (opens'.decides passed).2 _ short

/-- What both readers miss at one offset, they miss at one place. -/
theorem report_eq {e' : Expectation} (exclusive : Exclusive p q) (gives : GivesUp p source c e)
    (gives' : GivesUp q source c e') (here : e.offset = e'.offset) : e.report = e'.report := by
  obtain ⟨os, os', opens, opens', apart⟩ := exclusive
  have parted := apart.parted source c
  rw [opens.of_givesUp gives, opens'.of_givesUp gives'] at parted
  cases parted with
  | both same => exact same here

end Exclusive

/-- Of readers that exclude each other, any two different ones do. -/
theorem exclusive_of_ne (exclusive : ps.Pairwise Exclusive) (first : p ∈ ps) (second : q ∈ ps)
    (differ : p ≠ q) : Exclusive p q := by
  have : Std.Symm (@Exclusive α) := ⟨fun _ _ => Exclusive.symm⟩
  exact exclusive.forall first second differ

/-! ## Choices -/

/-- A choice ends as one reader does; what was expected besides lies before all that this one does. -/
structure Chosen (p : Reader α) (source : Text) (s : State) (o : Except Failure α × State) : Prop where
  decides : Decides p source s.cursor
  result : o.1 = (outcome p source s.cursor).1
  cursor : o.2.cursor = (outcome p source s.cursor).2.cursor
  expectations : ∃ earlier, o.2.expectations =
    (outcome p source s.cursor).2.expectations ++ (earlier ++ s.expectations) ∧
      ∀ e ∈ earlier, (outcome p source s.cursor).2.Past e.offset

/-- All readers of a choice give up, each for want of one thing. -/
structure Abandoned (ps : List (Reader α)) (source : Text) (s : State) (o : Except Failure α × State) :
    Prop where
  givesUp : ∀ p ∈ ps, ∃ e, GivesUp p source s.cursor e
  result : o.1 = .error (.backtrack s.cursor.offset)
  cursor : o.2.cursor = s.cursor
  expectations : ∃ missed, o.2.expectations = missed ++ s.expectations ∧
    ∀ e, e ∈ missed ↔ ∃ p ∈ ps, GivesUp p source s.cursor e

/-- A reader that does not give up is the choice. -/
theorem choice_cons_of_decides {others : List (Reader α)} (composed : Composed p)
    (decides : Decides p source s.cursor) : choice (p :: others) source s = p source s := by
  have run := composed.apply source s
  rw [run, choice, recover, attempt, run]
  cases result : (outcome p source s.cursor).1 with
  | ok a => rfl
  | error failure =>
    cases failure with
    | backtrack offset => exact absurd result (decides offset)
    | cut offset => rfl
    | fault fault => rfl

theorem choice_cases (each : ∀ p ∈ ps, Composed p ∧ ∃ os, OpensWith p os) (exclusive : ps.Pairwise Exclusive)
    (source : Text) (s : State) : (∃ p ∈ ps, Chosen p source s (choice ps source s)) ∨
      Abandoned ps source s (choice ps source s) := by
  induction ps generalizing s with
  | nil => exact .inr ⟨by simp, rfl, rfl, [], rfl, by simp⟩
  | cons p others ih =>
    obtain ⟨apart, exclusive⟩ := List.pairwise_cons.1 exclusive
    obtain ⟨⟨composed, os, opens⟩, each⟩ := List.forall_mem_cons.1 each
    have run := composed.apply source s
    cases opened : opening os source s.cursor with
    | ok d =>
      have decides := (opens.decides opened).1
      rw [choice_cons_of_decides composed decides, run]
      exact .inl ⟨p, List.mem_cons_self, decides, rfl, rfl, [], rfl, by simp⟩
    | error e =>
      have gives := opens.misses opened
      obtain ⟨offset, u, stopped, added⟩ := id gives
      rw [stopped] at run
      -- The next reader starts at the same cursor, with one more expectation on record.
      have same : choice (p :: others) source s =
          choice others source { s.followedBy u with cursor := s.cursor } := by
        simp only [choice, recover, attempt, run]
      have record : (s.followedBy u).expectations = e :: s.expectations := by
        rw [State.followedBy, added, List.singleton_append]
      rw [same]
      rcases ih each exclusive { s.followedBy u with cursor := s.cursor } with
        ⟨q, member, decides, result, cursor, earlier, expectations, past⟩ |
        ⟨givesUp, result, cursor, missed, expectations, exactly⟩
      · refine .inl ⟨q, List.mem_cons_of_mem _ member, decides, result, cursor, earlier ++ [e], ?_, ?_⟩
        · rw [expectations, record]
          simp
        · intro f inside
          rcases List.mem_append.1 inside with inside | inside
          · exact past f inside
          · rw [List.mem_singleton.1 inside]
            exact (apart q member).past gives decides
      · refine .inr ⟨List.forall_mem_cons.2 ⟨⟨e, gives⟩, givesUp⟩, result, cursor, missed ++ [e], ?_, ?_⟩
        · rw [expectations, record]
          simp
        · intro f
          have only : f = e ↔ GivesUp p source s.cursor f := by
            constructor
            · rintro rfl
              exact gives
            · exact fun again => again.unique gives
          rw [List.mem_append, List.mem_singleton, exactly, only, Or.comm]
          simp only [List.mem_cons, exists_eq_or_imp]

/-- In whatever order readers that exclude each other are tried, the same one decides the choice, or all give
up. -/
theorem choice_cases_of_perm {qs : List (Reader α)} {s' : State} (same : ps.Perm qs)
    (each : ∀ p ∈ qs, Composed p ∧ ∃ os, OpensWith p os) (exclusive : qs.Pairwise Exclusive)
    (here : s.cursor = s'.cursor) (source : Text) :
    (∃ p ∈ qs, Chosen p source s (choice ps source s) ∧ Chosen p source s' (choice qs source s')) ∨
    Abandoned ps source s (choice ps source s) ∧ Abandoned qs source s' (choice qs source s') := by
  have listed (p : Reader α) : p ∈ ps ↔ p ∈ qs := same.mem_iff
  have reordered := choice_cases (fun p member => each p ((listed p).1 member))
    ((same.pairwise_iff Exclusive.symm).2 exclusive) source s
  rcases reordered with ⟨p, member, chosen⟩ | abandoned <;>
    rcases choice_cases each exclusive source s' with ⟨q, member', chosen'⟩ | abandoned'
  · have first : p ∈ qs := (listed p).1 member
    have decides : Decides p source s'.cursor := here ▸ chosen.decides
    have one : p = q := by
      by_contra differ
      exact (exclusive_of_ne exclusive first member' differ).not_both decides chosen'.decides
    subst one
    exact .inl ⟨p, first, chosen, chosen'⟩
  · obtain ⟨e, gives⟩ := abandoned'.givesUp p ((listed p).1 member)
    exact absurd (here ▸ chosen.decides) gives.not_decides
  · obtain ⟨e, gives⟩ := abandoned.givesUp q ((listed q).2 member')
    exact absurd (here ▸ chosen'.decides) gives.not_decides
  · exact .inr ⟨abandoned, abandoned'⟩

/-! ## Kinds of statements -/

/-- What comes first at the place of a statement: the end of the text, or a statement of some kind. -/
def alternatives (kinds : List (Reader Statement)) : List (Reader Statement) :=
  failHere (some "end of input") :: kinds

/-- The end of the text is expected like one more kind of statements. -/
theorem choice_alternatives (kinds : List (Reader Statement)) (source : Text) (s : State) :
    choice kinds source (s.expecting (some "end of input") s.cursor.offset) =
      choice (alternatives kinds) source s := rfl

/-- What opens each alternative. -/
def alternativeOpenings : List (List Opener) :=
  let create : Opener := .keyword "CREATE" (by decide)
  let table : Opener := .keyword "TABLE" (by decide)
  [[.nowhere "end of input"],
    [create, .keyword "EXTENSION" (by decide)],
    [create, table],
    [create, .keyword "TYPE" (by decide)],
    [.keyword "ALTER" (by decide), table],
    [.comment]]

theorem pairwise_apart : alternativeOpenings.Pairwise Apart := by
  have nowhere (o : Opener) (os : List Opener) : Apart [.nowhere "end of input"] (o :: os) :=
    .here (clash_nowhere _ o)
  have create (os : List Opener) : Apart (.keyword "CREATE" (by decide) :: os) [.comment] :=
    .here (clash_comment (by decide))
  have alter (os os' : List Opener) :
      Apart (.keyword "CREATE" (by decide) :: os) (.keyword "ALTER" (by decide) :: os') :=
    .here (clash_keyword (by decide) (by decide) (by decide))
  simp only [alternativeOpenings, List.pairwise_cons, List.forall_mem_cons, List.not_mem_nil,
    false_imp_iff, implies_true, List.Pairwise.nil, and_true]
  refine ⟨⟨nowhere _ _, nowhere _ _, nowhere _ _, nowhere _ _, nowhere _ _⟩,
    ⟨?_, ?_, alter _ _, create _⟩, ⟨?_, alter _ _, create _⟩, ⟨alter _ _, create _⟩, ?_⟩
  · exact .later (.here (clash_keyword (by decide) (by decide) (by decide)))
  · exact .later (.here (clash_keyword (by decide) (by decide) (by decide)))
  · exact .later (.here (clash_keyword (by decide) (by decide) (by decide)))
  · exact .here (clash_comment (by decide))

theorem Committed.opensWith {first second : Text} {kind : Reader Statement}
    (committed : Committed first second kind) (filled : first ≠ []) (filled' : second ≠ []) :
    OpensWith kind [.keyword first filled, .keyword second filled'] := by
  obtain ⟨body, rfl, walks⟩ := committed
  exact (follows_keywords (by simp [filled, filled'])).commit fun _ => walks

theorem opensWith_alternatives : List.Forall₂ OpensWith (alternatives statementKinds) alternativeOpenings :=
  .cons (follows_nowhere _).opensWith <|
  .cons (committed_createExtension.opensWith _ _) <|
  .cons (committed_createTable.opensWith _ _) <|
  .cons (committed_createEnum.opensWith _ _) <|
  .cons (committed_addConstraint.opensWith _ _) <|
  .cons follows_comment.opensWith .nil

theorem exists_opening {openings : List (List Opener)} (opens : List.Forall₂ OpensWith ps openings)
    (member : p ∈ ps) : ∃ os ∈ openings, OpensWith p os := by
  induction opens with
  | nil => contradiction
  | @cons _ os _ openings first _ ih =>
    rcases List.mem_cons.1 member with rfl | member
    · exact ⟨os, List.mem_cons_self, first⟩
    · obtain ⟨os', listed, opens⟩ := ih member
      exact ⟨os', List.mem_cons_of_mem _ listed, opens⟩

/-- Readers whose openings part from each other exclude each other. -/
theorem pairwise_exclusive {openings : List (List Opener)} (opens : List.Forall₂ OpensWith ps openings)
    (apart : openings.Pairwise Apart) : ps.Pairwise Exclusive := by
  induction opens with
  | nil => exact .nil
  | @cons p os ps openings first rest ih =>
    obtain ⟨here, apart⟩ := List.pairwise_cons.1 apart
    refine List.pairwise_cons.2 ⟨fun q member => ?_, ih apart⟩
    obtain ⟨os', listed, opens⟩ := exists_opening rest member
    exact ⟨os, os', first, opens, here os' listed⟩

end Reader

end Schemata
