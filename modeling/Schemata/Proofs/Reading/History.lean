import Mathlib
import Schemata.Proofs.Reading.Composed
import Schemata.Proofs.Reading.Summary
import Schemata.Reader.Script

/-! # The history of a reader

Whatever a script does, it only adds to the record of what was expected; going back moves the cursor and leaves
the record alone. So after any scripts, in any nesting, the frontier is what all entries of the record come to.
-/

namespace Schemata

/-! ## Records only grow -/

namespace Reader

variable {α β : Type} {p q : Reader α} {f : α → Reader β}

/-- Going back leaves the record as it was found. -/
theorem attempt_expectations (p : Reader α) (source : Text) (s : State) :
    (attempt p source s).2.expectations = (p source s).2.expectations := by
  simp only [attempt]
  split <;> rename_i run <;> rw [run]

theorem commit_expectations (p : Reader α) (source : Text) (s : State) :
    (commit p source s).2.expectations = (p source s).2.expectations := by
  simp only [commit]
  split <;> rename_i run <;> rw [run]

theorem map_expectations (g : α → β) (p : Reader α) (source : Text) (s : State) :
    ((g <$> p) source s).2.expectations = (p source s).2.expectations := by
  rw [map_eq_pure_bind, bind_apply]
  split <;> rename_i run <;> rw [run]
  rfl

theorem optional_expectations (p : Reader α) (source : Text) (s : State) :
    (optional p source s).2.expectations = (p source s).2.expectations := by
  rw [← attempt_expectations p source s, ← map_expectations some (attempt p) source s]
  simp only [optional, recover]
  split <;> rename_i run <;> rw [run]
  rfl

/-- The reader adds to the record, and nothing that lies before the text. -/
def Appends (p : Reader α) : Prop :=
  ∀ source s, ∃ new, (p source s).2.expectations = new ++ s.expectations ∧ ∀ e ∈ new, 0 ≤ e.offset

namespace Appends

theorem of_same (same : ∀ source s, (p source s).2.expectations = s.expectations) : Appends p :=
  fun source s => ⟨[], same source s, by simp⟩

theorem pure (a : α) : Appends (pure a : Reader α) := of_same fun _ _ => rfl

theorem refuse (fault : Fault) : Appends (refuse fault : Reader α) := of_same fun _ _ => rfl

theorem expectAt (label : Option Text) {offset : Int} (within : 0 ≤ offset) : Appends (expectAt label offset) :=
  fun _ s => ⟨[⟨label, offset, s.cursor⟩], rfl, by simpa using within⟩

theorem bind (first : Appends p) (second : ∀ a, Appends (f a)) : Appends (p >>= f) := by
  intro source s
  obtain ⟨earlier, added, within⟩ := first source s
  rw [bind_apply]
  cases run : p source s with
  | mk result t =>
    rw [run] at added
    cases result with
    | error failure => exact ⟨earlier, added, within⟩
    | ok a =>
      obtain ⟨later, more, within'⟩ := second a source t
      refine ⟨later ++ earlier, by rw [more, added, List.append_assoc], fun e member => ?_⟩
      exact (List.mem_append.1 member).elim (within' e) (within e)

theorem failAt (label : Option Text) {offset : Int} (within : 0 ≤ offset) :
    Appends (failAt label offset : Reader α) :=
  (expectAt label within).bind fun _ => of_same fun _ _ => rfl

theorem map (g : α → β) (appends : Appends p) : Appends (g <$> p) := by
  rw [map_eq_pure_bind]
  exact appends.bind fun a => .pure (g a)

theorem attempt (appends : Appends p) : Appends (attempt p) := by
  intro source s
  rw [attempt_expectations]
  exact appends source s

theorem commit (appends : Appends p) : Appends (commit p) := by
  intro source s
  rw [commit_expectations]
  exact appends source s

theorem optional (appends : Appends p) : Appends (optional p) := by
  intro source s
  rw [optional_expectations]
  exact appends source s

/-- The second reader goes on with the record of the first one. -/
theorem recover (first : Appends p) (second : Appends q) : Appends (recover p q) := by
  intro source s
  obtain ⟨earlier, added, within⟩ := first source s
  simp only [Reader.recover]
  split <;> rename_i run <;> rw [run] at added
  · obtain ⟨later, more, within'⟩ := second source _
    refine ⟨later ++ earlier, by rw [more, added, List.append_assoc], fun e member => ?_⟩
    exact (List.mem_append.1 member).elim (within' e) (within e)
  · exact ⟨earlier, added, within⟩

theorem choice {ps : List (Reader α)} (each : ∀ p ∈ ps, Appends p) : Appends (choice ps) := by
  induction ps with
  | nil => exact of_same fun _ _ => rfl
  | cons p others ih =>
    obtain ⟨first, later⟩ := List.forall_mem_cons.1 each
    exact first.attempt.recover (ih later)

theorem mapM {g : β → Reader α} {values : List β} (each : ∀ b, Appends (g b)) : Appends (values.mapM g) := by
  induction values with
  | nil => exact .pure []
  | cons b rest ih =>
    rw [List.mapM_cons]
    exact (each b).bind fun _ => ih.bind fun _ => .pure _

theorem lexeme (length : Nat) (a : α) : Appends (lexeme length a) := by
  intro source s
  simp only [Reader.lexeme]
  split
  · exact ⟨[], rfl, by simp⟩
  · exact ⟨[⟨_, _, _⟩], rfl, by simp⟩

theorem of_composed {p : Reader α} (composed : Composed p) : Appends p := by
  induction composed with
  | token acts =>
    intro source s
    cases acts source s.cursor with
    | sees a run =>
      rw [run s rfl]
      exact Appends.pure a source s
    | takes length a run =>
      rw [run s rfl]
      exact Appends.lexeme length a source s
    | misses label offset _ run =>
      rw [run s rfl]
      exact Appends.failAt _ (Int.natCast_nonneg offset) source s
    | stops fault run =>
      rw [run s rfl]
      exact Appends.refuse fault source s
  | expectHere => exact fun _ s => ⟨[⟨_, _, s.cursor⟩], rfl, by simp⟩
  | remark => exact of_same fun _ _ => rfl
  | exhausted => exact of_same fun _ _ => rfl
  | bind _ _ first second => exact first.bind second
  | attempt _ ih => exact ih.attempt
  | commit _ ih => exact ih.commit
  | recover _ _ first second => exact first.recover second

/-- A look at the text or at the cursor, or a move of the cursor, before another reader. -/
theorem after {g : β → Reader α} {q : Reader β} (still : ∀ source s, (q source s).2.expectations = s.expectations)
    (appends : ∀ b, Appends (g b)) : Appends (q >>= g) := (of_same still).bind appends

end Appends

/-! ## Tokens -/

theorem appends_failHere (label : Option Text) : Appends (failHere label : Reader α) :=
  .after (fun _ _ => rfl) fun here => .failAt label (Int.natCast_nonneg here.offset)

theorem appends_skip : Appends skip := by
  intro source s
  rw [skip_apply]
  exact Appends.lexeme 0 () source s

theorem appends_skipLeading : Appends skipLeading :=
  appends_skip.bind fun _ => .after (fun _ _ => rfl) fun _ => .of_same fun _ _ => rfl

theorem appends_advance (length : Nat) (withLayout : Bool) : Appends (advance length withLayout) := by
  refine .after (fun _ _ => rfl) fun _ => .after (fun _ _ => rfl) fun _ => .after (fun _ _ => rfl) fun _ => ?_
  split
  · exact appends_skip.bind fun _ => .pure _
  · exact .pure _

theorem appends_token (expected : Text) (ignoreCase withLayout : Bool) (label : Text) :
    Appends (token expected ignoreCase withLayout label) := by
  rw [token]
  split
  · exact .refuse _
  · refine .after (fun _ _ => rfl) fun rest => ?_
    split
    · exact appends_advance _ _
    · exact appends_failHere _

theorem appends_word (label : Text) : Appends (word label) := by
  refine .after (fun _ _ => rfl) fun rest => ?_
  dsimp only
  split
  · exact appends_failHere _
  · exact appends_advance _ _

theorem appends_quoted (quote label : Text) : Appends (quoted quote label) := by
  refine .after (fun _ _ => rfl) fun here => .after (fun _ _ => rfl) fun source => ?_
  split
  · refine .after (fun _ _ => rfl) fun rest => ?_
    split
    · exact .after (fun _ _ => rfl) fun _ => appends_skip.bind fun _ => .pure _
    · exact .after (fun _ _ => rfl) fun source => .failAt _ (Int.natCast_nonneg _)
    · exact .failAt _ (Int.natCast_nonneg _)
    · exact .refuse _
  · exact appends_failHere _

theorem appends_restOfLine : Appends restOfLine := by
  refine .after (fun _ _ => rfl) fun here => .after (fun _ _ => rfl) fun rest => ?_
  refine .after (fun _ _ => rfl) fun source => .after (fun _ _ => rfl) fun _ => ?_
  exact appends_skip.bind fun _ => .pure _

/-! ## Repetitions -/

theorem appends_between (opening closing : Text) (item : Appends p) : Appends (between opening closing p) :=
  (appends_token _ _ _ _).bind fun _ => item.bind fun _ => (appends_token _ _ _ _).bind fun _ => .pure _

theorem appends_afterEach (separator : Text) (item : Appends p) (rounds : Nat) :
    Appends (afterEach separator p rounds) := by
  induction rounds with
  | zero => exact .refuse _
  | succ rounds ih =>
    refine Appends.bind ((Appends.optional (appends_token _ _ _ _)).map _) fun present => ?_
    split
    · exact item.bind fun _ => ih.bind fun _ => .pure _
    · exact .pure []

theorem appends_sepBy (separator : Text) (item : Appends p) : Appends (sepBy p separator) := by
  refine item.optional.bind fun first? => ?_
  split
  · exact .pure []
  · exact Appends.bind (.after (fun _ _ => rfl) fun _ => appends_afterEach separator item _) fun _ => .pure _

end Reader

/-! ## Scripts -/

namespace Script

open Reader

mutual

/-- The offsets at which a script says itself that something is expected. -/
def offsets : Script → List Int
  | .expect _ offset | .fail _ offset => offset.toList
  | .attempt script | .optional script | .between _ _ script | .sepBy script _ | .commit script => script.offsets
  | .choice scripts | .sequence scripts => offsetsOfAll scripts
  | _ => []

def offsetsOfAll : List Script → List Int
  | [] => []
  | script :: scripts => script.offsets ++ offsetsOfAll scripts

end

mutual

theorem appends_read (name : Text) : (script : Script) → (∀ offset ∈ script.offsets, 0 ≤ offset) →
    Appends (script.read name)
  | .keyword .., _ => (appends_token _ _ _ _).map _
  | .keywords .., _ => (Appends.mapM fun _ => appends_token _ _ _ _).map _
  | .symbol .., _ => (appends_token _ _ _ _).map _
  | .word _, _ => (appends_word _).map _
  | .identifier, _ => (Appends.of_composed composed_identifier).map _
  | .quoted .., _ => (appends_quoted _ _).map _
  | .stringLiteral, _ => (appends_quoted _ _).map _
  | .restOfLine, _ => appends_restOfLine.map _
  | .skip, _ => appends_skip.map _
  | .skipLeading, _ => appends_skipLeading.map _
  | .expression, _ => (Appends.of_composed (composed_expression _)).map _
  | .columnType, _ => (Appends.of_composed composed_columnType).map _
  | .attempt script, within => (appends_read name script within).attempt
  | .optional script, within => (appends_read name script within).optional.map _
  | .choice scripts, within => .choice (appends_readEach name scripts within)
  | .between _ _ script, within => appends_between _ _ (appends_read name script within)
  | .sepBy script _, within => (appends_sepBy _ (appends_read name script within)).map _
  | .commit script, within => (appends_read name script within).commit
  | .sequence scripts, within => (appends_readAll name scripts within).map _
  | .expect _ (some offset), within => (Appends.expectAt _ (within offset (by simp [offsets]))).map _
  | .expect _ none, _ => (Appends.after (fun _ _ => rfl) fun _ => .expectAt _ (Int.natCast_nonneg _)).map _
  | .fail _ (some offset), within => .failAt _ (within offset (by simp [offsets]))
  | .fail _ none, _ => appends_failHere _
  | .cursor, _ => (Appends.of_same fun _ _ => rfl).map _
  | .moveTo _, _ => (Appends.of_same fun _ _ => rfl).map _
  | .atEnd, _ => (Appends.of_same fun _ _ => rfl).map _
  | .describe _, _ => .after (fun _ _ => rfl) fun _ => by
    split
    · exact .pure _
    · exact .refuse _
  | .place _, _ => .of_same fun _ _ => rfl
  | .lineText _, _ => .of_same fun _ _ => rfl
  | .diagnose, _ => .of_same fun _ _ => rfl

theorem appends_readEach (name : Text) : (scripts : List Script) → (∀ offset ∈ offsetsOfAll scripts, 0 ≤ offset) →
    ∀ p ∈ readEach name scripts, Appends p
  | [], _ => by simp [readEach]
  | script :: scripts, within => by
    rw [offsetsOfAll, List.forall_mem_append] at within
    rw [readEach, List.forall_mem_cons]
    exact ⟨appends_read name script within.1, appends_readEach name scripts within.2⟩

theorem appends_readAll (name : Text) : (scripts : List Script) → (∀ offset ∈ offsetsOfAll scripts, 0 ≤ offset) →
    Appends (readAll name scripts)
  | [], _ => .pure []
  | script :: scripts, within => by
    rw [offsetsOfAll, List.forall_mem_append] at within
    exact (appends_read name script within.1).bind fun _ =>
      (appends_readAll name scripts within.2).bind fun _ => .pure _

end

/-- A state that scripts leave behind, read one after another, whether they succeed or fail. None of them says
itself that something is expected before the text. -/
inductive Visited (name source : Text) : State → Prop
  | start : Visited name source State.start
  | read {s : State} {script : Script} : Visited name source s → (∀ offset ∈ script.offsets, 0 ≤ offset) →
      Visited name source (script.read name source s).2

theorem Visited.within {name source : Text} {s : State} (visited : Visited name source s) :
    ∀ e ∈ s.expectations, 0 ≤ e.offset := by
  induction visited with
  | start => simp [State.start]
  | @read s script _ forward ih =>
    obtain ⟨new, added, within⟩ := appends_read name script forward source s
    rw [added, List.forall_mem_append]
    exact ⟨within, ih⟩

/-- How the frontier of a state tells what was expected so far. -/
structure Tracked (name source : Text) (s : State) : Prop where
  /-- After each of the entries so far, the frontier was what the entries up to there come to. -/
  sums : ∀ calls, calls <+: s.expectations.reverse → (Frontier.of calls.reverse).SumsUp calls
  /-- The next script adds its entries behind those so far, and the frontier does not go back. -/
  grows : ∀ script : Script, (∀ offset ∈ script.offsets, 0 ≤ offset) →
    s.expectations.reverse <+: (script.read name source s).2.expectations.reverse ∧
      s.frontier.furthest ≤ (script.read name source s).2.frontier.furthest
  moves : ∀ target, ((Script.moveTo target).read name source s).2.frontier = s.frontier
  attempts : ∀ script : Script,
    ((Script.attempt script).read name source s).2.frontier = (script.read name source s).2.frontier
  options : ∀ script : Script,
    ((Script.optional script).read name source s).2.frontier = (script.read name source s).2.frontier

/-- Whatever scripts have been read, the frontier is the farthest failure, with all that was expected there. -/
theorem frontier_is_farthest_failure {name source : Text} {s : State} (visited : Visited name source s) :
    s.frontier.SumsUp s.expectations.reverse ∧ Tracked name source s := by
  refine ⟨Frontier.sumsUp_of visited.within, fun calls front => ?_, fun script forward => ?_, fun target => rfl,
    fun script => ?_, fun script => ?_⟩
  · have within : ∀ e ∈ calls.reverse, 0 ≤ e.offset := fun e member =>
      visited.within e (List.mem_reverse.1 (front.subset (List.mem_reverse.1 member)))
    simpa using Frontier.sumsUp_of within
  · obtain ⟨new, added, _⟩ := appends_read name script forward source s
    refine ⟨⟨new.reverse, by rw [added, List.reverse_append]⟩, ?_⟩
    rw [State.frontier, State.frontier, added]
    exact Frontier.furthest_le_append new s.expectations
  · rw [State.frontier, State.frontier, read, attempt_expectations]
  · rw [State.frontier, State.frontier, read, map_expectations, optional_expectations]

/-- What was expected behind the first word stays expected after going back, and one label more joins it. -/
theorem frontier_is_farthest_failure_back :
    let first : Script := .optional (.sequence [.word "word", .keyword true "x"])
    let s := ((Script.expect (some "z") (some 2)).read "example" "a b" (first.read "example" "a b" .start).2).2
    s.cursor = ⟨0, 0⟩ ∧ s.frontier = ⟨2, 1, ["\"x\"", "z"]⟩ ∧
      s.frontier.SumsUp s.expectations.reverse ∧ Tracked "example" "a b" s := by
  intro first s
  have visited : Visited "example" "a b" s :=
    .read (.read .start (by decide)) (by decide)
  exact ⟨by decide, by decide, frontier_is_farthest_failure visited⟩

end Script

end Schemata
