import Schemata.Parse.Basic
import Schemata.Proofs.Reading.Token

/-! # Runs on whole texts

A run skips the layout at the start of the text and reads statements from there. A statement ends inside
the text, since its last token is a sign or a comment, and so a run that succeeds ends where the text
ends.
-/

namespace Schemata

open Layout

namespace Reader

variable {α β : Type} {p : Reader α} {f : α → Reader β} {source : Text}

theorem skipLeading_apply (source : Text) (s : State) :
    skipLeading source s =
      match length? (source.drop s.cursor.offset) with
      | some gap => (.ok (), s.at ⟨s.cursor.offset + gap, s.cursor.offset + gap⟩)
      | none => (.error (.backtrack source.length),
          (s.at ⟨s.cursor.offset, s.cursor.offset⟩).expecting (some (inQuotes "*/")) source.length) := by
  simp only [skipLeading, bind_apply, skip_apply, lexeme, Nat.add_zero]
  cases length? (source.drop s.cursor.offset) <;> rfl

/-- The state after the layout at the start of a text. -/
def begun (gap : Nat) : State := ⟨⟨gap, gap⟩, [], []⟩

theorem fromStart_of_gap {gap : Nat} (measured : length? source = some gap) :
    fromStart p source State.start = p source (begun gap) := by
  have leading : skipLeading source State.start = (.ok (), begun gap) := by
    simp [skipLeading_apply, State.start, State.at, begun, measured]
  rw [fromStart, bind_apply, leading]

theorem fromStart_of_open (unmeasured : length? source = none) :
    fromStart p source State.start = (.error (.backtrack source.length),
      State.start.expecting (some (inQuotes "*/")) source.length) := by
  have leading : skipLeading source State.start = (.error (.backtrack source.length),
      State.start.expecting (some (inQuotes "*/")) source.length) := by
    simp [skipLeading_apply, State.start, State.at, State.expecting, unmeasured]
  rw [fromStart, bind_apply, leading]

theorem run_eq_ok_iff {name : Text} {a : α} :
    (p.run name source).result = .ok a ↔ ∃ t, fromStart p source State.start = (.ok a, t) := by
  rw [run]
  split
  · next value t success => simp [success]
  · next t stopped => simp [stopped]
  · next t other stopped => simp [stopped]
  · next failure t _ _ stopped => simp [stopped]

theorem run_eq_unexpected_iff {name : Text} {e : SyntaxError} :
    (p.run name source).result = .error (.unexpected e) ↔
      ∃ failure t, fromStart p source State.start = (.error failure, t) ∧
        (∀ fault, failure ≠ .fault fault) ∧ diagnose name source t = e := by
  constructor
  · intro rejected
    rw [run] at rejected
    cases whole : fromStart p source State.start with
    | mk result t =>
      simp only [whole] at rejected
      cases result with
      | ok found => cases rejected
      | error failure =>
        cases failure with
        | backtrack offset => exact ⟨_, t, rfl, by simp, by simpa using rejected⟩
        | cut offset => exact ⟨_, t, rfl, by simp, by simpa using rejected⟩
        | fault fault => cases fault <;> simp at rejected
  · rintro ⟨failure, t, whole, proper, rfl⟩
    rw [run, whole]
    cases failure with
    | backtrack offset => rfl
    | cut offset => rfl
    | fault fault => exact absurd rfl (proper fault)

theorem run_eq_tooDeep_iff {name : Text} {e : SyntaxError} :
    (p.run name source).result = .error (.tooDeep e) ↔
      ∃ t, fromStart p source State.start = (.error (.fault .tooDeep), t) ∧
        diagnose name source (expectShallower source t).2 = e := by
  rw [run]
  split
  · next value t success => simp [success]
  · next t stopped => simp [stopped]
  · next t other stopped => simp_all
  · next failure t _ other stopped => simp_all

theorem run_eq_fault_iff {name : Text} {fault : Fault} :
    (p.run name source).result = .error (.fault fault) ↔
      fault ≠ .tooDeep ∧ ∃ t, fromStart p source State.start = (.error (.fault fault), t) := by
  rw [run]
  split
  · next value t success => simp [success]
  · next t stopped =>
    have same : Fault.tooDeep = fault ↔ fault = .tooDeep := eq_comm
    simp [stopped, same]
  · next other t noDepth stopped =>
    have different : other = fault → fault ≠ .tooDeep := by
      rintro rfl
      exact noDepth
    simpa [stopped] using different
  · next failure t _ other stopped => simp_all

/-- Statements are read by a run; only the remarks on it are more. -/
theorem parse_result (name source : Text) :
    (parse name source).result = (statements.run name source).result := by
  simp only [parse]
  split <;> simp_all

theorem parse_eq_ok_iff {name : Text} {found : List Statement} :
    (parse name source).result = .ok found ↔
      ∃ t, fromStart statements source State.start = (.ok found, t) := by
  rw [parse_result]
  exact run_eq_ok_iff

theorem parse_eq_unexpected_iff {name : Text} {e : SyntaxError} :
    (parse name source).result = .error (.unexpected e) ↔
      ∃ failure t, fromStart statements source State.start = (.error failure, t) ∧
        (∀ fault, failure ≠ .fault fault) ∧ diagnose name source t = e := by
  rw [parse_result]
  exact run_eq_unexpected_iff

/-! ## Statements one after another -/

/-- A statement and the others after it. -/
def statementThen (kinds : List (Reader Statement)) (rounds : Nat) : Reader (List Statement) := do
  let statement ← choice kinds
  remark (text "Parsed " ++ statement.kind)
  let others ← statementsWithin kinds rounds
  pure (statement :: others)

/-- At the end of the text there are no statements; before it, a statement is expected as well as the end
of the text. -/
theorem statementsWithin_succ (kinds : List (Reader Statement)) (rounds : Nat) (source : Text) (s : State) :
    statementsWithin kinds (rounds + 1) source s =
      if source.length ≤ s.cursor.offset then (.ok [], s)
      else statementThen kinds rounds source (s.expecting (some "end of input") s.cursor.offset) := by
  rw [statementsWithin, bind_apply]
  by_cases ended : source.length ≤ s.cursor.offset
  · simp only [atEnd_apply, ended, decide_true, if_true, pure_apply]
  · simp only [atEnd_apply, ended, decide_false, Bool.false_eq_true, if_false]
    rfl

/-! ## Where statements end -/

/-- Where the reader succeeds, it has not moved beyond the end of the text. -/
def Lands (p : Reader α) : Prop :=
  ∀ source s a t, p source s = (.ok a, t) → t.cursor.offset ≤ source.length

/-- The reader does not move. -/
def Stays (p : Reader α) : Prop := ∀ source s a t, p source s = (.ok a, t) → t.cursor = s.cursor

theorem of_bind_eq_ok {s u : State} {b : β} (success : (p >>= f) source s = (.ok b, u)) :
    ∃ a t, p source s = (.ok a, t) ∧ f a source t = (.ok b, u) := by
  rw [bind_apply] at success
  cases run : p source s with
  | mk result t =>
    rw [run] at success
    cases result with
    | ok a => exact ⟨a, t, rfl, success⟩
    | error failure => cases success

theorem Lands.bind (last : ∀ a, Lands (f a)) : Lands (p >>= f) := by
  intro source s b u success
  obtain ⟨a, t, _, next⟩ := of_bind_eq_ok success
  exact last a source t b u next

theorem Lands.bind_stays (first : Lands p) (rest : ∀ a, Stays (f a)) : Lands (p >>= f) := by
  intro source s b u success
  obtain ⟨a, t, run, next⟩ := of_bind_eq_ok success
  rw [rest a source t b u next]
  exact first source s a t run

theorem Stays.bind (first : Stays p) (rest : ∀ a, Stays (f a)) : Stays (p >>= f) := by
  intro source s b u success
  obtain ⟨a, t, run, next⟩ := of_bind_eq_ok success
  exact (rest a source t b u next).trans (first source s a t run)

theorem stays_pure (a : α) : Stays (pure a : Reader α) := by
  rintro source s _ _ ⟨⟩
  rfl

theorem stays_remark (t : Text) : Stays (remark t) := by
  rintro source s _ _ ⟨⟩
  rfl

theorem Lands.commit (lands : Lands p) : Lands (commit p) := by
  intro source s a t success
  apply lands source s a t
  simp only [Reader.commit] at success
  split at success <;> simp_all

theorem Lands.choice {ps : List (Reader α)} (lands : ∀ p ∈ ps, Lands p) : Lands (choice ps) := by
  induction ps with
  | nil =>
    intro source s a t success
    cases success
  | cons first others ih =>
    intro source s a t success
    change recover (attempt first) (Reader.choice others) source s = (.ok a, t) at success
    simp only [recover] at success
    split at success
    · exact ih (fun q member => lands q (List.mem_cons_of_mem _ member)) source _ a t success
    · next other run =>
      have read := run.trans success
      apply lands first List.mem_cons_self source s a t
      simp only [attempt] at read
      split at read <;> simp_all

theorem lands_of_lexeme {source : Text} {s t : State} {length : Nat} {a b : α}
    (success : lexeme length a source s = (.ok b, t))
    (inside : s.cursor.offset + length ≤ source.length) : t.cursor.offset ≤ source.length := by
  cases measured : length? (source.drop (s.cursor.offset + length)) with
  | none =>
    rw [lexeme_of_open measured] at success
    cases success
  | some gap =>
    rw [lexeme_of_gap measured] at success
    cases success
    have short := length?_le measured
    rw [List.length_drop] at short
    simp only [State.at]
    omega

theorem lands_symbol {t : Text} (filled : t ≠ []) : Lands (symbol t) := by
  intro source s a u success
  have run : symbol t source s = _ := token_apply filled false (inQuotes t) source s
  rw [success] at run
  by_cases standing : stands t false (source.drop s.cursor.offset) = true
  · rw [if_pos standing] at run
    apply lands_of_lexeme run.symm
    simp only [stands, Bool.false_eq_true, if_false, Bool.and_eq_true, decide_eq_true_eq] at standing
    have width := congrArg List.length standing.1
    have positive : 0 < t.length := List.length_pos_iff.2 filled
    rw [List.length_take, List.length_drop] at width
    omega
  · rw [if_neg standing] at run
    cases run

theorem lands_comment : Lands comment := by
  intro source s a u success
  have run := comment_apply source s
  rw [success] at run
  by_cases standing : stands "--" false (source.drop s.cursor.offset) = true
  · rw [if_pos standing] at run
    obtain ⟨inside, _⟩ := spells_comment standing
    rw [List.drop_drop, List.length_drop] at inside
    exact lands_of_lexeme run.symm (by omega)
  · rw [if_neg standing] at run
    cases run

theorem lands_statement : ∀ kind ∈ statementKinds, Lands kind := by
  have semicolon {α : Type} {f : Text → Reader α} (rest : ∀ a, Stays (f a)) :
      Lands (symbol ";" >>= f) := (lands_symbol (by decide)).bind_stays rest
  intro kind member
  simp only [statementKinds, List.mem_cons, List.not_mem_nil, or_false] at member
  rcases member with rfl | rfl | rfl | rfl | rfl
  · refine .bind fun _ => .commit (.bind fun guarded => .bind fun _ => semicolon fun _ => ?_)
    cases guarded with
    | true => exact stays_pure _
    | false => exact (stays_remark _).bind fun _ => stays_pure _
  · exact .bind fun _ => .commit (.bind fun _ => .bind fun _ => .bind fun _ => semicolon fun _ => stays_pure _)
  · exact .bind fun _ => .commit (.bind fun _ => .bind fun _ => .bind fun _ => semicolon fun _ => stays_pure _)
  · refine .bind fun _ => .commit (.bind fun _ => .bind fun _ => .bind fun _ => .bind fun _ => ?_)
    exact semicolon fun _ => stays_pure _
  · exact lands_comment

/-- Statements are read up to the end of the text. -/
theorem statementsWithin_ends {rounds : Nat} {s t : State} {found : List Statement}
    (inside : s.cursor.offset ≤ source.length)
    (success : statementsWithin statementKinds rounds source s = (.ok found, t)) :
    t.cursor.offset = source.length := by
  induction rounds generalizing s found with
  | zero => cases success
  | succ rounds ih =>
    rw [statementsWithin_succ] at success
    split at success
    · cases success
      omega
    · obtain ⟨first, s₁, read, next⟩ := of_bind_eq_ok success
      obtain ⟨_, s₂, remarked, next⟩ := of_bind_eq_ok next
      obtain ⟨rest, s₃, more, next⟩ := of_bind_eq_ok next
      cases next
      have landed := Lands.choice lands_statement source _ first s₁ read
      rw [← stays_remark _ source s₁ _ s₂ remarked] at landed
      exact ih landed more

end Reader

end Schemata
