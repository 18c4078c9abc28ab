import Schemata.Proofs.Loop.Basic
import Schemata.Proofs.Reading.WalkStatement

/-! # Nested calls

An expression reads the arguments of a call as expressions. `calls` lists the calls of the reader of
expressions that are made for one expression, in the order in which they are made. Each one starts farther on
than the one before, and so calls are nested no deeper than the text is long; a limit beyond that is never
reached.
-/

namespace Schemata

namespace Reader

variable {α : Type} {source : Text} {s t : State}

/-- Reads the arguments of a call with a name, each with a reader, and the closing parenthesis. -/
def callWith (inner : Reader Expression) (name : Text) : Reader Expression := do
  let first ← inner
  let rest ← others "," inner
  let _ ← symbol ")"
  pure (.call name (first :: rest))

/-- Reads an expression; arguments are read with another reader. -/
def expressionWith (inner : Reader Expression) : Reader Expression := do
  match ← recover (some <$> identifier) (pure none) with
  | none => return .literal (← stringLiteral)
  | some name =>
    if ← isPresent (symbol "(") then
      if ← isPresent (symbol ")") then pure (.call name []) else callWith inner name
    else pure (.var name)

/-- Reads an expression; calls nested as deep as the limit are left to another reader. -/
def expressionOver (deeper : Reader Expression) : (limit : Nat) → Reader Expression
  | 0 => deeper
  | limit + 1 => expressionWith (expressionOver deeper limit)

/-- Reads up to the first argument of a call, and answers with the name of the call if there is one. -/
def callOpening : Reader (Option Text) := do
  match ← recover (some <$> identifier) (pure none) with
  | none => pure none
  | some name =>
    if ← isPresent (symbol "(") then
      if ← isPresent (symbol ")") then pure none else pure (some name)
    else pure none

/-- Reads the arguments of a call, as long as a comma follows. -/
def argumentLoop (inner : Reader Expression) (source : Text) : Loop State Unit := fun s =>
  match (do let _ ← inner; isPresent (symbol ",")) source s with
  | (.ok true, t) => .next t id
  | _ => .last ()

/-- A call of the reader of expressions: inside how many others it is made, and in which state. -/
structure Call where
  level : Nat
  start : State

def Call.offset (call : Call) : Nat := call.start.cursor.offset

/-- The calls that are made to read an expression, in the order in which they are made. The arguments of a
call, the first one and one for each round of `others`, are calls of the next level. -/
def calls : (limit level : Nat) → Text → State → List Call
  | 0, level, _, s => [⟨level, s⟩]
  | limit + 1, level, source, s =>
    match callOpening source s with
    | (.ok (some _), t) =>
      let arguments := (argumentLoop (expression limit) source).starts (source.length + 1 + 1) t
      ⟨level, s⟩ :: arguments.flatMap (calls limit (level + 1) source)
    | _ => [⟨level, s⟩]

theorem expression_succ (limit : Nat) : expression (limit + 1) = expressionWith (expression limit) := rfl

/-- One reader gets to the arguments of a call, where the other one reads them, or else it does not matter
what the other one reads arguments with. -/
def Opens (p : Reader (Option Text)) (q : Reader Expression → Reader Expression) (source : Text) (s : State) :
    Prop :=
  (∃ name t, p source s = (.ok (some name), t) ∧ ∀ inner, q inner source s = callWith inner name source t) ∨
    ((∀ name t, p source s ≠ (.ok (some name), t)) ∧ ∃ outcome, ∀ inner, q inner source s = outcome)

theorem Opens.bind {r : Reader α} {f : α → Reader (Option Text)}
    {g : Reader Expression → α → Reader Expression}
    (rest : ∀ a t, Opens (f a) (fun inner => g inner a) source t) :
    Opens (r >>= f) (fun inner => r >>= g inner) source s := by
  simp only [Opens, bind_apply]
  cases r source s with
  | mk result t =>
    cases result with
    | error failure => exact .inr ⟨by simp, _, fun _ => rfl⟩
    | ok a => exact rest a t

theorem Opens.of_none (outcome : Expression) : Opens (pure none) (fun _ => pure outcome) source s :=
  .inr ⟨by simp, _, fun _ => rfl⟩

theorem expressionWith_opens (source : Text) (s : State) : Opens callOpening expressionWith source s := by
  refine .bind fun name? t => ?_
  cases name? with
  | none => exact .inr ⟨by simp, _, fun _ => rfl⟩
  | some name =>
    refine .bind fun opened t => ?_
    cases opened with
    | false => exact .of_none _
    | true =>
      refine .bind fun closed t => ?_
      cases closed with
      | true => exact .of_none _
      | false => exact .inl ⟨name, t, rfl, fun _ => rfl⟩

/-- The first argument stands behind the start of the call, inside the text. -/
theorem callOpening_moves {name : Text} (opened : callOpening source s = (.ok (some name), t)) :
    s.cursor.offset < t.cursor.offset ∧ t.cursor.offset ≤ source.length := by
  obtain ⟨name?, u, named, opened⟩ := of_bind_eq_ok opened
  have first : s.cursor.offset ≤ u.cursor.offset := by
    have walks := Walks.recover (walks_identifier.map some) (.pure none) source s
    have forward := walks.route.forward
    rwa [named] at forward
  cases name? with
  | none => cases opened
  | some found =>
    obtain ⟨parenthesis, v, opening, opened⟩ := of_bind_eq_ok opened
    cases parenthesis with
    | false => cases opened
    | true =>
      obtain ⟨closed, w, closing, opened⟩ := of_bind_eq_ok opened
      cases closed with
      | true => cases opened
      | false =>
        cases opened
        have moved := separator_moves (by decide) opening
        rw [cursor_of_not_isPresent closing]
        exact ⟨Nat.lt_of_le_of_lt first moved.1, moved.2⟩

/-! ## Arguments -/

/-- Reads arguments, the first one and then one after each comma, for at most a number of rounds. -/
def argumentsWithin (inner : Reader Expression) (rounds : Nat) : Reader (List Expression) := do
  let first ← inner
  let rest ← afterEach "," inner rounds
  pure (first :: rest)

theorem callWith_apply (inner : Reader Expression) (name source : Text) (s : State) :
    callWith inner name source s =
      (argumentsWithin inner (source.length + 1) >>= fun values =>
        symbol ")" >>= fun _ => pure (.call name values)) source s := by
  simp only [argumentsWithin, bind_assoc, pure_bind]
  rfl

theorem afterEach_succ (inner : Reader Expression) (rounds : Nat) :
    afterEach "," inner (rounds + 1) =
      isPresent (symbol ",") >>= fun present => if present then argumentsWithin inner rounds else pure [] := rfl

variable {inner p q : Reader Expression} {rounds : Nat} {u v w : State} {e : Expression}

theorem exists_of_argumentLoop_eq_next {complete : Unit → Unit}
    (moves : argumentLoop inner source s = .next t complete) :
    ∃ e u, inner source s = (.ok e, u) ∧ isPresent (symbol ",") source u = (.ok true, t) := by
  rw [argumentLoop] at moves
  split at moves
  · next u run =>
    cases moves
    exact of_bind_eq_ok run
  · cases moves

theorem argumentLoop_of_comma (read : inner source s = (.ok e, u))
    (comma : isPresent (symbol ",") source u = (.ok true, t)) :
    argumentLoop inner source s = .next t id := by
  simp only [argumentLoop, bind_apply, read, comma]

theorem argumentLoop_of_no_comma (read : inner source s = (.ok e, u))
    (comma : isPresent (symbol ",") source u = (.ok false, t)) :
    argumentLoop inner source s = .last () := by
  simp only [argumentLoop, bind_apply, read, comma]

theorem argumentLoop_advances (forward : Forward inner) (source : Text) :
    (argumentLoop inner source).Advances (·.cursor.offset) source.length := by
  intro s t complete moves
  obtain ⟨e, u, read, comma⟩ := exists_of_argumentLoop_eq_next moves
  have kept := forward source s e u read
  have moved := separator_moves (by decide) comma
  exact ⟨Nat.lt_of_le_of_lt kept moved.1, Nat.lt_of_lt_of_le (Nat.lt_of_le_of_lt kept moved.1) moved.2⟩

/-- All arguments of a call that is opened inside the text start inside it. -/
theorem argument_inside (first : t.cursor.offset ≤ source.length)
    (member : v ∈ (argumentLoop inner source).starts rounds t) : v.cursor.offset ≤ source.length := by
  refine Loop.of_mem_starts (P := fun u => u.cursor.offset ≤ source.length) first ?_ member
  intro s t complete moves
  obtain ⟨e, u, _, comma⟩ := exists_of_argumentLoop_eq_next moves
  exact (separator_moves (by decide) comma).2

/-- Only where arguments start does it matter what they are read with. -/
theorem argumentsWithin_congr
    (agree : ∀ v ∈ (argumentLoop p source).starts (rounds + 1) s, p source v = q source v) :
    argumentsWithin p rounds source s = argumentsWithin q rounds source s := by
  induction rounds generalizing s with
  | zero =>
    have here := agree s Loop.mem_starts_succ
    simp only [argumentsWithin, bind_apply, ← here]
    rfl
  | succ rounds ih =>
    have here := agree s Loop.mem_starts_succ
    have later (e : Expression) (u : State) (read : p source s = (.ok e, u)) :
        afterEach "," p (rounds + 1) source u = afterEach "," q (rounds + 1) source u := by
      rw [afterEach_succ, afterEach_succ, bind_apply, bind_apply]
      cases comma : isPresent (symbol ",") source u with
      | mk result t =>
        cases result with
        | error failure => rfl
        | ok present =>
          cases present with
          | false => rfl
          | true =>
            rw [Loop.starts_of_next (argumentLoop_of_comma read comma)] at agree
            exact ih fun v member => agree v (List.mem_cons_of_mem _ member)
    rw [argumentsWithin, argumentsWithin, bind_apply, bind_apply, ← here]
    cases read : p source s with
    | mk result u =>
      cases result with
      | error failure => rfl
      | ok e =>
        dsimp only
        rw [bind_apply, bind_apply, later e u read]

/-- Where all arguments are read, each one is, and ends no later than the last one. -/
theorem exists_of_argumentsWithin (forward : Forward inner) {values : List Expression}
    (success : argumentsWithin inner rounds source s = (.ok values, w))
    (member : v ∈ (argumentLoop inner source).starts (rounds + 1) s) :
    ∃ e u, inner source v = (.ok e, u) ∧ u.cursor.offset ≤ w.cursor.offset := by
  induction rounds generalizing s values v with
  | zero =>
    obtain ⟨first, u, read, success⟩ := of_bind_eq_ok success
    cases success
  | succ rounds ih =>
    obtain ⟨first, u, read, success⟩ := of_bind_eq_ok success
    obtain ⟨rest, _, more, success⟩ := of_bind_eq_ok success
    cases success
    rw [afterEach_succ] at more
    obtain ⟨present, t, comma, more⟩ := of_bind_eq_ok more
    cases present with
    | false =>
      cases more
      rw [Loop.starts_of_last (argumentLoop_of_no_comma read comma)] at member
      obtain rfl := List.mem_singleton.1 member
      exact ⟨first, u, read, Nat.le_of_eq (by rw [cursor_of_not_isPresent comma])⟩
    | true =>
      rw [Loop.starts_of_next (argumentLoop_of_comma read comma)] at member
      rcases List.mem_cons.1 member with rfl | member
      · obtain ⟨second, x, next, ended⟩ := ih more Loop.mem_starts_succ
        have moved := (separator_moves (by decide) comma).1
        have kept := forward source t second x next
        exact ⟨first, u, read, by omega⟩
      · exact ih more member

/-! ## The calls of an expression -/

variable {limit level : Nat} {call : Call}

theorem calls_of_opening {name : Text} (opened : callOpening source s = (.ok (some name), t))
    (limit level : Nat) :
    calls (limit + 1) level source s = ⟨level, s⟩ ::
      ((argumentLoop (expression limit) source).starts (source.length + 1 + 1) t).flatMap
        (calls limit (level + 1) source) := by
  simp only [calls, opened]

theorem calls_of_no_opening (unopened : ∀ name t, callOpening source s ≠ (.ok (some name), t))
    (limit level : Nat) : calls (limit + 1) level source s = [⟨level, s⟩] := by
  rw [calls]
  split
  · next opened => exact absurd opened (unopened _ _)
  · rfl

/-- A call inside other ones is made inside the text, and at least as much farther on as it is deeper. -/
theorem mem_calls (member : call ∈ calls limit level source s) :
    call = ⟨level, s⟩ ∨ level < call.level ∧ s.cursor.offset + call.level ≤ call.offset + level ∧
      call.offset ≤ source.length := by
  induction limit generalizing level s with
  | zero => exact .inl (List.mem_singleton.1 member)
  | succ limit ih =>
    rcases expressionWith_opens source s with ⟨name, t, opened, -⟩ | ⟨unopened, -⟩
    · rw [calls_of_opening opened] at member
      rcases List.mem_cons.1 member with same | member
      · exact .inl same
      · obtain ⟨v, argument, member⟩ := List.mem_flatMap.1 member
        have moved := callOpening_moves opened
        have later := (argumentLoop_advances (expression_forward limit) source).place_le argument
        have inside := argument_inside moved.2 argument
        rcases ih member with rfl | ⟨deeper, farther, within⟩
        · exact .inr ⟨Nat.lt_succ_self level, by simp only [Call.offset]; omega, inside⟩
        · exact .inr ⟨by omega, by omega, within⟩
    · rw [calls_of_no_opening unopened] at member
      exact .inl (List.mem_singleton.1 member)

theorem offset_le_of_mem_calls (member : call ∈ calls limit level source s) :
    s.cursor.offset ≤ call.offset := by
  rcases mem_calls member with rfl | ⟨deeper, farther, -⟩
  · exact Nat.le_refl _
  · omega

/-- Where an expression is read, no call was made behind its end. -/
theorem offset_le_of_expression (read : expression limit source s = (.ok e, t))
    (member : call ∈ calls limit level source s) : call.offset ≤ t.cursor.offset := by
  induction limit generalizing level s e t with
  | zero => cases read
  | succ limit ih =>
    have whole := expression_forward _ source s e t read
    rcases expressionWith_opens source s with ⟨name, u, opened, reads⟩ | ⟨unopened, -⟩
    · rw [calls_of_opening opened] at member
      rcases List.mem_cons.1 member with rfl | member
      · exact whole
      · obtain ⟨v, argument, member⟩ := List.mem_flatMap.1 member
        rw [expression_succ, reads, callWith_apply] at read
        obtain ⟨values, w, arguments, read⟩ := of_bind_eq_ok read
        obtain ⟨_, x, closing, read⟩ := of_bind_eq_ok read
        cases read
        have closed := (symbol_tracks (by decide)).forward source w _ _ closing
        obtain ⟨e', x', read', ended⟩ :=
          exists_of_argumentsWithin (expression_forward limit) arguments argument
        have inner := ih read' member
        omega
    · rw [calls_of_no_opening unopened] at member
      obtain rfl := List.mem_singleton.1 member
      exact whole

/-- Each call starts farther on than the one before it. -/
theorem calls_ordered (limit level : Nat) (source : Text) (s : State) :
    ((calls limit level source s).map Call.offset).Pairwise (· < ·) := by
  rw [List.pairwise_map]
  induction limit generalizing level s with
  | zero => exact List.pairwise_singleton _ _
  | succ limit ih =>
    rcases expressionWith_opens source s with ⟨name, t, opened, -⟩ | ⟨unopened, -⟩
    · rw [calls_of_opening opened]
      have advances := argumentLoop_advances (expression_forward limit) source
      refine List.pairwise_cons.2 ⟨fun call member => ?_, ?_⟩
      · obtain ⟨v, argument, member⟩ := List.mem_flatMap.1 member
        have moved := (callOpening_moves opened).1
        have later := advances.place_le argument
        have below := offset_le_of_mem_calls member
        show s.cursor.offset < call.offset
        omega
      · refine List.pairwise_flatMap.2 ⟨fun v _ => ih (level + 1) v, ?_⟩
        -- The calls for one argument are made before the comma after it, those for later ones behind it.
        refine advances.pairwise_starts (fun u v complete moves x later a before b after => ?_) _ t
        obtain ⟨e, w, read, comma⟩ := exists_of_argumentLoop_eq_next moves
        have ended := offset_le_of_expression read before
        have moved := (separator_moves (by decide) comma).1
        have begins := offset_le_of_mem_calls after
        omega
    · rw [calls_of_no_opening unopened]
      exact List.pairwise_singleton _ _

/-- The calls for `f(a, g(b))`, by level and offset. -/
example : (calls 5 0 "f(a, g(b))" State.start).map (fun call => (call.level, call.offset)) =
    [(0, 0), (1, 2), (1, 5), (2, 7)] := by cbv

/-- Where no call is made as deep as the limit, it does not matter what is done there. -/
theorem expressionOver_eq_expression (deeper : Reader Expression) (limit level : Nat)
    (shallow : ∀ call ∈ calls limit level source s, call.level < level + limit) :
    expressionOver deeper limit source s = expression limit source s := by
  induction limit generalizing level s with
  | zero => exact absurd (shallow ⟨level, s⟩ List.mem_cons_self) (Nat.lt_irrefl level)
  | succ limit ih =>
    rw [expression_succ, expressionOver]
    rcases expressionWith_opens source s with ⟨name, t, opened, reads⟩ | ⟨-, outcome, reads⟩
    · rw [calls_of_opening opened] at shallow
      rw [reads, reads, callWith_apply, callWith_apply, bind_apply, bind_apply]
      rw [argumentsWithin_congr (p := expression limit) (q := expressionOver deeper limit)]
      intro v argument
      refine (ih (level + 1) fun call member => ?_).symm
      have below := shallow call (List.mem_cons_of_mem _ (List.mem_flatMap.2 ⟨v, argument, member⟩))
      omega
    · rw [reads, reads]

/-- Calls are nested at most as deep as the text is long, and one deeper. -/
theorem level_le_of_mem_calls (member : call ∈ calls limit 0 source s) : call.level ≤ source.length := by
  rcases mem_calls member with rfl | ⟨-, farther, inside⟩
  · exact Nat.zero_le _
  · omega

end Reader

end Schemata
