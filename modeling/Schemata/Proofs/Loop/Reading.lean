import Schemata.Proofs.Loop.Basic
import Schemata.Proofs.Reading.Progress

/-! # Repetitions as loops

Statements, columns, enum values and arguments are read in loops whose rounds read one item each, or find
that there is none. The readers count their rounds and would refuse to go on; the loops do not count, and
they end before the readers would stop.
-/

namespace Schemata

namespace Reader

variable {α : Type} {source : Text} {s t : State}

/-- Reads items as long as the reader of a round finds one. -/
def itemLoop (round : Reader (Option α)) (source : Text) :
    Loop State (Except Failure (List α) × State) := fun s =>
  match round source s with
  | (.ok (some a), t) => .next t fun (result, u) => (result.map (a :: ·), u)
  | (.ok none, t) => .last (.ok [], t)
  | (.error failure, t) => .last (.error failure, t)

/-- Reads the item of a round, if it finds one, and the items after it. -/
def thenMore (round : Reader (Option α)) (rest : Reader (List α)) : Reader (List α) := do
  match ← round with
  | some a => do
    let items ← rest
    pure (a :: items)
  | none => pure []

/-- Reads a statement, unless the text is over. -/
def statementRound : Reader (Option Statement) := do
  if ← atEnd then pure none
  else
    expectHere (some "end of input")
    let statement ← choice statementKinds
    remark (text "Parsed " ++ statement.kind)
    pure (some statement)

/-- Reads a separator and an item, unless no separator follows. -/
def separatedRound (separator : Text) (item : Reader α) : Reader (Option α) := do
  if ← isPresent (symbol separator) then some <$> item else pure none

theorem exists_of_itemLoop_eq_next {round : Reader (Option α)}
    {complete : Except Failure (List α) × State → Except Failure (List α) × State}
    (moves : itemLoop round source s = .next t complete) : ∃ a, round source s = (.ok (some a), t) := by
  rw [itemLoop] at moves
  split at moves
  · next a u run =>
    cases moves
    exact ⟨a, run⟩
  · cases moves
  · cases moves

/-- A reader that reads the item of a round and the items after it goes round the loop. -/
theorem thenMore_apply (round : Reader (Option α)) (rest : Reader (List α)) (source : Text) (s : State) :
    thenMore round rest source s = (itemLoop round source s).outcome (rest source) := by
  rw [itemLoop, thenMore, bind_apply]
  cases round source s with
  | mk result t =>
    cases result with
    | error failure => rfl
    | ok item =>
      cases item with
      | none => rfl
      | some a =>
        simp only [Round.outcome, bind_apply]
        cases rest source t with
        | mk result u => cases result <;> rfl

/-- At the end of the text a round finds no statement. -/
theorem statementRound_of_ended (ended : source.length ≤ s.cursor.offset) :
    statementRound source s = (.ok none, s) := by
  simp only [statementRound, bind_apply, atEnd_apply, ended, decide_true, if_true, pure_apply]

/-- Before the end of the text a round notes that the text may end, and then reads a statement. -/
theorem statementRound_of_unfinished (unfinished : s.cursor.offset < source.length) :
    statementRound source s = (choice statementKinds >>= fun statement =>
      remark (text "Parsed " ++ statement.kind) >>= fun _ => pure (some statement)) source
        (s.expecting (some "end of input") s.cursor.offset) := by
  have more : ¬ source.length ≤ s.cursor.offset := Nat.not_le.2 unfinished
  simp only [statementRound, bind_apply, atEnd_apply, more, decide_false, Bool.false_eq_true, if_false]
  rfl

theorem exists_of_statementRound {statement : Statement}
    (read : statementRound source s = (.ok (some statement), t)) :
    s.cursor.offset < source.length ∧ ∃ u, t.cursor = u.cursor ∧
      choice statementKinds source (s.expecting (some "end of input") s.cursor.offset) = (.ok statement, u) := by
  rcases Nat.lt_or_ge s.cursor.offset source.length with unfinished | ended
  · rw [statementRound_of_unfinished unfinished] at read
    obtain ⟨_, u, chosen, rest⟩ := of_bind_eq_ok read
    obtain ⟨_, _, remarked, rest⟩ := of_bind_eq_ok rest
    cases remarked
    cases rest
    exact ⟨unfinished, u, rfl, chosen⟩
  · rw [statementRound_of_ended ended] at read
    cases read

theorem statementRound_advances (source : Text) :
    (itemLoop statementRound source).Advances (·.cursor.offset) source.length := by
  intro s t complete moves
  obtain ⟨statement, read⟩ := exists_of_itemLoop_eq_next moves
  obtain ⟨unfinished, u, same, chosen⟩ := exists_of_statementRound read
  refine ⟨?_, unfinished⟩
  show s.cursor.offset < t.cursor.offset
  rw [same]
  exact (choice_moves chosen).1

theorem separatedRound_advances {separator : Text} (proper : separator.isSign = true) {item : Reader α}
    (forward : Forward item) (source : Text) :
    (itemLoop (separatedRound separator item) source).Advances (·.cursor.offset) source.length := by
  intro s t complete moves
  obtain ⟨a, run⟩ := exists_of_itemLoop_eq_next moves
  obtain ⟨present, u, separated, run⟩ := of_bind_eq_ok run
  cases present with
  | false => cases run
  | true =>
    replace run : (item >>= fun b => pure (some b)) source u = (.ok (some a), t) := run
    obtain ⟨b, _, read, last⟩ := of_bind_eq_ok run
    cases last
    have moved := separator_moves proper separated
    have kept := forward source u a t read
    exact ⟨Nat.lt_of_lt_of_le moved.1 kept, Nat.lt_of_lt_of_le moved.1 moved.2⟩

theorem statementsWithin_eq_thenMore (rounds : Nat) :
    statementsWithin statementKinds (rounds + 1) =
      thenMore statementRound (statementsWithin statementKinds rounds) := by
  rw [statementsWithin, thenMore, statementRound, bind_assoc]
  refine bind_congr fun ended => ?_
  cases ended <;> simp

theorem afterEach_eq_thenMore (separator : Text) (item : Reader α) (rounds : Nat) :
    afterEach separator item (rounds + 1) =
      thenMore (separatedRound separator item) (afterEach separator item rounds) := by
  rw [afterEach, thenMore, separatedRound, bind_assoc]
  refine bind_congr fun present => ?_
  cases present <;> simp

/-- Statements are read to the end by the loop that reads one in each round. -/
theorem statements_ends (source : Text) (s : State) :
    (itemLoop statementRound source).Ends (·.cursor.offset) (source.length + 1) s (statements source s) := by
  refine (statementRound_advances source).ends (f := fun rounds => statementsWithin statementKinds rounds source)
    (fun rounds s => ?_) s
  rw [statementsWithin_eq_thenMore, thenMore_apply]

/-- Items are read to the end by the loop that reads a separator and an item in each round. -/
theorem others_ends {separator : Text} (proper : separator.isSign = true) {item : Reader α}
    (forward : Forward item) (source : Text) (s : State) :
    (itemLoop (separatedRound separator item) source).Ends (·.cursor.offset) (source.length + 1) s
      (others separator item source s) := by
  refine (separatedRound_advances proper forward source).ends
    (f := fun rounds => afterEach separator item rounds source) (fun rounds s => ?_) s
  rw [afterEach_eq_thenMore, thenMore_apply]

end Reader

end Schemata
