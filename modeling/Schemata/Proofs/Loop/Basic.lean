/-! # Loops that move on

A loop goes on round by round until a round ends it with an outcome. Nothing bounds the number of its rounds
beforehand. Where each round that goes on starts within a bound and moves on from there, the loop ends after
no more rounds than the bound and one, whatever it has done so far.
-/

namespace Schemata

/-- What a round of a loop comes to: the outcome of the loop, or a state to go on from and what the round
adds to the outcome of the rounds after it. -/
inductive Round (σ ω : Type) where
  | last (outcome : ω)
  | next (s : σ) (complete : ω → ω)

def Loop (σ ω : Type) : Type := σ → Round σ ω

variable {σ ω : Type}

/-- The outcome of the loop from a round on, by the outcome of the rounds after it. -/
def Round.outcome (rest : σ → ω) : Round σ ω → ω
  | last outcome => outcome
  | next s complete => complete (rest s)

namespace Loop

/-- The states in which the first rounds start. -/
def starts (loop : Loop σ ω) : (rounds : Nat) → σ → List σ
  | 0, _ => []
  | rounds + 1, s =>
    match loop s with
    | .last _ => [s]
    | .next t _ => s :: starts loop rounds t

/-- The outcome of the loop, if it ends within a number of rounds. -/
def outcome? (loop : Loop σ ω) : (rounds : Nat) → σ → Option ω
  | 0, _ => none
  | rounds + 1, s =>
    match loop s with
    | .last outcome => some outcome
    | .next t complete => (outcome? loop rounds t).map complete

/-- A round that goes on starts within the bound and moves on. -/
def Advances (loop : Loop σ ω) (place : σ → Nat) (bound : Nat) : Prop :=
  ∀ s t complete, loop s = .next t complete → place s < place t ∧ place s < bound

/-- Each round starts farther on than the one before it, there are not more than so many, and the loop has
its outcome after them. -/
structure Ends (loop : Loop σ ω) (place : σ → Nat) (most : Nat) (s : σ) (outcome : ω) : Prop where
  ordered : ∀ rounds, ((loop.starts rounds s).map place).Pairwise (· < ·)
  short : ∀ rounds, (loop.starts rounds s).length ≤ most
  finished : ∀ rounds, most ≤ rounds → loop.outcome? rounds s = some outcome

variable {loop : Loop σ ω} {place : σ → Nat} {bound rounds : Nat} {s t : σ} {outcome : ω}

theorem mem_starts_succ : s ∈ loop.starts (rounds + 1) s := by
  rw [starts]
  split <;> exact List.mem_cons_self

theorem starts_of_next {complete : ω → ω} (moves : loop s = .next t complete) (rounds : Nat) :
    loop.starts (rounds + 1) s = s :: loop.starts rounds t := by
  rw [starts, moves]

theorem starts_of_last (stops : loop s = .last outcome) (rounds : Nat) : loop.starts (rounds + 1) s = [s] := by
  rw [starts, stops]

/-- What holds of the first state and is brought about by every round holds in all rounds. -/
theorem of_mem_starts {P : σ → Prop} (first : P s) (step : ∀ s t complete, loop s = .next t complete → P t)
    (member : t ∈ loop.starts rounds s) : P t := by
  induction rounds generalizing s with
  | zero => contradiction
  | succ rounds ih =>
    rw [starts] at member
    split at member
    · exact List.mem_singleton.1 member ▸ first
    · next u complete moves =>
      rcases List.mem_cons.1 member with rfl | member
      · exact first
      · exact ih (step _ u complete moves) member

theorem Advances.place_le (advances : loop.Advances place bound) (member : t ∈ loop.starts rounds s) :
    place s ≤ place t := by
  induction rounds generalizing s with
  | zero => contradiction
  | succ rounds ih =>
    rw [starts] at member
    split at member
    · exact Nat.le_of_eq (congrArg place (List.mem_singleton.1 member).symm)
    · next u complete moves =>
      rcases List.mem_cons.1 member with rfl | member
      · exact Nat.le_refl _
      · exact Nat.le_trans (Nat.le_of_lt (advances _ _ _ moves).1) (ih member)

/-- What relates a round to all places from the next round on relates it to all later rounds. -/
theorem Advances.pairwise_starts (advances : loop.Advances place bound) {R : σ → σ → Prop}
    (step : ∀ s t complete, loop s = .next t complete → ∀ u, place t ≤ place u → R s u)
    (rounds : Nat) (s : σ) : (loop.starts rounds s).Pairwise R := by
  induction rounds generalizing s with
  | zero => exact .nil
  | succ rounds ih =>
    rw [starts]
    split
    · exact List.pairwise_singleton _ _
    · next t complete moves =>
      exact List.pairwise_cons.2 ⟨fun u member => step s t complete moves u (advances.place_le member), ih t⟩

theorem Advances.ordered (advances : loop.Advances place bound) (rounds : Nat) (s : σ) :
    ((loop.starts rounds s).map place).Pairwise (· < ·) := by
  rw [List.pairwise_map]
  refine advances.pairwise_starts (fun s t complete moves u later => ?_) rounds s
  exact Nat.lt_of_lt_of_le (advances s t complete moves).1 later

theorem Advances.length_starts_le (advances : loop.Advances place bound) (rounds : Nat) (s : σ) :
    (loop.starts rounds s).length ≤ bound - place s + 1 := by
  induction rounds generalizing s with
  | zero => exact Nat.zero_le _
  | succ rounds ih =>
    rw [starts]
    split
    · exact Nat.le_add_left 1 _
    · next t complete moves =>
      have moved := advances s t complete moves
      have later := ih t
      rw [List.length_cons]
      omega

/-- With more rounds than are left up to the bound, the loop ends. -/
theorem Advances.exists_outcome (advances : loop.Advances place bound) (enough : bound - place s < rounds) :
    ∃ outcome, loop.outcome? rounds s = some outcome := by
  induction rounds generalizing s with
  | zero => omega
  | succ rounds ih =>
    rw [outcome?]
    split
    · exact ⟨_, rfl⟩
    · next t complete moves =>
      have moved := advances s t complete moves
      obtain ⟨outcome, ended⟩ := ih (show bound - place t < rounds by omega)
      exact ⟨complete outcome, by rw [ended]; rfl⟩

/-- A loop that has ended has the same outcome when more rounds are allowed. -/
theorem outcome?_of_le {more : Nat} (ended : loop.outcome? rounds s = some outcome) (le : rounds ≤ more) :
    loop.outcome? more s = some outcome := by
  induction rounds generalizing s outcome more with
  | zero => cases ended
  | succ rounds ih =>
    obtain ⟨more, rfl⟩ := Nat.exists_eq_add_of_le' (Nat.lt_of_lt_of_le (Nat.succ_pos rounds) le)
    rw [outcome?] at ended ⊢
    split at ended
    · exact ended
    · obtain ⟨inner, rest, rfl⟩ := Option.map_eq_some_iff.1 ended
      rw [ih rest (by omega)]
      rfl

/-- A function of the rounds allowed that goes round the loop gives the outcome of the loop. -/
theorem eq_of_outcome? {f : Nat → σ → ω}
    (unfolds : ∀ rounds s, f (rounds + 1) s = (loop s).outcome (f rounds))
    (ended : loop.outcome? rounds s = some outcome) : f rounds s = outcome := by
  induction rounds generalizing s outcome with
  | zero => cases ended
  | succ rounds ih =>
    rw [unfolds]
    rw [outcome?] at ended
    split at ended
    · next moves => simpa [moves, Round.outcome] using ended
    · next t complete moves =>
      obtain ⟨inner, rest, rfl⟩ := Option.map_eq_some_iff.1 ended
      rw [moves, Round.outcome, ih rest]

/-- A loop that moves on within a bound ends, and so a function that goes round it may stop counting there. -/
theorem Advances.ends {f : Nat → σ → ω} (advances : loop.Advances place bound)
    (unfolds : ∀ rounds s, f (rounds + 1) s = (loop s).outcome (f rounds)) (s : σ) :
    loop.Ends place (bound + 1) s (f (bound + 1) s) := by
  obtain ⟨outcome, ended⟩ :=
    advances.exists_outcome (show bound - place s < bound + 1 by omega)
  rw [eq_of_outcome? unfolds ended]
  refine ⟨fun rounds => advances.ordered rounds s, fun rounds => ?_, fun rounds => outcome?_of_le ended⟩
  have short := advances.length_starts_le rounds s
  omega

end Loop

end Schemata
