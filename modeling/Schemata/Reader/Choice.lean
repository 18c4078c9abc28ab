import Schemata.Reader.Basic

/-! # Choices

A reader that backtracks may be replaced by another one. `attempt` moves the cursor back first;
`recover` alone does not. `commit` makes a choice final: a failure inside can no longer be given up.
-/

namespace Schemata.Reader

variable {α : Type}

/-- Moves the cursor back where the reader backtracks. -/
def attempt (p : Reader α) : Reader α := fun source s =>
  match p source s with
  | (.error (.backtrack offset), t) => (.error (.backtrack offset), { t with cursor := s.cursor })
  | (result, t) => (result, t)

/-- Runs another reader, from where the first one stopped, if the first one backtracks. -/
def recover (p q : Reader α) : Reader α := fun source s =>
  match p source s with
  | (.error (.backtrack _), t) => q source t
  | (result, t) => (result, t)

/-- Turns backtracking into a final failure. -/
def commit (p : Reader α) : Reader α := fun source s =>
  match p source s with
  | (.error (.backtrack offset), t) => (.error (.cut offset), t)
  | (result, t) => (result, t)

def optional (p : Reader α) : Reader (Option α) :=
  recover (some <$> attempt p) (pure none)

/-- Whether an optional part is there. -/
def isPresent (p : Reader α) : Reader Bool := Option.isSome <$> optional p

/-- The first of several readers that does not backtrack. -/
def choice : List (Reader α) → Reader α
  | [] => do fail (.backtrack (← cursor).offset)
  | p :: others => recover (attempt p) (choice others)

end Schemata.Reader
