import Schemata.Error.Fault
import Schemata.Reader.State

/-! # Readers

A reader runs on a source text from a state; it gives a value or fails, and leaves a state either way.
A failure may be given up for another choice, may be final because a choice was already made, or may be
a fault that no other choice can mend.
-/

namespace Schemata

inductive Failure where
  /-- Another choice may still succeed. -/
  | backtrack (offset : Int)
  /-- The choice is made, and it failed. -/
  | cut (offset : Int)
  | fault (fault : Fault)
deriving DecidableEq, Repr

def Reader (α : Type) : Type := Text → State → Except Failure α × State

namespace Reader

variable {α β : Type}

instance : Monad Reader where
  pure a _ s := (.ok a, s)
  bind p f source s :=
    match p source s with
    | (.ok a, s) => f a source s
    | (.error failure, s) => (.error failure, s)

@[simp] theorem pure_apply (a : α) (source : Text) (s : State) :
    (pure a : Reader α) source s = (.ok a, s) := rfl

theorem bind_apply (p : Reader α) (f : α → Reader β) (source : Text) (s : State) :
    (p >>= f) source s =
      match p source s with
      | (.ok a, s) => f a source s
      | (.error failure, s) => (.error failure, s) := rfl

theorem id_map (p : Reader α) : id <$> p = p := by
  funext source s
  show (p >>= fun a => pure (id a)) source s = _
  rw [bind_apply]
  cases p source s with
  | mk result _ => cases result <;> rfl

theorem bind_assoc {γ : Type} (p : Reader α) (f : α → Reader β) (g : β → Reader γ) :
    p >>= f >>= g = p >>= fun a => f a >>= g := by
  funext source s
  simp only [bind_apply]
  cases p source s with
  | mk result _ => cases result <;> rfl

instance : LawfulMonad Reader := LawfulMonad.mk' Reader id_map (fun _ _ => rfl) bind_assoc

def fail (failure : Failure) : Reader α := fun _ s => (.error failure, s)

def refuse (fault : Fault) : Reader α := fail (.fault fault)

def source : Reader Text := fun source s => (.ok source, s)

def cursor : Reader Cursor := fun _ s => (.ok s.cursor, s)

def moveTo (cursor : Cursor) : Reader Unit := fun _ s => (.ok (), { s with cursor := cursor })

/-- The text from the cursor on. -/
def remaining : Reader Text := fun source s => (.ok (source.drop s.cursor.offset), s)

/-- The cursor may stand past the end of the text. -/
def atEnd : Reader Bool := fun source s => (.ok (source.length ≤ s.cursor.offset), s)

def state : Reader State := fun _ s => (.ok s, s)

/-- Puts an expectation on record. -/
def expectAt (label : Option Text) (offset : Int) : Reader Unit := fun _ s =>
  (.ok (), { s with expectations := ⟨label, offset, s.cursor⟩ :: s.expectations })

def expectHere (label : Option Text) : Reader Unit := do
  expectAt label (← cursor).offset

/-- Fails for want of something at an offset. -/
def failAt (label : Option Text) (offset : Int) : Reader α := do
  expectAt label offset
  fail (.backtrack offset)

def failHere (label : Option Text) : Reader α := do
  failAt label (← cursor).offset

def remark (t : Text) : Reader Unit := fun _ s =>
  (.ok (), { s with remarks := t :: s.remarks })

end Reader

end Schemata
