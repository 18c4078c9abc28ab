import Schemata.Proofs.Reading.Tracking

/-! # Readers that get to a place

What a reader does on a known text: it gets from one place to another with a known answer, or it gives up
there. On the way it may expect things, but never beyond a place that is fixed in advance, the horizon.
-/

namespace Schemata

open Layout

namespace Reader

variable {α β : Type} {h t u v : Text} {p q : Reader α} {a : α} {b : β} {f : α → Reader β}

/-- The state stands in the source right before `t`. -/
structure At (source : Text) (s : State) (t : Text) : Prop where
  rest : source.drop s.cursor.offset = t
  inside : s.cursor.offset + t.length = source.length

/-- Between the states nothing is expected beyond the place where `h` is left. -/
def Grows (h source : Text) (s s' : State) : Prop :=
  ∃ new, s'.expectations = new ++ s.expectations ∧
    ∀ e ∈ new, e.offset + h.length ≤ source.length

/-- From `t` on, the reader gets to a state right before `u`, and its outcome is as told about that state. -/
def Reaches (h : Text) (p : Reader α) (t u : Text)
    (outcome : Text → State → Except Failure α × State → Prop) : Prop :=
  ∀ source s, At source s t → ∃ s', At source s' u ∧ Grows h source s s' ∧ outcome source s' (p source s)

/-- The reader reads from `t` up to `u`. -/
def Passes (h : Text) (p : Reader α) (a : α) (t u : Text) : Prop :=
  Reaches h p t u fun _ s' result => result = (.ok a, s')

/-- The reader gives up at `t`. -/
def Halts (h : Text) (p : Reader α) (t : Text) : Prop :=
  ∀ source s, At source s t → ∃ offset s',
    p source s = (.error (.backtrack offset), s') ∧ Grows h source s s'

theorem At.of_cursor {source : Text} {s s' : State} (here : At source s t) (same : s'.cursor = s.cursor) :
    At source s' t := by
  constructor
  · rw [same, here.rest]
  · rw [same, here.inside]

theorem Grows.refl (h source : Text) (s : State) : Grows h source s s := ⟨[], rfl, by simp⟩

theorem Grows.trans {source : Text} {s s' s'' : State} (first : Grows h source s s')
    (second : Grows h source s' s'') : Grows h source s s'' := by
  obtain ⟨earlier, added, short⟩ := first
  obtain ⟨later, more, near⟩ := second
  refine ⟨later ++ earlier, by rw [more, added, List.append_assoc], fun e member => ?_⟩
  rcases List.mem_append.1 member with member | member
  · exact near e member
  · exact short e member

theorem Grows.of_expectations {source : Text} {s s' s'' : State} (grows : Grows h source s s')
    (same : s''.expectations = s'.expectations) : Grows h source s s'' := by
  obtain ⟨new, added, short⟩ := grows
  exact ⟨new, same.trans added, short⟩

/-! ## Sequences -/

theorem Passes.pure (h : Text) (a : α) (t : Text) : Passes h (pure a) a t t :=
  fun source s here => ⟨s, here, .refl h source s, rfl⟩

theorem Passes.bind {outcome : Text → State → Except Failure β × State → Prop}
    (first : Passes h p a t u) (rest : Reaches h (f a) u v outcome) : Reaches h (p >>= f) t v outcome := by
  intro source s here
  obtain ⟨s₁, there, grows, run⟩ := first source s here
  obtain ⟨s₂, beyond, more, ends⟩ := rest source s₁ there
  refine ⟨s₂, beyond, grows.trans more, ?_⟩
  rw [bind_apply, run]
  exact ends

theorem Passes.map {g : α → β} (first : Passes h p a t u) : Passes h (g <$> p) (g a) t u := by
  rw [map_eq_pure_bind]
  exact first.bind (Passes.pure h (g a) u)

theorem Halts.bind (first : Halts h p t) : Halts h (p >>= f) t := by
  intro source s here
  obtain ⟨offset, s', stopped, grows⟩ := first source s here
  exact ⟨offset, s', by rw [bind_apply, stopped], grows⟩

theorem Halts.bind_after (first : Passes h p a t u) (rest : Halts h (f a) u) : Halts h (p >>= f) t := by
  intro source s here
  obtain ⟨s₁, there, grows, run⟩ := first source s here
  obtain ⟨offset, s₂, stopped, more⟩ := rest source s₁ there
  refine ⟨offset, s₂, ?_, grows.trans more⟩
  rw [bind_apply, run]
  exact stopped

theorem Halts.map {g : α → β} (first : Halts h p t) : Halts h (g <$> p) t := by
  rw [map_eq_pure_bind]
  exact first.bind

/-! ## Choices -/

theorem Passes.attempt (passes : Passes h p a t u) : Passes h (attempt p) a t u := by
  intro source s here
  obtain ⟨s', there, grows, run⟩ := passes source s here
  exact ⟨s', there, grows, by simp only [Reader.attempt, run]⟩

theorem Halts.attempt (halts : Halts h p t) : Halts h (attempt p) t := by
  intro source s here
  obtain ⟨offset, s', stopped, grows⟩ := halts source s here
  refine ⟨offset, { s' with cursor := s.cursor }, ?_, grows.of_expectations rfl⟩
  simp only [Reader.attempt, stopped]

theorem Passes.recover (passes : Passes h p a t u) : Passes h (recover p q) a t u := by
  intro source s here
  obtain ⟨s', there, grows, run⟩ := passes source s here
  exact ⟨s', there, grows, by simp only [Reader.recover, run]⟩

theorem Reaches.recover {outcome : Text → State → Except Failure α × State → Prop} (halts : Halts h p t)
    (rewinds : Rewinds p) (second : Reaches h q t u outcome) : Reaches h (recover p q) t u outcome := by
  intro source s here
  obtain ⟨offset, s₁, stopped, grows⟩ := halts source s here
  obtain ⟨s₂, there, more, ends⟩ :=
    second source s₁ (here.of_cursor (rewinds source s offset s₁ stopped))
  refine ⟨s₂, there, grows.trans more, ?_⟩
  simp only [Reader.recover, stopped]
  exact ends

theorem Halts.recover (first : Halts h p t) (rewinds : Rewinds p) (second : Halts h q t) :
    Halts h (recover p q) t := by
  intro source s here
  obtain ⟨offset, s₁, stopped, grows⟩ := first source s here
  obtain ⟨offset', s₂, stopped', more⟩ :=
    second source s₁ (here.of_cursor (rewinds source s offset s₁ stopped))
  refine ⟨offset', s₂, ?_, grows.trans more⟩
  simp only [Reader.recover, stopped]
  exact stopped'

theorem Passes.optional (passes : Passes h p a t u) : Passes h (optional p) (some a) t u :=
  passes.attempt.map.recover

theorem Halts.optional (halts : Halts h p t) : Passes h (optional p) none t t :=
  Reaches.recover halts.attempt.map (attempt_rewinds p).map (Passes.pure h none t)

theorem Passes.isPresent (passes : Passes h p a t u) : Passes h (isPresent p) true t u :=
  passes.optional.map

theorem Halts.isPresent (halts : Halts h p t) : Passes h (isPresent p) false t t :=
  halts.optional.map

theorem Passes.choice {others : List (Reader α)} (passes : Passes h p a t u) :
    Passes h (choice (p :: others)) a t u := passes.attempt.recover

theorem Reaches.choice {outcome : Text → State → Except Failure α × State → Prop}
    {others : List (Reader α)} (halts : Halts h p t) (rest : Reaches h (choice others) t u outcome) :
    Reaches h (choice (p :: others)) t u outcome :=
  Reaches.recover halts.attempt (attempt_rewinds p) rest

theorem Halts.choice {ps : List (Reader α)} (halts : ∀ p ∈ ps, Halts h p t) : Halts h (choice ps) t := by
  induction ps with
  | nil => exact fun source s _ => ⟨s.cursor.offset, s, rfl, .refl h source s⟩
  | cons p others ih =>
    have later := ih fun q member => halts q (List.mem_cons_of_mem _ member)
    exact (halts p List.mem_cons_self).attempt.recover (attempt_rewinds p) later

/-- The first reader of a choice that does not give up. -/
theorem passes_choice {ps : List (Reader α)} (member : p ∈ ps)
    (others : ∀ q ∈ ps, Halts h q t ∨ Passes h q a t u) (passes : Passes h p a t u) :
    Passes h (choice ps) a t u := by
  induction ps with
  | nil => contradiction
  | cons first rest ih =>
    rcases others first List.mem_cons_self with halts | read
    · rcases List.mem_cons.1 member with rfl | member
      · exact passes.choice
      · exact Reaches.choice halts (ih member fun q inside => others q (List.mem_cons_of_mem _ inside))
    · exact read.choice

end Reader

end Schemata
