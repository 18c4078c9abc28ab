import Mathlib.Logic.Relation
import Schemata.Proofs.Reading.Token

/-! # Readers that walk from token to token

A cursor moves in steps of one token and the layout after it. Whatever a reader does, and however it ends,
each cursor at which it expects something and the cursor at which it stops are reached by such steps from
where it started; what it expects lies there, or farther on within the text; it does not fail without
having expected something; and no fault stops it that the text does not cause. This is closed under the
combinators of readers.
-/

namespace Schemata

open Layout

/-! ## Steps of a cursor -/

namespace Source

/-- The part of a text between two offsets. -/
def slice (source : Text) (start stop : Nat) : Text := (source.drop start).take (stop - start)

/-- The offset lies in the text, or right past its end where a code point of the text has a longer
upper-case form. -/
def Within (source : Text) (offset : Nat) : Prop :=
  offset ≤ source.length ∨ offset = source.length + 1 ∧ ∃ c ∈ source, c.expands = true

/-- Between the offsets stands layout, and it does not reach beyond the text. -/
structure LayoutBetween (source : Text) (start stop : Nat) : Prop where
  forward : start ≤ stop
  inside : start < stop → stop ≤ source.length
  layout : Gap (slice source start stop) (source.drop stop)

/-- Between the offsets stands a token, as far as the text reaches. -/
structure Chunk (source : Text) (start stop : Nat) : Prop where
  forward : start < stop
  spelt : stop ≤ source.length →
    ∃ token : Token, token.Spells (slice source start stop) (source.drop stop)
  within : Within source stop

theorem slice_add (source : Text) (start length : Nat) :
    slice source start (start + length) = (source.drop start).take length := by
  rw [slice, Nat.add_sub_cancel_left]

theorem slice_self (source : Text) (offset : Nat) : slice source offset offset = [] := by
  rw [slice, Nat.sub_self, List.take_zero]

/-- The text from the first offset on starts with the part up to the second one. -/
theorem drop_eq_slice_append {start stop : Nat} (forward : start ≤ stop) (source : Text) :
    source.drop start = slice source start stop ++ source.drop stop := by
  obtain ⟨length, rfl⟩ := Nat.exists_eq_add_of_le forward
  rw [slice_add, ← List.drop_drop, List.take_append_drop]

theorem layoutBetween_self (source : Text) (offset : Nat) : LayoutBetween source offset offset := by
  refine ⟨Nat.le_refl _, fun moved => absurd moved (Nat.lt_irrefl _), ?_⟩
  rw [slice_self]
  exact Closed.nil.gap _

/-- Measured layout stands between the offsets. -/
theorem layoutBetween_of_length? {source : Text} {start gap : Nat}
    (measured : length? (source.drop start) = some gap) : LayoutBetween source start (start + gap) := by
  obtain ⟨layout, rest, split, rfl, between, _⟩ := gap_of_length? measured
  have after : source.drop (start + layout.length) = rest := by rw [← List.drop_drop, split, List.drop_left]
  refine ⟨Nat.le_add_right _ _, fun moved => ?_, ?_⟩
  · have width := congrArg List.length split
    rw [List.length_drop, List.length_append] at width
    omega
  · rw [slice_add, split, List.take_left, after]
    exact between

/-- A token that is spelt in the text makes a chunk. -/
theorem Chunk.of_spells {source : Text} {start length : Nat} {token : Token}
    (inside : length ≤ (source.drop start).length)
    (spelt : token.Spells ((source.drop start).take length) ((source.drop start).drop length)) :
    Chunk source start (start + length) := by
  have filled : 0 < length := by
    refine Nat.pos_of_ne_zero ?_
    rintro rfl
    exact Text.ne_nil_of_isSign spelt.isSign (List.take_zero)
  rw [List.length_drop] at inside
  refine ⟨by omega, fun _ => ⟨token, ?_⟩, .inl (by omega)⟩
  rwa [slice_add, ← List.drop_drop]

end Source

open Source

/-- From the first cursor a token is read, and the layout after it up to the second cursor. -/
structure Step (source : Text) (c d : Cursor) : Prop where
  chunk : Chunk source c.offset d.tokenEnd
  layout : LayoutBetween source d.tokenEnd d.offset

/-- The second cursor is reached from the first one by reading tokens. -/
abbrev Route (source : Text) : Cursor → Cursor → Prop := Relation.ReflTransGen (Step source)

/-- The cursor stands within the text, and from the end of its last token it has moved over layout. -/
structure Cursor.Sound (source : Text) (c : Cursor) : Prop where
  within : Within source c.offset
  layout : LayoutBetween source c.tokenEnd c.offset

theorem Cursor.sound_of_le {source : Text} {offset : Nat} (inside : offset ≤ source.length) :
    Sound source ⟨offset, offset⟩ := ⟨.inl inside, layoutBetween_self source offset⟩

theorem Step.sound {source : Text} {c d : Cursor} (step : Step source c d) : d.Sound source := by
  refine ⟨?_, step.layout⟩
  rcases Nat.lt_or_ge d.tokenEnd d.offset with moved | still
  · exact .inl (step.layout.inside moved)
  · rw [← Nat.le_antisymm step.layout.forward still]
    exact step.chunk.within

/-- A step lays out one token. -/
theorem Step.covers {source : Text} {c d : Cursor} (step : Step source c d) :
    ∃ tokens, Reader.Covers tokens source c.offset d.offset := by
  have first := step.chunk.forward
  have second := step.layout.forward
  by_cases inside : d.offset ≤ source.length
  · obtain ⟨token, spelt⟩ := step.chunk.spelt (by omega)
    refine ⟨[token], by omega, fun _ => ?_⟩
    rw [drop_eq_slice_append (Nat.le_of_lt first) source, drop_eq_slice_append second source]
    rw [drop_eq_slice_append second source] at spelt
    exact Laid.single spelt step.layout.layout
  · exact ⟨[], by omega, fun short => absurd short inside⟩

namespace Route

variable {source : Text} {c d : Cursor}

theorem sound (route : Route source c d) (start : c.Sound source) : d.Sound source := by
  rcases route.cases_tail with same | ⟨_, _, step⟩
  · exact same ▸ start
  · exact step.sound

/-- The text between two cursors of a route is laid out in tokens. -/
theorem covers (route : Route source c d) : ∃ tokens, Reader.Covers tokens source c.offset d.offset := by
  induction route with
  | refl => exact ⟨[], .refl _⟩
  | tail _ step ih =>
    obtain ⟨front, first⟩ := ih
    obtain ⟨back, second⟩ := step.covers
    exact ⟨front ++ back, first.append second⟩

theorem forward (route : Route source c d) : c.offset ≤ d.offset := by
  obtain ⟨_, covers⟩ := route.covers
  exact covers.forward

end Route

/-! ## Faults of a text -/

/-- A fault that a text can cause; the others never arise. -/
inductive Fault.CausedBy (source : Text) : Fault → Prop
  | tooDeep : CausedBy source .tooDeep
  | oversizedNumber {count : Nat} : source.HoldsOversized count → CausedBy source (.oversizedNumber count)

namespace Reader

variable {α β : Type} {p q : Reader α} {f : α → Reader β} {source : Text} {s t : State}

/-- What is expected between two cursors: at a cursor on the way, or farther on within the text. -/
structure Met (source : Text) (start : Cursor) (e : Expectation) : Prop where
  route : Route source start e.cursor
  place : e.offset = e.cursor.offset ∨ e.cursor.offset < e.offset ∧ e.offset ≤ source.length

/-- From a state, the reader walks from token to token. -/
structure WalksFrom (p : Reader α) (source : Text) (s : State) : Prop where
  route : Route source s.cursor (p source s).2.cursor
  met : ∃ new, (p source s).2.expectations = new ++ s.expectations ∧ ∀ e ∈ new, Met source s.cursor e
  expects : ∀ failure t, p source s = (.error failure, t) →
    (∃ fault, failure = .fault fault) ∨ t.expectations ≠ []
  faults : ∀ fault t, p source s = (.error (.fault fault), t) → fault.CausedBy source

/-- From every state, the reader walks from token to token. -/
def Walks (p : Reader α) : Prop := ∀ source s, WalksFrom p source s

theorem Met.after {start middle : Cursor} {e : Expectation} (route : Route source start middle)
    (met : Met source middle e) : Met source start e := ⟨route.trans met.route, met.place⟩

namespace WalksFrom

theorem congr (walks : WalksFrom p source s) (same : q source s = p source s) : WalksFrom q source s := by
  obtain ⟨route, met, expects, faults⟩ := walks
  exact ⟨by rwa [same], by rwa [same], by rwa [same], by rwa [same]⟩

/-- A reader that backtracks has expected something, it or one before it. -/
theorem filled_of_backtrack {offset : Int} (walks : WalksFrom p source s)
    (stopped : p source s = (.error (.backtrack offset), t)) : t.expectations ≠ [] := by
  rcases walks.expects _ t stopped with ⟨fault, same⟩ | filled
  · cases same
  · exact filled

/-- A reader that succeeds without expecting anything. -/
theorem of_ok {a : α} (run : p source s = (.ok a, t)) (route : Route source s.cursor t.cursor)
    (same : t.expectations = s.expectations) : WalksFrom p source s := by
  refine ⟨by rwa [run], ⟨[], by rw [run]; exact same, by simp⟩, fun failure u stopped => ?_,
    fun fault u stopped => ?_⟩ <;> exact absurd (run.symm.trans stopped) (by simp)

/-- A reader that expects one thing and gives up. -/
theorem of_backtrack {offset : Int} {e : Expectation} (run : p source s = (.error (.backtrack offset), t))
    (route : Route source s.cursor t.cursor) (added : t.expectations = e :: s.expectations)
    (met : Met source s.cursor e) : WalksFrom p source s := by
  refine ⟨by rwa [run], ⟨[e], by rw [run]; exact added, by simpa using met⟩, fun failure u stopped => ?_,
    fun fault u stopped => ?_⟩
  · obtain ⟨_, rfl⟩ := Prod.mk.inj (run.symm.trans stopped)
    exact .inr (by rw [added]; exact List.cons_ne_nil _ _)
  · exact absurd (run.symm.trans stopped) (by simp)

/-- A reader that stops at once for a fault of the text. -/
theorem of_fault {fault : Fault} (run : p source s = refuse fault source s) (caused : fault.CausedBy source) :
    WalksFrom p source s := by
  have run : p source s = (.error (.fault fault), s) := run
  refine ⟨by rw [run], ⟨[], by rw [run]; rfl, by simp⟩, fun failure u stopped => ?_,
    fun other u stopped => ?_⟩
  · obtain ⟨same, _⟩ := Prod.mk.inj (run.symm.trans stopped)
    exact .inl ⟨fault, (Except.error.inj same).symm⟩
  · obtain ⟨same, _⟩ := Prod.mk.inj (run.symm.trans stopped)
    obtain rfl := Failure.fault.inj (Except.error.inj same)
    exact caused

/-- Where one reader has walked, another one walks on. -/
theorem follow {result : Except Failure α} {q r : Reader β} (first : WalksFrom p source s)
    (run : p source s = (result, t)) (later : WalksFrom q source t) (whole : r source s = q source t) :
    WalksFrom r source s := by
  obtain ⟨route, ⟨earlier, added, kept⟩, -, -⟩ := first
  rw [run] at route added
  obtain ⟨rest, ⟨new, added', kept'⟩, expects, faults⟩ := later
  refine ⟨by rw [whole]; exact route.trans rest, ⟨new ++ earlier, ?_, fun e member => ?_⟩,
    by rwa [whole], by rwa [whole]⟩
  · rw [whole, added', added, List.append_assoc]
  · rcases List.mem_append.1 member with member | member
    · exact (kept' e member).after route
    · exact kept e member

theorem bind (first : WalksFrom p source s)
    (second : ∀ a t, p source s = (.ok a, t) → WalksFrom (f a) source t) : WalksFrom (p >>= f) source s := by
  cases run : p source s with
  | mk result t =>
    cases result with
    | ok a => exact first.follow run (second a t run) (by rw [bind_apply, run])
    | error failure =>
      have whole : (p >>= f) source s = (.error failure, t) := by rw [bind_apply, run]
      obtain ⟨route, met, expects, faults⟩ := first
      rw [run] at route met
      refine ⟨by rwa [whole], by rwa [whole], fun failure u stopped => ?_, fun fault u stopped => ?_⟩
      · cases whole.symm.trans stopped
        exact expects failure t run
      · cases whole.symm.trans stopped
        exact faults fault t run

/-- The second reader goes on where the first one gave up. -/
theorem recover (first : WalksFrom p source s)
    (second : ∀ offset t, p source s = (.error (.backtrack offset), t) → WalksFrom q source t) :
    WalksFrom (recover p q) source s := by
  cases run : p source s with
  | mk result t =>
    cases result with
    | ok a => exact first.congr (by simp only [Reader.recover, run])
    | error failure =>
      cases failure with
      | cut offset => exact first.congr (by simp only [Reader.recover, run])
      | fault fault => exact first.congr (by simp only [Reader.recover, run])
      | backtrack offset =>
        exact first.follow run (second offset t run) (by simp only [Reader.recover, run])

/-- A lexeme whose chunk is a token makes one step, also where the layout after it is not closed. -/
theorem of_lexeme {length : Nat} {a : α} (run : p source s = lexeme length a source s)
    (chunk : Chunk source s.cursor.offset (s.cursor.offset + length)) : WalksFrom p source s := by
  cases measured : length? (source.drop (s.cursor.offset + length)) with
  | some gap =>
    rw [lexeme_of_gap measured] at run
    exact .of_ok run (.single ⟨chunk, layoutBetween_of_length? measured⟩) rfl
  | none =>
    rw [lexeme_of_open measured] at run
    have step : Step source s.cursor ⟨s.cursor.offset + length, s.cursor.offset + length⟩ :=
      ⟨chunk, layoutBetween_self source _⟩
    have inside : s.cursor.offset + length < source.length := by
      refine Nat.lt_of_not_le fun beyond => ?_
      rw [List.drop_of_length_le beyond] at measured
      simp [length?, measure?] at measured
    refine .of_backtrack run (.single step) rfl ⟨.single step, .inr ⟨?_, Int.le_refl _⟩⟩
    exact Int.ofNat_lt.2 inside

/-- What is missing is expected at the cursor, or farther on within the text. -/
theorem of_failAt {label : Option Text} {offset : Nat} (run : p source s = failAt label offset source s)
    (place : offset = s.cursor.offset ∨ s.cursor.offset < offset ∧ offset ≤ source.length) :
    WalksFrom p source s := by
  refine .of_backtrack run .refl rfl ⟨.refl, ?_⟩
  rcases place with here | ⟨beyond, inside⟩
  · exact .inl (Int.ofNat_inj.2 here)
  · exact .inr ⟨Int.ofNat_lt.2 beyond, Int.ofNat_le.2 inside⟩

end WalksFrom

namespace Walks

theorem pure (a : α) : Walks (pure a) := fun _ _ => .of_ok rfl .refl rfl

theorem refuse_tooDeep : Walks (refuse .tooDeep : Reader α) := fun _ _ => .of_fault rfl .tooDeep

theorem wholeSource : Walks Reader.source := fun _ _ => .of_ok rfl .refl rfl

theorem atEnd : Walks atEnd := fun _ _ => .of_ok rfl .refl rfl

theorem remark (t : Text) : Walks (remark t) := fun _ _ => .of_ok rfl .refl rfl

theorem failHere (label : Option Text) : Walks (failHere label : Reader α) :=
  fun _ _ => .of_failAt rfl (.inl rfl)

theorem bind (first : Walks p) (second : ∀ a, Walks (f a)) : Walks (p >>= f) :=
  fun source s => (first source s).bind fun a t _ => second a source t

theorem map (g : α → β) (walks : Walks p) : Walks (g <$> p) := by
  rw [map_eq_pure_bind]
  exact walks.bind fun _ => .pure _

theorem expectHere (label : Option Text) : Walks (expectHere label) := by
  intro source s
  refine ⟨.refl, ⟨[_], rfl, fun e member => ?_⟩, fun _ _ stopped => ?_, fun _ _ stopped => ?_⟩
  · obtain rfl := List.mem_singleton.1 member
    exact ⟨.refl, .inl rfl⟩
  · cases stopped
  · cases stopped

/-- Moving the cursor back starts the way anew. -/
theorem attempt (walks : Walks p) : Walks (attempt p) := by
  intro source s
  cases run : p source s with
  | mk result t =>
    cases result with
    | ok a => exact (walks source s).congr (by simp only [Reader.attempt, run])
    | error failure =>
      cases failure with
      | cut offset => exact (walks source s).congr (by simp only [Reader.attempt, run])
      | fault fault => exact (walks source s).congr (by simp only [Reader.attempt, run])
      | backtrack offset =>
        have whole : Reader.attempt p source s =
            (.error (.backtrack offset), { t with cursor := s.cursor }) := by
          simp only [Reader.attempt, run]
        have filled := (walks source s).filled_of_backtrack run
        obtain ⟨-, met, -, -⟩ := walks source s
        rw [run] at met
        refine ⟨by rw [whole], by rw [whole]; exact met, fun failure u stopped => ?_,
          fun fault u stopped => ?_⟩
        · cases whole.symm.trans stopped
          exact .inr filled
        · cases whole.symm.trans stopped

theorem commit (walks : Walks p) : Walks (commit p) := by
  intro source s
  cases run : p source s with
  | mk result t =>
    cases result with
    | ok a => exact (walks source s).congr (by simp only [Reader.commit, run])
    | error failure =>
      cases failure with
      | cut offset => exact (walks source s).congr (by simp only [Reader.commit, run])
      | fault fault => exact (walks source s).congr (by simp only [Reader.commit, run])
      | backtrack offset =>
        have whole : Reader.commit p source s = (.error (.cut offset), t) := by
          simp only [Reader.commit, run]
        obtain ⟨route, met, -, -⟩ := walks source s
        rw [run] at route met
        refine ⟨by rwa [whole], by rwa [whole], fun failure u stopped => ?_, fun fault u stopped => ?_⟩
        · cases whole.symm.trans stopped
          exact .inr ((walks source s).filled_of_backtrack run)
        · cases whole.symm.trans stopped

theorem recover (first : Walks p) (second : Walks q) : Walks (recover p q) :=
  fun source s => (first source s).recover fun _ t _ => second source t

theorem optional (walks : Walks p) : Walks (optional p) := (walks.attempt.map some).recover (.pure none)

theorem isPresent (walks : Walks p) : Walks (isPresent p) := walks.optional.map _

/-- A choice among one reader or more; where all backtrack, one of them has expected something. -/
theorem choice {ps : List (Reader α)} (filled : ps ≠ []) (walks : ∀ p ∈ ps, Walks p) :
    Walks (choice ps) := by
  induction ps with
  | nil => contradiction
  | cons p others ih =>
    have first := (walks p List.mem_cons_self).attempt
    cases others with
    | nil =>
      intro source s
      refine (first source s).recover fun offset t stopped => ?_
      refine ⟨.refl, ⟨[], rfl, by simp⟩, fun failure u again => ?_, fun fault u again => ?_⟩
      · cases again
        exact .inr ((first source s).filled_of_backtrack stopped)
      · cases again
    | cons q more =>
      exact first.recover (ih (List.cons_ne_nil _ _) fun r member => walks r (List.mem_cons_of_mem _ member))

theorem mapM {g : β → Reader α} {values : List β} (each : ∀ b ∈ values, Walks (g b)) :
    Walks (values.mapM g) := by
  induction values with
  | nil => exact .pure []
  | cons b rest ih =>
    rw [List.mapM_cons]
    refine (each b List.mem_cons_self).bind fun _ => ?_
    exact (ih fun c member => each c (List.mem_cons_of_mem _ member)).bind fun _ => .pure _

end Walks

end Reader

end Schemata
