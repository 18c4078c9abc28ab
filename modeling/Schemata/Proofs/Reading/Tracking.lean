import Schemata.Proofs.Grammar.Completion
import Schemata.Proofs.Reading.Lexeme

/-! # Readers that keep to a language

A reader keeps to a language if two things hold from every state. Where it succeeds, what it moved over
lays out a phrase for its answer. Whatever it expects on the way, also in a choice that it gives up later,
it expects at an offset where the text so far is the beginning of a text with a phrase of the language.
Both are closed under the combinators of readers.
-/

namespace Schemata

namespace Reader

variable {α β : Type} {L : Language α} {M : Language β} {p q : Reader α} {f : α → Reader β}
  {source : Text} {s t u : State}

/-- From `start` up to where something is expected, the text is the beginning of one with a phrase. An
offset beyond the text says nothing. -/
def Expected (L : Language α) (source : Text) (start : Nat) (e : Expectation) : Prop :=
  ∃ offset : Nat, e.offset = offset ∧ start ≤ offset ∧ (offset ≤ source.length →
    ∃ tokens, L.Viable tokens ∧ Completable tokens ((source.drop start).take (offset - start)))

/-- What is expected between two states keeps to a language. -/
def Records (L : Language α) (source : Text) (start : Nat) (s t : State) : Prop :=
  ∃ new, t.expectations = new ++ s.expectations ∧ ∀ e ∈ new, Expected L source start e

/-- What lies between two offsets lays out tokens, unless it reaches beyond the text. -/
structure Covers (tokens : List Token) (source : Text) (start stop : Nat) : Prop where
  forward : start ≤ stop
  laid : stop ≤ source.length → Laid tokens (source.drop start) (source.drop stop)

/-- From a state, the reader keeps to the language. -/
structure TracksFrom (p : Reader α) (L : Language α) (source : Text) (s : State) : Prop where
  records : Records L source s.cursor.offset s (p source s).2
  reads : ∀ a t, p source s = (.ok a, t) →
    ∃ tokens, L a tokens ∧ Covers tokens source s.cursor.offset t.cursor.offset

/-- From every state, the reader keeps to the language, which has a phrase that can be written. -/
structure Tracks (p : Reader α) (L : Language α) : Prop where
  viable : L.Viable []
  each : ∀ source s, TracksFrom p L source s

theorem Expected.mono {start : Nat} {e : Expectation} (expected : Expected L source start e)
    (viable : ∀ tokens, L.Viable tokens → M.Viable tokens) : Expected M source start e := by
  obtain ⟨offset, here, beyond, within⟩ := expected
  refine ⟨offset, here, beyond, fun inside => ?_⟩
  obtain ⟨tokens, phrase, completable⟩ := within inside
  exact ⟨tokens, viable tokens phrase, completable⟩

theorem Covers.refl (offset : Nat) : Covers [] source offset offset := ⟨Nat.le_refl _, fun _ => .nil⟩

theorem Covers.append {front back : List Token} {start middle stop : Nat}
    (first : Covers front source start middle) (second : Covers back source middle stop) :
    Covers (front ++ back) source start stop := by
  refine ⟨Nat.le_trans first.forward second.forward, fun inside => ?_⟩
  exact (first.laid (Nat.le_trans second.forward inside)).append (second.laid inside)

private theorem drop_take_append {start middle offset : Nat} (first : start ≤ middle)
    (second : middle ≤ offset) :
    (source.drop start).take (middle - start) ++ (source.drop middle).take (offset - middle) =
      (source.drop start).take (offset - start) := by
  have moved : source.drop middle = (source.drop start).drop (middle - start) := by
    rw [List.drop_drop]
    congr 1
    omega
  have total : offset - start = (middle - start) + (offset - middle) := by omega
  rw [moved, total, List.take_add]

/-- After tokens, an expectation for the rest of a phrase is one for the whole phrase. -/
theorem Expected.after {front : List Token} {start middle : Nat} {e : Expectation}
    (covers : Covers front source start middle) (expected : Expected L source middle e)
    (viable : ∀ tokens, L.Viable tokens → M.Viable (front ++ tokens)) : Expected M source start e := by
  obtain ⟨offset, here, beyond, within⟩ := expected
  refine ⟨offset, here, Nat.le_trans covers.forward beyond, fun inside => ?_⟩
  obtain ⟨tokens, phrase, completable⟩ := within inside
  refine ⟨front ++ tokens, viable tokens phrase, ?_⟩
  have whole : source.drop start =
      (source.drop start).take (middle - start) ++ source.drop middle := by
    have moved : source.drop middle = (source.drop start).drop (middle - start) := by
      rw [List.drop_drop]
      congr 1
      have := covers.forward
      omega
    rw [moved, List.take_append_drop]
  have laid := covers.laid (Nat.le_trans beyond inside)
  rw [whole] at laid
  rw [← drop_take_append covers.forward beyond]
  exact Completable.append laid completable

namespace Records

variable {start : Nat}

theorem refl (L : Language α) (source : Text) (start : Nat) (s : State) : Records L source start s s :=
  ⟨[], rfl, by simp⟩

theorem trans (first : Records L source start s t) (second : Records L source start t u) :
    Records L source start s u := by
  obtain ⟨earlier, added, kept⟩ := first
  obtain ⟨later, more, held⟩ := second
  refine ⟨later ++ earlier, by rw [more, added, List.append_assoc], fun e member => ?_⟩
  rcases List.mem_append.1 member with member | member
  · exact held e member
  · exact kept e member

theorem mono (records : Records L source start s t)
    (viable : ∀ tokens, L.Viable tokens → M.Viable tokens) : Records M source start s t := by
  obtain ⟨new, added, kept⟩ := records
  exact ⟨new, added, fun e member => (kept e member).mono viable⟩

theorem after {front : List Token} {middle : Nat} (covers : Covers front source start middle)
    (records : Records L source middle s t)
    (viable : ∀ tokens, L.Viable tokens → M.Viable (front ++ tokens)) : Records M source start s t := by
  obtain ⟨new, added, kept⟩ := records
  exact ⟨new, added, fun e member => (kept e member).after covers viable⟩

/-- Only the expectations of the last state count. -/
theorem of_expectations {t' : State} (records : Records L source start s t)
    (same : t'.expectations = t.expectations) : Records L source start s t' := by
  obtain ⟨new, added, kept⟩ := records
  exact ⟨new, same.trans added, kept⟩

end Records

/-- A reader that stays where it is when it backtracks. -/
def Rewinds (p : Reader α) : Prop :=
  ∀ source s offset t, p source s = (.error (.backtrack offset), t) → t.cursor = s.cursor

namespace TracksFrom

/-- A reader that only fails. -/
theorem of_error {failure : Failure} (stopped : p source s = (.error failure, t))
    (records : Records L source s.cursor.offset s t) : TracksFrom p L source s := by
  refine ⟨by rw [stopped]; exact records, fun a u success => ?_⟩
  rw [stopped] at success
  cases success

theorem congr (tracks : TracksFrom p L source s) (same : q source s = p source s) :
    TracksFrom q L source s := by
  refine ⟨by rw [same]; exact tracks.records, fun a t success => ?_⟩
  exact tracks.reads a t (same.symm.trans success)

/-- After a phrase of the first reader, the second one is to keep to what is missing. -/
theorem bind (first : TracksFrom p L source s)
    (viable : ∀ tokens, L.Viable tokens → M.Viable tokens)
    (second : ∀ a t front, p source s = (.ok a, t) → L a front →
      TracksFrom (f a) (fun b back => M b (front ++ back)) source t) :
    TracksFrom (p >>= f) M source s := by
  have earlier := first.records.mono viable
  cases run : p source s with
  | mk result t =>
    rw [run] at earlier
    cases result with
    | error failure => exact of_error (by rw [bind_apply, run]) earlier
    | ok a =>
      have whole : (p >>= f) source s = f a source t := by rw [bind_apply, run]
      obtain ⟨front, phrase, covers⟩ := first.reads a t run
      have rest := second a t front run phrase
      constructor
      · rw [whole]
        apply earlier.trans (rest.records.after covers _)
        rintro tokens ⟨b, more, phrase, writable⟩
        exact ⟨b, more, by simpa using phrase, writable⟩
      · intro b u success
        rw [whole] at success
        obtain ⟨back, phrase, more⟩ := rest.reads b u success
        exact ⟨front ++ back, phrase, covers.append more⟩

/-- The second reader goes on where the first one backtracked, and that is where it started. -/
theorem recover (first : TracksFrom p L source s) (rewinds : Rewinds p)
    (second : ∀ offset t, p source s = (.error (.backtrack offset), t) → TracksFrom q L source t) :
    TracksFrom (recover p q) L source s := by
  cases run : p source s with
  | mk result t =>
    have earlier := first.records
    rw [run] at earlier
    cases result with
    | ok a => exact first.congr (by simp only [Reader.recover, run])
    | error failure =>
      cases failure with
      | cut offset => exact first.congr (by simp only [Reader.recover, run])
      | fault fault => exact first.congr (by simp only [Reader.recover, run])
      | backtrack offset =>
        have whole : Reader.recover p q source s = q source t := by simp only [Reader.recover, run]
        have later := second offset t run
        have back := rewinds source s offset t run
        constructor
        · rw [whole, ← back]
          rw [← back] at earlier
          exact earlier.trans later.records
        · intro a u success
          rw [← back]
          exact later.reads a u (whole.symm.trans success)

end TracksFrom

namespace Tracks

theorem mono {M : Language α} (tracks : Tracks p L) (sub : ∀ a tokens, L a tokens → M a tokens) :
    Tracks p M := by
  have viable (tokens : List Token) : L.Viable tokens → M.Viable tokens := by
    rintro ⟨a, more, phrase, writable⟩
    exact ⟨a, more, sub a _ phrase, writable⟩
  refine ⟨viable [] tracks.viable, fun source s => ?_⟩
  refine ⟨(tracks.each source s).records.mono viable, fun a t success => ?_⟩
  obtain ⟨tokens, phrase, covers⟩ := (tracks.each source s).reads a t success
  exact ⟨tokens, sub a tokens phrase, covers⟩

theorem pure {a : α} (phrase : L a []) : Tracks (pure a) L := by
  refine ⟨Language.Viable.of_phrase phrase, fun source s => ⟨Records.refl L source _ s, ?_⟩⟩
  rintro _ _ ⟨⟩
  exact ⟨[], phrase, Covers.refl _⟩

/-- A fault expects nothing. -/
theorem refuse (fault : Fault) (viable : L.Viable []) : Tracks (refuse fault : Reader α) L :=
  ⟨viable, fun source s => .of_error rfl (Records.refl L source _ s)⟩

theorem bind (first : Tracks p L)
    (second : ∀ a front, L a front → Tracks (f a) fun b back => M b (front ++ back)) :
    Tracks (p >>= f) M := by
  have viable (tokens : List Token) : L.Viable tokens → M.Viable tokens := by
    rintro ⟨a, more, phrase, writable⟩
    obtain ⟨b, rest, whole, written⟩ := (second a _ phrase).viable
    refine ⟨b, more ++ rest, by simpa using whole, fun token member => ?_⟩
    rcases List.mem_append.1 member with member | member
    · exact writable token member
    · exact written token member
  refine ⟨viable [] first.viable, fun source s => ?_⟩
  exact (first.each source s).bind viable fun a t front _ phrase => (second a front phrase).each source t

theorem map {g : α → β} (tracks : Tracks p L) (sub : ∀ a tokens, L a tokens → M (g a) tokens) :
    Tracks (g <$> p) M := by
  rw [map_eq_pure_bind]
  refine tracks.bind fun a front phrase => ?_
  exact pure (by simpa using sub a front phrase)

theorem attempt (tracks : Tracks p L) : Tracks (attempt p) L := by
  refine ⟨tracks.viable, fun source s => ⟨?_, fun a t success => ?_⟩⟩
  · apply (tracks.each source s).records.of_expectations
    simp only [Reader.attempt]
    split <;> simp_all
  · apply (tracks.each source s).reads a t
    simp only [Reader.attempt] at success
    split at success <;> simp_all

theorem commit (tracks : Tracks p L) : Tracks (commit p) L := by
  refine ⟨tracks.viable, fun source s => ⟨?_, fun a t success => ?_⟩⟩
  · apply (tracks.each source s).records.of_expectations
    simp only [Reader.commit]
    split <;> simp_all
  · apply (tracks.each source s).reads a t
    simp only [Reader.commit] at success
    split at success <;> simp_all

theorem recover (first : Tracks p L) (rewinds : Rewinds p) (second : Tracks q L) :
    Tracks (recover p q) L :=
  ⟨first.viable, fun source s =>
    (first.each source s).recover rewinds fun _ t _ => second.each source t⟩

/-- Reading the source takes no tokens. -/
theorem wholeSource : Tracks Reader.source fun _ tokens => tokens = [] := by
  refine ⟨.of_phrase (a := []) rfl, fun source s => ⟨Records.refl _ source _ s, ?_⟩⟩
  rintro _ _ ⟨⟩
  exact ⟨[], rfl, Covers.refl _⟩

theorem remark (t : Text) : Tracks (remark t) fun _ tokens => tokens = [] := by
  refine ⟨.of_phrase (a := ()) rfl, fun source s => ⟨⟨[], rfl, by simp⟩, ?_⟩⟩
  rintro _ _ ⟨⟩
  exact ⟨[], rfl, Covers.refl _⟩

/-- Something that is expected at the cursor, where anything may follow. -/
theorem expectHere (label : Option Text) : Tracks (expectHere label) fun _ tokens => tokens = [] := by
  refine ⟨.of_phrase (a := ()) rfl, fun source s => ⟨⟨[_], rfl, fun e member => ?_⟩, ?_⟩⟩
  · obtain rfl := List.mem_singleton.1 member
    refine ⟨s.cursor.offset, rfl, Nat.le_refl _, fun _ => ⟨[], .of_phrase (a := ()) rfl, ?_⟩⟩
    simpa using Completable.nil
  · rintro _ _ ⟨⟩
    exact ⟨[], rfl, Covers.refl _⟩

/-- Asking whether the text is over takes no tokens. -/
theorem atEnd : Tracks atEnd fun _ tokens => tokens = [] := by
  refine ⟨.of_phrase (a := true) rfl, fun source s => ⟨Records.refl _ source _ s, ?_⟩⟩
  rintro _ _ ⟨⟩
  exact ⟨[], rfl, Covers.refl _⟩

end Tracks

theorem attempt_rewinds (p : Reader α) : Rewinds (attempt p) := by
  intro source s offset t stopped
  simp only [attempt] at stopped
  split at stopped
  · cases stopped
    rfl
  · next other run =>
    cases stopped
    exact absurd rfl (other _)

theorem Rewinds.map {g : α → β} (rewinds : Rewinds p) : Rewinds (g <$> p) := by
  intro source s offset t stopped
  rw [map_eq_pure_bind, bind_apply] at stopped
  cases run : p source s with
  | mk result u =>
    rw [run] at stopped
    cases result with
    | ok a => simp at stopped
    | error failure =>
      cases stopped
      exact rewinds source s offset _ run

theorem Tracks.optional (tracks : Tracks p L) : Tracks (optional p) L.optional := by
  have present : Tracks (some <$> Reader.attempt p) L.optional :=
    tracks.attempt.map fun _ _ phrase => phrase
  exact present.recover (attempt_rewinds p).map (Tracks.pure rfl)

theorem Tracks.isPresent (tracks : Tracks p L) : Tracks (isPresent p) L.present := by
  refine tracks.optional.map fun value tokens phrase => ?_
  cases value with
  | none => exact phrase
  | some a => exact ⟨a, phrase⟩

theorem choice_rewinds (ps : List (Reader α)) : Rewinds (choice ps) := by
  intro source s offset t stopped
  induction ps generalizing s with
  | nil =>
    cases stopped
    rfl
  | cons p others ih =>
    simp only [choice, recover] at stopped
    split at stopped
    · next offset' u run =>
      rw [ih u stopped]
      exact attempt_rewinds p source s offset' u run
    · next other run =>
      cases stopped
      exact absurd rfl (other _)

theorem Tracks.choice {ps : List (Reader α)} (viable : L.Viable []) (tracks : ∀ p ∈ ps, Tracks p L) :
    Tracks (choice ps) L := by
  induction ps with
  | nil => exact ⟨viable, fun source s => .of_error rfl (Records.refl L source _ s)⟩
  | cons p others ih =>
    have first := (tracks p List.mem_cons_self).attempt
    have later := ih fun q member => tracks q (List.mem_cons_of_mem _ member)
    exact first.recover (attempt_rewinds p) later

/-- Where a choice backtracks, each of its readers backtracked from the same place. -/
theorem backtrack_of_choice {ps : List (Reader α)} {offset : Int}
    (stopped : choice ps source s = (.error (.backtrack offset), t)) (member : p ∈ ps) :
    ∃ s' offset' t', s'.cursor = s.cursor ∧ p source s' = (.error (.backtrack offset'), t') := by
  induction ps generalizing s with
  | nil => contradiction
  | cons first others ih =>
    simp only [choice, recover] at stopped
    split at stopped
    · next offset' u run =>
      rcases List.mem_cons.1 member with rfl | member
      · simp only [attempt] at run
        split at run
        · next _ v inner => exact ⟨s, _, v, rfl, inner⟩
        · next other inner =>
          cases run
          exact absurd rfl (other _)
      · obtain ⟨s', offset'', t', same, inner⟩ := ih stopped member
        exact ⟨s', offset'', t', same.trans (attempt_rewinds first source s offset' u run), inner⟩
    · next other run =>
      cases stopped
      exact absurd rfl (other _)

end Reader

end Schemata
