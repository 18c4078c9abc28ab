import Schemata.Proofs.Reading.Frontier
import Schemata.Proofs.Reading.Run

/-! # Readers on moved texts

A reader sees no more of a text than what is left of it. Where another text is put before that text, the
reader does the same that many code points farther on: it has the same result, and its frontier is moved
along, whatever was expected before.
-/

namespace Schemata

open Layout

/-- The failure that many code points farther on. -/
def Failure.moved (width : Nat) : Failure → Failure
  | .backtrack offset => .backtrack (offset + width)
  | .cut offset => .cut (offset + width)
  | .fault reason => .fault reason

/-- The second state is the first one that many code points farther on; `ends` relates the ends of their
last tokens, as it relates all places that are that far apart. -/
structure State.Moved (width : Nat) (ends : Nat → Nat → Prop) (s s' : State) : Prop where
  apart : ∀ place, ends place (place + width)
  offset : s'.cursor.offset = s.cursor.offset + width
  tokenEnd : ends s.cursor.tokenEnd s'.cursor.tokenEnd
  frontier : Frontier.Moved width ends s.frontier s'.frontier

namespace State.Moved

variable {width : Nat} {ends : Nat → Nat → Prop} {s s' : State}

theorem atCursor (moved : Moved width ends s s') {cursor cursor' : Cursor}
    (offset : cursor'.offset = cursor.offset + width) (tokenEnd : ends cursor.tokenEnd cursor'.tokenEnd) :
    Moved width ends (s.at cursor) (s'.at cursor') :=
  ⟨moved.apart, offset, tokenEnd, moved.frontier⟩

theorem expecting (moved : Moved width ends s s') (label : Option Text) {offset offset' : Nat}
    (same : offset' = offset + width) :
    Moved width ends (s.expecting label offset) (s'.expecting label offset') := by
  have moves := moved.offset
  refine ⟨moved.apart, moves, moved.tokenEnd, moved.frontier.add rfl ?_ (Int.natCast_nonneg offset) ?_⟩
  · simp only
    omega
  · simp only [Expectation.report]
    by_cases here : (offset : Int) = s.cursor.offset
    · rw [if_pos here, if_pos (by omega)]
      exact moved.tokenEnd
    · rw [if_neg here, if_neg (by omega), same]
      exact moved.apart offset

theorem remarking (moved : Moved width ends s s') (remarks remarks' : List Text) :
    Moved width ends { s with remarks := remarks } { s' with remarks := remarks' } :=
  ⟨moved.apart, moved.offset, moved.tokenEnd, moved.frontier⟩

/-- The same is left of both texts. -/
theorem drop_add {front : Text} (moved : Moved front.length ends s s') (source : Text) (length : Nat) :
    (front ++ source).drop (s'.cursor.offset + length) = source.drop (s.cursor.offset + length) := by
  have total : s'.cursor.offset + length = front.length + (s.cursor.offset + length) := by
    have := moved.offset
    omega
  rw [total, List.drop_length_add_append]

theorem drop {front : Text} (moved : Moved front.length ends s s') (source : Text) :
    (front ++ source).drop s'.cursor.offset = source.drop s.cursor.offset :=
  moved.drop_add source 0

end State.Moved

namespace Reader

variable {α β : Type} {p q : Reader α} {f : α → Reader β} {width : Nat} {ends : Nat → Nat → Prop}

/-- The second run is the first one that many code points farther on. -/
structure Echoes (width : Nat) (ends : Nat → Nat → Prop) (run run' : Except Failure α × State) : Prop where
  result : run'.1 = run.1.mapError (Failure.moved width)
  state : State.Moved width ends run.2 run'.2

/-- With any text in front of its text, the reader does the same farther on. -/
def Relocates (p : Reader α) : Prop :=
  ∀ front source ends s s', State.Moved front.length ends s s' →
    Echoes front.length ends (p source s) (p (front ++ source) s')

namespace Echoes

variable {s s' t : State} {source source' : Text}

theorem exists_of_ok {a : α} {run : Except Failure α × State}
    (echoes : Echoes width ends (.ok a, t) run) :
    ∃ t', run = (.ok a, t') ∧ State.Moved width ends t t' :=
  ⟨run.2, Prod.ext echoes.result rfl, echoes.state⟩

theorem exists_of_error {failure : Failure} {run : Except Failure α × State}
    (echoes : Echoes width ends (.error failure, t) run) :
    ∃ t', run = (.error (failure.moved width), t') ∧ State.Moved width ends t t' :=
  ⟨run.2, Prod.ext echoes.result rfl, echoes.state⟩

/-- Both runs succeed with the same value, or both fail. -/
theorem cases {run run' : Except Failure α × State} (echoes : Echoes width ends run run') :
    (∃ a t t', run = (.ok a, t) ∧ run' = (.ok a, t') ∧ State.Moved width ends t t') ∨
      ∃ failure t t', run = (.error failure, t) ∧ run' = (.error (failure.moved width), t') ∧
        State.Moved width ends t t' := by
  obtain ⟨result, t⟩ := run
  cases result with
  | ok a =>
    obtain ⟨t', same, moved⟩ := echoes.exists_of_ok
    exact .inl ⟨a, t, t', rfl, same, moved⟩
  | error failure =>
    obtain ⟨t', same, moved⟩ := echoes.exists_of_error
    exact .inr ⟨failure, t, t', rfl, same, moved⟩

/-- The second steps need to do the same only after the first ones did. -/
theorem bind {p p' : Reader α} {f f' : α → Reader β}
    (first : Echoes width ends (p source s) (p' source' s'))
    (rest : ∀ a t t', p source s = (.ok a, t) → State.Moved width ends t t' →
      Echoes width ends (f a source t) (f' a source' t')) :
    Echoes width ends ((p >>= f) source s) ((p' >>= f') source' s') := by
  rw [bind_apply, bind_apply]
  rcases first.cases with ⟨a, t, t', run, run', moved⟩ | ⟨failure, t, t', run, run', moved⟩
  · rw [run, run']
    exact rest a t t' run moved
  · rw [run, run']
    exact ⟨rfl, moved⟩

end Echoes

/-! ## Combinators -/

theorem relocates_pure (a : α) : Relocates (pure a : Reader α) :=
  fun _ _ _ _ _ moved => ⟨rfl, moved⟩

theorem relocates_refuse (fault : Fault) : Relocates (refuse fault : Reader α) :=
  fun _ _ _ _ _ moved => ⟨rfl, moved⟩

theorem relocates_remark (t : Text) : Relocates (remark t) :=
  fun _ _ _ _ _ moved => ⟨rfl, moved.remarking _ _⟩

namespace Relocates

theorem bind (first : Relocates p) (rest : ∀ a, Relocates (f a)) : Relocates (p >>= f) :=
  fun front source ends s s' moved =>
    (first front source ends s s' moved).bind fun a t t' _ => rest a front source ends t t'

theorem map {g : α → β} (relocates : Relocates p) : Relocates (g <$> p) := by
  rw [map_eq_pure_bind]
  exact relocates.bind fun a => relocates_pure (g a)

theorem attempt (relocates : Relocates p) : Relocates (attempt p) := by
  intro front source ends s s' moved
  simp only [Reader.attempt]
  rcases (relocates front source ends s s' moved).cases with
    ⟨a, t, t', run, run', after⟩ | ⟨failure, t, t', run, run', after⟩
  · rw [run, run']
    exact ⟨rfl, after⟩
  · rw [run, run']
    cases failure with
    | backtrack offset => exact ⟨rfl, after.atCursor moved.offset moved.tokenEnd⟩
    | cut offset => exact ⟨rfl, after⟩
    | fault fault => exact ⟨rfl, after⟩

theorem commit (relocates : Relocates p) : Relocates (commit p) := by
  intro front source ends s s' moved
  simp only [Reader.commit]
  rcases (relocates front source ends s s' moved).cases with
    ⟨a, t, t', run, run', after⟩ | ⟨failure, t, t', run, run', after⟩
  · rw [run, run']
    exact ⟨rfl, after⟩
  · rw [run, run']
    cases failure <;> exact ⟨rfl, after⟩

theorem recover (first : Relocates p) (second : Relocates q) : Relocates (recover p q) := by
  intro front source ends s s' moved
  simp only [Reader.recover]
  rcases (first front source ends s s' moved).cases with
    ⟨a, t, t', run, run', after⟩ | ⟨failure, t, t', run, run', after⟩
  · rw [run, run']
    exact ⟨rfl, after⟩
  · rw [run, run']
    cases failure with
    | backtrack offset => exact second front source ends t t' after
    | cut offset => exact ⟨rfl, after⟩
    | fault fault => exact ⟨rfl, after⟩

theorem optional (relocates : Relocates p) : Relocates (optional p) :=
  relocates.attempt.map.recover (relocates_pure none)

theorem isPresent (relocates : Relocates p) : Relocates (isPresent p) :=
  relocates.optional.map

theorem choice {ps : List (Reader α)} (relocates : ∀ p ∈ ps, Relocates p) : Relocates (choice ps) := by
  induction ps with
  | nil =>
    intro front source ends s s' moved
    refine ⟨?_, moved⟩
    show Except.error (Failure.backtrack s'.cursor.offset) = _
    rw [moved.offset]
    rfl
  | cons p others ih =>
    have later := ih fun q member => relocates q (List.mem_cons_of_mem _ member)
    exact (relocates p List.mem_cons_self).attempt.recover later

theorem mapM {values : List β} {g : β → Reader α} (each : ∀ b ∈ values, Relocates (g b)) :
    Relocates (values.mapM g) := by
  induction values with
  | nil => exact relocates_pure []
  | cons b rest ih =>
    rw [List.mapM_cons]
    have later := ih fun c member => each c (List.mem_cons_of_mem _ member)
    exact (each b List.mem_cons_self).bind fun _ => later.bind fun _ => relocates_pure _

end Relocates

/-! ## Tokens -/

section Tokens

variable {front source : Text} {s s' : State}

theorem echoes_failAt (moved : State.Moved front.length ends s s') (label : Option Text) {offset offset' : Nat}
    (same : offset' = offset + front.length) :
    Echoes front.length ends (failAt label offset source s : Except Failure α × State)
      (failAt label offset' (front ++ source) s') := by
  refine ⟨?_, moved.expecting label same⟩
  subst same
  rfl

theorem echoes_lexeme (moved : State.Moved front.length ends s s') (length : Nat) (a : α) :
    Echoes front.length ends (lexeme length a source s) (lexeme length a (front ++ source) s') := by
  have left := moved.drop_add source length
  have offset := moved.offset
  cases measured : length? (source.drop (s.cursor.offset + length)) with
  | some gap =>
    rw [lexeme_of_gap measured, lexeme_of_gap (left ▸ measured)]
    refine ⟨rfl, moved.atCursor (by simp only; omega) ?_⟩
    have stop : s'.cursor.offset + length = s.cursor.offset + length + front.length := by omega
    simp only [stop]
    exact moved.apart _
  | none =>
    rw [lexeme_of_open measured, lexeme_of_open (left ▸ measured)]
    have total : (front ++ source).length = source.length + front.length := by
      rw [List.length_append]
      omega
    have stop : s'.cursor.offset + length = s.cursor.offset + length + front.length := by omega
    refine ⟨?_, State.Moved.expecting (moved.atCursor stop ?_) _ total⟩
    · rw [total]
      rfl
    · simp only [stop]
      exact moved.apart _

theorem relocates_token {expected : Text} (filled : expected ≠ []) (ignoreCase : Bool) (label : Text) :
    Relocates (token expected ignoreCase true label) := by
  intro front source ends s s' moved
  rw [token_apply filled, token_apply filled, moved.drop source]
  split
  · exact echoes_lexeme moved _ _
  · exact echoes_failAt moved _ moved.offset

theorem relocates_symbol {t : Text} (filled : t ≠ []) : Relocates (symbol t) :=
  relocates_token filled false _

theorem relocates_keyword {word : Text} (filled : word ≠ []) : Relocates (keyword word) :=
  relocates_token filled true _

theorem relocates_keywordsAs (ignoreCase : Bool) {words : List Text} (filled : ∀ word ∈ words, word ≠ []) :
    Relocates (keywordsAs ignoreCase words) :=
  .mapM fun word member => relocates_token (filled word member) ignoreCase _

theorem relocates_word (label : Text) : Relocates (word label) := by
  intro front source ends s s' moved
  rw [word_apply, word_apply, moved.drop source]
  split
  · exact echoes_failAt moved _ moved.offset
  · exact echoes_lexeme moved _ _

theorem relocates_identifier : Relocates identifier := by
  intro front source ends s s' moved
  rw [identifier_apply, identifier_apply, moved.drop source]
  cases QuotedName.read? (source.drop s.cursor.offset) with
  | some name => exact echoes_lexeme moved _ _
  | none => exact relocates_word _ front source ends s s' moved

theorem relocates_quoted (quote : CodePoint) (label : Text) : Relocates (quoted [quote] label) := by
  intro front source ends s s' moved
  rw [quoted_apply, quoted_apply, moved.drop source]
  have offset := moved.offset
  cases source.drop s.cursor.offset with
  | nil => exact echoes_failAt moved _ offset
  | cons c rest =>
    simp only
    split
    · cases Literal.read [quote] rest with
      | ok content => exact echoes_lexeme moved _ _
      | error fault =>
        cases fault with
        | unclosed =>
          apply echoes_failAt moved _
          rw [List.length_append]
          omega
        | malformed distance => exact echoes_failAt moved _ (by omega)
        | oversized digits => exact ⟨rfl, moved⟩
    · exact echoes_failAt moved _ offset

theorem relocates_comment : Relocates comment := by
  intro front source ends s s' moved
  rw [comment_apply, comment_apply, moved.drop source, moved.drop_add source 2]
  split
  · exact echoes_lexeme moved _ _
  · exact echoes_failAt moved _ moved.offset

end Tokens

end Reader

end Schemata
