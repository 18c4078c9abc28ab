import Mathlib
import Schemata.Proofs.Parse.Order
import Schemata.Proofs.Reading.ColumnType

/-! # The order of the spellings of types

In whatever order the table lists the types and the spellings of each type, the same column type is read, and
the reader ends at the same place. Where none is read, the text stops short of a word, or a comment after the
word does not end; each spelling is then missed at the word, or is read up to the same open comment.
-/

namespace Schemata

open Reader

/-- The first table has the rows of the second one in any order, and in any order the spellings of each row. -/
def Reordered (table table' : List (KnownType × List (List Text))) : Prop :=
  ∃ rows, table.Perm rows ∧ List.Forall₂ (fun row row' => row.1 = row'.1 ∧ row.2.Perm row'.2) rows table'

theorem Reordered.knownTypes_perm {table table' : List (KnownType × List (List Text))}
    (reordered : Reordered table table') : (knownTypes table).Perm (knownTypes table') := by
  obtain ⟨rows, moved, within⟩ := reordered
  have rearranged : (knownTypes rows).Perm (knownTypes table') := by
    clear moved
    induction within with
    | nil => exact .refl _
    | @cons row row' _ _ same _ ih =>
      obtain ⟨type, spellings⟩ := row
      obtain ⟨_, spellings'⟩ := row'
      obtain ⟨rfl, same⟩ := same
      exact (same.map _).append ih
  exact (moved.flatMap_right _).trans rearranged

namespace Reader

variable {source : Text} {c : Cursor} {d e : Expectation}

/-! ## Where no word is read -/

/-- The longest word that stands there. -/
def Opener.word (label : Text) : Opener where
  label := label
  length? t := if Text.word t = [] then none else some (Text.word t).length
  positive {t length} standing := by
    split at standing
    · cases standing
    · next filled =>
      cases standing
      exact List.length_pos_iff.2 filled

theorem follows_word (label : Text) : Follows (word label) [.word label] := by
  refine follows_of_lexeme (fun {source s} absent => ?_) fun {source s length} standing => ?_
  · have noWord : Text.word (source.drop s.cursor.offset) = [] := by simpa [Opener.word] using absent
    rw [word_apply, if_pos noWord]
    rfl
  · simp only [Opener.word, Option.ite_none_left_eq_some, Option.some.injEq] at standing
    obtain ⟨filled, rfl⟩ := standing
    exact ⟨_, by rw [word_apply, if_neg filled]⟩

/-- Where no word is read, no keyword is: it is missed at the same place, or read up to the same open comment. -/
theorem keyword_step_of_word {keyword label : Text} (filled : keyword ≠ []) (proper : keyword.isKeyword = true)
    (missed : (Opener.word label).step source c = .error e) :
    ∃ d, (Opener.keyword keyword filled).step source c = .error d ∧
      (d.offset = c.offset ∧ d.cursor = c ∨ d = e) := by
  obtain ⟨split, _, ended⟩ := word_split (source.drop c.offset)
  have words : ∀ d ∈ Text.word (source.drop c.offset), d.isWord = true := fun d => Text.isWord_of_mem_word
  rcases Opener.keyword_step_cases filled source c with ⟨_, absent⟩ | ⟨stood, after⟩
  · exact ⟨_, absent, .inl ⟨rfl, rfl⟩⟩
  rw [split] at stood
  obtain ⟨form, size⟩ := (stands_keyword_iff proper words ended).1 stood
  have filledWord : Text.word (source.drop c.offset) ≠ [] := fun noWord => by
    rw [noWord] at form
    exact Text.upper_ne_nil_of_isKeyword proper form.symm
  rcases (Opener.word label).step_cases source c with ⟨absent, _⟩ | ⟨width, found, ⟨_, _, passed⟩ | ⟨unmeasured, step⟩⟩
  · simp [Opener.word, filledWord] at absent
  · cases passed.symm.trans missed
  simp only [Opener.word, Option.ite_none_left_eq_some, Option.some.injEq] at found
  obtain ⟨_, rfl⟩ := found
  -- A word that ends the text is not followed by a comment, so the keyword is as long as the word.
  have equal : (Text.word (source.drop c.offset)).length = keyword.length := by
    rcases size with equal | ⟨_, last⟩
    · exact equal
    · rw [List.drop_drop] at last
      rw [last] at unmeasured
      cases unmeasured
  rcases after with ⟨gap, measured, _⟩ | ⟨_, stopped⟩
  · rw [← equal] at measured
    cases unmeasured.symm.trans measured
  · rw [← equal] at stopped
    exact ⟨_, stopped, .inr (Except.error.inj (step.symm.trans missed))⟩

theorem missed_with_word {p : Reader KnownType} {label : Text} (member : p ∈ knownTypes KnownType.spellings)
    (gives : GivesUp p source c d) (missed : (Opener.word label).step source c = .error e) :
    d.offset = c.offset ∧ d.cursor = c ∨ d = e := by
  rw [knownTypes_eq] at member
  obtain ⟨entry, listed, rfl⟩ := List.mem_map.1 member
  obtain ⟨word, filled, others, _, proper, first⟩ := exists_first_opener listed
  have opened := (follows_spelledType listed).opensWith.of_givesUp gives
  obtain ⟨f, step, place⟩ := keyword_step_of_word filled proper missed
  rw [first, opening, step] at opened
  cases opened
  exact place

/-- Expectations at the cursor, and one farther expectation, are blamed on one place for each offset. -/
theorem report_eq_of_beyond {new : List Expectation} (beyond : Beyond c e)
    (placed : ∀ d ∈ new, d.offset = c.offset ∧ d.cursor = c ∨ d = e) :
    ∀ d ∈ new, ∀ f ∈ new, d.offset = f.offset → d.report = f.report := by
  have here : ∀ d ∈ new, d.offset = c.offset → d.cursor = c := fun d member there => by
    rcases placed d member with ⟨_, cursor⟩ | rfl
    · exact cursor
    · exact beyond.here there
  intro d member f member' same
  by_cases there : d.offset = c.offset
  · rw [Expectation.report, Expectation.report, same, here d member there, here f member' (same ▸ there)]
  · rcases placed d member with ⟨offset, _⟩ | rfl
    · exact absurd offset there
    · rcases placed f member' with ⟨offset, _⟩ | rfl
      · exact absurd (same.trans offset) there
      · rfl

end Reader

/-! ## Column types -/

/-- The runs have the same result and end at the same place; where they fail, they fail at the same place and
for the same things, which may be listed in another order. -/
structure SameReading {α : Type} (o o' : Except Failure α × State) : Prop where
  result : o.1 = o'.1
  cursor : o.2.cursor = o'.2.cursor
  failure : ∀ failure, o.1 = .error failure → o.2.frontier.Alike o'.2.frontier

/-- A word is read alike after spellings that miss the same things. -/
theorem Reader.sameReading_of_abandoned {table : List (KnownType × List (List Text))} {source : Text} {s : State}
    (same : (knownTypes table).Perm (knownTypes KnownType.spellings))
    (abandoned : Abandoned (knownTypes table) source s (choice (knownTypes table) source s))
    (abandoned' : Abandoned (knownTypes KnownType.spellings) source s
      (choice (knownTypes KnownType.spellings) source s)) :
    SameReading (columnTypeFrom table source s) (columnType source s) := by
  obtain ⟨_, result, cursor, missed, added, exactly⟩ := abandoned
  obtain ⟨_, result', cursor', missed', added', exactly'⟩ := abandoned'
  have composed : Composed (ColumnType.custom <$> word "custom type") := (composed_word (by decide)).map _
  have follows : Follows (ColumnType.custom <$> word "custom type") [.word "custom type"] := by
    rw [map_eq_pure_bind]
    exact (follows_word "custom type").bind fun name => .pure (ColumnType.custom name)
  rw [columnType, columnTypeFrom_of_backtrack (Prod.ext result rfl),
    columnTypeFrom_of_backtrack (Prod.ext result' rfl), composed.apply, composed.apply, cursor, cursor']
  refine ⟨rfl, rfl, fun failure failed => ?_⟩
  cases step : (Opener.word "custom type").step source s.cursor with
  | ok d =>
    have opened : opening [.word "custom type"] source s.cursor = .ok d := by rw [opening, step]; rfl
    obtain ⟨type, u, read, _⟩ := follows.passes (s := s.cursor.fresh) opened
    rw [outcome, read] at failed
    cases failed
  | error e =>
    have opened : opening [.word "custom type"] source s.cursor = .error e := by rw [opening, step]; rfl
    obtain ⟨u, stopped, alone⟩ := follows.misses (s := s.cursor.fresh) opened
    have listed (d : Expectation) : d ∈ e :: missed ↔ d ∈ e :: missed' := by
      simp only [List.mem_cons, exactly, exactly', same.mem_iff]
    have placed : ∀ d ∈ e :: missed, d.offset = s.cursor.offset ∧ d.cursor = s.cursor ∨ d = e := by
      intro d member
      rcases List.mem_cons.1 member with rfl | member
      · exact .inr rfl
      · obtain ⟨p, among, gives⟩ := (exactly d).1 member
        exact missed_with_word (same.mem_iff.1 among) gives step
    rw [outcome, stopped, State.frontier, State.frontier, State.followedBy, State.followedBy, alone, added, added']
    exact Frontier.alike_of_mem_iff listed (report_eq_of_beyond (Opener.beyond step) placed)

/-- In whatever order the table lists the types and the spellings of each type, a column type is read alike. -/
theorem types_read_alike_in_any_order {table : List (KnownType × List (List Text))}
    (reordered : Reordered table KnownType.spellings) (source : Text) (s : State) :
    SameReading (columnTypeFrom table source s) (columnType source s) := by
  have same := reordered.knownTypes_perm
  rcases knownTypes_cases same source s with ⟨entry, _, t, t', _, there, run, run'⟩ | ⟨abandoned, abandoned'⟩
  · rw [columnType, columnTypeFrom_of_ok run, columnTypeFrom_of_ok run']
    exact ⟨rfl, there, fun failure failed => by cases failed⟩
  · exact sameReading_of_abandoned same abandoned abandoned'

/-- Read backwards, the table lists `INT` before `INT4` and `TIME` before `TIMESTAMPTZ`. -/
theorem types_read_alike_backwards :
    let backwards := (KnownType.spellings.map fun row => (row.1, row.2.reverse)).reverse
    SameReading (columnTypeFrom backwards "int4 x" State.start) (columnType "int4 x" State.start) ∧
      (columnTypeFrom backwards "int4 x" State.start).1 = .ok (.known .int) := by
  intro backwards
  have reordered : Reordered backwards KnownType.spellings := by
    refine ⟨_, List.reverse_perm _, List.forall₂_map_left_iff.2 (List.forall₂_same.2 fun row _ => ?_)⟩
    exact ⟨rfl, row.2.reverse_perm⟩
  have alike := types_read_alike_in_any_order reordered "int4 x" State.start
  exact ⟨alike, alike.result.trans (by cbv)⟩

end Schemata
