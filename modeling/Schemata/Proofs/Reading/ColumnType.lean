import Schemata.Proofs.Reading.AcceptPhrase
import Schemata.Proofs.Reading.Exclusive

/-! # How a column type is read

The spellings of the known types all begin with different words, so at most one of them stands at a place, and
that one is read wherever the table lists it. Where none stands, the reader goes on with a single word.
-/

namespace Schemata

namespace Reader

variable {source : Text} {s t : State} {entry : KnownType × List Text} {ps : List (Reader KnownType)}
  {table : List (KnownType × List (List Text))}

/-! ## Spellings -/

/-- The spellings of all known types, each with its type. -/
def spelledTypes : List (KnownType × List Text) :=
  KnownType.spellings.flatMap fun row => row.2.map fun words => (row.1, words)

/-- Reads a spelling of a type. -/
def spelledType (entry : KnownType × List Text) : Reader KnownType := do
  let _ ← keywords entry.2
  pure entry.1

theorem knownTypes_eq : knownTypes KnownType.spellings = spelledTypes.map spelledType := rfl

theorem isKeyword_of_spelledTypes : ∀ entry ∈ spelledTypes, ∀ word ∈ entry.2, word.isKeyword = true := by
  decide

theorem spelledTypes_filled : ∀ entry ∈ spelledTypes, entry.2 ≠ [] := by decide

theorem ne_nil_of_spelledTypes (listed : entry ∈ spelledTypes) : ∀ word ∈ entry.2, word ≠ [] :=
  fun word member => Text.isKeyword_ne_nil (isKeyword_of_spelledTypes _ listed word member)

theorem first_words_differ : spelledTypes.Pairwise fun entry other =>
    entry.2.head?.map Text.upper ≠ other.2.head?.map Text.upper := by decide +kernel

/-- The words of a spelling, one after another. -/
def spellingOpeners (listed : entry ∈ spelledTypes) : List Opener :=
  entry.2.pmap Opener.keyword (ne_nil_of_spelledTypes listed)

theorem exists_first_opener (listed : entry ∈ spelledTypes) :
    ∃ word filled others, entry.2.head? = some word ∧ word.isKeyword = true ∧
      spellingOpeners listed = .keyword word filled :: others := by
  obtain ⟨type, words⟩ := entry
  cases words with
  | nil => exact absurd rfl (spelledTypes_filled _ listed)
  | cons word words =>
    exact ⟨word, _, _, rfl, isKeyword_of_spelledTypes _ listed word List.mem_cons_self, rfl⟩

theorem follows_spelledType (listed : entry ∈ spelledTypes) :
    Follows (spelledType entry) (spellingOpeners listed) := by
  have follows := (follows_keywords (ne_nil_of_spelledTypes listed)).bind fun _ => Follows.pure entry.1
  rw [List.append_nil] at follows
  exact follows

theorem composed_spelledType (listed : entry ∈ spelledTypes) : Composed (spelledType entry) :=
  (composed_keywords (ne_nil_of_spelledTypes listed)).bind fun _ => .pure _

theorem exclusive_knownTypes : (knownTypes KnownType.spellings).Pairwise Exclusive := by
  rw [knownTypes_eq, List.pairwise_map]
  refine first_words_differ.imp_of_mem fun {entry other} listed listed' differ => ?_
  obtain ⟨word, filled, others, head, proper, first⟩ := exists_first_opener listed
  obtain ⟨word', filled', others', head', proper', first'⟩ := exists_first_opener listed'
  rw [head, head'] at differ
  have apart : Text.upper word ≠ Text.upper word' := fun same => differ (congrArg some same)
  refine ⟨_, _, (follows_spelledType listed).opensWith, (follows_spelledType listed').opensWith, ?_⟩
  rw [first, first']
  exact .here (clash_keyword proper proper' apart)

/-- In whatever order the spellings are tried, the one that stands there is read, or all are missed. -/
theorem knownTypes_cases (same : ps.Perm (knownTypes KnownType.spellings)) (source : Text) (s : State) :
    (∃ entry, ∃ listed : entry ∈ spelledTypes, ∃ t t',
      opening (spellingOpeners listed) source s.cursor = .ok t.cursor ∧ t.cursor = t'.cursor ∧
      choice ps source s = (.ok entry.1, t) ∧
      choice (knownTypes KnownType.spellings) source s = (.ok entry.1, t')) ∨
    Abandoned ps source s (choice ps source s) ∧
      Abandoned (knownTypes KnownType.spellings) source s (choice (knownTypes KnownType.spellings) source s) := by
  have each : ∀ p ∈ knownTypes KnownType.spellings, Composed p ∧ ∃ os, OpensWith p os := by
    rw [knownTypes_eq]
    intro p member
    obtain ⟨entry, listed, rfl⟩ := List.mem_map.1 member
    exact ⟨composed_spelledType listed, _, (follows_spelledType listed).opensWith⟩
  rcases choice_cases_of_perm same each exclusive_knownTypes (rfl : s.cursor = s.cursor) source with
    ⟨p, member, chosen, chosen'⟩ | abandoned
  · left
    rw [knownTypes_eq] at member
    obtain ⟨entry, listed, rfl⟩ := List.mem_map.1 member
    have follows := follows_spelledType listed
    obtain ⟨d, passed⟩ := follows.opensWith.of_decides chosen.decides
    obtain ⟨type, u, run, rfl, _⟩ := follows.passes (s := s.cursor.fresh) passed
    obtain ⟨_, _, _, answered⟩ := of_bind_eq_ok run
    cases answered
    have read : outcome (spelledType entry) source s.cursor = (.ok entry.1, u) := run
    obtain ⟨_, result, cursor, _⟩ := chosen
    obtain ⟨_, result', cursor', _⟩ := chosen'
    rw [read] at result cursor result' cursor'
    exact ⟨entry, listed, (choice ps source s).2, (choice (knownTypes KnownType.spellings) source s).2,
      cursor ▸ passed, cursor.trans cursor'.symm, Prod.ext result rfl, Prod.ext result' rfl⟩
  · exact .inr abandoned

/-! ## Column types -/

theorem columnTypeFrom_of_ok {type : KnownType} (run : choice (knownTypes table) source s = (.ok type, t)) :
    columnTypeFrom table source s = (.ok (.known type), t) := by
  rw [columnTypeFrom, recover, map_eq_pure_bind, bind_apply, run]
  rfl

theorem columnTypeFrom_of_backtrack {offset : Int}
    (run : choice (knownTypes table) source s = (.error (.backtrack offset), t)) :
    columnTypeFrom table source s = (ColumnType.custom <$> word "custom type") source t := by
  rw [columnTypeFrom, recover, map_eq_pure_bind, bind_apply, run]

/-- A spelling is read, or all spellings are missed and a word is to be read. -/
theorem columnType_cases (source : Text) (s : State) :
    (∃ entry, ∃ listed : entry ∈ spelledTypes, ∃ t,
      opening (spellingOpeners listed) source s.cursor = .ok t.cursor ∧
      columnType source s = (.ok (.known entry.1), t)) ∨
    (∀ entry, ∀ listed : entry ∈ spelledTypes, ∃ e, opening (spellingOpeners listed) source s.cursor = .error e) ∧
      ∃ t, t.cursor = s.cursor ∧ columnType source s = (ColumnType.custom <$> word "custom type") source t := by
  rcases knownTypes_cases (.refl _) source s with ⟨entry, listed, t, _, passed, _, run, _⟩ | ⟨abandoned, _⟩
  · exact .inl ⟨entry, listed, t, passed, columnTypeFrom_of_ok run⟩
  · right
    refine ⟨fun entry listed => ?_, _, abandoned.cursor, columnTypeFrom_of_backtrack (Prod.ext abandoned.result rfl)⟩
    have member : spelledType entry ∈ knownTypes KnownType.spellings := List.mem_map_of_mem listed
    obtain ⟨e, gives⟩ := abandoned.givesUp _ member
    exact ⟨e, (follows_spelledType listed).opensWith.of_givesUp gives⟩

theorem mem_spelledTypes {type : KnownType} {words : List Text} :
    (type, words) ∈ spelledTypes ↔ ∃ spellings, (type, spellings) ∈ KnownType.spellings ∧ words ∈ spellings := by
  constructor
  · intro listed
    obtain ⟨⟨_, spellings⟩, row, member⟩ := List.mem_flatMap.1 listed
    obtain ⟨_, spelling, same⟩ := List.mem_map.1 member
    cases same
    exact ⟨spellings, row, spelling⟩
  · rintro ⟨spellings, row, spelling⟩
    exact List.mem_flatMap.2 ⟨_, row, List.mem_map_of_mem spelling⟩

/-- The first word of a spelling tells which spelling it is, and of which type. -/
theorem eq_of_first_word {other : KnownType × List Text} (listed : entry ∈ spelledTypes)
    (listed' : other ∈ spelledTypes) (same : entry.2.head?.map Text.upper = other.2.head?.map Text.upper) :
    entry = other := by
  obtain ⟨spellings, row, spelling⟩ := mem_spelledTypes.1 listed
  obtain ⟨spellings', row', spelling'⟩ := mem_spelledTypes.1 listed'
  obtain ⟨type, words⟩ := spelling_of_first_word _ row _ row' _ spelling _ spelling' same
  exact Prod.ext type words

/-- A spelling that stands there is read. -/
theorem columnType_of_opening {d : Cursor} (listed : entry ∈ spelledTypes)
    (passed : opening (spellingOpeners listed) source s.cursor = .ok d) :
    ∃ t, columnType source s = (.ok (.known entry.1), t) ∧ t.cursor = d := by
  rcases columnType_cases source s with ⟨other, listed', t, passed', run⟩ | ⟨missed, _⟩
  · obtain ⟨word, filled, others, head, proper, first⟩ := exists_first_opener listed
    obtain ⟨word', filled', others', head', proper', first'⟩ := exists_first_opener listed'
    by_cases same : Text.upper word = Text.upper word'
    · have one : entry = other := eq_of_first_word listed listed' (by rw [head, head', Option.map_some, same]; rfl)
      subst one
      exact ⟨t, run, Except.ok.inj (passed'.symm.trans passed)⟩
    · have apart : Apart (spellingOpeners listed) (spellingOpeners listed') := by
        rw [first, first']
        exact .here (clash_keyword proper proper' same)
      have parted := apart.parted source s.cursor
      rw [passed, passed'] at parted
      cases parted
  · obtain ⟨e, opened⟩ := missed entry listed
    cases opened.symm.trans passed

end Reader

end Schemata
