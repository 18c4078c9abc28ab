import Mathlib
import Schemata.Source.Fragment
import Schemata.Proofs.Reading.Walk
import Schemata.Proofs.Text.Part

/-! # The window of an offset

Semicolons cut a text into pieces, each with the semicolon at its end. The window of an offset is the piece
around it; behind the last semicolon that piece may be blank, and then the one before it is taken. A text
that is not blank as a whole has such a piece for every offset, even past its end. A splitter that cuts only
behind semicolons finds nothing to cut in it.
-/

namespace Schemata

/-! ## Texts without the blanks at their ends -/

namespace Text

/-- The core of a text is what is left of it without the blanks at its ends. -/
structure Trims (t core : Text) : Prop where
  split : ∃ left right : Text, t = left ++ core ++ right ∧ left.isBlank = true ∧ right.isBlank = true
  opens : ∀ c ∈ core.head?, c.isBlank = false
  ends : ∀ c ∈ core.getLast?, c.isBlank = false

theorem trims_trim (t : Text) : t.Trims t.trim := by
  have left := List.takeWhile_append_dropWhile (p := CodePoint.isBlank) (l := t)
  have first := List.head?_dropWhile_not CodePoint.isBlank t
  rw [trim, dropRight]
  generalize t.dropWhile CodePoint.isBlank = inner at left first
  have right := congrArg List.reverse
    (List.takeWhile_append_dropWhile (p := CodePoint.isBlank) (l := inner.reverse))
  rw [List.reverse_append, List.reverse_reverse] at right
  have last := List.head?_dropWhile_not CodePoint.isBlank inner.reverse
  generalize inner.reverse.dropWhile CodePoint.isBlank = core at right last
  refine ⟨⟨_, _, by rw [List.append_assoc, right, left], List.all_takeWhile, ?_⟩, fun c opens => ?_, fun c ends => ?_⟩
  · rw [isBlank, List.all_reverse]
    exact List.all_takeWhile
  · rw [← right, List.head?_append, opens] at first
    simpa using first
  · rw [List.getLast?_reverse] at ends
    rw [ends] at last
    simpa using last

theorem Trims.eq_nil_iff {t core : Text} (trims : t.Trims core) : core = [] ↔ t.isBlank = true := by
  obtain ⟨left, right, rfl, before, after⟩ := trims.split
  constructor
  · rintro rfl
    simp only [isBlank, List.all_append, Bool.and_eq_true] at *
    exact ⟨⟨before, rfl⟩, after⟩
  · intro blank
    cases core with
    | nil => rfl
    | cons c core =>
      have filled := trims.opens c rfl
      have every := List.all_eq_true.1 blank c (by simp)
      exact absurd every (by simp [filled])

end Text

/-! ## Splitters -/

/-- The splitter takes the text for one statement, or gives up on it. -/
def Splitter.KeepsWhole (split : Splitter) (t : Text) : Prop := ∀ parts, split t = some parts → parts = [t]

theorem Splitter.keepsWhole_whole (t : Text) : whole.KeepsWhole t := fun _ same => (Option.some.inj same).symm

/-- A splitter that loses nothing of a text, and starts another statement only behind a semicolon. -/
structure Splitter.EndsAtSemicolons (split : Splitter) : Prop where
  joins : ∀ t parts, split t = some parts → parts.flatten = t
  filled : ∀ t parts, split t = some parts → [] ∉ parts.tail
  ended : ∀ t parts, split t = some parts → ∀ part ∈ parts.dropLast, (';' : CodePoint) ∈ part

theorem Splitter.endsAtSemicolons_whole : whole.EndsAtSemicolons := by
  constructor <;> rintro t _ ⟨⟩ <;> simp

theorem Splitter.EndsAtSemicolons.keepsWhole {split : Splitter} {t : Text} (ends : split.EndsAtSemicolons)
    (filled : t ≠ []) (single : (';' : CodePoint) ∉ t.dropLast) : split.KeepsWhole t := by
  intro parts known
  have joined := ends.joins t parts known
  match parts with
  | [] => exact absurd joined.symm filled
  | [part] => rw [← joined, List.flatten_singleton]
  | part :: next :: more =>
    have nonempty : next ≠ [] := fun empty => ends.filled t _ known (by simp [empty])
    have semicolon : (';' : CodePoint) ∈ part := ends.ended t _ known part (by simp)
    rw [← joined, List.flatten_cons, List.dropLast_append_of_ne_nil (by simp [nonempty])] at single
    exact absurd (List.mem_append_left _ semicolon) single

/-- Where the parts make up a text, each of them stands between its offsets. -/
theorem Span.slice_of_mem_series {front t : Text} {parts : List Text} {span : Span}
    (whole : t = front ++ parts.flatten) (member : span ∈ series front.length parts) :
    Source.slice t span.start span.stop = span.content := by
  induction parts generalizing front with
  | nil => cases member
  | cons part parts ih =>
    rw [List.flatten_cons] at whole
    rcases List.mem_cons.1 member with rfl | later
    · rw [Source.slice, stop, Nat.add_sub_cancel_left, whole, List.drop_left, List.take_left]
    · rw [← List.length_append] at later
      exact ih (by rw [whole, List.append_assoc]) later

/-- A splitter that loses nothing of a text gives its statements with their places in it. -/
theorem Splitter.slice_of_mem_spans? {split : Splitter} {t : Text} {spans : List Span} {span : Span}
    (joins : ∀ parts, split t = some parts → parts.flatten = t) (known : split.spans? t = some spans)
    (member : span ∈ spans) : Source.slice t span.start span.stop = span.content := by
  obtain ⟨parts, cut, rfl⟩ := Option.map_eq_some_iff.1 known
  have whole : t = [] ++ parts.flatten := (joins parts cut).symm
  exact Span.slice_of_mem_series whole member

namespace Source

/-- What reaches through the first semicolon has no other one, and has none only if it is all. -/
theorem exists_throughSemicolon_append (t : Text) :
    ∃ rest, t = throughSemicolon t ++ rest ∧ (';' : CodePoint) ∉ (throughSemicolon t).dropLast ∧
      (rest = [] ∨ (throughSemicolon t).getLast? = some (';' : CodePoint)) := by
  rcases Nat.lt_or_ge (t.before ';').length t.length with shorter | all
  · obtain ⟨rest, split⟩ := Text.eq_before_append shorter
    have through : throughSemicolon t = t.before ';' ++ [(';' : CodePoint)] := by
      rw [throughSemicolon]
      conv => enter [1, 2]; rw [split]
      rw [List.take_append, List.take_of_length_le (Nat.le_succ _), Nat.add_sub_cancel_left]
      rfl
    refine ⟨rest, ?_, ?_, .inr ?_⟩
    · rw [through, List.append_assoc]
      exact split
    · rw [through, List.dropLast_concat]
      exact Text.not_mem_before ';' t
    · rw [through, List.getLast?_concat]
  · have whole : t.before ';' = t := (List.takeWhile_prefix _).eq_of_length_le all
    have through : throughSemicolon t = t := List.take_of_length_le (by omega)
    rw [through]
    refine ⟨[], (List.append_nil t).symm, fun member => ?_, .inl rfl⟩
    exact Text.not_mem_before ';' t (whole.symm ▸ List.mem_of_mem_dropLast member)

/-! ## Where a window starts and stops -/

/-- Where a window stops. -/
def Window.stop (w : Window) : Nat := w.start + w.content.length

/-- From `start` to `stop` reaches the text around an offset that no semicolon interrupts: it starts right
after the last semicolon before the offset, and stops right after the first one from the offset on. -/
structure Surrounds (source : Text) (offset start stop : Nat) : Prop where
  opened : start = 0 ∨ ∃ i < offset, source[i]? = some (';' : CodePoint) ∧ start = i + 1
  closed : stop = source.length ∨ ∃ i ≥ offset, source[i]? = some (';' : CodePoint) ∧ stop = i + 1
  before : ∀ i, start ≤ i → i < offset → source[i]? ≠ some (';' : CodePoint)
  after : ∀ i, offset ≤ i → i + 1 < stop → source[i]? ≠ some (';' : CodePoint)

variable {source : Text} {offset start stop : Nat}

/-- The two parts of a window, before and after its offset, and what lies outside of it. -/
theorem exists_parts (source : Text) (offset : Nat) : ∃ front head tail rest : Text,
    source.take offset = front ++ head ∧ source.drop offset = tail ++ rest ∧
    window source offset = ⟨front.length, head ++ tail⟩ ∧
    (front = [] ∨ front.getLast? = some (';' : CodePoint)) ∧ (';' : CodePoint) ∉ head ∧
    (rest = [] ∨ tail.getLast? = some (';' : CodePoint)) ∧ (';' : CodePoint) ∉ tail.dropLast := by
  obtain ⟨front, passed, opened⟩ := Text.exists_append_afterLast ';' (source.take offset)
  obtain ⟨rest, ahead, single, closed⟩ := exists_throughSemicolon_append (source.drop offset)
  refine ⟨front, _, _, rest, passed, ahead, ?_, opened, Text.not_mem_afterLast _ _, closed, single⟩
  rw [window, Window.mk.injEq]
  refine ⟨?_, rfl⟩
  conv => enter [1, 1]; rw [passed]
  rw [List.length_append, Nat.add_sub_cancel]

theorem window_surrounds (source : Text) (offset : Nat) :
    Surrounds source offset (window source offset).start (window source offset).stop := by
  obtain ⟨front, head, tail, rest, passed, ahead, cut, opened, free, closed, single⟩ :=
    exists_parts source offset
  have width : min offset source.length = front.length + head.length := by
    rw [← List.length_take, passed, List.length_append]
  have left : source.length - offset = tail.length + rest.length := by
    rw [← List.length_drop, ahead, List.length_append]
  rw [Window.stop, cut]
  simp only [List.length_append]
  refine ⟨?_, ?_, fun i started within semicolon => free ?_, fun i reached within semicolon => single ?_⟩
  · rcases opened with rfl | last
    · exact .inl rfl
    · obtain ⟨init, rfl⟩ := List.getLast?_eq_some_iff.1 last
      rw [List.length_append, List.length_singleton] at width ⊢
      refine .inr ⟨init.length, by omega, ?_, rfl⟩
      rw [← List.getElem?_take_of_lt (by omega : init.length < offset), passed]
      simp
  · rcases closed with rfl | last
    · rw [List.length_nil] at left
      exact .inl (by omega)
    · obtain ⟨init, rfl⟩ := List.getLast?_eq_some_iff.1 last
      rw [List.length_append, List.length_singleton] at left ⊢
      refine .inr ⟨offset + init.length, by omega, ?_, by omega⟩
      rw [← List.getElem?_drop, ahead]
      simp
  · rw [← List.getElem?_take_of_lt within, passed, List.getElem?_append_right started] at semicolon
    exact List.mem_of_getElem? semicolon
  · have inner : i - offset < tail.length - 1 := by omega
    rw [← Nat.add_sub_of_le reached, ← List.getElem?_drop, ahead,
      List.getElem?_append_left (Nat.lt_of_lt_pred inner)] at semicolon
    refine List.mem_of_getElem? (i := i - offset) ?_
    rwa [List.getElem?_dropLast, if_pos inner]

theorem window_content (source : Text) (offset : Nat) : (window source offset).content =
    slice source (window source offset).start (window source offset).stop := by
  obtain ⟨front, head, tail, rest, passed, ahead, cut, _⟩ := exists_parts source offset
  have whole : source = front ++ (head ++ tail ++ rest) := by
    rw [← List.take_append_drop offset source, passed, ahead]
    simp
  rw [Window.stop, slice_add, cut]
  conv => enter [2, 2]; rw [whole]
  rw [List.drop_left, List.take_left]

/-! ## Pieces that are not blank -/

theorem mem_slice {c : CodePoint} : c ∈ slice source start stop ↔
    ∃ i, start ≤ i ∧ i < stop ∧ source[i]? = some c := by
  rw [slice, List.mem_iff_getElem?]
  constructor
  · rintro ⟨k, place⟩
    rw [List.getElem?_take, List.getElem?_drop] at place
    split at place
    · exact ⟨start + k, by omega, by omega, place⟩
    · cases place
  · rintro ⟨i, reached, within, place⟩
    refine ⟨i - start, ?_⟩
    rw [List.getElem?_take_of_lt (by omega), List.getElem?_drop, Nat.add_sub_cancel' reached]
    exact place

theorem slice_length (source : Text) (start : Nat) : slice source start source.length = source.drop start :=
  List.take_of_length_le (by rw [List.length_drop])

/-- A piece with something in it that is not blank is not blank. -/
theorem slice_filled {i : Nat} {c : CodePoint} (reached : start ≤ i) (within : i < stop)
    (place : source[i]? = some c) (filled : c.isBlank = false) : (slice source start stop).isBlank = false := by
  refine Bool.eq_false_iff.2 fun blank => ?_
  have every := List.all_eq_true.1 blank c (mem_slice.2 ⟨i, reached, within, place⟩)
  exact absurd every (by simp [filled])

/-- A part of a piece is blank where the piece is. -/
theorem isBlank_slice_of_isBlank_drop (blank : Text.isBlank (source.drop start) = true) (stop : Nat) :
    (slice source start stop).isBlank = true := by
  rw [Text.isBlank, List.all_eq_true] at *
  exact fun c member => blank c (List.mem_of_mem_take member)

/-- A piece of a text that is not blank and lies between semicolons, with the second one. -/
structure Piece (source : Text) (start stop : Nat) : Prop where
  forward : start < stop
  inside : stop ≤ source.length
  filled : (slice source start stop).isBlank = false
  single : ∀ i, start ≤ i → i + 1 < stop → source[i]? ≠ some (';' : CodePoint)
  opened : start = 0 ∨ source[start - 1]? = some (';' : CodePoint)
  closed : stop = source.length ∨ source[stop - 1]? = some (';' : CodePoint)

namespace Surrounds

theorem inside (around : Surrounds source offset start stop) : stop ≤ source.length := by
  rcases around.closed with ended | ⟨i, _, semicolon, rfl⟩
  · exact Nat.le_of_eq ended
  · exact (List.getElem?_eq_some_iff.1 semicolon).1

theorem piece (around : Surrounds source offset start stop)
    (filled : (slice source start stop).isBlank = false) : Piece source start stop := by
  refine ⟨?_, around.inside, filled, fun i started within => ?_, ?_, ?_⟩
  · by_contra backward
    rw [slice, Nat.sub_eq_zero_of_le (Nat.not_lt.1 backward), List.take_zero] at filled
    cases filled
  · rcases Nat.lt_or_ge i offset with earlier | reached
    · exact around.before i started earlier
    · exact around.after i reached within
  · rcases around.opened with first | ⟨i, _, semicolon, rfl⟩
    · exact .inl first
    · exact .inr semicolon
  · rcases around.closed with ended | ⟨i, _, semicolon, rfl⟩
    · exact .inl ended
    · exact .inr semicolon

/-- From the start of a text on, only a blank text has a blank window. -/
theorem opened_of_blank (around : Surrounds source offset start stop) (filled : source.isBlank = false)
    (blank : (slice source start stop).isBlank = true) :
    0 < start ∧ start - 1 < offset ∧ source[start - 1]? = some (';' : CodePoint) := by
  rcases around.opened with rfl | ⟨i, earlier, semicolon, rfl⟩
  · rcases around.closed with rfl | ⟨i, _, semicolon, rfl⟩
    · rw [slice, List.drop_zero, Nat.sub_zero, List.take_length, filled] at blank
      cases blank
    · rw [slice_filled (Nat.zero_le i) (Nat.lt_succ_self i) semicolon (by decide)] at blank
      cases blank
  · exact ⟨Nat.succ_pos i, earlier, semicolon⟩

/-- The window of a semicolon ends with it. -/
theorem stop_eq (around : Surrounds source offset start stop)
    (semicolon : source[offset]? = some (';' : CodePoint)) : start ≤ offset ∧ stop = offset + 1 := by
  have within := (List.getElem?_eq_some_iff.1 semicolon).1
  have reached : stop ≤ offset + 1 := by
    by_contra beyond
    exact around.after offset (Nat.le_refl _) (Nat.not_le.1 beyond) semicolon
  constructor
  · rcases around.opened with first | ⟨i, earlier, _, rfl⟩ <;> omega
  · rcases around.closed with ended | ⟨i, past, _, rfl⟩ <;> omega

end Surrounds

/-- The piece that is chosen for an offset: the one around it, or where that is blank the one that the last
semicolon before the offset ends. -/
def Chosen (source : Text) (offset start stop : Nat) : Prop :=
  ∃ first last, Surrounds source offset first last ∧
    if (slice source first last).isBlank then
      stop = first ∧ 0 < first ∧ Surrounds source (first - 1) start first
    else start = first ∧ stop = last

/-- A filled window is the window of some offset. -/
theorem filledWindow_cases (source : Text) (offset : Nat) :
    (window source offset).content.isBlank = true ∧
        filledWindow source offset = window source ((window source offset).start - 1) ∨
      (window source offset).content.isBlank = false ∧ filledWindow source offset = window source offset := by
  rw [filledWindow]
  cases blank : (window source offset).content.isBlank with
  | true => exact .inl ⟨rfl, rfl⟩
  | false => exact .inr ⟨rfl, rfl⟩

theorem filledWindow_content (source : Text) (offset : Nat) : (filledWindow source offset).content =
    slice source (filledWindow source offset).start (filledWindow source offset).stop := by
  obtain ⟨_, same⟩ | ⟨_, same⟩ := filledWindow_cases source offset <;> rw [same] <;> exact window_content _ _

/-- A text that is not blank has a piece for every offset. -/
theorem filledWindow_chosen (filled : source.isBlank = false) (offset : Nat) :
    Chosen source offset (filledWindow source offset).start (filledWindow source offset).stop ∧
      Piece source (filledWindow source offset).start (filledWindow source offset).stop := by
  have around := window_surrounds source offset
  have content := window_content source offset
  obtain ⟨blank, same⟩ | ⟨inked, same⟩ := filledWindow_cases source offset
  · rw [content] at blank
    obtain ⟨positive, _, semicolon⟩ := around.opened_of_blank filled blank
    have before := window_surrounds source ((window source offset).start - 1)
    obtain ⟨started, ended⟩ := before.stop_eq semicolon
    rw [same]
    refine ⟨⟨_, _, around, ?_⟩, before.piece (slice_filled started (by omega) semicolon (by decide))⟩
    rw [if_pos blank]
    rw [ended, Nat.sub_add_cancel positive] at before ⊢
    exact ⟨rfl, positive, before⟩
  · rw [content] at inked
    rw [same]
    refine ⟨⟨_, _, around, ?_⟩, around.piece inked⟩
    rw [if_neg (Bool.eq_false_iff.1 inked)]
    exact ⟨rfl, rfl⟩

/-! ## Pieces that hold a statement -/

/-- From `start` to `stop` reaches a piece that holds the text from `b` up to `r`, as far as the text goes. -/
structure Holds (source : Text) (start stop b r : Nat) : Prop where
  starts : start ≤ b
  stops : min r source.length ≤ stop

/-- No semicolon stands between the offsets, or only one right before the second of them with which the text
ends. -/
def Uninterrupted (source : Text) (b r : Nat) : Prop :=
  ∀ i, b ≤ i → i < r → source[i]? = some (';' : CodePoint) →
    min r source.length ≤ i + 1 ∧ Text.isBlank (source.drop (i + 1)) = true

variable {b r first last : Nat} {c : CodePoint}

theorem Surrounds.holds_iff (around : Surrounds source r start stop)
    (filled : (slice source start stop).isBlank = false) :
    Holds source start stop b r ↔ Uninterrupted source b r := by
  constructor
  · rintro ⟨starts, _⟩ i reached earlier semicolon
    exact absurd semicolon (around.before i (by omega) earlier)
  · intro free
    constructor
    · rcases around.opened with zero | ⟨i, earlier, semicolon, rfl⟩
      · omega
      · by_contra beyond
        have rest := (free i (by omega) earlier semicolon).2
        rw [isBlank_slice_of_isBlank_drop rest] at filled
        cases filled
    · rcases around.closed with ended | ⟨i, reached, _, same⟩ <;> omega

/-- Where the piece around an offset is blank, the text is blank from there on. -/
theorem Surrounds.isBlank_drop (around : Surrounds source offset start stop)
    (blank : (slice source start stop).isBlank = true) : Text.isBlank (source.drop start) = true := by
  have started : start ≤ offset := by rcases around.opened with zero | ⟨i, _, _, same⟩ <;> omega
  rcases around.closed with rfl | ⟨i, reached, semicolon, rfl⟩
  · rwa [slice_length] at blank
  · rw [slice_filled (Nat.le_trans started reached) (Nat.lt_succ_self i) semicolon (by decide)] at blank
    cases blank

theorem lt_of_isBlank_drop {i : Nat} (blank : Text.isBlank (source.drop start) = true)
    (place : source[i]? = some c) (filled : c.isBlank = false) : i < start := by
  by_contra behind
  have within := (List.getElem?_eq_some_iff.1 place).1
  rw [← slice_length, slice_filled (Nat.le_of_not_lt behind) within place filled] at blank
  cases blank

theorem Surrounds.holds_before_iff (around : Surrounds source r first last)
    (blank : (slice source first last).isBlank = true) (before : Surrounds source (first - 1) start first)
    (begins : source[b]? = some c) (filled : c.isBlank = false)
    (semicolon : source[first - 1]? = some (';' : CodePoint)) (earlier : first - 1 < r) :
    Holds source start first b r ↔ Uninterrupted source b r := by
  have rest := around.isBlank_drop blank
  have begun := lt_of_isBlank_drop rest begins filled
  constructor
  · rintro ⟨starts, stops⟩ i reached _ other
    have ahead := lt_of_isBlank_drop rest other (by decide)
    have same : i + 1 = first := by
      by_contra differ
      exact before.before i (by omega) (by omega) other
    rw [same]
    exact ⟨stops, rest⟩
  · intro free
    have stops := (free (first - 1) (by omega) earlier semicolon).1
    refine ⟨?_, by omega⟩
    rcases before.opened with zero | ⟨i, ahead, other, same⟩
    · omega
    · by_contra beyond
      have late := lt_of_isBlank_drop (free i (by omega) (by omega) other).2 semicolon (by decide)
      omega

theorem isBlank_false_of_getElem? (place : source[b]? = some c) (filled : c.isBlank = false) :
    source.isBlank = false := by
  rw [← List.drop_zero (l := source), ← slice_length]
  exact slice_filled (Nat.zero_le b) (List.getElem?_eq_some_iff.1 place).1 place filled

/-- The piece that is chosen for an offset holds the text from a place on that is not blank, unless a
semicolon stands between the two. -/
theorem filledWindow_holds_iff (begins : source[b]? = some c) (filled : c.isBlank = false) (r : Nat) :
    Holds source (filledWindow source r).start (filledWindow source r).stop b r ↔
      Uninterrupted source b r := by
  have inked := isBlank_false_of_getElem? begins filled
  obtain ⟨⟨first, last, around, chosen⟩, _⟩ := filledWindow_chosen inked r
  split at chosen
  · next blank =>
    obtain ⟨stop, _, before⟩ := chosen
    obtain ⟨_, earlier, semicolon⟩ := around.opened_of_blank inked blank
    rw [stop]
    exact around.holds_before_iff blank before begins filled semicolon earlier
  · next inked =>
    obtain ⟨start, stop⟩ := chosen
    rw [start, stop]
    exact around.holds_iff (Bool.eq_false_iff.2 inked)

/-! ## Splitting a window -/

theorem Window.statement_eq {split : Splitter} {w : Window} (keeps : split.KeepsWhole w.content) (offset : Nat) :
    w.statement split offset = w.content := by
  cases known : split w.content with
  | none => simp [statement, Splitter.spans?, known]
  | some parts =>
    obtain rfl := keeps parts known
    simp only [statement, Splitter.spans?, known, Option.map_some, Option.getD_some, Span.series]
    split
    · next found =>
      rw [List.mem_singleton.1 (List.mem_of_find?_eq_some found)]
    · rfl

theorem fragmentBy?_eq_of_keepsWhole {split split' : Splitter}
    (keeps : split.KeepsWhole (filledWindow source offset).content)
    (keeps' : split'.KeepsWhole (filledWindow source offset).content) :
    fragmentBy? split source offset = fragmentBy? split' source offset := by
  rw [fragmentBy?, fragmentBy?, Window.statement_eq keeps, Window.statement_eq keeps']

theorem window_single (source : Text) (offset : Nat) :
    (';' : CodePoint) ∉ (window source offset).content.dropLast := by
  obtain ⟨_, head, tail, _, _, _, cut, _, free, _, single⟩ := exists_parts source offset
  rw [cut]
  intro member
  by_cases empty : tail = []
  · subst empty
    rw [List.append_nil] at member
    exact free (List.mem_of_mem_dropLast member)
  · rw [List.dropLast_append_of_ne_nil empty] at member
    exact (List.mem_append.1 member).elim free single

/-- Splitters that cut a text only behind its semicolons find the same fragments of it. -/
theorem fragmentBy?_eq_of_endsAtSemicolons {split split' : Splitter} (ends : split.EndsAtSemicolons)
    (ends' : split'.EndsAtSemicolons) (source : Text) (offset : Nat) :
    fragmentBy? split source offset = fragmentBy? split' source offset := by
  cases blank : source.isBlank with
  | true => simp [fragmentBy?, blank]
  | false =>
    have filled : (filledWindow source offset).content ≠ [] := by
      intro empty
      have inked := (filledWindow_chosen blank offset).2.filled
      rw [← filledWindow_content, empty] at inked
      cases inked
    have single : (';' : CodePoint) ∉ (filledWindow source offset).content.dropLast := by
      obtain ⟨_, same⟩ | ⟨_, same⟩ := filledWindow_cases source offset <;> rw [same] <;> exact window_single _ _
    exact fragmentBy?_eq_of_keepsWhole (ends.keepsWhole filled single) (ends'.keepsWhole filled single)

/-! ## What is shown of a piece -/

/-- A piece is shown without the blanks at its ends, and cut with a mark if that is still longer than two
hundred code points. -/
def Shows (piece shown : Text) : Prop :=
  ∃ core, piece.Trims core ∧
    (core.length ≤ 200 ∧ shown = core ∨ 200 < core.length ∧ shown = core.take 197 ++ text "...")

theorem shows_shorten (piece : Text) : Shows piece (shorten piece.trim) := by
  refine ⟨_, piece.trims_trim, ?_⟩
  rw [shorten]
  split
  · next long => exact .inr ⟨long, rfl⟩
  · next short => exact .inl ⟨Nat.le_of_not_lt short, rfl⟩

theorem Shows.ne_nil {piece shown : Text} (shows' : Shows piece shown) (filled : piece.isBlank = false) :
    shown ≠ [] := by
  obtain ⟨core, trims, ⟨_, rfl⟩ | ⟨_, rfl⟩⟩ := shows'
  · rw [ne_eq, trims.eq_nil_iff, filled]
    exact Bool.false_ne_true
  · exact List.append_ne_nil_of_right_ne_nil _ (by decide)

/-- What is shown for an offset of a text: nothing of a blank text, and else the chosen piece. A splitter that
does not cut that piece finds the same, and so does one that cuts only behind semicolons. -/
structure FindsFragment (source : Text) (offset : Nat) : Prop where
  absent : fragment? source offset = none ↔ source.isBlank = true
  found : source.isBlank = false → ∃ start stop shown, fragment? source offset = some shown ∧
    Piece source start stop ∧ Chosen source offset start stop ∧ Shows (slice source start stop) shown
  split : ∀ split : Splitter, split.KeepsWhole (filledWindow source offset).content ∨ split.EndsAtSemicolons →
    fragmentBy? split source offset = fragment? source offset

theorem fragment?_eq_some (filled : source.isBlank = false) (offset : Nat) :
    fragment? source offset = some (shorten (filledWindow source offset).content.trim) := by
  obtain ⟨_, piece⟩ := filledWindow_chosen filled offset
  have shown := (shows_shorten (filledWindow source offset).content).ne_nil
    (filledWindow_content source offset ▸ piece.filled)
  simp [fragment?, fragmentBy?, Window.statement_eq (Splitter.keepsWhole_whole _), filled, shown]

theorem findsFragment (source : Text) (offset : Nat) : FindsFragment source offset := by
  have same (split : Splitter) (keeps : split.KeepsWhole (filledWindow source offset).content ∨
      split.EndsAtSemicolons) : fragmentBy? split source offset = fragment? source offset := by
    rcases keeps with keeps | ends
    · exact fragmentBy?_eq_of_keepsWhole keeps (Splitter.keepsWhole_whole _)
    · exact fragmentBy?_eq_of_endsAtSemicolons ends Splitter.endsAtSemicolons_whole source offset
  cases blank : source.isBlank with
  | true =>
    exact ⟨by simp [fragment?, fragmentBy?, blank], fun filled => absurd (blank.symm.trans filled) (by decide),
      same⟩
  | false =>
    obtain ⟨chosen, piece⟩ := filledWindow_chosen blank offset
    have found := fragment?_eq_some blank offset
    refine ⟨by simp [found, blank], fun _ => ⟨_, _, _, found, piece, chosen, ?_⟩, same⟩
    rw [← filledWindow_content]
    exact shows_shorten _

end Source

end Schemata
