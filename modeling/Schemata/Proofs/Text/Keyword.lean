import Schemata.Reader.Token
import Schemata.Text.Blank

/-! # Keywords in a text

A keyword consists of ASCII word characters. Outside ASCII only word characters have an upper-case form
with an ASCII word character in it, so a chunk whose upper-case form is a keyword is part of a word.
Hence a keyword stands at the start of a text exactly if the longest word there has its upper-case form
and its length; at the very end of a text that word may also be shorter.
-/

namespace Schemata

namespace CodePoint

/-- A letter, a digit or an underscore of ASCII. -/
def isAsciiWord (c : CodePoint) : Bool := c.val < 0x80 && c.isWord

private theorem expansions_of_words : ∀ entry ∈ uppercaseExpansions,
    entry.2.all (0x80 ≤ ·) = true ∨ (ofNat? entry.1).all isWord = true := by
  decide +kernel

private theorem runs_of_words : ∀ run ∈ uppercaseRuns,
    0x80 ≤ run.target ∨ (run.first = run.last ∧ (ofNat? run.first).all isWord = true) := by
  decide +kernel

private theorem expansions_filled : ∀ entry ∈ uppercaseExpansions,
    entry.2 ≠ [] ∧ entry.2.all (· < 0x110000) = true := by
  decide +kernel

private theorem runs_bounded : ∀ run ∈ uppercaseRuns,
    run.target + (run.last - run.first) < 0x110000 := by
  decide +kernel

private theorem ofNat?_val (c : CodePoint) : ofNat? c.val = some c := ofNat?_eq_some_iff.2 rfl

private theorem mem_of_lookup {n : Nat} {form : List Nat} {table : List (Nat × List Nat)}
    (found : table.lookup n = some form) : (n, form) ∈ table := by
  induction table with
  | nil => simp at found
  | cons entry table ih =>
    rw [List.lookup_cons] at found
    split at found
    · next same =>
      cases found
      rw [beq_iff_eq.1 same]
      exact List.mem_cons_self
    · exact List.mem_cons_of_mem _ (ih found)

/-- A number of an upper-case form is the number itself or stands in one of the tables. -/
private theorem upperNumbers_cases {n m : Nat} (member : m ∈ upperNumbers n) :
    m = n ∨ (∃ entry ∈ uppercaseExpansions, entry.1 = n ∧ m ∈ entry.2) ∨
      ∃ run ∈ uppercaseRuns, run.upper? n = some m := by
  unfold upperNumbers at member
  split at member
  · next form found => exact .inr (.inl ⟨_, mem_of_lookup found, rfl, member⟩)
  · rw [List.mem_singleton] at member
    cases found : uppercaseRuns.findSome? (·.upper? n) with
    | none => exact .inl (by simpa [found] using member)
    | some target =>
      obtain ⟨run, present, image⟩ := List.exists_of_findSome?_eq_some found
      have same : m = target := by simpa [found] using member
      exact .inr (.inr ⟨run, present, same ▸ image⟩)

private theorem upper?_eq_some {run : CaseRun} {n m : Nat} (image : run.upper? n = some m) :
    run.first ≤ n ∧ n ≤ run.last ∧ m = run.target + (n - run.first) := by
  unfold CaseRun.upper? at image
  simp only [Option.ite_none_right_eq_some, Bool.and_eq_true, decide_eq_true_eq,
    Option.some.injEq] at image
  exact ⟨image.1.1.1, image.1.1.2, image.2.symm⟩

private theorem isAsciiWord_ascii_upper {c d : CodePoint} (low : c.val < 0x80) (member : d ∈ c.upper)
    (word : d.isAsciiWord = true) : c.isWord = true := by
  rw [upper, if_pos low] at member
  split at member
  · next lower => simp [isWord, low, lower]
  · rw [List.mem_singleton] at member
    rw [← member]
    exact (Bool.and_eq_true_iff.1 word).2

/-- A code point whose upper-case form holds an ASCII word character is a word character. -/
theorem isWord_of_mem_upper {c d : CodePoint} (member : d ∈ c.upper) (word : d.isAsciiWord = true) :
    c.isWord = true := by
  by_cases low : c.val < 0x80
  · exact isAsciiWord_ascii_upper low member word
  rw [upper, if_neg low, List.mem_filterMap] at member
  obtain ⟨m, member, image⟩ := member
  have same := ofNat?_eq_some_iff.1 image
  have small : m < 0x80 := by
    rw [isAsciiWord, Bool.and_eq_true, decide_eq_true_eq, same] at word
    exact word.1
  rcases upperNumbers_cases member with equal | ⟨entry, present, here, member⟩ | ⟨run, present, mapped⟩
  · omega
  · rcases expansions_of_words entry present with beyond | isWord
    · have := List.all_eq_true.1 beyond m member
      rw [decide_eq_true_eq] at this
      omega
    · simpa [here, ofNat?_val] using isWord
  · obtain ⟨from_, upTo, target⟩ := upper?_eq_some mapped
    rcases runs_of_words run present with beyond | ⟨single, isWord⟩
    · omega
    · have here : run.first = c.val := by omega
      simpa [here, ofNat?_val] using isWord

theorem upper_ne_nil (c : CodePoint) : c.upper ≠ [] := by
  unfold upper
  split
  · next low =>
    split
    · intro empty
      have missing := Option.toList_eq_nil_iff.1 empty
      have := ofNat?_eq_none_iff.1 missing
      omega
    · exact List.cons_ne_nil _ _
  · have filled : ∃ m ∈ upperNumbers c.val, m < 0x110000 := by
      unfold upperNumbers
      split
      · next form found =>
        have facts := expansions_filled _ (mem_of_lookup found)
        obtain ⟨m, member⟩ := List.exists_mem_of_ne_nil _ facts.1
        exact ⟨m, member, by simpa using List.all_eq_true.1 facts.2 m member⟩
      · cases found : uppercaseRuns.findSome? (·.upper? c.val) with
        | none => exact ⟨c.val, by simp, c.val_lt⟩
        | some target =>
          obtain ⟨run, present, image⟩ := List.exists_of_findSome?_eq_some found
          obtain ⟨_, _, rfl⟩ := upper?_eq_some image
          have := runs_bounded run present
          exact ⟨_, List.mem_singleton.2 rfl, by simp only [Option.getD_some]; omega⟩
    obtain ⟨m, member, bound⟩ := filled
    intro empty
    have absent := List.filterMap_eq_nil_iff.1 empty m member
    have := ofNat?_eq_none_iff.1 absent
    omega

private theorem ranges_disjoint : ∀ blank ∈ blankRanges, ∀ word ∈ wordRanges,
    blank.2 < word.1 ∨ word.2 < blank.1 := by
  decide +kernel

/-- A word character is neither blank nor a slash. -/
theorem not_layout_of_isWord {c : CodePoint} (word : c.isWord = true) :
    c.isBlank = false ∧ c ≠ CodePoint.ofChar '/' := by
  constructor
  · rw [Bool.eq_false_iff]
    intro blank
    obtain ⟨gap, member, lower, upper⟩ := within_iff.1 blank
    by_cases low : c.val < 0x80
    · simp only [isWord, low, if_true, isAsciiDigit, isAsciiUpper, isAsciiLower, Bool.or_eq_true,
        Bool.and_eq_true, decide_eq_true_eq] at word
      have small : ∀ range ∈ blankRanges, range.2 ≤ 0x20 ∨ 0x80 ≤ range.1 := by decide
      have bound := small gap member
      have value : 0x30 ≤ c.val := by
        rcases word with ((digit | capital) | letter) | rfl
        · exact digit.1
        · exact Nat.le_trans (by decide) capital.1
        · exact Nat.le_trans (by decide) letter.1
        · decide
      omega
    · rw [isWord, if_neg low] at word
      obtain ⟨range, present, first, last⟩ := within_iff.1 word
      have := ranges_disjoint gap member range present
      omega
  · rintro rfl
    exact absurd word (by decide)

theorem isWord_of_isAsciiWord {c : CodePoint} (word : c.isAsciiWord = true) : c.isWord = true :=
  (Bool.and_eq_true_iff.1 word).2

/-- ASCII word characters have ASCII word characters as upper-case forms. -/
theorem upper_of_isAsciiWord {c : CodePoint} (word : c.isAsciiWord = true) :
    ∃ d, c.upper = [d] ∧ d.isAsciiWord = true := by
  have low : c.val < 0x80 := by simpa using (Bool.and_eq_true_iff.1 word).1
  rw [upper, if_pos low]
  split
  · next lower =>
    simp only [isAsciiLower, Bool.and_eq_true, decide_eq_true_eq] at lower
    change 97 ≤ c.val ∧ c.val ≤ 122 at lower
    cases found : ofNat? (c.val - 0x20) with
    | none =>
      have := ofNat?_eq_none_iff.1 found
      omega
    | some d =>
      have value := ofNat?_eq_some_iff.1 found
      have capital : d.isAsciiUpper = true := by
        simp only [isAsciiUpper, Bool.and_eq_true, decide_eq_true_eq]
        change 65 ≤ d.val ∧ d.val ≤ 90
        omega
      refine ⟨d, rfl, ?_⟩
      simp only [isAsciiWord, isWord, capital, Bool.and_eq_true, decide_eq_true_eq]
      rw [if_pos (by omega)]
      exact ⟨by omega, by simp⟩
  · exact ⟨c, rfl, word⟩

end CodePoint

namespace Text

/-- A keyword: one or more ASCII word characters. -/
def isKeyword (t : Text) : Bool := !t.isEmpty && t.all CodePoint.isAsciiWord

theorem isAsciiWord_of_mem {keyword : Text} {c : CodePoint} (proper : keyword.isKeyword = true)
    (member : c ∈ keyword) : c.isAsciiWord = true :=
  List.all_eq_true.1 (Bool.and_eq_true_iff.1 proper).2 c member

theorem isKeyword_ne_nil {keyword : Text} (proper : keyword.isKeyword = true) : keyword ≠ [] := by
  rintro rfl
  simp [isKeyword] at proper

theorem endsInWord_of_isKeyword {keyword : Text} (proper : keyword.isKeyword = true) :
    keyword.endsInWord = true := by
  have filled : keyword.reverse ≠ [] := by simpa using isKeyword_ne_nil proper
  obtain ⟨c, front, reversed⟩ := List.exists_cons_of_ne_nil filled
  rw [endsInWord, reversed, startsInWord]
  apply CodePoint.isWord_of_isAsciiWord
  apply isAsciiWord_of_mem proper
  rw [← List.mem_reverse, reversed]
  exact List.mem_cons_self

/-- The upper-case form of a keyword has its length and consists of ASCII word characters. -/
theorem upper_isKeyword {keyword : Text} (proper : ∀ c ∈ keyword, c.isAsciiWord = true) :
    (Text.upper keyword).length = keyword.length ∧
      ∀ d ∈ Text.upper keyword, d.isAsciiWord = true := by
  induction keyword with
  | nil => simp [Text.upper]
  | cons c rest ih =>
    obtain ⟨d, form, word⟩ := CodePoint.upper_of_isAsciiWord (proper c List.mem_cons_self)
    obtain ⟨length, words⟩ := ih fun e member => proper e (List.mem_cons_of_mem _ member)
    have split : Text.upper (c :: rest) = d :: Text.upper rest := by
      rw [Text.upper, List.flatMap_cons, form]
      rfl
    rw [split]
    refine ⟨by simp [length], ?_⟩
    intro e member
    rcases List.mem_cons.1 member with rfl | member
    · exact word
    · exact words e member

/-- A text with the upper-case form of a keyword is part of a word. -/
theorem isWord_of_upper_eq {keyword chunk : Text} {c : CodePoint} (proper : keyword.isKeyword = true)
    (same : Text.upper chunk = Text.upper keyword) (member : c ∈ chunk) : c.isWord = true := by
  obtain ⟨d, present⟩ := List.exists_mem_of_ne_nil _ c.upper_ne_nil
  have within : d ∈ Text.upper chunk := List.mem_flatMap.2 ⟨c, member, present⟩
  rw [same] at within
  have words := (upper_isKeyword fun e => isAsciiWord_of_mem proper).2
  exact CodePoint.isWord_of_mem_upper present (words d within)

theorem upper_ne_nil_of_isKeyword {keyword : Text} (proper : keyword.isKeyword = true) :
    Text.upper keyword ≠ [] := by
  intro empty
  have length := (upper_isKeyword fun e => isAsciiWord_of_mem proper).1
  rw [empty] at length
  exact isKeyword_ne_nil proper (List.length_eq_zero_iff.1 length.symm)

end Text

/-! ## Upper-case forms of several letters -/

namespace CodePoint

/-- The upper-case form is longer than the code point itself. -/
def expands (c : CodePoint) : Bool := 1 < c.upper.length

end CodePoint

/-- The pairs of ASCII letters that stand side by side in the upper-case form of one code point:
`FF`, `FI`, `FL`, `SS` and `ST`. -/
def ligaturePairs : List (Nat × Nat) :=
  [(0x46, 0x46), (0x46, 0x49), (0x46, 0x4C), (0x53, 0x53), (0x53, 0x54)]

namespace Text

/-- How many pairs of neighbours in a text may stem from one code point. -/
def ligatures : Text → Nat
  | [] => 0
  | [_] => 0
  | c :: d :: rest => (if (c.val, d.val) ∈ ligaturePairs then 1 else 0) + ligatures (d :: rest)

theorem ligatures_append (t u : Text) : ligatures t + ligatures u ≤ ligatures (t ++ u) := by
  fun_induction ligatures t with
  | case1 => simp
  | case2 c =>
    cases u with
    | nil => simp [ligatures]
    | cons d rest =>
      simp only [List.cons_append, List.nil_append, ligatures]
      omega
  | case3 c d rest ih =>
    simp only [List.cons_append, ligatures] at ih ⊢
    omega

end Text

private theorem expansions_of_ligatures : ∀ entry ∈ uppercaseExpansions,
    (entry.2.filterMap CodePoint.ofNat?).all CodePoint.isAsciiWord = false ∨
      (entry.2.filterMap CodePoint.ofNat?).length ≤
        1 + Text.ligatures (entry.2.filterMap CodePoint.ofNat?) := by
  decide +kernel

/-- Each letter after the first one of an upper-case form makes a pair with the letter before it. -/
theorem CodePoint.length_upper_le {c : CodePoint} (words : ∀ d ∈ c.upper, d.isAsciiWord = true) :
    c.upper.length ≤ 1 + Text.ligatures c.upper := by
  by_cases low : c.val < 0x80
  · rw [upper, if_pos low]
    split
    · cases ofNat? (c.val - 0x20) <;> simp
    · simp
  · rw [upper, if_neg low] at words ⊢
    unfold upperNumbers at words ⊢
    split
    · next form found =>
      simp only [found] at words
      rcases expansions_of_ligatures _ (mem_of_lookup found) with other | short
      · rw [List.all_eq_true.2 words] at other
        contradiction
      · exact short
    · have := List.length_filterMap_le ofNat? [(uppercaseRuns.findSome? (·.upper? c.val)).getD c.val]
      rw [List.length_singleton] at this
      omega

namespace Text

theorem length_upper_le {t : Text} (words : ∀ d ∈ Text.upper t, d.isAsciiWord = true) :
    (Text.upper t).length ≤ t.length + ligatures (Text.upper t) := by
  induction t with
  | nil => simp [Text.upper]
  | cons c rest ih =>
    have split : Text.upper (c :: rest) = c.upper ++ Text.upper rest := by
      rw [Text.upper, List.flatMap_cons]
      rfl
    rw [split] at words ⊢
    have first := CodePoint.length_upper_le fun d member => words d (List.mem_append_left _ member)
    have later := ih fun d member => words d (List.mem_append_right _ member)
    have joined := ligatures_append c.upper (Text.upper rest)
    rw [List.length_append, List.length_cons]
    omega

/-- A text that is shorter than its upper-case form has a code point that is. -/
theorem exists_expands {t : Text} (longer : t.length < (Text.upper t).length) :
    ∃ c ∈ t, c.expands = true := by
  induction t with
  | nil => simp [Text.upper] at longer
  | cons c rest ih =>
    rw [Text.upper, List.flatMap_cons, List.length_append, List.length_cons] at longer
    by_cases here : c.expands = true
    · exact ⟨c, List.mem_cons_self, here⟩
    · rw [CodePoint.expands, decide_eq_true_eq] at here
      obtain ⟨d, member, expands⟩ := ih (by rw [Text.upper]; omega)
      exact ⟨d, List.mem_cons_of_mem _ member, expands⟩

end Text

namespace Reader

/-- A keyword that stands in too short a text stands for code points with longer upper-case forms. -/
theorem length_le_of_stands {keyword t : Text} (proper : keyword.isKeyword = true)
    (standing : stands keyword true t = true) : keyword.length ≤ t.length ∨
      (keyword.length ≤ t.length + Text.ligatures (Text.upper keyword) ∧ ∃ c ∈ t, c.expands = true) := by
  rcases Nat.lt_or_ge t.length keyword.length with short | long
  · right
    simp only [stands, if_true, Bool.and_eq_true, decide_eq_true_eq] at standing
    have same := standing.1
    rw [List.take_of_length_le (by omega)] at same
    obtain ⟨length, words⟩ := Text.upper_isKeyword fun e => Text.isAsciiWord_of_mem proper
    rw [← same] at words length
    have bound := Text.length_upper_le words
    rw [same] at bound length
    exact ⟨by omega, Text.exists_expands (by rw [same]; omega)⟩
  · exact .inl long

/-- Before a longest word `w`, a keyword stands exactly if `w` has its upper-case form and its length;
at the end of the text `w` may be shorter. -/
theorem stands_keyword_iff {keyword w u : Text} (proper : keyword.isKeyword = true)
    (words : ∀ c ∈ w, c.isWord = true) (ended : u.startsInWord = false) :
    stands keyword true (w ++ u) = true ↔
      Text.upper w = Text.upper keyword ∧
        (w.length = keyword.length ∨ (w.length < keyword.length ∧ u = [])) := by
  have boundary := Text.endsInWord_of_isKeyword proper
  simp only [stands, if_true, boundary, Bool.true_and, Bool.and_eq_true, decide_eq_true_eq,
    Bool.not_eq_true']
  rcases Nat.lt_trichotomy w.length keyword.length with shorter | equal | longer
  · constructor
    · rintro ⟨same, _⟩
      rw [List.take_append, List.take_of_length_le (by omega)] at same
      -- what follows the word cannot belong to a keyword
      have finished : u = [] := by
        cases u with
        | nil => rfl
        | cons c rest =>
          have member : c ∈ w ++ (c :: rest).take (keyword.length - w.length) := by
            obtain ⟨k, more⟩ : ∃ k, keyword.length - w.length = k + 1 :=
              ⟨keyword.length - w.length - 1, by omega⟩
            rw [more]
            simp
          have word := Text.isWord_of_upper_eq proper same member
          rw [Text.startsInWord] at ended
          rw [word] at ended
          contradiction
      subst finished
      exact ⟨by simpa using same, .inr ⟨shorter, rfl⟩⟩
    · rintro ⟨same, equal | ⟨_, rfl⟩⟩
      · omega
      · rw [List.append_nil, List.take_of_length_le (by omega), List.drop_of_length_le (by omega)]
        exact ⟨same, rfl⟩
  · rw [← equal, List.take_left, List.drop_left]
    simp [ended]
  · constructor
    · rintro ⟨_, closed⟩
      obtain ⟨c, rest, split⟩ : ∃ c rest, w.drop keyword.length = c :: rest :=
        List.exists_cons_of_ne_nil (by simpa using longer)
      rw [List.drop_append_of_le_length (by omega), split] at closed
      have member : c ∈ w := List.mem_of_mem_drop (split ▸ List.mem_cons_self)
      have word := words c member
      rw [List.cons_append, Text.startsInWord, word] at closed
      contradiction
    · rintro ⟨_, equal | ⟨shorter, _⟩⟩ <;> omega

/-- No keyword stands where no word starts. -/
theorem not_stands_of_not_startsInWord {keyword t : Text} (proper : keyword.isKeyword = true)
    (ended : t.startsInWord = false) : stands keyword true t = false := by
  rw [Bool.eq_false_iff]
  intro standing
  have facts := (stands_keyword_iff (w := []) proper (by simp) ended).1 standing
  exact Text.upper_ne_nil_of_isKeyword proper facts.1.symm

end Reader

end Schemata
