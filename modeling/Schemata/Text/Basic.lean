/-! # Texts as lists of code points

Every text of the library is a list of code points, so that offsets, lengths and columns count
code points. A numeric escape in a schema may name a surrogate, which `Char` cannot hold; a
`CodePoint` therefore ranges over all of `0 … 0x10FFFF`. Only `Text.toString`, used at the very
edge, replaces surrogates.
-/

namespace Schemata

/-- A code point, surrogates included. -/
structure CodePoint where
  val : Nat
  val_lt : val < 0x110000
deriving DecidableEq, Repr

namespace CodePoint

theorem ext {c d : CodePoint} (same : c.val = d.val) : c = d := by
  cases c; cases d; simp_all

theorem toNat_lt (c : Char) : c.toNat < 0x110000 := by
  rcases c.valid with below | ⟨_, above⟩
  · exact Nat.lt_trans below (by decide)
  · exact above

def ofChar (c : Char) : CodePoint := ⟨c.toNat, toNat_lt c⟩

instance : Coe Char CodePoint := ⟨ofChar⟩

/-- The code point of a number, if there is one. -/
def ofNat? (n : Nat) : Option CodePoint :=
  if h : n < 0x110000 then some ⟨n, h⟩ else none

theorem ofNat?_eq_some_iff {n : Nat} {c : CodePoint} : ofNat? n = some c ↔ c.val = n := by
  unfold ofNat?
  split
  · rw [Option.some.injEq]
    exact ⟨fun same => same ▸ rfl, fun same => ext same.symm⟩
  · next outside =>
    have := c.val_lt
    simp only [reduceCtorEq, false_iff]
    omega

theorem ofNat?_eq_none_iff {n : Nat} : ofNat? n = none ↔ 0x110000 ≤ n := by
  unfold ofNat?
  split <;> simp_all

def isSurrogate (c : CodePoint) : Bool := 0xD800 ≤ c.val && c.val ≤ 0xDFFF

/-- The character shown for a code point: a surrogate is shown as U+FFFD. -/
def toChar (c : CodePoint) : Char :=
  if c.isSurrogate then '\uFFFD' else Char.ofNat c.val

/-- Membership in a table of closed ranges. -/
def within (table : List (Nat × Nat)) (c : CodePoint) : Bool :=
  table.any fun range => range.1 ≤ c.val && c.val ≤ range.2

theorem within_iff {table : List (Nat × Nat)} {c : CodePoint} :
    c.within table = true ↔ ∃ range ∈ table, range.1 ≤ c.val ∧ c.val ≤ range.2 := by
  simp [within]

end CodePoint

abbrev Text := List CodePoint

/-- A literal text. -/
def text (s : String) : Text := s.toList.map CodePoint.ofChar

instance : Coe String Text := ⟨text⟩

namespace Text

/-- A text for display, each surrogate replaced by U+FFFD. -/
def toString (t : Text) : String := String.ofList (t.map CodePoint.toChar)

/-- Decimal digits, without leading zeros. -/
def ofNat (n : Nat) : Text := (Nat.toDigits 10 n).map CodePoint.ofChar

def ofInt : Int → Text
  | .ofNat n => ofNat n
  | .negSucc n => text "-" ++ ofNat (n + 1)

def join (separator : Text) (parts : List Text) : Text := separator.intercalate parts

/-- Replaces each occurrence of one code point. -/
def replace (target : CodePoint) (replacement : Text) (t : Text) : Text :=
  t.flatMap fun c => if c = target then replacement else [c]

def spaces (n : Nat) : Text := List.replicate n (CodePoint.ofChar ' ')

/-- The part before the first occurrence of `c`. -/
def before (c : CodePoint) (t : Text) : Text := t.takeWhile (· ≠ c)

/-- The part after the last occurrence of `c`; all of it if there is none. -/
def afterLast (c : CodePoint) (t : Text) : Text := (t.reverse.takeWhile (· ≠ c)).reverse

/-- Drops the code points satisfying `p` from the end. -/
def dropRight (p : CodePoint → Bool) (t : Text) : Text := (t.reverse.dropWhile p).reverse

theorem not_mem_before (c : CodePoint) (t : Text) : c ∉ t.before c := by
  intro member
  simpa using List.all_eq_true.1 (List.all_takeWhile (p := (· ≠ c))) c member

/-- A text with a `c` in it is split by the first one. -/
theorem eq_before_append {c : CodePoint} {t : Text} (shorter : (t.before c).length < t.length) :
    ∃ rest, t = t.before c ++ c :: rest := by
  induction t with
  | nil => simp at shorter
  | cons d tail ih =>
    by_cases same : d = c
    · exact ⟨tail, by simp [before, same]⟩
    · simp only [before, ne_eq, same, not_false_eq_true, decide_true, List.takeWhile_cons_of_pos,
        List.length_cons, Nat.add_lt_add_iff_right] at shorter
      obtain ⟨rest, split⟩ := ih shorter
      refine ⟨rest, ?_⟩
      simp only [before, ne_eq, same, not_false_eq_true, decide_true, List.takeWhile_cons_of_pos,
        List.cons_append, List.cons.injEq, true_and]
      exact split

theorem before_append_cons {c : CodePoint} {t rest : Text} (absent : c ∉ t) :
    before c (t ++ c :: rest) = t := by
  have other : ∀ d ∈ t, decide (d ≠ c) = true := fun d member => by
    rw [decide_eq_true_eq]
    rintro rfl
    exact absent member
  rw [before, List.takeWhile_append_of_pos other]
  simp

theorem length_afterLast_le (c : CodePoint) (t : Text) : (t.afterLast c).length ≤ t.length := by
  rw [afterLast, List.length_reverse]
  exact Nat.le_trans (List.takeWhile_prefix _).length_le (Nat.le_of_eq List.length_reverse)

theorem not_mem_afterLast (c : CodePoint) (t : Text) : c ∉ t.afterLast c := by
  rw [afterLast, List.mem_reverse]
  exact not_mem_before c t.reverse

end Text

end Schemata
