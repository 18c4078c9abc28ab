import Schemata.Text.WordRanges
import Schemata.Text.Basic

/-! # Words

A word is a run of letters, digits and underscores. Combining marks are not part of a word.
-/

namespace Schemata

namespace CodePoint

def isAsciiDigit (c : CodePoint) : Bool := '0'.toNat ≤ c.val && c.val ≤ '9'.toNat

def isAsciiUpper (c : CodePoint) : Bool := 'A'.toNat ≤ c.val && c.val ≤ 'Z'.toNat

def isAsciiLower (c : CodePoint) : Bool := 'a'.toNat ≤ c.val && c.val ≤ 'z'.toNat

/-- A letter, a digit or an underscore. -/
def isWord (c : CodePoint) : Bool :=
  if c.val < 0x80 then c.isAsciiDigit || c.isAsciiUpper || c.isAsciiLower || c = '_'
  else c.within wordRanges

end CodePoint

namespace Text

/-- The longest run of word characters at the start. -/
def word (t : Text) : Text := t.takeWhile CodePoint.isWord

def startsInWord : Text → Bool
  | [] => false
  | c :: _ => c.isWord

def endsInWord (t : Text) : Bool := startsInWord t.reverse

theorem word_eq_nil_iff {t : Text} : t.word = [] ↔ t.startsInWord = false := by
  cases t with
  | nil => simp [word, startsInWord]
  | cons c rest => cases h : c.isWord <;> simp [word, startsInWord, h]

theorem isWord_of_mem_word {t : Text} {c : CodePoint} (member : c ∈ t.word) : c.isWord = true :=
  List.all_eq_true.1 List.all_takeWhile c member

end Text

end Schemata
