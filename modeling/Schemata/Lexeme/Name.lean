import Schemata.Text.Word

/-! # Names in double quotes

A quoted name is any non-empty text without a double quote, between two double quotes. It knows no
escapes and may hold line ends.
-/

namespace Schemata.QuotedName

/-- The name at the start of the text, without its quotes. -/
def read? : Text → Option Text
  | [] => none
  | c :: rest =>
    let name := Text.before '"' rest
    if c = '"' ∧ name ≠ [] ∧ name.length < rest.length then some name else none

theorem read?_eq_some_iff {t name : Text} :
    read? t = some name ↔
      name ≠ [] ∧ CodePoint.ofChar '"' ∉ name ∧
        ∃ rest, t = CodePoint.ofChar '"' :: (name ++ CodePoint.ofChar '"' :: rest) := by
  constructor
  · intro success
    cases t with
    | nil => simp [read?] at success
    | cons c rest =>
      simp only [read?, Option.ite_none_right_eq_some, Option.some.injEq] at success
      obtain ⟨⟨rfl, filled, closed⟩, rfl⟩ := success
      obtain ⟨tail, split⟩ := Text.eq_before_append closed
      exact ⟨filled, Text.not_mem_before _ rest, tail, congrArg _ split⟩
  · rintro ⟨filled, unquoted, rest, rfl⟩
    simp [read?, Text.before_append_cons unquoted, filled]

end Schemata.QuotedName
